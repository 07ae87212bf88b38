import ApplianceConfig.Proofs.Appliance.VersionOrder
import ApplianceConfig.Proofs.Operations.ClosedGates

/-!
# Newer firmware keeps a gate open

An appliance is permitted a resource if nothing of what the resource requires is missed. A newer
firmware with more modules misses nothing that an older one does not miss, because the order of
versions is transitive (`Facts.Permits.mono`). A gate opens exactly for what is permitted: one that
was open for an appliance is open for every one that is newer and has more modules
(`Operations.permits_of_gate`, `Operations.gate_of_permits`).
-/

set_option autoImplicit false

namespace ApplianceConfig

open Call

/-! ## What is permitted -/

namespace Facts

variable {facts : Facts} {definition : ResourceDefinition}

/-- Whether an appliance, by what is known of it, can serve a resource. -/
def Permits (facts : Facts) (definition : ResourceDefinition) : Prop :=
  facts.unmet? definition.minimumVersion definition.requiredModules = .ok none

/-- What is permitted has a minimum version that can be read, if it has one. -/
theorem Permits.legible (permits : facts.Permits definition) : definition.Legible := by
  intro text required
  rw [Permits, required, unmet?] at permits
  cases parsed : Version.parse text with
  | ok minimum => exact ⟨minimum, rfl⟩
  | error fault =>
      rw [parsed] at permits
      cases permits

/-- **A resource is permitted if its requirements can be checked and none is missed.** -/
theorem permits_iff :
    facts.Permits definition ↔ definition.Legible ∧ ¬ facts.Misses definition := by
  constructor
  · exact fun permits => ⟨permits.legible, fun misses => misses.unmet_ne permits⟩
  · rintro ⟨legible, nothing⟩
    obtain ⟨warning, known⟩ : ∃ warning, facts.unmet? definition.minimumVersion
        definition.requiredModules = .ok warning := exists_unmet legible
    cases warning with
    | none => exact known
    | some warning => exact absurd ((warning_isSome_iff known).mp rfl) nothing

section Newer

variable {version later : Version} {first second : List String}
  (newer : version.order later ≠ .gt) (more : first ⊆ second)
include newer more

/-- What a newer firmware with more modules misses, an older one with fewer misses too. -/
theorem Misses.of_newer (misses : Misses ⟨some later, second⟩ definition) :
    Misses ⟨some version, first⟩ definition := by
  cases misses with
  | version required readable running older =>
      cases running
      exact .version required readable rfl
        (Std.TransCmp.lt_of_isLE_of_lt (Ordering.isLE_iff_ne_gt.mpr newer) older)
  | module required absent => exact .module required fun present => absent (more present)

/-- **What is permitted stays permitted** with newer firmware and more modules. -/
theorem Permits.mono (permits : Permits ⟨some version, first⟩ definition) :
    Permits ⟨some later, second⟩ definition := by
  obtain ⟨legible, nothing⟩ := permits_iff.mp permits
  exact permits_iff.mpr ⟨legible, fun misses => nothing (misses.of_newer newer more)⟩

end Newer

end Facts

/-! ## Open gates -/

namespace Operations

variable {facts : Side → Facts} {client : Client} {definition : ResourceDefinition}
  {events : List Event} (told : ∀ event ∈ events, event.Tells facts)
include told

/-- A gate that was open permits the resource. -/
theorem permits_of_gate (opened : Runs (gate client definition) events (.ok none)) :
    (facts client.side).Permits definition := by
  have meets : Meets (· ∈ events) Effect.ConcernsFacts False _ (gate client definition) :=
    meets_gate told False.elim False.elim
  obtain ⟨warning, known, same⟩ := (meets events _ opened fun _ => id).result none rfl
  cases warning with
  | none => exact known
  | some warning => cases same

/-- A gate opens for what is permitted, if the facts can be read. -/
theorem gate_of_permits (arrive : ∀ event ∈ events, event.FactsArrive)
    (permits : (facts client.side).Permits definition) {outcome : Except Fault (Option Response)}
    (run : Runs (gate client definition) events outcome) : outcome = .ok none := by
  have meets : Meets (· ∈ events) Effect.ConcernsFacts True (· = none) (gate client definition) :=
    meets_gate_of_open told (fun _ => arrive) permits
  obtain ⟨-, result, ends⟩ := meets events outcome run fun _ => id
  obtain ⟨response, rfl⟩ := ends trivial
  rw [result response rfl]

omit told in
/-- The facts that are remembered are enough for a gate. -/
theorem runs_gate_of_recalled {known : Facts}
    (required : definition.requiredModules ≠ []) (permits : known.Permits definition) :
    Runs (gate client definition) [⟨.recallFacts client.side, some known⟩] (.ok none) := by
  have recalled : Runs client.facts [⟨.recallFacts client.side, some known⟩] (.ok known) :=
    runs_bind_ok_iff.mpr ⟨some known, [⟨.recallFacts client.side, some known⟩], [], rfl,
      runs_perform_iff.mpr ⟨some known, rfl, rfl⟩, runs_pure_iff.mpr ⟨rfl, rfl⟩⟩
  have checked : Runs (client.checkRequirements definition.minimumVersion
      definition.requiredModules) [⟨.recallFacts client.side, some known⟩] (.ok none) := by
    rw [Client.checkRequirements, if_neg (by simp [required])]
    exact runs_bind_ok_iff.mpr ⟨known, _, [], rfl, recalled,
      runs_ofExcept_iff.mpr ⟨rfl, permits.symm⟩⟩
  exact runs_bind_ok_iff.mpr ⟨none, _, [], rfl, checked, runs_pure_iff.mpr ⟨rfl, rfl⟩⟩

end Operations

/-! ## The main result -/

/-- **Versions are read and ordered consistently.** Numbers joined by dots are read back, whatever
suffix follows them, and a version that was read is read again from its text. The order is a total
preorder of all versions. Two versions are equal in it exactly if their numbers agree up to the
zeros at the end; otherwise the first place where the numbers differ decides, and the lists of
numbers have the same order. So what is permitted with some firmware and modules is permitted with
firmware that is not older and with those modules and more, and a gate that opened for the one opens
for the other. -/
theorem Version.consistently_ordered :
    -- Reading
    (∀ (parts : List UInt64) (suffix : String), parts ≠ [] →
      (∀ c ∈ suffix.toList.head?, c.isDigit = false ∧ c ≠ '.') →
        ∃ version, parse (String.intercalate "." (parts.map toString) ++ suffix) = .ok version ∧
          version.parts = parts.map UInt64.toNat) ∧
    (∀ text version, parse text = .ok version → parse version.text = .ok version) ∧
    -- Order
    (∀ left right : Version, right.order left = (left.order right).swap) ∧
    (∀ left right : Version, left.order right ≠ .gt ∨ right.order left ≠ .gt) ∧
    (∀ first second third : Version, first.order second ≠ .gt → second.order third ≠ .gt →
      first.order third ≠ .gt) ∧
    (∀ left right : Version, left.order right = .eq ↔
      left.parts.rdropWhile (· == 0) = right.parts.rdropWhile (· == 0)) ∧
    (∀ left right : Version, left.order right = .lt ↔
      ∃ place, (∀ earlier < place, left.parts.getD earlier 0 = right.parts.getD earlier 0) ∧
        left.parts.getD place 0 < right.parts.getD place 0) ∧
    (∀ left right : Version, left.order right ≠ .eq →
      left.order right = compare left.parts right.parts) ∧
    -- Gates
    ∀ (version later : Version) (first second : List String) (definition : ResourceDefinition),
      version.order later ≠ .gt → first ⊆ second →
        (Facts.Permits ⟨some version, first⟩ definition →
          Facts.Permits ⟨some later, second⟩ definition) ∧
        ∀ (client other : Client) (events others : List Event)
          (outcome : Except Fault (Option Response)),
          (∀ event ∈ events, event.Tells fun _ => ⟨some version, first⟩) →
          Runs (Operations.gate client definition) events (.ok none) →
          (∀ event ∈ others, event.Tells fun _ => ⟨some later, second⟩) →
          (∀ event ∈ others, event.FactsArrive) →
          Runs (Operations.gate other definition) others outcome → outcome = .ok none := by
  refine ⟨fun parts suffix nonempty ends => parse_joined nonempty ends,
    fun text version => parse_text, fun left right => Std.OrientedCmp.eq_swap, fun left right => ?_,
    fun first second third below further => Ordering.isLE_iff_ne_gt.mp (Std.TransCmp.isLE_trans
      (Ordering.isLE_iff_ne_gt.mpr below) (Ordering.isLE_iff_ne_gt.mpr further)),
    fun left right => order_eq_eq_iff, fun left right => compareParts_eq_lt_iff _ _,
    fun left right => compareParts_eq_compare_of_ne, ?_⟩
  · have turned : right.order left = (left.order right).swap := Std.OrientedCmp.eq_swap
    rw [turned]
    cases left.order right with
    | lt => exact Or.inl fun impossible => nomatch impossible
    | eq => exact Or.inl fun impossible => nomatch impossible
    | gt => exact Or.inr fun impossible => nomatch impossible
  · intro version later first second definition newer more
    refine ⟨Facts.Permits.mono newer more, ?_⟩
    intro client other events others outcome told opened toldToo arrive run
    have permits := Operations.permits_of_gate told opened
    exact Operations.gate_of_permits toldToo arrive (permits.mono newer more) run

/-- A build of `10.0.6` is the same version as `10.0.6.0`. The hosts that are there from `10.0.6` on
are also there on a later appliance with more modules, and its gate opens. -/
theorem Version.builds_consistently_ordered :
    ∃ version later : Version, Version.parse "10.0.6_IF1" = .ok version ∧
      parse version.text = .ok version ∧ version.order ⟨[10, 0, 6, 0], "10.0.6.0"⟩ = .eq ∧
      later.parts = [10, 0, 6, 0, 1] ∧
      version.order later = compare [10, 0, 6] [10, 0, 6, 0, 1] ∧
      Facts.Permits ⟨some later, ["mga", "wga"]⟩ (Operations.hostsFrom "10.0.6").definition ∧
      ∃ (client : Client) (events : List Event),
        Runs (Operations.gate client (Operations.hostsFrom "10.0.6").definition) events (.ok none) ∧
        ∀ outcome,
          Runs (Operations.gate client (Operations.hostsFrom "10.0.6").definition) events outcome →
            outcome = .ok none := by
  obtain ⟨read, reread, -, -, trans, equal, less, lists, gates⟩ := consistently_ordered
  let definition : ResourceDefinition := (Operations.hostsFrom "10.0.6").definition
  let padded : Version := ⟨[10, 0, 6, 0], "10.0.6.0"⟩
  let later : Version := ⟨[10, 0, 6, 0, 1], "10.0.6.0.1"⟩
  have ends : ∀ c ∈ "_IF1".toList.head?, c.isDigit = false ∧ c ≠ '.' := by
    rintro c ⟨⟩
    decide
  obtain ⟨version, parsed, parts⟩ := read [10, 0, 6] "_IF1" (by decide) ends
  have same : version.order padded = .eq := (equal _ _).mpr (by rw [parts]; rfl)
  have below : padded.order later = .lt := (less _ _).mpr ⟨4, by decide, by decide⟩
  have newer : version.order later ≠ .gt :=
    trans _ _ _ (by rw [same]; decide) (by rw [below]; decide)
  have apart : version.order later ≠ .eq :=
    fun impossible => absurd ((equal _ _).mp impossible) (by rw [parts]; decide)
  have more : ["wga"] ⊆ ["mga", "wga"] := by decide
  have enough : version.order ⟨[10, 0, 6], "10.0.6"⟩ = .eq :=
    (equal _ _).mpr (by rw [parts]; rfl)
  have readable : parse "10.0.6" = .ok ⟨[10, 0, 6], "10.0.6"⟩ := rfl
  have permits : Facts.Permits ⟨some version, ["wga"]⟩ definition := by
    simp [definition, Facts.Permits, Facts.unmet?, Operations.hostsFrom, readable,
      Facts.meetsVersion, atLeast, enough, Facts.missingModule?, Facts.hasModule]
  obtain ⟨mono, opens⟩ := gates version later ["wga"] ["mga", "wga"] definition newer more
  let client : Client := ⟨.left, "https://one", ⟨"admin", "admin"⟩⟩
  have recalled {known : Facts} : ∀ event ∈ [(⟨.recallFacts .left, some known⟩ : Event)],
      event.Tells fun _ => known :=
    List.forall_mem_singleton.mpr fun found told => (Option.some.inj told).symm
  refine ⟨version, later, parsed, reread _ _ parsed, same, rfl, ?_, mono permits, client, _,
    Operations.runs_gate_of_recalled (by decide) (mono permits), ?_⟩
  · rw [lists version later apart, parts]
    rfl
  · exact fun outcome run => opens client client _ _ outcome recalled
      (Operations.runs_gate_of_recalled (by decide) permits) recalled
      (List.forall_mem_singleton.mpr trivial) run

end ApplianceConfig
