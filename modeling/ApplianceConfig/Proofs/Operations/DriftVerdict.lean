import ApplianceConfig.Operations.Drift
import ApplianceConfig.Proofs.Appliance.SingleCalls
import ApplianceConfig.Proofs.Compare.EmptyDifference
import ApplianceConfig.Proofs.Json.ReadValues

/-!
# The verdict of a comparison

A comparison of two appliances reports a match when no difference shows between the data
that were read on the two sides in the same run, without the fields that carry no
configuration (`runs_compare`); the events of the run tell what these data are
(`Gathers.unique`). What is read has its keys in order (`yields_getAll`), so the report
means what an empty list of differences means (`match_means_equal_iff`): equality, as long
as the left document mixes no kinds in its lists and is steady.
-/

set_option autoImplicit false

namespace ApplianceConfig

open Call

namespace Json

theorem descend_sortedKeys (path : List String) {answer value : Json} (sorted : answer.SortedKeys)
    (found : descend? path answer = some value) : value.SortedKeys := by
  induction path generalizing answer with
  | nil =>
      cases found
      exact sorted
  | cons name rest hypothesis =>
      rw [descend?] at found
      split at found
      · rename_i inner here
        refine hypothesis ?_ found
        cases answer with
        | object fields => exact ((sortedKeys_object fields).mp sorted).2 _ (mem_of_lookup here)
        | _ => cases here
      · cases found

theorem itemsAt_sortedKeys {path : String} {answer : Json} (sorted : answer.SortedKeys) :
    ∀ item ∈ itemsAt path answer, item.SortedKeys := by
  unfold itemsAt
  split
  · split
    · exact (sortedKeys_array _).mp sorted
    · exact fun _ member => absurd member List.not_mem_nil
    · exact fun item member => List.mem_singleton.mp member ▸ sorted
  · split
    · rename_i items found
      exact (sortedKeys_array items).mp (descend_sortedKeys _ sorted found)
    · exact fun _ member => absurd member List.not_mem_nil

theorem dropFields_sortedKeys (names : List String) {fields : List (String × Json)}
    (sorted : (object fields).SortedKeys) : (object (dropFields names fields)).SortedKeys := by
  rw [sortedKeys_object] at sorted ⊢
  exact ⟨sorted.1.sublist ((List.filter_sublist ..).map _),
    fun field member => sorted.2 field (List.mem_of_mem_filter member)⟩

/-- Leaving out fields keeps the others in order. -/
theorem withoutFields_sortedKeys (names : List String) {value : Json} (sorted : value.SortedKeys) :
    (value.withoutFields names).SortedKeys := by
  cases value with
  | object fields => exact dropFields_sortedKeys names sorted
  | array items =>
      rw [sortedKeys_array] at sorted
      rw [withoutFields, sortedKeys_array]
      intro item member
      obtain ⟨source, sourceMember, rfl⟩ := List.mem_map.mp member
      cases source with
      | object fields => exact dropFields_sortedKeys names (sorted _ sourceMember)
      | _ => exact sorted _ sourceMember
  | _ => exact sorted

end Json

namespace Client

theorem yields_ask (client : Client) (method : Method) (uri : String) (content : Content) :
    Yields Json.SortedKeys (client.ask method uri content) :=
  (yields_any _).bind fun body _ => yields_pure (Message.value_sortedKeys body)

/-- A call whose refusals are tolerated ends in a response of the call or in a refusal. -/
theorem yields_tolerate {holds : Response → Prop} {call : Call Response}
    (yields : Yields holds call) (ignoreError : Bool) (description : String)
    (refused : ∀ status message, holds (refusal description status message)) :
    Yields holds (tolerate ignoreError description call) := by
  intro events response run
  obtain ⟨outcome, runCall, told⟩ := runs_tolerate_iff.mp run
  rcases tolerated_ok told with rfl | ⟨status, message, rfl⟩
  · exact yields events response runCall
  · exact refused status message

theorem yields_invokeGet (client : Client) (description uri : String) (ignoreError : Bool) :
    Yields (fun response : Response => response.data.SortedKeys)
      (client.invokeGet description uri ignoreError) :=
  yields_tolerate ((yields_ask client _ _ _).bind fun _ sorted => yields_pure sorted) _ _
    fun _ _ => trivial

end Client

namespace Operations

theorem yields_gated {holds : Response → Prop} {call : Call Response} (yields : Yields holds call)
    (client : Client) (definition : ResourceDefinition)
    (skipped : ∀ warning, holds (.skipped warning)) :
    Yields holds (gated client definition call) := by
  have gate : Yields (fun response => ∀ skipped, response = some skipped → holds skipped)
      (gate client definition) := by
    refine (yields_any _).bind fun warning _ => yields_pure ?_
    intro response same
    obtain ⟨text, -, rfl⟩ := Option.map_eq_some_iff.mp same
    exact skipped text
  refine gate.bind fun skipped fact => ?_
  cases skipped with
  | some response => exact yields_pure (fact response rfl)
  | none => exact yields

/-- **What is read from a resource has sorted keys.** -/
theorem yields_getAll (client : Client) (endpoint : Endpoint) (options : CallOptions) :
    Yields (fun response : Response => response.data.SortedKeys)
      (getAll client endpoint options) := by
  refine yields_gated ?_ client _ fun _ => ?_
  · refine (yields_any _).bind fun uri _ => ?_
    refine (Client.yields_invokeGet client _ uri _).bind fun response sorted => yields_pure ?_
    unfold listed
    split
    · exact (Json.sortedKeys_array _).mpr (Json.itemsAt_sortedKeys sorted)
    · exact sorted
  · exact (Json.sortedKeys_object _).mpr ⟨List.Pairwise.nil, fun _ member => by cases member⟩

theorem verdict_matches (differences : List Difference) :
    (verdict differences).field? "matches" = some (.bool differences.isEmpty) := by
  simp only [verdict, Json.ofFields, Json.sortFields, List.foldl_cons, List.foldl_nil, Json.field?,
    Json.lookup_insert]
  rfl

/-- What happens in a comparison that comes to a verdict, with the responses of both sides: both
gates are passed, and then either side is read. -/
inductive Gathers (left right : Client) (endpoint : Endpoint) :
    List Event → Response → Response → Prop where
  | intro {leftGate rightGate leftEvents rightEvents : List Event}
      {leftResponse rightResponse : Response}
      (leftOpen : Runs (gate left endpoint.definition) leftGate (.ok none))
      (rightOpen : Runs (gate right endpoint.definition) rightGate (.ok none))
      (readLeft : Runs (getAll left endpoint {}) leftEvents (.ok leftResponse))
      (readRight : Runs (getAll right endpoint {}) rightEvents (.ok rightResponse)) :
      Gathers left right endpoint (leftGate ++ (rightGate ++ (leftEvents ++ rightEvents)))
        leftResponse rightResponse

variable {left right : Client} {endpoint : Endpoint} {events : List Event}

/-- **The events of a comparison tell what both sides answered.** -/
theorem Gathers.unique {leftResponse rightResponse leftOther rightOther : Response}
    (gathers : Gathers left right endpoint events leftResponse rightResponse)
    (again : Gathers left right endpoint events leftOther rightOther) :
    leftOther = leftResponse ∧ rightOther = rightResponse := by
  obtain @⟨leftGate, rightGate, leftEvents, rightEvents, _, _, leftOpen, rightOpen, readLeft,
    readRight⟩ := gathers
  generalize same : leftGate ++ (rightGate ++ (leftEvents ++ rightEvents)) = events at again
  obtain ⟨leftAgain, rightAgain, leftReadAgain, rightReadAgain⟩ := again
  obtain ⟨-, same, -⟩ := Session.runs_unique leftOpen leftAgain same
  obtain ⟨-, same, -⟩ := Session.runs_unique rightOpen rightAgain same
  obtain ⟨-, same, leftSame⟩ := Session.runs_unique readLeft leftReadAgain same
  obtain ⟨-, -, rightSame⟩ :=
    Session.runs_unique readRight rightReadAgain (congrArg (· ++ []) same)
  exact ⟨(Except.ok.inj leftSame).symm, (Except.ok.inj rightSame).symm⟩

/-- **A verdict is about the data that were read on the two sides in the same run.** -/
theorem runs_compare {response : Response}
    (run : Runs (compare left right endpoint) events (.ok response)) {agree : Bool}
    (found : response.data.field? "matches" = some (.bool agree)) :
    ∃ leftResponse rightResponse,
      Gathers left right endpoint events leftResponse rightResponse ∧
        agree = (driftBetween endpoint leftResponse.data rightResponse.data).isEmpty := by
  obtain ⟨leftGate, leftAsked, _, rfl, runLeftGate, runRight⟩ := runs_bind_ok_iff.mp run
  obtain ⟨rightGate, rightAsked, _, rfl, runRightGate, runRest⟩ := runs_bind_ok_iff.mp runRight
  split at runRest
  · -- A skipped comparison has no verdict.
    obtain ⟨-, same⟩ := runs_pure_iff.mp runRest
    cases same
    cases found
  · rename_i passed
    obtain ⟨rfl, rfl⟩ : leftGate = none ∧ rightGate = none := by
      simpa [not_or] using passed
    obtain ⟨leftResponse, leftEvents, _, rfl, readLeft, runRest⟩ := runs_bind_ok_iff.mp runRest
    obtain ⟨rightResponse, rightEvents, _, rfl, readRight, runRest⟩ := runs_bind_ok_iff.mp runRest
    obtain ⟨rfl, same⟩ := runs_pure_iff.mp runRest
    cases same
    rw [List.append_nil]
    refine ⟨leftResponse, rightResponse, .intro runLeftGate runRightGate readLeft readRight, ?_⟩
    rw [Response.make, verdict_matches] at found
    cases found
    rfl

/-! ## The main result -/

/-- **An empty list of differences means equality exactly for steady documents that mix no kinds.**
A comparison of two appliances reports a match exactly if there is no difference between the data
that both sides answered in the same run. The match therefore means that these are equal when the
left document, without the fields that carry no configuration, is such a document. -/
theorem match_means_equal_iff {a : Json} (sorted : a.SortedKeys) :
    ((∀ (keys : List String) (b : Json), b.SortedKeys →
          Json.differences keys a.canonical b.canonical = [] → Json.equivalent a b = true)
        ↔ a.unmixed = true ∧ a.Steady) ∧
      ∀ (left right : Client) (endpoint : Endpoint) (events : List Event) (response : Response)
        (agree : Bool),
        Runs (compare left right endpoint) events (.ok response) →
        response.data.field? "matches" = some (.bool agree) →
        ∃ leftResponse rightResponse,
          Gathers left right endpoint events leftResponse rightResponse ∧
            (∀ leftOther rightOther, Gathers left right endpoint events leftOther rightOther →
              leftOther = leftResponse ∧ rightOther = rightResponse) ∧
            agree = (driftBetween endpoint leftResponse.data rightResponse.data).isEmpty ∧
            (agree = true →
              (leftResponse.data.withoutFields endpoint.definition.comparisonIgnores).unmixed = true →
              (leftResponse.data.withoutFields endpoint.definition.comparisonIgnores).Steady →
              Json.equivalentIgnoring endpoint.definition.comparisonIgnores leftResponse.data
                rightResponse.data = true) := by
  refine ⟨Json.empty_differences_iff sorted, ?_⟩
  intro left right endpoint events response agree run found
  obtain ⟨leftResponse, rightResponse, gathers, told⟩ := runs_compare run found
  refine ⟨leftResponse, rightResponse, gathers, fun _ _ again => gathers.unique again, told, ?_⟩
  rintro rfl plain steady
  obtain ⟨-, -, readLeft, readRight⟩ := gathers
  have leftSorted := Json.withoutFields_sortedKeys endpoint.definition.comparisonIgnores
    (yields_getAll left endpoint {} _ leftResponse readLeft)
  have rightSorted := Json.withoutFields_sortedKeys endpoint.definition.comparisonIgnores
    (yields_getAll right endpoint {} _ rightResponse readRight)
  exact (Json.empty_differences_iff leftSorted).mpr ⟨plain, steady⟩ _ _ rightSorted
    (List.isEmpty_iff.mp told.symm)

/-- A list of names is steady and mixes no kinds, so the match with its names in another order is
one. -/
theorem match_of_reversed_names :
    (Json.ofStrings ["b", "a"]).SortedKeys ∧
      Json.differences [] (Json.ofStrings ["b", "a"]).canonical
        (Json.ofStrings ["a", "b"]).canonical = [] ∧
      Json.equivalent (Json.ofStrings ["b", "a"]) (Json.ofStrings ["a", "b"]) = true := by
  have sorted : (Json.ofStrings ["b", "a"]).SortedKeys := by
    simp [Json.ofStrings, Json.SortedKeys, Json.SortedItems]
  have otherSorted : (Json.ofStrings ["a", "b"]).SortedKeys := by
    simp [Json.ofStrings, Json.SortedKeys, Json.SortedItems]
  have none : Json.differences [] (Json.ofStrings ["b", "a"]).canonical
      (Json.ofStrings ["a", "b"]).canonical = [] := by
    have reordered : (Json.ofStrings ["b", "a"]).canonical
        = (Json.ofStrings ["a", "b"]).canonical :=
      Json.canonical_eq_of_perm (by decide) (List.Perm.swap ..)
    rw [reordered]
    exact Json.differences_of_same _ _ (Json.sortedKeys_canonical _ otherSorted) BEq.rfl "$"
  exact ⟨sorted, none, (match_means_equal_iff sorted).1.mpr
    ⟨by decide, Json.steady_of_zeroFree (by decide)⟩ [] _ otherSorted none⟩

/-- A list that mixes kinds shows no difference from its items in another order, although that order
counts. -/
theorem match_of_reversed_mixed_list :
    Json.differences [] (Json.array [.ofNat 1, .string "a"]).canonical
          (Json.array [.string "a", .ofNat 1]).canonical = [] ∧
      Json.equivalent (.array [.ofNat 1, .string "a"]) (.array [.string "a", .ofNat 1]) = false :=
  ⟨rfl, rfl⟩

end Operations

end ApplianceConfig
