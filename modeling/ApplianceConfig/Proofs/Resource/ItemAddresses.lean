import ApplianceConfig.Appliance.Client
import ApplianceConfig.Proofs.Session.Runs
import ApplianceConfig.Resource.Endpoint
import ApplianceConfig.Text.Hex

/-!
# Different objects have different addresses

The address of an object holds the percent-encoded id of the object. The encoding can be
read back (`Text.percentEncode_injective`) and never starts with a slash, so an address
tells which object it belongs to, as long as the template of the address names the id at
all (`Endpoint.target_itemUri_injective`).

A template with everything but the id put in is its outline (`Template.outline`): pieces
of text with holes for the id. Two addresses of one length with the same outline have ids
of one length in the first hole, so the texts in that hole agree.
-/

set_option autoImplicit false

namespace ApplianceConfig

namespace Text

/-! ## Encoded values -/

theorem hexDigit_upperHexDigit : ∀ n < 16, hexDigit? (upperHexDigit n) = some n := by
  decide

theorem upperHexDigit_injective {m n : Nat} (smallM : m < 16) (smallN : n < 16)
    (same : upperHexDigit m = upperHexDigit n) : m = n := by
  have digits := congrArg hexDigit? same
  rw [hexDigit_upperHexDigit m smallM, hexDigit_upperHexDigit n smallN] at digits
  exact Option.some.inj digits

theorem toNat_charOfByte (byte : UInt8) : (Char.ofNat byte.toNat).toNat = byte.toNat := by
  have small := byte.toNat_lt
  rw [Char.ofNat, dif_pos (Or.inl (by omega))]
  rfl

/-- A byte that stands for itself is neither a percent sign nor a slash. -/
theorem charOfByte_ne {byte : UInt8} (plain : isUnreserved byte = true) :
    Char.ofNat byte.toNat ≠ '%' ∧ Char.ofNat byte.toNat ≠ '/' := by
  have value : byte.toNat ≠ 37 ∧ byte.toNat ≠ 47 := by
    simp only [isUnreserved, Bool.or_eq_true, Bool.and_eq_true, decide_eq_true_eq,
      beq_iff_eq] at plain
    omega
  constructor
  · intro same
    exact value.1 (by rw [← toNat_charOfByte, same]; rfl)
  · intro same
    exact value.2 (by rw [← toNat_charOfByte, same]; rfl)

/-- The characters for a byte can be told apart from those for another one. -/
theorem percentByte_cancel {a b : UInt8} {rest others : List Char}
    (same : percentByte a ++ rest = percentByte b ++ others) : a = b ∧ rest = others := by
  have bounds : a.toNat < 256 ∧ b.toNat < 256 := ⟨a.toNat_lt, b.toNat_lt⟩
  unfold percentByte at same
  split at same
  · rename_i plainA
    split at same
    · obtain ⟨first, later⟩ := List.cons.inj same
      refine ⟨UInt8.toNat_inj.mp ?_, later⟩
      rw [← toNat_charOfByte a, ← toNat_charOfByte b, first]
    · exact absurd (List.cons.inj same).1 (charOfByte_ne plainA).1
  · split at same
    · rename_i plainB
      exact absurd (List.cons.inj same).1.symm (charOfByte_ne plainB).1
    · obtain ⟨-, digits⟩ := List.cons.inj same
      obtain ⟨high, digits⟩ := List.cons.inj digits
      obtain ⟨low, later⟩ := List.cons.inj digits
      have sameHigh := upperHexDigit_injective (by omega) (by omega) high
      have sameLow := upperHexDigit_injective (by omega) (by omega) low
      exact ⟨UInt8.toNat_inj.mp (by omega), later⟩

theorem percentBytes_injective {bytes others : List UInt8}
    (same : bytes.flatMap percentByte = others.flatMap percentByte) : bytes = others := by
  have written : ∀ byte, percentByte byte ≠ [] := by
    intro byte
    unfold percentByte
    split
    · exact List.cons_ne_nil _ _
    · exact List.cons_ne_nil _ _
  induction bytes generalizing others with
  | nil =>
      cases others with
      | nil => rfl
      | cons other rest =>
          exact absurd (List.append_eq_nil_iff.mp same.symm).1 (written other)
  | cons byte bytes hypothesis =>
      cases others with
      | nil => exact absurd (List.append_eq_nil_iff.mp same).1 (written byte)
      | cons other rest =>
          rw [List.flatMap_cons, List.flatMap_cons] at same
          obtain ⟨rfl, later⟩ := percentByte_cancel same
          rw [hypothesis later]

theorem utf8_injective {text other : List Char}
    (same : text.flatMap String.utf8EncodeChar = other.flatMap String.utf8EncodeChar) :
    text = other := by
  have encoded : text.utf8Encode = other.utf8Encode := by
    rw [List.utf8Encode, List.utf8Encode, same]
  rw [← String.toByteArray_ofList, ← String.toByteArray_ofList, String.toByteArray_inj,
    String.ofList_inj] at encoded
  exact encoded

/-- **An encoded value can be read back.** -/
theorem percentEncode_injective {text other : List Char}
    (same : percentEncode text = percentEncode other) : text = other :=
  utf8_injective (percentBytes_injective same)

/-- An encoded value never starts with a slash. -/
theorem percentEncode_ne_slash (text rest : List Char) : percentEncode text ≠ '/' :: rest := by
  intro same
  unfold percentEncode at same
  cases bytes : text.flatMap String.utf8EncodeChar with
  | nil =>
      rw [bytes] at same
      cases same
  | cons byte bytesRest =>
      rw [bytes, List.flatMap_cons, percentByte] at same
      split at same
      · rename_i plain
        exact (charOfByte_ne plain).2 (List.cons.inj same).1
      · exact absurd (List.cons.inj same).1 (by decide)

end Text

/-! ## Templates without the id -/

namespace Template

/-- A template with the parameters put in: pieces of text, with holes for the id. -/
def outline (parameters : Parameters) : List Segment → List (Option (List Char))
  | [] => []
  | .literal c :: rest => some [c] :: outline parameters rest
  | .placeholder name :: rest =>
    (if String.ofList name = "id" then none
      else (parameters.get? (String.ofList name)).map fun value => Text.percentEncode value.toList)
      :: outline parameters rest
  | .unterminated :: rest => outline parameters rest

/-- The text of an outline with its holes filled. -/
def plug (hole : List Char) (pieces : List (Option (List Char))) : List Char :=
  pieces.flatMap fun piece => piece.getD hole

theorem plug_cons (hole : List Char) (piece : Option (List Char))
    (rest : List (Option (List Char))) :
    plug hole (piece :: rest) = piece.getD hole ++ plug hole rest :=
  List.flatMap_cons

/-- A filled placeholder is the encoded value of its name. -/
theorem exists_of_fill_placeholder {template : String} {parameters : Parameters}
    {id : Option String} {name : List Char} {rest : List Segment} {text : List Char}
    (filled : fill template parameters id (.placeholder name :: rest) = .ok text) :
    ∃ value tail, value? parameters id (String.ofList name) = some value ∧
      fill template parameters id rest = .ok tail ∧
      text = Text.percentEncode value.toList ++ tail := by
  rw [fill] at filled
  split at filled
  · cases filled
  · rename_i value found
    obtain ⟨tail, remainder, rfl⟩ := Call.map_eq_ok_iff.mp filled
    exact ⟨value, tail, found, remainder, rfl⟩

/-- **A filled template is its outline with the encoded id in the holes.** -/
theorem fill_eq_plug {template id : String} {parameters : Parameters} {segments : List Segment}
    {text : List Char} (filled : fill template parameters (some id) segments = .ok text) :
    text = plug (Text.percentEncode id.toList) (outline parameters segments) := by
  induction segments generalizing text with
  | nil =>
      rw [fill] at filled
      cases filled
      rfl
  | cons segment rest hypothesis =>
      cases segment with
      | literal c =>
          rw [fill, Call.map_eq_ok_iff] at filled
          obtain ⟨tail, remainder, rfl⟩ := filled
          rw [outline, plug_cons, ← hypothesis remainder]
          rfl
      | unterminated =>
          rw [fill] at filled
          cases filled
      | placeholder name =>
          obtain ⟨value, tail, found, remainder, rfl⟩ := exists_of_fill_placeholder filled
          rw [value?] at found
          rw [outline, plug_cons, ← hypothesis remainder]
          by_cases isId : String.ofList name = "id"
          · rw [if_pos isId] at found ⊢
            cases found
            rfl
          · rw [if_neg isId] at found ⊢
            rw [found]
            rfl

theorem none_mem_outline {parameters : Parameters} {segments : List Segment}
    (named : Segment.placeholder "id".toList ∈ segments) : none ∈ outline parameters segments := by
  induction segments with
  | nil => cases named
  | cons segment rest hypothesis =>
      rcases List.mem_cons.mp named with rfl | later
      · rw [outline, if_pos (by rfl)]
        exact List.mem_cons_self ..
      · cases segment with
        | literal c => exact List.mem_cons_of_mem _ (hypothesis later)
        | placeholder name => exact List.mem_cons_of_mem _ (hypothesis later)
        | unterminated => exact hypothesis later

/-! ## What an outline tells about its holes -/

theorem length_plug (hole : List Char) (pieces : List (Option (List Char))) :
    (plug hole pieces).length = (plug [] pieces).length + pieces.count none * hole.length := by
  induction pieces with
  | nil => simp [plug]
  | cons piece rest hypothesis =>
      rw [plug_cons, plug_cons, List.length_append, List.length_append, hypothesis]
      cases piece with
      | none =>
          rw [List.count_cons_self, Nat.add_mul]
          simp only [Option.getD_none, List.length_nil]
          omega
      | some text =>
          rw [List.count_cons_of_ne (by simp)]
          simp only [Option.getD_some]
          omega

/-- Of two holes of one length that make the same text, both hold the same. -/
theorem plug_cancel {hole other : List Char} {pieces : List (Option (List Char))}
    (lengths : hole.length = other.length) (named : none ∈ pieces)
    (same : plug hole pieces = plug other pieces) : hole = other := by
  induction pieces with
  | nil => cases named
  | cons piece rest hypothesis =>
      rw [plug_cons, plug_cons] at same
      cases piece with
      | none => exact (List.append_inj same lengths).1
      | some text =>
          refine hypothesis ?_ (List.append_cancel_left same)
          simpa using named

/-- A slash at the front of a filled outline is not from its first hole, so it is there whatever
the holes hold. -/
theorem plug_slash {hole : List Char} (written : hole ≠ [])
    (apart : ∀ rest, hole ≠ '/' :: rest) (other : List Char) {pieces : List (Option (List Char))}
    {text : List Char} (slash : plug hole pieces = '/' :: text) :
    ∃ rest, plug other pieces = '/' :: rest := by
  induction pieces with
  | nil => cases slash
  | cons piece rest hypothesis =>
      rw [plug_cons] at slash ⊢
      cases piece with
      | none =>
          cases hole with
          | nil => exact absurd rfl written
          | cons c chars =>
              obtain ⟨rfl, -⟩ := List.cons.inj slash
              exact absurd rfl (apart chars)
      | some fixed =>
          cases fixed with
          | nil => exact hypothesis slash
          | cons c chars =>
              obtain ⟨rfl, -⟩ := List.cons.inj slash
              exact ⟨_, rfl⟩

/-- What a slash is put in front of has one less than what comes with its own. -/
theorem plug_ne_slash_plug {hole other : List Char} {pieces : List (Option (List Char))}
    (apart : ∀ rest, hole ≠ '/' :: rest) (bare : ∀ rest, plug other pieces ≠ '/' :: rest) :
    plug hole pieces ≠ '/' :: plug other pieces := by
  intro slash
  have written : hole ≠ [] := by
    rintro rfl
    have lengths := congrArg List.length slash
    rw [List.length_cons, length_plug other] at lengths
    omega
  obtain ⟨rest, starts⟩ := plug_slash written apart other slash
  exact bare rest starts

/-- Holes of one outline that make the same text hold the same. -/
theorem plug_injective {hole other : List Char} {pieces : List (Option (List Char))}
    (named : none ∈ pieces) (same : plug hole pieces = plug other pieces) : hole = other := by
  refine plug_cancel ?_ named same
  have lengths := congrArg List.length same
  rw [length_plug, length_plug other] at lengths
  exact Nat.eq_of_mul_eq_mul_left (List.count_pos_iff.mpr named) (by omega)

end Template

/-! ## Addresses -/

namespace Client

/-- An address is kept if it starts with a slash, and gets one otherwise. -/
theorem target_cases (uri : String) :
    target uri = uri ∨
      (target uri).toList = '/' :: uri.toList ∧ ∀ rest, uri.toList ≠ '/' :: rest := by
  unfold target
  split
  · exact Or.inl rfl
  · rename_i bare
    refine Or.inr ⟨by rw [String.toList_append]; rfl, fun rest slash => bare ?_⟩
    rw [String.startsWith_string_iff, slash]
    exact List.cons_prefix_cons.mpr ⟨rfl, List.nil_prefix⟩

end Client

namespace Endpoint

/-- Whether the address of an object names the id of the object: a template that says otherwise
leaves all objects with one address. -/
def AddressesById (endpoint : Endpoint) : Prop :=
  ∀ template ∈ endpoint.definition.itemUri,
    Template.Segment.placeholder "id".toList ∈ Template.segments template

instance (endpoint : Endpoint) : Decidable endpoint.AddressesById :=
  inferInstanceAs (Decidable (∀ template ∈ endpoint.definition.itemUri, _))

/-- The addresses of objects come from one outline with a hole for the id. -/
theorem exists_outline {endpoint : Endpoint} (addressed : endpoint.AddressesById) :
    ∃ pieces, none ∈ pieces ∧ ∀ id uri, endpoint.itemUri id = .ok uri →
      uri.toList = Template.plug (Text.percentEncode id.toList) pieces := by
  cases written : endpoint.definition.itemUri with
  | some template =>
      refine ⟨Template.outline endpoint.parameters (Template.segments template),
        Template.none_mem_outline (addressed template written), fun id uri expanded => ?_⟩
      rw [itemUri, written] at expanded
      obtain ⟨text, filled, rfl⟩ := Call.map_eq_ok_iff.mp expanded
      rw [String.toList_ofList]
      exact Template.fill_eq_plug filled
  | none =>
      cases expandedBase : endpoint.collectionUri with
      | error fault =>
          refine ⟨[none], List.mem_singleton_self _, fun id uri expanded => ?_⟩
          rw [itemUri, written, expandedBase] at expanded
          cases expanded
      | ok base =>
          refine ⟨[some (base ++ "/").toList, none], by simp, fun id uri expanded => ?_⟩
          rw [itemUri, written, expandedBase] at expanded
          cases expanded
          rw [String.toList_append, String.toList_ofList]
          simp [Template.plug]

/-- **Objects with different ids have different addresses**, also with the slash that every address
on the appliance starts with. -/
theorem target_itemUri_injective {endpoint : Endpoint} (addressed : endpoint.AddressesById)
    {id other uri otherUri : String} (expanded : endpoint.itemUri id = .ok uri)
    (expandedOther : endpoint.itemUri other = .ok otherUri)
    (same : Client.target uri = Client.target otherUri) : id = other := by
  obtain ⟨pieces, named, written⟩ := exists_outline addressed
  have text := written id uri expanded
  have otherText := written other otherUri expandedOther
  have cancel : uri.toList = otherUri.toList → id = other := by
    intro sameText
    rw [text, otherText] at sameText
    exact String.toList_inj.mp
      (Text.percentEncode_injective (Template.plug_injective named sameText))
  have sameTarget := congrArg String.toList same
  rcases Client.target_cases uri with kept | ⟨added, bare⟩
  · rcases Client.target_cases otherUri with otherKept | ⟨otherAdded, otherBare⟩
    · rw [kept, otherKept] at sameTarget
      exact cancel sameTarget
    · rw [kept, otherAdded, text, otherText] at sameTarget
      rw [otherText] at otherBare
      exact absurd sameTarget
        (Template.plug_ne_slash_plug (Text.percentEncode_ne_slash _) otherBare)
  · rcases Client.target_cases otherUri with otherKept | ⟨otherAdded, -⟩
    · rw [added, otherKept, text, otherText] at sameTarget
      rw [text] at bare
      exact absurd sameTarget.symm
        (Template.plug_ne_slash_plug (Text.percentEncode_ne_slash _) bare)
    · rw [added, otherAdded] at sameTarget
      exact cancel (List.cons.inj sameTarget).2

end Endpoint

end ApplianceConfig
