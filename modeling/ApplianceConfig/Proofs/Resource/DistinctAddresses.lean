import ApplianceConfig.Proofs.Resource.ItemAddresses

/-!
# Values stay in their places in an address

An address is made from a template by putting encoded values into the placeholders. An
encoded value has characters of a small alphabet only (`Text.isEncoded`): letters, digits,
a few marks and the percent sign. No character that separates the parts of an address is
among them. So the separators of an address are those of its template, whatever the
values are (`Template.filter_of_fill`), and no value can open a part of its own.

Whether values can be told from an address is a matter of the template. One value put in
in any number of places can, whatever stands around it: all its places get longer
together, so addresses of one length hold values of one length. This holds for the ids of
a resource exactly if its addresses name the id at all (`Endpoint.itemUri_ne_iff`).
Several values that change together can be told apart if each of their places ends with
the template or is followed by a separator, as the encoded value is then the longest text
of the alphabet that starts there (`Template.value?_of_fill`). All templates of the known
resources are of this kind.
-/

set_option autoImplicit false

namespace ApplianceConfig

namespace Text

/-! ## The alphabet of encoded values -/

/-- Whether a character occurs in encoded values: those that stand for themselves, and the percent
sign before the digits of the others. -/
def isEncoded (c : Char) : Bool := c.isAlphanum || ['-', '_', '.', '~', '%'].contains c

theorem isEncoded_charOfByte {byte : UInt8} (plain : isUnreserved byte = true) :
    isEncoded (Char.ofNat byte.toNat) = true := by
  have table : ∀ n < 256, isUnreserved (UInt8.ofNat n) = true →
      isEncoded (Char.ofNat n) = true := by
    decide +kernel
  exact table byte.toNat byte.toNat_lt (by rwa [UInt8.ofNat_toNat])

theorem isEncoded_upperHexDigit : ∀ n < 16, isEncoded (upperHexDigit n) = true := by
  decide

/-- **An encoded value has characters of the alphabet only.** -/
theorem isEncoded_of_mem_percentEncode {text : List Char} {c : Char}
    (member : c ∈ percentEncode text) : isEncoded c = true := by
  obtain ⟨byte, -, written⟩ := List.mem_flatMap.mp member
  have bound := byte.toNat_lt
  rw [percentByte] at written
  split at written
  · rename_i plain
    obtain rfl := List.mem_singleton.mp written
    exact isEncoded_charOfByte plain
  · simp only [List.mem_cons, List.not_mem_nil, or_false] at written
    rcases written with rfl | rfl | rfl
    · rfl
    · exact isEncoded_upperHexDigit _ (by omega)
    · exact isEncoded_upperHexDigit _ (by omega)

/-- What follows an encoded value and does not go on with its alphabet can be told from it. -/
theorem percentEncode_cancel {value other rest others : List Char}
    (ends : rest.takeWhile isEncoded = []) (otherEnds : others.takeWhile isEncoded = [])
    (same : percentEncode value ++ rest = percentEncode other ++ others) :
    value = other ∧ rest = others := by
  have longest : ∀ {value rest : List Char}, rest.takeWhile isEncoded = [] →
      (percentEncode value ++ rest).takeWhile isEncoded = percentEncode value := by
    intro value rest ends
    rw [List.takeWhile_append_of_pos fun c => isEncoded_of_mem_percentEncode, ends,
      List.append_nil]
  have encoded := congrArg (List.takeWhile isEncoded) same
  rw [longest ends, longest otherEnds] at encoded
  rw [encoded] at same
  exact ⟨percentEncode_injective encoded, List.append_cancel_left same⟩

end Text

namespace Template

/-! ## Placeholders in the text of a template -/

/-- A text that leaves no placeholder open is scanned by itself. -/
theorem scan_append {before : List Char} (rest : List Char) :
    ∀ {opened : Option (List Char)}, .unterminated ∉ scan opened before →
      scan opened (before ++ rest) = scan opened before ++ scan none rest := by
  induction before with
  | nil =>
      intro opened closed
      cases opened with
      | none => rfl
      | some read => exact absurd (List.mem_singleton_self _) closed
  | cons c before hypothesis =>
      intro opened closed
      cases opened with
      | none =>
          rw [List.cons_append, scan, scan]
          rw [scan] at closed
          split
          · rename_i brace
            rw [if_pos brace] at closed
            exact hypothesis closed
          · rename_i plain
            rw [if_neg plain] at closed
            rw [hypothesis fun member => closed (List.mem_cons_of_mem _ member), List.cons_append]
      | some read =>
          rw [List.cons_append, scan, scan]
          rw [scan] at closed
          split
          · rename_i brace
            rw [if_pos brace] at closed
            rw [hypothesis fun member => closed (List.mem_cons_of_mem _ member), List.cons_append]
          · rename_i plain
            rw [if_neg plain] at closed
            exact hypothesis closed

/-- A name without a closing brace is read up to the brace that closes it. -/
theorem scan_name {name : List Char} (whole : '\x7d' ∉ name) (after : List Char) :
    ∀ read, scan (some read) (name ++ '\x7d' :: after)
      = .placeholder (read.reverse ++ name) :: scan none after := by
  induction name with
  | nil =>
      intro read
      rw [List.nil_append, scan, if_pos rfl, List.append_nil]
  | cons c name hypothesis =>
      intro read
      rw [List.mem_cons, not_or] at whole
      rw [List.cons_append, scan, if_neg fun same => whole.1 same.symm, hypothesis whole.2,
        List.reverse_cons, List.append_assoc, List.singleton_append]

/-- A name in braces stands in a text, where no brace is open: `opened` is what was read of a name
before the text. -/
def Stands (opened : Option (List Char)) (name text : List Char) : Prop :=
  ∃ before after, text = before ++ '\x7b' :: (name ++ '\x7d' :: after) ∧
    .unterminated ∉ scan opened before ∧ '\x7d' ∉ name

/-- Every placeholder is read from a name in braces, or from the rest of a name that is open. -/
theorem stands_of_mem_scan {name text : List Char} :
    ∀ {opened : Option (List Char)}, .placeholder name ∈ scan opened text →
      Stands opened name text ∨ ∃ read part after, opened = some read ∧
        text = part ++ '\x7d' :: after ∧ '\x7d' ∉ part ∧ name = read.reverse ++ part := by
  induction text with
  | nil =>
      intro opened member
      cases opened with
      | none => cases member
      | some read => cases List.mem_singleton.mp member
  | cons c text hypothesis =>
      intro opened member
      cases opened with
      | none =>
          rw [scan] at member
          split at member
          · rename_i brace
            -- The name that is opened here is the one in question, or it closes before that one.
            rcases hypothesis member with ⟨before, after, rfl, closed, whole⟩ | found
            · exact Or.inl ⟨c :: before, after, rfl, by rwa [scan, if_pos brace], whole⟩
            · obtain ⟨_, part, after, ⟨⟩, rfl, whole, rfl⟩ := found
              exact Or.inl ⟨[], after, by rw [brace]; rfl, List.not_mem_nil, whole⟩
          · rename_i plain
            have later := (List.mem_cons.mp member).resolve_left (by simp)
            rcases hypothesis later with ⟨before, after, rfl, closed, whole⟩ | found
            · refine Or.inl ⟨c :: before, after, rfl, ?_, whole⟩
              rw [scan, if_neg plain, List.mem_cons, not_or]
              exact ⟨by simp, closed⟩
            · obtain ⟨_, _, _, ⟨⟩, _⟩ := found
      | some read =>
          rw [scan] at member
          split at member
          · rename_i brace
            rcases List.mem_cons.mp member with same | later
            · cases same
              exact Or.inr ⟨read, [], text, rfl, by rw [brace]; rfl, List.not_mem_nil,
                (List.append_nil _).symm⟩
            · rcases hypothesis later with ⟨before, after, rfl, closed, whole⟩ | found
              · refine Or.inl ⟨c :: before, after, rfl, ?_, whole⟩
                rw [scan, if_pos brace, List.mem_cons, not_or]
                exact ⟨by simp, closed⟩
              · obtain ⟨_, _, _, ⟨⟩, _⟩ := found
          · rename_i plain
            rcases hypothesis member with ⟨before, after, rfl, closed, whole⟩ | found
            · exact Or.inl ⟨c :: before, after, rfl, by rwa [scan, if_neg plain], whole⟩
            · obtain ⟨_, part, after, ⟨⟩, rfl, whole, rfl⟩ := found
              refine Or.inr ⟨read, c :: part, after, rfl, rfl, ?_, ?_⟩
              · rw [List.mem_cons, not_or]
                exact ⟨fun same => plain same.symm, whole⟩
              · rw [List.reverse_cons, List.append_assoc, List.singleton_append]

/-- **A template has a placeholder exactly if the name stands in it in braces**, where no other
brace is open. -/
theorem placeholder_mem_segments_iff {template : String} {name : List Char} :
    .placeholder name ∈ segments template ↔ Stands none name template.toList := by
  constructor
  · intro member
    rcases stands_of_mem_scan member with stands | ⟨_, _, _, ⟨⟩, _⟩
    exact stands
  · rintro ⟨before, after, text, closed, whole⟩
    rw [segments, text, scan_append _ closed, scan, if_pos rfl, scan_name whole]
    exact List.mem_append_right _ (List.mem_cons_self ..)

/-! ## Filled templates -/

/-- The text of a template outside of its placeholders. -/
def literals : List Segment → List Char
  | [] => []
  | .literal c :: rest => c :: literals rest
  | .placeholder _ :: rest => literals rest
  | .unterminated :: rest => literals rest

section Filled

variable {template other : String} {parameters others : Parameters} {id otherId : Option String}
  {segments : List Segment} {text : List Char}

/-- **The separators of a filled template are those of its own text**, in their order. -/
theorem filter_of_fill (filled : fill template parameters id segments = .ok text) :
    text.filter (fun c => !Text.isEncoded c)
      = (literals segments).filter fun c => !Text.isEncoded c := by
  induction segments generalizing text with
  | nil =>
      rw [fill] at filled
      cases filled
      rfl
  | cons segment rest hypothesis =>
      cases segment with
      | literal c =>
          rw [fill, Call.map_eq_ok_iff] at filled
          obtain ⟨tail, remainder, rfl⟩ := filled
          rw [literals, List.filter_cons, List.filter_cons, hypothesis remainder]
      | unterminated =>
          rw [fill] at filled
          cases filled
      | placeholder name =>
          obtain ⟨value, tail, -, remainder, rfl⟩ := exists_of_fill_placeholder filled
          have nowhere : (Text.percentEncode value.toList).filter (fun c => !Text.isEncoded c)
              = [] := by
            refine List.filter_eq_nil_iff.mpr fun c member => ?_
            rw [Text.isEncoded_of_mem_percentEncode member]
            decide
          rw [literals, List.filter_append, nowhere, List.nil_append, hypothesis remainder]

/-- A template without a placeholder for the id is filled to one text for all ids. -/
theorem fill_congr_id (without : .placeholder "id".toList ∉ segments) :
    fill template parameters id segments = fill template parameters otherId segments := by
  induction segments with
  | nil => rfl
  | cons segment rest hypothesis =>
      rw [List.mem_cons, not_or] at without
      have later := hypothesis without.2
      cases segment with
      | literal c => rw [fill, fill, later]
      | unterminated => rfl
      | placeholder name =>
          have named : String.ofList name ≠ "id" := by
            intro same
            refine without.1 ?_
            rw [← same, String.toList_ofList]
          rw [fill, fill, value?, value?, if_neg named, if_neg named, later]

/-- Segments that go on with a separator, or end. -/
def startApart : List Segment → Bool
  | [] => true
  | .literal c :: _ => !Text.isEncoded c
  | _ => false

/-- Segments of which every placeholder is followed by a separator or by the end. -/
def separated : List Segment → Bool
  | [] => true
  | .placeholder _ :: rest => startApart rest && separated rest
  | _ :: rest => separated rest

theorem takeWhile_of_fill (apart : startApart segments = true)
    (filled : fill template parameters id segments = .ok text) :
    text.takeWhile Text.isEncoded = [] := by
  match segments, apart with
  | [], _ =>
      cases filled
      rfl
  | .literal c :: rest, apart =>
      rw [fill, Call.map_eq_ok_iff] at filled
      obtain ⟨tail, -, rfl⟩ := filled
      rw [startApart, Bool.not_eq_true'] at apart
      rw [List.takeWhile_cons, if_neg (by rw [apart]; decide)]

/-- **Where placeholders are separated, the text tells the value of each of them.** -/
theorem value?_of_fill (apart : separated segments = true)
    (filled : fill template parameters id segments = .ok text)
    (otherFilled : fill other others otherId segments = .ok text) {name : List Char}
    (member : .placeholder name ∈ segments) :
    value? parameters id (String.ofList name) = value? others otherId (String.ofList name) := by
  induction segments generalizing text with
  | nil => cases member
  | cons segment rest hypothesis =>
      cases segment with
      | literal c =>
          rw [fill, Call.map_eq_ok_iff] at filled otherFilled
          obtain ⟨tail, remainder, rfl⟩ := filled
          obtain ⟨otherTail, otherRemainder, same⟩ := otherFilled
          obtain rfl := (List.cons.inj same).2
          exact hypothesis apart remainder otherRemainder
            ((List.mem_cons.mp member).resolve_left (by simp))
      | unterminated =>
          rw [fill] at filled
          cases filled
      | placeholder first =>
          rw [separated, Bool.and_eq_true] at apart
          obtain ⟨value, tail, found, remainder, rfl⟩ := exists_of_fill_placeholder filled
          obtain ⟨otherValue, otherTail, otherFound, otherRemainder, same⟩ :=
            exists_of_fill_placeholder otherFilled
          obtain ⟨values, rfl⟩ := Text.percentEncode_cancel
            (takeWhile_of_fill apart.1 remainder) (takeWhile_of_fill apart.1 otherRemainder) same
          rcases List.mem_cons.mp member with same | later
          · cases same
            rw [found, otherFound, String.toList_inj.mp values]
          · exact hypothesis apart.2 remainder otherRemainder later

end Filled

end Template

/-! ## Addresses of objects -/

namespace Endpoint

/-- **Different ids make different addresses exactly if the addresses name the id.** -/
theorem itemUri_ne_iff {endpoint : Endpoint} {id other uri otherUri : String}
    (differ : id ≠ other) (expanded : endpoint.itemUri id = .ok uri)
    (otherExpanded : endpoint.itemUri other = .ok otherUri) :
    uri ≠ otherUri ↔ endpoint.AddressesById := by
  constructor
  · intro apart template written
    refine Decidable.byContradiction fun without => apart ?_
    rw [itemUri, written] at expanded otherExpanded
    have alike : Template.expand template endpoint.parameters (some id)
        = Template.expand template endpoint.parameters (some other) := by
      rw [Template.expand, Template.expand, Template.fill_congr_id without]
    exact Except.ok.inj (expanded.symm.trans (alike.trans otherExpanded))
  · intro addressed same
    exact differ (target_itemUri_injective addressed expanded otherExpanded (congrArg _ same))

end Endpoint

/-! ## Addresses of the known resources -/

namespace ResourceDefinition

/-- The address templates of a resource. -/
def templates (definition : ResourceDefinition) : List String :=
  definition.uri :: definition.itemUri.toList

end ResourceDefinition

theorem Registry.separated_templates : ∀ entry ∈ entries, ∀ template ∈ entry.2.templates,
    Template.separated (Template.segments template) = true := by
  decide +kernel

/-- **Values stay in their places in an address.** Different ids make different addresses, unless
an address template leaves the id out; the separators of an address are those of its template; and
in the addresses of the known resources every value can be told, also if all of them change. -/
theorem addresses_keep_values_apart :
    (∀ (endpoint : Endpoint) (id other uri otherUri : String), id ≠ other →
      endpoint.itemUri id = .ok uri → endpoint.itemUri other = .ok otherUri →
      (uri ≠ otherUri ↔ ∀ template ∈ endpoint.definition.itemUri,
        Template.Stands none "id".toList template.toList)) ∧
    (∀ (template : String) (parameters : Parameters) (id : Option String) (uri : String),
      Template.expand template parameters id = .ok uri →
      uri.toList.filter (fun c => !Text.isEncoded c)
        = (Template.literals (Template.segments template)).filter fun c => !Text.isEncoded c) ∧
    (∀ entry ∈ Registry.entries, ∀ template ∈ entry.2.templates,
      ∀ (parameters others : Parameters) (id otherId : Option String) (uri otherUri : String),
      Template.expand template parameters id = .ok uri →
      Template.expand template others otherId = .ok otherUri →
      ∀ name, .placeholder name ∈ Template.segments template →
        Template.value? parameters id (String.ofList name)
          ≠ Template.value? others otherId (String.ofList name) →
        uri ≠ otherUri) := by
  refine ⟨?_, ?_, ?_⟩
  · intro endpoint id other uri otherUri differ expanded otherExpanded
    rw [Endpoint.itemUri_ne_iff differ expanded otherExpanded]
    exact forall₂_congr fun template _ => Template.placeholder_mem_segments_iff
  · intro template parameters id uri expanded
    obtain ⟨text, filled, rfl⟩ := Call.map_eq_ok_iff.mp expanded
    rw [String.toList_ofList]
    exact Template.filter_of_fill filled
  · intro entry known template written parameters others id otherId uri otherUri expanded
      otherExpanded name placed differ same
    obtain ⟨text, filled, rfl⟩ := Call.map_eq_ok_iff.mp expanded
    obtain ⟨otherText, otherFilled, rfl⟩ := Call.map_eq_ok_iff.mp otherExpanded
    obtain rfl := String.ofList_inj.mp same
    exact differ (Template.value?_of_fill
      (Registry.separated_templates entry known template written) filled otherFilled placed)

/-- The template of the addresses of junctions. -/
def junctionTemplate : String :=
  "/wga/reverseproxy/\x7binstance\x7d/junctions?junctions_id=\x7bid\x7d"

/-- The junctions of one reverse proxy. -/
def junctionsOf (instanceName : String) : Endpoint where
  key := "junctions"
  definition := (Registry.find? "junctions").get (by decide)
  parameters := .ofList [("instance", instanceName)]

/-- Two junctions of the shop have two addresses with the separators of the template, and the
junction with the same name at another instance has a third one. -/
theorem shop_junctions_apart :
    ∃ uri otherUri elsewhere, (junctionsOf "shop").itemUri "/a b" = .ok uri ∧
      (junctionsOf "shop").itemUri "/a&b" = .ok otherUri ∧
      Template.expand junctionTemplate (junctionsOf "shop/x").parameters (some "/a b")
        = .ok elsewhere ∧
      uri ≠ otherUri ∧ uri ≠ elsewhere ∧
      uri.toList.filter (fun c => !Text.isEncoded c) = "////?=".toList := by
  obtain ⟨ids, separators, values⟩ := addresses_keep_values_apart
  have first : (junctionsOf "shop").itemUri "/a b"
      = .ok "/wga/reverseproxy/shop/junctions?junctions_id=%2Fa%20b" := by
    rfl
  have second : (junctionsOf "shop").itemUri "/a&b"
      = .ok "/wga/reverseproxy/shop/junctions?junctions_id=%2Fa%26b" := by
    rfl
  have third : Template.expand junctionTemplate (junctionsOf "shop/x").parameters (some "/a b")
      = .ok "/wga/reverseproxy/shop%2Fx/junctions?junctions_id=%2Fa%20b" := by
    rfl
  refine ⟨_, _, _, first, second, third, ?_, ?_, ?_⟩
  · refine (ids _ _ _ _ _ (by decide) first second).mpr fun template written => ?_
    obtain rfl : junctionTemplate = template := Option.some.inj written
    exact Template.placeholder_mem_segments_iff.mp (by decide)
  · exact values ("junctions", (junctionsOf "shop").definition) (by decide) junctionTemplate
      (by decide) _ _ _ _ _ _ first third "instance".toList (by decide) (by decide)
  · exact (separators junctionTemplate _ _ _ first).trans (by decide)

end ApplianceConfig
