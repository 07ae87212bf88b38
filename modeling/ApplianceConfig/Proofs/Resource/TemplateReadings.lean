import ApplianceConfig.Proofs.Resource.DistinctAddresses
import Mathlib.Logic.ExistsUnique

/-!
# What an address template means

A template is read from left to right: text up to an opening brace, then a name up to the next
closing brace, and so on to the end of the template, or to an opening brace that nothing closes
(`Template.Reading`). A name may hold opening braces, and a closing brace that closes nothing is
text. So every template has one reading (`Template.existsUnique_reading`).

Filling a template replaces the names of its reading by encoded values (`Template.Reading.Yields`).
What was put in is part of the result as it is. Where this is not possible, the first place of the
reading that is in the way is told: a name without a value, or the brace that is not closed
(`Template.Reading.Offends`). One of the two happens, and never both
(`Template.fill_reading_ok_iff`, `Template.fill_reading_error_iff`).

What leaves no brace open can be put before any other template: both are filled one after the
other, except that a fault quotes the whole (`Template.expand_append`).
-/

set_option autoImplicit false

namespace ApplianceConfig

/-- The fault with another template in the place of the one it quotes. -/
def Fault.quoting (template : String) (fault : Fault) : Fault :=
  { fault with cause :=
      match fault.cause with
      | .missingParameter name _ => .missingParameter name template
      | .unterminatedPlaceholder _ => .unterminatedPlaceholder template
      | cause => cause }

namespace Template

/-! ## Readings -/

/-- A template as it is read from left to right. -/
inductive Reading where
  /-- Text to the end. -/
  | ends (literal : List Char)
  /-- Text up to a brace that is not closed, and what follows it. -/
  | unclosed (literal after : List Char)
  /-- Text up to a name in braces, and what follows that. -/
  | placeholder (literal name : List Char) (rest : Reading)

namespace Reading

/-- The text that is read. -/
def text : Reading → List Char
  | ends literal => literal
  | unclosed literal after => literal ++ '\x7b' :: after
  | placeholder literal name rest => literal ++ '\x7b' :: (name ++ '\x7d' :: rest.text)

/-- Every name is opened by the first opening brace and closed by the next closing brace. -/
def LeftToRight : Reading → Prop
  | ends literal => '\x7b' ∉ literal
  | unclosed literal after => '\x7b' ∉ literal ∧ '\x7d' ∉ after
  | placeholder literal name rest => '\x7b' ∉ literal ∧ '\x7d' ∉ name ∧ rest.LeftToRight

/-- Whether this is the reading of a template. -/
def Reads (reading : Reading) (template : String) : Prop :=
  reading.LeftToRight ∧ reading.text = template.toList

/-- Every brace is closed. -/
def Closed : Reading → Prop
  | ends _ => True
  | unclosed _ _ => False
  | placeholder _ _ rest => rest.Closed

/-- The names in braces. -/
def names : Reading → List (List Char)
  | ends _ => []
  | unclosed _ _ => []
  | placeholder _ name rest => name :: rest.names

/-- The text with every name in braces replaced by an encoded value that it is bound to. -/
inductive Yields (binds : String → String → Prop) : Reading → List Char → Prop where
  | ends {literal : List Char} : Yields binds (.ends literal) literal
  | placeholder {literal name text : List Char} {value : String} {rest : Reading}
      (bound : binds (String.ofList name) value) (later : Yields binds rest text) :
      Yields binds (.placeholder literal name rest)
        (literal ++ (Text.percentEncode value.toList ++ text))

/-- What is in the way of filling a template: the first name that is not bound, or the brace that is
not closed if all names before it are bound. -/
inductive Offends (template : String) (binds : String → String → Prop) :
    Reading → Fault.Cause → Prop where
  | unclosed {literal after : List Char} :
      Offends template binds (.unclosed literal after) (.unterminatedPlaceholder template)
  | unbound {literal name : List Char} {rest : Reading}
      (missing : ∀ value, ¬ binds (String.ofList name) value) :
      Offends template binds (.placeholder literal name rest)
        (.missingParameter (String.ofList name) template)
  | later {literal name : List Char} {value : String} {rest : Reading} {cause : Fault.Cause}
      (bound : binds (String.ofList name) value) (offends : Offends template binds rest cause) :
      Offends template binds (.placeholder literal name rest) cause

/-- The segments that are read. -/
def segments : Reading → List Segment
  | ends literal => literal.map .literal
  | unclosed literal _ => literal.map .literal ++ [.unterminated]
  | placeholder literal name rest => literal.map .literal ++ .placeholder name :: rest.segments

theorem unterminated_mem_segments_iff (reading : Reading) :
    .unterminated ∈ reading.segments ↔ ¬ reading.Closed := by
  induction reading with
  | ends literal => simp [segments, Closed]
  | unclosed literal after => simp [segments, Closed]
  | placeholder literal name rest hypothesis => simp [segments, Closed, hypothesis]

/-- A reading yields something exactly if every brace is closed and every name is bound. -/
theorem exists_yields_iff {binds : String → String → Prop} (reading : Reading) :
    (∃ text, reading.Yields binds text) ↔
      reading.Closed ∧ ∀ name ∈ reading.names, ∃ value, binds (String.ofList name) value := by
  induction reading with
  | ends literal => exact ⟨fun _ => ⟨trivial, List.forall_mem_nil _⟩, fun _ => ⟨literal, .ends⟩⟩
  | unclosed literal after =>
      constructor
      · rintro ⟨text, ⟨⟩⟩
      · rintro ⟨⟨⟩, -⟩
  | placeholder literal name rest hypothesis =>
      rw [Closed, names, List.forall_mem_cons]
      constructor
      · rintro ⟨text, _ | ⟨bound, later⟩⟩
        obtain ⟨closed, others⟩ := hypothesis.mp ⟨_, later⟩
        exact ⟨closed, ⟨_, bound⟩, others⟩
      · rintro ⟨closed, ⟨value, bound⟩, others⟩
        obtain ⟨text, later⟩ := hypothesis.mpr ⟨closed, others⟩
        exact ⟨_, .placeholder bound later⟩

end Reading

/-! ## Every template has one reading -/

/-- A text is divided at the first of its marks in one way. -/
theorem divided_at_mark {mark : Char} {before other rest others : List Char}
    (plain : mark ∉ before) (otherPlain : mark ∉ other)
    (same : before ++ mark :: rest = other ++ mark :: others) : before = other ∧ rest = others := by
  induction before generalizing other with
  | nil =>
      cases other with
      | nil => exact ⟨rfl, (List.cons.inj same).2⟩
      | cons c other =>
          obtain ⟨rfl, -⟩ := List.cons.inj same
          exact absurd List.mem_cons_self otherPlain
  | cons c before hypothesis =>
      cases other with
      | nil =>
          obtain ⟨rfl, -⟩ := List.cons.inj same
          exact absurd List.mem_cons_self plain
      | cons d other =>
          obtain ⟨rfl, later⟩ := List.cons.inj same
          rw [List.mem_cons, not_or] at plain otherPlain
          obtain ⟨rfl, behind⟩ := hypothesis plain.2 otherPlain.2 later
          exact ⟨rfl, behind⟩

theorem exists_reading (text : List Char) :
    ∃ reading : Reading, reading.LeftToRight ∧ reading.text = text := by
  by_cases opened : '\x7b' ∈ text
  · obtain ⟨literal, after, rfl, plain⟩ := List.eq_append_cons_of_mem opened
    by_cases closed : '\x7d' ∈ after
    · obtain ⟨name, later, rfl, whole⟩ := List.eq_append_cons_of_mem closed
      obtain ⟨rest, leftToRight, rfl⟩ := exists_reading later
      exact ⟨.placeholder literal name rest, ⟨plain, whole, leftToRight⟩, rfl⟩
    · exact ⟨.unclosed literal after, ⟨plain, closed⟩, rfl⟩
  · exact ⟨.ends text, opened, rfl⟩
termination_by text.length
decreasing_by
  subst_vars
  simp only [List.length_append, List.length_cons]
  omega

namespace Reading

/-- What is opened is no text to the end. -/
theorem ends_ne_of_text {literal before after : List Char} (plain : '\x7b' ∉ literal) :
    literal ≠ before ++ '\x7b' :: after := by
  rintro rfl
  exact plain (List.mem_append_right _ List.mem_cons_self)

/-- **Two readings of one text are one reading.** -/
theorem eq_of_text {reading other : Reading} (leftToRight : reading.LeftToRight)
    (otherLeftToRight : other.LeftToRight) (same : reading.text = other.text) :
    reading = other := by
  induction reading generalizing other with
  | ends literal =>
      cases other with
      | ends otherLiteral => exact congrArg ends same
      | unclosed otherLiteral after => exact absurd same (ends_ne_of_text leftToRight)
      | placeholder otherLiteral name rest => exact absurd same (ends_ne_of_text leftToRight)
  | unclosed literal after =>
      obtain ⟨plain, unclosed⟩ := leftToRight
      cases other with
      | ends otherLiteral => exact absurd same.symm (ends_ne_of_text otherLeftToRight)
      | unclosed otherLiteral otherAfter =>
          obtain ⟨rfl, rfl⟩ := divided_at_mark plain otherLeftToRight.1 same
          rfl
      | placeholder otherLiteral name rest =>
          obtain ⟨-, rfl⟩ := divided_at_mark plain otherLeftToRight.1 same
          exact absurd (List.mem_append_right _ List.mem_cons_self) unclosed
  | placeholder literal name rest hypothesis =>
      obtain ⟨plain, whole, later⟩ := leftToRight
      cases other with
      | ends otherLiteral => exact absurd same.symm (ends_ne_of_text otherLeftToRight)
      | unclosed otherLiteral after =>
          obtain ⟨-, rfl⟩ := divided_at_mark plain otherLeftToRight.1 same
          exact absurd (List.mem_append_right _ List.mem_cons_self) otherLeftToRight.2
      | placeholder otherLiteral otherName otherRest =>
          obtain ⟨otherPlain, otherWhole, otherLater⟩ := otherLeftToRight
          obtain ⟨rfl, inside⟩ := divided_at_mark plain otherPlain same
          obtain ⟨rfl, behind⟩ := divided_at_mark whole otherWhole inside
          rw [hypothesis later otherLater behind]

end Reading

/-- **Every template has one reading.** -/
theorem existsUnique_reading (template : String) :
    ∃! reading : Reading, reading.Reads template := by
  obtain ⟨reading, leftToRight, text⟩ := exists_reading template.toList
  refine ⟨reading, ⟨leftToRight, text⟩, fun other reads => ?_⟩
  exact Reading.eq_of_text reads.1 leftToRight (reads.2.trans text.symm)

/-! ## The segments of a reading -/

theorem scan_literal {literal : List Char} (plain : '\x7b' ∉ literal) (rest : List Char) :
    scan none (literal ++ rest) = literal.map .literal ++ scan none rest := by
  induction literal with
  | nil => rfl
  | cons c literal hypothesis =>
      rw [List.mem_cons, not_or] at plain
      rw [List.cons_append, scan, if_neg fun same => plain.1 same.symm, hypothesis plain.2,
        List.map_cons, List.cons_append]

theorem scan_unclosed {after : List Char} (unclosed : '\x7d' ∉ after) :
    ∀ read, scan (some read) after = [.unterminated] := by
  induction after with
  | nil => exact fun _ => rfl
  | cons c after hypothesis =>
      intro read
      rw [List.mem_cons, not_or] at unclosed
      rw [scan, if_neg fun same => unclosed.1 same.symm, hypothesis unclosed.2]

/-- **The segments of a template are those of its reading.** -/
theorem scan_text {reading : Reading} (leftToRight : reading.LeftToRight) :
    scan none reading.text = reading.segments := by
  induction reading with
  | ends literal =>
      have scanned := scan_literal leftToRight []
      rwa [List.append_nil, scan, List.append_nil] at scanned
  | unclosed literal after =>
      rw [Reading.text, scan_literal leftToRight.1, scan, if_pos rfl, scan_unclosed leftToRight.2]
      rfl
  | placeholder literal name rest hypothesis =>
      obtain ⟨plain, whole, later⟩ := leftToRight
      rw [Reading.text, scan_literal plain, scan, if_pos rfl, scan_name whole, hypothesis later]
      rfl

theorem segments_of_reads {reading : Reading} {template : String} (reads : reading.Reads template) :
    segments template = reading.segments := by
  rw [segments, ← reads.2, scan_text reads.1]

/-! ## Filling what was read -/

/-- What a name is bound to: the id to the identifier of the object, and every other name to its
parameter. -/
inductive Binds (parameters : Parameters) (id : Option String) : String → String → Prop where
  | id {value : String} (given : id = some value) : Binds parameters id "id" value
  | parameter {name value : String} (other : name ≠ "id")
      (given : parameters.get? name = some value) : Binds parameters id name value

section Fill

variable {template : String} {parameters : Parameters} {id : Option String}

theorem value_eq_some_iff {name value : String} :
    value? parameters id name = some value ↔ Binds parameters id name value := by
  unfold value?
  split
  · rename_i isId
    subst isId
    constructor
    · exact .id
    · rintro (given | ⟨other, -⟩)
      · exact given
      · exact absurd rfl other
  · rename_i other
    constructor
    · exact .parameter other
    · rintro (given | ⟨-, given⟩)
      · exact absurd rfl other
      · exact given

theorem value_eq_none_iff {name : String} :
    value? parameters id name = none ↔ ∀ value, ¬ Binds parameters id name value := by
  simp only [← value_eq_some_iff, Option.eq_none_iff_forall_ne_some, ne_eq]

theorem fill_literals (literal : List Char) (rest : List Segment) :
    fill template parameters id (literal.map .literal ++ rest) =
      (fill template parameters id rest).map (literal ++ ·) := by
  induction literal with
  | nil =>
      rw [List.map_nil, List.nil_append]
      cases fill template parameters id rest with
      | error fault => rfl
      | ok text => rfl
  | cons c literal hypothesis =>
      rw [List.map_cons, List.cons_append, fill, hypothesis]
      cases fill template parameters id rest with
      | error fault => rfl
      | ok text => rfl

/-- Text without placeholders is filled to itself. -/
theorem fill_literal (literal : List Char) :
    fill template parameters id (literal.map .literal) = .ok literal := by
  have filled : fill template parameters id (literal.map .literal ++ []) = _ :=
    fill_literals literal []
  rw [List.append_nil] at filled
  rw [filled, fill, Except.map, List.append_nil]

/-- **What a template is filled to is what its reading yields.** -/
theorem fill_reading_ok_iff {reading : Reading} {text : List Char} :
    fill template parameters id reading.segments = .ok text ↔
      reading.Yields (Binds parameters id) text := by
  induction reading generalizing text with
  | ends literal =>
      rw [Reading.segments, fill_literal]
      constructor
      · rintro ⟨⟩
        exact .ends
      · rintro ⟨⟩
        rfl
  | unclosed literal after =>
      rw [Reading.segments, fill_literals, fill]
      constructor
      · rintro ⟨⟩
      · rintro ⟨⟩
  | placeholder literal name rest hypothesis =>
      rw [Reading.segments, fill_literals, Call.map_eq_ok_iff]
      constructor
      · rintro ⟨filled, known, rfl⟩
        obtain ⟨value, tail, found, later, rfl⟩ := exists_of_fill_placeholder known
        exact .placeholder (value_eq_some_iff.mp found) (hypothesis.mp later)
      · rintro (_ | ⟨bound, later⟩)
        refine ⟨_, ?_, rfl⟩
        rw [fill, value_eq_some_iff.mpr bound]
        dsimp only
        rw [hypothesis.mpr later]
        rfl

/-- **A template is not filled because of the first thing in the way.** -/
theorem fill_reading_error_iff {reading : Reading} {fault : Fault} :
    fill template parameters id reading.segments = .error fault ↔
      ∃ cause, fault = .of cause ∧ reading.Offends template (Binds parameters id) cause := by
  induction reading with
  | ends literal =>
      rw [Reading.segments, fill_literal]
      constructor
      · rintro ⟨⟩
      · rintro ⟨cause, -, ⟨⟩⟩
  | unclosed literal after =>
      rw [Reading.segments, fill_literals, fill, Call.map_eq_error_iff]
      constructor
      · rintro ⟨⟩
        exact ⟨_, rfl, .unclosed⟩
      · rintro ⟨cause, rfl, ⟨⟩⟩
        rfl
  | placeholder literal name rest hypothesis =>
      rw [Reading.segments, fill_literals, Call.map_eq_error_iff, fill]
      cases found : value? parameters id (String.ofList name) with
      | none =>
          have missing := value_eq_none_iff.mp found
          constructor
          · rintro ⟨⟩
            exact ⟨_, rfl, .unbound missing⟩
          · rintro ⟨cause, rfl, offends⟩
            cases offends with
            | unbound => rfl
            | later bound => exact absurd bound (missing _)
      | some value =>
          have bound := value_eq_some_iff.mp found
          dsimp only
          rw [Call.map_eq_error_iff, hypothesis]
          refine exists_congr fun cause => and_congr_right fun _ => ?_
          constructor
          · exact .later bound
          · intro offends
            cases offends with
            | unbound missing => exact absurd bound (missing value)
            | later _ offends => exact offends

/-! ## One template after another -/

/-- What is put in front of the first of two texts is put in front of both. -/
theorem map_append_bind (front : List Char) (first second : Except Fault (List Char)) :
    (do
      let text ← first.map (front ++ ·)
      let other ← second
      pure (text ++ other)) =
    (do
      let text ← first
      let other ← second
      pure (text ++ other)).map (front ++ ·) := by
  cases first with
  | error fault => rfl
  | ok text =>
      cases second with
      | error fault => rfl
      | ok other => exact congrArg Except.ok (List.append_assoc ..)

theorem fill_append (segments others : List Segment) :
    fill template parameters id (segments ++ others) = (do
      let first ← fill template parameters id segments
      let second ← fill template parameters id others
      pure (first ++ second)) := by
  induction segments with
  | nil =>
      rw [List.nil_append]
      cases fill template parameters id others with
      | error fault => rfl
      | ok text => rfl
  | cons segment rest hypothesis =>
      cases segment with
      | literal c =>
          rw [List.cons_append, fill, fill, hypothesis]
          exact (map_append_bind [c] _ _).symm
      | placeholder name =>
          rw [List.cons_append, fill, fill]
          cases value? parameters id (String.ofList name) with
          | none => rfl
          | some value =>
              dsimp only
              rw [hypothesis]
              exact (map_append_bind (Text.percentEncode value.toList) _ _).symm
      | unterminated => rfl

/-- Computing something from a text leaves the fault as it is. -/
theorem mapError_map {α β : Type} (f : α → β) (change : Fault → Fault) (known : Except Fault α) :
    (known.map f).mapError change = (known.mapError change).map f := by
  cases known with
  | error fault => rfl
  | ok result => rfl

/-- Which template faults quote makes no other difference. -/
theorem fill_quoting (template other : String) (segments : List Segment) :
    fill other parameters id segments =
      (fill template parameters id segments).mapError (Fault.quoting other) := by
  induction segments with
  | nil => rfl
  | cons segment rest hypothesis =>
      cases segment with
      | literal c => rw [fill, fill, hypothesis, mapError_map]
      | placeholder name =>
          rw [fill, fill]
          cases value? parameters id (String.ofList name) with
          | none => rfl
          | some value =>
              dsimp only
              rw [hypothesis, mapError_map]
      | unterminated => rfl

end Fill

section Expand

variable {parameters : Parameters} {id : Option String}

/-- **One template after another is filled to one text after the other**, or not because of the
first fault of the two, as long as the first template leaves no brace open. -/
theorem expand_append {first : String} (closed : .unterminated ∉ segments first) (second : String) :
    expand (first ++ second) parameters id = (do
        let text ← expand first parameters id
        let other ← expand second parameters id
        pure (text ++ other) : Except Fault String).mapError
      (Fault.quoting (first ++ second)) := by
  have scanned : segments (first ++ second) = segments first ++ segments second := by
    rw [segments, String.toList_append]
    exact scan_append second.toList closed
  rw [expand, expand, expand, scanned, fill_append,
    fill_quoting first (first ++ second), fill_quoting second (first ++ second)]
  cases fill first parameters id (segments first) with
  | error fault => rfl
  | ok text =>
      cases fill second parameters id (segments second) with
      | error fault => rfl
      | ok other => exact congrArg Except.ok String.ofList_append

/-- **Expanding is substitution.** Every template has one reading from left to right. It can be
expanded exactly if every brace of the reading is closed and every name is bound, the id by the
identifier alone and every other name by the parameters alone; the result has the encoded values in
the places of the names. Otherwise the fault is that of the first name that is not bound, or of the
brace that is not closed. What leaves no brace open is expanded by itself in front of any other
template. -/
theorem expand_substitutes (template : String) :
    (∃! reading : Reading, reading.Reads template) ∧
      ∀ reading : Reading, reading.Reads template → ∀ parameters id,
        ((∃ uri, expand template parameters id = .ok uri) ↔ reading.Closed ∧
          ∀ name ∈ reading.names, ∃ value, Binds parameters id (String.ofList name) value) ∧
        (∀ uri, expand template parameters id = .ok uri ↔
          reading.Yields (Binds parameters id) uri.toList) ∧
        (∀ fault, expand template parameters id = .error fault ↔
          ∃ cause, fault = .of cause ∧
            reading.Offends template (Binds parameters id) cause) ∧
        (reading.Closed → ∀ second,
          expand (template ++ second) parameters id = (do
              let text ← expand template parameters id
              let other ← expand second parameters id
              pure (text ++ other) : Except Fault String).mapError
            (Fault.quoting (template ++ second))) := by
  refine ⟨existsUnique_reading template, fun reading reads parameters id => ?_⟩
  have yields : ∀ uri, expand template parameters id = .ok uri ↔
      reading.Yields (Binds parameters id) uri.toList := by
    intro uri
    rw [expand, segments_of_reads reads, Call.map_eq_ok_iff, ← fill_reading_ok_iff]
    constructor
    · rintro ⟨text, filled, rfl⟩
      rw [String.toList_ofList]
      exact filled
    · exact fun filled => ⟨uri.toList, filled, String.ofList_toList⟩
  refine ⟨?_, yields, fun fault => ?_, fun closed second => ?_⟩
  · rw [← Reading.exists_yields_iff, exists_congr yields]
    constructor
    · rintro ⟨uri, yielded⟩
      exact ⟨uri.toList, yielded⟩
    · rintro ⟨text, yielded⟩
      exact ⟨String.ofList text, by rwa [String.toList_ofList]⟩
  · rw [expand, Call.map_eq_error_iff, segments_of_reads reads, fill_reading_error_iff]
  · refine expand_append ?_ second
    rw [segments_of_reads reads, Reading.unterminated_mem_segments_iff]
    exact fun opened => opened closed

/-- A template with a closing brace that closes nothing, and a name with an opening brace in it. -/
def oddTemplate : String := "a\x7db\x7bx\x7by\x7dc"

/-- The odd template is expanded with a value that has braces itself, is not expanded without a
value, and is expanded by itself in front of a template that is not closed. -/
theorem oddTemplate_substitutes :
    ∃ reading : Reading, reading.Reads oddTemplate ∧ reading.Closed ∧
      expand oddTemplate (.ofList [("x\x7by", "\x7bid\x7d")]) (some "7")
        = .ok "a\x7db%7Bid%7Dc" ∧
      expand oddTemplate .empty (some "7")
        = .error (.of (.missingParameter "x\x7by" oddTemplate)) ∧
      expand (oddTemplate ++ "\x7bid") (.ofList [("x\x7by", "7")]) (some "7")
        = .error (.of (.unterminatedPlaceholder (oddTemplate ++ "\x7bid"))) := by
  have reads : (Reading.placeholder "a\x7db".toList "x\x7by".toList (.ends "c".toList)).Reads
      oddTemplate := ⟨⟨by decide, by decide, (by decide : '\x7b' ∉ "c".toList)⟩, by decide⟩
  obtain ⟨-, facts⟩ := expand_substitutes oddTemplate
  refine ⟨_, reads, trivial, ?_, ?_, ?_⟩
  · have bound : Binds (.ofList [("x\x7by", "\x7bid\x7d")]) (some "7")
        (String.ofList "x\x7by".toList) "\x7bid\x7d" := value_eq_some_iff.mp (by decide)
    have yields : Reading.Yields (Binds (.ofList [("x\x7by", "\x7bid\x7d")]) (some "7"))
        (.placeholder "a\x7db".toList "x\x7by".toList (.ends "c".toList))
        ("a\x7db".toList ++ (Text.percentEncode "\x7bid\x7d".toList ++ "c".toList)) :=
      .placeholder bound .ends
    exact ((facts _ reads _ _).2.1 _).mpr yields
  · refine ((facts _ reads _ _).2.2.1 _).mpr ⟨_, rfl, ?_⟩
    exact .unbound (value_eq_none_iff.mp (by decide))
  · rw [(facts _ reads _ _).2.2.2 trivial]
    rfl

end Expand

end Template

end ApplianceConfig
