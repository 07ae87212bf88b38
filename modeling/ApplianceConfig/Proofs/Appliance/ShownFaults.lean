import ApplianceConfig.Proofs.Appliance.Refusals
import ApplianceConfig.Proofs.Json.DecimalText
import Mathlib.Data.String.Basic

/-!
# What is shown of a fault

What is shown of a fault has no control characters, whatever the appliance or the files put into it
(`Fault.shown_clean`).

A refusal is told by the hint for its status and by the message of the appliance, if there is one
(`Message.ShownFor`). A message of more than 200 bytes is cut to the longest beginning that fits,
and marked with its length (`Message.Sanitised`). It is cut before the control characters are left
out, so these count among the bytes. What the calls around a refusal were doing is not shown.

Of every other fault the contexts and the cause are shown, up to 160 characters, and dots tell that
something was left out.
-/

set_option autoImplicit false

namespace ApplianceConfig

open Call

/-! ## Control characters -/

namespace Text

/-- Whether there are no control characters in a text. -/
def FreeOfControls (text : String) : Prop := ∀ c ∈ text.toList, isControl c = false

instance (text : String) : Decidable (FreeOfControls text) :=
  decidable_of_iff (text.toList.all fun c => !isControl c) (by simp [FreeOfControls])

theorem freeOfControls_append {text other : String} (first : FreeOfControls text)
    (second : FreeOfControls other) : FreeOfControls (text ++ other) := by
  rw [FreeOfControls, String.toList_append]
  exact List.forall_mem_append.mpr ⟨first, second⟩

theorem freeOfControls_withoutControls (text : String) : FreeOfControls (withoutControls text) := by
  intro c member
  rw [withoutControls, String.toList_ofList] at member
  simpa using (List.mem_filter.mp member).2

/-- Nothing is left out of a text without control characters. -/
theorem withoutControls_append {text : String} (other : String) (free : FreeOfControls other) :
    withoutControls (text ++ other) = withoutControls text ++ other := by
  have kept : other.toList.filter (fun c => !isControl c) = other.toList :=
    List.filter_eq_self.mpr fun c member => by rw [free c member]; rfl
  rw [withoutControls, withoutControls, String.toList_append, List.filter_append, kept,
    String.ofList_append, String.ofList_toList]

/-- The digits of a number are no control characters. -/
theorem freeOfControls_toString (n : Nat) : FreeOfControls (toString n) := by
  intro c member
  have digit := Numeral.isDigit_iff.mp (Numeral.isDigit_of_mem_toDigits (Nat.toList_repr ▸ member))
  simp [isControl, inRanges]
  omega

end Text

theorem Status.freeOfControls_hint (status : Status) : Text.FreeOfControls status.hint := by
  unfold Status.hint
  split
  all_goals decide

/-! ## Messages -/

namespace Message

/-- What is kept of a text if there is room for so many bytes: no longer beginning of the text
fits. -/
structure LongestBeginning (room : Nat) (text kept : String) : Prop where
  beginning : kept.toList <+: text.toList
  fits : kept.utf8ByteSize ≤ room
  longest : ∀ other : String, other.toList <+: text.toList → other.utf8ByteSize ≤ room →
    other.toList <+: kept.toList

theorem takeBytes_prefix (room : Nat) (text : List Char) : takeBytes room text <+: text := by
  induction text generalizing room with
  | nil => exact List.prefix_rfl
  | cons c rest hypothesis =>
      rw [takeBytes]
      split
      · exact (List.prefix_cons_inj c).mpr (hypothesis _)
      · exact List.nil_prefix

theorem takeBytes_fits (room : Nat) (text : List Char) :
    String.utf8Len (takeBytes room text) ≤ room := by
  induction text generalizing room with
  | nil => exact Nat.zero_le room
  | cons c rest hypothesis =>
      rw [takeBytes]
      split
      · rename_i fits
        rw [String.utf8Len_cons]
        exact Nat.add_le_of_le_sub fits (hypothesis _)
      · exact Nat.zero_le room

theorem prefix_takeBytes {room : Nat} {text other : List Char} (beginning : other <+: text)
    (fits : String.utf8Len other ≤ room) : other <+: takeBytes room text := by
  induction text generalizing room other with
  | nil => exact beginning
  | cons c rest hypothesis =>
      cases other with
      | nil => exact List.nil_prefix
      | cons first others =>
          obtain ⟨rfl, behind⟩ := List.cons_prefix_cons.mp beginning
          rw [String.utf8Len_cons] at fits
          rw [takeBytes, if_pos (Nat.le_trans (Nat.le_add_left _ _) fits)]
          exact (List.prefix_cons_inj first).mpr (hypothesis behind (Nat.le_sub_of_add_le fits))

/-- What is taken of a text is the longest beginning that fits. -/
theorem longestBeginning_takeBytes (room : Nat) (text : String) :
    LongestBeginning room text (String.ofList (takeBytes room text.toList)) where
  beginning := by
    rw [String.toList_ofList]
    exact takeBytes_prefix room text.toList
  fits := by
    rw [String.utf8ByteSize_ofList]
    exact takeBytes_fits room text.toList
  longest other beginning fits := by
    rw [String.toList_ofList]
    exact prefix_takeBytes beginning (String.utf8Len_toList other ▸ fits)

/-- A character of two bytes does not fit into the last byte. -/
example : takeBytes 200 (List.replicate 199 'a' ++ ['é', 'a']) = List.replicate 199 'a' := by
  decide +kernel

theorem LongestBeginning.unique {room : Nat} {text kept other : String}
    (first : LongestBeginning room text kept) (second : LongestBeginning room text other) :
    kept = other := by
  have forth := second.longest kept first.beginning first.fits
  have back := first.longest other second.beginning second.fits
  exact String.toList_inj.mp (forth.eq_of_length (Nat.le_antisymm forth.length_le back.length_le))

/-- What is shown of a message. -/
inductive Sanitised (message : String) : String → Prop where
  /-- A message that is not too long is shown without its control characters. -/
  | whole (short : message.utf8ByteSize ≤ 200) : Sanitised message (Text.withoutControls message)
  /-- Of a longer one the longest beginning is shown without its control characters, and marked. -/
  | cut {kept : String} (long : 200 < message.utf8ByteSize)
      (longest : LongestBeginning 200 message kept) :
      Sanitised message (Text.withoutControls kept ++ "... [truncated, "
        ++ toString message.utf8ByteSize ++ " bytes total]")

theorem clean_eq_of_long {message : String} (long : 200 < message.utf8ByteSize) :
    clean message = Text.withoutControls (String.ofList (takeBytes 200 message.toList))
      ++ "... [truncated, " ++ toString message.utf8ByteSize ++ " bytes total]" := by
  rw [clean, truncated, longest, if_pos long,
    Text.withoutControls_append _ (by decide : Text.FreeOfControls " bytes total]"),
    Text.withoutControls_append _ (Text.freeOfControls_toString _),
    Text.withoutControls_append _ (by decide : Text.FreeOfControls "... [truncated, ")]

theorem sanitised_iff {message text : String} : Sanitised message text ↔ text = clean message := by
  constructor
  · intro sanitised
    cases sanitised with
    | whole short => rw [clean, truncated, longest, if_neg (Nat.not_lt.mpr short)]
    | cut long longest =>
        rw [clean_eq_of_long long, longest.unique (longestBeginning_takeBytes 200 message)]
  · rintro rfl
    by_cases long : 200 < message.utf8ByteSize
    · rw [clean_eq_of_long long]
      exact .cut long (longestBeginning_takeBytes 200 message)
    · rw [clean, truncated, longest, if_neg long]
      exact .whole (Nat.not_lt.mp long)

/-- What is shown of the message in the body of a refusal. -/
inductive ShownFor (body : Bytes) : String → Prop where
  /-- The body is an object with a text as its message. -/
  | told {document : Json} {message text : String}
      (read : Json.read? (Text.decodeLossy body) = some document)
      (field : document.field? "message" = some (.string message))
      (sanitised : Sanitised message text) : ShownFor body text
  /-- Every other body shows nothing. -/
  | silent (nothing : ∀ document message, Json.read? (Text.decodeLossy body) = some document →
      document.field? "message" ≠ some (.string message)) : ShownFor body ""

/-- **Every body shows one text.** -/
theorem shownFor_iff {body : Bytes} {text : String} :
    ShownFor body text ↔ text = ofFailure body := by
  constructor
  · intro shown
    cases shown with
    | told read field sanitised =>
        rw [ofFailure, read]
        dsimp only
        rw [field]
        exact sanitised_iff.mp sanitised
    | silent nothing =>
        unfold ofFailure
        split
        · rename_i document read
          split
          · rename_i message field
            exact absurd field (nothing document message read)
          · rfl
        · rfl
  · rintro rfl
    unfold ofFailure
    split
    · rename_i document read
      split
      · rename_i message field
        exact .told read field (sanitised_iff.mpr rfl)
      · rename_i other
        refine .silent fun known message readToo field => ?_
        obtain rfl := Option.some.inj (read.symm.trans readToo)
        exact other message field
    · rename_i unread
      refine .silent fun document message read => ?_
      rw [unread] at read
      cases read

theorem freeOfControls_ofFailure (body : Bytes) : Text.FreeOfControls (ofFailure body) := by
  unfold ofFailure
  split
  · split
    · exact Text.freeOfControls_withoutControls _
    · decide
  · decide

end Message

/-! ## Faults -/

namespace Fault

/-- The calls around a fault add their contexts and leave its cause. -/
theorem cause_within (contexts : List String) (fault : Fault) :
    (contexts.foldr within fault).cause = fault.cause := by
  induction contexts with
  | nil => rfl
  | cons context rest hypothesis => exact hypothesis

/-- What is shown of a refusal. -/
theorem shown_of_refused {fault : Fault} {status : Status} {message : String}
    (refused : fault.cause = .refused status message) :
    fault.shown = if message = "" then status.hint else status.hint ++ " (" ++ message ++ ")" := by
  rw [shown, refused]
  simp

/-- What is shown of every other fault. -/
theorem shown_of_other {fault : Fault} (other : fault.refusal? = none) :
    fault.shown = clean fault.chain := by
  unfold shown
  split
  · rename_i status message refused
    rw [refusal?, refused] at other
    cases other
  · rfl

/-- What takes no fewer bytes leaves nothing out. -/
theorem eq_of_sublist_of_utf8Len_le {kept text : List Char} (sublist : kept.Sublist text)
    (bytes : String.utf8Len text ≤ String.utf8Len kept) : kept = text := by
  induction sublist with
  | slnil => rfl
  | cons c shorter hypothesis =>
      have fewer := String.utf8Len_le_of_sublist shorter
      have positive := c.utf8Size_pos
      rw [String.utf8Len_cons] at bytes
      omega
  | cons_cons c shorter hypothesis =>
      rw [hypothesis (Nat.le_of_add_le_add_right bytes)]

/-- **A text is cut to its first characters**, and dots tell that something was left out. -/
theorem toList_clean (text : String) :
    (clean text).toList =
      (text.toList.filter fun c => !Text.isControl c).take 160 ++
        if (text.toList.filter fun c => !Text.isControl c).take 160 = text.toList then []
        else ['.', '.', '.'] := by
  have part : ((text.toList.filter fun c => !Text.isControl c).take 160).Sublist text.toList :=
    (List.take_sublist _ _).trans List.filter_sublist
  rw [clean, longestShown, String.utf8ByteSize_ofList, ← String.utf8Len_toList]
  split
  · rename_i fewer
    rw [if_neg fun whole => Nat.lt_irrefl _ (whole ▸ fewer), String.toList_append,
      String.toList_ofList]
    rfl
  · rename_i bytes
    rw [if_pos (eq_of_sublist_of_utf8Len_le part (Nat.not_lt.mp bytes)), String.toList_ofList,
      List.append_nil]

theorem freeOfControls_clean (text : String) : Text.FreeOfControls (clean text) := by
  intro c member
  rw [toList_clean, List.mem_append] at member
  rcases member with kept | dot
  · simpa using (List.mem_filter.mp (List.mem_of_mem_take kept)).2
  · split at dot
    · cases dot
    · exact (by decide : Text.FreeOfControls "...") c dot

/-! ## The main result -/

/-- **What is shown of a fault is clean and bounded.** A reply that reports no success makes a fault
for which one text is shown, whatever its status and body are and whatever the calls around it add:
the hint for the status, and in parentheses what is shown of the message in the body, if that is not
empty. Of every other fault the first 160 characters that are no control characters are shown of the
contexts and the cause, followed by dots exactly if this is not all of them. None of these texts has
control characters. -/
theorem shown_clean :
    (∀ (client : Client) (request : Request) (reply : Reply) (outcome : Except Fault Bytes),
      reply.status.isSuccess = false →
      Runs (client.send request) [⟨.exchange client.side request, .ok reply⟩] outcome →
        ∃ fault message, outcome = .error fault ∧
          (∀ text, Message.ShownFor (reply.body.toOption.getD []) text ↔ text = message) ∧
          ∀ contexts : List String,
            (contexts.foldr within fault).shown =
              (if message = "" then reply.status.hint
                else reply.status.hint ++ " (" ++ message ++ ")") ∧
            Text.FreeOfControls (contexts.foldr within fault).shown) ∧
    ∀ fault : Fault, fault.refusal? = none →
      (fault.shown.toList =
        (fault.chain.toList.filter fun c => !Text.isControl c).take 160 ++
          if (fault.chain.toList.filter fun c => !Text.isControl c).take 160 = fault.chain.toList
          then [] else ['.', '.', '.']) ∧
      Text.FreeOfControls fault.shown := by
  constructor
  · intro client request reply outcome failed run
    obtain ⟨arrived, same, rfl⟩ := Client.runs_send_iff.mp run
    cases same
    have told : Client.received (.ok reply) =
        .error (.of (.refused reply.status (Message.ofFailure (reply.body.toOption.getD [])))) := by
      change Client.bodyOf reply = _
      rw [Client.bodyOf, failed]
      rfl
    refine ⟨_, _, told, fun text => Message.shownFor_iff, fun contexts => ?_⟩
    have shown := shown_of_refused (cause_within contexts
      (.of (.refused reply.status (Message.ofFailure (reply.body.toOption.getD [])))))
    refine ⟨shown, ?_⟩
    rw [shown]
    have hint := reply.status.freeOfControls_hint
    split
    · exact hint
    · exact Text.freeOfControls_append (Text.freeOfControls_append (Text.freeOfControls_append hint
        (by decide)) (Message.freeOfControls_ofFailure _)) (by decide)
  · intro fault other
    rw [shown_of_other other]
    exact ⟨toList_clean fault.chain, freeOfControls_clean fault.chain⟩

/-- A body whose message has an escape that would colour a terminal. -/
def colouredBody : Bytes := Text.utf8 "\x7b\"message\":\"\\u001b[31mno host\"\x7d"

/-- The escape is left out of the message, and the contexts are not shown with it. A bell in another
fault is left out as well, and the dots tell of it. -/
theorem shown_clean_of_colouredBody :
    ∃ (client : Client) (request : Request) (fault : Fault),
      Runs (client.send request) [⟨.exchange client.side request, .ok ⟨⟨404⟩, .ok colouredBody⟩⟩]
        (.error fault) ∧
      ((fault.within "junctions").within "apply").shown = "Resource not found. ([31mno host)" ∧
      (⟨["Failed to read bell\x07"], .file .missing⟩ : Fault).shown.toList =
        "Failed to read bell: No such file or directory (os error 2)...".toList := by
  obtain ⟨refusals, others⟩ := shown_clean
  let client : Client := ⟨.left, "https://one", ⟨"admin", "admin"⟩⟩
  let request := client.request .get "/hosts" documentForm .nothing
  let reply : Reply := ⟨⟨404⟩, .ok colouredBody⟩
  have run : Runs (client.send request) [⟨.exchange client.side request, .ok reply⟩]
      (Client.received (.ok reply)) := Client.runs_send_iff.mpr ⟨_, rfl, rfl⟩
  obtain ⟨fault, message, failed, only, shown⟩ := refusals client request reply _ rfl run
  obtain rfl : "[31mno host" = message :=
    (only _).mp (Message.shownFor_iff.mpr (by decide +kernel))
  rw [failed] at run
  refine ⟨client, request, fault, run, ?_, ?_⟩
  · exact (shown ["apply", "junctions"]).1.trans (by decide)
  · rw [(others _ rfl).1]
    decide +kernel

end Fault

end ApplianceConfig
