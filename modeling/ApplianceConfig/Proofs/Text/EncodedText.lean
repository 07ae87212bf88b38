import ApplianceConfig.Text.Utf8

/-!
# Encoded text is read back

A character is encoded in one to four bytes. Its first byte tells how many follow and carries the
highest bits, and each of the others carries six more. The bounds for the second byte are the ones
that keep out overlong encodings, surrogates and what lies beyond the last code point, so no
character is caught by them (`Text.decodeParts_character`). Hence a text is decoded as it was
encoded, by the lossy decoding (`Text.decodeLossy_utf8`) and by the one that refuses what is ill
formed (`Text.decode_utf8`).
-/

set_option autoImplicit false

namespace ApplianceConfig.Text

/-! ## Single bytes -/

/-- The first byte of two. -/
theorem leadByte_two : ∀ high < 32, high < 2 ∨
    leadByte? (high + 192) = some (high, 1, 0x80, 0xBF) := by
  decide

/-- The first byte of three. With no bits of its own it asks for a second byte that makes up for
them, and with the bits of surrogates for one that stays below them. -/
theorem leadByte_three : ∀ high < 16, leadByte? (high + 224) =
    some (high, 2, if high = 0 then 0xA0 else 0x80, if high = 13 then 0x9F else 0xBF) := by
  decide

/-- The first byte of four. -/
theorem leadByte_four : ∀ high < 5, leadByte? (high + 240) =
    some (high, 3, if high = 0 then 0x90 else 0x80, if high = 4 then 0x8F else 0xBF) := by
  decide

/-- A following byte adds its six bits. -/
theorem tailBytes_cons {bits count least greatest low : Nat} {rest : List UInt8} (small : low < 64)
    (above : least ≤ low + 128) (below : low + 128 ≤ greatest) :
    tailBytes bits (count + 1) least greatest (UInt8.ofNat (low + 128) :: rest) =
      tailBytes (bits * 64 + low) count 0x80 0xBF rest := by
  have byte : (UInt8.ofNat (low + 128)).toNat = low + 128 :=
    UInt8.toNat_ofNat_of_lt (Nat.lt_of_lt_of_le (Nat.add_lt_add_right small 128) (by decide))
  rw [tailBytes, byte, if_pos ⟨above, below⟩, Nat.add_sub_cancel]

/-! ## Single characters -/

/-- **A character at the start is decoded as it was encoded.** -/
theorem decodeParts_character (fuel : Nat) (c : Char) (rest : List UInt8) :
    decodeParts (fuel + 1) (String.utf8EncodeChar c ++ rest) = some c :: decodeParts fuel rest := by
  have started {byte bits count least greatest : Nat} {behind : List UInt8} (small : byte < 256)
      (lead : leadByte? byte = some (bits, count, least, greatest))
      (joined : tailBytes bits count least greatest behind = (some c.toNat, rest)) :
      decodeParts (fuel + 1) (UInt8.ofNat byte :: behind) = some c :: decodeParts fuel rest := by
    rw [decodeParts, UInt8.toNat_ofNat_of_lt' small, lead]
    dsimp only
    rw [joined, Option.map_some, Char.ofNat_toNat]
  -- Surrogates are no characters, and the last code point stands below 17 * 65536.
  have valid : c.toNat < 0xD800 ∨ 0xDFFF < c.toNat ∧ c.toNat < 0x110000 := c.valid
  have follows (n : Nat) : n % 64 < 64 := Nat.mod_lt n (by decide)
  fun_cases String.utf8EncodeChar c with
  | case1 point one => exact started (by omega) (if_pos (by omega)) rfl
  | case2 point more two =>
      have same : c.toNat = point := rfl
      have lead := (leadByte_two (point / 64 % 32) (by omega)).resolve_left (by omega)
      refine started (by omega) lead ?_
      simp only [List.append_eq, List.cons_append, List.nil_append]
      rw [tailBytes_cons (follows _) (by omega) (by omega),
        tailBytes, same]
      congr 2
      omega
  | case3 point more most three =>
      have same : c.toNat = point := rfl
      have lead := leadByte_three (point / 4096 % 16) (by omega)
      refine started (by omega) lead ?_
      simp only [List.append_eq, List.cons_append, List.nil_append]
      rw [tailBytes_cons (follows _) (by split <;> omega) (by split <;> omega),
        tailBytes_cons (follows _) (by omega) (by omega), tailBytes, same]
      congr 2
      omega
  | case4 point more most last =>
      have same : c.toNat = point := rfl
      have lead := leadByte_four (point / 262144 % 8) (by omega)
      refine started (by omega) lead ?_
      simp only [List.append_eq, List.cons_append, List.nil_append]
      rw [tailBytes_cons (follows _) (by split <;> omega) (by split <;> omega),
        tailBytes_cons (follows _) (by omega) (by omega),
        tailBytes_cons (follows _) (by omega) (by omega), tailBytes, same]
      congr 2
      omega

/-! ## Texts -/

/-- The bytes of characters are decoded as the characters, with as much fuel as there are
characters or more. -/
theorem decodeParts_characters (text : List Char) {fuel : Nat} (enough : text.length ≤ fuel) :
    decodeParts fuel (text.flatMap String.utf8EncodeChar) = text.map some := by
  induction text generalizing fuel with
  | nil => cases fuel <;> rfl
  | cons c rest hypothesis =>
      obtain ⟨fuel, rfl⟩ := Nat.exists_eq_succ_of_ne_zero (Nat.ne_zero_of_lt enough)
      rw [List.flatMap_cons, decodeParts_character, List.map_cons,
        hypothesis (Nat.le_of_succ_le_succ enough)]

/-- Every character takes at least one byte. -/
theorem length_le_encoded (text : List Char) :
    text.length ≤ (text.flatMap String.utf8EncodeChar).length := by
  induction text with
  | nil => exact Nat.le_refl 0
  | cons c rest hypothesis =>
      have taken : 0 < (String.utf8EncodeChar c).length :=
        List.length_pos_iff.mpr String.utf8EncodeChar_ne_nil
      rw [List.flatMap_cons, List.length_append, List.length_cons]
      omega

theorem decodeParts_utf8 (text : String) :
    decodeParts (utf8 text).length (utf8 text) = text.toList.map some :=
  decodeParts_characters text.toList (length_le_encoded text.toList)

/-- **A text is decoded as it was encoded.** -/
theorem decode_utf8 (text : String) : decode? (utf8 text) = some text := by
  have whole : (text.toList.map some).mapM (fun part : Option Char => part) = some text.toList := by
    rw [List.mapM_map]
    exact List.mapM_pure.trans (congrArg some (List.map_id text.toList))
  rw [decode?, decodeParts_utf8, whole, Option.map_some, String.ofList_toList]

/-- **Nothing in an encoded text is ill formed**, so nothing of it is replaced. -/
theorem decodeLossy_utf8 (text : String) : decodeLossy (utf8 text) = text := by
  have kept : (fun part : Option Char => part.getD (Char.ofNat 0xFFFD)) ∘ some = id := rfl
  rw [decodeLossy, decodeParts_utf8, List.map_map, kept, List.map_id, String.ofList_toList]

end ApplianceConfig.Text
