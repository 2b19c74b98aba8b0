/-
  SecureElement.Proofs.Audit.Message

  Messages that are put together from parts.  Parts that fit all together are all kept
  (`Message.text_ofParts`), and the numerals, codes and refusals that components write about are
  short enough for that.
-/
import SecureElement.Audit.Message
import SecureElement.Refusal

namespace SecureElement

/-! ## Sizes of texts -/

namespace Text

/-- No character takes more than four bytes. -/
theorem utf8ByteSize_ofList_le (chars : List Char) :
    (String.ofList chars).utf8ByteSize ≤ 4 * chars.length := by
  induction chars with
  | nil => exact Nat.le_of_eq String.utf8ByteSize_empty
  | cons char chars ih =>
    have hchar := char.utf8Size_le_four
    rw [String.ofList_cons, String.utf8ByteSize_append, String.utf8ByteSize_singleton,
      List.length_cons]
    omega

theorem utf8ByteSize_join_nil : (String.join []).utf8ByteSize = 0 := by
  rw [String.join_nil, String.utf8ByteSize_empty]

theorem utf8ByteSize_join_cons (part : String) (parts : List String) :
    (String.join (part :: parts)).utf8ByteSize =
      part.utf8ByteSize + (String.join parts).utf8ByteSize := by
  rw [String.join_cons, String.utf8ByteSize_append]

/-- A numeral of a word of 32 bits has ten digits at most. -/
theorem utf8ByteSize_decimal_le (word : UInt32) :
    (decimal word.toNat).utf8ByteSize ≤ 4 * 10 := by
  have hlength : (Nat.toDigits 10 word.toNat).length ≤ 10 :=
    (Nat.length_toDigits_le_iff (by decide) (by decide)).mpr
      (Nat.lt_trans word.toNat_lt (by decide))
  exact Nat.le_trans (utf8ByteSize_ofList_le _) (Nat.mul_le_mul_left 4 hlength)

theorem utf8ByteSize_upperHex_le {width n : Nat} (h : (Nat.toDigits 16 n).length ≤ width) :
    (upperHex width n).utf8ByteSize ≤ 4 * width := by
  refine Nat.le_trans (utf8ByteSize_ofList_le _) (Nat.mul_le_mul_left 4 ?_)
  rw [List.length_leftpad, List.length_map]
  exact Nat.max_le.mpr ⟨Nat.le_refl _, h⟩

theorem utf8ByteSize_upperHex_byte_le (byte : UInt8) :
    (upperHex 2 byte.toNat).utf8ByteSize ≤ 4 * 2 :=
  utf8ByteSize_upperHex_le
    ((Nat.length_toDigits_le_iff (by decide) (by decide)).mpr byte.toNat_lt)

theorem utf8ByteSize_coded_le (code : UInt16) (cause : String) :
    (coded code cause).utf8ByteSize ≤ 21 + cause.utf8ByteSize := by
  have hcode : (upperHex 4 code.toNat).utf8ByteSize ≤ 4 * 4 :=
    utf8ByteSize_upperHex_le
      ((Nat.length_toDigits_le_iff (by decide) (by decide)).mpr code.toNat_lt)
  have hopen : "[0x".utf8ByteSize = 3 := by decide
  have hclose : "] ".utf8ByteSize = 2 := by decide
  simp only [coded, String.utf8ByteSize_append, hopen, hclose]
  omega

end Text

namespace Refusal

theorem utf8ByteSize_cause_le (refusal : Refusal) : refusal.cause.utf8ByteSize ≤ 29 := by
  cases refusal with
  | wrongKey => exact (by decide : "wrong key".utf8ByteSize ≤ 29)
  | throttled => exact (by decide : "slot throttled".utf8ByteSize ≤ 29)
  | _ => decide

/-- The message of a refusal leaves a quarter of an entry for those who write it down. -/
theorem utf8ByteSize_message_le (refusal : Refusal) : refusal.message.utf8ByteSize ≤ 96 := by
  have hcoded := Text.utf8ByteSize_coded_le refusal.status refusal.cause
  have hcause := refusal.utf8ByteSize_cause_le
  rw [message, String.utf8ByteSize_append]
  cases refusal.wait? with
  | none =>
    have hnone : "".utf8ByteSize = 0 := String.utf8ByteSize_empty
    dsimp only
    omega
  | some span =>
    have hspan := Text.utf8ByteSize_decimal_le span.ms
    have hopen : " (".utf8ByteSize = 2 := by decide
    have hclose : " ms)".utf8ByteSize = 4 := by decide
    simp only [String.utf8ByteSize_append, hopen, hclose]
    omega

end Refusal

/-! ## Messages made of parts -/

namespace Message

/-- Parts that fit all together are all appended. -/
theorem text_appendParts {message : Message} {parts : List String}
    (h : (message.text ++ String.join parts).utf8ByteSize ≤ limit) :
    (message.appendParts parts).text = message.text ++ String.join parts := by
  induction parts generalizing message with
  | nil => rw [appendParts, String.join_nil, String.append_empty]
  | cons part parts ih =>
    rw [String.join_cons, ← String.append_assoc] at h ⊢
    have hpart : (message.text ++ part).utf8ByteSize ≤ limit := by
      rw [String.utf8ByteSize_append] at h
      omega
    rw [appendParts, append?, dif_pos hpart]
    exact ih h

/-- A message loses nothing of parts that fit. -/
theorem text_ofParts {parts : List String} (h : (String.join parts).utf8ByteSize ≤ limit) :
    (ofParts parts).text = String.join parts := by
  have hempty : empty.text ++ String.join parts = String.join parts := String.empty_append
  rw [ofParts, text_appendParts (by rwa [hempty]), hempty]

end Message

end SecureElement
