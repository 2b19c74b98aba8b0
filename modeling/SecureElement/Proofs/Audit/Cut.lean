/-
  SecureElement.Proofs.Audit.Cut

  Where a text is cut that is too long for a message.  A boundary of a text is an offset in bytes at
  which it comes apart into two texts.  No character takes more than four bytes, so of four offsets in a
  row one is a boundary, and the search for one that starts at the limit ends after three steps back at
  most (`Text.Retreats` is that search, test by test).  What it finds is the last boundary within the
  limit, and so the message of an entry holds the longest beginning of the text that fits
  (`Text.IsCut`).
-/
import SecureElement.Audit.Entry

namespace SecureElement

namespace Text

variable {text : String} {offset : Nat}

/-! ## Boundaries -/

/-- Whether a text comes apart into two texts at an offset. -/
def IsBoundary (text : String) (offset : Nat) : Prop :=
  ∃ before after : String, before ++ after = text ∧ before.utf8ByteSize = offset

theorem isBoundary_zero (text : String) : IsBoundary text 0 :=
  ⟨"", text, String.empty_append, String.utf8ByteSize_empty⟩

/-- The boundaries of a text are also found with other text before it. -/
theorem IsBoundary.append_left (h : IsBoundary text offset) (front : String) :
    IsBoundary (front ++ text) (front.utf8ByteSize + offset) := by
  obtain ⟨before, after, rfl, rfl⟩ := h
  exact ⟨front ++ before, after, String.append_assoc, String.utf8ByteSize_append⟩

/-- The offsets that pass the test of the search are the boundaries. -/
theorem isValid_iff_isBoundary :
    (String.Pos.Raw.mk offset).isValid text = true ↔ IsBoundary text offset := by
  rw [String.Pos.Raw.isValid_eq_true_iff, String.Pos.Raw.isValid_iff_exists_append]
  constructor
  · rintro ⟨before, after, htext, hoffset⟩
    exact ⟨before, after, htext.symm, (congrArg String.Pos.Raw.byteIdx hoffset).symm⟩
  · rintro ⟨before, after, htext, hoffset⟩
    exact ⟨before, after, htext.symm, String.Pos.Raw.ext hoffset.symm⟩

/-- Of four offsets in a row that lie in a text, one is a boundary. -/
theorem exists_isBoundary (chars : List Char) (h : offset ≤ (String.ofList chars).utf8ByteSize) :
    ∃ boundary, IsBoundary (String.ofList chars) boundary ∧
      boundary ≤ offset ∧ offset ≤ boundary + 3 := by
  -- the offset lies in the first character, which is short, or behind it
  induction chars generalizing offset with
  | nil =>
    have hzero : offset = 0 := Nat.le_zero.mp h
    exact ⟨0, isBoundary_zero _, by omega, by omega⟩
  | cons char chars ih =>
    rw [String.ofList_cons] at h ⊢
    have hchar : (String.singleton char).utf8ByteSize = char.utf8Size :=
      String.utf8ByteSize_singleton
    rw [String.utf8ByteSize_append, hchar] at h
    by_cases hfirst : offset < char.utf8Size
    · have hfour := char.utf8Size_le_four
      exact ⟨0, isBoundary_zero _, by omega, by omega⟩
    · have hrest : offset - char.utf8Size ≤ (String.ofList chars).utf8ByteSize := by omega
      obtain ⟨boundary, hboundary, hle, hnear⟩ := ih hrest
      refine ⟨char.utf8Size + boundary, ?_, by omega, by omega⟩
      rw [← hchar]
      exact hboundary.append_left _

/-! ## The search -/

/-- A search for a boundary, test by test: it ends where a test succeeds and goes back by one byte where
a test fails.  From zero no step leads back. -/
inductive Retreats (text : String) : (offset steps found : Nat) → Prop
  | stop {offset : Nat} (h : IsBoundary text offset) : Retreats text offset 0 offset
  | back {offset steps found : Nat} (h : ¬ IsBoundary text (offset + 1))
      (later : Retreats text offset steps found) : Retreats text (offset + 1) (steps + 1) found

/-- A search has one course. -/
theorem Retreats.unique {steps found steps' found' : Nat} (h : Retreats text offset steps found)
    (h' : Retreats text offset steps' found') : steps = steps' ∧ found = found' := by
  induction h generalizing steps' found' with
  | stop hboundary =>
    cases h' with
    | stop => exact ⟨rfl, rfl⟩
    | back hnone => exact absurd hboundary hnone
  | back hnone _ ih =>
    cases h' with
    | stop hboundary => exact absurd hboundary hnone
    | back _ later =>
      obtain ⟨rfl, rfl⟩ := ih later
      exact ⟨rfl, rfl⟩

/-- The boundary that a text is cut at is found by the search, with one step for each byte that it
goes back. -/
theorem retreats_boundaryUpTo (text : String) (offset : Nat) :
    Retreats text offset (offset - (boundaryUpTo text offset).offset.byteIdx)
      (boundaryUpTo text offset).offset.byteIdx := by
  induction offset with
  -- the definition has no test at zero, which is a boundary of every text
  | zero => exact .stop (isBoundary_zero text)
  | succ offset ih =>
    rw [boundaryUpTo]
    split
    next hvalid =>
      rw [Nat.sub_self]
      exact .stop (isValid_iff_isBoundary.mp hvalid)
    next hinvalid =>
      rw [Nat.succ_sub (boundaryUpTo_le text offset)]
      exact .back (fun h => hinvalid (isValid_iff_isBoundary.mpr h)) ih

/-- No boundary lies between the one found and the offset that the search began at. -/
theorem le_boundaryUpTo {boundary : Nat} (hboundary : IsBoundary text boundary)
    (hle : boundary ≤ offset) : boundary ≤ (boundaryUpTo text offset).offset.byteIdx := by
  induction offset with
  | zero => exact Nat.le_trans hle (Nat.zero_le _)
  | succ offset ih =>
    rw [boundaryUpTo]
    split
    next => exact hle
    next hinvalid =>
      have hne : boundary ≠ offset + 1 := by
        rintro rfl
        exact hinvalid (isValid_iff_isBoundary.mpr hboundary)
      exact ih (by omega)

/-- A search in a text takes three steps at most. -/
theorem le_boundaryUpTo_add_three (h : offset ≤ text.utf8ByteSize) :
    offset ≤ (boundaryUpTo text offset).offset.byteIdx + 3 := by
  obtain ⟨chars, rfl⟩ := text.exists_eq_ofList
  obtain ⟨boundary, hboundary, hle, hnear⟩ := exists_isBoundary chars h
  have hfound := le_boundaryUpTo hboundary hle
  omega

/-- Three steps are taken from the last byte of a character of four. -/
example : (boundaryUpTo "a😀" 4).offset.byteIdx = 1 := by
  decide

/-! ## The longest beginning that fits -/

/-- `kept` is the longest beginning of `text` that takes no more than `limit` bytes: any other that
fits is a beginning of it. -/
structure IsCut (text : String) (limit : Nat) (kept : String) : Prop where
  begins : ∃ rest, kept ++ rest = text
  fits : kept.utf8ByteSize ≤ limit
  longest : ∀ {before after : String}, before ++ after = text → before.utf8ByteSize ≤ limit →
    ∃ more, before ++ more = kept

/-- A text that fits is kept whole. -/
theorem IsCut.eq_of_fits {limit : Nat} {kept : String} (h : IsCut text limit kept)
    (hfits : text.utf8ByteSize ≤ limit) : kept = text := by
  obtain ⟨rest, hrest⟩ := h.begins
  have hwhole : text ++ "" = text := String.append_empty
  obtain ⟨more, hmore⟩ := h.longest hwhole hfits
  -- each of the two begins with the other, so nothing follows
  have hsizes := congrArg String.utf8ByteSize hrest
  rw [← hmore, String.utf8ByteSize_append, String.utf8ByteSize_append] at hsizes
  have hnothing : more = "" := String.utf8ByteSize_eq_zero_iff.mp (by omega)
  rw [← hmore, hnothing, String.append_empty]

end Text

namespace Message

open Text

/-- Everything that fits stands before the cut. -/
theorem isCut_ofString (text : String) : IsCut text limit (ofString text).text where
  begins := ⟨(text.sliceFrom (cut text)).copy, (cut text).splits.eq_append.symm⟩
  fits := (ofString text).size_le
  longest := by
    intro before after htext hfits
    have hsplits := String.Pos.splits_ofEqAppend htext.symm
    have hwithin : before.utf8ByteSize ≤ min text.utf8ByteSize limit := by
      have hsizes := congrArg String.utf8ByteSize htext
      rw [String.utf8ByteSize_append] at hsizes
      omega
    have hbefore : String.Pos.ofEqAppend htext.symm ≤ cut text := by
      rw [String.Pos.le_iff, hsplits.offset_eq_rawEndPos]
      exact le_boundaryUpTo ⟨before, after, htext, rfl⟩ hwithin
    obtain ⟨more, hmore, -⟩ := (hsplits.le_iff_exists_eq_append (cut text).splits).mp hbefore
    exact ⟨more, hmore.symm⟩

end Message

namespace AuditEntry

open Text

/-- The message of an entry about a text is the longest beginning of the text that ends at a character
boundary and takes no more than 128 bytes, and all of a text that fits.  The search for that boundary
starts at the limit, or at the end of a shorter text; it has one course, which takes three steps at most
and none back from zero, and it ends where the text is cut.  The message's bytes are those of the text
before the cut, and they are valid UTF-8. -/
theorem ofText_longest (severity : Severity) (stamp : UInt64) (component text : String) :
    let kept := (ofText severity stamp component text).message.text
    let cutAt := (Message.cut text).offset.byteIdx
    IsCut text 128 kept ∧
    (text.utf8ByteSize ≤ 128 → kept = text) ∧
    (∃ steps ≤ 3, ∀ taken found, Retreats text (min text.utf8ByteSize 128) taken found ↔
      taken = steps ∧ found = cutAt) ∧
    kept.toByteArray = text.toByteArray.extract 0 cutAt ∧
    kept.toByteArray.IsValidUTF8 := by
  intro kept cutAt
  have hcut : IsCut text 128 kept := Message.isCut_ofString text
  have hcourse : Retreats text (min text.utf8ByteSize 128) (min text.utf8ByteSize 128 - cutAt) cutAt :=
    retreats_boundaryUpTo text _
  have hnear : min text.utf8ByteSize 128 ≤ cutAt + 3 :=
    le_boundaryUpTo_add_three (Nat.min_le_left _ _)
  refine ⟨hcut, hcut.eq_of_fits, ⟨_, Nat.sub_le_iff_le_add'.mpr hnear, fun taken found => ?_⟩,
    (Message.cut text).splits.toByteArray_left_eq, kept.isValidUTF8⟩
  constructor
  · intro h
    exact h.unique hcourse
  · rintro ⟨htaken, hfound⟩
    rw [htaken, hfound]
    exact hcourse

end AuditEntry

end SecureElement
