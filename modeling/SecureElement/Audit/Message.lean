/-
  SecureElement.Audit.Message

  The text of an audit entry, at most `Message.limit` bytes of UTF-8.  A longer text is cut at the
  last character boundary that fits (`Message.ofString`); a message that is put together from parts
  ends before the first part that does not fit whole (`Message.ofParts`).
-/

namespace SecureElement

namespace Text

/-- The last character boundary of `text` at or before byte `offset`. -/
def boundaryUpTo (text : String) : (offset : Nat) → text.Pos
  | 0 => text.startPos
  | offset + 1 =>
    if h : (String.Pos.Raw.mk (offset + 1)).isValid text = true then
      ⟨_, String.Pos.Raw.isValid_eq_true_iff.mp h⟩
    else
      boundaryUpTo text offset

/-- The boundary found lies at or before the offset that the search began at. -/
theorem boundaryUpTo_le (text : String) (offset : Nat) :
    (boundaryUpTo text offset).offset.byteIdx ≤ offset := by
  induction offset with
  | zero => simp [boundaryUpTo]
  | succ offset ih =>
    rw [boundaryUpTo]
    split
    · exact Nat.le_refl _
    · exact Nat.le_succ_of_le ih

end Text

/-- The largest size of a message, in bytes of UTF-8. -/
def Message.limit : Nat :=
  128

/-- A text that is no larger than a message may be. -/
structure Message where
  text : String
  size_le : text.utf8ByteSize ≤ Message.limit
deriving DecidableEq

namespace Message

def empty : Message :=
  ⟨"", by decide⟩

instance : Inhabited Message :=
  ⟨empty⟩

/-- The message's size in bytes of UTF-8. -/
def size (message : Message) : Nat :=
  message.text.utf8ByteSize

/-! ## Cutting a text -/

/-- Where a text is cut to fit: the last character boundary within the limit, or the end of a text
that fits whole. -/
def cut (text : String) : text.Pos :=
  Text.boundaryUpTo text (min text.utf8ByteSize limit)

/-- The text before a position has as many bytes as the position says. -/
theorem utf8ByteSize_sliceTo {text : String} (position : text.Pos) :
    (text.sliceTo position).copy.utf8ByteSize = position.offset.byteIdx := by
  simp

/-- The message that holds as much of `text` as fits. -/
def ofString (text : String) : Message where
  text := (text.sliceTo (cut text)).copy
  size_le := by
    rw [utf8ByteSize_sliceTo]
    exact Nat.le_trans (Text.boundaryUpTo_le _ _) (Nat.min_le_right _ _)

/-! ## Putting parts together -/

/-- The message followed by one more part, if that fits whole. -/
def append? (message : Message) (part : String) : Option Message :=
  if h : (message.text ++ part).utf8ByteSize ≤ limit then some ⟨message.text ++ part, h⟩ else none

/-- The message followed by the parts up to the first that does not fit whole. -/
def appendParts (message : Message) : List String → Message
  | [] => message
  | part :: rest =>
    match message.append? part with
    | some longer => longer.appendParts rest
    | none => message

/-- The message made of the parts up to the first that does not fit whole. -/
def ofParts (parts : List String) : Message :=
  empty.appendParts parts

end Message

end SecureElement
