/-
  SecureElement.Bytes.Basic

  Byte strings of any length, and blocks: byte strings whose length is part of their type.
  Keys, values, digests and record payloads are blocks, so a length that was checked once need
  not be checked again.
-/

namespace SecureElement

/-! ## Byte strings -/

abbrev Bytes := List UInt8

namespace Bytes

/-- Whether every byte is zero; the empty string is zero. -/
def isZero (data : Bytes) : Bool :=
  data.all (· == 0)

/-- `data` with `patch` laid over it from `offset` on. -/
def overwrite (data : Bytes) (offset : Nat) (patch : Bytes) : Bytes :=
  data.take offset ++ (patch ++ data.drop (offset + patch.length))

/-- `data` with `count` bytes from `offset` on set to zero. -/
def wipe (data : Bytes) (offset count : Nat) : Bytes :=
  data.overwrite offset (List.replicate count 0)

/-- `offered` if `choice` is set, `current` otherwise. -/
def select (choice : Bool) (current offered : Bytes) : Bytes :=
  if choice then offered else current

/-- Laying a patch inside the bounds of `data` keeps its length. -/
theorem length_overwrite {data patch : Bytes} {offset : Nat}
    (h : offset + patch.length ≤ data.length) :
    (data.overwrite offset patch).length = data.length := by
  simp only [overwrite, List.length_append, List.length_take, List.length_drop]
  omega

/-- Wiping inside the bounds of `data` keeps its length. -/
theorem length_wipe {data : Bytes} {offset count : Nat} (h : offset + count ≤ data.length) :
    (data.wipe offset count).length = data.length := by
  apply length_overwrite
  simpa using h

end Bytes

/-! ## Blocks -/

/-- A byte string of exactly `n` bytes. -/
@[ext]
structure Block (n : Nat) where
  bytes : Bytes
  length_bytes : bytes.length = n
deriving DecidableEq

namespace Block

variable {m n : Nat}

/-- The block with these bytes, if there are `n` of them. -/
def ofBytes? (n : Nat) (data : Bytes) : Option (Block n) :=
  if h : data.length = n then some ⟨data, h⟩ else none

def fill (n : Nat) (byte : UInt8) : Block n :=
  ⟨List.replicate n byte, List.length_replicate⟩

def zero (n : Nat) : Block n :=
  fill n 0

instance : Inhabited (Block n) :=
  ⟨zero n⟩

/-- Whether every byte of the block is zero. -/
def isZero (block : Block n) : Bool :=
  block.bytes.isZero

def append (first : Block m) (second : Block n) : Block (m + n) :=
  ⟨first.bytes ++ second.bytes, by simp [first.length_bytes, second.length_bytes]⟩

instance : HAppend (Block m) (Block n) (Block (m + n)) :=
  ⟨append⟩

def slice (block : Block n) (start count : Nat) (h : start + count ≤ n := by decide) :
    Block count :=
  ⟨(block.bytes.drop start).take count, by
    simp only [List.length_take, List.length_drop, block.length_bytes]
    omega⟩

/-- The block with `patch` laid over it from `offset` on. -/
def overwrite (block : Block n) (offset : Nat) (patch : Bytes) (h : offset + patch.length ≤ n) :
    Block n :=
  ⟨block.bytes.overwrite offset patch, by
    rw [Bytes.length_overwrite (by rw [block.length_bytes]; exact h), block.length_bytes]⟩

/-- The block after every byte was overwritten by the one of `source`. -/
def copyFrom (block source : Block n) : Block n :=
  block.overwrite 0 source.bytes (by rw [source.length_bytes]; omega)

/-- The block after every byte was set to zero. -/
def wipe (block : Block n) : Block n :=
  ⟨block.bytes.wipe 0 n, by
    rw [Bytes.length_wipe (by rw [block.length_bytes]; omega), block.length_bytes]⟩

/-- The block with every bit of the byte at `offset` inverted; a block that has no such byte is
left as it is. -/
def invertByte (block : Block n) (offset : Nat) : Block n :=
  ⟨block.bytes.modify offset (· ^^^ 0xFF), by rw [List.length_modify, block.length_bytes]⟩

/-- `offered` if `choice` is set, `current` otherwise. -/
def select (choice : Bool) (current offered : Block n) : Block n :=
  if choice then offered else current

/-- Blocks of one length in a row are as long as their number says. -/
theorem length_flatMap_bytes (blocks : List (Block n)) :
    (blocks.flatMap bytes).length = blocks.length * n := by
  induction blocks with
  | nil => simp
  | cons block rest ih =>
    rw [List.flatMap_cons, List.length_append, ih, block.length_bytes, List.length_cons,
      Nat.succ_mul, Nat.add_comm]

/-- `count` blocks of `n` bytes in a row. -/
def join {count : Nat} (blocks : Vector (Block n) count) : Block (count * n) :=
  ⟨blocks.toList.flatMap bytes, by rw [length_flatMap_bytes, Vector.length_toList]⟩

/-- The `count` blocks of `n` bytes that a block consists of. -/
def pieces {count : Nat} (block : Block (count * n)) : Vector (Block n) count :=
  Vector.ofFn fun piece =>
    block.slice (piece.val * n) n (by
      rw [← Nat.succ_mul]
      exact Nat.mul_le_mul_right n piece.isLt)

/-! ### Bytes of the operations -/

@[simp] theorem bytes_append (first : Block m) (second : Block n) :
    (first ++ second).bytes = first.bytes ++ second.bytes :=
  rfl

@[simp] theorem bytes_slice (block : Block n) (start count : Nat) (h : start + count ≤ n) :
    (block.slice start count h).bytes = (block.bytes.drop start).take count :=
  rfl

/-- Nothing is left of what a block held before. -/
@[simp] theorem copyFrom_eq (block source : Block n) : block.copyFrom source = source := by
  ext1
  simp [copyFrom, overwrite, Bytes.overwrite, block.length_bytes, source.length_bytes]

@[simp] theorem wipe_eq (block : Block n) : block.wipe = zero n := by
  ext1
  simp [wipe, Bytes.wipe, Bytes.overwrite, block.length_bytes, zero, fill]

@[simp] theorem ofBytes?_bytes (block : Block n) : ofBytes? n block.bytes = some block := by
  simp [ofBytes?, block.length_bytes]

/-- A byte string has a block exactly if it is that block's bytes. -/
theorem ofBytes?_eq_some_iff {data : Bytes} {block : Block n} :
    ofBytes? n data = some block ↔ data = block.bytes := by
  constructor
  · intro h
    unfold ofBytes? at h
    split at h
    · cases h
      rfl
    · cases h
  · rintro rfl
    exact ofBytes?_bytes block

/-- A byte string has no block exactly if its length is another one. -/
theorem ofBytes?_eq_none_iff {data : Bytes} : ofBytes? n data = none ↔ data.length ≠ n := by
  simp [ofBytes?]

end Block

end SecureElement
