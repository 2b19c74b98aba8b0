/-
  SecureElement.Bytes.Endian

  Numbers as bytes.  `littleEndian width n` writes the low `8 * width` bits of `n`, least
  significant byte first, and `ofLittleEndian` reads such bytes back; the two are inverse to each
  other.  Big-endian text is the reverse of little-endian text.
-/
import SecureElement.Bytes.Basic

namespace SecureElement

namespace Bytes

/-! ## Least significant byte first -/

/-- The low `width` bytes of a number, least significant first. -/
def littleEndian : (width : Nat) → Nat → Bytes
  | 0, _ => []
  | width + 1, n => UInt8.ofNat n :: littleEndian width (n / 256)

/-- The number whose bytes these are, least significant first. -/
def ofLittleEndian : Bytes → Nat
  | [] => 0
  | byte :: rest => byte.toNat + 256 * ofLittleEndian rest

/-- The number of byte strings of a length. -/
def population : (width : Nat) → Nat
  | 0 => 1
  | width + 1 => 256 * population width

/-- There is a byte string of every length. -/
theorem population_pos (width : Nat) : 0 < population width := by
  induction width with
  | zero => exact Nat.one_pos
  | succ width ih => rw [population]; omega

@[simp] theorem length_littleEndian (width n : Nat) : (littleEndian width n).length = width := by
  induction width generalizing n with
  | zero => rfl
  | succ width ih => simp [littleEndian, ih]

/-- Reading what was written gives the number back, reduced to the bits that were written. -/
theorem ofLittleEndian_littleEndian (width n : Nat) :
    ofLittleEndian (littleEndian width n) = n % population width := by
  induction width generalizing n with
  | zero => simp [littleEndian, ofLittleEndian, population, Nat.mod_one]
  | succ width ih =>
    have low : (UInt8.ofNat n).toNat = n % 256 := by simp
    rw [littleEndian, ofLittleEndian, ih, low, population, Nat.mod_mul]

/-- Writing what was read gives the bytes back. -/
theorem littleEndian_ofLittleEndian (data : Bytes) :
    littleEndian data.length (ofLittleEndian data) = data := by
  induction data with
  | nil => rfl
  | cons byte rest ih =>
    have bound := byte.toNat_lt
    have low : UInt8.ofNat (byte.toNat + 256 * ofLittleEndian rest) = byte := by
      apply UInt8.toNat_inj.mp
      simp only [UInt8.toNat_ofNat']
      omega
    -- the first byte is below 256, so the division drops it whole
    have high : (byte.toNat + 256 * ofLittleEndian rest) / 256 = ofLittleEndian rest := by omega
    rw [List.length_cons, littleEndian, ofLittleEndian, low, high, ih]

/-- A number read from bytes is below the number of byte strings of their length. -/
theorem ofLittleEndian_lt (data : Bytes) : ofLittleEndian data < population data.length := by
  rw [← littleEndian_ofLittleEndian data, ofLittleEndian_littleEndian, length_littleEndian]
  exact Nat.mod_lt _ (population_pos _)

/-! ## Most significant byte first -/

/-- The low `width` bytes of a number, most significant first. -/
def bigEndian (width n : Nat) : Bytes :=
  (littleEndian width n).reverse

/-- The number whose bytes these are, most significant first; leading zero bytes do not
matter. -/
def ofBigEndian (data : Bytes) : Nat :=
  ofLittleEndian data.reverse

@[simp] theorem length_bigEndian (width n : Nat) : (bigEndian width n).length = width := by
  simp [bigEndian]

/-- Reading what was written gives the number back, reduced to the bits that were written. -/
theorem ofBigEndian_bigEndian (width n : Nat) :
    ofBigEndian (bigEndian width n) = n % population width := by
  simp [ofBigEndian, bigEndian, ofLittleEndian_littleEndian]

end Bytes

namespace Block

/-! ## Blocks of number bytes -/

/-- The block of a number's low `width` bytes, least significant first. -/
def littleEndian (width n : Nat) : Block width :=
  ⟨Bytes.littleEndian width n, Bytes.length_littleEndian width n⟩

/-- The block of a number's low `width` bytes, most significant first. -/
def bigEndian (width n : Nat) : Block width :=
  ⟨Bytes.bigEndian width n, Bytes.length_bigEndian width n⟩

/-- The number in a block, least significant byte first. -/
def toNat {n : Nat} (block : Block n) : Nat :=
  Bytes.ofLittleEndian block.bytes

/-- A block holds the number that it was made of, reduced to the block's bits. -/
theorem toNat_littleEndian (width n : Nat) :
    (littleEndian width n).toNat = n % Bytes.population width :=
  Bytes.ofLittleEndian_littleEndian width n

/-- A block is made of the number that it holds. -/
theorem littleEndian_toNat {n : Nat} (block : Block n) : littleEndian n block.toNat = block := by
  ext1
  have h := Bytes.littleEndian_ofLittleEndian block.bytes
  rw [block.length_bytes] at h
  exact h

/-- The number in a block is below the number of blocks of its length. -/
theorem toNat_lt {n : Nat} (block : Block n) : block.toNat < Bytes.population n := by
  have h := Bytes.ofLittleEndian_lt block.bytes
  rw [block.length_bytes] at h
  exact h

end Block

end SecureElement
