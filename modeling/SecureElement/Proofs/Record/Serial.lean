/-
  SecureElement.Proofs.Record.Serial

  The checksum as a shift register that takes its message a bit at a time.  `Crc32.serial` is that
  register for any polynomial and any start, told by bits alone.  Bits that wait in the lower end of
  the register (`Crc32.feedBits` adds a whole byte before it steps) are the same as bits that enter one
  by one, so the register after a byte string is the serial one after the string's bits, and the
  look-ups in the table of 256 entries compute the same checksum.
-/
import SecureElement.Proofs.Record.Checksum

namespace SecureElement

/-! ## Messages of bits -/

namespace Bytes

/-- The bits of a byte, least significant first. -/
def bitsOf (byte : UInt8) : List Bool :=
  (List.range 8).map byte.toNat.testBit

/-- The bits of a byte string, byte after byte. -/
def bits (data : Bytes) : List Bool :=
  data.flatMap bitsOf

end Bytes

namespace Crc32

/-! ## The shift register -/

/-- One bit of the message enters: the register moves down by one, and the polynomial is added if the
bit that leaves differs from the bit that enters. -/
def serialStep (generator register : UInt32) (bit : Bool) : UInt32 :=
  if register.toNat.testBit 0 ^^ bit then (register >>> 1) ^^^ generator else register >>> 1

/-- The register after a message of bits. -/
def serial (generator initial : UInt32) (message : List Bool) : UInt32 :=
  message.foldl (serialStep generator) initial

/-- A step of the register, told by the bit that leaves. -/
theorem shift_eq (register : UInt32) :
    shift register =
      if register.toNat.testBit 0 then (register >>> 1) ^^^ polynomial else register >>> 1 := by
  rw [Nat.testBit_zero]
  rcases Nat.mod_two_eq_zero_or_one register.toNat with hparity | hparity
  · rw [shift_of_even hparity, hparity]
    rfl
  · rw [shift_of_odd hparity, hparity]
    rfl

/-- A bit that enters is a bit that was added to the register's lowest one before the step; what else
was added only moves down. -/
theorem serialStep_xor (register word : UInt32) :
    serialStep polynomial register (word.toNat.testBit 0) ^^^ (word >>> 1) =
      shift (register ^^^ word) := by
  have hleaves : (register ^^^ word).toNat.testBit 0 =
      (register.toNat.testBit 0 ^^ word.toNat.testBit 0) := by
    rw [UInt32.toNat_xor, Nat.testBit_xor]
  rw [shift_eq, hleaves, serialStep, UInt32.shiftRight_xor]
  split
  · rw [UInt32.xor_assoc, UInt32.xor_comm polynomial, ← UInt32.xor_assoc]
  · rfl

/-- A word of no more than `count` bits may be added as a whole before `count` steps. -/
theorem serial_word (register : UInt32) {count : Nat} {word : UInt32} (h : word.toNat >>> count = 0) :
    serial polynomial register ((List.range count).map word.toNat.testBit) =
      shiftBy count (register ^^^ word) := by
  -- the lowest bit enters in the first step, and the others are those of the word moved down
  induction count generalizing register word with
  | zero =>
    have hzero : word = 0 := UInt32.toNat_inj.mp h
    rw [hzero]
    exact UInt32.xor_zero.symm
  | succ count ih =>
    have hhalf : (word >>> 1).toNat >>> count = 0 := by
      rw [toNat_shiftRight_one, ← Nat.shiftRight_succ_inside]
      exact h
    have hrest : (List.range count).map (word.toNat.testBit ∘ Nat.succ) =
        (List.range count).map (word >>> 1).toNat.testBit := by
      refine List.map_congr_left fun index _ => ?_
      rw [toNat_shiftRight_one]
      exact Nat.testBit_succ _ _
    rw [List.range_succ_eq_map, List.map_cons, List.map_map, hrest, shiftBy, ← serialStep_xor,
      ← ih _ hhalf]
    rfl

/-- The register after a byte is the serial one after its eight bits. -/
theorem feedBits_eq_serial (register : UInt32) (byte : UInt8) :
    feedBits register byte = serial polynomial register (Bytes.bitsOf byte) := by
  have hbyte : byte.toUInt32.toNat >>> 8 = 0 := by
    rw [UInt8.toNat_toUInt32]
    exact Nat.shiftRight_eq_zero _ _ byte.toNat_lt
  rw [feedBits, ← serial_word register hbyte, UInt8.toNat_toUInt32]
  rfl

theorem registerAfter_eq_serial (register : UInt32) (data : Bytes) :
    registerAfter register data = serial polynomial register (Bytes.bits data) := by
  induction data generalizing register with
  | nil => rfl
  | cons byte rest ih =>
    calc registerAfter register (byte :: rest)
        = registerAfter (feedBits register byte) rest := rfl
      _ = serial polynomial (serial polynomial register (Bytes.bitsOf byte)) (Bytes.bits rest) := by
          rw [ih, feedBits_eq_serial]
      _ = serial polynomial register (Bytes.bits (byte :: rest)) := by
          have hbits : Bytes.bits (byte :: rest) = Bytes.bitsOf byte ++ Bytes.bits rest :=
            List.flatMap_cons
          rw [hbits]
          exact List.foldl_append.symm

/-! ## The checksum -/

/-- For every byte string, the checksum that looks up a table of 256 entries, a byte at a time, is the
one that adds each byte to the register and steps eight times, and both are the complement of what a
serial register over the polynomial 0xEDB88320 holds that starts from all ones and takes the bits of
the string one by one, those of each byte from the least significant on. -/
theorem checksum_eq_serial (data : Bytes) :
    checksum data = bitwise data ∧
      bitwise data = ~~~serial 0xEDB88320 0xFFFFFFFF (Bytes.bits data) := by
  have hserial : bitwise data = ~~~serial polynomial 0xFFFFFFFF (Bytes.bits data) := by
    rw [← registerAfter_eq_serial]
    rfl
  exact ⟨checksum_eq data, hserial⟩

/-- The check value of the checksum, for the digits from 1 to 9. -/
example :
    ~~~serial 0xEDB88320 0xFFFFFFFF
      (Bytes.bits [0x31, 0x32, 0x33, 0x34, 0x35, 0x36, 0x37, 0x38, 0x39]) = 0xCBF43926 := by
  decide +kernel

end Crc32

end SecureElement
