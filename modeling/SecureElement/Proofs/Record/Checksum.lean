/-
  SecureElement.Proofs.Record.Checksum

  The algebra of the checksum's register.  A step of the register is linear in exclusive or, and it
  loses nothing, since the polynomial's highest coefficient stands in the bit that a step vacates.
  So the register after a sum of two byte strings is the sum of the registers, a look-up in the
  table is eight steps, and a short byte string can be fed as one number.  A byte string with its
  checksum behind it leaves always the same register, and with anything else behind it another one.
-/
import SecureElement.Bytes.Endian
import SecureElement.Record.Checksum

namespace SecureElement

/-- The sum of two byte strings, byte by byte. -/
def Bytes.xor (first second : Bytes) : Bytes :=
  List.zipWith (· ^^^ ·) first second

namespace Bytes

theorem population_mono {width wider : Nat} (h : width ≤ wider) :
    population width ≤ population wider := by
  induction h with
  | refl => exact Nat.le_refl _
  | step _ ih =>
    rw [population]
    omega

theorem ofLittleEndian_lt_of_le {data : Bytes} {width : Nat} (h : data.length ≤ width) :
    ofLittleEndian data < population width :=
  Nat.lt_of_lt_of_le (ofLittleEndian_lt data) (population_mono h)

end Bytes

namespace Crc32

/-! ## Steps of the register -/

theorem shift_of_even {register : UInt32} (h : register.toNat % 2 = 0) :
    shift register = register >>> 1 := by
  refine if_pos (UInt32.toNat_inj.mp ?_)
  rw [UInt32.toNat_and]
  exact (Nat.and_one_is_mod _).trans h

theorem shift_of_odd {register : UInt32} (h : register.toNat % 2 = 1) :
    shift register = (register >>> 1) ^^^ polynomial := by
  refine if_neg fun hzero => ?_
  have hmod : (register &&& 1).toNat = 1 := by
    rw [UInt32.toNat_and]
    exact (Nat.and_one_is_mod _).trans h
  rw [hzero] at hmod
  cases hmod

theorem toNat_shiftRight_one (register : UInt32) : (register >>> 1).toNat = register.toNat / 2 := by
  rw [UInt32.toNat_shiftRight]
  exact Nat.shiftRight_eq_div_pow _ 1

/-- A step of a sum is the sum of the steps. -/
theorem shift_xor (first second : UInt32) :
    shift (first ^^^ second) = shift first ^^^ shift second := by
  have hparity : (first ^^^ second).toNat % 2 = (first.toNat % 2) ^^^ (second.toNat % 2) := by
    rw [UInt32.toNat_xor]
    exact Nat.xor_mod_two_pow (n := 1)
  -- the polynomial is added to neither, to one or to both, and both times it cancels
  rcases Nat.mod_two_eq_zero_or_one first.toNat with hfirst | hfirst <;>
    rcases Nat.mod_two_eq_zero_or_one second.toNat with hsecond | hsecond <;>
    rw [hfirst, hsecond] at hparity
  · rw [shift_of_even hparity, shift_of_even hfirst, shift_of_even hsecond, UInt32.shiftRight_xor]
  · rw [shift_of_odd hparity, shift_of_even hfirst, shift_of_odd hsecond, UInt32.shiftRight_xor,
      UInt32.xor_assoc]
  · rw [shift_of_odd hparity, shift_of_odd hfirst, shift_of_even hsecond, UInt32.shiftRight_xor,
      UInt32.xor_assoc, UInt32.xor_assoc, UInt32.xor_comm polynomial]
  · rw [shift_of_even hparity, shift_of_odd hfirst, shift_of_odd hsecond, UInt32.shiftRight_xor,
      UInt32.xor_comm (second >>> 1), UInt32.xor_assoc, ← UInt32.xor_assoc polynomial,
      UInt32.xor_self, UInt32.zero_xor]

/-- A step loses nothing: the bit that was shifted out is seen in the highest one. -/
theorem eq_zero_of_shift {register : UInt32} (h : shift register = 0) : register = 0 := by
  have hlt := register.toNat_lt
  apply UInt32.toNat_inj.mp
  rcases Nat.mod_two_eq_zero_or_one register.toNat with hparity | hparity
  · rw [shift_of_even hparity] at h
    have hhalf : register.toNat / 2 = 0 := by rw [← toNat_shiftRight_one, h]; rfl
    show register.toNat = 0
    omega
  · rw [shift_of_odd hparity, UInt32.xor_eq_zero_iff] at h
    have hhalf : register.toNat / 2 = 0xEDB88320 := by rw [← toNat_shiftRight_one, h]; rfl
    omega

theorem shiftBy_xor (count : Nat) (first second : UInt32) :
    shiftBy count (first ^^^ second) = shiftBy count first ^^^ shiftBy count second := by
  induction count generalizing first second with
  | zero => rfl
  | succ count ih => rw [shiftBy, shiftBy, shiftBy, shift_xor, ih]

theorem shiftBy_zero (count : Nat) : shiftBy count 0 = 0 := by
  induction count with
  | zero => rfl
  | succ count ih => exact ih

theorem eq_zero_of_shiftBy {count : Nat} {register : UInt32} (h : shiftBy count register = 0) :
    register = 0 := by
  induction count generalizing register with
  | zero => exact h
  | succ count ih => exact eq_zero_of_shift (ih h)

theorem shiftBy_inj {count : Nat} {first second : UInt32} :
    shiftBy count first = shiftBy count second ↔ first = second := by
  constructor
  · intro h
    rw [← UInt32.xor_eq_zero_iff, ← shiftBy_xor] at h
    exact UInt32.xor_eq_zero_iff.mp (eq_zero_of_shiftBy h)
  · rintro rfl
    rfl

theorem shiftBy_add (first second : Nat) (register : UInt32) :
    shiftBy (first + second) register = shiftBy second (shiftBy first register) := by
  induction first generalizing register with
  | zero => rw [Nat.zero_add]; rfl
  | succ first ih => rw [Nat.succ_add, shiftBy, ih, shiftBy]

/-- Steps over zeros at the lower end only move the register down. -/
theorem toNat_shiftBy {count high : Nat} {register : UInt32}
    (h : register.toNat = high <<< count) : (shiftBy count register).toNat = high := by
  induction count generalizing register with
  | zero => exact h
  | succ count ih =>
    rw [Nat.shiftLeft_succ] at h
    have hshift : shift register = register >>> 1 := shift_of_even (by omega)
    rw [shiftBy]
    apply ih
    rw [hshift, toNat_shiftRight_one]
    omega

/-! ## Bytes -/

theorem feedBits_xor (first second : UInt32) (byte other : UInt8) :
    feedBits (first ^^^ second) (byte ^^^ other) =
      feedBits first byte ^^^ feedBits second other := by
  have hsum : first ^^^ second ^^^ (byte ^^^ other).toUInt32 =
      (first ^^^ byte.toUInt32) ^^^ (second ^^^ other.toUInt32) := by
    rw [UInt8.toUInt32_xor]
    ac_rfl
  rw [feedBits, hsum, shiftBy_xor, feedBits, feedBits]

/-- A number is the sum of its lowest byte and what stands above it. -/
theorem xor_mul_eq_add {low : Nat} (hlow : low < 256) (high : Nat) :
    low ^^^ 256 * high = low + 256 * high := by
  have hmod : (low ^^^ 256 * high) % 2 ^ 8 = low := by
    rw [Nat.xor_mod_two_pow, Nat.mod_eq_of_lt hlow, Nat.mul_mod_right, Nat.xor_zero]
  have hdiv : (low ^^^ 256 * high) / 2 ^ 8 = high := by
    rw [Nat.xor_div_two_pow, Nat.div_eq_of_lt hlow, Nat.zero_xor]
    exact Nat.mul_div_cancel_left high (by decide)
  omega

/-- Eight steps of a register move it down by a byte and feed that byte. -/
theorem shiftBy_eight (byte : UInt8) {register high : UInt32}
    (h : register.toNat = byte.toNat + 256 * high.toNat) :
    shiftBy 8 register = shiftBy 8 byte.toUInt32 ^^^ high := by
  have hlt := register.toNat_lt
  have hbyte := byte.toNat_lt
  have htop : (UInt32.ofNat (256 * high.toNat)).toNat = 256 * high.toNat :=
    UInt32.toNat_ofNat_of_lt' (by show _ < 2 ^ 32; omega)
  have hsum : register = byte.toUInt32 ^^^ UInt32.ofNat (256 * high.toNat) := by
    apply UInt32.toNat_inj.mp
    rw [UInt32.toNat_xor, htop, UInt8.toNat_toUInt32, h]
    exact (xor_mul_eq_add hbyte _).symm
  have hhigh : shiftBy 8 (UInt32.ofNat (256 * high.toNat)) = high :=
    UInt32.toNat_inj.mp (toNat_shiftBy (by rw [htop]; omega))
  rw [hsum, shiftBy_xor, hhigh]

theorem get_table (byte : UInt8) : table.get byte.toFin = shiftBy 8 byte.toUInt32 := by
  have hbyte : UInt32.ofNat byte.toNat = byte.toUInt32 := by
    apply UInt32.toNat_inj.mp
    have hlt := byte.toNat_lt
    rw [UInt8.toNat_toUInt32]
    exact UInt32.toNat_ofNat_of_lt' (by show _ < 2 ^ 32; omega)
  show (Vector.ofFn fun index : Fin UInt8.size =>
    shiftBy 8 (UInt32.ofNat index))[byte.toFin.val] = _
  rw [Vector.getElem_ofFn, ← hbyte]
  rfl

/-- A look-up in the table is eight steps. -/
theorem feed_eq_feedBits (register : UInt32) (byte : UInt8) :
    feed register byte = feedBits register byte := by
  -- the byte meets the lowest byte of the register, and what stands above that moves down
  have hsplit : (register ^^^ byte.toUInt32).toNat =
      (register.toUInt8 ^^^ byte).toNat + 256 * (register >>> 8).toNat := by
    have hlow : (register ^^^ byte.toUInt32).toNat % 2 ^ 8 = (register.toUInt8 ^^^ byte).toNat := by
      rw [UInt32.toNat_xor, UInt8.toNat_xor, Nat.xor_mod_two_pow, UInt32.toNat_toUInt8,
        UInt8.toNat_toUInt32, Nat.mod_eq_of_lt byte.toNat_lt]
    have hhigh : (register ^^^ byte.toUInt32).toNat / 2 ^ 8 = (register >>> 8).toNat := by
      rw [UInt32.toNat_xor, Nat.xor_div_two_pow, UInt8.toNat_toUInt32,
        Nat.div_eq_of_lt byte.toNat_lt, Nat.xor_zero, UInt32.toNat_shiftRight]
      exact (Nat.shiftRight_eq_div_pow _ 8).symm
    omega
  rw [feed, get_table, feedBits, shiftBy_eight _ hsplit, UInt32.xor_comm]

/-! ## Byte strings -/

/-- The register after a byte string. -/
def registerAfter (register : UInt32) (data : Bytes) : UInt32 :=
  data.foldl feedBits register

theorem registerAfter_append (register : UInt32) (first second : Bytes) :
    registerAfter register (first ++ second) =
      registerAfter (registerAfter register first) second :=
  List.foldl_append

theorem checksum_eq (data : Bytes) : checksum data = ~~~registerAfter 0xFFFFFFFF data := by
  have hfeed : feed = feedBits := funext fun register => funext (feed_eq_feedBits register)
  rw [checksum, hfeed, registerAfter]

/-- The register after a sum of byte strings is the sum of the registers. -/
theorem registerAfter_xor (first second : UInt32) {data other : Bytes}
    (hlength : data.length = other.length) :
    registerAfter (first ^^^ second) (Bytes.xor data other) =
      registerAfter first data ^^^ registerAfter second other := by
  -- by induction on both strings at once
  induction data generalizing first second other with
  | nil =>
    cases other with
    | nil => rfl
    | cons => cases hlength
  | cons byte rest ih =>
    cases other with
    | nil => cases hlength
    | cons otherByte otherRest =>
      have hrest : rest.length = otherRest.length := Nat.succ.inj hlength
      show registerAfter (feedBits (first ^^^ second) (byte ^^^ otherByte))
        (Bytes.xor rest otherRest) = _
      rw [feedBits_xor, ih _ _ hrest]
      rfl

theorem registerAfter_zeros (register : UInt32) (count : Nat) :
    registerAfter register (List.replicate count 0) = shiftBy (8 * count) register := by
  induction count generalizing register with
  | zero => rfl
  | succ count ih =>
    have hbyte : feedBits register 0 = shiftBy 8 register := by
      rw [feedBits]
      exact congrArg (shiftBy 8) UInt32.xor_zero
    rw [List.replicate_succ, registerAfter, List.foldl_cons, hbyte, Nat.mul_succ, Nat.add_comm,
      shiftBy_add]
    exact ih _

/-- Up to four bytes can be fed as one number. -/
theorem registerAfter_short (register : UInt32) {data : Bytes} (hlength : data.length ≤ 4) :
    registerAfter register data =
      shiftBy (8 * data.length) (register ^^^ UInt32.ofNat (Bytes.ofLittleEndian data)) := by
  induction data generalizing register with
  | nil => exact UInt32.xor_zero.symm
  | cons byte rest ih =>
    rw [List.length_cons] at hlength
    have hrest : Bytes.ofLittleEndian rest < 2 ^ 24 :=
      Bytes.ofLittleEndian_lt_of_le (show rest.length ≤ 3 by omega)
    have hbyte := byte.toNat_lt
    have hlow : (UInt32.ofNat (Bytes.ofLittleEndian rest)).toNat = Bytes.ofLittleEndian rest :=
      UInt32.toNat_ofNat_of_lt' (by show _ < 2 ^ 32; omega)
    have hall : (UInt32.ofNat (Bytes.ofLittleEndian (byte :: rest))).toNat =
        byte.toNat + 256 * (UInt32.ofNat (Bytes.ofLittleEndian rest)).toNat := by
      rw [hlow]
      exact UInt32.toNat_ofNat_of_lt' (by rw [Bytes.ofLittleEndian]; show _ < 2 ^ 32; omega)
    calc registerAfter register (byte :: rest)
        = registerAfter (shiftBy 8 (register ^^^ byte.toUInt32)) rest := rfl
      _ = shiftBy (8 * rest.length) (shiftBy 8 (register ^^^ byte.toUInt32) ^^^
            UInt32.ofNat (Bytes.ofLittleEndian rest)) := ih _ (by omega)
      _ = shiftBy (8 * rest.length)
            (shiftBy 8 (register ^^^ UInt32.ofNat (Bytes.ofLittleEndian (byte :: rest)))) := by
          rw [shiftBy_xor 8, shiftBy_xor 8, shiftBy_eight byte hall, UInt32.xor_assoc]
      _ = shiftBy (8 * (byte :: rest).length)
            (register ^^^ UInt32.ofNat (Bytes.ofLittleEndian (byte :: rest))) := by
          rw [List.length_cons, Nat.mul_succ, Nat.add_comm, shiftBy_add]

/-! ## Checksums -/

theorem xor_eq_ones_iff (first second : UInt32) :
    first ^^^ second = 0xFFFFFFFF ↔ second = ~~~first := by
  have hones : (0xFFFFFFFF : UInt32) = -1 := rfl
  have hcancel (word : UInt32) : first ^^^ (first ^^^ word) = word := by
    rw [← UInt32.xor_assoc, UInt32.xor_self, UInt32.zero_xor]
  rw [hones]
  constructor
  · intro h
    rw [← hcancel second, h, UInt32.xor_comm, UInt32.neg_one_xor]
  · rintro rfl
    rw [← UInt32.neg_one_xor, UInt32.xor_comm (-1), hcancel]

/-- The register after a byte string with its checksum behind it. -/
def residue : UInt32 :=
  shiftBy 32 0xFFFFFFFF

/-- Four bytes are the checksum of what stands before them exactly if they leave the residue. -/
theorem registerAfter_eq_residue_iff {data last : Bytes} (hlast : last.length = 4) :
    registerAfter 0xFFFFFFFF (data ++ last) = residue ↔
      Bytes.ofLittleEndian last = (checksum data).toNat := by
  have hlt : Bytes.ofLittleEndian last < Bytes.population 4 :=
    Bytes.ofLittleEndian_lt_of_le (by omega)
  have hword : (UInt32.ofNat (Bytes.ofLittleEndian last)).toNat = Bytes.ofLittleEndian last :=
    UInt32.toNat_ofNat_of_lt' hlt
  rw [registerAfter_append, registerAfter_short _ (by omega), hlast, residue, shiftBy_inj,
    xor_eq_ones_iff, ← UInt32.toNat_inj, hword, checksum_eq]

end Crc32

end SecureElement
