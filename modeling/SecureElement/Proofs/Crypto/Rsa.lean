/-
  SecureElement.Proofs.Crypto.Rsa

  Which signatures an RSA key accepts.  `powMod` is the power under the exponent, and the padded digest
  is one number for every digest, so that a signature stands for at most one digest.
-/
import Mathlib.Algebra.Group.Nat.Defs
import SecureElement.Crypto.Rsa

namespace SecureElement

/-! ## Powers -/

/-- Squaring once for every bit gives the power, for an exponent that has no more bits than that. -/
theorem powMod_eq {base modulus bits exponent : Nat} (h : exponent < 2 ^ bits) :
    powMod base modulus bits exponent = base ^ exponent % modulus := by
  induction bits generalizing exponent with
  | zero =>
    obtain rfl : exponent = 0 := Nat.lt_one_iff.mp h
    rfl
  | succ bits ih =>
    have hhalf : exponent / 2 < 2 ^ bits := by
      rw [Nat.pow_succ] at h
      omega
    have hsquare : powMod base modulus bits (exponent / 2) * powMod base modulus bits (exponent / 2) %
        modulus = base ^ (exponent / 2 + exponent / 2) % modulus := by
      rw [ih hhalf, ← Nat.mul_mod, ← Nat.pow_add]
    rw [powMod, hsquare]
    by_cases hbit : exponent % 2 = 0
    · have heven : exponent / 2 + exponent / 2 = exponent := by omega
      rw [if_pos hbit, heven]
    · have hodd : exponent / 2 + exponent / 2 + 1 = exponent := by omega
      rw [if_neg hbit, Nat.mod_mul_mod, ← Nat.pow_add_one, hodd]

/-! ## Numbers as bytes -/

namespace Bytes

theorem population_eq (width : Nat) : population width = 2 ^ (8 * width) := by
  induction width with
  | zero => rfl
  | succ width ih => rw [population, ih, Nat.mul_succ, Nat.pow_add, Nat.mul_comm]

/-- Writing what was read gives the bytes back. -/
theorem bigEndian_ofBigEndian (data : Bytes) : bigEndian data.length (ofBigEndian data) = data := by
  have h : littleEndian data.reverse.length (ofLittleEndian data.reverse) = data.reverse :=
    littleEndian_ofLittleEndian data.reverse
  rw [List.length_reverse] at h
  rw [bigEndian, ofBigEndian, h, List.reverse_reverse]

end Bytes

namespace RsaKey

/-! ## Padding -/

/-- A digest is padded if there is room for it, and then it comes last: after a zero byte, a one, the
padding, another zero byte and the name of its algorithm. -/
theorem padded?_eq_some_iff {size : Nat} {digest : Digest} {encoding : Bytes} :
    padded? size digest = some encoding ↔
      62 ≤ size ∧
        encoding = 0x00 :: 0x01 :: (List.replicate (size - 54) 0xFF ++
          0x00 :: (digestInfo ++ digest.bytes)) := by
  have hlength : (digestInfo ++ digest.bytes).length = 51 := by
    rw [List.length_append, digest.length_bytes]
    rfl
  unfold padded?
  dsimp only
  rw [hlength]
  by_cases hroom : size < 62
  · rw [if_pos hroom]
    exact iff_of_false nofun fun h => Nat.not_le_of_lt hroom h.1
  · rw [if_neg hroom, Option.some_inj, eq_comm, and_iff_right (Nat.le_of_not_lt hroom)]

theorem length_of_padded? {size : Nat} {digest : Digest} {encoding : Bytes}
    (h : padded? size digest = some encoding) : encoding.length = size := by
  obtain ⟨hroom, rfl⟩ := padded?_eq_some_iff.mp h
  have hinfo : digestInfo.length = 19 := rfl
  simp only [List.length_cons, List.length_append, List.length_replicate, digest.length_bytes, hinfo]
  omega

/-- Different digests are padded to different bytes. -/
theorem eq_of_padded? {size : Nat} {digest other : Digest} {encoding : Bytes}
    (h : padded? size digest = some encoding) (hother : padded? size other = some encoding) :
    digest = other := by
  obtain ⟨-, rfl⟩ := padded?_eq_some_iff.mp h
  obtain ⟨-, hsame⟩ := padded?_eq_some_iff.mp hother
  ext1
  simpa using hsame

/-! ## Signatures -/

variable {key : RsaKey} {message signature : Bytes}

/-- A modulus and an exponent make the key that they are written for, if it may be used. -/
theorem ofBytes_eq_ok_iff {modulus exponent : Bytes} :
    ofBytes modulus exponent = .ok key ↔
      key = ⟨Bytes.ofBigEndian modulus, Bytes.ofBigEndian exponent⟩ ∧ key.Usable := by
  unfold ofBytes
  dsimp only
  split
  next husable =>
    constructor
    · rintro ⟨⟩
      exact ⟨rfl, husable⟩
    · rintro ⟨rfl, -⟩
      rfl
  next hunusable => exact iff_of_false nofun fun ⟨hkey, husable⟩ => hunusable (hkey ▸ husable)

/-- The modulus fits in the bytes of a signature. -/
theorem modulus_lt (key : RsaKey) : key.modulus < Bytes.population key.size := by
  have hbits : key.modulus.log2 + 1 ≤ 8 * key.size := by
    rw [size]
    omega
  rw [Bytes.population_eq]
  exact Nat.lt_of_lt_of_le Nat.lt_log2_self (Nat.pow_le_pow_right Nat.two_pos hbits)

/-- A signature that is not accepted is a bad one. -/
theorem check_eq_error_of_ne (h : signature.length = key.size)
    (hcheck : key.check message signature ≠ .ok ()) :
    key.check message signature = .error .badSignature := by
  unfold check at hcheck ⊢
  rw [if_neg (not_not_intro h)] at hcheck ⊢
  dsimp only at hcheck ⊢
  split at hcheck
  next => exact absurd rfl hcheck
  next hrefused => exact if_neg hrefused

namespace Usable

theorem modulus_pos (h : key.Usable) : 0 < key.modulus :=
  Nat.lt_of_le_of_lt (Nat.zero_le _) h.exponent_lt_modulus

theorem raised_eq (h : key.Usable) (value : Nat) :
    key.raised value = Bytes.bigEndian key.size (value ^ key.exponent % key.modulus) := by
  have hbits : key.exponent < 2 ^ 33 :=
    Nat.lt_of_lt_of_le Nat.lt_log2_self (Nat.pow_le_pow_right Nat.two_pos h.exponent_bits)
  rw [raised, powMod_eq hbits]

theorem ofBigEndian_raised (h : key.Usable) (value : Nat) :
    Bytes.ofBigEndian (key.raised value) = value ^ key.exponent % key.modulus := by
  have hlt : value ^ key.exponent % key.modulus < Bytes.population key.size :=
    Nat.lt_trans (Nat.mod_lt _ h.modulus_pos) key.modulus_lt
  rw [h.raised_eq, Bytes.ofBigEndian_bigEndian, Nat.mod_eq_of_lt hlt]

/-- A signature of a message is accepted if and only if it has the length of the modulus and is below
it, and its power under the exponent is the padded digest of the message. -/
theorem check_eq_ok_iff (h : key.Usable) :
    key.check message signature = .ok () ↔
      signature.length = key.size ∧ Bytes.ofBigEndian signature < key.modulus ∧
        ∃ encoding, padded? key.size (Sha256.hash message) = some encoding ∧
          Bytes.ofBigEndian signature ^ key.exponent % key.modulus = Bytes.ofBigEndian encoding := by
  have hencoding : padded? key.size (Sha256.hash message) =
        some (key.raised (Bytes.ofBigEndian signature)) ↔
      ∃ encoding, padded? key.size (Sha256.hash message) = some encoding ∧
        Bytes.ofBigEndian signature ^ key.exponent % key.modulus = Bytes.ofBigEndian encoding := by
    constructor
    · intro hpadded
      exact ⟨_, hpadded, (h.ofBigEndian_raised _).symm⟩
    · rintro ⟨encoding, hpadded, hpower⟩
      have hbytes : Bytes.bigEndian key.size (Bytes.ofBigEndian encoding) = encoding := by
        rw [← length_of_padded? hpadded, Bytes.bigEndian_ofBigEndian]
      rw [hpadded, h.raised_eq, hpower, hbytes]
  unfold check
  by_cases hlength : signature.length = key.size
  · rw [if_neg (not_not_intro hlength), and_iff_right hlength, ← hencoding]
    dsimp only
    split
    next haccepted => exact iff_of_true rfl haccepted
    next hrefused => exact iff_of_false nofun hrefused
  · rw [if_pos hlength]
    exact iff_of_false nofun fun haccepted => hlength haccepted.1

/-- A signature stands for the digest of the message that it was accepted for. -/
theorem check_eq_ok_iff_of_check {other : Bytes} (h : key.Usable)
    (hcheck : key.check message signature = .ok ()) :
    key.check other signature = .ok () ↔ Sha256.hash message = Sha256.hash other := by
  obtain ⟨hlength, hvalue, encoding, hpadded, hpower⟩ := h.check_eq_ok_iff.mp hcheck
  constructor
  · intro hother
    obtain ⟨-, -, second, hsecond, hsame⟩ := h.check_eq_ok_iff.mp hother
    -- both padded digests are the same number, in equally many bytes
    have hbytes : encoding = second := by
      rw [← Bytes.bigEndian_ofBigEndian encoding, ← Bytes.bigEndian_ofBigEndian second,
        length_of_padded? hpadded, length_of_padded? hsecond, ← hpower, hsame]
    exact eq_of_padded? hpadded (hbytes ▸ hsecond)
  · intro hdigest
    exact h.check_eq_ok_iff.mpr ⟨hlength, hvalue, encoding, hdigest ▸ hpadded, hpower⟩

end Usable

end RsaKey

end SecureElement
