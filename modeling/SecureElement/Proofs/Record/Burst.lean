/-
  SecureElement.Proofs.Record.Burst

  Errors that an image cannot hide.  By linearity an error shows in the register of the checksum as
  the register of the error itself, started from zero.  If the error fits into four bytes in a row,
  wherever they stand, then these bytes are one non-zero number in the register, and no later step
  makes it zero again: the altered image is damaged, and no value is read from it.
-/
import SecureElement.Proofs.Medium.Lawful
import SecureElement.Proofs.Record.Checksum
import SecureElement.Record.Format

namespace SecureElement

/-! ## Bursts -/

/-- Whether a byte string is zero outside of `count` bytes from `start` on. -/
def Bytes.Confined (pattern : Bytes) (start count : Nat) : Prop :=
  ∀ (i : Nat) (hi : i < pattern.length), pattern[i] ≠ 0 → start ≤ i ∧ i < start + count

namespace Bytes

@[simp] theorem length_xor (first second : Bytes) :
    (xor first second).length = min first.length second.length :=
  List.length_zipWith

theorem eq_zero_of_ofLittleEndian {data : Bytes} (h : ofLittleEndian data = 0) :
    ∀ byte ∈ data, byte = 0 := by
  induction data with
  | nil => exact List.forall_mem_nil _
  | cons byte rest ih =>
    rw [ofLittleEndian] at h
    have hbyte : byte = 0 := UInt8.toNat_inj.mp (by show byte.toNat = 0; omega)
    exact List.forall_mem_cons.mpr ⟨hbyte, ih (by omega)⟩

variable {pattern : Bytes} {start count : Nat}

theorem Confined.take_eq_zeros (h : pattern.Confined start count) :
    pattern.take start = List.replicate (pattern.take start).length 0 := by
  refine List.eq_replicate_iff.mpr ⟨rfl, fun byte hbyte => ?_⟩
  obtain ⟨i, hi, rfl⟩ := List.mem_take_iff_getElem.mp hbyte
  refine Decidable.byContradiction fun hne => ?_
  have hstart := (h i (by omega) hne).1
  omega

theorem Confined.drop_eq_zeros (h : pattern.Confined start count) :
    pattern.drop (start + count) = List.replicate (pattern.drop (start + count)).length 0 := by
  refine List.eq_replicate_iff.mpr ⟨rfl, fun byte hbyte => ?_⟩
  obtain ⟨i, hi, rfl⟩ := List.mem_drop_iff_getElem.mp hbyte
  refine Decidable.byContradiction fun hne => ?_
  have hend := (h _ (by omega) hne).2
  omega

/-- Zeros, the bytes of the burst, and zeros. -/
theorem Confined.eq_append (h : pattern.Confined start count) :
    ∃ (before after : Nat) (burst : Bytes), burst.length ≤ count ∧
      pattern = List.replicate before 0 ++ (burst ++ List.replicate after 0) := by
  refine ⟨(pattern.take start).length, (pattern.drop (start + count)).length,
    (pattern.drop start).take count, List.length_take_le .., ?_⟩
  rw [← h.take_eq_zeros, ← h.drop_eq_zeros, ← List.drop_drop, List.take_append_drop,
    List.take_append_drop]

end Bytes

/-! ## The register of a burst -/

/-- A burst that fits into the register does not leave it zero. -/
theorem Crc32.eq_zero_of_registerAfter {pattern : Bytes} {start : Nat}
    (hconfined : pattern.Confined start 4) (hzero : registerAfter 0 pattern = 0) :
    ∀ byte ∈ pattern, byte = 0 := by
  obtain ⟨before, after, burst, hlength, rfl⟩ := hconfined.eq_append
  -- no step makes a non-zero register zero, so the burst already left it zero
  have hburst : UInt32.ofNat (Bytes.ofLittleEndian burst) = 0 := by
    rw [registerAfter_append, registerAfter_append, registerAfter_zeros, registerAfter_zeros,
      shiftBy_zero, registerAfter_short _ hlength, UInt32.zero_xor] at hzero
    exact eq_zero_of_shiftBy (eq_zero_of_shiftBy hzero)
  have hnumber : Bytes.ofLittleEndian burst = 0 := by
    have hlt : Bytes.ofLittleEndian burst < Bytes.population 4 :=
      Bytes.ofLittleEndian_lt_of_le hlength
    have hword := UInt32.toNat_ofNat_of_lt' hlt
    rw [hburst] at hword
    exact hword.symm
  intro byte hbyte
  simp only [List.mem_append, List.mem_replicate] at hbyte
  obtain ⟨-, hbyte⟩ | hbyte | ⟨-, hbyte⟩ := hbyte
  · exact hbyte
  · exact Bytes.eq_zero_of_ofLittleEndian hnumber byte hbyte
  · exact hbyte

/-! ## Altered images -/

namespace Persistent

variable {ρ μ : Type} [Persistent ρ]

/-- The checksum of an image makes its register the same for every value. -/
theorem registerAfter_image (value : ρ) :
    Crc32.registerAfter 0xFFFFFFFF (image value) = Crc32.residue := by
  have hlt := (Crc32.checksum (encode value).bytes).toNat_lt
  refine (Crc32.registerAfter_eq_residue_iff (Bytes.length_littleEndian ..)).mpr ?_
  rw [Bytes.ofLittleEndian_littleEndian]
  exact Nat.mod_eq_of_lt hlt

/-- Nothing is read from an image with another register. -/
theorem ofImage_of_registerAfter_ne {data : Bytes} (hlength : data.length = imageSize ρ)
    (hregister : Crc32.registerAfter 0xFFFFFFFF data ≠ Crc32.residue) :
    ofImage ρ data = .error .damaged := by
  have hlast : (data.drop (size ρ)).length = 4 := by
    rw [List.length_drop, hlength, imageSize, checksumSize]
    omega
  have hchecksum : Bytes.ofLittleEndian (data.drop (size ρ)) ≠
      (Crc32.checksum (data.take (size ρ))).toNat := by
    rwa [Ne, ← Crc32.registerAfter_eq_residue_iff hlast, List.take_append_drop]
  rw [ofImage, dif_pos hlength]
  exact if_neg hchecksum

/-- The image of a value plus an error has the sum of their registers. -/
theorem registerAfter_image_xor (value : ρ) {pattern : Bytes}
    (hlength : pattern.length = imageSize ρ) :
    Crc32.registerAfter 0xFFFFFFFF (Bytes.xor (image value) pattern) =
      Crc32.residue ^^^ Crc32.registerAfter 0 pattern := by
  have hlengths : (image value).length = pattern.length := (length_image value).trans hlength.symm
  rw [← registerAfter_image value, ← Crc32.registerAfter_xor _ _ hlengths, UInt32.xor_zero]

/-- No value is loaded from an image in which up to four bytes in a row were altered. -/
theorem load_of_burst [Medium μ] (hsize : size ρ ≤ maxSize) (value : ρ) {pattern : Bytes}
    (hlength : pattern.length = imageSize ρ) (haltered : ∃ byte ∈ pattern, byte ≠ 0)
    {start : Nat} (hconfined : pattern.Confined start 4) {medium : μ} {id : RecordId}
    (hload : Medium.load medium id maxImageSize = .ok (some (Bytes.xor (image value) pattern))) :
    load ρ medium id = .error .damaged := by
  have himage : (Bytes.xor (image value) pattern).length = imageSize ρ := by
    rw [Bytes.length_xor, length_image, hlength, Nat.min_self]
  have hregister :
      Crc32.registerAfter 0xFFFFFFFF (Bytes.xor (image value) pattern) ≠ Crc32.residue := by
    rw [registerAfter_image_xor value hlength]
    intro hresidue
    have hzero : Crc32.registerAfter 0 pattern = 0 :=
      (UInt32.xor_right_inj Crc32.residue).mp (hresidue.trans UInt32.xor_zero.symm)
    obtain ⟨byte, hbyte, hne⟩ := haltered
    exact hne (Crc32.eq_zero_of_registerAfter hconfined hzero byte hbyte)
  rw [load, if_neg (by omega), hload]
  show (ofImage ρ _).map some = _
  rw [ofImage_of_registerAfter_ne himage hregister]
  rfl

/-- The last byte of a payload and the first byte of its checksum are inverted. -/
theorem load_of_burst_over_the_seam :
    ∃ medium : RamMedium 1 16,
      save RamMedium.empty ⟨0⟩ (Block.fill 3 0x5A) = .ok medium ∧
      load (Block 3) ((medium.damage ⟨0⟩ 2).damage ⟨0⟩ 3) ⟨0⟩ = .error .damaged := by
  let value : Block 3 := Block.fill 3 0x5A
  let pattern : Bytes := [0, 0, 0xFF, 0xFF, 0, 0, 0]
  obtain ⟨medium, hcommit⟩ : ∃ medium : RamMedium 1 16,
      Medium.commit RamMedium.empty ⟨0⟩ (image value) = .ok medium :=
    RamMedium.commit_isOk (by decide) (by decide) (by decide)
  have hconfined : pattern.Confined 2 4 := by
    unfold Bytes.Confined
    decide
  have hload : Medium.load ((medium.damage ⟨0⟩ 2).damage ⟨0⟩ 3) ⟨0⟩ maxImageSize =
      .ok (some (Bytes.xor (image value) pattern)) := by
    have hroom : (image value).length ≤ maxImageSize := by decide
    have hcommitted : Medium.load medium ⟨0⟩ maxImageSize = .ok (some (image value)) :=
      LawfulMedium.load_commit hcommit hroom
    have hbytes : ((image value).modify 2 (· ^^^ 0xFF)).modify 3 (· ^^^ 0xFF) =
        Bytes.xor (image value) pattern := by
      decide +kernel
    rw [← hbytes]
    exact RamMedium.load_damage (RamMedium.load_damage hcommitted 2) 3
  exact ⟨medium, hcommit, load_of_burst (by decide) value rfl (by decide) hconfined hload⟩

end Persistent

end SecureElement
