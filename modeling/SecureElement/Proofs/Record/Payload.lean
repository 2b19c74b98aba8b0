/-
  SecureElement.Proofs.Record.Payload

  Payloads as fields in a row.  A field is cut out of a payload by its offset and its length, and
  the payloads of slots, locks, boot states and scratchpad contents hold the value that they were
  made of.  The other way round, a payload that can be decoded is the one of the value found in it.
-/
import SecureElement.Boot.Scratchpad
import SecureElement.Boot.State
import SecureElement.Lock.State
import SecureElement.Slot.Basic

namespace SecureElement

/-! ## Fields -/

/-- The field between a payload's first bytes and its last. -/
theorem Bytes.take_drop_append {first field last : Bytes} {start count : Nat}
    (hstart : first.length = start) (hcount : field.length = count) :
    ((first ++ (field ++ last)).drop start).take count = field := by
  subst hstart
  subst hcount
  simp

theorem Bytes.take_drop_append_last {first field : Bytes} {start count : Nat}
    (hstart : first.length = start) (hcount : field.length = count) :
    ((first ++ field).drop start).take count = field := by
  rw [List.drop_left' hstart, List.take_of_length_le (Nat.le_of_eq hcount)]

/-- A field and what follows it are what follows the bytes before the field. -/
theorem Bytes.take_append_drop_add (data : Bytes) (start count : Nat) :
    (data.drop start).take count ++ data.drop (start + count) = data.drop start := by
  rw [← List.drop_drop, List.take_append_drop]

namespace Block

variable {m n count : Nat}

/-- The last field of a payload is all that follows the bytes before it. -/
theorem take_drop_last (block : Block n) (start count : Nat) (h : start + count = n) :
    (block.bytes.drop start).take count = block.bytes.drop start := by
  refine List.take_of_length_le ?_
  rw [List.length_drop, block.length_bytes]
  omega

theorem slice_append_left (first : Block m) (second : Block n) :
    (first ++ second).slice 0 m (by omega) = first := by
  ext1
  rw [bytes_slice, bytes_append, List.drop_zero]
  exact List.take_left' first.length_bytes

theorem slice_append_right (first : Block m) (second : Block n) :
    (first ++ second).slice m n (Nat.le_refl _) = second := by
  ext1
  rw [bytes_slice, bytes_append]
  exact Bytes.take_drop_append_last first.length_bytes second.length_bytes

/-- In a row of blocks of one length, each block is found at the multiple of that length. -/
theorem take_drop_flatMap (blocks : List (Block n)) (piece : Nat) (h : piece < blocks.length) :
    ((blocks.flatMap bytes).drop (piece * n)).take n = blocks[piece].bytes := by
  induction blocks generalizing piece with
  | nil => cases h
  | cons block rest ih =>
    rw [List.flatMap_cons]
    cases piece with
    | zero =>
      rw [Nat.zero_mul, List.drop_zero]
      exact List.take_left' block.length_bytes
    | succ piece =>
      have hpiece : piece < rest.length := Nat.lt_of_succ_lt_succ h
      have hlength : (piece + 1) * n = block.bytes.length + piece * n := by
        rw [block.length_bytes, Nat.succ_mul, Nat.add_comm]
      rw [hlength, List.drop_length_add_append]
      exact ih piece hpiece

/-- Blocks that were joined are the pieces of the whole. -/
theorem pieces_join (blocks : Vector (Block n) count) : (join blocks).pieces = blocks := by
  refine Vector.ext fun piece hpiece => ?_
  ext1
  have hlength : piece < blocks.toList.length := by rw [Vector.length_toList]; exact hpiece
  rw [pieces, Vector.getElem_ofFn, bytes_slice, join, take_drop_flatMap _ _ hlength,
    Vector.getElem_toList]

theorem slice_append_slice (block : Block (m + n)) :
    block.slice 0 m (by omega) ++ block.slice m n (Nat.le_refl _) = block := by
  ext1
  rw [bytes_append, bytes_slice, bytes_slice, block.take_drop_last m n rfl,
    List.drop_zero, List.take_append_drop]

/-- The first pieces of a block in a row are its first bytes. -/
theorem flatMap_take_pieces (block : Block (count * n)) {pieces : Nat} (h : pieces ≤ count) :
    (block.pieces.toList.take pieces).flatMap bytes = block.bytes.take (pieces * n) := by
  induction pieces with
  | zero => simp
  | succ piece ih =>
    have hlength : piece < block.pieces.toList.length := by
      rw [Vector.length_toList]
      exact h
    have hpiece : block.pieces.toList[piece].bytes =
        (block.bytes.drop (piece * n)).take n := by
      simp [pieces]
    rw [List.take_add_one, List.flatMap_append, ih (by omega), List.getElem?_eq_getElem hlength,
      Option.toList_some, List.flatMap_singleton, hpiece, Nat.succ_mul, List.take_add]

/-- The pieces of a block are joined to the block again. -/
theorem join_pieces (block : Block (count * n)) : join block.pieces = block := by
  ext1
  have hall := block.flatMap_take_pieces (Nat.le_refl count)
  rw [List.take_of_length_le (Nat.le_of_eq Vector.length_toList),
    List.take_of_length_le (Nat.le_of_eq block.length_bytes)] at hall
  exact hall

end Block

/-! ## Slots -/

namespace Slot

open Persistent

theorem bytes_encode (slot : Slot) :
    (encode slot).bytes = slot.key.bytes ++ (slot.value.bytes ++
      ((Block.littleEndian 2 slot.failures.toNat).bytes ++ slot.deadline.toBlock.bytes)) := by
  show slot.key.bytes ++ slot.value.bytes ++ _ ++ _ = _
  rw [List.append_assoc, List.append_assoc]

theorem ofNat_littleEndian (count : UInt16) :
    UInt16.ofNat (Block.littleEndian 2 count.toNat).toNat = count := by
  apply UInt16.toNat_inj.mp
  have hlt := count.toNat_lt
  simp only [Block.toNat_littleEndian, UInt16.toNat_ofNat', Bytes.population]
  omega

/-- A slot's payload holds the slot, if its failure count is in range. -/
theorem decode_encode {slot : Slot} (h : slot.failures ≤ maxFailures) :
    decode (encode slot) = .ok slot := by
  -- one fact for each field: the bytes at its offset are the bytes that were encoded
  have hkeyLength := slot.key.length_bytes
  have hvalueLength := slot.value.length_bytes
  have hkey : (encode slot).slice 0 16 = slot.key := by
    ext1
    rw [Block.bytes_slice, bytes_encode, List.drop_zero]
    exact List.take_left' hkeyLength
  have hvalue : (encode slot).slice 16 16 = slot.value := by
    ext1
    rw [Block.bytes_slice, bytes_encode]
    exact Bytes.take_drop_append hkeyLength hvalueLength
  have hcount : (encode slot).slice 32 2 = Block.littleEndian 2 slot.failures.toNat := by
    ext1
    rw [Block.bytes_slice, bytes_encode, ← List.append_assoc]
    exact Bytes.take_drop_append (by simp [hkeyLength, hvalueLength]) (Block.length_bytes _)
  have hdeadline : (encode slot).slice 34 8 = slot.deadline.toBlock := by
    ext1
    rw [Block.bytes_slice, bytes_encode, ← List.append_assoc, ← List.append_assoc]
    exact Bytes.take_drop_append_last (by simp [hkeyLength, hvalueLength, Block.length_bytes])
      (Block.length_bytes _)
  -- a count in range passes the check
  show (if maxFailures < UInt16.ofNat ((encode slot).slice 32 2).toNat then _ else _) = _
  rw [hcount, ofNat_littleEndian, if_neg (UInt16.not_lt.mpr h), hkey, hvalue, hdeadline,
    Instant.ofBlock_toBlock]

theorem littleEndian_ofNat (block : Block 2) :
    Block.littleEndian 2 (UInt16.ofNat block.toNat).toNat = block := by
  have hlt : block.toNat < UInt16.size := block.toNat_lt
  rw [UInt16.toNat_ofNat_of_lt' hlt, Block.littleEndian_toNat]

/-- A payload that holds a slot is that slot's payload. -/
theorem encode_of_decode {block : Block (size Slot)} {slot : Slot}
    (h : decode block = .ok slot) : encode slot = block := by
  change (if maxFailures < UInt16.ofNat (block.slice 32 2).toNat then _ else _) = _ at h
  split at h
  · cases h
  · cases h
    ext1
    -- the four fields in a row, put together from the last
    rw [bytes_encode, littleEndian_ofNat, Instant.toBlock_ofBlock]
    simp only [Block.bytes_slice]
    rw [block.take_drop_last 34 8 rfl, Bytes.take_append_drop_add _ 32 2,
      Bytes.take_append_drop_add _ 16 16, Bytes.take_append_drop_add _ 0 16, List.drop_zero]

theorem decode_eq_error {block : Block (size Slot)} {error : MediumError}
    (h : decode block = .error error) : error = .outOfDomain := by
  change (if maxFailures < UInt16.ofNat (block.slice 32 2).toNat then _ else _) = _ at h
  split at h
  · cases h
    rfl
  · cases h

/-- A slot that was decoded has a failure count in range. -/
theorem failures_le_of_decode {block : Block (size Slot)} {slot : Slot}
    (h : decode block = .ok slot) : slot.failures ≤ maxFailures := by
  change (if maxFailures < UInt16.ofNat (block.slice 32 2).toNat then _ else _) = _ at h
  split at h
  · cases h
  · rename_i hle
    cases h
    exact UInt16.not_lt.mp hle

end Slot

/-! ## Locks -/

namespace Locks

open Persistent

/-- The mask has no bit but those of the locks. -/
def InDomain (locks : Locks) : Prop :=
  locks.mask &&& ~~~Lock.fullMask = 0

theorem bytes_encode (locks : Locks) :
    (encode locks).bytes = (Block.littleEndian 1 locks.mask.toNat).bytes ++
      (locks.nonce.toBlock.bytes ++ locks.binding.bytes) := by
  show _ ++ _ ++ _ = _
  rw [List.append_assoc]

theorem ofNat_littleEndian (mask : UInt8) :
    UInt8.ofNat (Block.littleEndian 1 mask.toNat).toNat = mask := by
  apply UInt8.toNat_inj.mp
  have hlt := mask.toNat_lt
  simp only [Block.toNat_littleEndian, UInt8.toNat_ofNat', Bytes.population]
  omega

/-- The locks' payload holds the locks, if the mask is in its domain. -/
theorem decode_encode {locks : Locks} (h : locks.InDomain) :
    decode (encode locks) = .ok locks := by
  have hmask : (encode locks).slice 0 1 = Block.littleEndian 1 locks.mask.toNat := by
    ext1
    rw [Block.bytes_slice, bytes_encode, List.drop_zero]
    exact List.take_left' (Block.length_bytes _)
  have hnonce : (encode locks).slice 1 8 = locks.nonce.toBlock := by
    ext1
    rw [Block.bytes_slice, bytes_encode]
    exact Bytes.take_drop_append (Block.length_bytes _) (Block.length_bytes _)
  have hbinding : (encode locks).slice 9 32 = locks.binding := by
    ext1
    rw [Block.bytes_slice, bytes_encode, ← List.append_assoc]
    have hfirst : ((Block.littleEndian 1 locks.mask.toNat).bytes ++
        locks.nonce.toBlock.bytes).length = 9 := by
      simp [Block.length_bytes]
    exact Bytes.take_drop_append_last hfirst (Block.length_bytes _)
  show (if UInt8.ofNat ((encode locks).slice 0 1).toNat &&& ~~~Lock.fullMask = 0 then _ else _) = _
  unfold InDomain at h
  rw [hmask, ofNat_littleEndian, if_pos h, hnonce, hbinding, Nonce.ofBlock_toBlock]

theorem littleEndian_ofNat (block : Block 1) :
    Block.littleEndian 1 (UInt8.ofNat block.toNat).toNat = block := by
  have hlt : block.toNat < UInt8.size := block.toNat_lt
  rw [UInt8.toNat_ofNat_of_lt' hlt, Block.littleEndian_toNat]

/-- A payload that holds locks is those locks' payload. -/
theorem encode_of_decode {block : Block (size Locks)} {locks : Locks}
    (h : decode block = .ok locks) : encode locks = block := by
  change (if UInt8.ofNat (block.slice 0 1).toNat &&& ~~~Lock.fullMask = 0 then _ else _) = _ at h
  split at h
  · cases h
    ext1
    rw [bytes_encode, littleEndian_ofNat, Nonce.toBlock_ofBlock]
    simp only [Block.bytes_slice]
    rw [block.take_drop_last 9 32 rfl, Bytes.take_append_drop_add _ 1 8,
      Bytes.take_append_drop_add _ 0 1, List.drop_zero]
  · cases h

theorem decode_eq_error {block : Block (size Locks)} {error : MediumError}
    (h : decode block = .error error) : error = .outOfDomain := by
  change (if UInt8.ofNat (block.slice 0 1).toNat &&& ~~~Lock.fullMask = 0 then _ else _) = _ at h
  split at h
  · cases h
  · cases h
    rfl

/-- Locks that were decoded have a mask in its domain. -/
theorem inDomain_of_decode {block : Block (size Locks)} {locks : Locks}
    (h : decode block = .ok locks) : locks.InDomain := by
  change (if UInt8.ofNat (block.slice 0 1).toNat &&& ~~~Lock.fullMask = 0 then _ else _) = _ at h
  split at h
  · rename_i hmask
    cases h
    exact hmask
  · cases h

end Locks

/-! ## Boot states and scratchpad contents -/

open Persistent

/-- A boot state's payload holds the boot state. -/
theorem BootState.decode_encode (state : BootState) : decode (encode state) = .ok state := by
  -- the two halves of the payload, each as blocks in a row
  let floors := state.floors.map fun floor => Block.littleEndian 8 floor.toNat
  let first : Block (registerCount * 32) := (encode state).slice 0 64
  let second : Block (floorCount * 8) := (encode state).slice 64 64
  have hfirst : first = Block.join state.registers :=
    Block.slice_append_left (Block.join state.registers) (Block.join floors)
  have hsecond : second = Block.join floors :=
    Block.slice_append_right (Block.join state.registers) (Block.join floors)
  have hread (floor : UInt64) : UInt64.ofNat (Block.littleEndian 8 floor.toNat).toNat = floor := by
    apply UInt64.toNat_inj.mp
    have hlt := floor.toNat_lt
    simp only [Block.toNat_littleEndian, UInt64.toNat_ofNat', Bytes.population]
    omega
  have hback : (fun floor => UInt64.ofNat floor.toNat) ∘
      (fun floor : UInt64 => Block.littleEndian 8 floor.toNat) = id := funext hread
  show Except.ok (BootState.mk first.pieces
    (second.pieces.map fun floor => UInt64.ofNat floor.toNat)) = _
  rw [hfirst, hsecond, Block.pieces_join, Block.pieces_join, Vector.map_map, hback, Vector.map_id]

/-- Every payload holds a boot state, and is that boot state's payload. -/
theorem BootState.encode_of_decode {block : Block (size BootState)} {state : BootState}
    (h : decode block = .ok state) : encode state = block := by
  let first : Block (registerCount * 32) := block.slice 0 64
  let second : Block (floorCount * 8) := block.slice 64 64
  have hread (floor : Block 8) : Block.littleEndian 8 (UInt64.ofNat floor.toNat).toNat = floor := by
    have hlt : floor.toNat < UInt64.size := floor.toNat_lt
    rw [UInt64.toNat_ofNat_of_lt' hlt, Block.littleEndian_toNat]
  have hback : (fun floor : UInt64 => Block.littleEndian 8 floor.toNat) ∘
      (fun floor : Block 8 => UInt64.ofNat floor.toNat) = id := funext hread
  obtain rfl : BootState.mk first.pieces
      (second.pieces.map fun floor => UInt64.ofNat floor.toNat) = state := Except.ok.inj h
  show Block.join first.pieces ++ Block.join ((second.pieces.map fun floor =>
    UInt64.ofNat floor.toNat).map fun floor => Block.littleEndian 8 floor.toNat) = block
  rw [Vector.map_map, hback, Vector.map_id, Block.join_pieces, Block.join_pieces]
  exact Block.slice_append_slice (m := 64) (n := 64) block

theorem ScratchImage.decode_encode (image : ScratchImage) : decode (encode image) = .ok image :=
  rfl

end SecureElement
