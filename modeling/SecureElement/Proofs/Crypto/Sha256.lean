/-
  SecureElement.Proofs.Crypto.Sha256

  Input in pieces.  The hasher takes the whole blocks of what it has and keeps the rest, so it does
  not matter where its input is cut: two byte strings in a row have the digest of their
  concatenation.
-/
import SecureElement.Crypto.Sha256

namespace SecureElement

namespace Sha256

/-! ## Blocks -/

/-- Blocks are taken one after the other. -/
theorem compressBlocks_add (first second : Nat) (x : Chain) (data : Bytes) :
    compressBlocks (first + second) x data =
      compressBlocks second (compressBlocks first x data) (data.drop (64 * first)) := by
  induction first generalizing x data with
  | zero => rw [Nat.zero_add, Nat.mul_zero, List.drop_zero, compressBlocks]
  | succ first ih =>
    rw [Nat.succ_add, compressBlocks, compressBlocks, ih, List.drop_drop, Nat.mul_succ,
      Nat.add_comm (64 * first)]

/-- What stands behind the blocks plays no part in them. -/
theorem compressBlocks_append {count : Nat} (x : Chain) {data : Bytes}
    (h : 64 * count ≤ data.length) (more : Bytes) :
    compressBlocks count x (data ++ more) = compressBlocks count x data := by
  induction count generalizing x data with
  | zero => rfl
  | succ count ih =>
    have hblock : 64 ≤ data.length := by omega
    have hrest : 64 * count ≤ (data.drop 64).length := by
      rw [List.length_drop]
      omega
    rw [compressBlocks, compressBlocks, List.take_append_of_le_length hblock,
      List.drop_append_of_le_length hblock, ih _ hrest]

/-! ## Hashers -/

/-- It does not matter where the input is cut. -/
theorem Hasher.update_update (hasher : Hasher) (first second : Bytes) :
    (hasher.update first).update second = hasher.update (first ++ second) := by
  let input := hasher.pending ++ first
  let taken := input.length / 64
  let rest := input.drop (64 * taken) ++ second
  have hinput : hasher.pending ++ (first ++ second) = input ++ second :=
    (List.append_assoc ..).symm
  have htaken : 64 * taken ≤ input.length := Nat.mul_div_le _ _
  have hrest : (input ++ second).drop (64 * taken) = rest :=
    List.drop_append_of_le_length htaken
  -- the blocks of the first piece, and those of what it leaves with the second
  have hcount : (input ++ second).length / 64 = taken + rest.length / 64 := by
    have hlength : (input ++ second).length = 64 * taken + rest.length := by
      rw [← hrest, List.length_drop, List.length_append]
      omega
    rw [hlength, Nat.mul_add_div (by decide)]
  have hchain : compressBlocks ((input ++ second).length / 64) hasher.chain (input ++ second) =
      compressBlocks (rest.length / 64) (compressBlocks taken hasher.chain input) rest := by
    rw [hcount, compressBlocks_add, compressBlocks_append _ htaken, hrest]
  have hpending : (input ++ second).drop (64 * ((input ++ second).length / 64)) =
      rest.drop (64 * (rest.length / 64)) := by
    rw [hcount, Nat.mul_add, ← List.drop_drop, hrest]
  have hsize : hasher.size + (first ++ second).length =
      hasher.size + first.length + second.length := by
    rw [List.length_append, Nat.add_assoc]
  show Hasher.mk _ _ _ = Hasher.mk _ _ _
  rw [hinput, hchain, hpending, hsize]
  rfl

theorem hashConcat_eq (first second : Bytes) :
    hashConcat first second = hash (first ++ second) := by
  rw [hashConcat, Hasher.update_update, hash]

end Sha256

end SecureElement
