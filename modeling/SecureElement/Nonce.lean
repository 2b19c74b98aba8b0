/-
  SecureElement.Nonce

  The counter value that orders release tokens, and the policy on which value may follow which.  On
  the wire a nonce is eight bytes, least significant first.
-/
import SecureElement.Bytes.Endian

namespace SecureElement

/-- The counter value of a release token. -/
@[ext]
structure Nonce where
  value : UInt64
deriving DecidableEq, Inhabited

namespace Nonce

/-- The nonce before any token was accepted. -/
def zero : Nonce :=
  ⟨0⟩

/-- A nonce as eight bytes, least significant first. -/
def toBlock (nonce : Nonce) : Block 8 :=
  Block.littleEndian 8 nonce.value.toNat

/-- The nonce in eight bytes, least significant first. -/
def ofBlock (block : Block 8) : Nonce :=
  ⟨UInt64.ofNat block.toNat⟩

instance : Ord Nonce :=
  ⟨fun first second => compare first.value second.value⟩

instance : LT Nonce :=
  ⟨fun first second => first.value < second.value⟩

instance : DecidableLT Nonce :=
  fun first second => inferInstanceAs (Decidable (first.value < second.value))

instance : LE Nonce :=
  ⟨fun first second => first.value ≤ second.value⟩

instance : DecidableLE Nonce :=
  fun first second => inferInstanceAs (Decidable (first.value ≤ second.value))

/-- A nonce is read back from its bytes. -/
@[simp] theorem ofBlock_toBlock (nonce : Nonce) : ofBlock nonce.toBlock = nonce := by
  ext1
  apply UInt64.toNat_inj.mp
  have := nonce.value.toNat_lt
  simp only [ofBlock, toBlock, Block.toNat_littleEndian, UInt64.toNat_ofNat', Bytes.population]
  omega

/-- Every block of eight bytes is the bytes of the nonce that it holds. -/
@[simp] theorem toBlock_ofBlock (block : Block 8) : (ofBlock block).toBlock = block := by
  have h : block.toNat < UInt64.size := block.toNat_lt
  rw [toBlock, ofBlock, UInt64.toNat_ofNat_of_lt' h, Block.littleEndian_toNat]

end Nonce

/-! ## Policy -/

/-- Which nonces a release token may carry. -/
structure NoncePolicy where
  /-- Whether the nonce of the last accepted token is accepted again. -/
  allowEqual : Bool := true
deriving DecidableEq, Inhabited

namespace NoncePolicy

/-- The policy under which every token needs a nonce of its own. -/
def strict : NoncePolicy :=
  ⟨false⟩

/-- Whether a token may carry the nonce `presented` after the nonce `last`. -/
def accepts (policy : NoncePolicy) (last presented : Nonce) : Bool :=
  if policy.allowEqual then last ≤ presented else last < presented

end NoncePolicy

end SecureElement
