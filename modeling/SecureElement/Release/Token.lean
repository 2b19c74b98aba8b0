/-
  SecureElement.Release.Token

  Release tokens.  A device that is bound to a carrier is released by a token: one version byte, the
  nonce in eight bytes with the least significant first, and a signature over the nonce followed by
  the digest that the device is bound by.
-/
import SecureElement.Crypto.Sha256
import SecureElement.Nonce
import SecureElement.Refusal

namespace SecureElement

/-- The digest of the data that binds a device to a carrier. -/
abbrev DeviceBinding :=
  Digest

def DeviceBinding.ofData (data : Bytes) : DeviceBinding :=
  Sha256.hash data

/-- A carrier's permission to release a device. -/
@[ext]
structure ReleaseToken where
  /-- The counter value that keeps the token from being used again. -/
  nonce : Nonce
  signature : Bytes
deriving DecidableEq, Inhabited

namespace ReleaseToken

def version : UInt8 :=
  1

/-- The number of bytes before the signature. -/
def headerSize : Nat :=
  9

/-- The message that a carrier signs to release a device. -/
def signedMessage (nonce : Nonce) (binding : DeviceBinding) : Block 40 :=
  nonce.toBlock ++ binding

def toBytes (token : ReleaseToken) : Bytes :=
  version :: (token.nonce.toBlock.bytes ++ token.signature)

/-- The token in a byte string, if that is as long as a token with a signature of this length and
begins with the version. -/
def parse (payload : Bytes) (signatureLength : Nat) : Except Refusal ReleaseToken :=
  if payload.length ≠ headerSize + signatureLength then
    .error .malformed
  else if payload.head? ≠ some version then
    .error .malformed
  else
    match Block.ofBytes? 8 (payload.tail.take 8) with
    | some nonce => .ok ⟨.ofBlock nonce, payload.drop headerSize⟩
    | none => .error .malformed

end ReleaseToken

end SecureElement
