/-
  SecureElement.Release.Authority

  Accepting release tokens.  A token is checked in a fixed order: its form, its signature, and then
  whether its nonce is new enough.  So a rightly signed token with an old nonce is told apart from a
  forged one.
-/
import SecureElement.Crypto.SignatureCheck
import SecureElement.Release.Token

namespace SecureElement

/-- What it takes to accept release tokens. -/
structure ReleaseAuthority where
  signatures : SignatureCheck
  policy : NoncePolicy

namespace ReleaseAuthority

def tokenLength (authority : ReleaseAuthority) : Nat :=
  ReleaseToken.headerSize + authority.signatures.length

/-- The nonce of a token that releases a device bound by `binding` after the nonce `last`. -/
def accept (authority : ReleaseAuthority) (last : Nonce) (binding : DeviceBinding)
    (payload : Bytes) : Except Refusal Nonce := do
  let token ← ReleaseToken.parse payload authority.signatures.length
  let message := ReleaseToken.signedMessage token.nonce binding
  (authority.signatures.check message.bytes token.signature).mapError CryptoFault.toRefusal
  if authority.policy.accepts last token.nonce then
    return token.nonce
  else
    throw .notAllowed

/-- Checks a token against a nonce and a binding from outside, both as bytes. -/
def selfTest (authority : ReleaseAuthority) (last binding token : Bytes) : Except Refusal Nonce :=
  match Block.ofBytes? 8 last, Block.ofBytes? 32 binding with
  | some last, some binding => authority.accept (.ofBlock last) binding token
  | _, _ => .error .wrongLength

end ReleaseAuthority

end SecureElement
