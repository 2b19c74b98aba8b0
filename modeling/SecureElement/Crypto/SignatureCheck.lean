/-
  SecureElement.Crypto.SignatureCheck

  The one cryptographic capability that the element is given: checking signatures of one length
  under a key that it need not know.
-/
import SecureElement.Bytes.Basic
import SecureElement.Crypto.Fault

namespace SecureElement

/-- A way to check signatures under one key. -/
structure SignatureCheck where
  length : Nat
  /-- Accepts or refuses a signature of a message. -/
  check : (message signature : Bytes) → Except CryptoFault Unit

end SecureElement
