/-
  SecureElement.Crypto.Rsa

  RSA signatures over SHA-256 digests with the padding of PKCS #1 v1.5.  A signature is accepted if
  it is below the modulus and its power under the public exponent is the padded digest of the
  message.
-/
import SecureElement.Crypto.Sha256
import SecureElement.Crypto.SignatureCheck

namespace SecureElement

/-! ## Powers -/

/-- `base ^ exponent % modulus`, for an exponent of `bits` bits, by squaring once for every bit,
highest bit first. -/
def powMod (base modulus : Nat) : (bits exponent : Nat) → Nat
  | 0, _ => 1 % modulus
  | bits + 1, exponent =>
    -- the power under all bits but the lowest
    let root := powMod base modulus bits (exponent / 2)
    if exponent % 2 = 0 then root * root % modulus else root * root % modulus * base % modulus

/-! ## Keys -/

/-- The public half of an RSA key. -/
@[ext]
structure RsaKey where
  modulus : Nat
  exponent : Nat
deriving DecidableEq, Inhabited

namespace RsaKey

/-- A key that may be used: the modulus is odd and has at most 4096 bits, and the exponent is odd,
at least two, at most 33 bits long and below the modulus. -/
structure Usable (key : RsaKey) : Prop where
  modulus_bits : key.modulus.log2 < 4096
  modulus_odd : key.modulus % 2 = 1
  exponent_odd : key.exponent % 2 = 1
  two_le_exponent : 2 ≤ key.exponent
  exponent_bits : key.exponent.log2 < 33
  exponent_lt_modulus : key.exponent < key.modulus

/-- A key may be used exactly if each of the six conditions holds. -/
theorem usable_iff (key : RsaKey) :
    key.Usable ↔
      key.modulus.log2 < 4096 ∧ key.modulus % 2 = 1 ∧ key.exponent % 2 = 1 ∧
        2 ≤ key.exponent ∧ key.exponent.log2 < 33 ∧ key.exponent < key.modulus :=
  ⟨fun ⟨a, b, c, d, e, f⟩ => ⟨a, b, c, d, e, f⟩, fun ⟨a, b, c, d, e, f⟩ => ⟨a, b, c, d, e, f⟩⟩

instance (key : RsaKey) : Decidable key.Usable :=
  decidable_of_iff' _ (usable_iff key)

/-- The key of a modulus and an exponent in bytes, most significant first, if it may be used. -/
def ofBytes (modulus exponent : Bytes) : Except CryptoFault RsaKey :=
  let key : RsaKey := ⟨Bytes.ofBigEndian modulus, Bytes.ofBigEndian exponent⟩
  if key.Usable then .ok key else .error .unusableKey

/-- The number of bytes in the modulus, and so in a signature. -/
def size (key : RsaKey) : Nat :=
  key.modulus.log2 / 8 + 1

/-! ## Signatures -/

/-- What comes between the padding and a SHA-256 digest: the structure that names the digest's
algorithm. -/
def digestInfo : Bytes :=
  [0x30, 0x31, 0x30, 0x0d, 0x06, 0x09, 0x60, 0x86, 0x48, 0x01, 0x65, 0x03, 0x04, 0x02, 0x01, 0x05,
    0x00, 0x04, 0x20]

/-- A digest padded to `size` bytes, if there is room for eight bytes of padding. -/
def padded? (size : Nat) (digest : Digest) : Option Bytes :=
  let tail := digestInfo ++ digest.bytes
  -- three more bytes enclose the padding
  if size < tail.length + 11 then
    none
  else
    some (0x00 :: 0x01 :: (List.replicate (size - (tail.length + 3)) 0xFF ++ 0x00 :: tail))

/-- What a signature of the right length is raised to: its power under the exponent, in as many
bytes as the modulus has. -/
def raised (key : RsaKey) (value : Nat) : Bytes :=
  Bytes.bigEndian key.size (powMod value key.modulus 33 key.exponent)

/-- Accepts or refuses a signature of a message. -/
def check (key : RsaKey) (message signature : Bytes) : Except CryptoFault Unit :=
  if signature.length ≠ key.size then
    .error .badSignatureLength
  else
    let value := Bytes.ofBigEndian signature
    if value < key.modulus ∧ padded? key.size (Sha256.hash message) = some (key.raised value) then
      .ok ()
    else
      .error .badSignature

def signatureCheck (key : RsaKey) : SignatureCheck where
  length := key.size
  check := key.check

end RsaKey

end SecureElement
