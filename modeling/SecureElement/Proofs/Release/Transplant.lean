/-
  SecureElement.Proofs.Release.Transplant

  A carrier's signature releases one device by one nonce.  Where a signature was good once, it is good
  exactly for the messages with the digest of the first one, under every policy and after every last
  nonce.  A message is the nonce followed by the binding, so that another nonce or another device would
  take a collision of SHA-256.
-/
import SecureElement.Proofs.Crypto.Rsa
import SecureElement.Proofs.Release.Verdict

namespace SecureElement

namespace Nonce

theorem toBlock_inj {nonce other : Nonce} : nonce.toBlock = other.toBlock ↔ nonce = other := by
  constructor
  · intro h
    rw [← ofBlock_toBlock nonce, h, ofBlock_toBlock]
  · exact congrArg toBlock

end Nonce

namespace ReleaseToken

theorem isWritten_toBytes (token : ReleaseToken) :
    IsWritten token.toBytes token.signature.length token.nonce token.signature :=
  ⟨rfl, rfl⟩

/-- A token is read back from its bytes if its signature has the length that is asked for, and is
malformed if not. -/
theorem parse_toBytes (token : ReleaseToken) (length : Nat) :
    parse token.toBytes length =
      if token.signature.length = length then .ok token else .error .malformed := by
  by_cases h : token.signature.length = length
  · rw [if_pos h, ← h]
    exact token.isWritten_toBytes.parse_eq
  · have hlength : token.toBytes.length = 9 + token.signature.length := by
      rw [toBytes, List.length_cons, List.length_append, token.nonce.toBlock.length_bytes]
      omega
    rw [if_neg h]
    exact IsMalformed.parse_eq (Or.inl (by omega))

/-- The nonce and the binding can be told from the message that is signed. -/
theorem signedMessage_inj {nonce other : Nonce} {binding foreign : DeviceBinding} :
    (signedMessage nonce binding).bytes = (signedMessage other foreign).bytes ↔
      nonce = other ∧ binding = foreign := by
  constructor
  · intro h
    have hlength : nonce.toBlock.bytes.length = other.toBlock.bytes.length := by
      rw [nonce.toBlock.length_bytes, other.toBlock.length_bytes]
    obtain ⟨hnonce, hbinding⟩ := List.append_inj h hlength
    exact ⟨Nonce.toBlock_inj.mp (Block.ext hnonce), Block.ext hbinding⟩
  · rintro ⟨rfl, rfl⟩
    rfl

end ReleaseToken

namespace ReleaseAuthority

/-- A token is accepted if its signature is good for its nonce and the binding, and its nonce is new
enough. -/
theorem accept_toBytes_eq_ok_iff {authority : ReleaseAuthority} {last nonce : Nonce}
    {binding : DeviceBinding} {token : ReleaseToken} :
    authority.accept last binding token.toBytes = .ok nonce ↔
      token.signature.length = authority.signatures.length ∧
        authority.signatures.check (ReleaseToken.signedMessage token.nonce binding).bytes
          token.signature = .ok () ∧
        authority.policy.accepts last token.nonce = true ∧ nonce = token.nonce := by
  rw [accept_eq_ok_iff, ReleaseToken.parse_toBytes]
  by_cases hlength : token.signature.length = authority.signatures.length
  · simp [hlength]
  · simp [hlength]

/-- A signature cannot be taken from one token to another.  For every key that can be made, all policies
and last nonces, two bindings and two tokens with the same signature, of which the first is accepted:
the second one is accepted, and then with its own nonce, if and only if the message that would have to
be signed for it, its nonce in eight bytes followed by its binding, has the digest of the message of the
first, and its nonce is new enough.  If the digests differ, it is refused as a forgery.  These messages
are equal only for one nonce and one binding. -/
theorem signature_accepted_iff_digest_eq {modulus exponent : Bytes} {key : RsaKey}
    (hkey : RsaKey.ofBytes modulus exponent = .ok key) (policy later : NoncePolicy)
    {first second : ReleaseToken} (hsignature : first.signature = second.signature)
    (last latest : Nonce) (binding foreign : DeviceBinding) {granted : Nonce}
    (haccept : accept ⟨key.signatureCheck, policy⟩ last binding first.toBytes = .ok granted) :
    let message := Bytes.littleEndian 8 first.nonce.value.toNat ++ binding.bytes
    let transplanted := Bytes.littleEndian 8 second.nonce.value.toNat ++ foreign.bytes
    (∀ nonce, accept ⟨key.signatureCheck, later⟩ latest foreign second.toBytes = .ok nonce ↔
      Sha256.hash message = Sha256.hash transplanted ∧
        later.accepts latest second.nonce = true ∧ nonce = second.nonce) ∧
    (Sha256.hash message ≠ Sha256.hash transplanted →
      accept ⟨key.signatureCheck, later⟩ latest foreign second.toBytes = .error .notAuthorised) ∧
    (message = transplanted ↔ first.nonce = second.nonce ∧ binding = foreign) := by
  intro message transplanted
  obtain ⟨hlength, hcheck, -, -⟩ := accept_toBytes_eq_ok_iff.mp haccept
  rw [hsignature] at hlength hcheck
  have hdigest : key.check transplanted second.signature = .ok () ↔
      Sha256.hash message = Sha256.hash transplanted :=
    (RsaKey.ofBytes_eq_ok_iff.mp hkey).2.check_eq_ok_iff_of_check hcheck
  refine ⟨fun nonce => ?_, fun hne => ?_, ReleaseToken.signedMessage_inj⟩
  · rw [accept_toBytes_eq_ok_iff, and_iff_right hlength, ← hdigest]
    rfl
  · let authority : ReleaseAuthority := ⟨key.signatureCheck, later⟩
    have hparse : ReleaseToken.parse second.toBytes authority.signatures.length = .ok second := by
      rw [ReleaseToken.parse_toBytes]
      exact if_pos hlength
    have hforged : authority.signatures.check (ReleaseToken.signedMessage second.nonce foreign).bytes
        second.signature = .error .badSignature :=
      RsaKey.check_eq_error_of_ne hlength fun hok => hne (hdigest.mp hok)
    exact accept_of_bad_signature hparse hforged

/-- The modulus of a key of 512 bits. -/
def shortModulus : Bytes :=
  [
    0xbc, 0x60, 0xec, 0x2d, 0xca, 0x94, 0x72, 0xca, 0x92, 0x9a, 0xa0, 0xe7, 0xfb, 0x4a, 0xfb, 0xe3,
    0x59, 0x48, 0x5a, 0x74, 0x67, 0x04, 0xcc, 0x99, 0x61, 0xd4, 0x48, 0xe7, 0x02, 0xaf, 0x55, 0x17,
    0xd4, 0xa4, 0x77, 0x2d, 0xf8, 0x42, 0x8f, 0xc1, 0xe5, 0xf4, 0x1f, 0x8e, 0x18, 0xfe, 0x16, 0x74,
    0xec, 0x9c, 0x53, 0xe9, 0x9e, 0x61, 0x42, 0xd1, 0xc9, 0xec, 0x72, 0x91, 0x4e, 0x3f, 0x1e, 0xb3
  ]

/-- A token with the nonce 1 for the device that is bound by 32 sevens, signed with the exponent 3. -/
def shortToken : ReleaseToken :=
  ⟨⟨1⟩, [
    0x84, 0x05, 0x14, 0x52, 0xe8, 0xd7, 0x04, 0x5b, 0xc6, 0x61, 0x06, 0x4b, 0x96, 0x61, 0x6b, 0x3c,
    0xc3, 0xc3, 0xc7, 0x9c, 0xec, 0x06, 0x54, 0xf8, 0x00, 0x71, 0xd0, 0x50, 0xe3, 0xff, 0xbc, 0x18,
    0xa0, 0x93, 0x12, 0x0e, 0xb4, 0x3a, 0xc4, 0x11, 0x74, 0xfc, 0xaf, 0xe4, 0x47, 0x04, 0xc5, 0xaf,
    0x28, 0x34, 0xe3, 0xa9, 0x83, 0xe7, 0x70, 0x46, 0x75, 0x36, 0xe6, 0xd5, 0x36, 0xfe, 0x64, 0x88
  ]⟩

/-- The token is accepted, and again after its own nonce, but its signature is refused with the next
nonce and for another device. -/
theorem shortToken_accepted_as_signed :
    let key : RsaKey := ⟨Bytes.ofBigEndian shortModulus, 3⟩
    let authority : ReleaseAuthority := ⟨key.signatureCheck, {}⟩
    RsaKey.ofBytes shortModulus [3] = .ok key ∧
    authority.accept .zero (.fill 32 7) shortToken.toBytes = .ok ⟨1⟩ ∧
    authority.accept ⟨1⟩ (.fill 32 7) shortToken.toBytes = .ok ⟨1⟩ ∧
    authority.accept ⟨1⟩ (.fill 32 7) (ReleaseToken.mk ⟨2⟩ shortToken.signature).toBytes =
      .error .notAuthorised ∧
    authority.accept .zero (.fill 32 8) shortToken.toBytes = .error .notAuthorised := by
  intro key authority
  have husable : key.Usable := by
    decide +kernel
  have hkey : RsaKey.ofBytes shortModulus [3] = .ok key :=
    RsaKey.ofBytes_eq_ok_iff.mpr ⟨by decide +kernel, husable⟩
  have hpadded : RsaKey.padded? key.size
      (Sha256.hash (ReleaseToken.signedMessage ⟨1⟩ (.fill 32 7)).bytes) =
      some (key.raised (Bytes.ofBigEndian shortToken.signature)) := by
    decide +kernel
  have hcheck : key.check (ReleaseToken.signedMessage ⟨1⟩ (.fill 32 7)).bytes
      shortToken.signature = .ok () :=
    husable.check_eq_ok_iff.mpr
      ⟨by decide +kernel, by decide +kernel, _, hpadded, (husable.ofBigEndian_raised _).symm⟩
  have haccept : authority.accept .zero (.fill 32 7) shortToken.toBytes = .ok ⟨1⟩ :=
    accept_toBytes_eq_ok_iff.mpr ⟨by decide +kernel, hcheck, by decide, rfl⟩
  have hsame : shortToken.signature = (ReleaseToken.mk ⟨2⟩ shortToken.signature).signature := rfl
  refine ⟨hkey, haccept, ?_, ?_, ?_⟩
  · exact ((signature_accepted_iff_digest_eq hkey {} {} rfl .zero ⟨1⟩ (.fill 32 7) (.fill 32 7)
      haccept).1 ⟨1⟩).mpr ⟨rfl, by decide, rfl⟩
  · refine (signature_accepted_iff_digest_eq hkey {} {} hsame .zero ⟨1⟩ (.fill 32 7) (.fill 32 7)
      haccept).2.1 ?_
    decide +kernel
  · refine (signature_accepted_iff_digest_eq hkey {} {} rfl .zero .zero (.fill 32 7) (.fill 32 8)
      haccept).2.1 ?_
    decide +kernel

end ReleaseAuthority

end SecureElement
