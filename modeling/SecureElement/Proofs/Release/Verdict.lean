/-
  SecureElement.Proofs.Release.Verdict

  What becomes of a payload that is presented as a release token.  A token has one written form: the
  version, eight bytes of nonce and a signature of the length that the check asks for.  Every payload
  is written so or malformed.  `Verdict` lists the five answers with the reasons for them, in the order
  in which they are looked for, and `ReleaseAuthority.accept` gives exactly these answers.
-/
import SecureElement.Proofs.Release.Authority

namespace SecureElement

/-! ## The written form -/

namespace ReleaseToken

/-- A payload is written as a token: the version, the nonce with its least significant byte first,
and a signature of this length. -/
structure IsWritten (payload : Bytes) (length : Nat) (nonce : Nonce) (signature : Bytes) :
    Prop where
  layout : payload = 1 :: (Bytes.littleEndian 8 nonce.value.toNat ++ signature)
  length_signature : signature.length = length

/-- A payload has another length than a token, or it begins with another version. -/
def IsMalformed (payload : Bytes) (length : Nat) : Prop :=
  payload.length ≠ 9 + length ∨ payload.head? ≠ some 1

/-- What is written as a token is read as that token. -/
theorem IsWritten.parse_eq {payload : Bytes} {length : Nat} {nonce : Nonce} {signature : Bytes}
    (h : IsWritten payload length nonce signature) :
    parse payload length = .ok ⟨nonce, signature⟩ := by
  obtain ⟨rfl, rfl⟩ := h
  have hnonce : (Bytes.littleEndian 8 nonce.value.toNat).length = 8 :=
    Bytes.length_littleEndian 8 _
  have hlength : (1 :: (Bytes.littleEndian 8 nonce.value.toNat ++ signature)).length =
      headerSize + signature.length := by
    rw [List.length_cons, List.length_append, hnonce, headerSize]
    omega
  have hversion : (1 :: (Bytes.littleEndian 8 nonce.value.toNat ++ signature)).head? =
      some version := rfl
  have htake : (Bytes.littleEndian 8 nonce.value.toNat ++ signature).take 8 =
      nonce.toBlock.bytes := List.take_left' hnonce
  have hdrop : (Bytes.littleEndian 8 nonce.value.toNat ++ signature).drop 8 = signature :=
    List.drop_left' hnonce
  rw [parse, if_neg (not_not_intro hlength), if_neg (not_not_intro hversion), List.tail_cons, htake,
    Block.ofBytes?_bytes]
  show Except.ok (⟨.ofBlock nonce.toBlock, List.drop 8 _⟩ : ReleaseToken) = _
  rw [Nonce.ofBlock_toBlock, hdrop]

/-- Malformed payloads are not read. -/
theorem IsMalformed.parse_eq {payload : Bytes} {length : Nat} (h : IsMalformed payload length) :
    parse payload length = .error .malformed := by
  unfold parse
  by_cases hlength : payload.length = headerSize + length
  · have hversion : payload.head? ≠ some version := h.resolve_left (not_not_intro hlength)
    rw [if_neg (not_not_intro hlength), if_pos hversion]
  · exact if_pos hlength

/-- Every payload that is not malformed is written as a token. -/
theorem isWritten_or_isMalformed (payload : Bytes) (length : Nat) :
    (∃ nonce signature, IsWritten payload length nonce signature) ∨ IsMalformed payload length := by
  by_cases hlength : payload.length = 9 + length
  · by_cases hversion : payload.head? = some 1
    · obtain ⟨rest, rfl⟩ : ∃ rest, payload = 1 :: rest := List.head?_eq_some_iff.mp hversion
      rw [List.length_cons] at hlength
      -- the eight bytes after the version are the bytes of some nonce
      have hnonce : (rest.take 8).length = 8 := by
        rw [List.length_take]
        omega
      let block : Block 8 := ⟨rest.take 8, hnonce⟩
      have hbytes : Bytes.littleEndian 8 (Nonce.ofBlock block).value.toNat = rest.take 8 :=
        congrArg Block.bytes (Nonce.toBlock_ofBlock block)
      refine Or.inl ⟨.ofBlock block, rest.drop 8, ?_, ?_⟩
      · rw [hbytes, List.take_append_drop]
      · rw [List.length_drop]
        omega
    · exact Or.inr (Or.inr hversion)
  · exact Or.inr (Or.inl hlength)

end ReleaseToken

/-! ## Verdicts -/

/-- The policy accepts newer nonces, and the same nonce again if it allows that. -/
theorem NoncePolicy.accepts_iff {policy : NoncePolicy} {last presented : Nonce} :
    policy.accepts last presented = true ↔
      last.value.toNat < presented.value.toNat ∨
        policy.allowEqual = true ∧ presented.value.toNat = last.value.toNat := by
  unfold accepts
  cases policy.allowEqual with
  | true =>
    show decide (last.value.toNat ≤ presented.value.toNat) = true ↔ _
    rw [decide_eq_true_iff]
    simp only [true_and]
    omega
  | false =>
    show decide (last.value.toNat < presented.value.toNat) = true ↔ _
    rw [decide_eq_true_iff]
    simp

namespace ReleaseAuthority

open ReleaseToken (IsWritten IsMalformed)

variable (authority : ReleaseAuthority) (last : Nonce) (binding : DeviceBinding)

/-- How the check answers to a signature of a nonce and the binding. -/
def checked (nonce : Nonce) (signature : Bytes) : Except CryptoFault Unit :=
  authority.signatures.check (Bytes.littleEndian 8 nonce.value.toNat ++ binding.bytes) signature

/-- The nonce may follow the last one. -/
def IsFresh (nonce : Nonce) : Prop :=
  last.value.toNat < nonce.value.toNat ∨
    authority.policy.allowEqual = true ∧ nonce.value.toNat = last.value.toNat

/-- The answers to a payload, and the reasons for them.  The signature is checked whatever the nonce
is, and the nonce is looked at only if the signature is good. -/
inductive Verdict (payload : Bytes) : Except Refusal Nonce → Prop where
  | malformed (hform : IsMalformed payload authority.signatures.length) :
      Verdict payload (.error .malformed)
  | forged (nonce : Nonce) (signature : Bytes)
      (hwritten : IsWritten payload authority.signatures.length nonce signature)
      (hcheck : authority.checked binding nonce signature = .error .badSignature ∨
        authority.checked binding nonce signature = .error .badSignatureLength) :
      Verdict payload (.error .notAuthorised)
  /-- There is no telling whether the signature is good. -/
  | unchecked (nonce : Nonce) (signature : Bytes)
      (hwritten : IsWritten payload authority.signatures.length nonce signature)
      (hcheck : authority.checked binding nonce signature = .error .unusableKey ∨
        authority.checked binding nonce signature = .error .internalFault) :
      Verdict payload (.error .cryptoFailed)
  | replayed (nonce : Nonce) (signature : Bytes)
      (hwritten : IsWritten payload authority.signatures.length nonce signature)
      (hcheck : authority.checked binding nonce signature = .ok ())
      (hstale : ¬ authority.IsFresh last nonce) :
      Verdict payload (.error .notAllowed)
  | accepted (nonce : Nonce) (signature : Bytes)
      (hwritten : IsWritten payload authority.signatures.length nonce signature)
      (hcheck : authority.checked binding nonce signature = .ok ())
      (hfresh : authority.IsFresh last nonce) :
      Verdict payload (.ok nonce)

variable {authority last binding} {payload : Bytes}

/-- The answer to a payload that is written as a token depends on the check first, on the nonce
second. -/
theorem accept_of_isWritten {nonce : Nonce} {signature : Bytes}
    (hwritten : IsWritten payload authority.signatures.length nonce signature) :
    authority.accept last binding payload =
      match authority.checked binding nonce signature with
      | .error fault => .error fault.toRefusal
      | .ok () =>
        if authority.policy.accepts last nonce then .ok nonce else .error .notAllowed := by
  cases hcheck : authority.checked binding nonce signature with
  | error fault => exact accept_of_bad_signature hwritten.parse_eq hcheck
  | ok => exact accept_of_signed hwritten.parse_eq hcheck

/-- The answer to a payload is one of the verdicts on it. -/
theorem verdict_accept (payload : Bytes) :
    authority.Verdict last binding payload (authority.accept last binding payload) := by
  rcases ReleaseToken.isWritten_or_isMalformed payload authority.signatures.length with
    ⟨nonce, signature, hwritten⟩ | hform
  · rw [accept_of_isWritten hwritten]
    cases hcheck : authority.checked binding nonce signature with
    | error fault =>
      cases fault with
      | badSignature => exact .forged nonce signature hwritten (Or.inl hcheck)
      | badSignatureLength => exact .forged nonce signature hwritten (Or.inr hcheck)
      | unusableKey => exact .unchecked nonce signature hwritten (Or.inl hcheck)
      | internalFault => exact .unchecked nonce signature hwritten (Or.inr hcheck)
    | ok =>
      show authority.Verdict last binding payload
        (if authority.policy.accepts last nonce = true then .ok nonce else .error .notAllowed)
      by_cases haccepts : authority.policy.accepts last nonce = true
      · rw [if_pos haccepts]
        exact .accepted nonce signature hwritten hcheck (NoncePolicy.accepts_iff.mp haccepts)
      · rw [if_neg haccepts]
        exact .replayed nonce signature hwritten hcheck
          fun hfresh => haccepts (NoncePolicy.accepts_iff.mpr hfresh)
  · rw [accept_of_bad_form hform.parse_eq]
    exact .malformed hform

/-- A verdict on a payload is the answer to it. -/
theorem Verdict.accept_eq {result : Except Refusal Nonce}
    (h : authority.Verdict last binding payload result) :
    authority.accept last binding payload = result := by
  cases h with
  | malformed hform => exact accept_of_bad_form hform.parse_eq
  | forged nonce signature hwritten hcheck =>
    rcases hcheck with hcheck | hcheck <;> rw [accept_of_isWritten hwritten, hcheck] <;> rfl
  | unchecked nonce signature hwritten hcheck =>
    rcases hcheck with hcheck | hcheck <;> rw [accept_of_isWritten hwritten, hcheck] <;> rfl
  | replayed nonce signature hwritten hcheck hstale =>
    rw [accept_of_isWritten hwritten, hcheck]
    exact if_neg fun haccepts => hstale (NoncePolicy.accepts_iff.mp haccepts)
  | accepted nonce signature hwritten hcheck hfresh =>
    rw [accept_of_isWritten hwritten, hcheck]
    exact if_pos (NoncePolicy.accepts_iff.mpr hfresh)

/-- The answer to a payload.  For every check of signatures, with signatures of any length, every
policy, nonce, binding and payload: the payload is accepted with a nonce if and only if it is the
version, that nonce in eight bytes and a signature of the right length, the check accepts the signature
for the nonce followed by the binding, and the nonce may follow the last one.  It is malformed if and
only if its length or its version is wrong.  All in all its answers are the verdicts on it: after its
form its signature is looked at, whatever the nonce is, and its nonce comes last. -/
theorem accept_iff_verdict (authority : ReleaseAuthority) (last : Nonce) (binding : DeviceBinding)
    (payload : Bytes) :
    (∀ nonce : Nonce, authority.accept last binding payload = .ok nonce ↔
      ∃ signature : Bytes,
        payload = 1 :: (Bytes.littleEndian 8 nonce.value.toNat ++ signature) ∧
        signature.length = authority.signatures.length ∧
        authority.signatures.check (Bytes.littleEndian 8 nonce.value.toNat ++ binding.bytes)
          signature = .ok () ∧
        (last.value.toNat < nonce.value.toNat ∨
          authority.policy.allowEqual = true ∧ nonce.value.toNat = last.value.toNat)) ∧
    (authority.accept last binding payload = .error .malformed ↔
      payload.length ≠ 9 + authority.signatures.length ∨ payload.head? ≠ some 1) ∧
    ∀ result, authority.accept last binding payload = result ↔
      authority.Verdict last binding payload result := by
  have hverdict : authority.Verdict last binding payload
      (authority.accept last binding payload) := verdict_accept payload
  refine ⟨fun nonce => ⟨fun h => ?_, ?_⟩, ⟨fun h => ?_, ?_⟩, fun result => ⟨?_, Verdict.accept_eq⟩⟩
  · rw [h] at hverdict
    cases hverdict with
    | accepted _ signature hwritten hcheck hfresh =>
      exact ⟨signature, hwritten.layout, hwritten.length_signature, hcheck, hfresh⟩
  · rintro ⟨signature, hlayout, hlength, hcheck, hfresh⟩
    exact (Verdict.accepted nonce signature ⟨hlayout, hlength⟩ hcheck hfresh).accept_eq
  · rw [h] at hverdict
    cases hverdict with
    | malformed hform => exact hform
  · intro hform
    exact (Verdict.malformed hform).accept_eq
  · rintro rfl
    exact hverdict

end ReleaseAuthority

end SecureElement
