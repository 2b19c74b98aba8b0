/-
  SecureElement.Proofs.Release.Authority

  When a release token is accepted: it has the form of a token, its signature passes the check, and
  its nonce is new enough.  What is accepted is the nonce of the token.
-/
import SecureElement.Release.Authority

namespace SecureElement

namespace ReleaseAuthority

variable {authority : ReleaseAuthority} {last : Nonce} {binding : DeviceBinding} {payload : Bytes}

theorem accept_of_bad_form {refusal : Refusal}
    (hparse : ReleaseToken.parse payload authority.signatures.length = .error refusal) :
    authority.accept last binding payload = .error refusal := by
  unfold accept
  rw [hparse]
  rfl

theorem accept_of_bad_signature {token : ReleaseToken} {fault : CryptoFault}
    (hparse : ReleaseToken.parse payload authority.signatures.length = .ok token)
    (hcheck : authority.signatures.check (ReleaseToken.signedMessage token.nonce binding).bytes
      token.signature = .error fault) :
    authority.accept last binding payload = .error fault.toRefusal := by
  unfold accept
  rw [hparse]
  show ((authority.signatures.check _ token.signature).mapError _ >>= _) = _
  rw [hcheck]
  rfl

/-- A token that is signed is left to the policy. -/
theorem accept_of_signed {token : ReleaseToken}
    (hparse : ReleaseToken.parse payload authority.signatures.length = .ok token)
    (hcheck : authority.signatures.check (ReleaseToken.signedMessage token.nonce binding).bytes
      token.signature = .ok ()) :
    authority.accept last binding payload =
      if authority.policy.accepts last token.nonce then .ok token.nonce
      else .error .notAllowed := by
  unfold accept
  rw [hparse]
  show ((authority.signatures.check _ token.signature).mapError _ >>= _) = _
  rw [hcheck]
  rfl

/-- A payload is accepted exactly if it is a token that passes every check. -/
theorem accept_eq_ok_iff {nonce : Nonce} :
    authority.accept last binding payload = .ok nonce ↔
      ∃ token, ReleaseToken.parse payload authority.signatures.length = .ok token ∧
        authority.signatures.check (ReleaseToken.signedMessage token.nonce binding).bytes
          token.signature = .ok () ∧
        authority.policy.accepts last token.nonce = true ∧ nonce = token.nonce := by
  constructor
  · intro h
    cases hparse : ReleaseToken.parse payload authority.signatures.length with
    | error refusal =>
      rw [accept_of_bad_form hparse] at h
      cases h
    | ok token =>
      cases hcheck : authority.signatures.check
          (ReleaseToken.signedMessage token.nonce binding).bytes token.signature with
      | error fault =>
        rw [accept_of_bad_signature hparse hcheck] at h
        cases h
      | ok =>
        rw [accept_of_signed hparse hcheck] at h
        by_cases haccepts : authority.policy.accepts last token.nonce = true
        · rw [if_pos haccepts] at h
          cases h
          exact ⟨token, rfl, hcheck, haccepts, rfl⟩
        · rw [if_neg haccepts] at h
          cases h
  · rintro ⟨token, hparse, hcheck, haccepts, rfl⟩
    rw [accept_of_signed hparse hcheck, if_pos haccepts]

end ReleaseAuthority

/-! ## Policies -/

namespace NoncePolicy

theorem le_of_accepts {policy : NoncePolicy} {last presented : Nonce}
    (h : policy.accepts last presented = true) : last ≤ presented := by
  unfold accepts at h
  split at h
  · exact of_decide_eq_true h
  · exact UInt64.le_of_lt (of_decide_eq_true h)

/-- The strict policy accepts only newer nonces. -/
theorem lt_of_accepts {last presented : Nonce} (h : strict.accepts last presented = true) :
    last < presented :=
  of_decide_eq_true h

end NoncePolicy

end SecureElement
