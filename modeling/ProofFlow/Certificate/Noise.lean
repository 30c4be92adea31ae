import ProofFlow.Certificate.Accept

/-!
# What an envelope says to the verifier

Beside its payload, an envelope counts for the signature bytes that verify under some configured
root.  The `keyid` values, the order and the repetition of the signatures, the way they are written,
and the signatures that verify under no root change neither the result nor the ledger.
-/

namespace ProofFlow

open Kit

/-- The signature bytes of an envelope that verify under a configured root. -/
def verifyingSignatures (P : Platform) (policy : TrustPolicy) (envelope : DsseEnvelope)
    (payload : Bytes) : Set Bytes :=
  { bytes | ∃ s ∈ envelope.signatures.val, s.sig.bytes = bytes ∧ ∃ r ∈ policy.roots.val,
    signatureVerifies P (dssePae dssePayloadType payload) s r = true }

section Roots

variable {P : Platform} {policy : TrustPolicy} {envelope envelope' : DsseEnvelope} {payload : Bytes}

/-- A configured root is verified by one of the verifying signatures, whoever else they verify. -/
theorem mem_verifiedRoots_iff {r : TrustRoot} :
    r ∈ cryptographicallyVerifiedRoots P envelope payload policy.roots.val ↔
      r ∈ policy.roots.val ∧ ∃ bytes ∈ verifyingSignatures P policy envelope payload,
        P.ed25519Verify r.publicKey.bytes bytes (dssePae dssePayloadType payload) = true := by
  rw [mem_cryptographicallyVerifiedRoots]
  refine and_congr_right fun hr => ?_
  constructor
  · rintro ⟨s, hs, hverifies⟩
    exact ⟨s.sig.bytes, ⟨s, hs, rfl, r, hr, hverifies⟩, hverifies⟩
  · rintro ⟨_, ⟨s, hs, rfl, -⟩, hverifies⟩
    exact ⟨s, hs, hverifies⟩

/-- A signature adds nothing when its bytes are in the other envelope or verify under no root. -/
theorem verifyingSignatures_subset (h : ∀ s ∈ envelope.signatures.val,
    (∃ s' ∈ envelope'.signatures.val, s'.sig.bytes = s.sig.bytes) ∨
      ∀ r ∈ policy.roots.val, signatureVerifies P (dssePae dssePayloadType payload) s r = false) :
    verifyingSignatures P policy envelope payload ⊆
      verifyingSignatures P policy envelope' payload := by
  rintro _ ⟨s, hs, rfl, r, hr, hverifies⟩
  rcases h s hs with ⟨s', hs', heq⟩ | hnone
  · refine ⟨s', hs', heq, r, hr, ?_⟩
    unfold signatureVerifies at hverifies ⊢
    rw [heq]
    exact hverifies
  · rw [hnone r hr] at hverifies
    cases hverifies

/-- The list of verified roots is a function of the set of verifying signatures. -/
theorem cryptographicallyVerifiedRoots_congr
    (h : verifyingSignatures P policy envelope payload =
      verifyingSignatures P policy envelope' payload) :
    cryptographicallyVerifiedRoots P envelope payload policy.roots.val =
      cryptographicallyVerifiedRoots P envelope' payload policy.roots.val := by
  have hmem : ∀ r, r ∈ cryptographicallyVerifiedRoots P envelope payload policy.roots.val ↔
      r ∈ cryptographicallyVerifiedRoots P envelope' payload policy.roots.val := by
    intro r
    rw [mem_verifiedRoots_iff, mem_verifiedRoots_iff, h]
  have hperm : (cryptographicallyVerifiedRoots P envelope payload policy.roots.val).Perm
      (cryptographicallyVerifiedRoots P envelope' payload policy.roots.val) :=
    (List.perm_ext_iff_of_nodup nodup_cryptographicallyVerifiedRoots.of_map
      nodup_cryptographicallyVerifiedRoots.of_map).2 hmem
  -- both lists are in the order of the ids, which tell configured roots apart
  refine hperm.eq_of_pairwise ?_ pairwise_cryptographicallyVerifiedRoots
    pairwise_cryptographicallyVerifiedRoots
  intro a b ha hb hab hba
  exact policy.root_eq_of_id (mem_verifiedRoots_iff.1 ha).1 (mem_verifiedRoots_iff.1 hb).1
    (Subtype.ext (le_antisymm hab hba))

end Roots

/-! ## The verifier -/

section Verifier

variable {P : Platform} {call : CertificateCall} {envelope : DsseEnvelope} {payload : Bytes}

/-- `authorize` from the size of the payload on: it looks at the envelope's signatures only through
the verified roots. -/
def authorizePayload (P : Platform) (call : CertificateCall) (now : UtcTime) (payload : Bytes)
    (verifiedRoots : List TrustRoot) : Flow PyErr ActionCertificateVerificationResult
      (ActionCertificateStatement × List TrustRoot × List TrustRoot) := do
  let policy := call.trustPolicy
  Flow.returnIf (maxPayloadBytes < payload.length)
    (verificationResult .reject [.payloadTooLarge] none none [] [] false)
  let payloadSha256 := sha256Bytes P payload
  Flow.returnIf (verifiedRoots = [])
    (verificationResult .reject [.signatureInvalid] none (some payloadSha256) [] [] false)
  let statement ← Flow.tryElse PyErr.isValueError
    (parseJsonModel P (Decode.actionCertificateStatement P) payload "signed payload")
    (verificationResult .reject [.payloadInvalid] none (some payloadSha256) [] [] false)
  let predicate := statement.predicate
  let leave (reasons : List VerificationReason) : CertificateOutcome :=
    verificationResult .reject reasons (some predicate.certificateId) (some payloadSha256) [] []
      false
  Flow.returnIf (¬ policyAllowsExpected policy call.expectedBinding) (leave [.trustPolicyMismatch])
  Flow.returnIf (¬ (expectedBindingFor statement).pyEq call.expectedBinding)
    (leave [.expectedBindingMismatch])
  let timely ← Flow.raising (certificateTimeIsValid predicate policy now)
  Flow.returnIf (timely = false) (leave [.certificateTimeInvalid])
  let issuerRoots ← Flow.raising
    (qualifyingRoots P verifiedRoots .actionIssuer predicate policy now none)
  Flow.returnIf (issuerRoots.length < policy.actionIssuerThreshold.val)
    (leave [.rootTimeOrRevocationInvalid, .actionIssuerThresholdNotMet])
  let approvalRoots ← approve P call now payloadSha256 verifiedRoots statement issuerRoots
  return (statement, issuerRoots, approvalRoots)

/-- An envelope that opens leaves the rest to its payload and its verified roots. -/
theorem authorize_of_opened (hsize : call.envelopeBytes.length ≤ maxEnvelopeBytes)
    (hopen : openEnvelope P call.envelopeBytes "DSSE envelope" "payload" =
      .ok (envelope, payload)) :
    authorize P call = (do
      let now ← Flow.raising (requireAware call.now "verification time")
      let (statement, issuerRoots, approvalRoots) ← authorizePayload P call now payload
        (cryptographicallyVerifiedRoots P envelope payload call.trustPolicy.roots.val)
      return { now, envelope, payload, statement, issuerRoots, approvalRoots }) := by
  have hbounded : ¬ maxEnvelopeBytes < call.envelopeBytes.length := not_lt.2 hsize
  have hstart : (Flow.returnIf (maxEnvelopeBytes < call.envelopeBytes.length)
      (verificationResult .reject [.envelopeTooLarge] none none [] [] false) :
      Flow PyErr ActionCertificateVerificationResult Unit) = .ok () :=
    Flow.returnIf_eq_ok.2 hbounded
  unfold authorize authorizePayload
  simp only [hstart, hopen, Flow.tryElse, ok_bind, bind_assoc, pure_bind]

end Verifier

/-- Two envelopes over one payload with the same verifying signatures are verified alike, from the
same ledger to the same ledger. -/
theorem verifyActionCertificate_congr {P : Platform} {call : CertificateCall}
    {envelopeBytes : Bytes} {ledger : InMemoryReplayLedger} {envelope envelope' : DsseEnvelope}
    {payload : Bytes}
    (hsize : call.envelopeBytes.length ≤ maxEnvelopeBytes)
    (hsize' : envelopeBytes.length ≤ maxEnvelopeBytes)
    (hopen : openEnvelope P call.envelopeBytes "DSSE envelope" "payload" = .ok (envelope, payload))
    (hopen' : openEnvelope P envelopeBytes "DSSE envelope" "payload" = .ok (envelope', payload))
    (hsame : verifyingSignatures P call.trustPolicy envelope payload =
      verifyingSignatures P call.trustPolicy envelope' payload) :
    verifyActionCertificate P { call with envelopeBytes := envelopeBytes } ledger =
      verifyActionCertificate P call ledger := by
  have hverified := cryptographicallyVerifiedRoots_congr hsame
  unfold verifyActionCertificate
  rw [authorize_of_opened hsize hopen, authorize_of_opened hsize' hopen', hverified]
  cases hnow : (Flow.raising (requireAware call.now "verification time") :
      Flow PyErr ActionCertificateVerificationResult UtcTime) with
  | error out => rfl
  | ok now =>
    have hrest : authorizePayload P { call with envelopeBytes := envelopeBytes } now payload =
        authorizePayload P call now payload := rfl
    simp only [ok_bind, hrest]
    cases authorizePayload P call now payload
      (cryptographicallyVerifiedRoots P envelope' payload call.trustPolicy.roots.val) with
    | error out => rfl
    | ok found => rfl

namespace Sample

/-- The sample certificate with its signatures in the other order, one of them repeated, and one
that verifies under no configured root. -/
def noisyParts : EnvelopeParts where
  payload := payload
  signatures := [closureSignature, approverSignature, issuerSignature, approverSignature]
  payload_length := parts.payload_length
  signatures_length := by decide

theorem length_noisyParts : noisyParts.bytes.length = 3170 := by
  have hparts := noisyParts.length_bytes
  have hpayload : noisyParts.payload.length = 2025 := length_payload
  have hcount : noisyParts.signatures.length = 4 := rfl
  omega

theorem openEnvelope_noisyParts (label payloadLabel : String) :
    openEnvelope platform noisyParts.bytes label payloadLabel = .ok
      (noisyParts.envelope, payload) :=
  noisyParts.openEnvelope_bytes readsText_platform (by decide) label payloadLabel

set_option maxRecDepth 100000 in
theorem verifyingSignatures_noisyParts :
    verifyingSignatures platform policy parts.envelope payload =
      verifyingSignatures platform policy noisyParts.envelope payload := by
  have hrepeated : ∀ s ∈ parts.envelope.signatures.val,
      ∃ s' ∈ noisyParts.envelope.signatures.val, s'.sig.bytes = s.sig.bytes := by
    decide +kernel
  have hnoise : ∀ s ∈ noisyParts.envelope.signatures.val,
      (∃ s' ∈ parts.envelope.signatures.val, s'.sig.bytes = s.sig.bytes) ∨
        ∀ r ∈ policy.roots.val,
          signatureVerifies platform (dssePae dssePayloadType payload) s r = false := by
    decide +kernel
  exact (verifyingSignatures_subset fun s hs => .inl (hrepeated s hs)).antisymm
    (verifyingSignatures_subset hnoise)

end Sample

/-- The noisy envelope is verified like the sample certificate. -/
theorem sample_noise_ignored :
    verifyActionCertificate Sample.platform
        { Sample.call Sample.policy with envelopeBytes := Sample.noisyParts.bytes } Sample.ledger =
      verifyActionCertificate Sample.platform (Sample.call Sample.policy) Sample.ledger :=
  verifyActionCertificate_congr (not_lt.1 Sample.not_oversized.1)
    (Sample.length_noisyParts.le.trans (by decide)) (Sample.openEnvelope_parts _ _)
    (Sample.openEnvelope_noisyParts _ _) Sample.verifyingSignatures_noisyParts

end ProofFlow
