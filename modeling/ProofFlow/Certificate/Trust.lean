import ProofFlow.Certificate.Contract
import ProofFlow.Kit.Selection

/-!
# Trust policy and trust roots

The operator's configuration: Ed25519 roots with a purpose, a scope and a validity window, and the
allowlists and thresholds of the policy.  The second half has the root selection shared by the
verifiers: which configured roots verify a payload's signatures, and which of them are current.
-/

namespace ProofFlow

open Kit

inductive TrustPurpose where
  | actionIssuer
  | humanApproval
  | executionObserver
  | outcomeObserver
  deriving DecidableEq

inductive ExecutionObserverScope where
  | runtimeExecution
  | artifactIo
  | protocolExchange
  | traceExport
  | inferenceResponse
  | effectAttempt
  | metrics
  deriving DecidableEq

inductive OutcomeObserverScope where
  | authorizationBinding
  | executionReceiptBinding
  | effectReconciliation
  | businessState
  deriving DecidableEq

inductive OutcomeEvidenceSourceKind where
  | localBytes
  deriving DecidableEq

/-- The predicate types a root or a policy may name. -/
inductive PredicateType where
  | actionCertificate
  | executionReceipt
  | outcomeClosure
  deriving DecidableEq

/-- `REQUIRED_EXECUTION_OBSERVER_SCOPES`, all of `ExecutionObserverScope`. -/
def requiredExecutionObserverScopes : List ExecutionObserverScope :=
  [.runtimeExecution, .artifactIo, .protocolExchange, .traceExport, .inferenceResponse,
    .effectAttempt, .metrics]

/-- `frozenset(OutcomeObserverScope)`. -/
def requiredOutcomeObserverScopes : List OutcomeObserverScope :=
  [.authorizationBinding, .executionReceiptBinding, .effectReconciliation, .businessState]

/-- `frozenset(a) == frozenset(b)`. -/
def sameSet {α : Type} (a b : List α) : Prop := a ⊆ b ∧ b ⊆ a

instance {α : Type} [DecidableEq α] (a b : List α) : Decidable (sameSet a b) :=
  inferInstanceAs (Decidable (_ ∧ _))

/-! ## Trust roots -/

structure TrustRootFields where
  rootId : Identifier
  keyidHints : Items Str 0 8
  purpose : TrustPurpose
  publicKey : Base64Text (some 32) false
  tenantId : Identifier
  principalId : Identifier
  audiences : Items Str 1 16
  predicateTypes : Items PredicateType 1 4
  executionObserverScopes : Items ExecutionObserverScope 0 7
  outcomeObserverScopes : Items OutcomeObserverScope 0 4
  outcomeEvidenceSourceKinds : Items OutcomeEvidenceSourceKind 0 1
  outcomeEvidenceSourcePrincipals : Items Str 0 16
  notBefore : DateTime
  notAfter : DateTime
  revokedAt : Option DateTime
  deriving DecidableEq

/-- `keyid_hints_are_unique_and_local`. -/
def TrustRootFields.validateHints (r : TrustRootFields) : Except PyErr Unit := do
  raiseIf (¬ r.keyidHints.val.Nodup) "keyid hints must be unique"
  r.keyidHints.val.forM fun hint => do
    rejectRemoteReference hint "keyid hint"
    raiseIf (128 < hint.length) "keyid hint exceeds the size limit"

/-- `validate_root_window`. -/
def TrustRootFields.validateWindow (r : TrustRootFields) : Except PyErr Unit := do
  let notBefore ← requireAware r.notBefore "root not_before"
  let notAfter ← requireAware r.notAfter "root not_after"
  raiseIf (notAfter ≤ notBefore) "root not_after must follow not_before"
  match r.revokedAt with
  | some t => (fun _ => ()) <$> requireAware t "root revoked_at"
  | none => .ok ()
  raiseIf (¬ r.audiences.val.Nodup) "root audiences must be unique"
  raiseIf (¬ r.predicateTypes.val.Nodup) "root predicate types must be unique"
  raiseIf (¬ r.executionObserverScopes.val.Nodup) "execution observer scopes must be unique"
  raiseIf (r.purpose = .executionObserver ∧
      ¬ sameSet r.executionObserverScopes.val requiredExecutionObserverScopes)
    "EXECUTION_OBSERVER roots require every v0.1 observer scope"
  raiseIf (r.purpose ≠ .executionObserver ∧ r.executionObserverScopes.val ≠ [])
    "only EXECUTION_OBSERVER roots may declare observer scopes"
  raiseIf (r.purpose = .outcomeObserver ∧
      ¬ sameSet r.outcomeObserverScopes.val requiredOutcomeObserverScopes)
    "OUTCOME_OBSERVER roots require every v0.1 observer scope"
  raiseIf (r.purpose ≠ .outcomeObserver ∧ r.outcomeObserverScopes.val ≠ [])
    "only OUTCOME_OBSERVER roots may declare outcome observer scopes"
  if r.purpose = .outcomeObserver then do
    raiseIf (r.outcomeEvidenceSourceKinds.val = [])
      "OUTCOME_OBSERVER roots must bind an evidence source kind"
    raiseIf (r.outcomeEvidenceSourcePrincipals.val = [])
      "OUTCOME_OBSERVER roots must bind evidence source principals"
  else
    raiseIf (r.outcomeEvidenceSourceKinds.val ≠ [] ∨ r.outcomeEvidenceSourcePrincipals.val ≠ [])
      "only OUTCOME_OBSERVER roots may declare outcome evidence source bindings"
  raiseIf (¬ r.outcomeEvidenceSourcePrincipals.val.Nodup)
    "outcome evidence source principals must be unique"
  raiseIf (∃ p ∈ r.outcomeEvidenceSourcePrincipals.val, isIdentifier p = false)
    "outcome evidence source principal is invalid"

def TrustRootFields.validate (r : TrustRootFields) : Except PyErr Unit := do
  r.validateHints
  r.validateWindow

structure TrustRoot extends TrustRootFields where
  valid : toTrustRootFields.validate = .ok ()
  deriving DecidableEq

/-! ## The policy -/

def maxTrustRoots : ℕ := 64

structure TrustPolicyFields where
  allowedTenants : Items Str 1 64
  allowedHumanPrincipals : Items Str 1 128
  allowedWorkloadPrincipals : Items Str 1 128
  allowedActionIssuerPrincipals : Items Str 1 64
  allowedApprovalPrincipals : Items Str 0 64
  allowedExecutionObserverPrincipals : Items Str 0 64
  allowedOutcomeObserverPrincipals : Items Str 0 64
  allowedOutcomeEvidenceSourceKinds : Items OutcomeEvidenceSourceKind 0 1
  allowedOutcomeEvidenceSourcePrincipals : Items Str 0 64
  allowedAudiences : Items Str 1 32
  allowedPredicateTypes : Items PredicateType 1 4
  approvalRequired : Bool
  actionIssuerThreshold : Ranged 1 16
  humanApprovalThreshold : Ranged 1 16
  executionObserverThreshold : Ranged 1 16
  outcomeObserverThreshold : Ranged 1 16
  maxCertificateLifetimeSeconds : Ranged 1 86400
  maxClockSkewSeconds : Ranged 0 300
  roots : Items TrustRoot 1 maxTrustRoots

/-- `validate_policy_sets`. -/
def TrustPolicyFields.validate (p : TrustPolicyFields) : Except PyErr Unit := do
  raiseIf (¬ (p.allowedTenants.val.Nodup ∧ p.allowedHumanPrincipals.val.Nodup ∧
      p.allowedWorkloadPrincipals.val.Nodup ∧ p.allowedActionIssuerPrincipals.val.Nodup ∧
      p.allowedApprovalPrincipals.val.Nodup ∧ p.allowedExecutionObserverPrincipals.val.Nodup ∧
      p.allowedOutcomeObserverPrincipals.val.Nodup ∧
      p.allowedOutcomeEvidenceSourceKinds.val.Nodup ∧
      p.allowedOutcomeEvidenceSourcePrincipals.val.Nodup ∧ p.allowedAudiences.val.Nodup ∧
      p.allowedPredicateTypes.val.Nodup))
    "trust policy allowlists must not contain duplicates"
  raiseIf (¬ (p.roots.val.map fun r => r.rootId).Nodup) "trust root IDs must be unique"
  raiseIf (p.approvalRequired = true ∧ p.allowedApprovalPrincipals.val = [])
    "approval-required policy needs allowed approval principals"

structure TrustPolicy extends TrustPolicyFields where
  valid : toTrustPolicyFields.validate = .ok ()

/-- `timedelta(seconds=policy.max_clock_skew_seconds)`. -/
def TrustPolicy.skew (p : TrustPolicy) : ℕ := p.maxClockSkewSeconds.val * 10 ^ 6

theorem TrustPolicy.nodup_rootIds (p : TrustPolicy) :
    (p.roots.val.map fun r => r.rootId).Nodup := by
  have h := p.valid
  simp only [TrustPolicyFields.validate, bind_eq_ok, raiseIf_eq_ok] at h
  obtain ⟨_, -, _, h, -⟩ := h
  exact not_not.1 h

/-- A configured root is determined by its id. -/
theorem TrustPolicy.root_eq_of_id (p : TrustPolicy) {r r' : TrustRoot} (hr : r ∈ p.roots.val)
    (hr' : r' ∈ p.roots.val) (h : r.rootId = r'.rootId) : r = r' :=
  List.inj_on_of_nodup_map p.nodup_rootIds hr hr' h

/-- Distinct configured roots have distinct ids. -/
theorem TrustPolicy.nodup_ids_of_distinct {κ ω : Type} {key : TrustRoot → κ} {owner : TrustRoot → ω}
    (p : TrustPolicy) {roots : List TrustRoot} (hconf : ∀ r ∈ roots, r ∈ p.roots.val)
    (h : Distinct key owner roots) : (roots.map fun r => r.rootId.val).Nodup := by
  refine List.pairwise_map.2 (h.imp_of_mem fun {r r'} hr hr' hne heq => ?_)
  exact hne.1 (congrArg key (p.root_eq_of_id (hconf r hr) (hconf r' hr') (Subtype.ext heq)))

/-- Distinct roots are no more than the names their principals are drawn from. -/
theorem length_le_principals {κ : Type} {key : TrustRoot → κ} {roots : List TrustRoot}
    {names : List Str} (h : Distinct key (fun r => r.principalId) roots)
    (hnames : ∀ r ∈ roots, r.principalId.val ∈ names) : roots.length ≤ names.length := by
  have hval : Distinct key (fun r => r.principalId.val) roots :=
    h.imp fun hab => ⟨hab.1, fun heq => hab.2 (Subtype.ext heq)⟩
  exact hval.length_le_owners hnames

/-! ## Root selection -/

/-- `trust_root_fingerprint`. -/
def trustRootFingerprint (P : Platform) (r : TrustRoot) : Sha256Text :=
  sha256Bytes P r.publicKey.bytes

/-- The signature's bytes verify under the root's key. -/
def signatureVerifies (P : Platform) (pae : Bytes) (signature : DsseSignature) (r : TrustRoot) :
    Bool :=
  P.ed25519Verify r.publicKey.bytes signature.sig.bytes pae

/-- The roots in the order in which they are tried for a signature: those that list its `keyid` as
a hint, then the others, each in the order of the policy. -/
def candidates (roots : List TrustRoot) (signature : DsseSignature) : List TrustRoot :=
  let hinted (r : TrustRoot) : Bool :=
    decide (signature.keyid.val ≠ [] ∧ signature.keyid.val ∈ r.keyidHints.val)
  roots.filter hinted ++ roots.filter fun r => !hinted r

/-- The body of the loop over the signatures. -/
def verifySignature (P : Platform) (pae : Bytes) (roots : List TrustRoot)
    (verified : List TrustRoot) (signature : DsseSignature) : List TrustRoot :=
  (candidates roots signature).foldl
    (fun d r => if signatureVerifies P pae signature r then assign (fun r => r.rootId) d r else d)
    verified

/-- `cryptographically_verified_roots`. -/
def cryptographicallyVerifiedRoots (P : Platform) (envelope : DsseEnvelope) (payload : Bytes)
    (roots : List TrustRoot) : List TrustRoot :=
  let pae := dssePae dssePayloadType payload
  (envelope.signatures.val.foldl (verifySignature P pae roots) []).insertionSort
    fun a b => a.rootId.val ≤ b.rootId.val

/-- `trust_root_is_current`. -/
def trustRootIsCurrent (r : TrustRoot) (now : UtcTime) (skew : ℕ) : Except PyErr Bool := do
  let later ← now.add skew
  if later.instant < r.notBefore.instant then
    return false
  let earlier ← now.sub skew
  if r.notAfter.instant ≤ earlier.instant then
    return false
  match r.revokedAt with
  | none => return true
  | some t => return decide (later.instant < t.instant)

/-- The root's window, widened by the skew, contains `now`, and the root was not revoked by then. -/
structure RootCurrent (r : TrustRoot) (now : UtcTime) (skew : ℕ) : Prop where
  started : r.notBefore.instant ≤ now.instant + skew
  not_ended : now.instant - skew < r.notAfter.instant
  not_revoked : ∀ t ∈ r.revokedAt, now.instant + skew < t.instant

theorem rootCurrent_of_trustRootIsCurrent {r : TrustRoot} {now : UtcTime} {skew : ℕ}
    (h : trustRootIsCurrent r now skew = .ok true) : RootCurrent r now skew := by
  obtain ⟨later, hl, h⟩ := bind_eq_ok.1 h
  have hl := UtcTime.add_eq_ok hl
  split_ifs at h with h₁
  · cases h
  obtain ⟨earlier, he, h⟩ := bind_eq_ok.1 h
  have he := UtcTime.sub_eq_ok he
  split_ifs at h with h₂
  · cases h
  refine ⟨by omega, by omega, ?_⟩
  intro t ht
  rw [Option.mem_def] at ht
  simp only [ht] at h
  have h₃ := of_decide_eq_true (Except.ok.inj h)
  omega

/-- Where the skew can be added and subtracted, the question is decided. -/
theorem trustRootIsCurrent_eq (r : TrustRoot) {now : UtcTime} {skew : ℕ}
    (h : now.Representable skew) [Decidable (RootCurrent r now skew)] :
    trustRootIsCurrent r now skew = .ok (decide (RootCurrent r now skew)) := by
  obtain ⟨later, hl⟩ := h.add
  obtain ⟨earlier, he⟩ := h.sub
  have hl' := UtcTime.add_eq_ok hl
  have he' := UtcTime.sub_eq_ok he
  unfold trustRootIsCurrent
  rw [hl, he]
  simp only [ok_bind]
  split_ifs with h₁ h₂
  · have hnot : ¬ RootCurrent r now skew := fun hc => by have := hc.started; omega
    simp [hnot, pure, Except.pure]
  · have hnot : ¬ RootCurrent r now skew := fun hc => by have := hc.not_ended; omega
    simp [hnot, pure, Except.pure]
  · have hiff : RootCurrent r now skew ↔ ∀ t ∈ r.revokedAt, now.instant + skew < t.instant :=
      ⟨fun hc => hc.not_revoked, fun hc => ⟨by omega, by omega, hc⟩⟩
    simp only [hiff, hl']
    cases r.revokedAt <;> simp [pure, Except.pure]

/-- Adding or subtracting the skew leaves the calendar before the question is decided. -/
def SkewOverflows (r : TrustRoot) (t : UtcTime) (skew : ℕ) : Prop :=
  maxMicros < t.val + skew ∨ (r.notBefore.instant ≤ t.instant + skew ∧ t.val < skew)

instance (r : TrustRoot) (t : UtcTime) (skew : ℕ) : Decidable (SkewOverflows r t skew) :=
  inferInstanceAs (Decidable (_ ∨ _))

theorem trustRootIsCurrent_eq_error {r : TrustRoot} {t : UtcTime} {skew : ℕ} {e : PyErr} :
    trustRootIsCurrent r t skew = .error e ↔ e = .overflowError ∧ SkewOverflows r t skew := by
  unfold trustRootIsCurrent SkewOverflows
  cases hl : t.add skew with
  | error e' =>
    obtain ⟨rfl, hover⟩ := UtcTime.add_eq_error.1 hl
    simp [bind, Except.bind, hover, eq_comm]
  | ok later =>
    have hlater := UtcTime.add_eq_ok hl
    have hfits : ¬ maxMicros < t.val + skew := fun hover => by
      rw [UtcTime.add_eq_error.2 ⟨rfl, hover⟩] at hl
      cases hl
    rw [ok_bind]
    split_ifs with h₁
    · refine iff_of_false (by simp [pure, Except.pure]) ?_
      rintro ⟨-, hover | ⟨hle, -⟩⟩
      · exact hfits hover
      · omega
    · cases hs : t.sub skew with
      | error e' =>
        obtain ⟨rfl, hover⟩ := UtcTime.sub_eq_error.1 hs
        have hle : r.notBefore.instant ≤ t.instant + skew := by omega
        simp [bind, Except.bind, hover, hle, eq_comm]
      | ok earlier =>
        have hle : ¬ t.val < skew := fun hover => by
          rw [UtcTime.sub_eq_error.2 ⟨rfl, hover⟩] at hs
          cases hs
        refine iff_of_false ?_ (by tauto)
        rw [ok_bind]
        split_ifs
        · simp [pure, Except.pure]
        · cases r.revokedAt <;> simp [pure, Except.pure]

/-! ## What the selection finds -/

section Verified

variable {P : Platform} {pae payload : Bytes} {roots : List TrustRoot}

@[simp] theorem mem_candidates {signature : DsseSignature} {r : TrustRoot} :
    r ∈ candidates roots signature ↔ r ∈ roots := by
  simp only [candidates, List.mem_append, List.mem_filter]
  cases decide (signature.keyid.val ≠ [] ∧ signature.keyid.val ∈ r.keyidHints.val) <;> simp

/-- One signature adds the configured roots it verifies under. -/
theorem mem_verifySignature (hid : ∀ a ∈ roots, ∀ b ∈ roots, a.rootId = b.rootId → a = b)
    {d : List TrustRoot} (hd : d ⊆ roots) {signature : DsseSignature} {r : TrustRoot} :
    r ∈ verifySignature P pae roots d signature ↔
      r ∈ d ∨ (r ∈ roots ∧ signatureVerifies P pae signature r = true) := by
  unfold verifySignature
  rw [mem_foldl_assign, mem_candidates]
  have hsub : ∀ b ∈ d ++ candidates roots signature, b ∈ roots := by
    intro b hb
    rcases List.mem_append.1 hb with hb | hb
    · exact hd hb
    · exact mem_candidates.1 hb
  exact fun b hb c hc => hid b (hsub b hb) c (hsub c hc)

theorem mem_foldl_verifySignature
    (hid : ∀ a ∈ roots, ∀ b ∈ roots, a.rootId = b.rootId → a = b) {signatures : List DsseSignature}
    {d : List TrustRoot} (hd : d ⊆ roots) {r : TrustRoot} :
    r ∈ signatures.foldl (verifySignature P pae roots) d ↔
      r ∈ d ∨ (r ∈ roots ∧ ∃ s ∈ signatures, signatureVerifies P pae s r = true) := by
  induction signatures generalizing d with
  | nil => simp
  | cons s l ih =>
    have hd' : verifySignature P pae roots d s ⊆ roots := by
      intro r hr
      rcases (mem_verifySignature hid hd).1 hr with hr | ⟨hr, -⟩
      · exact hd hr
      · exact hr
    rw [List.foldl_cons, ih hd', mem_verifySignature hid hd]
    simp only [List.mem_cons, exists_eq_or_imp]
    tauto

/-- The verified roots are the configured ones that verify a signature over exactly this
payload. -/
theorem mem_cryptographicallyVerifiedRoots {envelope : DsseEnvelope} {policy : TrustPolicy}
    {r : TrustRoot} :
    r ∈ cryptographicallyVerifiedRoots P envelope payload policy.roots.val ↔
      r ∈ policy.roots.val ∧ ∃ s ∈ envelope.signatures.val,
        signatureVerifies P (dssePae dssePayloadType payload) s r = true := by
  unfold cryptographicallyVerifiedRoots
  rw [List.mem_insertionSort, mem_foldl_verifySignature
    (fun _ ha _ hb => policy.root_eq_of_id ha hb) (List.nil_subset _)]
  simp

theorem nodup_cryptographicallyVerifiedRoots {envelope : DsseEnvelope} :
    ((cryptographicallyVerifiedRoots P envelope payload roots).map fun r => r.rootId).Nodup := by
  have hfold : ∀ (signatures : List DsseSignature) (d : List TrustRoot),
      (d.map fun r => r.rootId).Nodup → ((signatures.foldl (verifySignature P
        (dssePae dssePayloadType payload) roots) d).map fun r => r.rootId).Nodup := by
    intro signatures
    induction signatures with
    | nil => exact fun d h => h
    | cons s l ih => exact fun d h => ih _ (nodup_keys_foldl_assign h _)
  unfold cryptographicallyVerifiedRoots
  rw [((List.perm_insertionSort _ _).map _).nodup_iff]
  exact hfold _ [] List.nodup_nil

/-- The verified roots are listed by their ids. -/
theorem pairwise_cryptographicallyVerifiedRoots {envelope : DsseEnvelope} :
    (cryptographicallyVerifiedRoots P envelope payload roots).Pairwise
      fun a b => a.rootId.val ≤ b.rootId.val := by
  have : Std.Total fun a b : TrustRoot => a.rootId.val ≤ b.rootId.val :=
    ⟨fun a b => le_total a.rootId.val b.rootId.val⟩
  have : IsTrans TrustRoot fun a b => a.rootId.val ≤ b.rootId.val :=
    ⟨fun _ _ _ => le_trans⟩
  exact List.pairwise_insertionSort _ _

end Verified

end ProofFlow
