import ProofFlow.Certificate.Accept

/-!
# The intent digest

`approval_scope_sha256` names the intent of a statement by a digest; the verifier compares intents
as models.  The two agree on everything but the two times of the policy binding: models compare them
as instants, while the dump that is hashed keeps their text, with the offset they were written with.
-/

namespace ProofFlow

/-- The statements agree on the intent, as the verifier compares bindings: on everything but the
certificate id, the approval and the nonce. -/
def SameIntent (s s' : ActionCertificateStatement) : Prop :=
  (expectedBindingFor s).pyEq { expectedBindingFor s' with
    certificateId := s.predicate.certificateId
    approval := s.predicate.approval
    nonce := s.predicate.nonce }

/-- The statements agree on the intent but for the times of the policy binding. -/
structure SameButPolicyTimes (s s' : ActionCertificateStatement) : Prop where
  tenantId : s.predicate.tenantId = s'.predicate.tenantId
  humanPrincipal : s.predicate.humanPrincipal = s'.predicate.humanPrincipal
  workloadPrincipal : s.predicate.workloadPrincipal = s'.predicate.workloadPrincipal
  audience : s.predicate.audience = s'.predicate.audience
  delegationChain : s.predicate.delegationChain = s'.predicate.delegationChain
  statementSubjects : s.subject = s'.subject
  subject : s.predicate.subject = s'.predicate.subject
  action : s.predicate.action = s'.predicate.action
  resource : s.predicate.resource = s'.predicate.resource
  context : s.predicate.context = s'.predicate.context
  dataClassification : s.predicate.dataClassification = s'.predicate.dataClassification
  policyId : s.predicate.policy.policyId = s'.predicate.policy.policyId
  policyRevision : s.predicate.policy.policyRevision = s'.predicate.policy.policyRevision
  policySha256 : s.predicate.policy.policySha256 = s'.predicate.policy.policySha256
  effect : s.predicate.effect = s'.predicate.effect

/-- The times of the policy bindings are the same instants. -/
def SamePolicyTimes (b b' : PolicyBinding) : Prop :=
  b.evaluatedAt.pyEq b'.evaluatedAt ∧ b.expiresAt.pyEq b'.expiresAt

/-- The times of the policy bindings are written alike. -/
def PolicyTimesWrittenAlike (P : Platform) (b b' : PolicyBinding) : Prop :=
  P.datetimeText b.evaluatedAt = P.datetimeText b'.evaluatedAt ∧
    P.datetimeText b.expiresAt = P.datetimeText b'.expiresAt

theorem DateTime.pyEq_refl (t : DateTime) : t.pyEq t := ⟨rfl, rfl⟩

theorem ApprovalBinding.pyEq_refl (b : ApprovalBinding) : b.pyEq b := by
  refine ⟨rfl, rfl, rfl, rfl, ?_⟩
  cases h : b.expiresAt with
  | none => trivial
  | some t => exact t.pyEq_refl

theorem sameIntent_iff {s s' : ActionCertificateStatement} :
    SameIntent s s' ↔
      SameButPolicyTimes s s' ∧ SamePolicyTimes s.predicate.policy s'.predicate.policy := by
  constructor
  · rintro ⟨-, htenant, hhuman, hworkload, haudience, hchain, hsubjects, hsubject, haction,
      hresource, hcontext, hclass, ⟨hid, hrevision, hsha, hevaluated, hexpires⟩, -, heffect, -⟩
    exact ⟨⟨htenant, hhuman, hworkload, haudience, hchain, hsubjects, hsubject, haction, hresource,
      hcontext, hclass, hid, hrevision, hsha, heffect⟩, hevaluated, hexpires⟩
  · rintro ⟨h, hevaluated, hexpires⟩
    exact ⟨rfl, h.tenantId, h.humanPrincipal, h.workloadPrincipal, h.audience, h.delegationChain,
      h.statementSubjects, h.subject, h.action, h.resource, h.context, h.dataClassification,
      ⟨h.policyId, h.policyRevision, h.policySha256, hevaluated, hexpires⟩,
      s.predicate.approval.pyEq_refl, h.effect, rfl⟩

/-! ## Dumps are told apart -/

section Dumps

variable {l l' : List (Str × Canon)}

theorem loaded_str {s s' : Str} : (Canon.str s).loaded = (Canon.str s').loaded ↔ s = s' := by
  simp [Canon.loaded, toPyStr_injective.eq_iff]

theorem loadedMembers_member {key : String} {v v' : Canon} :
    loadedMembers (member key v :: l) = loadedMembers (member key v' :: l') ↔
      v.loaded = v'.loaded ∧ loadedMembers l = loadedMembers l' := by
  simp [loadedMembers, member]

theorem loadedItems_map {α : Type} (f : α → Canon) (l : List α) :
    loadedItems (l.map f) = l.map fun a => (f a).loaded := by
  induction l with
  | nil => rfl
  | cons a l ih => simp [loadedItems, ih]

/-- Arrays of dumps are told apart when the dumps are. -/
theorem loaded_map_inj {α : Type} {f : α → Canon} (hf : ∀ a b, (f a).loaded = (f b).loaded → a = b)
    {l l' : List α} (h : (Canon.arr (l.map f)).loaded = (Canon.arr (l'.map f)).loaded) :
    l = l' := by
  simp only [Canon.loaded, Json.arr.injEq, loadedItems_map] at h
  exact List.map_injective_iff.2 (fun a b hab => hf a b hab) h

/-- A record that is dumped as an object of strings and determined by them. -/
structure StringRecord {α : Type} (dump : α → Canon) (keys : List String) (fields : α → List Str) :
    Prop where
  dump_eq : ∀ a, dump a = .obj (List.zipWith member keys ((fields a).map .str))
  length_eq : ∀ a, (fields a).length = keys.length
  nodup : (keys.map lit).Nodup
  fields_inj : Function.Injective fields

theorem map_fst_zipWith_member {keys : List String} {values : List Canon}
    (h : values.length = keys.length) :
    (List.zipWith member keys values).map Prod.fst = keys.map lit := by
  induction keys generalizing values with
  | nil => rfl
  | cons k keys ih =>
    cases values with
    | nil => cases h
    | cons v values => simp [member, ih (Nat.succ.inj h)]

theorem loadedMembers_strings_inj {keys : List String} {s s' : List Str}
    (hs : s.length = keys.length) (hs' : s'.length = keys.length)
    (h : loadedMembers (List.zipWith member keys (s.map .str)) =
      loadedMembers (List.zipWith member keys (s'.map .str))) : s = s' := by
  induction keys generalizing s s' with
  | nil => rw [List.length_eq_zero_iff.1 hs, List.length_eq_zero_iff.1 hs']
  | cons k keys ih =>
    cases s with
    | nil => cases hs
    | cons a s =>
      cases s' with
      | nil => cases hs'
      | cons a' s' =>
        simp only [List.map_cons, List.zipWith_cons_cons, loadedMembers_member, loaded_str] at h
        rw [h.1, ih (Nat.succ.inj hs) (Nat.succ.inj hs') h.2]

/-- Dumps of records are told apart. -/
theorem StringRecord.dump_inj {α : Type} {dump : α → Canon} {keys : List String}
    {fields : α → List Str} (hr : StringRecord dump keys fields) (a b : α)
    (h : (dump a).loaded = (dump b).loaded) : a = b := by
  have hlength (a : α) : ((fields a).map Canon.str).length = keys.length := by
    rw [List.length_map, hr.length_eq]
  rw [hr.dump_eq, hr.dump_eq] at h
  apply hr.fields_inj
  exact loadedMembers_strings_inj (hr.length_eq a) (hr.length_eq b) (loadedMembers_inj keys h
    (map_fst_zipWith_member (hlength a)) (map_fst_zipWith_member (hlength b)) hr.nodup)

theorem PrincipalBinding.stringRecord : StringRecord PrincipalBinding.modelDump
    ["principal_id", "identity_issuer"] fun b => [b.principalId.val, b.identityIssuer.val] where
  dump_eq _ := rfl
  length_eq _ := rfl
  nodup := by decide
  fields_inj := by
    rintro ⟨⟩ ⟨⟩ h
    simpa [Subtype.ext_iff] using h

theorem DelegationHop.stringRecord : StringRecord DelegationHop.modelDump
    ["delegator", "delegatee", "scope_sha256"] fun b =>
      [b.delegator.val, b.delegatee.val, b.scopeSha256.val] where
  dump_eq _ := rfl
  length_eq _ := rfl
  nodup := by decide
  fields_inj := by
    rintro ⟨⟨⟩, _⟩ ⟨⟨⟩, _⟩ h
    simpa [Subtype.ext_iff] using h

theorem SubjectBinding.stringRecord : StringRecord SubjectBinding.modelDump
    ["subject_type", "subject_id", "attributes_sha256"] fun b =>
      [b.subjectType.val, b.subjectId.val, b.attributesSha256.val] where
  dump_eq _ := rfl
  length_eq _ := rfl
  nodup := by decide
  fields_inj := by
    rintro ⟨⟩ ⟨⟩ h
    simpa [Subtype.ext_iff] using h

theorem ActionBinding.stringRecord : StringRecord ActionBinding.modelDump
    ["action_name", "parameters_sha256"] fun b => [b.actionName.val, b.parametersSha256.val] where
  dump_eq _ := rfl
  length_eq _ := rfl
  nodup := by decide
  fields_inj := by
    rintro ⟨⟩ ⟨⟩ h
    simpa [Subtype.ext_iff] using h

theorem ResourceBinding.stringRecord : StringRecord ResourceBinding.modelDump
    ["resource_type", "resource_id", "attributes_sha256"] fun b =>
      [b.resourceType.val, b.resourceId.val, b.attributesSha256.val] where
  dump_eq _ := rfl
  length_eq _ := rfl
  nodup := by decide
  fields_inj := by
    rintro ⟨⟩ ⟨⟩ h
    simpa [Subtype.ext_iff] using h

theorem ContextBinding.stringRecord : StringRecord ContextBinding.modelDump
    ["request_id", "trace_id", "environment", "attributes_sha256"] fun b =>
      [b.requestId.val, b.traceId.val, b.environment.val, b.attributesSha256.val] where
  dump_eq _ := rfl
  length_eq _ := rfl
  nodup := by decide
  fields_inj := by
    rintro ⟨⟩ ⟨⟩ h
    simpa [Subtype.ext_iff] using h

theorem EffectBinding.stringRecord : StringRecord EffectBinding.modelDump
    ["effect_type", "target", "request_sha256", "idempotency_key"] fun b =>
      [b.effectType.val, b.target.val, b.requestSha256.val, b.idempotencyKey.val] where
  dump_eq _ := rfl
  length_eq _ := rfl
  nodup := by decide
  fields_inj := by
    rintro ⟨⟩ ⟨⟩ h
    simpa [Subtype.ext_iff] using h

theorem InTotoSubject.modelDump_inj (b b' : InTotoSubject)
    (h : b.modelDump.loaded = b'.modelDump.loaded) : b = b' := by
  have hmembers := loadedMembers_inj ["name", "digest"] h rfl rfl (by decide)
  simp only [loadedMembers_member, loaded_str, Subtype.val_inj] at hmembers
  obtain ⟨hname, hdigest, -⟩ := hmembers
  have hsha := loadedMembers_inj ["sha256"] hdigest rfl rfl (by decide)
  simp only [loadedMembers_member, loaded_str, Subtype.val_inj] at hsha
  cases b; cases b'
  simp_all

theorem DataClassification.value_inj {c c' : DataClassification} (h : c.value = c'.value) :
    c = c' := by
  cases c <;> cases c' <;> first | rfl | exact absurd h (by decide)

/-- The policy binding is dumped with the text of its times. -/
theorem PolicyBinding.modelDump_iff {P : Platform} {b b' : PolicyBinding} :
    (b.modelDump P).loaded = (b'.modelDump P).loaded ↔
      (b.policyId = b'.policyId ∧ b.policyRevision = b'.policyRevision ∧
        b.policySha256 = b'.policySha256) ∧ PolicyTimesWrittenAlike P b b' := by
  constructor
  · intro h
    have hmembers := loadedMembers_inj ["policy_id", "policy_revision", "policy_sha256", "decision",
      "evaluated_at", "expires_at"] h rfl rfl (by decide)
    simp only [loadedMembers_member, loaded_str, Subtype.val_inj] at hmembers
    obtain ⟨hid, hrevision, hsha, -, hevaluated, hexpires, -⟩ := hmembers
    exact ⟨⟨hid, hrevision, hsha⟩, hevaluated, hexpires⟩
  · rintro ⟨⟨hid, hrevision, hsha⟩, hevaluated, hexpires⟩
    unfold PolicyBinding.modelDump
    rw [hid, hrevision, hsha, hevaluated, hexpires]

end Dumps

/-! ## The digest -/

section Digest

variable {P : Platform} {s s' : ActionCertificateStatement}

/-- A JSON parser reads the subject of an approval at five levels of nesting. -/
theorem approvalScope_readable : (approvalScope P s).readable 5 = true := by
  have hhop (h : DelegationHop) : h.modelDump.readable 3 = true := by
    simp [DelegationHop.modelDump, member, Canon.readable, membersReadable]
  have hsubject (x : InTotoSubject) : x.modelDump.readable 3 = true := by
    simp [InTotoSubject.modelDump, member, Canon.readable, membersReadable]
  simp [approvalScope, member, Canon.readable, membersReadable, itemsReadable_iff, hhop, hsubject,
    PrincipalBinding.modelDump, SubjectBinding.modelDump, ActionBinding.modelDump,
    ResourceBinding.modelDump, ContextBinding.modelDump, PolicyBinding.modelDump,
    EffectBinding.modelDump]

/-- The subject of an approval is a function of the intent with the text of its policy's times. -/
theorem approvalScope_congr (h : SameButPolicyTimes s s')
    (htimes : PolicyTimesWrittenAlike P s.predicate.policy s'.predicate.policy) :
    approvalScope P s = approvalScope P s' := by
  obtain ⟨hevaluated, hexpires⟩ := htimes
  unfold approvalScope PolicyBinding.modelDump
  dsimp only
  rw [h.tenantId, h.humanPrincipal, h.workloadPrincipal, h.audience, h.delegationChain,
    h.statementSubjects, h.subject, h.action, h.resource, h.context, h.dataClassification,
    h.policyId, h.policyRevision, h.policySha256, h.effect, hevaluated, hexpires]

/-- The subject of an approval tells apart all of the intent, and the text of its policy's times. -/
theorem approvalScope_inj (h : (approvalScope P s).loaded = (approvalScope P s').loaded) :
    SameButPolicyTimes s s' ∧ PolicyTimesWrittenAlike P s.predicate.policy s'.predicate.policy := by
  have hmembers := loadedMembers_inj ["tenant_id", "human_principal", "workload_principal",
    "audience", "delegation_chain", "statement_subjects", "subject", "action", "resource",
    "context", "data_classification", "policy", "effect"] h rfl rfl (by decide)
  simp only [loadedMembers_member, loaded_str, Subtype.val_inj, PolicyBinding.modelDump_iff]
    at hmembers
  obtain ⟨htenant, hhuman, hworkload, haudience, hchain, hsubjects, hsubject, haction, hresource,
    hcontext, hclass, ⟨⟨hid, hrevision, hsha⟩, htimes⟩, heffect, -⟩ := hmembers
  refine ⟨?_, htimes⟩
  exact {
    tenantId := htenant
    humanPrincipal := PrincipalBinding.stringRecord.dump_inj _ _ hhuman
    workloadPrincipal := PrincipalBinding.stringRecord.dump_inj _ _ hworkload
    audience := haudience
    delegationChain := Subtype.ext (loaded_map_inj DelegationHop.stringRecord.dump_inj hchain)
    statementSubjects := Subtype.ext (loaded_map_inj InTotoSubject.modelDump_inj hsubjects)
    subject := SubjectBinding.stringRecord.dump_inj _ _ hsubject
    action := ActionBinding.stringRecord.dump_inj _ _ haction
    resource := ResourceBinding.stringRecord.dump_inj _ _ hresource
    context := ContextBinding.stringRecord.dump_inj _ _ hcontext
    dataClassification := DataClassification.value_inj hclass
    policyId := hid
    policyRevision := hrevision
    policySha256 := hsha
    effect := EffectBinding.stringRecord.dump_inj _ _ heffect }

/-- No other text than the two has the digest of the one. -/
def ScopesCollisionFree (P : Platform) (s s' : ActionCertificateStatement) : Prop :=
  CollisionFree P fun b =>
    b = canonicalJson (approvalScope P s) ∨ b = canonicalJson (approvalScope P s')

/-- Without a collision, digests are equal exactly when the statements agree and the times of their
policies are written alike. -/
theorem approvalScopeSha256_eq_iff (hfree : ScopesCollisionFree P s s') :
    approvalScopeSha256 P s = approvalScopeSha256 P s' ↔
      SameButPolicyTimes s s' ∧
        PolicyTimesWrittenAlike P s.predicate.policy s'.predicate.policy := by
  constructor
  · intro h
    have htext := hfree _ _ (.inl rfl) (.inr rfl) h
    exact approvalScope_inj
      (loaded_eq_of_canonicalJson_eq approvalScope_readable approvalScope_readable htext)
  · rintro ⟨h, htimes⟩
    unfold approvalScopeSha256
    rw [approvalScope_congr h htimes]

/-- The certificate id, the approval, the nonce and the validity window are not part of it. -/
theorem approvalScopeSha256_independent {t : ActionCertificateStatement}
    (h : expectedBindingFor t = { expectedBindingFor s with
      certificateId := t.predicate.certificateId
      approval := t.predicate.approval
      nonce := t.predicate.nonce }) :
    approvalScopeSha256 P t = approvalScopeSha256 P s := by
  unfold expectedBindingFor at h
  simp only [ExpectedBinding.mk.injEq, true_and, and_true] at h
  obtain ⟨htenant, hhuman, hworkload, haudience, hchain, hsubjects, hsubject, haction, hresource,
    hcontext, hclass, hpolicy, heffect⟩ := h
  have hsame : SameButPolicyTimes t s := ⟨htenant, hhuman, hworkload, haudience, hchain, hsubjects,
    hsubject, haction, hresource, hcontext, hclass, by rw [hpolicy], by rw [hpolicy],
    by rw [hpolicy], heffect⟩
  have htimes : PolicyTimesWrittenAlike P t.predicate.policy s.predicate.policy := by
    rw [hpolicy]
    exact ⟨rfl, rfl⟩
  unfold approvalScopeSha256
  rw [approvalScope_congr hsame htimes]

end Digest

/-- The digest names the intent: it is shared exactly by the statements with the same intent, and it
depends on none of the certificate id, the approval, the nonce and the validity window. -/
structure NamesIntent (P : Platform) (s s' : ActionCertificateStatement) : Prop where
  eq_iff : approvalScopeSha256 P s = approvalScopeSha256 P s' ↔ SameIntent s s'
  independent : ∀ t : ActionCertificateStatement,
    expectedBindingFor t = { expectedBindingFor s with
      certificateId := t.predicate.certificateId
      approval := t.predicate.approval
      nonce := t.predicate.nonce } →
    approvalScopeSha256 P t = approvalScopeSha256 P s

/-- The digest names the intent of two statements exactly if they differ on more than the times of
their policies, or these times are the same instants if and only if they are written alike. -/
theorem namesIntent_iff {P : Platform} {s s' : ActionCertificateStatement}
    (hfree : ScopesCollisionFree P s s') :
    NamesIntent P s s' ↔
      (SameButPolicyTimes s s' →
        (PolicyTimesWrittenAlike P s.predicate.policy s'.predicate.policy ↔
          SamePolicyTimes s.predicate.policy s'.predicate.policy)) := by
  have hnames : NamesIntent P s s' ↔
      (approvalScopeSha256 P s = approvalScopeSha256 P s' ↔ SameIntent s s') := by
    constructor
    · intro h
      exact h.eq_iff
    · intro h
      exact ⟨h, fun t ht => approvalScopeSha256_independent ht⟩
  rw [hnames, approvalScopeSha256_eq_iff hfree, sameIntent_iff, and_congr_right_iff]

namespace Sample

/-- The sample's evaluation time with the offset of one hour. -/
def evaluatedAtOffset : DateTime where
  wall := minute 60
  utcoffset := some (3600 * 10 ^ 6)
  offset_lt := by
    rintro _ ⟨⟩
    decide

/-- The sample statement with its policy's evaluation time written with an offset. -/
def offsetStatement : ActionCertificateStatement :=
  { statement with
    predicate := { statement.predicate with
      policy := { statement.predicate.policy with
        evaluatedAt := evaluatedAtOffset
        valid := by decide +kernel }
      valid := by decide +kernel }
    valid := by decide +kernel }

def offsetScopeDigest : BitVec 256 :=
  0x74401b7beded5f68ac96085738071f98c8d3f33e04ae6a85726753135a2b3888

/-- The sample platform, which also knows the statement with the offset. -/
def offsetTextPlatform : Platform :=
  { platform with
    sha256 := fun b => if b.length = 1525 then offsetScopeDigest else platform.sha256 b
    datetimeText := fun t =>
      if t = evaluatedAtOffset then lit "2026-01-01T01:00:00+01:00" else platform.datetimeText t }

set_option maxRecDepth 100000 in
theorem length_scopes :
    (canonicalJson (approvalScope offsetTextPlatform statement)).length = 1520 ∧
      (canonicalJson (approvalScope offsetTextPlatform offsetStatement)).length = 1525 := by
  decide +kernel

theorem sha256Bytes_offsetTextPlatform (b : Bytes) : sha256Bytes offsetTextPlatform b =
    if b.length = 1525 then digest offsetScopeDigest else sha256Bytes platform b := by
  by_cases h : b.length = 1525 <;> simp [sha256Bytes, offsetTextPlatform, h, digest]

theorem approvalScopeSha256_offsetTextPlatform :
    approvalScopeSha256 offsetTextPlatform statement = digest scopeDigest ∧
      approvalScopeSha256 offsetTextPlatform offsetStatement = digest offsetScopeDigest := by
  obtain ⟨hlength, hoffset⟩ := length_scopes
  unfold approvalScopeSha256
  rw [sha256Bytes_offsetTextPlatform, sha256Bytes_offsetTextPlatform, hlength, hoffset, if_pos rfl,
    if_neg (by decide)]
  exact ⟨sha256Bytes_platform hlength (head_canonicalJson _) (by simp [digests]), rfl⟩

theorem approvalScopeSha256_ne :
    approvalScopeSha256 offsetTextPlatform statement ≠
      approvalScopeSha256 offsetTextPlatform offsetStatement := by
  obtain ⟨hscope, hoffset⟩ := approvalScopeSha256_offsetTextPlatform
  rw [hscope, hoffset]
  decide +kernel

theorem scopesCollisionFree : ScopesCollisionFree offsetTextPlatform statement offsetStatement := by
  have hne := approvalScopeSha256_ne
  rintro b b' (rfl | rfl) (rfl | rfl) h
  · rfl
  · exact absurd h hne
  · exact absurd h.symm hne
  · rfl

/-- The two statements have one intent. -/
theorem sameIntent_offsetStatement : SameIntent statement offsetStatement := by
  refine sameIntent_iff.2
    ⟨⟨rfl, rfl, rfl, rfl, rfl, rfl, rfl, rfl, rfl, rfl, rfl, rfl, rfl, rfl, rfl⟩,
    ?_, rfl, rfl⟩
  decide +kernel

end Sample

theorem sample_namesIntent_iff :
    NamesIntent Sample.offsetTextPlatform Sample.statement Sample.offsetStatement ↔
      (SameButPolicyTimes Sample.statement Sample.offsetStatement →
        (PolicyTimesWrittenAlike Sample.offsetTextPlatform Sample.statement.predicate.policy
            Sample.offsetStatement.predicate.policy ↔
          SamePolicyTimes Sample.statement.predicate.policy
            Sample.offsetStatement.predicate.policy)) :=
  namesIntent_iff Sample.scopesCollisionFree

/-- Two statements with one intent, evaluated at `2026-01-01T00:00:00Z` and at
`2026-01-01T01:00:00+01:00`, have two digests. -/
theorem sample_intent_named_twice :
    ScopesCollisionFree Sample.offsetTextPlatform Sample.statement Sample.offsetStatement ∧
      ¬ NamesIntent Sample.offsetTextPlatform Sample.statement Sample.offsetStatement := by
  refine ⟨Sample.scopesCollisionFree, fun h => ?_⟩
  exact Sample.approvalScopeSha256_ne (h.eq_iff.2 Sample.sameIntent_offsetStatement)

end ProofFlow
