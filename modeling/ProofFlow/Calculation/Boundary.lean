import ProofFlow.Calculation.Rules
import ProofFlow.Kit.Traversal
import ProofFlow.Seal
import ProofFlow.Tool.Store

/-!
# The calculation boundary

Before `deterministic_calculate` computes, every evidence object and every citation has to be
sealed, issued by its agent in the caller's tenant, case and trace, and known: evidence to the store
of the runtime, a citation to the server's catalog.  The citations have to be all that the catalog
has for the declared scope.
-/

namespace ProofFlow

open Kit

/-- `CalculateRequest`. -/
structure CalculateRequest where
  evidence : List EvidenceObject
  ruleCitations : List RuleCitation
  ruleScope : RuleScopeReceipt
  formulaVersion : Stripped

def CalculateRequest.dump (r : CalculateRequest) : Value :=
  .obj [keyed "evidence" (.arr (r.evidence.map Artifact.dump)),
    keyed "rule_citations" (.arr (r.ruleCitations.map Artifact.dump)),
    keyed "rule_scope" r.ruleScope.dump, keyed "formula_version" (.str r.formulaVersion.val)]

/-! ## Artifacts -/

/-- `_seal_is_valid`. -/
def sealIsValid {α : Type} [Artifact α] (P : Platform) (a : α) : Except Fault Bool :=
  match Artifact.verifyHash P a with
  | .error .typeError => .ok false
  | .error .valueError => .ok false
  | result => result

/-- The record has the identifier and the version of the citation. -/
def RuleRecord.sameKey (c : RuleCitation) (r : RuleRecord) : Prop :=
  r.ruleId = c.ruleId ∧ r.version = c.version

instance (c : RuleCitation) : DecidablePred (RuleRecord.sameKey c) :=
  fun r => inferInstanceAs (Decidable (r.ruleId = c.ruleId ∧ r.version = c.version))

/-- The citation quotes the record, up to the digest of the record. -/
def RuleRecord.quotedBy (c : RuleCitation) (r : RuleRecord) : Prop :=
  c.issueCode = r.issueCode ∧ c.title = r.title ∧ c.jurisdiction = r.jurisdiction ∧
    c.effectiveFrom = r.effectiveFrom ∧ c.effectiveTo = r.effectiveTo ∧
    c.authoritativeSource = r.authoritativeSource ∧ c.locator = r.locator ∧ c.excerpt = r.statement

instance (c : RuleCitation) : DecidablePred (RuleRecord.quotedBy c) :=
  fun r => inferInstanceAs (Decidable (c.issueCode = r.issueCode ∧ _))

/-- `_rule_matches_catalog`. -/
def ruleMatchesCatalog (P : Platform) (c : RuleCitation) (catalog : RuleCatalog) :
    Except Fault Bool :=
  match catalog.rules.filter fun r => decide (r.sameKey c) with
  | [r] =>
    if r.quotedBy c then do
      let digest ← sha256Digest P r.dump []
      pure (decide (c.sourceHash = digest) &&
        decide (c.metadata.sourceRefs = [r.authoritativeSource]))
    else .ok false
  | _ => .ok false

/-- The artifact belongs to the tenant, the case and the trace of the caller. -/
def ArtifactMeta.inContext (context : SkillContext) (m : ArtifactMeta) : Prop :=
  (m.tenantId, m.caseId, m.traceId) = (context.tenantId, context.caseId, context.traceId)

instance (context : SkillContext) (m : ArtifactMeta) : Decidable (m.inContext context) :=
  inferInstanceAs (Decidable (_ = _))

/-- The artifact has the classification and the producer of the program's own artifacts. -/
def ArtifactMeta.issuedBy (identity : String) (m : ArtifactMeta) : Prop :=
  m.classification = .publicSynthetic ∧ m.producerIdentity.val = lit identity

instance (identity : String) (m : ArtifactMeta) : Decidable (m.issuedBy identity) :=
  inferInstanceAs (Decidable (_ ∧ _))

/-! ## The loops of `_artifact_boundary_issues` -/

/-- The flags of `_artifact_boundary_issues`. -/
structure BoundaryFlags where
  unverified : Bool
  untrustedEvidence : Bool
  crossContext : Bool
  unresolved : Bool
  deriving DecidableEq

/-- The flags with one that goes up on unverified artifacts. -/
def BoundaryFlags.withUnverified (f : BoundaryFlags) (raised : Bool) : BoundaryFlags :=
  { f with unverified := f.unverified || raised }

/-- The flags before the loops. -/
def BoundaryFlags.clear : BoundaryFlags := ⟨false, false, false, false⟩

/-- The body of the loop over the evidence. -/
def checkEvidence (P : Platform) (context : SkillContext) (store : TrustedArtifactStore)
    (flags : BoundaryFlags) (e : EvidenceObject) : Except Fault BoundaryFlags := do
  let valid ← sealIsValid P e
  let evidenceUnverified := !valid || !decide (e.metadata.issuedBy "PF-A2")
  let evidenceCrossContext := !decide (e.metadata.inContext context)
  let evidenceUnresolved := decide (e.factStatus ≠ .verified)
  let evidenceRegistered ← store.contains context e
  return {
    unverified := flags.unverified || evidenceUnverified
    untrustedEvidence := flags.untrustedEvidence || (!evidenceRegistered && !evidenceUnverified &&
      !evidenceCrossContext && !evidenceUnresolved)
    crossContext := flags.crossContext || evidenceCrossContext
    unresolved := flags.unresolved || evidenceUnresolved }

/-- The checks of a citation, in the order in which `or` makes them. -/
def ruleUnverified (P : Platform) (catalog : RuleCatalog)
    (c : RuleCitation) : Except Fault Bool := do
  let valid ← sealIsValid P c
  if !valid || !decide (c.metadata.issuedBy "PF-A3") then return true
  let matched ← ruleMatchesCatalog P c catalog
  return !matched

/-- `unverified or (...)`: once the flag is up, the checks are skipped. -/
def unverifiedOr (P : Platform) (catalog : RuleCatalog) (raised : Bool) (c : RuleCitation) :
    Except Fault Bool :=
  if raised then .ok true else ruleUnverified P catalog c

/-- The body of the loop over the citations. -/
def checkRule (P : Platform) (context : SkillContext) (catalog : RuleCatalog)
    (flags : BoundaryFlags) (c : RuleCitation) : Except Fault BoundaryFlags := do
  let unverified ← unverifiedOr P catalog flags.unverified c
  return { flags with
    unverified := unverified
    crossContext := flags.crossContext || !decide (c.metadata.inContext context) }

/-- The flags after the loop over the evidence. -/
def evidenceFlags (P : Platform) (context : SkillContext) (evidence : List EvidenceObject)
    (store : TrustedArtifactStore) : Except Fault BoundaryFlags :=
  evidence.foldlM (checkEvidence P context store) .clear

/-- The issues of the flags that are up. -/
def BoundaryFlags.issues (f : BoundaryFlags) : List Issue :=
  (if f.unverified then [Issue.blocker "UNVERIFIED_ARTIFACT"
    (lit "calculation input contains an unverified or untrusted artifact") true] else []) ++
  (if f.crossContext then [Issue.blocker "CROSS_TENANT_REFERENCE"
    (lit "calculation artifacts do not belong to the request context") false] else []) ++
  (if f.untrustedEvidence then [Issue.blocker "UNTRUSTED_EVIDENCE"
    (lit "calculation evidence is not registered by this trusted runtime") true] else []) ++
  (if f.unresolved then [Issue.blocker "UNRESOLVED_PARAMETER"
    (lit "calculation evidence must be VERIFIED before use") true] else [])

/-- `_artifact_boundary_issues`. -/
def artifactBoundaryIssues (P : Platform) (context : SkillContext) (request : CalculateRequest)
    (catalog : RuleCatalog) (store : TrustedArtifactStore) : Except Fault (List Issue) := do
  let flags ← evidenceFlags P context request.evidence store
  let flags ← request.ruleCitations.foldlM (checkRule P context catalog) flags
  return flags.issues

/-! ## The scope -/

/-- A key of the multiset comparison, in the order of Python's tuples. -/
abbrev RuleKey := Str ×ₗ Str ×ₗ Str

def ruleKey (ruleId version issueCode : Stripped) : RuleKey :=
  toLex (ruleId.val, toLex (version.val, issueCode.val))

def RuleRecord.key (r : RuleRecord) : RuleKey := ruleKey r.ruleId r.version r.issueCode

def RuleCitation.key (c : RuleCitation) : RuleKey := ruleKey c.ruleId c.version c.issueCode

/-- The records of the catalog for a query. -/
def scopeRecords (query : RuleRetrieveRequest) (catalog : RuleCatalog) : List RuleRecord :=
  query.issueCodes.flatMap fun c => matchingRuleRecords query c catalog

/-- What `_rule_scope_issue` demands besides the digest of the query. -/
def scopeComplete (scope : RuleScopeReceipt) (citations : List RuleCitation)
    (catalog : RuleCatalog) :
    Prop :=
  scope.catalogVersion.val = catalog.catalogVersion.val ∧
    (∀ c ∈ scope.issueCodes, matchingRuleRecords scope.toRuleRetrieveRequest c catalog ≠ []) ∧
    (citations.map RuleCitation.key).insertionSort (· ≤ ·) =
      ((scopeRecords scope.toRuleRetrieveRequest catalog).map RuleRecord.key).insertionSort (· ≤ ·)

instance (scope : RuleScopeReceipt) (citations : List RuleCitation) (catalog : RuleCatalog) :
    Decidable (scopeComplete scope citations catalog) := inferInstanceAs (Decidable (_ ∧ _ ∧ _))

/-- `_rule_scope_issue`. -/
def ruleScopeIssue (P : Platform) (request : CalculateRequest) (catalog : RuleCatalog) :
    Except Fault (Option Issue) := do
  let queryHash ← sha256Digest P request.ruleScope.toRuleRetrieveRequest.dump []
  if request.ruleScope.ruleQueryInputHash = queryHash ∧
      scopeComplete request.ruleScope request.ruleCitations catalog then return none
  return some (Issue.blocker "RULE_SCOPE_MISMATCH"
    (lit ("rule citations are not a complete result for the declared " ++
      "jurisdiction, date, issue, and catalog scope")) true)

/-! ## What a query returns -/

section Retrieved

variable {P : Platform} {context context' : SkillContext} {request : RuleRetrieveRequest}
  {catalog : RuleCatalog} {now : DateTime} {issueCode : Stripped} {r : RuleRecord}
    {c : RuleCitation}

/-- The citation is a sealed and authentic quotation of the record. -/
structure Cites (P : Platform) (context : SkillContext) (r : RuleRecord) (c : RuleCitation) :
    Prop where
  isSealed : Artifact.verifyHash P c = .ok true
  issuedBy : c.metadata.issuedBy "PF-A3"
  inContext : c.metadata.inContext context
  sourceRefs_eq : c.metadata.sourceRefs = [r.authoritativeSource]
  sameKey : r.sameKey c
  quotedBy : r.quotedBy c
  digest_eq : sha256Digest P r.dump [] = .ok c.sourceHash

/-- The metadata of a new artifact. -/
structure NewMeta (identity : Filled) (context : SkillContext) (sourceRefs : List Stripped)
    (m : ArtifactMeta) : Prop where
  classification : m.classification = .publicSynthetic
  producer : m.producerIdentity = identity
  inContext : m.inContext context
  sourceRefs_eq : m.sourceRefs = sourceRefs

theorem newMeta_of_artifactMeta {name : String} {identity : Filled} {payload : Value}
    {sourceRefs : List Stripped} {m : ArtifactMeta}
    (h : artifactMeta P name identity context now payload sourceRefs = .ok m) :
    NewMeta identity context sourceRefs m := by
  unfold artifactMeta at h
  simp only [bind_eq_ok, pure, Except.pure, Except.ok.injEq] at h
  obtain ⟨_, -, _, -, _, -, rfl⟩ := h
  exact ⟨rfl, rfl, rfl, rfl⟩

theorem cites_of_citationOf (h : citationOf P context request now issueCode r = .ok c) :
    Cites P context r c := by
  unfold citationOf at h
  simp only [bind_eq_ok] at h
  obtain ⟨m, hm, digest, hdigest, hsealed⟩ := h
  have hverified := verifyHash_of_sealed hsealed
  obtain ⟨hclass, hproducer, hcontext, hrefs⟩ := newMeta_of_artifactMeta hm
  unfold Artifact.sealed at hsealed
  simp only [bind_eq_ok, pure, Except.pure, Except.ok.injEq] at hsealed
  obtain ⟨_, -, rfl⟩ := hsealed
  exact {
    isSealed := hverified
    issuedBy := ⟨hclass, congrArg Subtype.val hproducer⟩
    inContext := hcontext
    sourceRefs_eq := hrefs
    sameKey := ⟨rfl, rfl⟩
    quotedBy := ⟨rfl, rfl, rfl, rfl, rfl, rfl, rfl, rfl⟩
    digest_eq := hdigest }

theorem Cites.key_eq (h : Cites P context r c) : r.key = c.key := by
  unfold RuleRecord.key RuleCitation.key
  rw [h.sameKey.1, h.sameKey.2, h.quotedBy.1]

/-- The catalog has one record with the identifier and the version of the citation. -/
def RuleCatalog.hasOne (catalog : RuleCatalog) (c : RuleCitation) : Prop :=
  (catalog.rules.filter fun r => decide (r.sameKey c)).length = 1

instance (catalog : RuleCatalog) : DecidablePred catalog.hasOne :=
  fun _ => inferInstanceAs (Decidable (_ = 1))

/-- A citation of a record of the catalog matches it unless a second record has the key. -/
theorem Cites.ruleMatchesCatalog_eq (h : Cites P context r c) (hr : r ∈ catalog.rules) :
    ruleMatchesCatalog P c catalog = .ok (decide (catalog.hasOne c)) := by
  have hmem : r ∈ catalog.rules.filter fun r => decide (r.sameKey c) :=
    List.mem_filter.2 ⟨hr, decide_eq_true h.sameKey⟩
  unfold ruleMatchesCatalog
  split
  · rename_i r' hfilter
    rw [hfilter, List.mem_singleton] at hmem
    subst hmem
    have hone : catalog.hasOne c := by
      unfold RuleCatalog.hasOne
      rw [hfilter]
      rfl
    rw [if_pos h.quotedBy, h.digest_eq, ok_bind, decide_eq_true hone, h.sourceRefs_eq]
    simp [pure, Except.pure]
  · rename_i hne
    have hnot : ¬ catalog.hasOne c := by
      intro hone
      obtain ⟨r', hr'⟩ := List.length_eq_one_iff.1 hone
      exact hne r' hr'
    rw [decide_eq_false hnot]

theorem Cites.ruleUnverified_eq (h : Cites P context r c) (hr : r ∈ catalog.rules) :
    ruleUnverified P catalog c = .ok (!decide (catalog.hasOne c)) := by
  have hvalid : sealIsValid P c = .ok true := by
    unfold sealIsValid
    rw [h.isSealed]
  unfold ruleUnverified
  rw [hvalid, ok_bind, decide_eq_true h.issuedBy, h.ruleMatchesCatalog_eq hr]
  rfl

/-- Such a citation raises no flag but the one for a repeated key. -/
theorem Cites.checkRule_eq (h : Cites P context r c) (hr : r ∈ catalog.rules)
    (hcontext : c.metadata.inContext context') (flags : BoundaryFlags) :
    checkRule P context' catalog flags c =
      .ok (flags.withUnverified (!decide (catalog.hasOne c))) := by
  unfold checkRule unverifiedOr BoundaryFlags.withUnverified
  rw [h.ruleUnverified_eq hr, decide_eq_true hcontext]
  cases flags.unverified with
  | true => simp [ok_bind, pure, Except.pure]
  | false => simp [ok_bind, pure, Except.pure]

/-- What a successful query returns. -/
structure Retrieved (P : Platform) (context : SkillContext) (request : RuleRetrieveRequest)
    (catalog : RuleCatalog) (output : RuleRetrieveOutput) : Prop where
  cites : List.Forall₂ (Cites P context) (scopeRecords request catalog) output.citations
  complete : ∀ c ∈ request.issueCodes, matchingRuleRecords request c catalog ≠ []
  query_eq : output.ruleScope.toRuleRetrieveRequest = request
  hash_eq : sha256Digest P request.dump [] = .ok output.ruleScope.ruleQueryInputHash
  version_eq : output.ruleScope.catalogVersion.val = catalog.catalogVersion.val

/-- The citations for several issues, in their order. -/
theorem forall₂_cites {codes : List Stripped} {found : List (List RuleCitation)}
    (h : List.Forall₂ (fun c l => citationsFor P context request catalog now c = .ok l) codes
      found) :
    List.Forall₂ (Cites P context) (codes.flatMap fun c => matchingRuleRecords request c catalog)
      found.flatten := by
  induction h with
  | nil => exact .nil
  | cons hfor _ ih =>
    rw [List.flatMap_cons, List.flatten_cons]
    exact List.rel_append ((mapM_eq_ok.1 hfor).imp fun _ _ => cites_of_citationOf) ih

theorem retrieved_of_success {result : SkillResult RuleRetrieveOutput}
    (h : ruleRetrieve P context request catalog now = .ok result)
    (hstatus : result.status = .success) :
    ∃ output, result.value = some output ∧ Retrieved P context request catalog output := by
  unfold ruleRetrieve at h
  obtain ⟨refused, hrefused, h⟩ := bind_eq_ok.1 h
  cases refused with
  | some answer =>
    obtain rfl := Except.ok.inj h
    rw [(denied_eq_some hrefused).1] at hstatus
    cases hstatus
  | none =>
    simp only [bind_eq_ok, pure, Except.pure, Except.ok.injEq] at h
    obtain ⟨found, hfound, hash, hhash, version, hversion, _, -, rfl⟩ := h
    refine ⟨_, rfl, ?_⟩
    have hmissing :
        request.issueCodes.filter (fun c => matchingRuleRecords request c catalog = []) =
        [] := by
      by_contra hne
      rw [if_pos hne] at hstatus
      cases hstatus
    exact {
      cites := forall₂_cites (mapM_eq_ok.1 hfound)
      complete := fun c hc hnil => by simpa using List.filter_eq_nil_iff.1 hmissing c hc (by simpa)
      query_eq := rfl
      hash_eq := hhash
      version_eq := by
        unfold filled at hversion
        split at hversion
        · rw [← Except.ok.inj hversion]
          exact catalog.catalogVersion.property
        · cases hversion }

/-- A request that carries the citations and the scope of a query unchanged. -/
structure CalculateRequest.Carries (calculate : CalculateRequest) (output : RuleRetrieveOutput) :
    Prop where
  citations_eq : calculate.ruleCitations = output.citations
  scope_eq : calculate.ruleScope = output.ruleScope

/-- Records of a query are records of the catalog. -/
theorem mem_rules_of_mem_scopeRecords (h : r ∈ scopeRecords request catalog) :
    r ∈ catalog.rules := by
  obtain ⟨_, -, hr⟩ := List.mem_flatMap.1 h
  exact (List.mem_filter.1 hr).1

/-- A flag that only goes up. -/
theorem foldl_unverified (raises : RuleCitation → Bool) (l : List RuleCitation)
    (flags : BoundaryFlags) :
    l.foldl (fun f c => f.withUnverified (raises c)) flags =
      flags.withUnverified (l.any raises) := by
  induction l generalizing flags with
  | nil => simp [BoundaryFlags.withUnverified]
  | cons c l ih =>
    rw [List.foldl_cons, ih, List.any_cons]
    simp [BoundaryFlags.withUnverified, Bool.or_assoc]

section Carries

variable {output : RuleRetrieveOutput} {calculate : CalculateRequest}

theorem Retrieved.exists_record (h : Retrieved P context request catalog output)
    (hc : c ∈ output.citations) : ∃ r ∈ catalog.rules, Cites P context r c := by
  obtain ⟨hlength, hget⟩ := List.forall₂_iff_get.1 h.cites
  obtain ⟨i, hi, rfl⟩ := List.getElem_of_mem hc
  exact ⟨_, mem_rules_of_mem_scopeRecords (List.getElem_mem (hlength ▸ hi)),
    hget i (hlength ▸ hi) hi⟩

/-- The loop over the citations raises no flag but the one for a repeated key. -/
theorem Retrieved.foldlM_checkRule (h : Retrieved P context request catalog output)
    (hscope : (context'.tenantId, context'.caseId, context'.traceId) =
      (context.tenantId, context.caseId, context.traceId)) (flags : BoundaryFlags) :
    output.citations.foldlM (checkRule P context' catalog) flags =
      .ok (flags.withUnverified (output.citations.any fun c => !decide (catalog.hasOne c))) := by
  rw [foldlM_eq_foldl (g := fun f c => f.withUnverified (!decide (catalog.hasOne c))) ?_ flags,
    foldl_unverified]
  intro c hc f
  obtain ⟨r, hr, hcites⟩ := h.exists_record hc
  have hcontext : c.metadata.inContext context' := hcites.inContext.trans hscope.symm
  exact hcites.checkRule_eq hr hcontext f

theorem Retrieved.ruleScopeIssue_eq (h : Retrieved P context request catalog output)
    (hcarries : calculate.Carries output) : ruleScopeIssue P calculate catalog = .ok none := by
  have hkeys : calculate.ruleCitations.map RuleCitation.key =
      (scopeRecords request catalog).map RuleRecord.key := by
    rw [hcarries.citations_eq, ← List.forall₂_eq_eq_eq, List.forall₂_map_left_iff,
      List.forall₂_map_right_iff]
    exact h.cites.flip.imp fun c r hcites => hcites.key_eq.symm
  have hcomplete : scopeComplete calculate.ruleScope calculate.ruleCitations catalog := by
    unfold scopeComplete
    rw [hcarries.scope_eq, h.query_eq, hkeys]
    exact ⟨h.version_eq, h.complete, rfl⟩
  unfold ruleScopeIssue
  rw [hcarries.scope_eq, h.query_eq, h.hash_eq, ok_bind,
    if_pos ⟨rfl, hcarries.scope_eq ▸ hcomplete⟩]
  rfl

theorem Retrieved.artifactBoundaryIssues_eq (h : Retrieved P context request catalog output)
    (hscope : (context'.tenantId, context'.caseId, context'.traceId) =
      (context.tenantId, context.caseId, context.traceId)) (hcarries : calculate.Carries output)
    (store : TrustedArtifactStore) :
    artifactBoundaryIssues P context' calculate catalog store =
      (evidenceFlags P context' calculate.evidence store).map fun flags =>
        (flags.withUnverified (!decide (∀ c ∈ output.citations, catalog.hasOne c))).issues := by
  have hany : (output.citations.any fun c => !decide (catalog.hasOne c)) =
      !decide (∀ c ∈ output.citations, catalog.hasOne c) := by
    rw [Bool.eq_iff_iff]
    simp
  unfold artifactBoundaryIssues
  rw [hcarries.citations_eq]
  cases evidenceFlags P context' calculate.evidence store with
  | error e => rfl
  | ok flags =>
    rw [ok_bind, h.foldlM_checkRule hscope, hany]
    rfl

end Carries

end Retrieved

/-- A calculation accepts what a query returned: the scope is in order, and the citations raise no
issue of the boundary, save that one is unverified if the catalog repeats the key of a citation. -/
theorem retrieved_accepted (P : Platform) (context context' : SkillContext)
    (request : RuleRetrieveRequest) (catalog : RuleCatalog) (now : DateTime)
    (result : SkillResult RuleRetrieveOutput)
    (hscope : (context'.tenantId, context'.caseId, context'.traceId) =
      (context.tenantId, context.caseId, context.traceId))
    (h : ruleRetrieve P context request catalog now = .ok result)
    (hstatus : result.status = .success) :
    ∃ output, result.value = some output ∧
      ∀ (calculate : CalculateRequest) (store : TrustedArtifactStore), calculate.Carries output →
        ruleScopeIssue P calculate catalog = .ok none ∧
        artifactBoundaryIssues P context' calculate catalog store =
          (evidenceFlags P context' calculate.evidence store).map fun flags =>
            (flags.withUnverified (!decide (∀ c ∈ output.citations, catalog.hasOne c))).issues := by
  obtain ⟨output, hvalue, hretrieved⟩ := retrieved_of_success h hstatus
  exact ⟨output, hvalue, fun calculate store hcarries =>
    ⟨hretrieved.ruleScopeIssue_eq hcarries,
      hretrieved.artifactBoundaryIssues_eq hscope hcarries store⟩⟩

namespace Sample

/-- The context of the agent that owns a skill. -/
def agentContext (identity : Filled) : SkillContext where
  tenantId := sheetName
  caseId := sheetName
  callerIdentity := identity
  actorKind := .agent
  traceId := sheetName
  idempotencyKey := sheetName
  schemaVersion := schemaVersion
  expectedStateVersion := 0

def ruleFor (ruleId issueCode : String) : RuleRecord where
  ruleId := label ruleId
  version := label "1"
  issueCode := label issueCode
  title := label "title"
  jurisdiction := label "CN"
  effectiveFrom := ⟨2020, 1, 1, by decide⟩
  effectiveTo := none
  authoritativeSource := label "source"
  locator := label "locator"
  statement := label "statement"

/-- A catalog with two records, whose identifiers may be the same. -/
def twoRules (ruleId : String) : RuleCatalog where
  catalogVersion := label "v1"
  rules := [ruleFor "r-1" "a", ruleFor ruleId "bb"]

/-- A query for two issues. -/
def twoIssues : RuleRetrieveRequest where
  issueCodes := [label "a", label "bb"]
  jurisdiction := ⟨lit "CN", by decide⟩
  asOfDate := ⟨2026, 1, 1, by decide⟩
  length_mem := by decide
  unique_non_empty := by decide

def owner : SkillContext := agentContext ruleAgent

def caller : SkillContext := agentContext calculationAgent

/-- The digests of the query, of the records and citations under both identifiers, and of what the
query returns. -/
def rulePlatform : Platform := platformOf
  [(72, 0xe3f42a7ffaff9a53bd7133b501982003c11381056e6728f9820385e236c25226),
    (74, 0x38d9eb4700078d2b6e1b7eb29bc5df0b398b721867784ee79df0b0247fa40048),
    (210, 0xb60285b3ea59490afc5ae601f137484ef04ded573dc4f06a91040376ee728b59),
    (584, 0xec260bf28dfc0e86ceb32dd2e3a48a50fcea6cfd937a9e397331f28a3ae97ede),
    (75, 0x9736a8ce66116253e4f61b0b7f8d283a9a37fb508440ed351670b1447ce15bd0),
    (211, 0x3dc72d6aeb21a44e5c68d7ed2cd2e3adf639865b447e3670c41d2613112cc1f8),
    (585, 0xb52e64dfff3d3e10cd8ef7aff31a7603bab3f5bfca90001590183f22825148f0),
    (1619, 0xc6f66f2ede0813de3f23071189a3a5bb3ef72cb10bf0d2bc156dbb0285098d42),
    (76, 0x65f62200e36d0c5e333e1bb489f1f9aac611d426ded6762d696000bddffa0e97),
    (212, 0xb6739c295733891e01f711044d16b6006f7f684a074b9330258f92f95b146fa7),
    (586, 0xc24f1bd4d82714571fc40bab29096331bd839d2d7efc5159f6bca838d56e7786),
    (1620, 0x55b851b3f422a76d419b0fe748ce97f3681964285ce69346cd161b1ceacbdde7)]

/-- The query succeeds. -/
def succeeds (ruleId : String) : Bool :=
  match ruleRetrieve rulePlatform owner twoIssues (twoRules ruleId) (.ofUtc sheetTime) with
  | .ok result => decide (result.status = .success)
  | .error _ => false

theorem exists_result {ruleId : String} (h : succeeds ruleId = true) : ∃ result,
    ruleRetrieve rulePlatform owner twoIssues (twoRules ruleId) (.ofUtc sheetTime) = .ok result ∧
      result.status = .success := by
  unfold succeeds at h
  split at h
  · exact ⟨_, by assumption, of_decide_eq_true h⟩
  · cases h

theorem succeeds_distinct : succeeds "r-22" = true := by decide +kernel

theorem succeeds_repeated : succeeds "r-1" = true := by decide +kernel

/-- A calculation without evidence that carries what a query returned. -/
def calculateFrom (output : RuleRetrieveOutput) : CalculateRequest where
  evidence := []
  ruleCitations := output.citations
  ruleScope := output.ruleScope
  formulaVersion := label "cn-economic-compensation-v0.1"

/-- What the catalog has under the key of a citation depends on the record that it cites. -/
theorem hasOne_iff {r : RuleRecord} {c : RuleCitation} {catalog : RuleCatalog}
    (h : Cites rulePlatform owner r c) : catalog.hasOne c ↔
      (catalog.rules.filter fun r' => decide (r'.ruleId = r.ruleId ∧
        r'.version = r.version)).length =
        1 := by
  have hfilter : (catalog.rules.filter fun r' => decide (r'.sameKey c)) =
      catalog.rules.filter fun r' => decide (r'.ruleId = r.ruleId ∧ r'.version = r.version) := by
    apply List.filter_congr
    intro r' _
    rw [decide_eq_decide, h.sameKey.1, h.sameKey.2]
    rfl
  unfold RuleCatalog.hasOne
  rw [hfilter]

end Sample

/-- A query for two issues whose records have different identifiers. -/
theorem sample_retrieved_accepted : ∃ output,
    ruleScopeIssue Sample.rulePlatform (Sample.calculateFrom output) (Sample.twoRules "r-22") =
      .ok none ∧
    artifactBoundaryIssues Sample.rulePlatform Sample.caller (Sample.calculateFrom output)
      (Sample.twoRules "r-22") (.empty ⟨1, by decide⟩) = .ok [] := by
  obtain ⟨result, hresult, hstatus⟩ := Sample.exists_result Sample.succeeds_distinct
  obtain ⟨output, hvalue, haccepted⟩ := retrieved_accepted Sample.rulePlatform Sample.owner
    Sample.caller Sample.twoIssues (Sample.twoRules "r-22") _ result rfl hresult hstatus
  obtain ⟨hscope, hissues⟩ :=
    haccepted (Sample.calculateFrom output) (.empty ⟨1, by decide⟩) ⟨rfl, rfl⟩
  refine ⟨output, hscope, ?_⟩
  have hone : ∀ c ∈ output.citations, (Sample.twoRules "r-22").hasOne c := by
    intro c hc
    obtain ⟨output', hvalue', hretrieved⟩ := retrieved_of_success hresult hstatus
    obtain rfl : output = output' := Option.some.inj (hvalue.symm.trans hvalue')
    obtain ⟨r, hr, hcites⟩ := hretrieved.exists_record hc
    rw [Sample.hasOne_iff hcites]
    have hrecords : r = Sample.ruleFor "r-1" "a" ∨ r = Sample.ruleFor "r-22" "bb" := by
      simpa [Sample.twoRules] using hr
    rcases hrecords with rfl | rfl
    · decide
    · decide
  rw [hissues, decide_eq_true hone]
  rfl

/-- A catalog with two records of one identifier and version: what a query returned is
unverified. -/
theorem sample_retrieved_unverified : ¬ ∀ (P : Platform) (context context' : SkillContext)
    (request : RuleRetrieveRequest) (catalog : RuleCatalog) (now : DateTime)
    (result : SkillResult RuleRetrieveOutput) (output : RuleRetrieveOutput)
    (calculate : CalculateRequest) (store : TrustedArtifactStore),
    (context'.tenantId, context'.caseId, context'.traceId) =
      (context.tenantId, context.caseId, context.traceId) →
    ruleRetrieve P context request catalog now = .ok result → result.status = .success →
    result.value = some output → calculate.Carries output →
    artifactBoundaryIssues P context' calculate catalog store =
      artifactBoundaryIssues P context' { calculate with ruleCitations := [] } catalog store ∧
    ruleScopeIssue P calculate catalog = .ok none := by
  intro hclaim
  obtain ⟨result, hresult, hstatus⟩ := Sample.exists_result Sample.succeeds_repeated
  obtain ⟨output, hvalue, hretrieved⟩ := retrieved_of_success hresult hstatus
  obtain ⟨hsame, -⟩ := hclaim _ Sample.owner Sample.caller _ _ _ _ output
    (Sample.calculateFrom output) (.empty ⟨1, by decide⟩) rfl hresult hstatus hvalue ⟨rfl, rfl⟩
  have hnot : ¬ ∀ c ∈ output.citations, (Sample.twoRules "r-1").hasOne c := by
    intro hone
    have hcites := hretrieved.cites
    have hrecords : scopeRecords Sample.twoIssues (Sample.twoRules "r-1") =
        [Sample.ruleFor "r-1" "a", Sample.ruleFor "r-1" "bb"] := by
      decide
    rw [hrecords] at hcites
    obtain ⟨c, rest, hc, -, houtput⟩ := List.forall₂_cons_left_iff.1 hcites
    have hfirst := hone c (houtput ▸ List.mem_cons_self)
    rw [Sample.hasOne_iff hc] at hfirst
    exact absurd hfirst (by decide)
  have hissues : artifactBoundaryIssues Sample.rulePlatform Sample.caller
      (Sample.calculateFrom output) (Sample.twoRules "r-1") (.empty ⟨1, by decide⟩) = _ :=
    hretrieved.artifactBoundaryIssues_eq rfl ⟨rfl, rfl⟩ _
  rw [decide_eq_false hnot, hsame] at hissues
  have hdiffer : (BoundaryFlags.clear.withUnverified (!false)).issues ≠ [] := by decide
  exact hdiffer (Except.ok.inj hissues).symm

end ProofFlow
