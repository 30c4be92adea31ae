import ProofFlow.Artifacts
import ProofFlow.Kit.Flow

/-!
# Rules

`rule_retrieve` selects the records of the server's catalog that are active for a jurisdiction and a
date, one issue at a time, and returns a sealed citation of each together with a receipt of the
query. This file also has what the skills share: identifiers and metadata of artifacts, and the
result for a caller that does not own a skill.
-/

namespace ProofFlow

open Kit

/-! ## Results of a skill -/

/-- A `SkillResult` with status `BLOCKED`. -/
def SkillResult.blocked {α : Type} (issues : List Issue) (inputHash : Sha256Text) :
    SkillResult α where
  status := .blocked
  value := none
  issues := issues
  inputHash := inputHash.stripped
  outputHash := none
  emittedRefs := []

/-- `denied`. -/
def denied {α : Type} (P : Platform) (context : SkillContext) (request : Value)
    (expectedIdentity : String) : Except Fault (Option (SkillResult α)) := do
  if context.callerIdentity.val = lit expectedIdentity then return none
  let inputHash ← sha256Digest P request []
  return some (.blocked [Issue.blocker "UNAUTHORIZED_CALLER"
    (context.callerIdentity.val ++ lit " cannot execute a Skill owned by " ++ lit expectedIdentity)
    false] inputHash)

/-- The owner of a skill is not denied. -/
theorem denied_eq_none {α : Type} {P : Platform} {context : SkillContext} {request : Value}
    {expectedIdentity : String} :
    denied (α := α) P context request expectedIdentity = .ok none ↔
      context.callerIdentity.val = lit expectedIdentity := by
  unfold denied
  by_cases h : context.callerIdentity.val = lit expectedIdentity
  · simp [h, pure, Except.pure]
  · simp only [h, if_false, bind_eq_ok, pure, Except.pure, iff_false]
    rintro ⟨_, -, ⟨⟩⟩

/-- Another caller is blocked with an issue and the digest of the request. -/
theorem denied_eq_some {α : Type} {P : Platform} {context : SkillContext} {request : Value}
    {expectedIdentity : String} {result : SkillResult α}
    (h : denied P context request expectedIdentity = .ok (some result)) :
    result.status = .blocked ∧ result.issues ≠ [] ∧ ∃ d, sha256Digest P request [] = .ok d := by
  unfold denied at h
  split at h
  · cases h
  · obtain ⟨d, hd, h⟩ := bind_eq_ok.1 h
    rw [← Option.some.inj (Except.ok.inj h)]
    exact ⟨rfl, List.cons_ne_nil _ _, d, hd⟩

/-- `success`. -/
def success {α : Type} (P : Platform) (request : Value) (dumpValue : α → Value) (value : α)
    (emittedRefs : List Str) : Except Fault (SkillResult α) := do
  let inputHash ← sha256Digest P request []
  let outputHash ← sha256Digest P (dumpValue value) []
  return {
    status := .success
    value := some value
    issues := []
    inputHash := inputHash.stripped
    outputHash := some outputHash.stripped
    emittedRefs := emittedRefs.map stripped }

/-! ## Identifiers and metadata -/

/-- `stable_id`. -/
def stableId (P : Platform) (name : String) (value : Value) : Except Fault Str := do
  let digest ← sha256Digest P value []
  return lit name ++ '-' :: (digest.val.drop 7).take 20

/-- `artifact_meta` with the default classification. -/
def artifactMeta (P : Platform) (name : String) (identity : Filled) (context : SkillContext)
    (now : DateTime) (payloadForId : Value) (sourceRefs : List Stripped) :
    Except Fault ArtifactMeta := do
  let id ← stableId P name payloadForId
  let artifactId ← filled id
  let createdAt ← aware now
  return {
    artifactId := artifactId
    tenantId := context.tenantId
    caseId := context.caseId
    schemaVersion := schemaVersion
    producerIdentity := identity
    traceId := context.traceId
    createdAt := createdAt
    sourceRefs := sourceRefs
    classification := .publicSynthetic
    contentHash := none }

/-! ## The catalog -/

/-- `RuleRecord`. -/
structure RuleRecord where
  ruleId : Stripped
  version : Stripped
  issueCode : Stripped
  title : Stripped
  jurisdiction : Stripped
  effectiveFrom : Date
  effectiveTo : Option Date
  authoritativeSource : Stripped
  locator : Stripped
  statement : Stripped
  deriving DecidableEq

def RuleRecord.dump (r : RuleRecord) : Value :=
  .obj [keyed "rule_id" (.str r.ruleId.val), keyed "version" (.str r.version.val),
    keyed "issue_code" (.str r.issueCode.val), keyed "title" (.str r.title.val),
    keyed "jurisdiction" (.str r.jurisdiction.val), keyed "effective_from" (.date r.effectiveFrom),
    keyed "effective_to" (.date? r.effectiveTo),
    keyed "authoritative_source" (.str r.authoritativeSource.val),
    keyed "locator" (.str r.locator.val), keyed "statement" (.str r.statement.val)]

/-- What `RuleCatalog` has for the skills: its version and its records. -/
structure RuleCatalog where
  catalogVersion : Stripped
  rules : List RuleRecord
  deriving DecidableEq

/-! ## Queries -/

/-- `RuleRetrieveRequest`. -/
structure RuleRetrieveRequest where
  issueCodes : List Stripped
  jurisdiction : Filled
  asOfDate : Date
  length_mem : 1 ≤ issueCodes.length ∧ issueCodes.length ≤ 32
  /-- `require_unique_non_empty_issue_codes`. -/
  unique_non_empty : (∀ c ∈ issueCodes, c.val ≠ []) ∧ issueCodes.Nodup
  deriving DecidableEq

/-- The members of a query. -/
def RuleRetrieveRequest.members (r : RuleRetrieveRequest) : List (Str × Value) :=
  [keyed "issue_codes" (.labels r.issueCodes), keyed "jurisdiction" (.str r.jurisdiction.val),
    keyed "as_of_date" (.date r.asOfDate)]

def RuleRetrieveRequest.dump (r : RuleRetrieveRequest) : Value := .obj r.members

/-- `RuleScopeReceipt`. -/
structure RuleScopeReceipt extends RuleRetrieveRequest where
  catalogVersion : Filled
  ruleQueryInputHash : Sha256Text
  deriving DecidableEq

def RuleScopeReceipt.dump (r : RuleScopeReceipt) : Value :=
  .obj (r.members ++ [keyed "catalog_version" (.str r.catalogVersion.val),
    keyed "rule_query_input_hash" (.str r.ruleQueryInputHash.val)])

/-- `RuleRetrieveOutput`. -/
structure RuleRetrieveOutput where
  citations : List RuleCitation
  missingIssueCodes : List Stripped
  catalogVersion : Stripped
  ruleScope : RuleScopeReceipt

def RuleRetrieveOutput.dump (o : RuleRetrieveOutput) : Value :=
  .obj [keyed "citations" (.arr (o.citations.map Artifact.dump)),
    keyed "missing_issue_codes" (.labels o.missingIssueCodes),
    keyed "catalog_version" (.str o.catalogVersion.val), keyed "rule_scope" o.ruleScope.dump]

/-- `jurisdiction_applies`. -/
def jurisdictionApplies (ruleJurisdiction caseJurisdiction : Str) : Prop :=
  caseJurisdiction = ruleJurisdiction ∨ ruleJurisdiction ++ ['-'] <+: caseJurisdiction

instance (ruleJurisdiction caseJurisdiction : Str) :
    Decidable (jurisdictionApplies ruleJurisdiction caseJurisdiction) :=
  inferInstanceAs (Decidable (_ ∨ _))

/-- The record is active for the query and the issue. -/
def RuleRecord.matches (request : RuleRetrieveRequest) (issueCode : Stripped) (r : RuleRecord) :
    Prop :=
  r.issueCode = issueCode ∧ jurisdictionApplies r.jurisdiction.val request.jurisdiction.val ∧
    ¬ request.asOfDate < r.effectiveFrom ∧ ∀ last ∈ r.effectiveTo, ¬ last < request.asOfDate

instance (request : RuleRetrieveRequest) (issueCode : Stripped) :
    DecidablePred (RuleRecord.matches request issueCode) :=
  fun r => inferInstanceAs (Decidable (r.issueCode = issueCode ∧ _ ∧ _ ∧ _))

/-- `matching_rule_records`. -/
def matchingRuleRecords (request : RuleRetrieveRequest) (issueCode : Stripped)
    (catalog : RuleCatalog) : List RuleRecord :=
  catalog.rules.filter fun r => decide (r.matches request issueCode)

/-! ## Retrieval -/

/-- An agent's identity. -/
def agentIdentity (s : String) (h : strip (lit s) = lit s ∧ lit s ≠ [] := by decide) : Filled :=
  ⟨lit s, h⟩

def ruleAgent : Filled := agentIdentity "PF-A3"

def calculationAgent : Filled := agentIdentity "PF-A4"

/-- The sealed citation of a record. -/
def citationOf (P : Platform) (context : SkillContext) (request : RuleRetrieveRequest)
    (now : DateTime) (issueCode : Stripped) (r : RuleRecord) : Except Fault RuleCitation := do
  let metadata ← artifactMeta P "rule" ruleAgent context now
    (.obj [keyed "rule_id" (.str r.ruleId.val), keyed "version" (.str r.version.val),
      keyed "issue_code" (.str issueCode.val), keyed "as_of_date" (.date request.asOfDate)])
    [r.authoritativeSource]
  let sourceHash ← sha256Digest P r.dump []
  Artifact.sealed P
    { metadata := metadata
      ruleId := r.ruleId
      version := r.version
      issueCode := r.issueCode
      title := r.title
      jurisdiction := r.jurisdiction
      effectiveFrom := r.effectiveFrom
      effectiveTo := r.effectiveTo
      authoritativeSource := r.authoritativeSource
      locator := r.locator
      excerpt := r.statement
      sourceHash := sourceHash }

/-- The citations for one issue. -/
def citationsFor (P : Platform) (context : SkillContext) (request : RuleRetrieveRequest)
    (catalog : RuleCatalog) (now : DateTime) (issueCode : Stripped) :
    Except Fault (List RuleCitation) :=
  (matchingRuleRecords request issueCode catalog).mapM (citationOf P context request now issueCode)

/-- `rule_retrieve`. -/
def ruleRetrieve (P : Platform) (context : SkillContext) (request : RuleRetrieveRequest)
    (catalog : RuleCatalog) (now : DateTime) : Except Fault (SkillResult RuleRetrieveOutput) := do
  if let some result ← denied P context request.dump "PF-A3" then return result
  let found ← request.issueCodes.mapM (citationsFor P context request catalog now)
  let citations := found.flatten
  let missing := request.issueCodes.filter fun c => matchingRuleRecords request c catalog = []
  let queryHash ← sha256Digest P request.dump []
  let catalogVersion ← filled catalog.catalogVersion.val
  let output : RuleRetrieveOutput :=
    { citations := citations
      missingIssueCodes := missing
      catalogVersion := catalog.catalogVersion
      ruleScope := { toRuleRetrieveRequest := request
                     catalogVersion := catalogVersion
                     ruleQueryInputHash := queryHash } }
  let outputHash ← sha256Digest P output.dump []
  return {
    status := if missing ≠ [] then .needsHuman else .success
    value := some output
    issues := missing.map fun c => Issue.blocker "INSUFFICIENT_AUTHORITY"
      (lit "no active authoritative record for issue code " ++ c.val) true
    inputHash := queryHash.stripped
    outputHash := some outputHash.stripped
    emittedRefs := citations.map fun c => stripped (Artifact.ref c) }

end ProofFlow
