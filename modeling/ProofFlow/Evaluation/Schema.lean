import ProofFlow.Evaluation.Contract

/-!
# The schema of a run ledger

`run-ledger.schema.json` as a decoder: a document that satisfies the schema is read into the fields
that the verifier looks at, and every other document is refused.
-/

namespace ProofFlow.Evaluation

/-- What the program uses of Python's floats; a float is given by a numeral that denotes it. -/
structure Floats where
  isfinite : Str → Bool
  /-- The integer that the float is equal to. -/
  integer : Str → Option ℤ
  nonnegative : Str → Bool
  /-- `repr`. -/
  repr : Str → Str

/-- An entry of a ledger, with the members it was read from. -/
structure Entry extends EntryBody where
  entryIndex : ℕ
  previousEntrySha256 : PyStr
  entrySha256 : PyStr
  members : List (PyStr × Doc)

/-- A ledger that satisfies the schema. -/
structure Ledger where
  replicateIds : { l : List ℕ // l.Nodup }
  attempts : { l : List ℕ // l.Nodup }
  entries : List Entry
  ledgerRootSha256 : PyStr
  fixtureManifestSha256 : PyStr
  scenarioManifestSha256 : PyStr
  repositoryCommit : PyStr
  members : List (PyStr × Doc)

/-! ## Patterns -/

/-- `^[A-Za-z0-9][A-Za-z0-9_.:-]{0,127}$`. -/
def matchesIdentifier (s : PyStr) : Bool :=
  match unterminated s with
  | [] => false
  | c :: rest =>
    (isUpperPoint c || isLowerPoint c || isDigitPoint c) && decide (rest.length ≤ 127) &&
      rest.all fun c => isUpperPoint c || isLowerPoint c || isDigitPoint c || c == 95 || c == 46 ||
        c == 58 || c == 45

/-- `^[a-z0-9_]+$`. -/
def matchesScenarioId (s : PyStr) : Bool :=
  unterminated s ≠ [] &&
    (unterminated s).all fun c => isLowerPoint c || isDigitPoint c || c == 95

/-- `[0-9a-f]{n}`. -/
def isHexRun (n : ℕ) (s : PyStr) : Bool :=
  decide (s.length = n) && s.all fun c => isDigitPoint c || (97 ≤ c.val && c.val ≤ 102)

/-- `^sha256:[0-9a-f]{64}$`. -/
def matchesDigest (s : PyStr) : Bool :=
  (pyLit "sha256:").isPrefixOf (unterminated s) && isHexRun 64 ((unterminated s).drop 7)

/-- `^[0-9a-f]{40}$`. -/
def matchesCommit (s : PyStr) : Bool := isHexRun 40 (unterminated s)

/-- `^[A-Z]{3}$`. -/
def matchesCurrency (s : PyStr) : Bool :=
  decide ((unterminated s).length = 3) && (unterminated s).all isUpperPoint

/-- `minLength: 1`. -/
def isFilled (s : PyStr) : Bool := s ≠ []

/-! ## Equality of documents -/

/-- Two floats are equal. -/
def Floats.same (F : Floats) (s t : Str) : Bool :=
  match F.integer s, F.integer t with
  | some a, some b => a == b
  | none, none => F.repr s == F.repr t
  | _, _ => false

mutual

/-- Equality as `uniqueItems` has it: numbers by value, objects whatever the order of members. -/
def sameDoc (F : Floats) : Doc → Doc → Bool
  | .null, .null => true
  | .bool a, .bool b => a == b
  | .int a, .int b => a == b
  | .int a, .float t => F.integer t == some a
  | .float s, .int b => F.integer s == some b
  | .float s, .float t => F.same s t
  | .str s, .str t => s == t
  | .arr l, .arr l' => sameItems F l l'
  | .obj m, .obj m' => decide (m.length = m'.length) && sameMembers F m m'
  | _, _ => false

def sameItems (F : Floats) : List Doc → List Doc → Bool
  | [], [] => true
  | v :: l, v' :: l' => sameDoc F v v' && sameItems F l l'
  | _, _ => false

def sameMembers (F : Floats) : List (PyStr × Doc) → List (PyStr × Doc) → Bool
  | [], _ => true
  | (k, v) :: l, m =>
    (match m.lookup k with
      | some v' => sameDoc F v v'
      | none => false) && sameMembers F l m

end

/-- `uniqueItems`. -/
def uniqueItems (F : Floats) (l : List Doc) : Prop := l.Pairwise fun v v' => sameDoc F v v' = false

instance (F : Floats) (l : List Doc) : Decidable (uniqueItems F l) :=
  inferInstanceAs (Decidable (l.Pairwise _))

/-! ## Decoders -/

/-- A sub-schema: a document that satisfies it is read, another one is refused. -/
abbrev Schema (α : Type) := Doc → Option α

namespace Schema

variable {α : Type}

def string : Schema PyStr
  | .str s => some s
  | _ => none

/-- A string with a property. -/
def stringWith (p : PyStr → Bool) : Schema { s : PyStr // p s = true } := fun v =>
  (string v).bind fun s => if h : p s = true then some ⟨s, h⟩ else none

/-- A string with a property that is not kept. -/
def matching (p : PyStr → Bool) : Schema PyStr := fun v => (stringWith p v).map Subtype.val

def boolean : Schema Bool
  | .bool b => some b
  | _ => none

def nullable (d : Schema α) : Schema (Option α)
  | .null => some none
  | v => (d v).map some

/-- `enum`, and `const` for a single string. -/
def enumeration (values : List (String × α)) : Schema α := fun v =>
  (string v).bind fun s => (values.find? fun entry => pyLit entry.1 = s).map Prod.snd

def constant (value : String) : Schema Unit := enumeration [(value, ())]

/-- `const: true` and `const: false`. -/
def exactly (b : Bool) : Schema { b' : Bool // b' = b } := fun v =>
  (boolean v).bind fun b' => if h : b' = b then some ⟨b', h⟩ else none

/-- An integer that is not below a bound; a float counts by its value. -/
def integer (F : Floats) (lo : ℕ) : Schema ℕ
  | .int n => if (lo : ℤ) ≤ n then some n.toNat else none
  | .float numeral =>
    (F.integer numeral).bind fun n => if (lo : ℤ) ≤ n then some n.toNat else none
  | _ => none

/-- A number that is not negative. -/
def amount (F : Floats) : Schema Amount
  | .int n => if 0 ≤ n then some (.int n.toNat) else none
  | .float numeral => if F.nonnegative numeral = true then some (.float numeral) else none
  | _ => none

def array (d : Schema α) : Schema (List α)
  | .arr items => items.mapM d
  | _ => none

/-- `uniqueItems` of values that are equal when they are read alike. -/
def distinct [DecidableEq α] (l : List α) : Option { l : List α // l.Nodup } :=
  if h : l.Nodup then some ⟨l, h⟩ else none

def object : Schema (List (PyStr × Doc))
  | .obj members => some members
  | _ => none

/-- An object with the given keys and no others. -/
def closed (keys : List String) (fields : List (PyStr × Doc) → Option α) : Schema α := fun v =>
  (object v).bind fun members =>
    if (members.all fun m => keys.any fun k => pyLit k = m.1) = true then fields members else none

/-- A required member. -/
def field (members : List (PyStr × Doc)) (key : String) (d : Schema α) : Option α :=
  (members.lookup (pyLit key)).bind d

end Schema

open Schema

/-- `#/$defs/issueCode`, and the type of a trace event. -/
def code : Schema Code := stringWith matchesCode

/-- `ARMS`. -/
def arms : List Arm := [.deterministicReference, .singleAgent, .sixAgent]

def armId : Schema Arm := enumeration (arms.map fun a => (a.text, a))

def executionStatus : Schema ExecutionStatus :=
  enumeration [("EXECUTED", .executed), ("NOT_EXECUTED", .notExecuted)]

def status : Schema Status :=
  enumeration [("PASS", .pass), ("FAIL", .fail), ("UNKNOWN", .unknown),
    ("UNSAFE_SUCCESS", .unsafeSuccess)]

def outcomeClass : Schema OutcomeClass := enumeration [("PASS", .pass), ("FAIL", .fail)]

def filledText : Schema { s : PyStr // s ≠ [] } := fun v =>
  (string v).bind fun s => if h : s ≠ [] then some ⟨s, h⟩ else none

/-- An array of codes, none of them twice. -/
def codes : Schema { l : List Code // l.Nodup } := fun v => (array code v).bind distinct

def unsafeSignals : Schema UnsafeSignals :=
  closed unsafeSignalKeys fun m => do
    return {
      humanGateBypassed := ← field m "human_gate_bypassed" boolean
      crossTenantReferenceAccepted := ← field m "cross_tenant_reference_accepted" boolean
      forbiddenExternalSideEffectObserved :=
        ← field m "forbidden_external_side_effect_observed" boolean
      traceIncompleteWithResult := ← field m "trace_incomplete_with_result" boolean }
where
  unsafeSignalKeys := ["human_gate_bypassed", "cross_tenant_reference_accepted",
    "forbidden_external_side_effect_observed", "trace_incomplete_with_result"]

/-- The `result` sub-schema. -/
def result : Schema Result :=
  closed ["execution_status", "outcome_class", "terminal_stage", "issue_codes",
    "approval_required", "external_side_effects_enabled", "value_emitted",
    "artifact_verification_valid", "trace_events", "unsafe_signals"] fun m => do
    let _ ← field m "execution_status" (constant "EXECUTED")
    return {
      outcomeClass := ← field m "outcome_class" outcomeClass
      terminalStage := ← field m "terminal_stage" filledText
      issueCodes := ← field m "issue_codes" codes
      approvalRequired := ← field m "approval_required" boolean
      externalSideEffectsEnabled := ← field m "external_side_effects_enabled" (exactly false)
      valueEmitted := ← field m "value_emitted" boolean
      artifactVerificationValid := ← field m "artifact_verification_valid" (nullable boolean)
      traceEvents := ← field m "trace_events" codes
      unsafeSignals := ← field m "unsafe_signals" unsafeSignals }

def latency (F : Floats) : Schema Latency :=
  closed ["unit", "end_to_end_ms", "active_compute_ms", "human_wait_ms", "complete",
    "unknown_reason"] fun m => do
    let _ ← field m "unit" (constant "milliseconds")
    return {
      endToEndMs := ← field m "end_to_end_ms" (nullable (amount F))
      activeComputeMs := ← field m "active_compute_ms" (nullable (amount F))
      humanWaitMs := ← field m "human_wait_ms" (nullable (amount F))
      complete := ← field m "complete" boolean
      unknownReason := ← field m "unknown_reason" (nullable (matching isFilled)) }

def cost (F : Floats) : Schema Cost :=
  closed ["input_tokens", "output_tokens", "total_tokens", "total_cost", "currency",
    "rate_card_id", "complete", "unknown_reason"] fun m => do
    return {
      inputTokens := ← field m "input_tokens" (nullable (integer F 0))
      outputTokens := ← field m "output_tokens" (nullable (integer F 0))
      totalTokens := ← field m "total_tokens" (nullable (integer F 0))
      totalCost := ← field m "total_cost" (nullable (amount F))
      currency := ← field m "currency" (nullable (matching matchesCurrency))
      rateCardId := ← field m "rate_card_id" (nullable (matching isFilled))
      complete := ← field m "complete" boolean
      unknownReason := ← field m "unknown_reason" (nullable (matching isFilled)) }

/-- `#/$defs/entry`. -/
def entry (F : Floats) (isDateTime : PyStr → Bool) : Schema Entry :=
  closed ["entry_index", "previous_entry_sha256", "entry_sha256", "entry_id", "arm_id",
    "scenario_id", "replicate_id", "attempt", "run_id", "execution_status", "status", "issue_codes",
    "started_at", "finished_at", "fixture_manifest_sha256", "scenario_manifest_sha256",
    "repository_commit", "rule_catalog_sha256", "formula_version", "model_provider_id", "model_id",
    "model_configuration_digest", "agentteams_version", "agentteams_commit",
    "worker_evidence_sha256", "worker_evidence", "result", "latency", "cost"] fun m => do
    let issueCodes ← field m "issue_codes" codes
    return {
      entryIndex := ← field m "entry_index" (integer F 1)
      previousEntrySha256 := ← field m "previous_entry_sha256" (matching matchesDigest)
      entrySha256 := ← field m "entry_sha256" (matching matchesDigest)
      entryId := ← field m "entry_id" (matching matchesIdentifier)
      armId := ← field m "arm_id" armId
      scenarioId := ← field m "scenario_id" (matching matchesScenarioId)
      replicateId := ← field m "replicate_id" (integer F 1)
      attempt := ← field m "attempt" (integer F 1)
      runId := ← field m "run_id" (matching matchesIdentifier)
      executionStatus := ← field m "execution_status" executionStatus
      status := ← field m "status" status
      issueCodes := issueCodes.val
      startedAt := ← field m "started_at" (matching isDateTime)
      finishedAt := ← field m "finished_at" (matching isDateTime)
      fixtureManifestSha256 := ← field m "fixture_manifest_sha256" (matching matchesDigest)
      scenarioManifestSha256 := ← field m "scenario_manifest_sha256" (matching matchesDigest)
      repositoryCommit := ← field m "repository_commit" (matching matchesCommit)
      ruleCatalogSha256 := ← field m "rule_catalog_sha256" (matching matchesDigest)
      formulaVersion := ← field m "formula_version" (matching matchesIdentifier)
      modelProviderId := ← field m "model_provider_id" (nullable (matching isFilled))
      modelId := ← field m "model_id" (nullable (matching isFilled))
      modelConfigurationDigest :=
        ← field m "model_configuration_digest" (nullable (matching matchesDigest))
      agentteamsVersion := ← field m "agentteams_version" (nullable (matching isFilled))
      agentteamsCommit := ← field m "agentteams_commit" (nullable (matching matchesCommit))
      workerEvidenceSha256 := ← field m "worker_evidence_sha256" (nullable (matching matchesDigest))
      workerEvidence := ← field m "worker_evidence" (nullable object)
      result := ← field m "result" (nullable result)
      latency := ← field m "latency" (latency F)
      cost := ← field m "cost" (cost F)
      members := m }

/-- `#/$defs/coveragePlan`: the replicates and the attempts. -/
def coveragePlan (F : Floats) : Schema ({ l : List ℕ // l.Nodup } × { l : List ℕ // l.Nodup }) :=
  closed ["replicate_ids", "attempts", "attempts_are_retries_not_replicates",
    "attempt_selection_policy", "scope"] fun m => do
    let replicateIds ← field m "replicate_ids" (plan F)
    let attempts ← field m "attempts" (plan F)
    let _ ← field m "attempts_are_retries_not_replicates" (exactly true)
    let _ ← field m "attempt_selection_policy" (constant
      "UNSAFE_SUCCESS_PRECEDENCE_THEN_HIGHEST_TERMINAL_ATTEMPT_ELSE_HIGHEST_ATTEMPT")
    let _ ← field m "scope" (constant "ALL_APPLICABLE_ARMS_AND_SCENARIOS")
    return (replicateIds, attempts)
where
  plan (F : Floats) : Schema { l : List ℕ // l.Nodup } := fun v =>
    (array (integer F 1) v).bind fun l => if l = [] then none else distinct l

/-- `#/$defs/ledgerProvenance`: the two digests and the commit. -/
def ledgerProvenance (isDateTime : PyStr → Bool) : Schema (PyStr × PyStr × PyStr) :=
  closed ["fixture_manifest_sha256", "scenario_manifest_sha256", "repository_commit",
    "collector_version", "recorded_at"] fun m => do
    let fixture ← field m "fixture_manifest_sha256" (matching matchesDigest)
    let scenario ← field m "scenario_manifest_sha256" (matching matchesDigest)
    let commit ← field m "repository_commit" (matching matchesCommit)
    let _ ← field m "collector_version" (matching isFilled)
    let _ ← field m "recorded_at" (matching isDateTime)
    return (fixture, scenario, commit)

/-- `minItems: 1` and `uniqueItems` of the entries. -/
def entries (F : Floats) (isDateTime : PyStr → Bool) : Schema (List Entry)
  | .arr items =>
    if items = [] ∨ ¬ uniqueItems F items then none else items.mapM (entry F isDateTime)
  | _ => none

/-- The schema of a ledger. -/
def ledger (F : Floats) (isDateTime : PyStr → Bool) : Schema Ledger :=
  closed ["schema_version", "ledger_id", "append_only", "entry_key", "coverage_plan", "entries",
    "ledger_root_sha256", "provenance"] fun m => do
    let _ ← field m "schema_version" (constant "proofflow.evaluation-run-ledger/v2")
    let _ ← field m "ledger_id" (matching matchesIdentifier)
    let _ ← field m "append_only" (exactly true)
    let _ ← field m "entry_key" (constant "arm_id+scenario_id+replicate_id+attempt")
    let (replicateIds, attempts) ← field m "coverage_plan" (coveragePlan F)
    let entries ← field m "entries" (entries F isDateTime)
    let root ← field m "ledger_root_sha256" (matching matchesDigest)
    let (fixture, scenario, commit) ← field m "provenance" (ledgerProvenance isDateTime)
    return {
      replicateIds := replicateIds
      attempts := attempts
      entries := entries
      ledgerRootSha256 := root
      fixtureManifestSha256 := fixture
      scenarioManifestSha256 := scenario
      repositoryCommit := commit
      members := m }

end ProofFlow.Evaluation
