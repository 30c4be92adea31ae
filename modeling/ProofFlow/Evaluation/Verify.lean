import ProofFlow.Evaluation.Classify
import ProofFlow.Evaluation.Select
import ProofFlow.Kit.Log
import ProofFlow.Python.JsonDump
import ProofFlow.Value
import ProofFlow.Wire

/-!
# The independent verifier

`verify_run_ledger` reads a ledger as strict JSON and by its schema, then collects reason codes: in
a pass over the entries, in a pass over the planned attempts and in a pass over the pairs.  A ledger
without a reason is verified.  The passes may raise, since a digest is taken of documents that have
no encoding and two timestamps are compared that have no order.
-/

namespace ProofFlow.Evaluation

open Kit

/-! ## What the verifier depends on -/

/-- The frozen protocol as it is checked in. -/
structure Protocol where
  scenarios : List Scenario
  ruleCatalogSha256 : PyStr
  formulaVersion : PyStr
  /-- `fixture_manifest_digest()`. -/
  fixtureManifestSha256 : PyStr
  /-- The digest of `scenarios.json`. -/
  scenarioManifestSha256 : PyStr
  /-- `validate_fixture_manifest()` raises nothing. -/
  fixtureValid : Bool
  ids_nodup : (scenarios.map Scenario.id).Nodup
  arms_nodup : ∀ s ∈ scenarios, s.armIds.val.Nodup

/-- What the verifier calls. -/
structure Verifier where
  platform : Platform
  floats : Floats
  protocol : Protocol
  /-- The `date-time` format of the schema. -/
  isDateTime : PyStr → Bool
  /-- `datetime.fromisoformat`; `none` is a `ValueError`. -/
  fromIsoformat : PyStr → Option DateTime
  /-- `worker-run-evidence.schema.json` has no error for the evidence. -/
  workerSchema : List (PyStr × Doc) → Bool
  /-- The calls of `_finite` that may be open at once.  The validator of the schema runs on the same
  stack, and opens more than six. -/
  finiteCalls : ℕ
  finiteCalls_ge : 6 ≤ finiteCalls
  /-- `gate_worker_execution_evidence` with the arm, the scenario and the commit of an entry. -/
  gateWorkerExecutionEvidence : List (PyStr × Doc) → Arm → PyStr → PyStr → Except Fault GateStatus

/-- `ledger`: a mapping that was loaded elsewhere, or a JSON text. -/
inductive LedgerInput where
  | missing
  | bytes (b : Bytes)
  | text (s : PyStr)
  | mapping (members : List (PyStr × Doc))

/-- `ledger is None`. -/
def LedgerInput.isMissing : LedgerInput → Bool
  | .missing => true
  | _ => false

inductive VerificationStatus where
  | verified
  | unknown
  deriving DecidableEq

/-- The returned dictionary. -/
structure Verification where
  status : VerificationStatus
  reasonCodes : List String
  entriesVerified : Option ℕ
  deriving DecidableEq

/-- `_result("UNKNOWN", *reason_codes)`. -/
def unknownResult (reasons : List String) : Verification where
  status := .unknown
  reasonCodes := reasons.toFinset.sort (· ≤ ·)
  entriesVerified := none

/-- `_result("VERIFIED", entries_verified=n)`. -/
def verifiedResult (n : ℕ) : Verification where
  status := .verified
  reasonCodes := []
  entriesVerified := some n

/-! ## Strict JSON -/

/-- `_duplicate_guard` and `_reject_constant`. -/
def strictHooks : JsonHooks where
  pairs members := decide (members.map Prod.fst).Nodup
  constant _ := false

mutual

/-- `_finite`, which raises at the first thing that it refuses; `calls` may be open at once. -/
def finite (F : Floats) (calls : ℕ) (v : Doc) : Except Fault Unit :=
  if calls = 0 then .error .recursionError
  else match v with
    | .float numeral => if F.isfinite numeral = true then .ok () else .error .valueError
    | .constant _ => .error .valueError
    | .arr items => finiteItems F (calls - 1) items
    | .obj members => finiteMembers F (calls - 1) members
    | _ => .ok ()

def finiteItems (F : Floats) (calls : ℕ) : List Doc → Except Fault Unit
  | [] => .ok ()
  | v :: l => do
    finite F calls v
    finiteItems F calls l

def finiteMembers (F : Floats) (calls : ℕ) : List (PyStr × Doc) → Except Fault Unit
  | [] => .ok ()
  | (_, v) :: l => do
    finite F calls v
    finiteMembers F calls l

end

mutual

/-- The document has no number that is not finite. -/
def isFiniteDoc (F : Floats) : Doc → Bool
  | .float numeral => F.isfinite numeral
  | .constant _ => false
  | .arr items => itemsFinite F items
  | .obj members => membersFinite F members
  | _ => true

def itemsFinite (F : Floats) : List Doc → Bool
  | [] => true
  | v :: l => isFiniteDoc F v && itemsFinite F l

def membersFinite (F : Floats) : List (PyStr × Doc) → Bool
  | [] => true
  | (_, v) :: l => isFiniteDoc F v && membersFinite F l

end

mutual

/-- Every integer of the document has a text. -/
def hasShortInts : Doc → Bool
  | .int n => decide ((decimalText n.natAbs).length ≤ maxStrDigits)
  | .arr items => itemsShort items
  | .obj members => membersShort members
  | _ => true

def itemsShort : List Doc → Bool
  | [] => true
  | v :: l => hasShortInts v && itemsShort l

def membersShort : List (PyStr × Doc) → Bool
  | [] => true
  | (_, v) :: l => hasShortInts v && membersShort l

end

/-- `json.loads` of a text, with the hooks. -/
def loadText (recursionLimit : ℕ) (s : PyStr) : Except JsonError Doc :=
  if s.head? = some 0xfeff then .error .valueError
  else scanDocument strictHooks recursionLimit s

/-- `_strict_json` of what `json.loads` returns or raises. -/
def strictJson (F : Floats) (calls : ℕ) : Except JsonError Doc → Except Fault Doc
  | .error .recursionError => .error .recursionError
  | .error .valueError => .error .valueError
  | .ok v => do
    finite F calls v
    return v

section Verifier

variable (V : Verifier)

/-- `_canonical_digest`.  A document with several faults raises for the first of them; here the
recursion limit comes first. -/
def Verifier.canonicalDigest (v : Doc) : Except Fault PyStr :=
  if V.platform.recursionLimit < v.depth then .error .recursionError
  else if isFiniteDoc V.floats v && hasShortInts v then
    match scalars (v.dumps V.floats.repr) with
    | some text => .ok (toPyStr (sha256Bytes V.platform (encodeUtf8 text)).val)
    | none => .error .valueError
  else .error .valueError

/-- The document of a call, whatever form it is given in.  The decoder has a recursion limit of its
own; `_strict_json` is one more call on the stack of `_finite`. -/
def Verifier.parse : LedgerInput → Except Fault Doc
  | .missing => .ok .null
  | .bytes b => strictJson V.floats (V.finiteCalls - 1)
    (jsonLoadsWith strictHooks V.platform.recursionLimit b)
  | .text s => strictJson V.floats (V.finiteCalls - 1) (loadText V.platform.recursionLimit s)
  | .mapping members => do
    finite V.floats V.finiteCalls (.obj members)
    return .obj members

/-! ## The pass over the entries -/

/-- `GENESIS_ENTRY_SHA256`. -/
def genesisEntrySha256 : PyStr := pyLit "sha256:" ++ List.replicate 64 48

/-- `if c: reasons.append(text)`. -/
def reasonIf (c : Prop) [Decidable c] (text : String) : List String := if c then [text] else []

@[simp] theorem reasonIf_eq_nil {c : Prop} [Decidable c] {text : String} :
    reasonIf c text = [] ↔ ¬ c := by
  unfold reasonIf
  split_ifs with h <;> simp [h]

/-- The locals of the loop. -/
structure Scan where
  expectedIndex : ℕ
  reasons : List String
  seenKeys : List EntryKey
  seenEntries : List PyStr
  seenRuns : List PyStr
  /-- The entries in `attempt_groups`. -/
  grouped : List Entry
  previous : PyStr

/-- `arm_id in ("single_agent", "six_agent")`. -/
def Arm.isWorker (a : Arm) : Prop := a = .singleAgent ∨ a = .sixAgent

instance (a : Arm) : Decidable a.isWorker := inferInstanceAs (Decidable (_ ∨ _))

/-- The entry without its own digest. -/
def Entry.hashed (e : Entry) : Doc := .obj (e.members.filter fun m => m.1 ≠ pyLit "entry_sha256")

/-- The checks of an entry against the ones before it. -/
def identityReasons (s : Scan) (e : Entry) (digest : PyStr) : List String :=
  reasonIf (e.entryIndex ≠ s.expectedIndex) "LEDGER_ENTRY_SEQUENCE_INVALID" ++
  reasonIf (e.previousEntrySha256 ≠ s.previous) "LEDGER_PREVIOUS_HASH_MISMATCH" ++
  reasonIf (e.entrySha256 ≠ digest) "LEDGER_ENTRY_HASH_MISMATCH" ++
  reasonIf (e.key ∈ s.seenKeys) "LEDGER_ENTRY_KEY_NOT_UNIQUE" ++
  reasonIf (e.entryId ∈ s.seenEntries) "LEDGER_ENTRY_ID_NOT_UNIQUE" ++
  reasonIf (e.runId ∈ s.seenRuns) "LEDGER_RUN_ID_NOT_UNIQUE"

/-- One of the model fields of the entry is not null. -/
def Entry.namesModel (e : Entry) : Bool :=
  e.modelProviderId.isSome || e.modelId.isSome || e.modelConfigurationDigest.isSome ||
    e.agentteamsVersion.isSome || e.agentteamsCommit.isSome

/-- The checks of an entry against the protocol and the root of the ledger. -/
def bindingReasons (l : Ledger) (e : Entry) (scenario : Scenario) : List String :=
  reasonIf (e.armId ∉ scenario.armIds.val) "ARM_NOT_ALLOWED_FOR_SCENARIO" ++
  reasonIf (e.fixtureManifestSha256 ≠ V.protocol.fixtureManifestSha256)
    "ENTRY_FIXTURE_MANIFEST_DIGEST_MISMATCH" ++
  reasonIf (e.scenarioManifestSha256 ≠ V.protocol.scenarioManifestSha256)
    "ENTRY_SCENARIO_MANIFEST_DIGEST_MISMATCH" ++
  reasonIf (e.repositoryCommit ≠ l.repositoryCommit) "ENTRY_SOURCE_COMMIT_MISMATCH" ++
  reasonIf (e.ruleCatalogSha256 ≠ V.protocol.ruleCatalogSha256) "RULE_CATALOG_DIGEST_MISMATCH" ++
  reasonIf (e.formulaVersion ≠ V.protocol.formulaVersion) "FORMULA_VERSION_MISMATCH" ++
  reasonIf ((e.executionStatus = .notExecuted ∨ ¬ e.armId.isWorker) ∧ e.namesModel = true)
    "UNEXECUTED_MODEL_PROVENANCE_NOT_NULL"

/-- `text.replace("Z", "+00:00")`. -/
def replaceZulu (s : PyStr) : PyStr := s.flatMap fun c => if c = 90 then pyLit "+00:00" else [c]

/-- `a < b`. -/
def isBefore (a b : DateTime) : Except Fault Bool :=
  if a.utcoffset.isSome = b.utcoffset.isSome then .ok (decide (a.instant < b.instant))
  else .error .typeError

def timestampReasons (e : Entry) : Except Fault (List String) :=
  match V.fromIsoformat (replaceZulu e.startedAt), V.fromIsoformat (replaceZulu e.finishedAt) with
  | some started, some finished =>
    (isBefore finished started).map fun before =>
      reasonIf (before = true) "ENTRY_TIMESTAMP_ORDER_INVALID"
  | _, _ => .ok ["ENTRY_TIMESTAMP_INVALID"]

/-- `_measurement_reasons`, where `present` says which of the fields are not null. -/
def measurementReasons (kind : String) (complete : Bool) (present : List Bool)
    (unknownReason : Option PyStr) : List String :=
  if complete = true ∧ (false ∈ present ∨ unknownReason.isSome = true) then
    [kind ++ "_COMPLETENESS_INVALID"]
  else if complete = false ∧ (true ∈ present ∨ unknownReason.isNone = true) then
    [kind ++ "_UNKNOWN_SEMANTICS_INVALID"]
  else []

def latencyReasons (m : Latency) : List String :=
  measurementReasons "LATENCY" m.complete
    [m.endToEndMs.isSome, m.activeComputeMs.isSome, m.humanWaitMs.isSome] m.unknownReason

def costReasons (m : Cost) : List String :=
  measurementReasons "COST" m.complete
    [m.inputTokens.isSome, m.outputTokens.isSome, m.totalTokens.isSome, m.totalCost.isSome,
      m.currency.isSome, m.rateCardId.isSome] m.unknownReason

/-- `value == text`, where a missing key reads as null. -/
def sameText : Option Doc → Option PyStr → Bool
  | none, none => true
  | some .null, none => true
  | some (.str s), some t => decide (s = t)
  | _, _ => false

/-- `value.get(key)`. -/
def member (members : List (PyStr × Doc)) (key : String) : Option Doc := members.lookup (pyLit key)

/-- `value` if it is a mapping. -/
def mapping? : Option Doc → Option (List (PyStr × Doc))
  | some (.obj members) => some members
  | _ => none

/-- The evidence is about the run of the entry. -/
def bindsEntry (evidence : List (PyStr × Doc)) (e : Entry) : Bool :=
  sameText (member evidence "arm_id") (some (pyLit e.armId.text)) &&
  sameText (member evidence "scenario_id") (some e.scenarioId) &&
  sameText (member evidence "run_id") (some e.runId) &&
  sameText (member evidence "fixture_manifest_sha256") (some e.fixtureManifestSha256) &&
  sameText (member evidence "scenario_manifest_sha256") (some e.scenarioManifestSha256) &&
  sameText (member evidence "rule_catalog_sha256") (some e.ruleCatalogSha256) &&
  sameText (member evidence "formula_version") (some e.formulaVersion) &&
  match mapping? (member evidence "model"), mapping? (member evidence "provenance") with
  | some model, some provenance =>
    sameText (member provenance "repository_commit") (some e.repositoryCommit) &&
    sameText (member model "provider_id") e.modelProviderId &&
    sameText (member model "model_id") e.modelId &&
    sameText (member model "configuration_digest") e.modelConfigurationDigest &&
    sameText (member provenance "agentteams_version") e.agentteamsVersion &&
    sameText (member provenance "agentteams_commit") e.agentteamsCommit
  | _, _ => false

/-- `EXPECTED_AGENTTEAMS_VERSION`. -/
def expectedAgentteamsVersion : PyStr := pyLit "v1.2.2"

/-- `EXPECTED_AGENTTEAMS_COMMIT`. -/
def expectedAgentteamsCommit : PyStr := pyLit "849182af8e017168a5a200a87b1062142caf462d"

/-- The digest of the evidence; a document without an encoding is no exception here. -/
def workerHashReasons (evidence : List (PyStr × Doc)) (sha : PyStr) : Except Fault (List String) :=
  match V.canonicalDigest (.obj evidence) with
  | .ok digest => .ok (reasonIf (digest ≠ sha) "WORKER_EVIDENCE_HASH_MISMATCH")
  | .error .valueError => .ok ["WORKER_EVIDENCE_HASH_INVALID", "WORKER_EVIDENCE_HASH_MISMATCH"]
  | .error fault => .error fault

def workerReasons (e : Entry) : Except Fault (List String) :=
  if e.executionStatus = .notExecuted ∨ ¬ e.armId.isWorker then
    .ok (reasonIf (e.workerEvidence.isSome = true ∨ e.workerEvidenceSha256.isSome = true)
      "UNEXECUTED_WORKER_EVIDENCE_NOT_NULL")
  else match e.workerEvidence, e.workerEvidenceSha256 with
    | some evidence, some sha => do
      let hash ← workerHashReasons V evidence sha
      let gate ← V.gateWorkerExecutionEvidence evidence e.armId e.scenarioId e.repositoryCommit
      return hash ++
        reasonIf (V.workerSchema evidence = false) "WORKER_EVIDENCE_SCHEMA_INVALID" ++
        reasonIf (bindsEntry evidence e = false) "WORKER_EVIDENCE_BINDING_MISMATCH" ++
        reasonIf (e.modelConfigurationDigest = none) "WORKER_MODEL_PROVENANCE_MISSING" ++
        reasonIf (e.agentteamsVersion ≠ some expectedAgentteamsVersion)
          "AGENTTEAMS_VERSION_MISMATCH" ++
        reasonIf (e.agentteamsCommit ≠ some expectedAgentteamsCommit)
          "AGENTTEAMS_COMMIT_MISMATCH" ++
        reasonIf (gate ≠ .ready) "WORKER_EVIDENCE_SEMANTIC_INVALID"
    | _, _ => .ok ["EXECUTED_WORKER_EVIDENCE_MISSING"]

/-- The checks of an entry of a known scenario. -/
def contractReasons (l : Ledger) (e : Entry) (scenario : Scenario) : Except Fault
    (List String) := do
  let timestamps ← timestampReasons V e
  let worker ← workerReasons V e
  return bindingReasons V l e scenario ++ timestamps ++ resultReasons e.toEntryBody scenario ++
    latencyReasons e.latency ++ costReasons e.cost ++ worker

/-- `scenarios.get(scenario_id)`. -/
def Protocol.scenario? (p : Protocol) (scenarioId : PyStr) : Option Scenario :=
  p.scenarios.find? fun s => s.id = scenarioId

/-- What one pass of the loop appends to the reasons. -/
def entryReasons (l : Ledger) (s : Scan) (e : Entry) : Except Fault (List String) := do
  let digest ← V.canonicalDigest e.hashed
  match V.protocol.scenario? e.scenarioId with
  | none => return identityReasons s e digest ++ ["UNKNOWN_SCENARIO"]
  | some scenario =>
    let contract ← contractReasons V l e scenario
    return identityReasons s e digest ++ contract

/-- One pass of the loop.  An entry of an unknown scenario is in no group. -/
def scanEntry (l : Ledger) (s : Scan) (e : Entry) : Except Fault Scan := do
  let reasons ← entryReasons V l s e
  return {
    expectedIndex := s.expectedIndex + 1
    reasons := s.reasons ++ reasons
    seenKeys := s.seenKeys ++ [e.key]
    seenEntries := s.seenEntries ++ [e.entryId]
    seenRuns := s.seenRuns ++ [e.runId]
    grouped :=
      if (V.protocol.scenario? e.scenarioId).isSome then s.grouped ++ [e] else s.grouped
    previous := e.entrySha256 }

def Scan.start (reasons : List String) : Scan where
  expectedIndex := 1
  reasons := reasons
  seenKeys := []
  seenEntries := []
  seenRuns := []
  grouped := []
  previous := genesisEntrySha256

/-! ## The passes over the plan -/

/-- The two lists are the same as sets. -/
def sameArms (l l' : List Arm) : Prop := l ⊆ l' ∧ l' ⊆ l

instance (l l' : List Arm) : Decidable (sameArms l l') := inferInstanceAs (Decidable (_ ∧ _))

/-- `expected_keys`. -/
def expectedKeys (l : Ledger) : List EntryKey :=
  V.protocol.scenarios.flatMap fun s => s.armIds.val.flatMap fun a =>
    l.replicateIds.val.flatMap fun r => l.attempts.val.map fun t => (a, s.id, r, t)

def coverageReasons (l : Ledger) (seenKeys : List EntryKey) : List String :=
  reasonIf (∃ k ∈ expectedKeys V l, k ∉ seenKeys) "LEDGER_RUN_PLAN_COVERAGE_MISSING" ++
  reasonIf (∃ k ∈ seenKeys, k ∉ expectedKeys V l) "LEDGER_RUN_PLAN_ENTRY_UNEXPECTED"

/-- The arms in a group of `attempt_groups`. -/
def attemptArms (grouped : List Entry) (scenarioId : PyStr) (replicateId attempt : ℕ) : List Arm :=
  (grouped.filter fun e => e.scenarioId = scenarioId ∧ e.replicateId = replicateId ∧
    e.attempt = attempt).map fun e => e.armId

def attemptReasons (l : Ledger) (grouped : List Entry) : List String :=
  V.protocol.scenarios.flatMap fun s => l.replicateIds.val.flatMap fun r =>
    l.attempts.val.flatMap fun t =>
      reasonIf (¬ sameArms (attemptArms grouped s.id r t) s.armIds.val) "ATTEMPT_ARM_SET_MISMATCH"

/-- `selected_pairs[(scenario_id, replicate_id)]`. -/
def selectedPair (selected : List Entry) (scenarioId : PyStr) (replicateId : ℕ) : List Entry :=
  selected.filter fun e => e.scenarioId = scenarioId ∧ e.replicateId = replicateId

/-- The entries of the Worker arms in a pair. -/
def llmPair (pair : List Entry) : List Entry := pair.filter fun e => e.armId.isWorker

/-- The model configurations of a pair in which every Worker arm was executed. -/
def modelReasons (pair : List Entry) : List String :=
  if llmPair pair ≠ [] ∧ ∀ e ∈ llmPair pair, e.executionStatus = .executed then
    if none ∈ (llmPair pair).map fun e => e.modelConfigurationDigest then
      ["PAIR_LLM_MODEL_CONFIGURATION_MISSING"]
    else reasonIf (((llmPair pair).map fun e => e.modelConfigurationDigest).dedup.length ≠ 1)
      "PAIR_LLM_MODEL_CONFIGURATION_MISMATCH"
  else []

def pairReasons (scenario : Scenario) (pair : List Entry) : List String :=
  if ¬ sameArms (pair.map fun e => e.armId) scenario.armIds.val then ["PAIR_ARM_SET_MISMATCH"]
  else
    reasonIf ((pair.map fun e => e.ruleCatalogSha256).dedup.length ≠ 1)
      "PAIR_RULE_CATALOG_MISMATCH" ++
    reasonIf ((pair.map fun e => e.formulaVersion).dedup.length ≠ 1)
      "PAIR_FORMULA_VERSION_MISMATCH" ++
    modelReasons pair

def pairingReasons (l : Ledger) : List String :=
  V.protocol.scenarios.flatMap fun s => l.replicateIds.val.flatMap fun r =>
    pairReasons s (selectedPair (selectReplicateResults l.entries) s.id r)

/-! ## The verifier -/

/-- The ledger without its own digest. -/
def Ledger.hashed (l : Ledger) : Doc :=
  .obj (l.members.filter fun m => m.1 ≠ pyLit "ledger_root_sha256")

/-- The checks of the root's provenance. -/
def provenanceReasons (l : Ledger) (expectedRepositoryCommit : Option PyStr) : List String :=
  reasonIf (l.fixtureManifestSha256 ≠ V.protocol.fixtureManifestSha256)
    "FIXTURE_MANIFEST_DIGEST_MISMATCH" ++
  reasonIf (l.scenarioManifestSha256 ≠ V.protocol.scenarioManifestSha256)
    "SCENARIO_MANIFEST_DIGEST_MISMATCH" ++
  match expectedRepositoryCommit with
  | none => ["SOURCE_COMMIT_EXPECTATION_MISSING"]
  | some commit => reasonIf (l.repositoryCommit ≠ commit) "SOURCE_COMMIT_MISMATCH"

/-- The reasons that `verify_run_ledger` has for a ledger that satisfies the schema. -/
def ledgerReasons (l : Ledger) (expectedRepositoryCommit : Option PyStr) :
    Except Fault (List String) := do
  let scan ← l.entries.foldlM (scanEntry V l)
    (Scan.start (provenanceReasons V l expectedRepositoryCommit))
  let root ← V.canonicalDigest l.hashed
  return scan.reasons ++ coverageReasons V l scan.seenKeys ++ attemptReasons V l scan.grouped ++
    pairingReasons V l ++ reasonIf (l.ledgerRootSha256 ≠ root) "LEDGER_ROOT_HASH_MISMATCH"

/-- The ledger that a document is read as: the schema, after the check that it is a mapping. -/
def Verifier.schema (v : Doc) : Option Ledger := ledger V.floats V.isDateTime v

/-- `verify_run_ledger`. -/
def verifyRunLedger (input : LedgerInput) (expectedRepositoryCommit : Option PyStr) :
    Except Fault Verification :=
  Flow.finish do
    Flow.returnIf (input.isMissing = true) (.ok (unknownResult ["LEDGER_MISSING"]))
    let parsed ← Flow.tryElse (· == .valueError) (V.parse input)
      (.ok (unknownResult ["LEDGER_JSON_INVALID"]))
    let l ← Flow.orReturn (V.schema parsed) (.ok (unknownResult ["LEDGER_SCHEMA_INVALID"]))
    Flow.returnIf (V.protocol.fixtureValid = false)
      (.ok (unknownResult ["FIXTURE_MANIFEST_INVALID"]))
    let reasons ← Flow.raising (ledgerReasons V l expectedRepositoryCommit)
    Flow.returnIf (reasons ≠ []) (.ok (unknownResult reasons))
    return .ok (verifiedResult l.entries.length)

end Verifier

end ProofFlow.Evaluation
