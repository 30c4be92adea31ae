import ProofFlow.Evaluation.Verify
import ProofFlow.Kit.Traversal

/-!
# The producer

`build_run_ledger` runs the deterministic adapter of every scenario and writes an entry for each
planned run: for the deterministic arm with its result, for the Worker arms without one.  The
entries are then numbered and chained, each by the digest of the one before it, and the ledger gets
the digest of all the rest.
-/

namespace ProofFlow.Evaluation

open Kit

/-! ## Documents -/

def textDoc? : Option PyStr → Doc
  | none => .null
  | some s => .str s

def natDoc? : Option ℕ → Doc
  | none => .null
  | some n => .int n

def amountDoc? : Option Amount → Doc
  | none => .null
  | some (.int n) => .int n
  | some (.float numeral) => .float numeral

def objectDoc? : Option (List (PyStr × Doc)) → Doc
  | none => .null
  | some members => .obj members

def Latency.doc (m : Latency) : Doc :=
  .obj [(pyLit "unit", .str (pyLit "milliseconds")),
    (pyLit "end_to_end_ms", amountDoc? m.endToEndMs),
    (pyLit "active_compute_ms", amountDoc? m.activeComputeMs),
    (pyLit "human_wait_ms", amountDoc? m.humanWaitMs), (pyLit "complete", .bool m.complete),
    (pyLit "unknown_reason", textDoc? m.unknownReason)]

def Cost.doc (m : Cost) : Doc :=
  .obj [(pyLit "input_tokens", natDoc? m.inputTokens),
    (pyLit "output_tokens", natDoc? m.outputTokens),
    (pyLit "total_tokens", natDoc? m.totalTokens), (pyLit "total_cost", amountDoc? m.totalCost),
    (pyLit "currency", textDoc? m.currency), (pyLit "rate_card_id", textDoc? m.rateCardId),
    (pyLit "complete", .bool m.complete), (pyLit "unknown_reason", textDoc? m.unknownReason)]

/-- The dictionary of `_entry`. -/
def EntryBody.members (e : EntryBody) : List (PyStr × Doc) :=
  [(pyLit "entry_id", .str e.entryId), (pyLit "arm_id", .str (pyLit e.armId.text)),
    (pyLit "scenario_id", .str e.scenarioId), (pyLit "replicate_id", .int e.replicateId),
    (pyLit "attempt", .int e.attempt), (pyLit "run_id", .str e.runId),
    (pyLit "execution_status", .str (pyLit e.executionStatus.text)),
    (pyLit "status", .str (pyLit e.status.text)), (pyLit "issue_codes", codesDoc e.issueCodes),
    (pyLit "started_at", .str e.startedAt), (pyLit "finished_at", .str e.finishedAt),
    (pyLit "fixture_manifest_sha256", .str e.fixtureManifestSha256),
    (pyLit "scenario_manifest_sha256", .str e.scenarioManifestSha256),
    (pyLit "repository_commit", .str e.repositoryCommit),
    (pyLit "rule_catalog_sha256", .str e.ruleCatalogSha256),
    (pyLit "formula_version", .str e.formulaVersion),
    (pyLit "model_provider_id", textDoc? e.modelProviderId), (pyLit "model_id", textDoc? e.modelId),
    (pyLit "model_configuration_digest", textDoc? e.modelConfigurationDigest),
    (pyLit "agentteams_version", textDoc? e.agentteamsVersion),
    (pyLit "agentteams_commit", textDoc? e.agentteamsCommit),
    (pyLit "worker_evidence_sha256", textDoc? e.workerEvidenceSha256),
    (pyLit "worker_evidence", objectDoc? e.workerEvidence),
    (pyLit "result", objectDoc? (e.result.map Result.members)), (pyLit "latency", e.latency.doc),
    (pyLit "cost", e.cost.doc)]

/-! ## The plan -/

/-- The arguments of `build_run_ledger`. -/
structure BuildCall where
  repositoryCommit : PyStr
  replicateId : ℤ
  attempt : ℤ
  replicateIds : Option (List ℤ)
  attempts : Option (List ℤ)
  /-- `recorded_at or datetime.now(UTC)`, in UTC. -/
  recordedAt : UtcTime

/-- The deterministic runs. -/
structure Runner where
  /-- The scenario binds an exact runner for the deterministic arm. -/
  isBound : Scenario → Bool
  /-- `started_at`, the observation of `run_deterministic_scenario` and `finished_at` for a
  replicate and an attempt. -/
  run : Scenario → ℕ → ℕ → Except Fault (UtcTime × Result × UtcTime)

/-- `tuple(ids or (single,))`. -/
def planned (ids : Option (List ℤ)) (single : ℤ) : List ℤ :=
  match ids with
  | some (i :: l) => i :: l
  | _ => [single]

section Producer

variable (V : Verifier) (R : Runner)

/-- What the entries of one call share. -/
def BuildCall.provenance (c : BuildCall) : Provenance where
  fixtureManifestSha256 := V.protocol.fixtureManifestSha256
  scenarioManifestSha256 := V.protocol.scenarioManifestSha256
  repositoryCommit := c.repositoryCommit
  ruleCatalogSha256 := V.protocol.ruleCatalogSha256
  formulaVersion := V.protocol.formulaVersion

/-! ## The entries -/

/-- The entry of the deterministic arm, if the scenario has this arm. -/
def deterministicEntries (c : BuildCall) (s : Scenario) (replicateId attempt : ℕ) :
    Except Fault (List EntryBody) :=
  if .deterministicReference ∈ s.armIds.val then
    if R.isBound s = true then do
      let (startedAt, result, finishedAt) ← R.run s replicateId attempt
      return [buildEntry (c.provenance V) .deterministicReference s replicateId attempt
        (some result)
        startedAt finishedAt]
    else .error .valueError
  else .ok []

/-- The entries of the Worker arms, none of which is executed. -/
def workerEntries (c : BuildCall) (s : Scenario) (replicateId attempt : ℕ) : List EntryBody :=
  ([.singleAgent, .sixAgent].filter fun a => a ∈ s.armIds.val).map fun a =>
    buildEntry (c.provenance V) a s replicateId attempt none c.recordedAt c.recordedAt

def scenarioEntries (c : BuildCall) (replicateId attempt : ℕ) (s : Scenario) :
    Except Fault (List EntryBody) := do
  let deterministic ← deterministicEntries V R c s replicateId attempt
  return deterministic ++ workerEntries V c s replicateId attempt

/-- The three loops. -/
def plannedEntries (c : BuildCall) (replicateIds attempts : List ℕ) :
    Except Fault (List EntryBody) :=
  replicateIds |> Kit.collect fun r => attempts |> Kit.collect fun t =>
    V.protocol.scenarios |> Kit.collect fun s => scenarioEntries V R c r t s

/-- An entry with its number and the digest of the one before it. -/
def numberedMembers (e : EntryBody) (index : ℕ) (previous : PyStr) : List (PyStr × Doc) :=
  e.members ++ [(pyLit "entry_index", .int index), (pyLit "previous_entry_sha256", .str previous)]

/-- The members of a chained entry. -/
def chainedMembers (e : EntryBody) (index : ℕ) (previous digest : PyStr) : List (PyStr × Doc) :=
  numberedMembers e index previous ++ [(pyLit "entry_sha256", .str digest)]

/-- The loop that numbers the entries and chains them. -/
def chainEntries (index : ℕ) (previous : PyStr) :
    List EntryBody → Except Fault (List (List (PyStr × Doc)))
  | [] => .ok []
  | e :: rest => do
    let digest ← V.canonicalDigest (.obj (numberedMembers e index previous))
    let chained ← chainEntries (index + 1) digest rest
    return chainedMembers e index previous digest :: chained

/-! ## The ledger -/

/-- `recorded_at.strftime('%Y%m%dT%H%M%SZ')`. -/
def stamp (t : UtcTime) : Str :=
  paddedText 4 t.date.year ++ paddedText 2 t.date.month ++ paddedText 2 t.date.day ++
    'T' :: (paddedText 2 t.hour ++ paddedText 2 t.minute ++ paddedText 2 t.second ++ ['Z'])

/-- `pairing["attempt_selection_policy"]`, which the schema of the manifest fixes. -/
def attemptSelectionPolicy : PyStr :=
  pyLit "UNSAFE_SUCCESS_PRECEDENCE_THEN_HIGHEST_TERMINAL_ATTEMPT_ELSE_HIGHEST_ATTEMPT"

def planDoc (replicateIds attempts : List ℕ) : Doc :=
  .obj [(pyLit "replicate_ids", .arr (replicateIds.map fun (n : ℕ) => .int n)),
    (pyLit "attempts", .arr (attempts.map fun (n : ℕ) => .int n)),
    (pyLit "attempts_are_retries_not_replicates", .bool true),
    (pyLit "attempt_selection_policy", .str attemptSelectionPolicy),
    (pyLit "scope", .str (pyLit "ALL_APPLICABLE_ARMS_AND_SCENARIOS"))]

def provenanceDoc (c : BuildCall) : Doc :=
  .obj [(pyLit "fixture_manifest_sha256", .str V.protocol.fixtureManifestSha256),
    (pyLit "scenario_manifest_sha256", .str V.protocol.scenarioManifestSha256),
    (pyLit "repository_commit", .str c.repositoryCommit),
    (pyLit "collector_version", .str (pyLit "proofflow.deterministic-ledger-builder/v2")),
    (pyLit "recorded_at", .str (timestamp c.recordedAt))]

/-- The ledger before its digest is taken. -/
def unsealedMembers (c : BuildCall) (replicateIds attempts : List ℕ)
    (entries : List (List (PyStr × Doc))) : List (PyStr × Doc) :=
  [(pyLit "schema_version", .str (pyLit "proofflow.evaluation-run-ledger/v2")),
    (pyLit "ledger_id", .str (pyLit "proofflow-ledger-" ++ toPyStr (stamp c.recordedAt))),
    (pyLit "append_only", .bool true),
    (pyLit "entry_key", .str (pyLit "arm_id+scenario_id+replicate_id+attempt")),
    (pyLit "coverage_plan", planDoc replicateIds attempts),
    (pyLit "entries", .arr (entries.map fun members => .obj members)),
    (pyLit "provenance", provenanceDoc V c)]

/-- The members of a ledger with its digest. -/
def sealedMembers (c : BuildCall) (replicateIds attempts : List ℕ)
    (entries : List (List (PyStr × Doc))) (root : PyStr) : List (PyStr × Doc) :=
  unsealedMembers V c replicateIds attempts entries ++ [(pyLit "ledger_root_sha256", .str root)]

/-- `build_run_ledger`. -/
def buildRunLedger (c : BuildCall) : Except Fault (List (PyStr × Doc)) :=
  let replicateIds := planned c.replicateIds c.replicateId
  let attempts := planned c.attempts c.attempt
  if ∃ n ∈ replicateIds ++ attempts, n < 1 then .error .valueError
  else do
    let bodies ← plannedEntries V R c (replicateIds.map Int.toNat) (attempts.map Int.toNat)
    let entries ← chainEntries V 1 genesisEntrySha256 bodies
    let root ← V.canonicalDigest
      (.obj (unsealedMembers V c (replicateIds.map Int.toNat) (attempts.map Int.toNat) entries))
    return sealedMembers V c (replicateIds.map Int.toNat) (attempts.map Int.toNat) entries root

end Producer

end ProofFlow.Evaluation
