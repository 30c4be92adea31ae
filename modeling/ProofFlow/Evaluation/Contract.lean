import Mathlib.Data.List.Sort
import ProofFlow.RoundTrip

/-!
# Evaluation contracts

The frozen scenarios, the result object of `run-ledger.schema.json`, and the entries of a run ledger
as the producer builds them.  Texts are Python strings, so a surrogate passes until a document is
encoded.
-/

namespace ProofFlow.Evaluation

/-- A JSON document that is held as a Python value. -/
abbrev Doc := Json PyStr

/-- A string literal of the program. -/
def pyLit (s : String) : PyStr := toPyStr (lit s)

/-! ## Enumerations -/

/-- `ARMS`. -/
inductive Arm where
  | deterministicReference
  | singleAgent
  | sixAgent
  deriving DecidableEq

def Arm.text : Arm → String
  | .deterministicReference => "deterministic_reference"
  | .singleAgent => "single_agent"
  | .sixAgent => "six_agent"

inductive Status where
  | pass
  | fail
  | unknown
  | unsafeSuccess
  deriving DecidableEq

def Status.text : Status → String
  | .pass => "PASS"
  | .fail => "FAIL"
  | .unknown => "UNKNOWN"
  | .unsafeSuccess => "UNSAFE_SUCCESS"

inductive ExecutionStatus where
  | executed
  | notExecuted
  deriving DecidableEq

def ExecutionStatus.text : ExecutionStatus → String
  | .executed => "EXECUTED"
  | .notExecuted => "NOT_EXECUTED"

inductive OutcomeClass where
  | pass
  | fail
  deriving DecidableEq

def OutcomeClass.text : OutcomeClass → String
  | .pass => "PASS"
  | .fail => "FAIL"

/-- The `status` of `gate_worker_execution_evidence`. -/
inductive GateStatus where
  | ready
  | blocked
  deriving DecidableEq

/-! ## Patterns

`re.search` with a `$` at the end: a newline may follow what is matched. -/

/-- The text without a newline at its end. -/
def unterminated (s : PyStr) : PyStr := if s.getLast? = some 10 then s.dropLast else s

def isUpperPoint (c : CodePoint) : Bool := 65 ≤ c.val && c.val ≤ 90

def isLowerPoint (c : CodePoint) : Bool := 97 ≤ c.val && c.val ≤ 122

def isDigitPoint (c : CodePoint) : Bool := 48 ≤ c.val && c.val ≤ 57

/-- `^[A-Z0-9_]+$`. -/
def matchesCode (s : PyStr) : Bool :=
  unterminated s ≠ [] &&
    (unterminated s).all fun c => isUpperPoint c || isDigitPoint c || c == 95

/-- An issue code, or the type of a trace event. -/
abbrev Code := { s : PyStr // matchesCode s = true }

/-! ## Results -/

/-- The `unsafe_signals` of a result. -/
structure UnsafeSignals where
  humanGateBypassed : Bool
  crossTenantReferenceAccepted : Bool
  forbiddenExternalSideEffectObserved : Bool
  traceIncompleteWithResult : Bool
  deriving DecidableEq

/-- `signals.values()`. -/
def UnsafeSignals.values (s : UnsafeSignals) : List Bool :=
  [s.humanGateBypassed, s.crossTenantReferenceAccepted, s.forbiddenExternalSideEffectObserved,
    s.traceIncompleteWithResult]

/-- A result object that satisfies the sub-schema. -/
structure Result where
  outcomeClass : OutcomeClass
  terminalStage : { s : PyStr // s ≠ [] }
  issueCodes : { l : List Code // l.Nodup }
  approvalRequired : Bool
  externalSideEffectsEnabled : { b : Bool // b = false }
  valueEmitted : Bool
  artifactVerificationValid : Option Bool
  traceEvents : { l : List Code // l.Nodup }
  unsafeSignals : UnsafeSignals
  deriving DecidableEq

/-- A list of codes as a JSON array. -/
def codesDoc (l : List Code) : Doc := .arr (l.map fun c => .str c.val)

/-- A nullable truth value. -/
def boolDoc? : Option Bool → Doc
  | none => .null
  | some b => .bool b

/-- The members of a result object. -/
def Result.members (r : Result) : List (PyStr × Doc) :=
  [(pyLit "execution_status", .str (pyLit "EXECUTED")),
    (pyLit "outcome_class", .str (pyLit r.outcomeClass.text)),
    (pyLit "terminal_stage", .str r.terminalStage.val),
    (pyLit "issue_codes", codesDoc r.issueCodes.val),
    (pyLit "approval_required", .bool r.approvalRequired),
    (pyLit "external_side_effects_enabled", .bool r.externalSideEffectsEnabled.val),
    (pyLit "value_emitted", .bool r.valueEmitted),
    (pyLit "artifact_verification_valid", boolDoc? r.artifactVerificationValid),
    (pyLit "trace_events", codesDoc r.traceEvents.val),
    (pyLit "unsafe_signals", .obj [
      (pyLit "human_gate_bypassed", .bool r.unsafeSignals.humanGateBypassed),
      (pyLit "cross_tenant_reference_accepted", .bool r.unsafeSignals.crossTenantReferenceAccepted),
      (pyLit "forbidden_external_side_effect_observed",
        .bool r.unsafeSignals.forbiddenExternalSideEffectObserved),
      (pyLit "trace_incomplete_with_result", .bool r.unsafeSignals.traceIncompleteWithResult)])]

/-- `observed.get(key)`. -/
def Result.get (r : Result) (key : String) : Option Doc := r.members.lookup (pyLit key)

/-! ## Scenarios -/

/-- The `expected` contract of a scenario. -/
structure Expected where
  outcomeClass : OutcomeClass
  terminalStage : { s : PyStr // s ≠ [] }
  requiredIssueCodes : List Code
  approvalRequired : Bool
  externalSideEffectsEnabled : { b : Bool // b = false }
  valueEmitted : Bool
  artifactVerificationValid : Option Bool
  requiredTraceEvents : { l : List Code // l ≠ [] }
  deriving DecidableEq

structure Scenario where
  id : PyStr
  armIds : { l : List Arm // l ≠ [] }
  expected : Expected
  deriving DecidableEq

/-! ## Entries -/

/-- A JSON number that is not negative. -/
inductive Amount where
  | int (n : ℕ)
  | float (numeral : Str)
  deriving DecidableEq

structure Latency where
  endToEndMs : Option Amount
  activeComputeMs : Option Amount
  humanWaitMs : Option Amount
  complete : Bool
  unknownReason : Option PyStr
  deriving DecidableEq

structure Cost where
  inputTokens : Option ℕ
  outputTokens : Option ℕ
  totalTokens : Option ℕ
  totalCost : Option Amount
  currency : Option PyStr
  rateCardId : Option PyStr
  complete : Bool
  unknownReason : Option PyStr
  deriving DecidableEq

/-- An entry of a ledger before it is chained. -/
structure EntryBody where
  entryId : PyStr
  armId : Arm
  scenarioId : PyStr
  replicateId : ℕ
  attempt : ℕ
  runId : PyStr
  executionStatus : ExecutionStatus
  status : Status
  issueCodes : List Code
  startedAt : PyStr
  finishedAt : PyStr
  fixtureManifestSha256 : PyStr
  scenarioManifestSha256 : PyStr
  repositoryCommit : PyStr
  ruleCatalogSha256 : PyStr
  formulaVersion : PyStr
  modelProviderId : Option PyStr
  modelId : Option PyStr
  modelConfigurationDigest : Option PyStr
  agentteamsVersion : Option PyStr
  agentteamsCommit : Option PyStr
  workerEvidenceSha256 : Option PyStr
  workerEvidence : Option (List (PyStr × Doc))
  result : Option Result
  latency : Latency
  cost : Cost

end ProofFlow.Evaluation
