import ProofFlow.Calculation.Rules
import ProofFlow.Kit.Traversal
import ProofFlow.Seal

/-!
# Conflicts

`conflict_detect` groups the evidence by field and by value, reports a conflict for every field with
several values, and returns a sealed report.  In a report it returns every conflict blocks, and the
identifiers of the blocking conflicts are those of all conflicts.
-/

namespace ProofFlow

open Kit

/-! ## The request and the result -/

/-- `ConflictDetectRequest`. -/
structure ConflictDetectRequest where
  evidence : List EvidenceObject
  rules : List RuleCitation
  calculation : Option CalculationSheet
  policyVersion : Stripped

def ConflictDetectRequest.dump (r : ConflictDetectRequest) : Value :=
  .obj [keyed "evidence" (.arr (r.evidence.map Artifact.dump)),
    keyed "rules" (.arr (r.rules.map Artifact.dump)),
    keyed "calculation" (match r.calculation with | none => .null | some s => Artifact.dump s),
    keyed "policy_version" (.str r.policyVersion.val)]

/-- `ConflictDetectOutput`. -/
structure ConflictDetectOutput where
  report : ConflictReport

def ConflictDetectOutput.dump (o : ConflictDetectOutput) : Value :=
  .obj [keyed "report" (Artifact.dump o.report)]

/-! ## The groups -/

/-- The keys of a dictionary that was filled in the order of the list. -/
def firstOccurrences (l : List Str) : List Str := l.eraseDups

/-- `grouped[field_name]`: each value of the field with the references of its evidence. -/
def valueRefs (evidence : List EvidenceObject) (field : Str) : List (Str × List Str) :=
  let items := evidence.filter fun e => e.fieldName.val = field
  (firstOccurrences (items.map fun e => e.normalizedValue.val)).map fun value =>
    (value, (items.filter fun e => e.normalizedValue.val = value).map Artifact.ref)

/-- `sorted(grouped.items())`. -/
def groupedRefs (evidence : List EvidenceObject) : List (Str × List (Str × List Str)) :=
  (sortedStr (firstOccurrences (evidence.map fun e => e.fieldName.val))).map fun field =>
    (field, valueRefs evidence field)

/-- The conflict of a field with several values. -/
def conflictOf (P : Platform) (group : Str × List (Str × List Str)) : Except Fault Conflict := do
  let values := .obj (group.2.map fun v => (v.1, .arr (v.2.map .str)))
  let id ← stableId P "conflict" (.obj [keyed "field" (.str group.1), keyed "values" values])
  return {
    conflictId := stripped id
    severity := label "BLOCKER"
    objectRefs := (group.2.flatMap Prod.snd).map stripped
    description := stripped (lit "conflicting verified values for " ++ group.1)
    requiredAction := label "A human reviewer must resolve the source conflict." }

/-- The conflicts of the evidence. -/
def conflictsOf (P : Platform) (evidence : List EvidenceObject) : Except Fault (List Conflict) :=
  ((groupedRefs evidence).filter fun group => 2 ≤ group.2.length).mapM (conflictOf P)

/-! ## Detection -/

def auditAgent : Filled := agentIdentity "PF-A6"

/-- `input_complete`. -/
def ConflictDetectRequest.complete (r : ConflictDetectRequest) : Bool :=
  !r.evidence.isEmpty && !r.rules.isEmpty && r.calculation.isSome

/-- `blocker_ids`. -/
def blockerIds (conflicts : List Conflict) : List Stripped :=
  (conflicts.filter fun c => c.severity.val = lit "BLOCKER").map Conflict.conflictId

/-- The references of the inputs. -/
def ConflictDetectRequest.sourceRefs (r : ConflictDetectRequest) : List Stripped :=
  r.evidence.map (fun e => stripped (Artifact.ref e)) ++
    r.rules.map (fun c => stripped (Artifact.ref c)) ++
    r.calculation.toList.map fun s => stripped (Artifact.ref s)

/-- The sealed report. -/
def conflictReportOf (P : Platform) (context : SkillContext) (request : ConflictDetectRequest)
    (now : DateTime) : Except Fault ConflictReport := do
  let conflicts ← conflictsOf P request.evidence
  let metadata ← artifactMeta P "conflict-report" auditAgent context now
    (.obj [keyed "policy_version" (.str request.policyVersion.val),
      keyed "conflicts" (.arr (conflicts.map Conflict.dump)),
      keyed "input_complete" (.bool request.complete)]) request.sourceRefs
  Artifact.sealed P
    { metadata := metadata
      conflicts := conflicts
      blockerIds := blockerIds conflicts
      inputComplete := request.complete }

/-- `conflict_detect`. -/
def conflictDetect (P : Platform) (context : SkillContext) (request : ConflictDetectRequest)
    (now : DateTime) : Except Fault (SkillResult ConflictDetectOutput) := do
  if let some result ← denied P context request.dump "PF-A6" then return result
  let report ← conflictReportOf P context request now
  let output : ConflictDetectOutput := ⟨report⟩
  let inputHash ← sha256Digest P request.dump []
  let outputHash ← sha256Digest P output.dump []
  return {
    status := if request.complete then .success else .blocked
    value := some output
    issues := if request.complete then [] else
      [Issue.blocker "INCOMPLETE_INPUT" (lit "conflict detection input is incomplete") false]
    inputHash := inputHash.stripped
    outputHash := some outputHash.stripped
    emittedRefs := [stripped (Artifact.ref report)] }

/-! ## What a report says -/

/-- A denied caller gets no value. -/
theorem value_of_denied {α : Type} {P : Platform} {context : SkillContext} {request : Value}
    {expectedIdentity : String} {result : SkillResult α}
    (h : denied P context request expectedIdentity = .ok (some result)) : result.value = none := by
  unfold denied at h
  split at h
  · cases h
  · obtain ⟨_, -, h⟩ := bind_eq_ok.1 h
    rw [← Option.some.inj (Except.ok.inj h)]
    rfl

/-- What the program's own reports satisfy. -/
structure DetectedReport (P : Platform) (report : ConflictReport) : Prop where
  isSealed : Artifact.verifyHash P report = .ok true
  blocking : ∀ c ∈ report.conflicts, c.severity.val = lit "BLOCKER"
  ids_eq : report.blockerIds = report.conflicts.map Conflict.conflictId

/-- A report without blocker identifiers has no conflict. -/
theorem DetectedReport.conflicts_eq_nil {P : Platform} {report : ConflictReport}
    (h : DetectedReport P report) : report.blockerIds = [] ↔ report.conflicts = [] := by
  rw [h.ids_eq, List.map_eq_nil_iff]

theorem severity_of_conflictOf {P : Platform} {group : Str × List (Str × List Str)} {c : Conflict}
    (h : conflictOf P group = .ok c) : c.severity = label "BLOCKER" := by
  simp only [conflictOf, bind_eq_ok, pure, Except.pure, Except.ok.injEq] at h
  obtain ⟨_, -, rfl⟩ := h
  rfl

theorem severity_of_conflictsOf {P : Platform} {evidence : List EvidenceObject}
    {conflicts : List Conflict} (h : conflictsOf P evidence = .ok conflicts) :
    ∀ c ∈ conflicts, c.severity.val = lit "BLOCKER" := by
  intro c hc
  obtain ⟨group, -, hgroup⟩ := exists_of_mem_mapM h hc
  rw [severity_of_conflictOf hgroup]
  decide

/-- Sealing changes nothing but the hash. -/
theorem sealed_eq {α : Type} [Artifact α] {P : Platform} {a₀ a : α}
    (h : Artifact.sealed P a₀ = .ok a) : ∃ hash, a = Artifact.withHash a₀ hash := by
  simp only [Artifact.sealed, bind_eq_ok, pure, Except.pure, Except.ok.injEq] at h
  obtain ⟨digest, -, rfl⟩ := h
  exact ⟨_, rfl⟩

theorem detectedReport_of_conflictReportOf {P : Platform} {context : SkillContext}
    {request : ConflictDetectRequest} {now : DateTime} {report : ConflictReport}
    (h : conflictReportOf P context request now = .ok report) :
    DetectedReport P report ∧ report.inputComplete = request.complete := by
  simp only [conflictReportOf, bind_eq_ok] at h
  obtain ⟨conflicts, hconflicts, metadata, -, hsealed⟩ := h
  have hblock := severity_of_conflictsOf hconflicts
  obtain ⟨hash, rfl⟩ := sealed_eq hsealed
  have hids : blockerIds conflicts = conflicts.map Conflict.conflictId := by
    unfold blockerIds
    rw [List.filter_eq_self.2 fun c hc => decide_eq_true (hblock c hc)]
  exact ⟨⟨verifyHash_of_sealed hsealed, hblock, hids⟩, rfl⟩

/-- The owner's detection returns a sealed report whose conflicts all block. -/
theorem detectedReport_of_conflictDetect {P : Platform} {context : SkillContext}
    {request : ConflictDetectRequest} {now : DateTime} {result : SkillResult ConflictDetectOutput}
    {output : ConflictDetectOutput} (h : conflictDetect P context request now = .ok result)
    (hvalue : result.value = some output) :
    DetectedReport P output.report ∧
      (result.status = .success ↔ output.report.inputComplete = true) := by
  simp only [conflictDetect, bind_eq_ok] at h
  obtain ⟨deny, hdeny, h⟩ := h
  cases deny with
  | some denial =>
    cases h
    rw [value_of_denied hdeny] at hvalue
    cases hvalue
  | none =>
    simp only [bind_eq_ok, pure, Except.pure, Except.ok.injEq] at h
    obtain ⟨report, hreport, _, -, _, -, rfl⟩ := h
    obtain ⟨hdetected, hcomplete⟩ := detectedReport_of_conflictReportOf hreport
    cases hvalue
    refine ⟨hdetected, ?_⟩
    rw [hcomplete]
    by_cases hc : request.complete <;> simp [hc]

end ProofFlow
