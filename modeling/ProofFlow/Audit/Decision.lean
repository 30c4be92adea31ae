import ProofFlow.Audit.Conflicts
import ProofFlow.Calculation.Boundary

/-!
# The decision audit

`decision_audit` checks the observed events, the conflict report, the calculation and the references
of the proposals, and returns a sealed report with one finding for every check that fails.  It
passes exactly if there is no finding.  It checks the seals of the calculation and of the proposals,
and of no other artifact, and it reads the identifiers of the blocking conflicts, not the conflicts.
-/

namespace ProofFlow

open Kit

/-! ## The request and the result -/

/-- `DecisionAuditRequest`. -/
structure DecisionAuditRequest where
  proposals : List Proposal
  evidence : List EvidenceObject
  rules : List RuleCitation
  calculation : CalculationSheet
  conflictReport : ConflictReport
  observedEventTypes : List Stripped
  policyVersion : Stripped

def DecisionAuditRequest.dump (r : DecisionAuditRequest) : Value :=
  .obj [keyed "proposals" (.arr (r.proposals.map Artifact.dump)),
    keyed "evidence" (.arr (r.evidence.map Artifact.dump)),
    keyed "rules" (.arr (r.rules.map Artifact.dump)),
    keyed "calculation" (Artifact.dump r.calculation),
    keyed "conflict_report" (Artifact.dump r.conflictReport),
    keyed "observed_event_types" (.labels r.observedEventTypes),
    keyed "policy_version" (.str r.policyVersion.val)]

/-- `DecisionAuditOutput`. -/
structure DecisionAuditOutput where
  report : AuditReport

def DecisionAuditOutput.dump (o : DecisionAuditOutput) : Value :=
  .obj [keyed "report" (Artifact.dump o.report)]

/-! ## The findings -/

/-- `REQUIRED_PRE_AUDIT_EVENTS`. -/
def requiredPreAuditEvents : List String :=
  ["skill.evidence_ingest", "skill.timeline_build", "skill.rule_retrieve",
    "skill.deterministic_calculate", "strategy.proposal_generate", "skill.conflict_detect"]

/-- `missing_events`. -/
def DecisionAuditRequest.missingEvents (r : DecisionAuditRequest) : List Str :=
  sortedStr ((requiredPreAuditEvents.map lit).filter fun e =>
    e ∉ r.observedEventTypes.map Subtype.val)

/-- A finding with severity `BLOCKER`. -/
def blockerFinding (P : Platform) (idPayload : Value) (objectRefs : List Str) (message : Str)
    (requiredAction : String) : Except Fault AuditFinding := do
  let id ← stableId P "finding" idPayload
  return {
    findingId := stripped id
    severity := label "BLOCKER"
    objectRefs := objectRefs.map stripped
    message := stripped message
    requiredAction := label requiredAction }

/-- `if failed: findings.append(finding)`. -/
def findingIf (failed : Bool) (finding : Except Fault AuditFinding) :
    Except Fault (List AuditFinding) :=
  if failed then do
    let f ← finding
    return [f]
  else .ok []

/-- The finding about missing trace events. -/
def eventFindings (P : Platform) (r : DecisionAuditRequest) : Except Fault (List AuditFinding) :=
  findingIf (!r.missingEvents.isEmpty)
    (blockerFinding P (.obj [keyed "missing_events" (.arr (r.missingEvents.map .str))]) []
      (lit "required trace events are missing: " ++ (lit ", ").intercalate r.missingEvents)
      "Restore the missing trace evidence and rerun the audit.")

/-- The finding about an incomplete conflict report. -/
def completenessFindings (P : Platform) (r : DecisionAuditRequest) :
    Except Fault (List AuditFinding) :=
  findingIf (!r.conflictReport.inputComplete)
    (blockerFinding P (.str (lit "conflict-input-incomplete")) [Artifact.ref r.conflictReport]
      (lit "conflict report was produced from incomplete inputs")
      "Complete all upstream evidence before audit.")

/-- The findings about blocking conflicts. -/
def conflictFindings (P : Platform) (r : DecisionAuditRequest) : Except Fault (List AuditFinding) :=
  r.conflictReport.blockerIds.mapM fun conflictId =>
    blockerFinding P (.obj [keyed "blocker" (.str conflictId.val)]) [conflictId.val]
      (lit "an unresolved blocker conflict remains")
      "Resolve the conflict through the Human Gate."

/-- `calculation.total is None or not calculation.verify_hash()`. -/
def calculationInvalid (P : Platform) (s : CalculationSheet) : Except Fault Bool :=
  match s.total with
  | none => .ok true
  | some _ => do
    let verified ← Artifact.verifyHash P s
    return !verified

/-- The finding about the calculation. -/
def calculationFindings (P : Platform) (r : DecisionAuditRequest) :
    Except Fault (List AuditFinding) := do
  let invalid ← calculationInvalid P r.calculation
  findingIf invalid
    (blockerFinding P (.str (lit "calculation-invalid")) [Artifact.ref r.calculation]
      (lit "calculation is missing, unsealed, or inconsistent")
      "Rerun the versioned deterministic calculation.")

/-- `refs and set(refs).issubset(available)`. -/
def refsResolve (refs : List Stripped) (available : List Str) : Bool :=
  !refs.isEmpty && refs.all fun r => decide (r.val ∈ available)

/-- The claims about one proposal that have no support. -/
def unsupportedOf (P : Platform) (r : DecisionAuditRequest) (p : Proposal) :
    Except Fault (List Str) := do
  let verified ← Artifact.verifyHash P p
  return (if verified then [] else [Artifact.ref p ++ lit " is not sealed"]) ++
    (if refsResolve p.evidenceRefs (r.evidence.map Artifact.ref) then []
      else [Artifact.ref p ++ lit " has invalid evidence references"]) ++
    (if refsResolve p.ruleRefs (r.rules.map Artifact.ref) then []
      else [Artifact.ref p ++ lit " has invalid rule references"]) ++
    (if p.calculationRef.map Subtype.val = some (Artifact.ref r.calculation) then []
      else [Artifact.ref p ++ lit " has an invalid calculation reference"])

/-- `unsupported`. -/
def unsupportedClaims (P : Platform) (r : DecisionAuditRequest) : Except Fault (List Str) := do
  let claims ← r.proposals.mapM (unsupportedOf P r)
  return claims.flatten

/-- The finding about claims without support. -/
def supportFindings (P : Platform) (r : DecisionAuditRequest) (unsupported : List Str) :
    Except Fault (List AuditFinding) :=
  findingIf (!unsupported.isEmpty)
    (blockerFinding P (.obj [keyed "unsupported" (.arr (unsupported.map .str))])
      (r.proposals.map Artifact.ref)
      (lit "one or more proposal claims are not structurally supported")
      "Regenerate proposals with valid immutable references.")

/-- `findings` and `unsupported`. -/
def auditFindings (P : Platform) (r : DecisionAuditRequest) :
    Except Fault (List AuditFinding × List Str) := do
  let events ← eventFindings P r
  let completeness ← completenessFindings P r
  let conflicts ← conflictFindings P r
  let calculation ← calculationFindings P r
  let unsupported ← unsupportedClaims P r
  let support ← supportFindings P r unsupported
  return (events ++ completeness ++ conflicts ++ calculation ++ support, unsupported)

/-! ## The report -/

/-- `AuditVerdict.BLOCK if any(item.severity == "BLOCKER" for item in findings) else …`. -/
def verdictOf (findings : List AuditFinding) : AuditVerdict :=
  if findings.any fun f => decide (f.severity.val = lit "BLOCKER") then .block else .pass

/-- The metadata of the audited artifacts. -/
def DecisionAuditRequest.audited (r : DecisionAuditRequest) : List ArtifactMeta :=
  r.evidence.map EvidenceObject.metadata ++ r.rules.map RuleCitation.metadata ++
    r.calculation.metadata :: r.conflictReport.metadata :: r.proposals.map Proposal.metadata

/-- The references of the audited artifacts. -/
def DecisionAuditRequest.auditedRefs (r : DecisionAuditRequest) : List Str :=
  r.evidence.map Artifact.ref ++ r.rules.map Artifact.ref ++
    Artifact.ref r.calculation :: Artifact.ref r.conflictReport :: r.proposals.map Artifact.ref

/-- The sealed report. -/
def auditReportOf (P : Platform) (context : SkillContext) (r : DecisionAuditRequest)
    (now : DateTime) : Except Fault AuditReport := do
  let (findings, unsupported) ← auditFindings P r
  let hashes := r.audited.filterMap ArtifactMeta.contentHash
  let metadata ← artifactMeta P "audit-report" auditAgent context now
    (.obj [keyed "policy_version" (.str r.policyVersion.val),
      keyed "audited_hashes" (.labels hashes),
      keyed "findings" (.arr (findings.map AuditFinding.dump))]) (r.auditedRefs.map stripped)
  Artifact.sealed P
    { metadata := metadata
      verdict := verdictOf findings
      findings := findings
      unsupportedClaims := unsupported.map stripped
      auditedArtifactHashes := hashes
      policyVersion := r.policyVersion }

/-- `decision_audit`. -/
def decisionAudit (P : Platform) (context : SkillContext) (request : DecisionAuditRequest)
    (now : DateTime) : Except Fault (SkillResult DecisionAuditOutput) := do
  if let some result ← denied P context request.dump "PF-A6" then return result
  let report ← auditReportOf P context request now
  success P request.dump DecisionAuditOutput.dump ⟨report⟩ [Artifact.ref report]

/-! ## What the audit checks -/

/-- A proposal is sealed, and its references resolve in the request. -/
structure Supported (P : Platform) (r : DecisionAuditRequest) (p : Proposal) : Prop where
  isSealed : Artifact.verifyHash P p = .ok true
  evidence_ne : p.evidenceRefs ≠ []
  evidence : ∀ x ∈ p.evidenceRefs, ∃ e ∈ r.evidence, Artifact.ref e = x.val
  rules_ne : p.ruleRefs ≠ []
  rules : ∀ x ∈ p.ruleRefs, ∃ c ∈ r.rules, Artifact.ref c = x.val
  calculation : ∃ x ∈ p.calculationRef, x.val = Artifact.ref r.calculation

/-- The checks of the audit. -/
structure AuditChecked (P : Platform) (r : DecisionAuditRequest) : Prop where
  events : ∀ e ∈ requiredPreAuditEvents, ∃ o ∈ r.observedEventTypes, o.val = lit e
  complete : r.conflictReport.inputComplete = true
  unblocked : r.conflictReport.blockerIds = []
  total : ∃ t, r.calculation.total = some t
  calculation : Artifact.verifyHash P r.calculation = .ok true
  proposals : ∀ p ∈ r.proposals, Supported P r p

section Findings

variable {P : Platform} {r : DecisionAuditRequest}

theorem severity_of_blockerFinding {idPayload : Value} {objectRefs : List Str} {message : Str}
    {requiredAction : String} {f : AuditFinding}
    (h : blockerFinding P idPayload objectRefs message requiredAction = .ok f) :
    f.severity.val = lit "BLOCKER" := by
  simp only [blockerFinding, bind_eq_ok, pure, Except.pure, Except.ok.injEq] at h
  obtain ⟨_, -, rfl⟩ := h
  show (label "BLOCKER").val = lit "BLOCKER"
  decide

/-- The findings block, and there are none exactly if the check holds. -/
structure FindingsFor (check : Prop) (findings : List AuditFinding) : Prop where
  blocking : ∀ f ∈ findings, f.severity.val = lit "BLOCKER"
  eq_nil_iff : findings = [] ↔ check

theorem FindingsFor.append {check check' : Prop} {l l' : List AuditFinding}
    (h : FindingsFor check l) (h' : FindingsFor check' l') :
    FindingsFor (check ∧ check') (l ++ l') where
  blocking f hf := (List.mem_append.1 hf).elim (h.blocking f) (h'.blocking f)
  eq_nil_iff := by rw [List.append_eq_nil_iff, h.eq_nil_iff, h'.eq_nil_iff]

theorem FindingsFor.congr {check check' : Prop} {l : List AuditFinding} (h : FindingsFor check l)
    (hiff : check ↔ check') : FindingsFor check' l :=
  ⟨h.blocking, h.eq_nil_iff.trans hiff⟩

theorem findingsFor_findingIf {failed : Bool} {idPayload : Value} {objectRefs : List Str}
    {message : Str} {requiredAction : String} {l : List AuditFinding}
    (h : findingIf failed (blockerFinding P idPayload objectRefs message requiredAction) = .ok l) :
    FindingsFor (failed = false) l := by
  unfold findingIf at h
  cases failed with
  | false =>
    cases h
    exact ⟨fun _ hf => absurd hf List.not_mem_nil, by simp⟩
  | true =>
    simp only [if_true, bind_eq_ok, pure, Except.pure, Except.ok.injEq] at h
    obtain ⟨f, hf, rfl⟩ := h
    refine ⟨fun g hg => ?_, by simp⟩
    rw [List.mem_singleton.1 hg]
    exact severity_of_blockerFinding hf

theorem missingEvents_eq_nil_iff : r.missingEvents = [] ↔
    ∀ e ∈ requiredPreAuditEvents, ∃ o ∈ r.observedEventTypes, o.val = lit e := by
  rw [DecisionAuditRequest.missingEvents, ← List.length_eq_zero_iff, length_sortedStr,
    List.length_eq_zero_iff, List.filter_eq_nil_iff, List.forall_mem_map]
  simp

theorem findingsFor_events {l : List AuditFinding} (h : eventFindings P r = .ok l) :
    FindingsFor (∀ e ∈ requiredPreAuditEvents, ∃ o ∈ r.observedEventTypes, o.val = lit e) l := by
  refine (findingsFor_findingIf h).congr ?_
  rw [← missingEvents_eq_nil_iff]
  simp

theorem findingsFor_completeness {l : List AuditFinding} (h : completenessFindings P r = .ok l) :
    FindingsFor (r.conflictReport.inputComplete = true) l :=
  (findingsFor_findingIf h).congr (by simp)

theorem findingsFor_conflicts {l : List AuditFinding} (h : conflictFindings P r = .ok l) :
    FindingsFor (r.conflictReport.blockerIds = []) l := by
  refine ⟨fun f hf => ?_, ?_⟩
  · obtain ⟨_, -, hfinding⟩ := exists_of_mem_mapM h hf
    exact severity_of_blockerFinding hfinding
  · rw [← List.length_eq_zero_iff, ← (mapM_eq_ok.1 h).length_eq, List.length_eq_zero_iff]

theorem calculationInvalid_eq_ok {s : CalculationSheet} {invalid : Bool}
    (h : calculationInvalid P s = .ok invalid) :
    invalid = false ↔ (∃ t, s.total = some t) ∧ Artifact.verifyHash P s = .ok true := by
  unfold calculationInvalid at h
  cases ht : s.total with
  | none =>
    rw [ht] at h
    cases h
    simp
  | some t =>
    rw [ht] at h
    simp only [bind_eq_ok, pure, Except.pure, Except.ok.injEq] at h
    obtain ⟨verified, hverified, rfl⟩ := h
    rw [hverified]
    simp

theorem findingsFor_calculation {l : List AuditFinding} (h : calculationFindings P r = .ok l) :
    FindingsFor ((∃ t, r.calculation.total = some t) ∧
      Artifact.verifyHash P r.calculation = .ok true) l := by
  obtain ⟨invalid, hinvalid, h⟩ := bind_eq_ok.1 h
  exact (findingsFor_findingIf h).congr (calculationInvalid_eq_ok hinvalid)

theorem refsResolve_iff {refs : List Stripped} {available : List Str} :
    refsResolve refs available = true ↔ refs ≠ [] ∧ ∀ x ∈ refs, x.val ∈ available := by
  simp [refsResolve]

/-- A proposal has no unsupported claim exactly if it is supported. -/
theorem unsupportedOf_eq_nil_iff {p : Proposal} {claims : List Str}
    (h : unsupportedOf P r p = .ok claims) : claims = [] ↔ Supported P r p := by
  simp only [unsupportedOf, bind_eq_ok, pure, Except.pure, Except.ok.injEq] at h
  obtain ⟨verified, hverified, rfl⟩ := h
  have hempty (c : Prop) [Decidable c] (s : Str) : (if c then [] else [s]) = [] ↔ c := by
    by_cases hc : c <;> simp [hc]
  have hcalculation : p.calculationRef.map Subtype.val = some (Artifact.ref r.calculation) ↔
      ∃ x ∈ p.calculationRef, x.val = Artifact.ref r.calculation := by
    rw [Option.map_eq_some_iff]
    rfl
  simp only [List.append_eq_nil_iff, hempty, refsResolve_iff, List.mem_map]
  constructor
  · rintro ⟨⟨⟨hseal, hne, he⟩, hne', hr⟩, hc⟩
    exact ⟨by rw [hverified, hseal], hne, he, hne', hr, hcalculation.1 hc⟩
  · intro hs
    have hseal : verified = true := Except.ok.inj (hverified.symm.trans hs.isSealed)
    exact ⟨⟨⟨hseal, hs.evidence_ne, hs.evidence⟩, hs.rules_ne, hs.rules⟩,
      hcalculation.2 hs.calculation⟩

theorem unsupportedClaims_eq_nil_iff {unsupported : List Str}
    (h : unsupportedClaims P r = .ok unsupported) :
    unsupported = [] ↔ ∀ p ∈ r.proposals, Supported P r p := by
  simp only [unsupportedClaims, bind_eq_ok, pure, Except.pure, Except.ok.injEq] at h
  obtain ⟨claims, hclaims, rfl⟩ := h
  rw [List.flatten_eq_nil_iff]
  constructor
  · intro hnil p hp
    obtain ⟨c, hc, hcp⟩ := exists_result_of_mem hclaims hp
    exact (unsupportedOf_eq_nil_iff hcp).1 (hnil c hc)
  · intro hsupported c hc
    obtain ⟨p, hp, hcp⟩ := exists_of_mem_mapM hclaims hc
    exact (unsupportedOf_eq_nil_iff hcp).2 (hsupported p hp)

theorem findingsFor_support {unsupported : List Str} {l : List AuditFinding}
    (hclaims : unsupportedClaims P r = .ok unsupported)
    (h : supportFindings P r unsupported = .ok l) :
    FindingsFor (∀ p ∈ r.proposals, Supported P r p) l := by
  refine (findingsFor_findingIf h).congr ?_
  rw [← unsupportedClaims_eq_nil_iff hclaims]
  simp

/-- The audit has no finding exactly if every check holds. -/
theorem findingsFor_audit {findings : List AuditFinding} {unsupported : List Str}
    (h : auditFindings P r = .ok (findings, unsupported)) :
    FindingsFor (AuditChecked P r) findings := by
  simp only [auditFindings, bind_eq_ok, pure, Except.pure, Except.ok.injEq, Prod.mk.injEq] at h
  obtain ⟨events, hevents, completeness, hcompleteness, conflicts, hconflicts, calculation,
    hcalculation, claims, hclaims, support, hsupport, rfl, rfl⟩ := h
  refine (((((findingsFor_events hevents).append (findingsFor_completeness hcompleteness)).append
    (findingsFor_conflicts hconflicts)).append (findingsFor_calculation hcalculation)).append
    (findingsFor_support hclaims hsupport)).congr ?_
  constructor
  · rintro ⟨⟨⟨⟨h₁, h₂⟩, h₃⟩, h₄, h₅⟩, h₆⟩
    exact ⟨h₁, h₂, h₃, h₄, h₅, h₆⟩
  · rintro ⟨h₁, h₂, h₃, h₄, h₅, h₆⟩
    exact ⟨⟨⟨⟨h₁, h₂⟩, h₃⟩, h₄, h₅⟩, h₆⟩

theorem verdictOf_eq_pass_iff {check : Prop} {findings : List AuditFinding}
    (h : FindingsFor check findings) : verdictOf findings = .pass ↔ check := by
  rw [← h.eq_nil_iff]
  cases findings with
  | nil => simp [verdictOf]
  | cons f l => simp [verdictOf, h.blocking f List.mem_cons_self]

/-- What the report of an audit says. -/
theorem auditReportOf_spec {context : SkillContext} {now : DateTime} {report : AuditReport}
    (h : auditReportOf P context r now = .ok report) :
    (report.verdict = .pass ↔ AuditChecked P r) ∧
      report.auditedArtifactHashes = r.audited.filterMap ArtifactMeta.contentHash := by
  simp only [auditReportOf, bind_eq_ok] at h
  obtain ⟨⟨findings, unsupported⟩, hfindings, metadata, -, hsealed⟩ := h
  obtain ⟨hash, rfl⟩ := sealed_eq hsealed
  exact ⟨verdictOf_eq_pass_iff (findingsFor_audit hfindings), rfl⟩

/-- A result with a report is that of an audit by the owner. -/
theorem auditReportOf_of_decisionAudit {context : SkillContext} {now : DateTime}
    {result : SkillResult DecisionAuditOutput} {output : DecisionAuditOutput}
    (h : decisionAudit P context r now = .ok result) (hvalue : result.value = some output) :
    auditReportOf P context r now = .ok output.report := by
  simp only [decisionAudit, bind_eq_ok] at h
  obtain ⟨deny, hdeny, h⟩ := h
  cases deny with
  | some denial =>
    cases h
    rw [value_of_denied hdeny] at hvalue
    cases hvalue
  | none =>
    simp only [success, bind_eq_ok, pure, Except.pure, Except.ok.injEq] at h
    obtain ⟨report, hreport, _, -, _, -, rfl⟩ := h
    cases hvalue
    exact hreport

end Findings

/-! ## What a PASS means -/

/-- An artifact verifies its seal, and the report lists its hash. -/
structure Audited {α : Type} [Artifact α] (P : Platform) (report : AuditReport) (a : α) : Prop where
  isSealed : Artifact.verifyHash P a = .ok true
  listed : ∃ h ∈ (Artifact.metadata a).contentHash, h ∈ report.auditedArtifactHashes

/-- The request supports a PASS of the report. -/
structure FullySupported (P : Platform) (r : DecisionAuditRequest) (report : AuditReport) :
    Prop where
  proposals_ne : r.proposals ≠ []
  evidence : ∀ e ∈ r.evidence, Audited P report e
  rules : ∀ c ∈ r.rules, Audited P report c
  calculation : Audited P report r.calculation
  conflictReport : Audited P report r.conflictReport
  proposals : ∀ p ∈ r.proposals, Audited P report p
  complete : r.conflictReport.inputComplete = true
  unblocked : ∀ c ∈ r.conflictReport.conflicts, c.severity.val ≠ lit "BLOCKER"
  total : ∃ t, r.calculation.total = some t
  supported : ∀ p ∈ r.proposals, Supported P r p
  events : ∀ e ∈ requiredPreAuditEvents, ∃ o ∈ r.observedEventTypes, o.val = lit e

/-- The part of it that the audit takes on trust. -/
structure AuditTrusts (P : Platform) (r : DecisionAuditRequest) : Prop where
  proposals_ne : r.proposals ≠ []
  evidence : ∀ e ∈ r.evidence, Artifact.verifyHash P e = .ok true
  rules : ∀ c ∈ r.rules, Artifact.verifyHash P c = .ok true
  conflictReport : Artifact.verifyHash P r.conflictReport = .ok true
  unblocked : ∀ c ∈ r.conflictReport.conflicts, c.severity.val ≠ lit "BLOCKER"

section Pass

variable {P : Platform} {r : DecisionAuditRequest} {report : AuditReport}

/-- An artifact that verifies its seal has a hash. -/
theorem exists_hash_of_verifyHash {α : Type} [Artifact α] {a : α}
    (h : Artifact.verifyHash P a = .ok true) :
    ∃ hash, (Artifact.metadata a).contentHash = some hash := by
  unfold Artifact.verifyHash at h
  cases hhash : (Artifact.metadata a).contentHash with
  | none => simp [hhash] at h
  | some hash => exact ⟨hash, rfl⟩

theorem audited_of_verifyHash {α : Type} [Artifact α] {a : α}
    (hreport : report.auditedArtifactHashes = r.audited.filterMap ArtifactMeta.contentHash)
    (hmem : Artifact.metadata a ∈ r.audited) (h : Artifact.verifyHash P a = .ok true) :
    Audited P report a := by
  obtain ⟨hash, hhash⟩ := exists_hash_of_verifyHash h
  refine ⟨h, hash, hhash, ?_⟩
  rw [hreport]
  exact List.mem_filterMap.2 ⟨_, hmem, hhash⟩

/-- The checks and what is trusted are the support of a PASS. -/
theorem fullySupported_iff
    (hreport : report.auditedArtifactHashes = r.audited.filterMap ArtifactMeta.contentHash)
    (hchecked : AuditChecked P r) : FullySupported P r report ↔ AuditTrusts P r := by
  constructor
  · intro h
    exact ⟨h.proposals_ne, fun e he => (h.evidence e he).isSealed,
      fun c hc => (h.rules c hc).isSealed, h.conflictReport.isSealed, h.unblocked⟩
  · intro h
    have hevidence (e) (he : e ∈ r.evidence) : Artifact.metadata e ∈ r.audited := by
      simpa [DecisionAuditRequest.audited] using .inl ⟨e, he, rfl⟩
    have hrules (c) (hc : c ∈ r.rules) : Artifact.metadata c ∈ r.audited := by
      simpa [DecisionAuditRequest.audited] using .inr (.inl ⟨c, hc, rfl⟩)
    have hproposals (p) (hp : p ∈ r.proposals) : Artifact.metadata p ∈ r.audited := by
      simpa [DecisionAuditRequest.audited] using .inr (.inr (.inr (.inr ⟨p, hp, rfl⟩)))
    have hcalculation : Artifact.metadata r.calculation ∈ r.audited := by
      simp [DecisionAuditRequest.audited, Artifact.metadata]
    have hconflicts : Artifact.metadata r.conflictReport ∈ r.audited := by
      simp [DecisionAuditRequest.audited, Artifact.metadata]
    exact {
      proposals_ne := h.proposals_ne
      evidence := fun e he => audited_of_verifyHash hreport (hevidence e he) (h.evidence e he)
      rules := fun c hc => audited_of_verifyHash hreport (hrules c hc) (h.rules c hc)
      calculation := audited_of_verifyHash hreport hcalculation hchecked.calculation
      conflictReport := audited_of_verifyHash hreport hconflicts h.conflictReport
      proposals := fun p hp =>
        audited_of_verifyHash hreport (hproposals p hp) (hchecked.proposals p hp).isSealed
      complete := hchecked.complete
      unblocked := h.unblocked
      total := hchecked.total
      supported := hchecked.proposals
      events := hchecked.events }

/-- A report that the program detected is trusted rightly. -/
theorem DetectedReport.auditTrusts_iff (h : DetectedReport P r.conflictReport)
    (hchecked : AuditChecked P r) : AuditTrusts P r ↔ r.proposals ≠ [] ∧
      (∀ e ∈ r.evidence, Artifact.verifyHash P e = .ok true) ∧
      ∀ c ∈ r.rules, Artifact.verifyHash P c = .ok true := by
  constructor
  · exact fun ht => ⟨ht.proposals_ne, ht.evidence, ht.rules⟩
  · rintro ⟨hne, hevidence, hrules⟩
    refine ⟨hne, hevidence, hrules, h.isSealed, ?_⟩
    rw [h.conflicts_eq_nil.1 hchecked.unblocked]
    exact fun c hc => absurd hc List.not_mem_nil

variable {context : SkillContext} {now : DateTime} {result : SkillResult DecisionAuditOutput}
  {output : DecisionAuditOutput}

/-- An audit passes exactly if its checks hold. -/
theorem verdict_eq_pass_iff (h : decisionAudit P context r now = .ok result)
    (hvalue : result.value = some output) : output.report.verdict = .pass ↔ AuditChecked P r :=
  (auditReportOf_spec (auditReportOf_of_decisionAudit h hvalue)).1

/-- A PASS is fully supported exactly if the request has a proposal, its evidence, its rules and its
conflict report verify their seals, and no conflict of the report blocks. -/
theorem pass_supported_iff (h : decisionAudit P context r now = .ok result)
    (hvalue : result.value = some output) (hpass : output.report.verdict = .pass) :
    FullySupported P r output.report ↔ AuditTrusts P r := by
  obtain ⟨hverdict, hhashes⟩ := auditReportOf_spec (auditReportOf_of_decisionAudit h hvalue)
  exact fullySupported_iff hhashes (hverdict.1 hpass)

end Pass

namespace Sample

/-- The metadata of an artifact with a hash. -/
def hashed (contentHash : Stripped) : ArtifactMeta :=
  (sheetWith "rate" "1" (some contentHash)).metadata

def wageSeal : Stripped :=
  label "sha256:fcedc32325b2d142db120d22733e04703a6400c4251ca8059ecaa9fcdacf0f2b"

/-- An item of evidence; the hash is that of the item with value 10000. -/
def wageItem (value : String) : EvidenceObject where
  metadata := hashed wageSeal
  evidenceType := label "document"
  fieldName := label "wage"
  normalizedValue := label value
  verbatimExcerpt := label "10000"
  sourceDocumentId := label "doc-1"
  factStatus := .verified
  confidence := ⟨Decimal.ofNat 1, Decimal.isProportion_one⟩

def rateDigest : Sha256Text :=
  ⟨lit "sha256:985306ead5e16229633afab938dc1e5581d55ab1167dbf1d6f1fa6e74e3c80db", by decide⟩

/-- A citation. -/
def wageRule : RuleCitation where
  metadata :=
    hashed (label "sha256:e3cfa7eee57eb660a5146e0ac2d0223ee37978fd5eb6e28459329dcb00ee24b8")
  ruleId := label "r-1"
  version := label "1"
  issueCode := label "a"
  title := label "title"
  jurisdiction := label "CN"
  effectiveFrom := (ruleFor "r-1" "a").effectiveFrom
  effectiveTo := none
  authoritativeSource := label "source"
  locator := label "locator"
  excerpt := label "statement"
  sourceHash := rateDigest

/-- A sheet with a total. -/
def totalSheet : CalculationSheet where
  metadata :=
    hashed (label "sha256:50dd60649aacbf141404167df54d6db4c745d51d5c86e3553e811189872a7a8a")
  lineItems := (sheetWith "rate" "1" none).lineItems
  total := some ⟨Decimal.ofNat 1, Decimal.isFinite_ofNat 1⟩
  missingParameters := []
  reproducibilityHash := none
  total_none h := absurd rfl h

/-- A complete report without conflicts. -/
def clearReport : ConflictReport where
  metadata :=
    hashed (label "sha256:7b51733df2243d3ebab2f6ea640bff491156eb986c4e718fa8861ed54c5ff56a")
  conflicts := []
  blockerIds := []
  inputComplete := true

/-- A proposal that refers to the other artifacts. -/
def wageProposal : Proposal where
  metadata :=
    hashed (label "sha256:04fcb29be402454c440c3526542c184ca238f5af688b1d82ef6f2a064b72fea2")
  optionCode := label "accept"
  summary := label "summary"
  actions := []
  evidenceRefs := [label "EvidenceObject:sheet-1"]
  ruleRefs := [label "RuleCitation:sheet-1"]
  calculationRef := some (label "CalculationSheet:sheet-1")
  risks := []
  uncertainties := []

/-- A request with one artifact of each class. -/
def auditRequest (value : String) : DecisionAuditRequest where
  proposals := [wageProposal]
  evidence := [wageItem value]
  rules := [wageRule]
  calculation := totalSheet
  conflictReport := clearReport
  observedEventTypes := requiredPreAuditEvents.map label
  policyVersion := label "audit-policy-v0.1"

/-- The digests of the artifacts, of the request with both values, and of what the audit returns. -/
def auditPlatform : Platform := platformOf
  [(437, 0xfcedc32325b2d142db120d22733e04703a6400c4251ca8059ecaa9fcdacf0f2b),
    (436, 0xa64c918a88842230f9bdde6fa660d707854e4fd661704499cf7c55896b01ea7b),
    (560, 0xe3cfa7eee57eb660a5146e0ac2d0223ee37978fd5eb6e28459329dcb00ee24b8),
    (474, 0x50dd60649aacbf141404167df54d6db4c745d51d5c86e3553e811189872a7a8a),
    (319, 0x7b51733df2243d3ebab2f6ea640bff491156eb986c4e718fa8861ed54c5ff56a),
    (476, 0x04fcb29be402454c440c3526542c184ca238f5af688b1d82ef6f2a064b72fea2),
    (441, 0x556386a408f489d085977251a5951e00d2f33d407110cdd9194e13f133ac6359),
    (897, 0x91317947d41bc84aec88801663793e84459ff9bec8831c58110415e1e50ad528),
    (3002, 0x2c88c100c3beb8112819693bd862f76d8e40569f4ef4f1b553bcd317aa86040b),
    (3001, 0x27f90e35c16ea5bac9d34987cc408538031dc9b921ad6e4f0a77aa0c9e81391e),
    (997, 0xdbc8ca021894008486945887d7e3240ca8390ccc0559df4b9f3b74901bf6bc48)]

/-- The verdict about the request. -/
def verdictFor (value : String) : Option AuditVerdict :=
  match decisionAudit auditPlatform (agentContext auditAgent) (auditRequest value)
    (.ofUtc sheetTime) with
  | .ok result => result.value.map fun output => output.report.verdict
  | .error _ => none

theorem exists_of_verdictFor {value : String} {verdict : AuditVerdict}
    (h : verdictFor value = some verdict) : ∃ result output,
      decisionAudit auditPlatform (agentContext auditAgent) (auditRequest value)
        (.ofUtc sheetTime) =
        .ok result ∧ result.value = some output ∧ output.report.verdict = verdict := by
  unfold verdictFor at h
  split at h
  · obtain ⟨output, hvalue, hverdict⟩ := Option.map_eq_some_iff.1 h
    exact ⟨_, output, by assumption, hvalue, hverdict⟩
  · cases h

theorem verdictFor_genuine : verdictFor "10000" = some .pass := by decide +kernel

theorem verdictFor_altered : verdictFor "9000" = some .pass := by decide +kernel

theorem trusts_genuine : AuditTrusts auditPlatform (auditRequest "10000") where
  proposals_ne := List.cons_ne_nil _ _
  evidence := by
    have h : Artifact.verifyHash auditPlatform (wageItem "10000") = .ok true := by decide +kernel
    exact List.forall_mem_singleton.2 h
  rules := by
    have h : Artifact.verifyHash auditPlatform wageRule = .ok true := by decide +kernel
    exact List.forall_mem_singleton.2 h
  conflictReport := by decide +kernel
  unblocked := nofun

theorem verifyHash_altered : Artifact.verifyHash auditPlatform (wageItem "9000") = .ok false := by
  decide +kernel

end Sample

/-- A request whose artifacts verify their seals. -/
theorem sample_pass_supported : ∃ result output,
    decisionAudit Sample.auditPlatform (Sample.agentContext auditAgent)
      (Sample.auditRequest "10000")
      (.ofUtc Sample.sheetTime) = .ok result ∧ result.value = some output ∧
      output.report.verdict = .pass ∧
      FullySupported Sample.auditPlatform (Sample.auditRequest "10000") output.report := by
  obtain ⟨result, output, hresult, hvalue, hpass⟩ :=
    Sample.exists_of_verdictFor Sample.verdictFor_genuine
  exact ⟨result, output, hresult, hvalue, hpass,
    (pass_supported_iff hresult hvalue hpass).2 Sample.trusts_genuine⟩

/-- A request whose evidence was altered after it was sealed passes. -/
theorem sample_pass_unsupported : ¬ ∀ (P : Platform) (context : SkillContext)
    (request : DecisionAuditRequest) (now : DateTime) (result : SkillResult DecisionAuditOutput)
    (output : DecisionAuditOutput), decisionAudit P context request now = .ok result →
    result.value = some output → output.report.verdict = .pass →
    FullySupported P request output.report := by
  intro hclaim
  obtain ⟨result, output, hresult, hvalue, hpass⟩ :=
    Sample.exists_of_verdictFor Sample.verdictFor_altered
  have hsupported := hclaim _ _ _ _ result output hresult hvalue hpass
  have hseal := (hsupported.evidence (Sample.wageItem "9000") List.mem_cons_self).isSealed
  exact absurd (Sample.verifyHash_altered.symm.trans hseal) (by decide)

end ProofFlow
