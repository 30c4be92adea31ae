import ProofFlow.Calculation.Amount

/-!
# When the calculation returns

The checks before the arithmetic return on every request whose instants are in the calendar, and
what they refuse is blocked with an issue.  Past the checks the function returns exactly if the cap
and the amount fit into the decimal context, and the time of the sheet is in the calendar too.
-/

namespace ProofFlow

open Kit

section Total

variable {P : Platform} {excText : (Str → Option Str) → Str} {context : SkillContext}
  {request : CalculateRequest} {catalog : RuleCatalog} {store : TrustedArtifactStore}
    {now : DateTime} {result : SkillResult CalculateOutput}

/-! ## The checks return -/

/-- Whether a seal is valid is known once the digest can be computed. -/
theorem exists_sealIsValid {α : Type} [Artifact α] {a : α}
    (h : (Artifact.dump a).Encodable [hashKey]) : ∃ valid, sealIsValid P a = .ok valid := by
  obtain ⟨digest, hdigest⟩ := (exists_sha256Digest_iff (P := P)).2 h
  have hverified : ∃ valid, Artifact.verifyHash P a = .ok valid := by
    unfold Artifact.verifyHash
    split
    · exact ⟨false, rfl⟩
    · have hseal : Artifact.sealDigest P a = .ok digest := hdigest
      rw [hseal, ok_bind]
      exact ⟨_, rfl⟩
  obtain ⟨valid, hvalid⟩ := hverified
  unfold sealIsValid
  rw [hvalid]
  exact ⟨valid, rfl⟩

theorem exists_contains {e : EvidenceObject} (h : (Artifact.dump e).Encodable []) :
    ∃ known, store.contains context e = .ok known := by
  obtain ⟨c, hc⟩ := (exists_canonicalize_iff [] _).2 h
  unfold TrustedArtifactStore.contains lookupOf EvidenceObject.canonicalBytes
  cases e.metadata.contentHash with
  | none => exact ⟨false, rfl⟩
  | some contentHash =>
    rw [hc]
    exact ⟨_, rfl⟩

theorem exists_ruleMatchesCatalog (c : RuleCitation) :
    ∃ matched, ruleMatchesCatalog P c catalog = .ok matched := by
  unfold ruleMatchesCatalog
  split
  · rename_i r _
    obtain ⟨digest, hdigest⟩ := (exists_sha256Digest_iff (P := P)).2 (encodable_record r)
    split
    · rw [hdigest, ok_bind]
      exact ⟨_, rfl⟩
    · exact ⟨false, rfl⟩
  · exact ⟨false, rfl⟩

theorem exists_checkEvidence {e : EvidenceObject} (h : e.metadata.createdAt.val.Representable)
    (flags : BoundaryFlags) : ∃ flags', checkEvidence P context store flags e = .ok flags' := by
  obtain ⟨valid, hvalid⟩ : ∃ valid, sealIsValid P e = .ok valid :=
    exists_sealIsValid ((encodable_evidence (by decide) (by decide) e).2 h)
  obtain ⟨known, hknown⟩ : ∃ known, store.contains context e = .ok known :=
    exists_contains ((encodable_evidence (by decide) (by decide) e).2 h)
  unfold checkEvidence
  rw [hvalid, ok_bind]
  dsimp only
  rw [hknown, ok_bind]
  exact ⟨_, rfl⟩

theorem exists_checkRule {c : RuleCitation} (h : c.metadata.createdAt.val.Representable)
    (flags : BoundaryFlags) : ∃ flags', checkRule P context catalog flags c = .ok flags' := by
  have hunverified : ∃ unverified, unverifiedOr P catalog flags.unverified c = .ok unverified := by
    unfold unverifiedOr ruleUnverified
    split
    · exact ⟨true, rfl⟩
    · obtain ⟨valid, hvalid⟩ : ∃ valid, sealIsValid P c = .ok valid :=
        exists_sealIsValid ((encodable_citation (by decide) (by decide) c).2 h)
      obtain ⟨matched, hmatched⟩ : ∃ matched, ruleMatchesCatalog P c catalog = .ok matched :=
        exists_ruleMatchesCatalog c
      rw [hvalid, ok_bind]
      split
      · exact ⟨true, rfl⟩
      · rw [hmatched, ok_bind]
        exact ⟨_, rfl⟩
  obtain ⟨unverified, hunverified⟩ := hunverified
  unfold checkRule
  rw [hunverified, ok_bind]
  exact ⟨_, rfl⟩

theorem exists_artifactBoundaryIssues (h : request.Representable) :
    ∃ issues, artifactBoundaryIssues P context request catalog store = .ok issues := by
  obtain ⟨flags, hflags⟩ := exists_foldlM (f := checkEvidence P context store)
    (fun e he flags => exists_checkEvidence (h.1 e he) flags) .clear
  obtain ⟨flags', hflags'⟩ := exists_foldlM (f := checkRule P context catalog)
    (fun c hc flags => exists_checkRule (h.2 c hc) flags) flags
  unfold artifactBoundaryIssues evidenceFlags
  rw [hflags, ok_bind, hflags', ok_bind]
  exact ⟨_, rfl⟩

theorem exists_ruleScopeIssue : ∃ issue, ruleScopeIssue P request catalog = .ok issue := by
  obtain ⟨digest, hdigest⟩ := (exists_sha256Digest_iff (P := P)).2
    (encodable_query request.ruleScope.toRuleRetrieveRequest)
  unfold ruleScopeIssue
  rw [hdigest, ok_bind]
  split
  · exact ⟨_, rfl⟩
  · exact ⟨_, rfl⟩

theorem exists_blockedBy (h : request.Representable) (issues : List Issue) :
    ∃ result, blockedBy P request issues = .ok result := by
  obtain ⟨digest, hdigest⟩ := (exists_inputHash_iff (P := P)).2 h
  unfold blockedBy
  rw [hdigest, ok_bind]
  exact ⟨_, rfl⟩

theorem exists_denied (h : request.Representable) (identity : String) : ∃ refused,
    denied (α := CalculateOutput) P context request.dump identity = .ok refused := by
  obtain ⟨digest, hdigest⟩ := (exists_inputHash_iff (P := P)).2 h
  unfold denied
  split
  · exact ⟨none, rfl⟩
  · rw [hdigest, ok_bind]
    exact ⟨_, rfl⟩

/-! ## What the `try` catches -/

/-- The only error of the coefficient is a date that does not exist. -/
theorem error_of_serviceCoefficient {start last : Date} {e : Fault}
    (h : serviceCoefficient start last = .error e) : e = .valueError := by
  by_cases horder : last < start
  · unfold serviceCoefficient at h
    rw [if_pos horder] at h
    exact (Except.error.inj h).symm
  · obtain ⟨n, hn, -⟩ := exists_completed horder
    rcases serviceCoefficient_cases horder hn with ⟨d, hd, -⟩ | ⟨-, herror⟩
    · rw [hd] at h
      cases h
    · rw [herror] at h
      exact (Except.error.inj h).symm

/-- With all values present, every error of the `try` is caught. -/
theorem caught_of_readParameters {values : Str → Option Str} {e : Fault}
    (hpresent : ∀ field ∈ requiredFields, (values (lit field)).isSome = true)
    (h : readParameters values = .error e) : caughtByCalculate e = true := by
  have hvalue (field : String) (hfield : field ∈ requiredFields) :
      ∃ text, valueAt values field = .ok text := by
    obtain ⟨text, htext⟩ := Option.isSome_iff_exists.1 (hpresent field hfield)
    unfold valueAt
    rw [htext]
    exact ⟨text, rfl⟩
  have hdate {text : Str} {e : Fault} (h : dateOf text = .error e) :
      caughtByCalculate e = true := by
    unfold dateOf at h
    split at h
    · cases h
    · rw [← Except.error.inj h]
      rfl
  have hdecimal {text : Str} {e : Fault} (h : decimalOf text = .error e) :
      caughtByCalculate e = true := by
    unfold decimalOf at h
    split at h
    · cases h
    · rw [← Except.error.inj h]
      rfl
  have hpositive {d : Decimal} {e : Fault} (h : positive d = .error e) :
      caughtByCalculate e = true := by
    unfold positive at h
    split at h
    · cases h
    · rw [← Except.error.inj h]
      rfl
  obtain ⟨start, hstart⟩ := hvalue "employment_start_date" (by decide)
  obtain ⟨termination, htermination⟩ := hvalue "planned_termination_date" (by decide)
  obtain ⟨monthly, hmonthly⟩ := hvalue "monthly_wage_average" (by decide)
  obtain ⟨average, haverage⟩ := hvalue "local_previous_year_monthly_average_wage" (by decide)
  unfold readParameters at h
  simp only [hstart, htermination, hmonthly, haverage, ok_bind, bind_eq_error, pure, Except.pure,
    reduceCtorEq, and_false, exists_false, or_false] at h
  obtain h | ⟨_, -, h | ⟨_, -, h | ⟨_, -, h | ⟨_, -, h | ⟨_, -, h | ⟨_, -, h⟩⟩⟩⟩⟩⟩ := h
  · exact hdate h
  · exact hdate h
  · exact hdecimal h
  · exact hdecimal h
  · exact hpositive h
  · exact hpositive h
  · rw [error_of_serviceCoefficient h]
    rfl

/-! ## The arithmetic -/

/-- The cap does not overflow, and the cents of the amount have at most 28 digits. -/
structure InContext (p : CompensationParameters) (coefficient : Decimal) : Prop where
  cap : roundedCap p.localPreviousYearMonthlyAverageWage.val.value < Decimal.ceiling
  cents : cents (roundedProduct p.monthlyWageAverage.val.value
    p.localPreviousYearMonthlyAverageWage.val.value coefficient.value) < 10 ^ 28

theorem exists_compute_iff {p : CompensationParameters} {coefficient : Decimal}
    (h : serviceCoefficient p.employmentStartDate p.plannedTerminationDate = .ok coefficient) :
    (∃ c, compute p coefficient = .ok c) ↔ InContext p coefficient := by
  obtain ⟨wage, hwage, hwage0⟩ := Decimal.exists_is_of_isPositive p.monthlyWageAverage.property
  obtain ⟨average, haverage, haverage0⟩ :=
    Decimal.exists_is_of_isPositive p.localPreviousYearMonthlyAverageWage.property
  obtain ⟨x, hcoefficient, hx⟩ := exists_is_of_serviceCoefficient h
  have hcases := compute_cases hwage hwage0 haverage haverage0 hcoefficient hx
  rw [← hwage.value_eq, ← haverage.value_eq, ← hcoefficient.value_eq] at hcases
  rcases hcases with ⟨hfits, c, hc, -⟩ | ⟨hnot, e, herror⟩
  · exact iff_of_true ⟨c, hc⟩ ⟨hfits.1, hfits.2⟩
  · refine iff_of_false ?_ fun hin => hnot ⟨hin.cap, hin.cents⟩
    rintro ⟨c, hc⟩
    rw [hc] at herror
    cases herror

/-! ## The function -/

/-- The function returns a success, or it is blocked with an issue. -/
def Answers (answer : Except Fault (SkillResult CalculateOutput)) : Prop :=
  ∃ result, answer = .ok result ∧
    (result.status = .success ∨ result.status = .blocked ∧ result.issues ≠ [])

/-- With all instants in the calendar the function returns unless it comes to the arithmetic. -/
theorem accepted_or_returns (h : request.Representable) :
    (∃ p coefficient, AcceptedRequest P context request catalog store p coefficient) ∨
      ∃ result, deterministicCalculate P excText context request catalog store now =
        .ok result := by
  obtain ⟨refused, hrefused⟩ : ∃ refused,
      denied (α := CalculateOutput) P context request.dump "PF-A4" = .ok refused :=
    exists_denied h "PF-A4"
  obtain ⟨boundaryIssues, hboundary⟩ : ∃ issues,
      artifactBoundaryIssues P context request catalog store = .ok issues :=
    exists_artifactBoundaryIssues h
  obtain ⟨scopeIssue, hscope⟩ : ∃ issue, ruleScopeIssue P request catalog = .ok issue :=
    exists_ruleScopeIssue
  unfold deterministicCalculate
  rw [hrefused, ok_bind]
  cases refused with
  | some answer => exact .inr ⟨answer, rfl⟩
  | none =>
    dsimp only
    rw [hboundary, ok_bind]
    by_cases hclear : boundaryIssues = []
    · subst hclear
      rw [if_neg (by simp), hscope, ok_bind]
      cases scopeIssue with
      | some issue => exact .inr (exists_blockedBy h _)
      | none =>
        dsimp only
        by_cases hformula : request.formulaVersion.val = supportedFormula
        · rw [if_neg (by simpa using hformula)]
          unfold calculateValues
          dsimp only
          by_cases hinputs : inputIssues request.evidence request.ruleCitations = []
          · rw [if_neg (by simpa using hinputs)]
            cases hread : readParameters (fieldValue request.evidence) with
            | ok parameters =>
              obtain ⟨hevidence, hcitations⟩ := artifactBoundaryIssues_eq_nil.1 hboundary
              obtain ⟨hquery, hcomplete⟩ := ruleScopeIssue_eq_none.1 hscope
              exact .inl ⟨parameters.1, parameters.2, denied_eq_none.1 hrefused, hevidence,
                hcitations, hquery, hcomplete, hformula, hinputs, hread⟩
            | error e =>
              have hcaught := caught_of_readParameters (inputIssues_eq_nil.1 hinputs).2.1 hread
              dsimp only
              rw [if_pos hcaught]
              exact .inr (exists_blockedBy h _)
          · rw [if_pos hinputs]
            exact .inr (exists_blockedBy h _)
        · rw [if_pos hformula]
          exact .inr (exists_blockedBy h _)
    · rw [if_pos hclear]
      exact .inr (exists_blockedBy h _)

/-- The function answers exactly if all instants of the request are in the calendar and, where it
comes to the arithmetic, that of the sheet is too and the amount fits into the decimal context. -/
theorem answers_iff (P : Platform) (excText : (Str → Option Str) → Str) (context : SkillContext)
    (request : CalculateRequest) (catalog : RuleCatalog) (store : TrustedArtifactStore)
    (now : DateTime) :
    Answers (deterministicCalculate P excText context request catalog store now) ↔
      request.Representable ∧ ∀ p coefficient,
        AcceptedRequest P context request catalog store p coefficient →
          now.Representable ∧ InContext p coefficient := by
  have harithmetic {p : CompensationParameters} {coefficient : Decimal}
      (haccepted : AcceptedRequest P context request catalog store p coefficient) :
      (∃ result, calculateSheet P context request now p coefficient = .ok result) ↔
        InContext p coefficient ∧ now.Representable ∧ request.Representable := by
    have hcoefficient := readParameters_eq_ok haccepted.parameters
    rw [exists_calculateSheet_iff P context (isFinite_of_serviceCoefficient hcoefficient),
      exists_compute_iff hcoefficient]
  constructor
  · rintro ⟨result, hresult, -⟩
    constructor
    · rcases calculate_cases hresult with ⟨-, hrepresentable⟩ | ⟨p, coefficient, haccepted, hsheet⟩
      · exact hrepresentable
      · exact ((harithmetic haccepted).1 ⟨result, hsheet⟩).2.2
    · intro p coefficient haccepted
      rw [calculate_of_accepted haccepted] at hresult
      obtain ⟨hin, hnow, -⟩ := (harithmetic haccepted).1 ⟨result, hresult⟩
      exact ⟨hnow, hin⟩
  · rintro ⟨hrepresentable, hfits⟩
    have hreturns : ∃ result,
        deterministicCalculate P excText context request catalog store now = .ok result := by
      rcases accepted_or_returns hrepresentable with ⟨p, coefficient, haccepted⟩ | hreturns
      · obtain ⟨hnow, hin⟩ := hfits p coefficient haccepted
        rw [calculate_of_accepted haccepted]
        exact (harithmetic haccepted).2 ⟨hin, hnow, hrepresentable⟩
      · exact hreturns
    obtain ⟨result, hresult⟩ := hreturns
    refine ⟨result, hresult, ?_⟩
    rcases calculate_cases hresult with ⟨hblocked, -⟩ | ⟨p, coefficient, -, hsheet⟩
    · exact .inr ⟨hblocked.status, hblocked.issues_ne⟩
    · obtain ⟨_, _, _, _, hstatus, -⟩ := calculateSheet_eq_ok hsheet
      exact .inl hstatus

end Total

namespace Sample

/-- Wages of `1E+26`, whose cents have 29 digits. -/
def largeEvidence : List EvidenceObject := parameters
  (parameter "monthly_wage_average" "1E+26"
    "sha256:3f2c652bf12769d02fd8a713801858374bc03d3ead1f19ac9a2f3c313a462896")
  (parameter "local_previous_year_monthly_average_wage" "1E+26"
    "sha256:20ee0d22977e9069c6b2be0291a9b1bfe659244b228a27a6144c4eb774fdb879")

def largePlatform : Platform := platformOf (inputDigests ++
  [(477, 0x3f2c652bf12769d02fd8a713801858374bc03d3ead1f19ac9a2f3c313a462896),
    (497, 0x20ee0d22977e9069c6b2be0291a9b1bfe659244b228a27a6144c4eb774fdb879),
    (4057, 0x4857285b1f03a197d683e404a07870d5bf38bdb42a2bfad4e8b4089f9c1b48a3)])

/-- What an answer raises. -/
def raisedBy : Except Fault (SkillResult CalculateOutput) → Option Fault
  | .ok _ => none
  | .error e => some e

set_option maxRecDepth 100000 in
theorem raised_large : (requestOf largePlatform largeEvidence).map
    (fun r => raisedBy (answerTo largePlatform r)) = some (some .invalidOperation) := by
  decide +kernel

end Sample

/-- Registered and verified wages of `1E+26` make the function raise `InvalidOperation`. -/
theorem sample_calculation_raises : ¬ ∀ (P : Platform) (excText : (Str → Option Str) → Str)
    (context : SkillContext) (request : CalculateRequest) (catalog : RuleCatalog)
    (store : TrustedArtifactStore) (now : DateTime), now.Representable →
    Answers (deterministicCalculate P excText context request catalog store now) := by
  intro hclaim
  obtain ⟨request, -, hraised⟩ := Option.map_eq_some_iff.1 Sample.raised_large
  obtain ⟨result, hresult, -⟩ := hclaim Sample.largePlatform (fun _ => []) Sample.caller request
    Sample.compensationCatalog (Sample.registered Sample.largePlatform request.evidence)
    (.ofUtc Sample.sheetTime) (by decide)
  have hanswer : Sample.answerTo Sample.largePlatform request = .ok result := hresult
  rw [hanswer] at hraised
  cases hraised

end ProofFlow
