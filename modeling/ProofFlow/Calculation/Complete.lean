import ProofFlow.Calculation.Accepted

/-!
# Complete and unordered inputs

A success says that the citations are all that the catalog has for the declared scope, each a
quotation of its record.  A second call with the evidence in another order or repeated, and the
citations in another order, computes the same.
-/

namespace ProofFlow

open Kit

section Complete

variable {P : Platform} {excText : (Str → Option Str) → Str} {context : SkillContext}
  {request request' : CalculateRequest} {catalog : RuleCatalog} {store : TrustedArtifactStore}
  {now : DateTime} {p : CompensationParameters} {coefficient : Decimal}

/-- The citations are the active records of the catalog for the declared scope. -/
structure CitationsComplete (P : Platform) (context : SkillContext) (request : CalculateRequest)
    (catalog : RuleCatalog) : Prop where
  /-- As a multiset of identifier, version and issue. -/
  perm : (request.ruleCitations.map RuleCitation.key).Perm
    ((scopeRecords request.ruleScope.toRuleRetrieveRequest catalog).map RuleRecord.key)
  /-- Each quotes an active record, the only one of its identifier and version. -/
  authentic : ∀ c ∈ request.ruleCitations, catalog.hasOne c ∧
    ∃ r ∈ scopeRecords request.ruleScope.toRuleRetrieveRequest catalog, Cites P context r c
  nonempty : ∀ code ∈ request.ruleScope.issueCodes,
    matchingRuleRecords request.ruleScope.toRuleRetrieveRequest code catalog ≠ []
  cited : ∀ code ∈ request.ruleScope.issueCodes, ∃ c ∈ request.ruleCitations, c.issueCode = code
  required : ∀ issue ∈ requiredRuleIssues, ∃ c ∈ request.ruleCitations, c.issueCode.val = lit issue

theorem ruleKey_inj {a b c a' b' c' : Stripped} (h : ruleKey a b c = ruleKey a' b' c') :
    a = a' ∧ b = b' ∧ c = c' := by
  have hpair := congrArg ofLex h
  simp only [ruleKey, ofLex_toLex, Prod.mk.injEq, toLex_inj] at hpair
  exact ⟨Subtype.ext hpair.1, Subtype.ext hpair.2.1, Subtype.ext hpair.2.2⟩

theorem AcceptedRequest.perm (h : AcceptedRequest P context request catalog store p coefficient) :
    (request.ruleCitations.map RuleCitation.key).Perm
      ((scopeRecords request.ruleScope.toRuleRetrieveRequest catalog).map RuleRecord.key) :=
  insertionSort_eq_iff.1 h.complete.2.2

/-- A citation quotes a record of its key, and the comparison of keys makes that record active. -/
theorem AcceptedRequest.authentic
    (h : AcceptedRequest P context request catalog store p coefficient)
    {c : RuleCitation} (hc : c ∈ request.ruleCitations) : catalog.hasOne c ∧
      ∃ r ∈ scopeRecords request.ruleScope.toRuleRetrieveRequest catalog, Cites P context r c := by
  obtain ⟨r, hfilter, hcites⟩ := exists_record_of_matched (h.citations c hc)
  have hone : catalog.hasOne c := by
    unfold RuleCatalog.hasOne
    rw [hfilter]
    rfl
  have hkey :
      c.key ∈ (scopeRecords request.ruleScope.toRuleRetrieveRequest catalog).map RuleRecord.key :=
    h.perm.subset (List.mem_map_of_mem hc)
  obtain ⟨r', hr', hsame⟩ := List.mem_map.1 hkey
  obtain ⟨hid, hversion, -⟩ := ruleKey_inj hsame
  have hmem : r' ∈ catalog.rules.filter fun r => decide (r.sameKey c) :=
    List.mem_filter.2 ⟨mem_rules_of_mem_scopeRecords hr', decide_eq_true ⟨hid, hversion⟩⟩
  rw [hfilter, List.mem_singleton] at hmem
  exact ⟨hone, r, hmem ▸ hr', hcites⟩

theorem AcceptedRequest.citationsComplete
    (h : AcceptedRequest P context request catalog store p coefficient) :
    CitationsComplete P context request catalog where
  perm := h.perm
  authentic _ hc := h.authentic hc
  nonempty := h.complete.2.1
  cited code hcode := by
    obtain ⟨r, hr⟩ := List.exists_mem_of_ne_nil _ (h.complete.2.1 code hcode)
    have hscope : r ∈ scopeRecords request.ruleScope.toRuleRetrieveRequest catalog :=
      List.mem_flatMap.2 ⟨code, hcode, hr⟩
    have hissue : r.issueCode = code := (of_decide_eq_true (List.mem_filter.1 hr).2).1
    obtain ⟨c, hc, hsame⟩ := List.mem_map.1 (h.perm.symm.subset (List.mem_map_of_mem hscope))
    exact ⟨c, hc, (ruleKey_inj hsame).2.2.trans hissue⟩
  required := (inputIssues_eq_nil.1 h.inputs).2.2

/-- The request has the same inputs in another order; evidence may be repeated. -/
structure Reordered (request request' : CalculateRequest) : Prop where
  evidence : ∀ e, e ∈ request'.evidence ↔ e ∈ request.evidence
  citations : request'.ruleCitations.Perm request.ruleCitations
  scope : request'.ruleScope = request.ruleScope
  formula : request'.formulaVersion = request.formulaVersion

theorem Reordered.inputIssues (h : Reordered request request')
    (hinputs : inputIssues request.evidence request.ruleCitations = []) :
    inputIssues request'.evidence request'.ruleCitations = [] := by
  rw [inputIssues_eq_nil, conflictingFields_eq_nil] at hinputs ⊢
  rw [gives_congr h.evidence, fieldValue_congr h.evidence]
  refine ⟨hinputs.1, hinputs.2.1, fun issue hissue => ?_⟩
  obtain ⟨c, hc, hcode⟩ := hinputs.2.2 issue hissue
  exact ⟨c, h.citations.mem_iff.2 hc, hcode⟩

/-- Acceptance does not depend on the order. -/
theorem AcceptedRequest.reordered
    (h : AcceptedRequest P context request catalog store p coefficient)
    (hr : Reordered request request') :
    AcceptedRequest P context request' catalog store p coefficient where
  owner := h.owner
  evidence e he := h.evidence e ((hr.evidence e).1 he)
  citations c hc := h.citations c (hr.citations.mem_iff.1 hc)
  queryHash := by
    rw [hr.scope]
    exact h.queryHash
  complete := by
    obtain ⟨hversion, hnonempty, hkeys⟩ := h.complete
    rw [hr.scope]
    exact ⟨hversion, hnonempty, (insertionSort_eq_iff.2 (hr.citations.map _)).trans hkeys⟩
  formula := by
    rw [hr.formula]
    exact h.formula
  inputs := hr.inputIssues h.inputs
  parameters := by
    rw [fieldValue_congr hr.evidence]
    exact h.parameters

theorem Reordered.representable (h : Reordered request request') (hr : request.Representable) :
    request'.Representable :=
  ⟨fun e he => hr.1 e ((h.evidence e).1 he), fun c hc => hr.2 c (h.citations.mem_iff.1 hc)⟩

/-- Sheets of one computation agree up to their metadata. -/
theorem SheetOf.same {c c' : Computation} {hash hash' : Sha256Text}
    {item item' : CalculationLineItem} {sheet sheet' : CalculationSheet}
    (hr : Reordered request request')
    (h : SheetOf P request p coefficient c hash item sheet)
    (h' : SheetOf P request' p coefficient c' hash' item' sheet') :
    sheet'.total = sheet.total ∧ sheet'.lineItems = sheet.lineItems ∧
      sheet'.reproducibilityHash = sheet.reproducibilityHash := by
  obtain rfl : c = c' := Except.ok.inj (h.computed.symm.trans h'.computed)
  have hhash := h'.hash_eq
  have hitem := h'.item_eq
  rw [hr.formula, h.hash_eq] at hhash
  rw [hr.formula, h.item_eq] at hitem
  obtain rfl := Except.ok.inj hhash
  obtain rfl := Except.ok.inj hitem
  rw [h.total, h'.total, h.lineItems, h'.lineItems, h.reproducibilityHash, h'.reproducibilityHash]
  exact ⟨rfl, rfl, rfl⟩

/-- The call succeeds with a sheet that has the total, the line items and the reproducibility hash
of the given one. -/
def SucceedsAs (P : Platform) (excText : (Str → Option Str) → Str) (context : SkillContext)
    (request : CalculateRequest) (catalog : RuleCatalog) (store : TrustedArtifactStore)
    (now : DateTime) (sheet : CalculationSheet) : Prop :=
  ∃ result sheet', deterministicCalculate P excText context request catalog store now = .ok result ∧
    result.status = .success ∧ result.value = some ⟨sheet'⟩ ∧ sheet'.total = sheet.total ∧
      sheet'.lineItems = sheet.lineItems ∧ sheet'.reproducibilityHash = sheet.reproducibilityHash

/-- A success has complete citations, and the order and repetition of the inputs do not matter. -/
theorem calculation_complete (P : Platform) (excText : (Str → Option Str) → Str)
    (context : SkillContext) (request : CalculateRequest) (catalog : RuleCatalog)
    (store : TrustedArtifactStore) (now : DateTime) (result : SkillResult CalculateOutput)
    (h : deterministicCalculate P excText context request catalog store now = .ok result)
    (hstatus : result.status = .success) :
    CitationsComplete P context request catalog ∧
      ∃ sheet, result.value = some ⟨sheet⟩ ∧ ∀ request', Reordered request request' →
        SucceedsAs P excText context request' catalog store now sheet := by
  obtain ⟨p, coefficient, haccepted⟩ := accepted_of_success h hstatus
  rw [calculate_of_accepted haccepted] at h
  obtain ⟨c, hash, item, sheet, -, hvalue, hsheet⟩ := calculateSheet_eq_ok h
  refine ⟨haccepted.citationsComplete, sheet, hvalue, fun request' hreordered => ?_⟩
  have hcoefficient := isFinite_of_serviceCoefficient (readParameters_eq_ok haccepted.parameters)
  obtain ⟨hcomputes, hnow, hrepresentable⟩ := (exists_calculateSheet_iff P context hcoefficient).1
    ⟨result, h⟩
  obtain ⟨result', hresult'⟩ := (exists_calculateSheet_iff P context hcoefficient).2
    ⟨hcomputes, hnow, hreordered.representable hrepresentable⟩
  obtain ⟨c', hash', item', sheet', hstatus', hvalue', hsheet'⟩ := calculateSheet_eq_ok hresult'
  refine ⟨result', sheet', ?_, hstatus', hvalue', hsheet.same hreordered hsheet'⟩
  rw [calculate_of_accepted (haccepted.reordered hreordered)]
  exact hresult'

end Complete

/-- The sample calculation succeeds, and so does it with its evidence twice and in reverse. -/
theorem sample_calculation_complete : ∃ request sheet,
    Sample.requestOf Sample.wagePlatform Sample.wageEvidence = some request ∧
    CitationsComplete Sample.wagePlatform Sample.caller request Sample.compensationCatalog ∧
    SucceedsAs Sample.wagePlatform (fun _ => []) Sample.caller
      { request with
        evidence := request.evidence.reverse ++ request.evidence
        ruleCitations := request.ruleCitations.reverse }
      Sample.compensationCatalog (Sample.registered Sample.wagePlatform request.evidence)
      (.ofUtc Sample.sheetTime) sheet := by
  obtain ⟨request, hrequest, htotal⟩ := Option.map_eq_some_iff.1 Sample.total_wage
  obtain ⟨result, hresult, hstatus, -⟩ := Sample.exists_result_of_total htotal
  obtain ⟨hcomplete, sheet, -, hsucceeds⟩ :=
    calculation_complete Sample.wagePlatform _ Sample.caller
    request Sample.compensationCatalog _ _ result hresult hstatus
  exact ⟨request, sheet, hrequest, hcomplete,
    hsucceeds _ ⟨by simp, List.reverse_perm _, rfl, rfl⟩⟩

end ProofFlow
