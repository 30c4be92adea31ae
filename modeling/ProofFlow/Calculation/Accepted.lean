import ProofFlow.Calculation.Calculate
import ProofFlow.Encoding
import ProofFlow.Tool.Registry

/-!
# Accepted requests

A calculation succeeds on a request that passes the boundary, covers its declared scope and has one
value for every parameter.  Which values a request has depends on the set of its evidence only.
-/

namespace ProofFlow

open Kit

/-! ## Values by field -/

section Values

variable {evidence evidence' : List EvidenceObject} {field : Str}

/-- An object gives a field a value. -/
def Gives (evidence : List EvidenceObject) (field value : Str) : Prop :=
  ∃ e ∈ evidence, e.fieldName.val = field ∧ e.normalizedValue.val = value

/-- The dictionary has the values of the evidence. -/
structure Groups (evidence : List EvidenceObject) (grouped : Dict Str (List Str)) : Prop where
  mem_iff : ∀ field value, value ∈ (grouped.get field).getD [] ↔ Gives evidence field value
  nodup : ∀ field, ((grouped.get field).getD []).Nodup
  nonempty : ∀ field, grouped.get field ≠ some []

theorem Groups.step {grouped : Dict Str (List Str)} (h : Groups evidence grouped)
    (item : EvidenceObject) : Groups (evidence ++ [item]) (groupValue grouped item) := by
  have hget (field : Str) : (groupValue grouped item).get field =
      if field = item.fieldName.val then
        some (((grouped.get item.fieldName.val).getD []).insert item.normalizedValue.val)
      else grouped.get field := Dict.get_set _ _ _ _
  refine ⟨fun field value => ?_, fun field => ?_, fun field => ?_⟩
  · have hgives : Gives (evidence ++ [item]) field value ↔ Gives evidence field value ∨
        (item.fieldName.val = field ∧ item.normalizedValue.val = value) := by
      simp [Gives, or_and_right, exists_or]
    rw [hgives, ← h.mem_iff, hget]
    by_cases hfield : field = item.fieldName.val
    · subst hfield
      rw [if_pos rfl, Option.getD_some, List.mem_insert_iff]
      constructor
      · rintro (rfl | hmem)
        · exact .inr ⟨rfl, rfl⟩
        · exact .inl hmem
      · rintro (hmem | ⟨-, rfl⟩)
        · exact .inr hmem
        · exact .inl rfl
    · rw [if_neg hfield]
      exact ⟨.inl, fun h => h.resolve_right fun hitem => hfield hitem.1.symm⟩
  · rw [hget]
    split_ifs with hfield
    · exact (h.nodup _).insert
    · exact h.nodup field
  · rw [hget]
    split_ifs with hfield
    · intro hnil
      have hmem := List.mem_insert_self (a := item.normalizedValue.val)
        (l := (grouped.get item.fieldName.val).getD [])
      rw [Option.some.inj hnil] at hmem
      cases hmem
    · exact h.nonempty field

theorem groups_groupedValues (evidence : List EvidenceObject) :
    Groups evidence (groupedValues evidence) := by
  induction evidence using List.reverseRecOn with
  | nil =>
    refine ⟨fun field value => ?_, fun field => ?_, fun field => ?_⟩
    · simp [groupedValues, Gives]
    · simp [groupedValues]
    · simp [groupedValues]
  | append_singleton l item ih =>
    unfold groupedValues at ih ⊢
    rw [List.foldl_append]
    exact ih.step item

/-- A field has a value exactly if some object gives it and no object gives another. -/
theorem fieldValue_eq_some {value : Str} : fieldValue evidence field = some value ↔
    Gives evidence field value ∧ ∀ other, Gives evidence field other → other = value := by
  have h := groups_groupedValues evidence
  have hmem := h.mem_iff field
  have hnodup := h.nodup field
  have hnonempty := h.nonempty field
  unfold fieldValue
  cases hget : (groupedValues evidence).get field with
  | none => simp [hget, ← hmem]
  | some values =>
    rw [hget, Option.getD_some] at hnodup
    simp only [hget, Option.getD_some] at hmem
    simp only [← hmem]
    rcases values with _ | ⟨v, _ | ⟨w, rest⟩⟩
    · exact absurd hget hnonempty
    · simp [eq_comm]
    · have hne : v ≠ w := fun heq => (List.nodup_cons.1 hnodup).1 (heq ▸ List.mem_cons_self)
      simp only [reduceCtorEq, false_iff, not_and]
      intro _ hall
      exact hne ((hall v (by simp)).trans (hall w (by simp)).symm)

/-- No field conflicts exactly if every field is given one value at most. -/
theorem conflictingFields_eq_nil : conflictingFields evidence = [] ↔
    ∀ field value other, Gives evidence field value → Gives evidence field other →
      value = other := by
  have h := groups_groupedValues evidence
  have hnil : conflictingFields evidence = [] ↔
      ∀ e ∈ (groupedValues evidence).entries, ¬ 1 < e.2.length := by
    unfold conflictingFields
    rw [← List.length_eq_zero_iff, length_sortedStr, List.length_eq_zero_iff, List.map_eq_nil_iff,
      List.filter_eq_nil_iff]
    simp
  rw [hnil]
  constructor
  · intro hone field value other hvalue hother
    rw [← h.mem_iff] at hvalue hother
    cases hget : (groupedValues evidence).get field with
    | none =>
      rw [hget] at hvalue
      cases hvalue
    | some values =>
      have hlength := hone ⟨field, values⟩ (Dict.mem_entries_iff.2 hget)
      rw [hget, Option.getD_some] at hvalue hother
      rcases values with _ | ⟨v, _ | ⟨w, rest⟩⟩
      · cases hvalue
      · rw [List.mem_singleton.1 hvalue, List.mem_singleton.1 hother]
      · exact absurd hlength (by simp)
  · rintro hsame ⟨field, values⟩ he hlong
    have hget := Dict.mem_entries_iff.1 he
    have hnodup := h.nodup field
    have hmem := h.mem_iff field
    simp only [hget, Option.getD_some] at hnodup hmem
    rcases values with _ | ⟨v, _ | ⟨w, rest⟩⟩
    · exact absurd hlong (by simp)
    · exact absurd hlong (by simp)
    · have hne : v ≠ w := fun heq => (List.nodup_cons.1 hnodup).1 (heq ▸ List.mem_cons_self)
      exact hne (hsame field v w ((hmem v).1 (by simp)) ((hmem w).1 (by simp)))

theorem gives_congr (h : ∀ e, e ∈ evidence' ↔ e ∈ evidence) : Gives evidence' = Gives evidence := by
  funext field value
  simp [Gives, h]

/-- The values do not depend on the order of the evidence or on repetitions. -/
theorem fieldValue_congr (h : ∀ e, e ∈ evidence' ↔ e ∈ evidence) :
    fieldValue evidence' = fieldValue evidence := by
  funext field
  apply Option.ext
  intro value
  rw [fieldValue_eq_some, fieldValue_eq_some, gives_congr h]

end Values

/-! ## The checks -/

section Checks

variable {P : Platform} {context : SkillContext} {request : CalculateRequest}
    {catalog : RuleCatalog} {store : TrustedArtifactStore}

/-- A check of a seal that raises nothing succeeds exactly if the seal fits. -/
theorem sealIsValid_eq_true {α : Type} [Artifact α] {a : α} :
    sealIsValid P a = .ok true ↔ Artifact.verifyHash P a = .ok true := by
  unfold sealIsValid
  split <;> simp_all

/-- An object that raises no flag. -/
structure EvidenceTrusted (P : Platform) (context : SkillContext) (store : TrustedArtifactStore)
    (e : EvidenceObject) : Prop where
  isSealed : Artifact.verifyHash P e = .ok true
  issuedBy : e.metadata.issuedBy "PF-A2"
  inContext : e.metadata.inContext context
  verified : e.factStatus = .verified
  registered : store.contains context e = .ok true

theorem checkEvidence_eq_clear (flags : BoundaryFlags) (e : EvidenceObject) :
    checkEvidence P context store flags e = .ok .clear ↔
      flags = .clear ∧ EvidenceTrusted P context store e := by
  unfold checkEvidence BoundaryFlags.clear
  simp only [bind_eq_ok, pure, Except.pure, Except.ok.injEq]
  constructor
  · rintro ⟨valid, hvalid, registered, hregistered, hflags⟩
    obtain ⟨unverified, untrusted, cross, unresolved⟩ := flags
    simp only [BoundaryFlags.mk.injEq, Bool.or_eq_false_iff, Bool.not_eq_false',
      decide_eq_true_eq, decide_eq_false_iff_not, not_not] at hflags
    obtain ⟨⟨rfl, rfl, hissued⟩, ⟨rfl, huntrusted⟩, ⟨rfl, hcontext⟩, ⟨rfl, hverified⟩⟩ := hflags
    have hknown : registered = true := by simpa [hissued, hcontext, hverified] using huntrusted
    exact ⟨rfl, sealIsValid_eq_true.1 hvalid, hissued, hcontext, hverified, hknown ▸ hregistered⟩
  · rintro ⟨rfl, hsealed, hissued, hcontext, hverified, hregistered⟩
    refine ⟨true, sealIsValid_eq_true.2 hsealed, true, hregistered, ?_⟩
    simp [hissued, hcontext, hverified]

/-- A citation that raises no flag. -/
structure CitationTrusted (P : Platform) (context : SkillContext) (catalog : RuleCatalog)
    (c : RuleCitation) : Prop where
  isSealed : Artifact.verifyHash P c = .ok true
  issuedBy : c.metadata.issuedBy "PF-A3"
  inContext : c.metadata.inContext context
  matched : ruleMatchesCatalog P c catalog = .ok true

theorem ruleUnverified_eq_false {c : RuleCitation} : ruleUnverified P catalog c = .ok false ↔
    Artifact.verifyHash P c = .ok true ∧ c.metadata.issuedBy "PF-A3" ∧
      ruleMatchesCatalog P c catalog = .ok true := by
  unfold ruleUnverified
  simp only [bind_eq_ok, pure, Except.pure]
  constructor
  · rintro ⟨valid, hvalid, h⟩
    split at h
    · cases h
    · rename_i hchecks
      simp only [Bool.or_eq_true, Bool.not_eq_true', decide_eq_false_iff_not, not_or,
        Bool.not_eq_false, not_not] at hchecks
      obtain ⟨rfl, hissued⟩ := hchecks
      obtain ⟨matched, hmatched, h⟩ := bind_eq_ok.1 h
      have htrue : matched = true := by simpa using h
      exact ⟨sealIsValid_eq_true.1 hvalid, hissued, htrue ▸ hmatched⟩
  · rintro ⟨hsealed, hissued, hmatched⟩
    refine ⟨true, sealIsValid_eq_true.2 hsealed, ?_⟩
    simp [hissued, hmatched, bind, Except.bind]

theorem checkRule_eq_clear (flags : BoundaryFlags) (c : RuleCitation) :
    checkRule P context catalog flags c = .ok .clear ↔
      flags = .clear ∧ CitationTrusted P context catalog c := by
  unfold checkRule BoundaryFlags.clear
  simp only [bind_eq_ok, pure, Except.pure, Except.ok.injEq]
  constructor
  · rintro ⟨unverified, hunverified, hflags⟩
    obtain ⟨raised, untrusted, cross, unresolved⟩ := flags
    simp only [BoundaryFlags.mk.injEq, Bool.or_eq_false_iff, Bool.not_eq_false',
      decide_eq_true_eq] at hflags
    obtain ⟨rfl, rfl, ⟨rfl, hcontext⟩, rfl⟩ := hflags
    unfold unverifiedOr at hunverified
    split at hunverified
    · cases hunverified
    · rename_i hdown
      obtain ⟨hsealed, hissued, hmatched⟩ := ruleUnverified_eq_false.1 hunverified
      have hfalse : raised = false := by simpa using hdown
      exact ⟨by rw [hfalse], hsealed, hissued, hcontext, hmatched⟩
  · rintro ⟨rfl, hsealed, hissued, hcontext, hmatched⟩
    refine ⟨false, ?_, ?_⟩
    · rw [unverifiedOr, if_neg (by simp)]
      exact ruleUnverified_eq_false.2 ⟨hsealed, hissued, hmatched⟩
    · simp [hcontext]

theorem BoundaryFlags.issues_eq_nil {flags : BoundaryFlags} :
    flags.issues = [] ↔ flags = .clear := by
  obtain ⟨unverified, untrusted, cross, unresolved⟩ := flags
  cases unverified <;> cases untrusted <;> cases cross <;> cases unresolved <;>
    simp [BoundaryFlags.issues, BoundaryFlags.clear]

/-- There is no issue exactly if every artifact passes. -/
theorem artifactBoundaryIssues_eq_nil :
    artifactBoundaryIssues P context request catalog store = .ok [] ↔
      (∀ e ∈ request.evidence, EvidenceTrusted P context store e) ∧
        ∀ c ∈ request.ruleCitations, CitationTrusted P context catalog c := by
  unfold artifactBoundaryIssues evidenceFlags
  simp only [bind_eq_ok, pure, Except.pure, Except.ok.injEq, BoundaryFlags.issues_eq_nil]
  constructor
  · rintro ⟨flags, hflags, _, hrules, rfl⟩
    obtain ⟨rfl, hcitations⟩ := (foldlM_eq_iff checkRule_eq_clear flags).1 hrules
    exact ⟨((foldlM_eq_iff checkEvidence_eq_clear _).1 hflags).2, hcitations⟩
  · rintro ⟨hevidence, hcitations⟩
    exact ⟨.clear, (foldlM_eq_iff checkEvidence_eq_clear _).2 ⟨rfl, hevidence⟩, .clear,
      (foldlM_eq_iff checkRule_eq_clear _).2 ⟨rfl, hcitations⟩, rfl⟩

/-- The record that a matching citation quotes. -/
theorem exists_record_of_matched {c : RuleCitation} (h : CitationTrusted P context catalog c) :
    ∃ r, (catalog.rules.filter fun r => decide (r.sameKey c)) = [r] ∧ Cites P context r c := by
  have hmatched := h.matched
  unfold ruleMatchesCatalog at hmatched
  split at hmatched
  · rename_i r hfilter
    have hkey : r.sameKey c := by
      have hmem : r ∈ catalog.rules.filter fun r => decide (r.sameKey c) := by rw [hfilter]; simp
      exact of_decide_eq_true (List.mem_filter.1 hmem).2
    split at hmatched
    · rename_i hquoted
      obtain ⟨digest, hdigest, hsame⟩ := bind_eq_ok.1 hmatched
      simp only [pure, Except.pure, Except.ok.injEq, Bool.and_eq_true, decide_eq_true_eq] at hsame
      obtain ⟨rfl, hrefs⟩ := hsame
      exact ⟨r, hfilter, h.isSealed, h.issuedBy, h.inContext, hrefs, hkey, hquoted, hdigest⟩
    · cases hmatched
  · cases hmatched

theorem ruleScopeIssue_eq_none : ruleScopeIssue P request catalog = .ok none ↔
    sha256Digest P request.ruleScope.toRuleRetrieveRequest.dump [] =
      .ok request.ruleScope.ruleQueryInputHash ∧
    scopeComplete request.ruleScope request.ruleCitations catalog := by
  unfold ruleScopeIssue
  simp only [bind_eq_ok, pure, Except.pure]
  constructor
  · rintro ⟨hash, hhash, h⟩
    split at h
    · rename_i hpass
      exact ⟨hpass.1 ▸ hhash, hpass.2⟩
    · cases h
  · rintro ⟨hhash, hcomplete⟩
    exact ⟨_, hhash, by rw [if_pos ⟨rfl, hcomplete⟩]⟩

/-- There is no issue about values and rules. -/
theorem inputIssues_eq_nil {evidence : List EvidenceObject} {citations : List RuleCitation} :
    inputIssues evidence citations = [] ↔ conflictingFields evidence = [] ∧
      (∀ field ∈ requiredFields, (fieldValue evidence (lit field)).isSome = true) ∧
        ∀ issue ∈ requiredRuleIssues, ∃ c ∈ citations, c.issueCode.val = lit issue := by
  have hsorted (l : List Str) : sortedStr l = [] ↔ l = [] := by
    rw [← List.length_eq_zero_iff, length_sortedStr, List.length_eq_zero_iff]
  unfold inputIssues
  simp only [List.append_eq_nil_iff, List.map_eq_nil_iff, hsorted, List.filter_eq_nil_iff,
    decide_eq_true_eq, not_not, List.mem_map, and_assoc, Bool.not_eq_true]
  simp [Option.isSome_iff_ne_none]

end Checks

/-! ## Finite results -/

namespace Decimal

theorem isFinite_of_fix {n : Bool} {c : ℕ} {e : ℤ} {d : Decimal} (h : fix n c e = .ok d) :
    d.isFinite = true := by
  have hfinite : ∃ n' c' e', d = .finite n' c' e' := by
    unfold fix at h
    split at h
    · exact ⟨_, _, _, (Except.ok.inj h).symm⟩
    · dsimp only at h
      split_ifs at h
      all_goals exact ⟨_, _, _, (Except.ok.inj h).symm⟩
  obtain ⟨_, _, _, rfl⟩ := hfinite
  rfl

theorem isFinite_of_mul {a b d : Decimal} (h : mul a b = .ok d) : d.isFinite = true := by
  cases a <;> cases b <;> first | exact isFinite_of_fix h | cases h

theorem isFinite_of_add {a b d : Decimal} (h : add a b = .ok d) : d.isFinite = true := by
  cases a <;> cases b <;> first | exact isFinite_of_fix h | cases h

theorem isFinite_of_quantizeCents {a d : Decimal} (h : quantizeCents a = .ok d) :
    d.isFinite = true := by
  have hfinite : ∃ n' c' e', d = .finite n' c' e' := by
    cases a with
    | finite n c e =>
      unfold quantizeCents at h
      dsimp only at h
      split_ifs at h
      all_goals exact ⟨_, _, _, (Except.ok.inj h).symm⟩
    | infinity n => cases h
    | nan => cases h
  obtain ⟨_, _, _, rfl⟩ := hfinite
  rfl

theorem isFinite_min2 {a b : Decimal} (ha : a.isFinite = true) (hb : b.isFinite = true) :
    (min2 a b).isFinite = true := by
  unfold min2
  split
  · exact hb
  · exact ha

end Decimal

theorem isFinite_of_addRest {last : Date} {years : ℤ} {passed : Date} {d : Decimal}
    (h : addRest last years passed = .ok d) : d.isFinite = true := by
  unfold addRest at h
  split at h
  · rw [← Except.ok.inj h]
    rfl
  · obtain ⟨_, -, h⟩ := bind_eq_ok.1 h
    exact Decimal.isFinite_of_add h

theorem isFinite_of_serviceCoefficient {start last : Date} {d : Decimal}
    (h : serviceCoefficient start last = .ok d) : d.isFinite = true := by
  unfold serviceCoefficient at h
  split at h
  · cases h
  · obtain ⟨_, -, h⟩ := bind_eq_ok.1 h
    split at h
    · obtain ⟨_, -, h⟩ := bind_eq_ok.1 h
      exact isFinite_of_addRest h
    · exact isFinite_of_addRest h

/-- What the `try` gives: dates in order, positive wages and the coefficient of the dates. -/
theorem readParameters_eq_ok {values : Str → Option Str} {p : CompensationParameters}
    {coefficient : Decimal} (h : readParameters values = .ok (p, coefficient)) :
    serviceCoefficient p.employmentStartDate p.plannedTerminationDate = .ok coefficient := by
  unfold readParameters at h
  simp only [bind_eq_ok, pure, Except.pure, Except.ok.injEq, Prod.mk.injEq] at h
  obtain ⟨_, -, _, -, _, -, _, -, _, -, _, -, _, -, _, -, _, -, _, -, _, hcoefficient, rfl, rfl⟩ :=
    h
  exact hcoefficient

/-- The results of a computation are finite. -/
structure Computation.Finite (c : Computation) : Prop where
  wageCap : c.wageCap.isFinite = true
  effectiveWage : c.effectiveWage.isFinite = true
  effectiveCoefficient : c.effectiveCoefficient.isFinite = true
  amount : c.amount.isFinite = true

theorem isFinite_of_isPositive {d : Decimal} (h : d.isPositive = true) : d.isFinite = true := by
  unfold Decimal.isPositive at h
  exact (Bool.and_eq_true_iff.1 h).1

theorem compute_finite {p : CompensationParameters} {coefficient : Decimal} {c : Computation}
    (hcoefficient : coefficient.isFinite = true) (h : compute p coefficient = .ok c) :
    c.Finite := by
  unfold compute at h
  simp only [bind_eq_ok, pure, Except.pure, Except.ok.injEq] at h
  obtain ⟨cap, hcap, product, -, amount, hamount, rfl⟩ := h
  have hfinite := Decimal.isFinite_of_mul hcap
  refine ⟨hfinite, ?_, ?_, Decimal.isFinite_of_quantizeCents hamount⟩
  · exact Decimal.isFinite_min2 (isFinite_of_isPositive p.monthlyWageAverage.property) hfinite
  · dsimp only
    split
    · exact Decimal.isFinite_min2 hcoefficient rfl
    · exact hcoefficient

/-! ## The sheet -/

section Sheet

variable {P : Platform} {context : SkillContext} {request : CalculateRequest} {now : DateTime}
  {p : CompensationParameters} {coefficient : Decimal}

/-- The instants of all artifacts of the request are in the calendar. -/
def CalculateRequest.Representable (r : CalculateRequest) : Prop :=
  (∀ e ∈ r.evidence, e.metadata.createdAt.val.Representable) ∧
    ∀ c ∈ r.ruleCitations, c.metadata.createdAt.val.Representable

theorem encodable_evidence {exclude : List Str} (hmeta : lit "meta" ∉ exclude)
    (hcreated : lit "created_at" ∉ exclude) (e : EvidenceObject) :
    (Artifact.dump e).Encodable exclude ↔ e.metadata.createdAt.val.Representable :=
  encodable_dump hmeta hcreated (encodable_evidence_fields e)

theorem encodable_citation {exclude : List Str} (hmeta : lit "meta" ∉ exclude)
    (hcreated : lit "created_at" ∉ exclude) (c : RuleCitation) :
    (Artifact.dump c).Encodable exclude ↔ c.metadata.createdAt.val.Representable :=
  encodable_dump hmeta hcreated (encodable_citation_fields c)

theorem encodable_query (q : RuleRetrieveRequest) : q.dump.Encodable [] := by
  simp [RuleRetrieveRequest.dump, RuleRetrieveRequest.members, keyed]

theorem encodable_record (r : RuleRecord) : r.dump.Encodable [] := by
  simp [RuleRecord.dump, keyed]

theorem encodable_request (r : CalculateRequest) : r.dump.Encodable [] ↔ r.Representable := by
  have hscope : r.ruleScope.dump.Encodable [] := by
    simp [RuleScopeReceipt.dump, RuleRetrieveRequest.members, keyed]
  unfold CalculateRequest.dump CalculateRequest.Representable
  simp [keyed, hscope, encodable_evidence, encodable_citation]

/-- The digest of the request is computed exactly if its instants are in the calendar. -/
theorem exists_inputHash_iff :
    (∃ d, sha256Digest P request.dump [] = .ok d) ↔ request.Representable := by
  rw [exists_sha256Digest_iff, encodable_request]

/-- What a new sheet has of its computation. -/
structure SheetOf (P : Platform) (request : CalculateRequest) (p : CompensationParameters)
    (coefficient : Decimal) (c : Computation) (hash : Sha256Text) (item : CalculationLineItem)
    (sheet : CalculationSheet) : Prop where
  computed : compute p coefficient = .ok c
  hash_eq : reproducibilityHash P request.formulaVersion p coefficient c = .ok hash
  item_eq : lineItemOf request.formulaVersion p coefficient c = .ok item
  lineItems : sheet.lineItems = [item]
  total : sheet.total = some item.amount
  reproducibilityHash : sheet.reproducibilityHash = some hash.stripped
  amount : item.amount.val = c.amount

theorem finite_eq_ok {d : Decimal} (h : d.isFinite = true) : finite d = .ok ⟨d, h⟩ := dif_pos h

theorem amount_of_lineItemOf {formulaVersion : Stripped} {c : Computation}
    {item : CalculationLineItem} (h : lineItemOf formulaVersion p coefficient c = .ok item) :
    item.amount.val = c.amount := by
  unfold lineItemOf at h
  simp only [bind_eq_ok, pure, Except.pure, Except.ok.injEq] at h
  obtain ⟨_, -, _, -, _, -, _, -, _, -, _, -, amount, hamount, rfl⟩ := h
  unfold finite at hamount
  split at hamount
  · rw [← Except.ok.inj hamount]
  · cases hamount

/-- A result of the last part is a success with a sheet of the computation. -/
theorem calculateSheet_eq_ok {result : SkillResult CalculateOutput}
    (h : calculateSheet P context request now p coefficient = .ok result) :
    ∃ c hash item sheet, result.status = .success ∧ result.value = some ⟨sheet⟩ ∧
      SheetOf P request p coefficient c hash item sheet := by
  unfold calculateSheet success Artifact.sealed at h
  simp only [bind_eq_ok, pure, Except.pure, Except.ok.injEq] at h
  obtain ⟨c, hc, hash, hhash, item, hitem, m, -, sheet, ⟨_, -, rfl⟩, _, -, _, -, rfl⟩ := h
  exact ⟨c, hash, item, _, rfl, rfl, hc, hhash, hitem, rfl, rfl, rfl, amount_of_lineItemOf hitem⟩

theorem encodable_sheet {exclude : List Str} (hmeta : lit "meta" ∉ exclude)
    (hcreated : lit "created_at" ∉ exclude) (s : CalculationSheet) :
    (Artifact.dump s).Encodable exclude ↔ s.metadata.createdAt.val.Representable :=
  encodable_dump hmeta hcreated (encodable_sheet_fields s)

theorem strip_ne_nil {s : Str} (h : ∃ c ∈ s, isWhitespace c = false) : strip s ≠ [] := by
  obtain ⟨c, hc, hwhite⟩ := h
  unfold strip
  rw [ne_eq, List.reverse_eq_nil_iff, List.dropWhile_eq_nil_iff]
  intro hall
  cases hrest : s.dropWhile isWhitespace with
  | nil =>
    have hwhite' := List.dropWhile_eq_nil_iff.1 hrest c hc
    rw [hwhite] at hwhite'
    cases hwhite'
  | cons d rest =>
    have hd := head_dropWhile s d (by rw [hrest]; rfl)
    rw [hall d (by simp [hrest])] at hd
    cases hd

/-- Metadata is made exactly at an aware time. -/
theorem exists_artifactMeta (P : Platform) (context : SkillContext) (name : String)
    (identity : Filled) (sourceRefs : List Stripped) {payload : Value}
    (hname : ∃ c ∈ lit name, isWhitespace c = false) (hpayload : payload.Encodable [])
    (haware : now.utcoffset.isSome = true) :
    ∃ m, artifactMeta P name identity context now payload sourceRefs = .ok m ∧
      m.createdAt.val = now := by
  obtain ⟨digest, hdigest⟩ := exists_sha256Digest_iff.2 hpayload
  have hfilled : strip (lit name ++ '-' :: (digest.val.drop 7).take 20) ≠ [] := by
    obtain ⟨c, hc, hwhite⟩ := hname
    exact strip_ne_nil ⟨c, List.mem_append_left _ hc, hwhite⟩
  unfold artifactMeta stableId filled aware
  rw [hdigest, ok_bind]
  simp only [pure, Except.pure, ok_bind, dif_pos hfilled, dif_pos haware]
  exact ⟨_, rfl, rfl⟩

theorem createdAt_of_artifactMeta {name : String} {identity : Filled} {payload : Value}
    {sourceRefs : List Stripped} {m : ArtifactMeta}
    (h : artifactMeta P name identity context now payload sourceRefs = .ok m) :
    m.createdAt.val = now := by
  unfold artifactMeta aware at h
  simp only [bind_eq_ok, pure, Except.pure, Except.ok.injEq] at h
  obtain ⟨_, -, _, -, createdAt, hcreated, rfl⟩ := h
  split at hcreated
  · rw [← Except.ok.inj hcreated]
  · cases hcreated

theorem exists_sealed_iff {s : CalculationSheet} :
    (∃ s', Artifact.sealed P s = .ok s') ↔ s.metadata.createdAt.val.Representable := by
  have hkeys : lit "meta" ∉ [hashKey] ∧ lit "created_at" ∉ [hashKey] := by decide
  rw [← encodable_sheet hkeys.1 hkeys.2, ← exists_sha256Digest_iff (P := P)]
  simp only [Artifact.sealed, Artifact.sealDigest, bind_eq_ok, pure, Except.pure, Except.ok.injEq]
  constructor
  · rintro ⟨_, digest, hdigest, -⟩
    exact ⟨digest, hdigest⟩
  · rintro ⟨digest, hdigest⟩
    exact ⟨_, digest, hdigest, rfl⟩

theorem exists_reproducibilityHash {c : Computation} (hcoefficient : coefficient.isFinite = true)
    (hc : c.Finite) (formulaVersion : Stripped) :
    ∃ hash, reproducibilityHash P formulaVersion p coefficient c = .ok hash := by
  have hmonthly := isFinite_of_isPositive p.monthlyWageAverage.property
  have haverage := isFinite_of_isPositive p.localPreviousYearMonthlyAverageWage.property
  have hdecimal {d : Decimal} (h : d.isFinite = true) : (Value.decimal d).Encodable [] := h
  unfold reproducibilityHash
  rw [exists_sha256Digest_iff]
  simp [keyed, CompensationParameters.dump, hdecimal hmonthly, hdecimal haverage,
    hdecimal hcoefficient, hdecimal hc.effectiveWage, hdecimal hc.effectiveCoefficient]

theorem exists_lineItem {c : Computation} (hcoefficient : coefficient.isFinite = true)
    (hc : c.Finite) (formulaVersion : Stripped) :
    ∃ item, lineItemOf formulaVersion p coefficient c = .ok item := by
  have hmonthly := isFinite_of_isPositive p.monthlyWageAverage.property
  have haverage := isFinite_of_isPositive p.localPreviousYearMonthlyAverageWage.property
  unfold lineItemOf
  simp only [finite_eq_ok hmonthly, finite_eq_ok haverage, finite_eq_ok hcoefficient,
    finite_eq_ok hc.wageCap, finite_eq_ok hc.effectiveWage, finite_eq_ok hc.effectiveCoefficient,
    finite_eq_ok hc.amount, ok_bind]
  exact ⟨_, rfl⟩

/-- The last part returns exactly if the computation does and all instants are in the calendar. -/
theorem exists_calculateSheet_iff (P : Platform) (context : SkillContext)
    (hcoefficient : coefficient.isFinite = true) :
    (∃ result, calculateSheet P context request now p coefficient = .ok result) ↔
      (∃ c, compute p coefficient = .ok c) ∧ now.Representable ∧ request.Representable := by
  constructor
  · rintro ⟨result, h⟩
    unfold calculateSheet success at h
    simp only [bind_eq_ok] at h
    obtain ⟨c, hc, _, -, _, -, m, hm, sheet, hsheet, input, hinput, -⟩ := h
    have hcreated := exists_sealed_iff.1 ⟨sheet, hsheet⟩
    dsimp only [newSheet] at hcreated
    rw [createdAt_of_artifactMeta hm] at hcreated
    exact ⟨⟨c, hc⟩, hcreated, exists_inputHash_iff.1 ⟨input, hinput⟩⟩
  · rintro ⟨⟨c, hc⟩, hnow, hrequest⟩
    have hfinite := compute_finite hcoefficient hc
    obtain ⟨hash, hhash⟩ := exists_reproducibilityHash (P := P) (p := p) hcoefficient hfinite
      request.formulaVersion
    obtain ⟨item, hitem⟩ := exists_lineItem (p := p) hcoefficient hfinite request.formulaVersion
    have hpayload : (Value.obj [keyed "formula_version" (.str request.formulaVersion.val),
        keyed "reproducibility_hash" (.str hash.val)]).Encodable [] := by
      simp [keyed]
    obtain ⟨m, hm, hcreated⟩ := exists_artifactMeta P context "calculation"
      calculationAgent request.sourceRefs ⟨'c', by decide, by decide⟩ hpayload hnow.1
    have hsealable (s : CalculationSheet) (hs : s.metadata = m) :
        ∃ s', Artifact.sealed P s = .ok s' ∧ s'.metadata.createdAt.val.Representable := by
      have hs' : s.metadata.createdAt.val.Representable := by rw [hs, hcreated]; exact hnow
      obtain ⟨s', hs''⟩ := exists_sealed_iff.2 hs'
      refine ⟨s', hs'', ?_⟩
      unfold Artifact.sealed at hs''
      simp only [bind_eq_ok, pure, Except.pure, Except.ok.injEq] at hs''
      obtain ⟨_, -, rfl⟩ := hs''
      exact hs'
    unfold calculateSheet success
    rw [hc, ok_bind, hhash, ok_bind, hitem, ok_bind, hm, ok_bind]
    obtain ⟨sheet, hsheet, hrepresentable⟩ := hsealable (newSheet m item hash) rfl
    obtain ⟨input, hinput⟩ := exists_inputHash_iff.2 hrequest
    have houtput : (CalculateOutput.dump ⟨sheet⟩).Encodable [] := by
      simp [CalculateOutput.dump, keyed, encodable_sheet, hrepresentable]
    obtain ⟨output, houtput⟩ := exists_sha256Digest_iff.2 houtput
    rw [hsheet, ok_bind, hinput, ok_bind, houtput, ok_bind]
    exact ⟨_, rfl⟩

end Sheet

/-! ## Accepted requests -/

section Accepted

variable {P : Platform} {excText : (Str → Option Str) → Str} {context : SkillContext}
  {request : CalculateRequest} {catalog : RuleCatalog} {store : TrustedArtifactStore}
  {now : DateTime} {p : CompensationParameters} {coefficient : Decimal}
  {result : SkillResult CalculateOutput}

/-- The request passes all checks and has the parameters. -/
structure AcceptedRequest (P : Platform) (context : SkillContext) (request : CalculateRequest)
    (catalog : RuleCatalog) (store : TrustedArtifactStore) (p : CompensationParameters)
    (coefficient : Decimal) : Prop where
  owner : context.callerIdentity.val = lit "PF-A4"
  evidence : ∀ e ∈ request.evidence, EvidenceTrusted P context store e
  citations : ∀ c ∈ request.ruleCitations, CitationTrusted P context catalog c
  queryHash : sha256Digest P request.ruleScope.toRuleRetrieveRequest.dump [] =
    .ok request.ruleScope.ruleQueryInputHash
  complete : scopeComplete request.ruleScope request.ruleCitations catalog
  formula : request.formulaVersion.val = supportedFormula
  inputs : inputIssues request.evidence request.ruleCitations = []
  parameters : readParameters (fieldValue request.evidence) = .ok (p, coefficient)

/-- On an accepted request the function is its last part. -/
theorem calculate_of_accepted (h : AcceptedRequest P context request catalog store p coefficient) :
    deterministicCalculate P excText context request catalog store now =
      calculateSheet P context request now p coefficient := by
  have hdenied : denied (α := CalculateOutput) P context request.dump "PF-A4" = .ok none :=
    denied_eq_none.2 h.owner
  have hboundary := artifactBoundaryIssues_eq_nil.2 ⟨h.evidence, h.citations⟩
  have hscope := ruleScopeIssue_eq_none.2 ⟨h.queryHash, h.complete⟩
  unfold deterministicCalculate calculateValues
  rw [hdenied, ok_bind]
  dsimp only
  rw [hboundary, ok_bind, if_neg (by simp), hscope, ok_bind]
  dsimp only
  rw [if_neg (by simpa using h.formula), if_neg (by simpa using h.inputs), h.parameters]

/-- A result that reports why nothing was computed. -/
structure Blocked (result : SkillResult CalculateOutput) : Prop where
  status : result.status = .blocked
  issues_ne : result.issues ≠ []

theorem blocked_of_blockedBy {issues : List Issue} (hissues : issues ≠ [])
    (h : blockedBy P request issues = .ok result) : Blocked result ∧ request.Representable := by
  unfold blockedBy at h
  obtain ⟨d, hd, h⟩ := bind_eq_ok.1 h
  rw [← Except.ok.inj h]
  exact ⟨⟨rfl, hissues⟩, exists_inputHash_iff.1 ⟨d, hd⟩⟩

/-- Every result is blocked with an issue, or it comes from an accepted request. -/
theorem calculate_cases
    (h : deterministicCalculate P excText context request catalog store now = .ok result) :
    (Blocked result ∧ request.Representable) ∨
      ∃ p coefficient, AcceptedRequest P context request catalog store p coefficient ∧
        calculateSheet P context request now p coefficient = .ok result := by
  unfold deterministicCalculate at h
  obtain ⟨refused, hrefused, h⟩ := bind_eq_ok.1 h
  cases refused with
  | some answer =>
    obtain rfl := Except.ok.inj h
    obtain ⟨hstatus, hissues, hd⟩ := denied_eq_some hrefused
    exact .inl ⟨⟨hstatus, hissues⟩, exists_inputHash_iff.1 hd⟩
  | none =>
    obtain ⟨boundaryIssues, hboundary, h⟩ := bind_eq_ok.1 h
    split at h
    · rename_i hne
      exact .inl (blocked_of_blockedBy hne h)
    rename_i hnil
    obtain rfl : boundaryIssues = [] := not_not.1 hnil
    obtain ⟨scopeIssue, hscope, h⟩ := bind_eq_ok.1 h
    cases scopeIssue with
    | some issue => exact .inl (blocked_of_blockedBy (List.cons_ne_nil _ _) h)
    | none =>
      dsimp only at h
      split at h
      · exact .inl (blocked_of_blockedBy (List.cons_ne_nil _ _) h)
      rename_i hformula
      unfold calculateValues at h
      dsimp only at h
      split at h
      · rename_i hne
        exact .inl (blocked_of_blockedBy hne h)
      rename_i hinputs
      split at h
      · rename_i p coefficient hparameters
        obtain ⟨hevidence, hcitations⟩ := artifactBoundaryIssues_eq_nil.1 hboundary
        obtain ⟨hquery, hcomplete⟩ := ruleScopeIssue_eq_none.1 hscope
        exact .inr ⟨p, coefficient, ⟨denied_eq_none.1 hrefused, hevidence, hcitations, hquery,
          hcomplete, not_not.1 hformula, not_not.1 hinputs, hparameters⟩, h⟩
      · split at h
        · exact .inl (blocked_of_blockedBy (List.cons_ne_nil _ _) h)
        · cases h

/-- A success comes from an accepted request. -/
theorem accepted_of_success
    (h : deterministicCalculate P excText context request catalog store now = .ok result)
    (hstatus : result.status = .success) :
    ∃ p coefficient, AcceptedRequest P context request catalog store p coefficient := by
  rcases calculate_cases h with ⟨hblocked, -⟩ | ⟨p, coefficient, haccepted, -⟩
  · rw [hblocked.status] at hstatus
    cases hstatus
  · exact ⟨p, coefficient, haccepted⟩

end Accepted

namespace Sample

/-- A parameter that the extraction agent sealed for the sample case. -/
def parameter (field value digest : String) : EvidenceObject :=
  { evidence with
    metadata := { evidence.metadata with
      tenantId := sheetName
      caseId := sheetName
      traceId := sheetName
      contentHash := some (label digest) }
    fieldName := label field
    normalizedValue := label value }

/-- A year of service and two wages. -/
def parameters (monthly average : EvidenceObject) : List EvidenceObject :=
  [parameter "employment_start_date" "2020-01-01"
      "sha256:d4054615c946420d6a331af32bc1f36a5bd647c1d8dc6cee0d1101d26dd872cd",
    parameter "planned_termination_date" "2021-01-01"
      "sha256:56fe3bdd631a5d9c5f6623ca3f4c6a354b05db1e417e2df6d9d654b112e9325f",
    monthly, average]

def compensationQuery : RuleRetrieveRequest where
  issueCodes := [label "economic_compensation_amount", label "economic_compensation_wage_basis"]
  jurisdiction := twoIssues.jurisdiction
  asOfDate := twoIssues.asOfDate
  length_mem := by decide
  unique_non_empty := by decide

def compensationCatalog : RuleCatalog where
  catalogVersion := label "v1"
  rules := [ruleFor "r-1" "economic_compensation_amount",
    ruleFor "r-22" "economic_compensation_wage_basis"]

/-- The digests of the dates, and of the query with its records and citations. -/
def inputDigests : List (ℕ × BitVec 256) :=
  [(483, 0xd4054615c946420d6a331af32bc1f36a5bd647c1d8dc6cee0d1101d26dd872cd),
    (486, 0x56fe3bdd631a5d9c5f6623ca3f4c6a354b05db1e417e2df6d9d654b112e9325f),
    (129, 0xc1b6cefcfb65fbfc20e382b5a11e5381c944ce4f620c025e4a1d99afb5d352c1),
    (101, 0x283756ca86132adf92342979fab1ba20477c988d40c2fc49baf4c75a516a766c),
    (237, 0x381923a5e9e3f82a769fcee802243665005156b3107a42f88aa8585ed5ca5127),
    (611, 0x09c5e3386424e01cc4ffa4b92e5ad3b7a4ca196a8f63e24682d0db8ac56e292c),
    (106, 0xdad2314162673d5ca6005fef37fb2c638df8ed307d3d9abfd73e680fe3a39359),
    (242, 0x3bad053b18872eb81ec8c3280f29eeabd47c1baea7d3323c03c1650492cac4f4),
    (616, 0xe074c1ce554d6d7ef285ec5797609cd2383f0780157928ae63be5b73a14f7d45),
    (1734, 0xc4c274fded72f34c0a7554963592ed7afd7165687de6d331875bc24f95da37e6)]

/-- The parameters are registered by the runtime. -/
def registered (P : Platform) (evidence : List EvidenceObject) : TrustedArtifactStore :=
  (TrustedArtifactStore.registerAll P (.empty ⟨8, by decide⟩) evidence).2

/-- The parameters with what the query returned. -/
def requestOf (P : Platform) (evidence : List EvidenceObject) : Option CalculateRequest :=
  match ruleRetrieve P owner compensationQuery compensationCatalog (.ofUtc sheetTime) with
  | .ok { value := some output, .. } => some { calculateFrom output with evidence := evidence }
  | _ => none

theorem evidence_of_requestOf {P : Platform} {evidence : List EvidenceObject}
    {request : CalculateRequest} (h : requestOf P evidence = some request) :
    request.evidence = evidence := by
  unfold requestOf at h
  split at h
  · rw [← Option.some.inj h]
  · cases h

/-- What the calculation answers; the text of a caught exception is not used. -/
def answerTo (P : Platform) (request : CalculateRequest) :
    Except Fault (SkillResult CalculateOutput) :=
  deterministicCalculate P (fun _ => []) caller request compensationCatalog
    (registered P request.evidence) (.ofUtc sheetTime)

/-- The total of a successful answer. -/
def totalOf : Except Fault (SkillResult CalculateOutput) → Option Decimal
  | .ok { status := .success, value := some output, .. } => output.sheet.total.map Subtype.val
  | _ => none

theorem exists_result_of_total {answer : Except Fault (SkillResult CalculateOutput)} {d : Decimal}
    (h : totalOf answer = some d) : ∃ result, answer = .ok result ∧ result.status = .success ∧
      ∃ sheet total, result.value = some ⟨sheet⟩ ∧ sheet.total = some total ∧ total.val = d := by
  unfold totalOf at h
  split at h
  · rename_i status value issues inputHash outputHash refs
    obtain ⟨total, htotal, rfl⟩ := Option.map_eq_some_iff.1 h
    exact ⟨_, rfl, rfl, _, total, rfl, htotal, rfl⟩
  · cases h

/-- Wages of 10000 and 5000. -/
def wageEvidence : List EvidenceObject := parameters
  (parameter "monthly_wage_average" "10000"
    "sha256:7959f48650266823121a81835c5446c5b57e209275b9949ae2a57bdf95114be2")
  (parameter "local_previous_year_monthly_average_wage" "5000"
    "sha256:6cc354632c7c5defdb1de568e46aa4b4cd2205355f679e9848ee9f9ffebbee0f")

def wagePlatform : Platform := platformOf (inputDigests ++
  [(477, 0x7959f48650266823121a81835c5446c5b57e209275b9949ae2a57bdf95114be2),
    (496, 0x6cc354632c7c5defdb1de568e46aa4b4cd2205355f679e9848ee9f9ffebbee0f),
    (4056, 0x3fe7f12c84d84d53c5c07caab069f65b795577dd994db25514e53fc6262b54ba),
    (295, 0x27075798b0a79e68f4fdfb3a1a1516c4faf9f1ed5ebf61458f70b5c35681a385),
    (148, 0x211d9473bf36cdbc21f2c487dffe39dba6181c244da4fdb5c371c7cbc58ae304),
    (1077, 0x07abd36e33bd2a6f6934cc10ee6d094c31ac1599884fc1a92b87765fb4261df7),
    (1176, 0x02593647aea0e7645d06b313b4c16d7f21c7cb551f641f73caeadb1b19c2eeed)])

set_option maxRecDepth 100000 in
theorem total_wage : (requestOf wagePlatform wageEvidence).map
    (fun r => totalOf (answerTo wagePlatform r)) = some (some (.finite false 1000000 (-2))) := by
  decide +kernel

end Sample

end ProofFlow
