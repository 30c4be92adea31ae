import ProofFlow.Calculation.Boundary
import ProofFlow.Calculation.Service
import ProofFlow.Kit.Dict
import ProofFlow.Python.IsoDate

/-!
# The calculation

`deterministic_calculate` reads four parameters from the evidence, computes the compensation in
Python's decimal arithmetic, and returns a sealed sheet.  Only the reading of the parameters and the
service coefficient are inside its `try`.
-/

namespace ProofFlow

open Kit

/-! ## The values of the evidence -/

/-- `SUPPORTED_FORMULA`. -/
def supportedFormula : Str := lit "cn-economic-compensation-v0.1"

/-- `REQUIRED_FIELDS`. -/
def requiredFields : List String :=
  ["employment_start_date", "planned_termination_date", "monthly_wage_average",
    "local_previous_year_monthly_average_wage"]

/-- `REQUIRED_RULE_ISSUES`. -/
def requiredRuleIssues : List String :=
  ["economic_compensation_amount", "economic_compensation_wage_basis"]

/-- `grouped.setdefault(item.field_name, set()).add(item.normalized_value)`. -/
def groupValue (grouped : Dict Str (List Str)) (item : EvidenceObject) : Dict Str (List Str) :=
  grouped.set item.fieldName.val
    (((grouped.get item.fieldName.val).getD []).insert item.normalizedValue.val)

/-- The sets of values by field. -/
def groupedValues (evidence : List EvidenceObject) : Dict Str (List Str) :=
  evidence.foldl groupValue ∅

/-- The fields with several values, the second result of `_field_values`. -/
def conflictingFields (evidence : List EvidenceObject) : List Str :=
  sortedStr (((groupedValues evidence).entries.filter fun e => 1 < e.2.length).map Sigma.fst)

/-- The value of a field with one value, the first result of `_field_values`. -/
def fieldValue (evidence : List EvidenceObject) (field : Str) : Option Str :=
  match (groupedValues evidence).get field with
  | some [value] => some value
  | _ => none

/-- The issues about values and rules. -/
def inputIssues (evidence : List EvidenceObject) (citations : List RuleCitation) : List Issue :=
  (conflictingFields evidence).map (fun field => Issue.blocker "CONFLICTING_PARAMETER"
      (lit "multiple verified values for " ++ field) true) ++
  (sortedStr ((requiredFields.map lit).filter fun field => (fieldValue evidence field).isNone)).map
    (fun field => Issue.blocker "MISSING_PARAMETER"
      (lit "required calculation parameter is missing: " ++ field) true) ++
  (sortedStr ((requiredRuleIssues.map lit).filter fun issue =>
      issue ∉ citations.map fun c => c.issueCode.val)).map
    (fun issue => Issue.blocker "MISSING_RULE"
      (lit "required calculation rule is missing: " ++ issue) true)

/-! ## The parameters -/

/-- A finite decimal with `Field(gt=Decimal("0"))`. -/
def Decimal.isPositive (d : Decimal) : Bool := d.isFinite && Decimal.lt (.ofNat 0) d

/-- `CompensationParameters`. -/
structure CompensationParameters where
  employmentStartDate : Date
  plannedTerminationDate : Date
  monthlyWageAverage : { d : Decimal // d.isPositive = true }
  localPreviousYearMonthlyAverageWage : { d : Decimal // d.isPositive = true }

def CompensationParameters.dump (p : CompensationParameters) : Value :=
  .obj [keyed "employment_start_date" (.date p.employmentStartDate),
    keyed "planned_termination_date" (.date p.plannedTerminationDate),
    keyed "monthly_wage_average" (.decimal p.monthlyWageAverage.val),
    keyed "local_previous_year_monthly_average_wage"
      (.decimal p.localPreviousYearMonthlyAverageWage.val)]

/-- `values[field]`. -/
def valueAt (values : Str → Option Str) (field : String) : Except Fault Str :=
  match values (lit field) with
  | some text => .ok text
  | none => .error .keyError

/-- `date.fromisoformat(text)`. -/
def dateOf (text : Str) : Except Fault Date :=
  match Date.fromIsoformat text with
  | some d => .ok d
  | none => .error .valueError

/-- `Decimal(text)`. -/
def decimalOf (text : Str) : Except Fault Decimal :=
  match Decimal.ofText text with
  | some d => .ok d
  | none => .error .invalidOperation

/-- What a positive decimal field accepts. -/
def positive (d : Decimal) : Except Fault { d : Decimal // d.isPositive = true } :=
  if h : d.isPositive = true then .ok ⟨d, h⟩ else .error .validationError

/-- The body of the `try`. -/
def readParameters (values : Str → Option Str) :
    Except Fault (CompensationParameters × Decimal) := do
  let start ← dateOf (← valueAt values "employment_start_date")
  let termination ← dateOf (← valueAt values "planned_termination_date")
  let monthly ← decimalOf (← valueAt values "monthly_wage_average")
  let average ← decimalOf (← valueAt values "local_previous_year_monthly_average_wage")
  let monthlyWage ← positive monthly
  let averageWage ← positive average
  let parameters : CompensationParameters :=
    { employmentStartDate := start
      plannedTerminationDate := termination
      monthlyWageAverage := monthlyWage
      localPreviousYearMonthlyAverageWage := averageWage }
  let coefficient ← serviceCoefficient start termination
  return (parameters, coefficient)

/-- `except (ValueError, InvalidOperation)`. -/
def caughtByCalculate : Fault → Bool
  | .valueError => true
  | .validationError => true
  | .invalidOperation => true
  | _ => false

/-! ## The amount -/

/-- The local variables of the computation. -/
structure Computation where
  wageCap : Decimal
  highWageCapApplied : Bool
  effectiveWage : Decimal
  effectiveCoefficient : Decimal
  amount : Decimal

/-- From `wage_cap` to `amount`. -/
def compute (p : CompensationParameters) (coefficient : Decimal) : Except Fault Computation := do
  let wageCap ← p.localPreviousYearMonthlyAverageWage.val.mul (.ofNat 3)
  let highWageCapApplied := Decimal.lt wageCap p.monthlyWageAverage.val
  let effectiveWage := Decimal.min2 p.monthlyWageAverage.val wageCap
  let effectiveCoefficient :=
    if highWageCapApplied then Decimal.min2 coefficient (.ofNat 12) else coefficient
  let product ← effectiveWage.mul effectiveCoefficient
  let amount ← product.quantizeCents
  return {
    wageCap := wageCap
    highWageCapApplied := highWageCapApplied
    effectiveWage := effectiveWage
    effectiveCoefficient := effectiveCoefficient
    amount := amount }

/-! ## The sheet -/

/-- What a `Decimal` field of an artifact accepts. -/
def finite (d : Decimal) : Except Fault Amount :=
  if h : d.isFinite = true then .ok ⟨d, h⟩ else .error .validationError

/-- `reproducibility_hash`. -/
def reproducibilityHash (P : Platform) (formulaVersion : Stripped) (p : CompensationParameters)
    (coefficient : Decimal) (c : Computation) : Except Fault Sha256Text :=
  sha256Digest P (.obj [keyed "formula_version" (.str formulaVersion.val),
    keyed "parameters" p.dump, keyed "coefficient" (.decimal coefficient),
    keyed "effective_wage" (.decimal c.effectiveWage),
    keyed "effective_coefficient" (.decimal c.effectiveCoefficient)]) []

/-- `str(flag).lower()`. -/
def flagText (flag : Bool) : Stripped := label (if flag then "true" else "false")

/-- An ISO date has no whitespace. -/
def Date.stripped (d : Date) : Stripped := ProofFlow.stripped d.isoformat

/-- A dictionary display with the given keys. -/
def ScalarDict.ofKeys (keys : List String) (values : List Scalar)
    (hlength : keys.length = values.length) (hnodup : (keys.map fun k => (label k).val).Nodup) :
    ScalarDict where
  entries := (keys.map label).zip values
  nodup := by
    have hkeys : ((keys.map label).zip values).map Prod.fst = keys.map label :=
      List.map_fst_zip (by rw [List.length_map, hlength])
    have hvals := congrArg (List.map Subtype.val) hkeys
    rw [List.map_map, List.map_map] at hvals
    exact hvals.symm ▸ hnodup

/-- `line_item`. -/
def lineItemOf (formulaVersion : Stripped) (p : CompensationParameters) (coefficient : Decimal)
    (c : Computation) : Except Fault CalculationLineItem := do
  let monthly ← finite p.monthlyWageAverage.val
  let average ← finite p.localPreviousYearMonthlyAverageWage.val
  let coefficient ← finite coefficient
  let wageCap ← finite c.wageCap
  let effectiveWage ← finite c.effectiveWage
  let effectiveCoefficient ← finite c.effectiveCoefficient
  let amount ← finite c.amount
  return {
    itemCode := label "economic_compensation_reference"
    formulaId := label "PRC-LCL-47"
    formulaVersion := formulaVersion
    parameters := .ofKeys ["employment_start_date", "planned_termination_date",
        "monthly_wage_average", "local_previous_year_monthly_average_wage"]
      [.str p.employmentStartDate.stripped, .str p.plannedTerminationDate.stripped,
        .decimal monthly, .decimal average] rfl (by decide)
    intermediateValues := .ofKeys ["service_coefficient", "wage_cap", "high_wage_cap_applied",
        "effective_wage", "effective_coefficient"]
      [.decimal coefficient, .decimal wageCap, .str (flagText c.highWageCapApplied),
        .decimal effectiveWage, .decimal effectiveCoefficient] rfl (by decide)
    amount := amount }

/-- `CalculateOutput`. -/
structure CalculateOutput where
  sheet : CalculationSheet

def CalculateOutput.dump (o : CalculateOutput) : Value :=
    .obj [keyed "sheet" (Artifact.dump o.sheet)]

/-- The references of the sheet. -/
def CalculateRequest.sourceRefs (r : CalculateRequest) : List Stripped :=
  r.evidence.map (fun e => stripped (Artifact.ref e)) ++
    r.ruleCitations.map fun c => stripped (Artifact.ref c)

/-- The sheet before it is sealed. -/
def newSheet (metadata : ArtifactMeta) (item : CalculationLineItem) (hash : Sha256Text) :
    CalculationSheet where
  metadata := metadata
  lineItems := [item]
  total := some item.amount
  missingParameters := []
  reproducibilityHash := some hash.stripped
  total_none := fun h => absurd rfl h

/-- The part of the body after the `try`. -/
def calculateSheet (P : Platform) (context : SkillContext) (request : CalculateRequest)
    (now : DateTime) (p : CompensationParameters) (coefficient : Decimal) :
    Except Fault (SkillResult CalculateOutput) := do
  let c ← compute p coefficient
  let hash ← reproducibilityHash P request.formulaVersion p coefficient c
  let item ← lineItemOf request.formulaVersion p coefficient c
  let metadata ← artifactMeta P "calculation" calculationAgent context now
    (.obj [keyed "formula_version" (.str request.formulaVersion.val),
      keyed "reproducibility_hash" (.str hash.val)]) request.sourceRefs
  let sheet ← Artifact.sealed P (newSheet metadata item hash)
  success P request.dump CalculateOutput.dump ⟨sheet⟩ [Artifact.ref sheet]

/-! ## `deterministic_calculate` -/

/-- A blocked result for the request. -/
def blockedBy (P : Platform) (request : CalculateRequest) (issues : List Issue) :
    Except Fault (SkillResult CalculateOutput) := do
  let inputHash ← sha256Digest P request.dump []
  return .blocked issues inputHash

/-- The part of the body after the checks of the boundary, the scope and the formula; `excText` is
`str(exc)` of what the `try` catches for the values. -/
def calculateValues (P : Platform) (excText : (Str → Option Str) → Str) (context : SkillContext)
    (request : CalculateRequest) (now : DateTime) : Except Fault (SkillResult CalculateOutput) :=
  let values := fieldValue request.evidence
  let issues := inputIssues request.evidence request.ruleCitations
  if issues ≠ [] then blockedBy P request issues
  else
    match readParameters values with
    | .ok (p, coefficient) => calculateSheet P context request now p coefficient
    | .error e =>
      if caughtByCalculate e then
        blockedBy P request [Issue.blocker "INVALID_PARAMETER" (excText values) true]
      else .error e

/-- `deterministic_calculate`. -/
def deterministicCalculate (P : Platform) (excText : (Str → Option Str) → Str)
    (context : SkillContext) (request : CalculateRequest) (catalog : RuleCatalog)
    (store : TrustedArtifactStore) (now : DateTime) : Except Fault
    (SkillResult CalculateOutput) := do
  match ← denied P context request.dump "PF-A4" with
  | some result => return result
  | none =>
    let boundaryIssues ← artifactBoundaryIssues P context request catalog store
    if boundaryIssues ≠ [] then blockedBy P request boundaryIssues
    else
      match ← ruleScopeIssue P request catalog with
      | some issue => blockedBy P request [issue]
      | none =>
        if request.formulaVersion.val ≠ supportedFormula then
          blockedBy P request [Issue.blocker "FORMULA_NOT_FOUND"
            (lit "unsupported formula version: " ++ request.formulaVersion.val) false]
        else calculateValues P excText context request now

end ProofFlow
