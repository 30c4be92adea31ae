import ProofFlow.Calculation.Rules
import ProofFlow.Encoding
import ProofFlow.Kit.Traversal
import ProofFlow.Python.JsonDump

/-!
# Ingestion of evidence

`evidence_ingest` parses the content of a document inside a `try`, and makes a sealed evidence
object of every extractable field of the parsed object outside of it.  The decoder can produce what
the models and the canonical encoding refuse (strings with surrogates), and it can raise what the
`try` does not catch (`RecursionError`).
-/

namespace ProofFlow

open Kit

/-! ## The request and the result -/

/-- `EvidenceIngestRequest`. -/
structure EvidenceIngestRequest where
  documentId : Stripped
  mediaType : Stripped
  declaredSha256 : Stripped
  rawContent : Bytes

def EvidenceIngestRequest.dump (r : EvidenceIngestRequest) : Value :=
  .obj [keyed "document_id" (.str r.documentId.val), keyed "media_type" (.str r.mediaType.val),
    keyed "declared_sha256" (.str r.declaredSha256.val), keyed "raw_content" (.bytes r.rawContent)]

/-- `EvidenceIngestOutput`. -/
structure EvidenceIngestOutput where
  evidenceObjects : List EvidenceObject
  sourceHash : Stripped
  ignoredFields : List Stripped

def EvidenceIngestOutput.dump (o : EvidenceIngestOutput) : Value :=
  .obj [keyed "evidence_objects" (.arr (o.evidenceObjects.map Artifact.dump)),
    keyed "source_hash" (.str o.sourceHash.val), keyed "ignored_fields" (.labels o.ignoredFields)]

/-! ## Content -/

/-- `ALLOWED_MEDIA_TYPES`. -/
def allowedMediaTypes : List String := ["application/json", "text/plain"]

/-- `EXTRACTABLE_FIELDS`. -/
def extractableFields : List String :=
  ["employee_ref", "employer_ref", "employment_start_date", "work_location", "contract_type",
    "currency", "monthly_wage_average", "local_previous_year_monthly_average_wage",
    "wage_months_observed", "planned_termination_date", "candidate_basis", "advance_notice_days",
    "article_40_eligibility_verified"]

/-- `b.decode("utf-8")`. -/
def decodeStrict (b : Bytes) : Option PyStr := (decodeUtf8 .start [] b).filter isText

/-- The body of the `try`: the entries of `parsed`. -/
def parseContent (P : Platform) (r : EvidenceIngestRequest) :
    Except JsonError (List (PyStr × Json PyStr)) :=
  if r.mediaType.val = lit "application/json" then
    match jsonLoads P.recursionLimit r.rawContent with
    | .error e => .error e
    | .ok v =>
      match v.latest with
      | .obj members => .ok members
      | _ => .error .valueError
  else
    match decodeStrict r.rawContent with
    | some text => .ok [(toPyStr (lit "text_content"), .str text)]
    | none => .error .valueError

/-- `str` of a constant of the decoder. -/
def constantText (name : Str) : Str :=
  if name = lit "NaN" then lit "nan" else if name = lit "Infinity" then lit "inf" else lit "-inf"

/-- `_normalized`; `repr` gives the text of the float that a numeral denotes. -/
def normalized (repr : Str → Str) : Json PyStr → PyStr
  | .null => toPyStr (lit "None")
  | .bool b => toPyStr (lit (if b then "true" else "false"))
  | .int n => toPyStr (dumpInt n)
  | .float numeral => toPyStr (repr numeral)
  | .constant name => toPyStr (constantText name)
  | .str s => s
  | .arr items => (Json.arr items).dumps repr
  | .obj members => (Json.obj members).dumps repr

/-- A call of `_normalized`: the encoder has the recursion limit of the decoder. -/
def normalizedText (limit : ℕ) (repr : Str → Str) (v : Json PyStr) : Except Fault PyStr :=
  if limit < v.depth then .error .recursionError else .ok (normalized repr v)

/-! ## Evidence objects -/

/-- What a `str` field keeps of a Python string. -/
def strField (s : PyStr) : Except Fault Stripped :=
  match scalars s with
  | some t => .ok (stripped t)
  | none => .error .validationError

/-- A Python string that is canonicalized. -/
def Value.pyStr (s : PyStr) : Value :=
  match scalars s with
  | some t => .str t
  | none => .unencodable

theorem evidenceAgent_filled : strip (lit "PF-A2") = lit "PF-A2" ∧ lit "PF-A2" ≠ [] := by decide

def evidenceAgent : Filled := agentIdentity "PF-A2" evidenceAgent_filled

/-- `Decimal("1")`. -/
def certain : { d : Decimal // d.isProportion = true } := ⟨.ofNat 1, Decimal.isProportion_one⟩

/-- The sealed object of a field. -/
def evidenceOf (P : Platform) (repr : Str → Str) (context : SkillContext)
    (request : EvidenceIngestRequest) (now : DateTime) (entry : Str × Json PyStr) :
    Except Fault EvidenceObject := do
  let text ← normalizedText P.recursionLimit repr entry.2
  let metadata ← artifactMeta P "evidence" evidenceAgent context now
    (.obj [keyed "document_id" (.str request.documentId.val), keyed "field_name" (.str entry.1),
      keyed "value" (.pyStr text)])
    [stripped (lit "SourceDocument:" ++ request.documentId.val)]
  let value ← strField text
  let excerpt ← strField (toPyStr entry.1 ++ toPyStr ['='] ++ text)
  Artifact.sealed P
    { metadata := metadata
      evidenceType := label "structured_field"
      fieldName := stripped entry.1
      normalizedValue := value
      verbatimExcerpt := excerpt
      sourceDocumentId := request.documentId
      factStatus := .verified
      confidence := certain }

/-- `sorted(EXTRACTABLE_FIELDS.intersection(parsed))`. -/
def presentFields (members : List (PyStr × Json PyStr)) : List Str :=
  sortedStr ((extractableFields.map lit).filter fun f => toPyStr f ∈ members.map Prod.fst)

/-- The present fields with their values. -/
def extracted (members : List (PyStr × Json PyStr)) : List (Str × Json PyStr) :=
  (presentFields members).filterMap fun f => (members.lookup (toPyStr f)).map fun v => (f, v)

/-- The key is an extractable field. -/
def isExtractable (key : PyStr) : Bool := extractableFields.any fun f => toPyStr (lit f) == key

/-- `sorted(set(parsed).difference(EXTRACTABLE_FIELDS))`. -/
def ignoredKeys (members : List (PyStr × Json PyStr)) : List PyStr :=
  ((members.map Prod.fst).filter fun k => !isExtractable k).insertionSort (· ≤ ·)

/-! ## `evidence_ingest` -/

/-- The part of the body after the `try`. -/
def ingestMembers (P : Platform) (repr : Str → Str) (context : SkillContext)
    (request : EvidenceIngestRequest) (now : DateTime) (members : List (PyStr × Json PyStr)) :
    Except Fault (SkillResult EvidenceIngestOutput) := do
  let evidence ← (extracted members).mapM (evidenceOf P repr context request now)
  let ignored ← (ignoredKeys members).mapM strField
  let output : EvidenceIngestOutput :=
    { evidenceObjects := evidence
      sourceHash := (sha256Bytes P request.rawContent).stripped
      ignoredFields := ignored }
  success P request.dump EvidenceIngestOutput.dump output (evidence.map Artifact.ref)

/-- A blocked result for the request. -/
def ingestBlocked (P : Platform) (request : EvidenceIngestRequest) (code : String) (message : Str)
    (needsHuman : Bool) : Except Fault (SkillResult EvidenceIngestOutput) := do
  let inputHash ← sha256Digest P request.dump []
  return .blocked [Issue.blocker code message needsHuman] inputHash

/-- What follows the body of the `try`; `excText` is `str(exc)` of what the `try` catches. -/
def ingestParsed (P : Platform) (repr : Str → Str) (excText : EvidenceIngestRequest → Str)
    (context : SkillContext) (request : EvidenceIngestRequest) (now : DateTime) :
    Except JsonError (List (PyStr × Json PyStr)) → Except Fault (SkillResult EvidenceIngestOutput)
  | .ok members => ingestMembers P repr context request now members
  | .error .valueError => ingestBlocked P request "PARSE_FAILED" (excText request) true
  | .error .recursionError => .error .recursionError

/-- `evidence_ingest`. -/
def evidenceIngest (P : Platform) (repr : Str → Str) (excText : EvidenceIngestRequest → Str)
    (context : SkillContext) (request : EvidenceIngestRequest) (now : DateTime) :
    Except Fault (SkillResult EvidenceIngestOutput) := do
  match ← denied P context request.dump "PF-A2" with
  | some result => return result
  | none =>
    if request.mediaType.val ∉ allowedMediaTypes.map lit then
      ingestBlocked P request "UNSUPPORTED_FILE"
        (lit "unsupported media type: " ++ request.mediaType.val) true
    else if (sha256Bytes P request.rawContent).val ≠ request.declaredSha256.val then
      ingestBlocked P request "SOURCE_HASH_MISMATCH"
        (lit "declared source hash does not match the received bytes") false
    else ingestParsed P repr excText context request now (parseContent P request)

/-! ## Parsed objects -/

section Members

variable {members : List (PyStr × Json PyStr)} {f : Str} {k : PyStr}

theorem isExtractable_iff :
    isExtractable k = true ↔ ∃ f ∈ extractableFields.map lit, toPyStr f = k := by
  simp [isExtractable]

/-- The present fields are the extractable keys. -/
theorem mem_presentFields :
    f ∈ presentFields members ↔ f ∈ extractableFields.map lit ∧
      toPyStr f ∈ members.map Prod.fst := by
  rw [presentFields, mem_sortedStr, List.mem_filter, decide_eq_true_eq]

theorem mem_of_lookup_eq_some {v : Json PyStr} (h : members.lookup k = some v) :
    (k, v) ∈ members := by
  obtain ⟨before, after, rfl, -⟩ := List.lookup_eq_some_iff.1 h
  exact List.mem_append_right _ List.mem_cons_self

theorem exists_lookup_of_mem_keys (h : k ∈ members.map Prod.fst) :
    ∃ v, members.lookup k = some v := by
  obtain ⟨m, hm, rfl⟩ := List.mem_map.1 h
  exact Option.isSome_iff_exists.1 (List.lookup_isSome_iff.2 ⟨m, hm, beq_self_eq_true _⟩)

theorem map_fst_extracted : (extracted members).map Prod.fst = presentFields members := by
  unfold extracted
  rw [List.map_filterMap]
  have hall : ∀ f ∈ presentFields members,
      ((members.lookup (toPyStr f)).map fun v => (f, v)).map Prod.fst = some f := by
    intro f hf
    obtain ⟨v, hv⟩ := exists_lookup_of_mem_keys (mem_presentFields.1 hf).2
    rw [hv]
    rfl
  rw [List.filterMap_congr hall, List.filterMap_some]

/-- What is extracted are the entries under extractable keys. -/
theorem forall_extracted_iff {Q : Json PyStr → Prop} (hnodup : (members.map Prod.fst).Nodup) :
    (∀ e ∈ extracted members, Q e.2) ↔ ∀ m ∈ members, isExtractable m.1 = true → Q m.2 := by
  constructor
  · intro h m hm hkey
    obtain ⟨f, hf, hfm⟩ := isExtractable_iff.1 hkey
    refine h (f, m.2) (List.mem_filterMap.2 ⟨f, mem_presentFields.2 ⟨hf, ?_⟩, ?_⟩)
    · rw [hfm]
      exact List.mem_map_of_mem hm
    · rw [hfm, lookup_of_mem hnodup hm]
      rfl
  · intro h e he
    obtain ⟨f, hf, hlookup⟩ := List.mem_filterMap.1 he
    obtain ⟨v, hv, rfl⟩ := Option.map_eq_some_iff.1 hlookup
    exact h _ (mem_of_lookup_eq_some hv) (isExtractable_iff.2 ⟨f, (mem_presentFields.1 hf).1, rfl⟩)

theorem mem_ignoredKeys :
    k ∈ ignoredKeys members ↔ (∃ v, (k, v) ∈ members) ∧ isExtractable k = false := by
  rw [ignoredKeys, (List.perm_insertionSort _ _).mem_iff, List.mem_filter]
  simp

end Members

/-- The entries of a parsed object are those of a dictionary, and no deeper than the limit. -/
theorem parseContent_spec {P : Platform} {request : EvidenceIngestRequest}
    {members : List (PyStr × Json PyStr)} (h : parseContent P request = .ok members) :
    (members.map Prod.fst).Nodup ∧ ∀ m ∈ members, m.2.depth ≤ P.recursionLimit := by
  unfold parseContent at h
  split at h
  · split at h
    · cases h
    · rename_i v hload
      split at h
      · rename_i members' hlatest
        cases h
        have hdepth : (Json.obj members).depth ≤ P.recursionLimit := by
          rw [← hlatest]
          exact (depth_latest_le v).trans (depth_le_of_jsonLoads hload)
        refine ⟨?_, depthMembers_le_iff.1 (Nat.le_of_succ_le hdepth)⟩
        cases v with
        | obj l =>
          cases hlatest
          exact nodup_keys_latestMembers l
        | null => cases hlatest
        | bool b => cases hlatest
        | int n => cases hlatest
        | float s => cases hlatest
        | constant s => cases hlatest
        | str s => cases hlatest
        | arr l => cases hlatest
      · cases h
  · split at h
    · cases h
      exact ⟨List.nodup_singleton _, List.forall_mem_singleton.2 (Nat.zero_le _)⟩
    · cases h

end ProofFlow
