import ProofFlow.Audit.Conflicts
import ProofFlow.Calculation.Accepted
import ProofFlow.Evidence.Ingest

/-!
# When the ingestion answers

On content of an allowed type with its declared hash, `evidence_ingest` succeeds or reports that the
content cannot be parsed exactly if the decoder stays within its recursion limit and everything that
leaves it can be stored: no extractable value and no other key has a surrogate, no other key has
whitespace around it, and the time is in the calendar if there is an object to make.
-/

namespace ProofFlow

open Kit

/-! ## What an answer is -/

/-- The output has a sealed verified object for each extractable field of the parsed object, and the
other keys. -/
structure Ingested (P : Platform) (members : List (PyStr × Json PyStr))
    (output : EvidenceIngestOutput) :
    Prop where
  fields_eq : output.evidenceObjects.map (fun e => e.fieldName.val) = presentFields members
  verified : ∀ e ∈ output.evidenceObjects,
    e.factStatus = .verified ∧ Artifact.verifyHash P e = .ok true
  ignored_eq : output.ignoredFields.map (fun s => toPyStr s.val) = ignoredKeys members

/-- A success with such an output, or a report that the content cannot be parsed. -/
def IngestAnswers (P : Platform) (request : EvidenceIngestRequest)
    (outcome : Except Fault (SkillResult EvidenceIngestOutput)) : Prop :=
  ∃ result, outcome = .ok result ∧
    ((result.status = .success ∧ ∃ members output, parseContent P request = .ok members ∧
        result.value = some output ∧ Ingested P members output) ∨
      (result.status = .blocked ∧ result.issues.map Issue.code = [label "PARSE_FAILED"]))

/-- A key that a string field stores as it is. -/
def isStorable (key : PyStr) : Bool := (scalars key).any fun t => decide (strip t = t)

/-- What leaves the decoder can be stored. -/
structure Survives (P : Platform) (request : EvidenceIngestRequest) (now : DateTime) : Prop where
  within_limit : parseContent P request ≠ .error .recursionError
  values : ∀ members, parseContent P request = .ok members →
    ∀ m ∈ members, isExtractable m.1 = true → m.2.isText = true
  keys : ∀ members, parseContent P request = .ok members →
    ∀ m ∈ members, isExtractable m.1 = false → isStorable m.1 = true
  time : ∀ members, parseContent P request = .ok members →
    ∀ m ∈ members, isExtractable m.1 = true → now.Representable

/-! ## Fields -/

theorem strField_eq_ok {s : PyStr} {v : Stripped} :
    strField s = .ok v ↔ ∃ t, scalars s = some t ∧ v = stripped t := by
  unfold strField
  cases scalars s with
  | none => simp
  | some t => simp [eq_comm]

/-- A string field takes a string exactly if it has no surrogate. -/
theorem exists_strField_iff {s : PyStr} : (∃ v, strField s = .ok v) ↔ isText s = true := by
  rw [← exists_scalars_iff]
  constructor
  · rintro ⟨v, hv⟩
    obtain ⟨t, ht, -⟩ := strField_eq_ok.1 hv
    exact ⟨t, ht⟩
  · rintro ⟨t, ht⟩
    exact ⟨_, strField_eq_ok.2 ⟨t, ht, rfl⟩⟩

theorem encodable_pyStr {exclude : List Str} {s : PyStr} :
    (Value.pyStr s).Encodable exclude ↔ isText s = true := by
  rw [← exists_scalars_iff]
  unfold Value.pyStr
  cases scalars s with
  | none => simp [Value.Encodable]
  | some t => simp

theorem isText_normalized (repr : Str → Str) (v : Json PyStr) :
    isText (normalized repr v) = v.isText := by
  cases v with
  | null => exact isText_toPyStr _
  | bool b => exact isText_toPyStr _
  | int n => exact isText_toPyStr _
  | float s => exact isText_toPyStr _
  | constant s => exact isText_toPyStr _
  | str s => rfl
  | arr l => exact isText_dumps repr _
  | obj l => exact isText_dumps repr _

section Objects

variable {P : Platform} {repr : Str → Str} {context : SkillContext}
    {request : EvidenceIngestRequest} {now : DateTime}

theorem exists_sealed_evidence_iff {e : EvidenceObject} :
    (∃ e', Artifact.sealed P e = .ok e') ↔ e.metadata.createdAt.val.Representable := by
  have hkeys : lit "meta" ∉ [hashKey] ∧ lit "created_at" ∉ [hashKey] := by decide
  rw [← encodable_evidence hkeys.1 hkeys.2, ← exists_sha256Digest_iff (P := P)]
  simp only [Artifact.sealed, Artifact.sealDigest, bind_eq_ok, pure, Except.pure, Except.ok.injEq]
  constructor
  · rintro ⟨_, digest, hdigest, -⟩
    exact ⟨digest, hdigest⟩
  · rintro ⟨digest, hdigest⟩
    exact ⟨_, digest, hdigest, rfl⟩

/-- The object of an entry. -/
structure ObjectOf (P : Platform) (now : DateTime) (entry : Str × Json PyStr) (e : EvidenceObject) :
    Prop where
  fieldName : e.fieldName = stripped entry.1
  verified : e.factStatus = .verified
  isSealed : Artifact.verifyHash P e = .ok true
  created : e.metadata.createdAt.val = now
  isText : entry.2.isText = true
  representable : now.Representable

theorem objectOf_of_evidenceOf {entry : Str × Json PyStr} {e : EvidenceObject}
    (h : evidenceOf P repr context request now entry = .ok e) : ObjectOf P now entry e := by
  simp only [evidenceOf, bind_eq_ok] at h
  obtain ⟨text, htext, metadata, hmeta, value, hvalue, excerpt, -, hsealed⟩ := h
  have hcreated := createdAt_of_artifactMeta hmeta
  have hnow : now.Representable := by
    rw [← hcreated]
    exact exists_sealed_evidence_iff.1 ⟨e, hsealed⟩
  have hisText : entry.2.isText = true := by
    unfold normalizedText at htext
    split at htext
    · cases htext
    · rw [← isText_normalized repr, Except.ok.inj htext]
      exact exists_strField_iff.1 ⟨value, hvalue⟩
  obtain ⟨hash, rfl⟩ := sealed_eq hsealed
  exact ⟨rfl, rfl, verifyHash_of_sealed hsealed, hcreated, hisText, hnow⟩

/-- The object of an entry is made exactly if its value has no surrogate and the time is in the
calendar. -/
theorem exists_evidenceOf_iff {entry : Str × Json PyStr}
    (hdepth : entry.2.depth ≤ P.recursionLimit) :
    (∃ e, evidenceOf P repr context request now entry = .ok e) ↔
      entry.2.isText = true ∧ now.Representable := by
  constructor
  · rintro ⟨e, he⟩
    have hobject := objectOf_of_evidenceOf he
    exact ⟨hobject.isText, hobject.representable⟩
  · rintro ⟨htext, hnow⟩
    have hnormalized : isText (normalized repr entry.2) = true := by rw [isText_normalized, htext]
    have hpayload : (Value.obj [keyed "document_id" (.str request.documentId.val),
        keyed "field_name" (.str entry.1),
        keyed "value" (.pyStr (normalized repr entry.2))]).Encodable [] := by
      simp [keyed, encodable_pyStr, hnormalized]
    obtain ⟨metadata, hmeta, hcreated⟩ := exists_artifactMeta P context "evidence" evidenceAgent
      [stripped (lit "SourceDocument:" ++ request.documentId.val)] ⟨'e', by decide, by decide⟩
      hpayload hnow.1
    obtain ⟨value, hvalue⟩ := exists_strField_iff.2 hnormalized
    have hexcerpt :
        isText (toPyStr entry.1 ++ toPyStr ['='] ++ normalized repr entry.2) = true := by
      rw [isText_append, isText_append, isText_toPyStr, isText_toPyStr, hnormalized]
      rfl
    obtain ⟨excerpt, hexcerpt⟩ := exists_strField_iff.2 hexcerpt
    have hlimit : normalizedText P.recursionLimit repr entry.2 = .ok (normalized repr entry.2) :=
      if_neg (Nat.not_lt.2 hdepth)
    unfold evidenceOf
    rw [hlimit, ok_bind, hmeta, ok_bind, hvalue, ok_bind, hexcerpt, ok_bind]
    refine exists_sealed_evidence_iff.2 ?_
    rw [hcreated]
    exact hnow

end Objects

/-! ## The whole content -/

theorem isStorable_iff {key : PyStr} :
    isStorable key = true ↔ ∃ t, scalars key = some t ∧ strip t = t := by
  simp [isStorable, Option.any_eq_true]

/-- Keys are stored as they are exactly if each is storable. -/
theorem map_stored_iff {keys : List PyStr} {stored : List Stripped}
    (h : keys.mapM strField = .ok stored) :
    stored.map (fun s => toPyStr s.val) = keys ↔ ∀ k ∈ keys, isStorable k = true := by
  constructor
  · intro heq k hk
    obtain ⟨v, -, hv⟩ := exists_result_of_mem h hk
    obtain ⟨t, ht, rfl⟩ := strField_eq_ok.1 hv
    have hkeys : ∀ b ∈ stored, isStorable (toPyStr b.val) = true := fun b _ =>
      isStorable_iff.2 ⟨b.val, scalars_toPyStr _, b.property⟩
    rw [← heq] at hk
    obtain ⟨b, hb, rfl⟩ := List.mem_map.1 hk
    exact hkeys b hb
  · intro hstorable
    have hsame : ∀ k ∈ keys, ∀ v, strField k = .ok v → toPyStr v.val = k := by
      intro k hk v hv
      obtain ⟨t, ht, rfl⟩ := strField_eq_ok.1 hv
      obtain ⟨u, hu, hstrip⟩ := isStorable_iff.1 (hstorable k hk)
      obtain rfl : t = u := Option.some.inj (ht.symm.trans hu)
      show toPyStr (strip t) = k
      rw [hstrip, scalars_eq_some_iff.1 ht]
    rw [map_eq_of_mapM h hsame, List.map_id']

theorem strip_presentField {members : List (PyStr × Json PyStr)} {f : Str}
    (hf : f ∈ presentFields members) : strip f = f := by
  have hall : ∀ f ∈ extractableFields.map lit, strip f = f := by decide
  exact hall f (mem_presentFields.1 hf).1

section Ingestion

variable {P : Platform} {repr : Str → Str} {excText : EvidenceIngestRequest → Str}
  {context : SkillContext} {request : EvidenceIngestRequest} {now : DateTime}
  {members : List (PyStr × Json PyStr)}

theorem exists_ingest_inputHash (P : Platform) (request : EvidenceIngestRequest) :
    ∃ d, sha256Digest P request.dump [] = .ok d := by
  rw [exists_sha256Digest_iff]
  simp [EvidenceIngestRequest.dump, keyed, Value.Encodable]

/-- What a run after the parsing has made. -/
theorem ingestMembers_eq_ok {result : SkillResult EvidenceIngestOutput}
    (h : ingestMembers P repr context request now members = .ok result) :
    ∃ output, result.status = .success ∧ result.value = some output ∧
      (extracted members).mapM
    (evidenceOf P repr context request now) = .ok output.evidenceObjects ∧
      (ignoredKeys members).mapM strField = .ok output.ignoredFields := by
  simp only [ingestMembers, success, bind_eq_ok, pure, Except.pure, Except.ok.injEq] at h
  obtain ⟨evidence, hevidence, ignored, hignored, _, -, _, -, rfl⟩ := h
  exact ⟨_, rfl, rfl, hevidence, hignored⟩

/-- The objects are one for each present field, verified and sealed. -/
theorem ingested_iff {output : EvidenceIngestOutput}
    (hevidence : (extracted members).mapM (evidenceOf P repr context request now) =
      .ok output.evidenceObjects)
    (hignored : (ignoredKeys members).mapM strField = .ok output.ignoredFields) :
    Ingested P members output ↔ ∀ m ∈ members, isExtractable m.1 = false →
      isStorable m.1 = true := by
  have hkeys : (∀ k ∈ ignoredKeys members, isStorable k = true) ↔
      ∀ m ∈ members, isExtractable m.1 = false → isStorable m.1 = true := by
    constructor
    · exact fun h m hm hkey => h m.1 (mem_ignoredKeys.2 ⟨⟨m.2, hm⟩, hkey⟩)
    · intro h k hk
      obtain ⟨⟨v, hv⟩, hkey⟩ := mem_ignoredKeys.1 hk
      exact h (k, v) hv hkey
  rw [← hkeys, ← map_stored_iff hignored]
  refine ⟨fun h => h.ignored_eq, fun h => ⟨?_, fun e he => ?_, h⟩⟩
  · have hname : ∀ entry ∈ extracted members, ∀ e,
        evidenceOf P repr context request now entry = .ok e → e.fieldName.val = entry.1 := by
      intro entry hentry e he
      have hpresent : entry.1 ∈ presentFields members := by
        rw [← map_fst_extracted]
        exact List.mem_map_of_mem hentry
      rw [(objectOf_of_evidenceOf he).fieldName]
      exact strip_presentField hpresent
    rw [map_eq_of_mapM hevidence hname, map_fst_extracted]
  · obtain ⟨entry, -, hentry⟩ := exists_of_mem_mapM hevidence he
    have hobject := objectOf_of_evidenceOf hentry
    exact ⟨hobject.verified, hobject.isSealed⟩

/-- After the parsing the function returns exactly if every value and every key can be stored. -/
theorem exists_ingestMembers_iff (hnodup : (members.map Prod.fst).Nodup)
    (hdepth : ∀ m ∈ members, m.2.depth ≤ P.recursionLimit) :
    (∃ result, ingestMembers P repr context request now members = .ok result) ↔
      (∀ m ∈ members, isExtractable m.1 = true → m.2.isText = true ∧ now.Representable) ∧
      ∀ m ∈ members, isExtractable m.1 = false → isText m.1 = true := by
  have hobjects : (∃ evidence, (extracted members).mapM (evidenceOf P repr context request now) =
      .ok evidence) ↔
      ∀ m ∈ members, isExtractable m.1 = true → m.2.isText = true ∧ now.Representable := by
    rw [← forall_extracted_iff (Q := fun v => v.isText = true ∧ now.Representable) hnodup]
    have hentry : ∀ e ∈ extracted members, e.2.depth ≤ P.recursionLimit :=
      (forall_extracted_iff (Q := fun v => v.depth ≤ P.recursionLimit) hnodup).2
        fun m hm _ => hdepth m hm
    constructor
    · rintro ⟨evidence, hevidence⟩ e he
      obtain ⟨b, -, hb⟩ := exists_result_of_mem hevidence he
      exact (exists_evidenceOf_iff (hentry e he)).1 ⟨b, hb⟩
    · exact fun h => exists_mapM fun e he => (exists_evidenceOf_iff (hentry e he)).2 (h e he)
  have hkeys : (∃ ignored, (ignoredKeys members).mapM strField = .ok ignored) ↔
      ∀ m ∈ members, isExtractable m.1 = false → isText m.1 = true := by
    constructor
    · rintro ⟨ignored, hignored⟩ m hm hkey
      obtain ⟨b, -, hb⟩ := exists_result_of_mem hignored (mem_ignoredKeys.2 ⟨⟨m.2, hm⟩, hkey⟩)
      exact exists_strField_iff.1 ⟨b, hb⟩
    · intro h
      refine exists_mapM fun k hk => exists_strField_iff.2 ?_
      obtain ⟨⟨v, hv⟩, hkey⟩ := mem_ignoredKeys.1 hk
      exact h (k, v) hv hkey
  rw [← hobjects, ← hkeys]
  constructor
  · rintro ⟨result, h⟩
    obtain ⟨output, -, -, hevidence, hignored⟩ := ingestMembers_eq_ok h
    exact ⟨⟨_, hevidence⟩, _, hignored⟩
  · rintro ⟨⟨evidence, hevidence⟩, ignored, hignored⟩
    obtain ⟨input, hinput⟩ := exists_ingest_inputHash P request
    have hencodable : ∀ e ∈ evidence, (Artifact.dump e).Encodable [] := by
      intro e he
      obtain ⟨entry, -, hentry⟩ := exists_of_mem_mapM hevidence he
      have hobject := objectOf_of_evidenceOf hentry
      rw [encodable_evidence (by decide) (by decide), hobject.created]
      exact hobject.representable
    have houtput : (EvidenceIngestOutput.dump
        ⟨evidence, (sha256Bytes P request.rawContent).stripped, ignored⟩).Encodable [] := by
      have hitems : (Value.arr (evidence.map Artifact.dump)).Encodable [] := by
        rw [encodable_arr, List.forall_mem_map]
        exact hencodable
      simp only [EvidenceIngestOutput.dump, keyed, encodable_obj, List.forall_mem_cons]
      exact ⟨.inr hitems, .inr trivial, .inr (encodable_labels _), by simp⟩
    obtain ⟨outputHash, houtputHash⟩ := exists_sha256Digest_iff (P := P).2 houtput
    unfold ingestMembers success
    rw [hevidence, ok_bind, hignored, ok_bind, hinput, ok_bind, houtputHash, ok_bind]
    exact ⟨_, rfl⟩

/-- Past the checks the outcome is decided by the parsed content. -/
theorem evidenceIngest_eq (hcaller : context.callerIdentity.val = lit "PF-A2")
    (hmedia : request.mediaType.val ∈ allowedMediaTypes.map lit)
    (hhash : (sha256Bytes P request.rawContent).val = request.declaredSha256.val) :
    evidenceIngest P repr excText context request now =
      ingestParsed P repr excText context request now (parseContent P request) := by
  have hdenied : denied (α := EvidenceIngestOutput) P context request.dump "PF-A2" = .ok none :=
    denied_eq_none.2 hcaller
  unfold evidenceIngest
  rw [hdenied, ok_bind]
  dsimp only
  rw [if_neg (not_not.2 hmedia), if_neg (not_not.2 hhash)]

/-- On content of an allowed type with its declared hash the ingestion answers exactly if what
leaves the decoder can be stored. -/
theorem ingestion_answers_iff (P : Platform) (repr : Str → Str)
    (excText : EvidenceIngestRequest → Str) (context : SkillContext)
    (request : EvidenceIngestRequest) (now : DateTime)
    (hcaller : context.callerIdentity.val = lit "PF-A2")
    (hmedia : request.mediaType.val ∈ allowedMediaTypes.map lit)
    (hhash : (sha256Bytes P request.rawContent).val = request.declaredSha256.val) :
    IngestAnswers P request (evidenceIngest P repr excText context request now) ↔
      Survives P request now := by
  rw [evidenceIngest_eq hcaller hmedia hhash]
  cases hparse : parseContent P request with
  | error e =>
    cases e with
    | valueError =>
      refine iff_of_true ?_ ?_
      · obtain ⟨input, hinput⟩ := exists_ingest_inputHash P request
        refine ⟨SkillResult.blocked [Issue.blocker "PARSE_FAILED" (excText request) true] input, ?_,
          .inr ⟨rfl, rfl⟩⟩
        unfold ingestParsed ingestBlocked
        rw [hinput]
        rfl
      · refine ⟨by rw [hparse]; nofun, ?_, ?_, ?_⟩ <;>
          · intro members hmembers
            rw [hparse] at hmembers
            cases hmembers
    | recursionError =>
      refine iff_of_false ?_ fun h => h.within_limit hparse
      rintro ⟨_, ⟨⟩, -⟩
  | ok members =>
    obtain ⟨hnodup, hdepth⟩ := parseContent_spec hparse
    have hsame (members') (h : parseContent P request = .ok members') : members = members' :=
      Except.ok.inj (hparse.symm.trans h)
    constructor
    · rintro ⟨result, hresult, hanswer⟩
      obtain ⟨output, hstatus, hvalue, hevidence, hignored⟩ := ingestMembers_eq_ok hresult
      obtain ⟨hvalues, -⟩ := (exists_ingestMembers_iff hnodup hdepth).1 ⟨result, hresult⟩
      have hingested : Ingested P members output := by
        rcases hanswer with ⟨-, members', output', hparse', hvalue', hingested⟩ | ⟨hblocked, -⟩
        · obtain rfl := hsame members' hparse'
          obtain rfl : output = output' := Option.some.inj (hvalue.symm.trans hvalue')
          exact hingested
        · rw [hstatus] at hblocked
          cases hblocked
      have hkeys := (ingested_iff hevidence hignored).1 hingested
      refine ⟨by rw [hparse]; nofun, ?_, ?_, ?_⟩
      · rintro members' hmembers' m hm hkey
        obtain rfl := hsame members' hmembers'
        exact (hvalues m hm hkey).1
      · rintro members' hmembers'
        obtain rfl := hsame members' hmembers'
        exact hkeys
      · rintro members' hmembers' m hm hkey
        obtain rfl := hsame members' hmembers'
        exact (hvalues m hm hkey).2
    · intro h
      have hkeys : ∀ m ∈ members, isExtractable m.1 = false → isText m.1 = true := by
        intro m hm hkey
        obtain ⟨t, ht, -⟩ := isStorable_iff.1 (h.keys members hparse m hm hkey)
        exact exists_scalars_iff.1 ⟨t, ht⟩
      have hexists : ∃ result, ingestMembers P repr context request now members = .ok result :=
        (exists_ingestMembers_iff hnodup hdepth).2
          ⟨fun m hm hkey => ⟨h.values members hparse m hm hkey, h.time members hparse m hm hkey⟩,
            hkeys⟩
      obtain ⟨result, hresult⟩ := hexists
      obtain ⟨output, hstatus, hvalue, hevidence, hignored⟩ := ingestMembers_eq_ok hresult
      exact ⟨result, hresult, .inl ⟨hstatus, members, output, hparse, hvalue,
        (ingested_iff hevidence hignored).2 (h.keys members hparse)⟩⟩

end Ingestion

/-! ## Deciding it -/

/-- The check of `Survives` on what the parsing gives. -/
def survivesCheck (now : DateTime) : Except JsonError (List (PyStr × Json PyStr)) → Bool
  | .ok members => members.all fun m =>
      if isExtractable m.1 then m.2.isText && decide now.Representable else isStorable m.1
  | .error e => decide (e ≠ .recursionError)

theorem survivesCheck_iff {P : Platform} {request : EvidenceIngestRequest} {now : DateTime} :
    survivesCheck now (parseContent P request) = true ↔ Survives P request now := by
  cases hparse : parseContent P request with
  | error e =>
    have hnone {Q : List (PyStr × Json PyStr) → Prop} (members)
        (h : parseContent P request = .ok members) : Q members := by
      rw [hparse] at h
      cases h
    simp only [survivesCheck, decide_eq_true_eq]
    constructor
    · intro h
      exact ⟨fun heq => h (Except.error.inj (hparse.symm.trans heq)), hnone, hnone, hnone⟩
    · rintro h rfl
      exact h.within_limit hparse
  | ok members =>
    simp only [survivesCheck, List.all_eq_true]
    constructor
    · intro h
      have hmember (members') (hp : parseContent P request = .ok members') (m) (hm : m ∈ members') :
          (if isExtractable m.1 then m.2.isText && decide now.Representable else isStorable m.1) =
            true := by
        obtain rfl : members = members' := Except.ok.inj (hparse.symm.trans hp)
        exact h m hm
      refine ⟨by
        rw [hparse]; nofun, fun members' hp m hm hkey => ?_, fun members' hp m hm hkey => ?_,
        fun members' hp m hm hkey => ?_⟩ <;> have hm' := hmember members' hp m hm <;>
        simp only [hkey, if_true, Bool.false_eq_true, if_false, Bool.and_eq_true,
          decide_eq_true_eq] at hm'
      · exact hm'.1
      · exact hm'
      · exact hm'.2
    · intro h m hm
      by_cases hkey : isExtractable m.1 = true
      · rw [if_pos hkey, h.values members hparse m hm hkey, Bool.true_and, decide_eq_true_eq]
        exact h.time members hparse m hm hkey
      · rw [if_neg hkey]
        exact h.keys members hparse m hm (Bool.eq_false_iff.2 hkey)

instance (P : Platform) (request : EvidenceIngestRequest) (now : DateTime) :
    Decidable (Survives P request now) :=
  decidable_of_iff _ survivesCheck_iff

namespace Sample

/-- The digests of the two contents. -/
def contentPlatform : Platform := platformOf
  [(27, 0xaa329be8896730e08a1a76b0c1b1fa4703c9a7719d32ba7cbcfb908dd8158c46),
    (21, 0x82d4f0ffd99c9f9d6be8f2df673c89f4c0aa88e923915341c16c04c0eb4192a1)]

/-- A JSON document with its declared hash. -/
def contentRequest (content declared : String) : EvidenceIngestRequest where
  documentId := label "doc-1"
  mediaType := label "application/json"
  declaredSha256 := label declared
  rawContent := encodeUtf8 (lit content)

def noteRequest : EvidenceIngestRequest :=
  contentRequest "\x7b\"currency\":\"CNY\",\"note\":1\x7d"
    "sha256:aa329be8896730e08a1a76b0c1b1fa4703c9a7719d32ba7cbcfb908dd8158c46"

def surrogateRequest : EvidenceIngestRequest :=
  contentRequest "\x7b\"currency\":\"\\ud800\"\x7d"
    "sha256:82d4f0ffd99c9f9d6be8f2df673c89f4c0aa88e923915341c16c04c0eb4192a1"

/-- What the ingestion of a request raises. -/
def ingestFault (request : EvidenceIngestRequest) : Option Fault :=
  match evidenceIngest contentPlatform id (fun _ => []) (agentContext evidenceAgent) request
    (.ofUtc sheetTime) with
  | .ok _ => none
  | .error e => some e

theorem ingestFault_surrogate : ingestFault surrogateRequest = some .valueError := by
  decide

end Sample

/-- An object with one extractable field and one other key. -/
theorem sample_ingestion_answers : IngestAnswers Sample.contentPlatform Sample.noteRequest
    (evidenceIngest Sample.contentPlatform id (fun _ => []) (Sample.agentContext evidenceAgent)
      Sample.noteRequest (.ofUtc Sample.sheetTime)) :=
  (ingestion_answers_iff _ _ _ _ _ _ (by decide) (by decide) (by decide)).2
    (by decide)

/-- An escaped lone surrogate in an extractable field makes the function raise. -/
theorem sample_ingestion_raises : ¬ ∀ (P : Platform) (repr : Str → Str)
    (excText : EvidenceIngestRequest → Str) (context : SkillContext)
    (request : EvidenceIngestRequest) (now : DateTime), context.callerIdentity.val = lit "PF-A2" →
    request.mediaType.val ∈ allowedMediaTypes.map lit →
    (sha256Bytes P request.rawContent).val = request.declaredSha256.val → now.Representable →
    IngestAnswers P request (evidenceIngest P repr excText context request now) := by
  intro hclaim
  obtain ⟨result, hresult, -⟩ := hclaim Sample.contentPlatform id (fun _ => [])
    (Sample.agentContext evidenceAgent) Sample.surrogateRequest (.ofUtc Sample.sheetTime)
      (by decide)
    (by decide) (by decide) (by decide)
  have hfault := Sample.ingestFault_surrogate
  unfold Sample.ingestFault at hfault
  rw [hresult] at hfault
  cases hfault

end ProofFlow
