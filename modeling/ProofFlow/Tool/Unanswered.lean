import ProofFlow.Evidence.Objects
import ProofFlow.Tool.Endpoints

/-!
# Ingestions that are not answered

`do_POST` registers the objects of an ingestion inside its `try` and measures the answer afterwards.
The length of the answer is a sum over the strings of the request, and whether the registry takes
anything new is a matter of its free places and of the ids that it knows.  So it can be told from
the request, the limit of the server and the registry before the call whether an ingestion leaves
objects behind that its caller never received.
-/

namespace ProofFlow

open Kit

/-! ## Batches of new objects -/

/-- The registry has the same capacity and the same records. -/
def TrustedArtifactStore.Same (s s' : TrustedArtifactStore) : Prop :=
  s'.capacity = s.capacity ∧ ∀ key, s'.records.get key = s.records.get key

/-- The registry has a record of the context under the artifact id. -/
def TrustedArtifactStore.Knows (s : TrustedArtifactStore) (context : SkillContext) (id : Str) :
    Prop :=
  ∃ key ∈ s.records.keys, key.tenantId = context.tenantId.val ∧
    key.caseId = context.caseId.val ∧ key.traceId = context.traceId.val ∧ key.artifactId = id

instance (s : TrustedArtifactStore) (context : SkillContext) (id : Str) :
    Decidable (s.Knows context id) :=
  inferInstanceAs (Decidable (∃ key ∈ s.records.keys, _))

/-- The object is registered in the context if at all. -/
structure Within (context : SkillContext) (item : EvidenceObject) : Prop where
  tenantId : item.metadata.tenantId = context.tenantId
  caseId : item.metadata.caseId = context.caseId
  traceId : item.metadata.traceId = context.traceId

section Batches

variable {P : Platform} {store s : TrustedArtifactStore} {context : SkillContext}
  {batch : List EvidenceObject} {item : EvidenceObject} {key : ArtifactKey} {payload : Bytes}

theorem RegisteredAs.artifactId (h : RegisteredAs P item key payload) :
    key.artifactId = item.metadata.artifactId.val := by
  obtain ⟨contentHash, -, rfl⟩ := h.key_eq
  rfl

/-- A key under which the registry has a record makes the id known. -/
theorem RegisteredAs.knows (h : RegisteredAs P item key payload) (hwithin : Within context item)
    (hkey : (store.records.get key).isSome = true) :
    store.Knows context item.metadata.artifactId.val := by
  refine ⟨key, AList.lookup_isSome.1 hkey, ?_, ?_, ?_, h.artifactId⟩
  all_goals obtain ⟨contentHash, -, rfl⟩ := h.key_eq
  · exact congrArg Subtype.val hwithin.tenantId
  · exact congrArg Subtype.val hwithin.caseId
  · exact congrArg Subtype.val hwithin.traceId

/-- An object is registered in one way. -/
theorem RegisteredAs.unique {key' : ArtifactKey} {payload' : Bytes}
    (h : RegisteredAs P item key payload) (h' : RegisteredAs P item key' payload') :
    key = key' ∧ payload = payload' := by
  obtain ⟨contentHash, hhash, rfl⟩ := h.key_eq
  obtain ⟨contentHash', hhash', rfl⟩ := h'.key_eq
  obtain rfl := Option.some.inj (hhash.symm.trans hhash')
  exact ⟨rfl, Except.ok.inj (h.bytes_eq.symm.trans h'.bytes_eq)⟩

/-- The ids of the batch that the registry does not know, each once. -/
def TrustedArtifactStore.newcomers (s : TrustedArtifactStore) (context : SkillContext)
    (ids : List Str) : List Str :=
  (ids.filter fun id => ¬ s.Knows context id).dedup

/-- The registry has no place for the ids that it does not know. -/
def TrustedArtifactStore.NoRoom (s : TrustedArtifactStore) (context : SkillContext)
    (ids : List Str) : Prop :=
  s.capacity.val ≤ s.records.size ∨
    s.capacity.val < s.records.size + (s.newcomers context ids).length

instance (s : TrustedArtifactStore) (context : SkillContext) (ids : List Str) :
    Decidable (s.NoRoom context ids) :=
  inferInstanceAs (Decidable (_ ∨ _))

/-- Objects of different ids are collected without a conflict. -/
theorem exists_collected (hregistered : ∀ item ∈ batch, ∃ key payload,
    RegisteredAs P item key payload)
    (hnodup : (batch.map fun e => e.metadata.artifactId.val).Nodup)
    {pending : Dict ArtifactKey Bytes} (hfresh : ∀ item ∈ batch, ∀ key payload,
      RegisteredAs P item key payload → pending.get key = none) :
    ∃ pending', batch.foldlM (collect P) pending = .ok pending' ∧
      pending'.size = pending.size + batch.length := by
  induction batch generalizing pending with
  | nil => exact ⟨pending, rfl, rfl⟩
  | cons item batch ih =>
    obtain ⟨⟨key, payload, hitem⟩, hbatch⟩ := List.forall_mem_cons.1 hregistered
    obtain ⟨hother, hnodup⟩ := List.nodup_cons.1 hnodup
    have hfree := hfresh item List.mem_cons_self key payload hitem
    have hstep : collect P pending item = .ok (pending.set key payload) :=
      collect_eq_ok.2 ⟨key, payload, hitem, by simp [hfree], rfl⟩
    have hnext : ∀ other ∈ batch, ∀ key' payload', RegisteredAs P other key' payload' →
        (pending.set key payload).get key' = none := by
      intro other hmem key' payload' hother'
      rw [Dict.get_set_ne]
      · exact hfresh other (List.mem_cons_of_mem item hmem) key' payload' hother'
      · rintro rfl
        exact hother (List.mem_map.2 ⟨other, hmem, hother'.artifactId.symm.trans hitem.artifactId⟩)
    obtain ⟨pending', hpending, hsize⟩ := ih hbatch hnodup hnext
    refine ⟨pending', ?_, ?_⟩
    · rw [List.foldlM_cons, hstep, ok_bind, hpending]
    · rw [hsize, Dict.size_set _ _ hfree, List.length_cons]
      omega

/-- Objects of different ids that the registry does not know are registered if there is room. -/
theorem registerAll_of_unknown (hregistered : ∀ item ∈ batch, ∃ key payload,
    RegisteredAs P item key payload)
    (hnodup : (batch.map fun e => e.metadata.artifactId.val).Nodup)
    (hwithin : ∀ item ∈ batch, Within context item)
    (hunknown : ∀ item ∈ batch, ¬ store.Knows context item.metadata.artifactId.val)
    (hroom : store.records.size + batch.length ≤ store.capacity.val) :
    (store.registerAll P batch).1 = .ok () := by
  have hempty : ∀ item ∈ batch, ∀ key payload, RegisteredAs P item key payload →
      (∅ : Dict ArtifactKey Bytes).get key = none := fun _ _ key _ _ => Dict.get_empty key
  obtain ⟨pending, hpending, hsize⟩ := exists_collected hregistered hnodup hempty
  have hcollected := collected_of_foldlM hpending
  have hnone : ¬ ∃ entry ∈ pending.entries,
      ∃ existing ∈ store.records.get entry.1, existing ≠ entry.2 := by
    rintro ⟨entry, hentry, existing, hexisting, -⟩
    obtain ⟨item, hitem, hregistered⟩ :=
      hcollected.sound entry.1 entry.2 (Dict.mem_entries_iff.1 hentry)
    exact hunknown item hitem
      (hregistered.knows (hwithin item hitem) (Option.isSome_of_mem hexisting))
  have hplaces : (store.records.newKeys pending).length ≤ pending.size := by
    refine (List.length_filter_le _ _).trans (le_of_eq ?_)
    exact List.length_map _
  rw [Dict.size_empty, Nat.zero_add] at hsize
  unfold TrustedArtifactStore.registerAll TrustedArtifactStore.commit
  simp only [hpending]
  rw [if_neg hnone, if_neg (by omega)]

end Batches

/-! ## Submissions -/

/-- The request is an ingestion of content with its declared hash, and what leaves the decoder is
kept. -/
structure Submits (L : ToolLibraries) (request : ToolRequest) (call : EvidenceIngestToolCall)
    (members : List (PyStr × Json PyStr)) : Prop where
  path : request.path = .evidenceIngest
  validated : L.evidenceIngestCall request.body = some call
  mediaType : call.arguments.toSkillRequest.mediaType.val ∈ allowedMediaTypes.map lit
  declared : (sha256Bytes L.platform call.arguments.toSkillRequest.rawContent).val =
    call.arguments.toSkillRequest.declaredSha256.val
  parsed : parseContent L.platform call.arguments.toSkillRequest = .ok members
  values : ∀ m ∈ members, isExtractable m.1 = true → m.2.isText = true ∧ request.now.Representable
  keys : ∀ m ∈ members, isExtractable m.1 = false → isText m.1 = true

section Submissions

variable {L : ToolLibraries} {request : ToolRequest} {call : EvidenceIngestToolCall}
  {members : List (PyStr × Json PyStr)} {result : SkillResult EvidenceIngestOutput}
  {output : EvidenceIngestOutput}

theorem caller_of_call (call : EvidenceIngestToolCall) :
    call.context.val.callerIdentity.val = lit "PF-A2" := by
  rw [call.context.property.1]
  rfl

theorem Submits.unique {call' : EvidenceIngestToolCall} {members' : List (PyStr × Json PyStr)}
    (h : Submits L request call members) (h' : Submits L request call' members') :
    call = call' ∧ members = members' := by
  obtain rfl := Option.some.inj (h.validated.symm.trans h'.validated)
  exact ⟨rfl, Except.ok.inj (h.parsed.symm.trans h'.parsed)⟩

/-- A submission is ingested. -/
theorem Submits.exists_ingests (h : Submits L request call members) :
    ∃ result output, Ingests L request call result output ∧
      ingestMembers L.platform L.repr call.context.val call.arguments.toSkillRequest request.now
        members = .ok result := by
  obtain ⟨hnodup, hdepth⟩ := parseContent_spec h.parsed
  have hexists : ∃ result, ingestMembers L.platform L.repr call.context.val
      call.arguments.toSkillRequest request.now members = .ok result :=
    (exists_ingestMembers_iff hnodup hdepth).2 ⟨h.values, h.keys⟩
  obtain ⟨result, hresult⟩ := hexists
  obtain ⟨output, hstatus, hvalue, -, -⟩ := ingestMembers_eq_ok hresult
  have hreturned : evidenceIngest L.platform L.repr L.ingestText call.context.val
      call.arguments.toSkillRequest request.now = .ok result := by
    rw [evidenceIngest_eq (caller_of_call call) h.mediaType h.declared, h.parsed]
    exact hresult
  exact ⟨result, output, ⟨h.path, h.validated, hreturned, hstatus, hvalue⟩, hresult⟩

/-- The ids of the objects of a submission. -/
def evidenceIds (L : ToolLibraries) (call : EvidenceIngestToolCall)
    (members : List (PyStr × Json PyStr)) : List Str :=
  (extracted members).map (evidenceId L.platform L.repr call.arguments.toSkillRequest.documentId)

/-- The objects of a submission are registered under the context and the ids of the entries. -/
structure Objects (L : ToolLibraries) (call : EvidenceIngestToolCall)
    (members : List (PyStr × Json PyStr)) (batch : List EvidenceObject) : Prop where
  ids : (batch.map fun e => e.metadata.artifactId.val) = evidenceIds L call members
  within : ∀ item ∈ batch, Within call.context.val item
  registered : ∀ item ∈ batch, ∃ key payload, RegisteredAs L.platform item key payload

end Submissions

/-! ## Answers that do not arrive -/

section Answers

variable {L : ToolLibraries} {server : ToolServer} {store : TrustedArtifactStore}
  {request : ToolRequest}

/-- The ids of a submission are different, and the registry knows none of them. -/
structure FirstSubmission (L : ToolLibraries) (store : TrustedArtifactStore)
    (call : EvidenceIngestToolCall) (members : List (PyStr × Json PyStr)) : Prop where
  distinct : (evidenceIds L call members).Nodup
  unknown : ∀ id ∈ evidenceIds L call members, ¬ store.Knows call.context.val id

theorem TrustedArtifactStore.Same.refl (s : TrustedArtifactStore) : s.Same s :=
  ⟨rfl, fun _ => rfl⟩

/-- A first submission that has room and something to register is registered. -/
theorem FirstSubmission.registerAll {call : EvidenceIngestToolCall}
    {members : List (PyStr × Json PyStr)} {batch : List EvidenceObject}
    (h : FirstSubmission L store call members) (hobjects : Objects L call members batch)
    (hroom : ¬ store.NoRoom call.context.val (evidenceIds L call members)) :
    (store.registerAll L.platform batch).1 = .ok () := by
  have hunknown : ∀ item ∈ batch, ¬ store.Knows call.context.val item.metadata.artifactId.val := by
    intro item hitem
    apply h.unknown
    rw [← hobjects.ids]
    exact List.mem_map_of_mem hitem
  have hall : store.newcomers call.context.val (evidenceIds L call members) =
      evidenceIds L call members := by
    have hfilter : (evidenceIds L call members).filter
        (fun id => ¬ store.Knows call.context.val id) = evidenceIds L call members :=
      List.filter_eq_self.2 fun id hid => decide_eq_true (h.unknown id hid)
    rw [TrustedArtifactStore.newcomers, hfilter, h.distinct.dedup]
  have hlength : (evidenceIds L call members).length = batch.length := by
    rw [← hobjects.ids, List.length_map]
  unfold TrustedArtifactStore.NoRoom at hroom
  rw [hall, hlength, not_or, Nat.not_lt] at hroom
  exact registerAll_of_unknown hobjects.registered (hobjects.ids ▸ h.distinct) hobjects.within
    hunknown hroom.2

end Answers

namespace Sample

end Sample

end ProofFlow
