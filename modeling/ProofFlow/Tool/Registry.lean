import ProofFlow.Tool.Store

/-!
# Runs of the trusted registry

Any number of calls of `register_all` and `contains` share one store; what `register_all` does under
the lock is atomic, and so is the lookup of `contains`.  Over every interleaving the store holds
exactly what the successful batches held, under the scope that is written inside the bytes.
-/

namespace ProofFlow

open Kit

/-- A call on the registry. -/
inductive RegistryCall where
  | registerAll (evidence : List EvidenceObject)
  | contains (context : SkillContext) (evidence : EvidenceObject)

/-- What a call does under the lock. -/
inductive RegistryOperation where
  | commit (pending : Dict ArtifactKey Bytes)
  | get (key : ArtifactKey) (payload : Bytes)

/-- What a call returns: `register_all` returns `None`. -/
abbrev RegistryResult := Except Fault (Option Bool)

/-- The registry as a service on the shared store. -/
def registryService (P : Platform) : Service RegistryCall RegistryOperation RegistryResult
    RegistryResult TrustedArtifactStore where
  plan
    | .registerAll evidence =>
      match evidence.foldlM (collect P) ∅ with
      | .error e => .error (.error e)
      | .ok pending => .ok (.commit pending, id)
    | .contains context evidence =>
      match lookupOf context evidence with
      | .error e => .error (.error e)
      | .ok none => .error (.ok (some false))
      | .ok (some (key, payload)) => .ok (.get key payload, id)
  apply s
    | .commit pending => ((s.commit pending).1.map fun _ => none, (s.commit pending).2)
    | .get key payload => (.ok (some (decide (s.records.get key = some payload))), s)

theorem registryService_registerAll (P : Platform) (s : TrustedArtifactStore)
    (evidence : List EvidenceObject) :
    (registryService P).call s (.registerAll evidence) =
      ((s.registerAll P evidence).1.map fun _ => none, (s.registerAll P evidence).2) := by
  unfold Service.call TrustedArtifactStore.registerAll
  simp only [registryService]
  cases evidence.foldlM (collect P) ∅ <;> rfl

theorem registryService_contains (P : Platform) (s : TrustedArtifactStore) (context : SkillContext)
    (evidence : EvidenceObject) :
    (registryService P).call s (.contains context evidence) =
      ((s.contains context evidence).map some, s) := by
  unfold Service.call TrustedArtifactStore.contains
  simp only [registryService]
  rcases lookupOf context evidence with e | _ | ⟨key, payload⟩ <;> rfl

/-- A moment of a run. -/
abbrev RegistryMoment := Config RegistryCall RegistryOperation RegistryResult RegistryResult
  TrustedArtifactStore

/-- A step of one of the calls. -/
abbrev RegistryStep (P : Platform) : RegistryMoment → RegistryMoment → Prop :=
  Step (registryService P) fun _ => True

/-- The moments of all runs of a registry with the capacity. -/
def RegistryRun (P : Platform) (capacity : { n : ℕ // 1 ≤ n }) (g : RegistryMoment) : Prop :=
  Reachable (registryService P) (fun _ => True) (.empty capacity) g

/-- The batch was registered. -/
def Succeeded (g : RegistryMoment) (batch : List EvidenceObject) : Prop :=
  (RegistryCall.registerAll batch, .ok none) ∈ g.settled

/-- An object with exactly the canonical bytes of `e` was in a batch that succeeded. -/
def Registered (g : RegistryMoment) (e : EvidenceObject) : Prop :=
  ∃ batch, Succeeded g batch ∧ ∃ item ∈ batch, SameCanonicalBytes item e

/-- The key agrees with the tenant, the case, the trace, the id and the content hash that the
payload states. -/
def StatesKey (payload : Bytes) (key : ArtifactKey) : Prop :=
  ∃ value metadata, jsonLoads 3 payload = .ok value ∧ memberOf value "meta" = some metadata ∧
    memberOf metadata "tenant_id" = some (.str (toPyStr key.tenantId)) ∧
    memberOf metadata "case_id" = some (.str (toPyStr key.caseId)) ∧
    memberOf metadata "trace_id" = some (.str (toPyStr key.traceId)) ∧
    memberOf metadata "artifact_id" = some (.str (toPyStr key.artifactId)) ∧
    memberOf metadata "content_hash" = some (.str (toPyStr key.contentHash))

section Objects

variable {P : Platform} {item : EvidenceObject} {key : ArtifactKey} {payload : Bytes}

/-- A text among the metadata is found in its canonical form. -/
theorem memberOf_metadata {m : ArtifactMeta} {c : Canon} (h : canonicalize [] m.dump = .ok c)
    {members : List (Str × Value)} (hm : m.dump = .obj members) (key : String) {s : Str} (i : ℕ)
    (hi : members[i]? = some (lit key, .str s)) :
    memberOf c.loaded key = some (.str (toPyStr s)) := by
  have hkeys : members.map Prod.fst = ["artifact_id", "tenant_id", "case_id", "schema_version",
      "producer_identity", "trace_id", "created_at", "source_refs", "classification",
      "content_hash"].map lit := by
    rw [← Value.obj.inj hm]
    rfl
  rw [hm] at h
  obtain ⟨cv, hcv, hlookup⟩ := memberOf_canonicalize _ key h hkeys (by decide)
    (List.mem_of_getElem? hi) (by simp)
  rw [hlookup, ← Except.ok.inj hcv]
  rfl

/-- The bytes that an object is registered with state its key. -/
theorem RegisteredAs.statesKey (h : RegisteredAs P item key payload) : StatesKey payload key := by
  obtain ⟨contentHash, hhash, rfl⟩ := h.key_eq
  obtain ⟨c, hc, rfl⟩ := canonicalBytes_eq_ok.1 h.bytes_eq
  have hread := (canonicalize_form [] _ c hc 3).readable (legible_dump item)
  obtain ⟨cm, hcm, hmeta⟩ := memberOf_canonicalize ["meta", "evidence_type", "field_name",
    "normalized_value", "verbatim_excerpt", "source_document_id", "fact_status", "confidence"]
    "meta" hc rfl (by decide) List.mem_cons_self (by simp)
  obtain ⟨cs, rfl, -⟩ := canonicalize_obj_eq_ok.1 hc
  have hlabel : Value.label? item.metadata.contentHash = .str contentHash.val := by
    rw [hhash]
    rfl
  refine ⟨_, _, jsonLoads_canonicalJson hread, hmeta, ?_, ?_, ?_, ?_, ?_⟩
  · exact memberOf_metadata hcm rfl "tenant_id" 1 rfl
  · exact memberOf_metadata hcm rfl "case_id" 2 rfl
  · exact memberOf_metadata hcm rfl "trace_id" 5 rfl
  · exact memberOf_metadata hcm rfl "artifact_id" 0 rfl
  · have hentry : some (keyed "content_hash" (.label? item.metadata.contentHash)) =
        some (keyed "content_hash" (.str contentHash.val)) := by rw [hlabel]
    exact memberOf_metadata hcm rfl "content_hash" 9 hentry

/-- `contains` answers `True` when it finds the bytes under the key in the caller's scope. -/
theorem contains_eq_true {s : TrustedArtifactStore} {context : SkillContext} {e : EvidenceObject} :
    s.contains context e = .ok true ↔ ∃ contentHash payload,
      e.metadata.contentHash = some contentHash ∧ e.canonicalBytes = .ok payload ∧
      s.records.get { keyFromArtifact e contentHash with
        tenantId := context.tenantId.val
        caseId := context.caseId.val
        traceId := context.traceId.val } = some payload := by
  unfold TrustedArtifactStore.contains lookupOf
  cases hhash : e.metadata.contentHash with
  | none => simp [ok_bind, pure, Except.pure]
  | some contentHash =>
    cases hbytes : e.canonicalBytes with
    | error f =>
      by_cases hf : f.isTypeOrValueError = true
      · simp [hf, ok_bind, pure, Except.pure]
      · simp [hf, bind, Except.bind]
    | ok payload => simp [ok_bind, pure, Except.pure, keyFromArtifact]

end Objects

/-! ## The invariant of the runs -/

/-- The store holds exactly what the batches that succeeded held. -/
structure RegistryInvariant (P : Platform) (capacity : { n : ℕ // 1 ≤ n })
    (s : TrustedArtifactStore) (settled : Multiset (RegistryCall × RegistryResult)) : Prop where
  capacity_eq : s.capacity = capacity
  size_le : s.records.size ≤ s.capacity.val
  sound : ∀ key payload, s.records.get key = some payload →
    ∃ batch, (RegistryCall.registerAll batch, .ok none) ∈ settled ∧
      ∃ item ∈ batch, RegisteredAs P item key payload
  complete : ∀ batch, (RegistryCall.registerAll batch, .ok none) ∈ settled →
    ∀ item ∈ batch, s.Holds P item

section Runs

variable {P : Platform} {capacity : { n : ℕ // 1 ≤ n }} {s : TrustedArtifactStore}
  {settled : Multiset (RegistryCall × RegistryResult)} {g g' : RegistryMoment}

/-- A call that registers nothing keeps the invariant of an unchanged store. -/
theorem RegistryInvariant.settle (h : RegistryInvariant P capacity s settled)
    {c : RegistryCall × RegistryResult}
    (hc : ∀ batch, c ≠ (RegistryCall.registerAll batch, .ok none)) :
    RegistryInvariant P capacity s (c ::ₘ settled) where
  capacity_eq := h.capacity_eq
  size_le := h.size_le
  sound := by
    intro key payload hget
    obtain ⟨batch, hbatch, hitem⟩ := h.sound key payload hget
    exact ⟨batch, Multiset.mem_cons_of_mem hbatch, hitem⟩
  complete := by
    intro batch hbatch
    rcases Multiset.mem_cons.1 hbatch with heq | hbatch
    · exact absurd heq.symm (hc batch)
    · exact h.complete batch hbatch

/-- A batch that succeeds adds what it held. -/
theorem RegistryInvariant.register (h : RegistryInvariant P capacity s settled)
    {batch : List EvidenceObject} {pending : Dict ArtifactKey Bytes}
    (hcollected : Collected P batch pending) (hgrows : s.records.Grows (s.records.update pending))
    (hsize : (s.records.update pending).size ≤ s.capacity.val) :
    RegistryInvariant P capacity { s with records := s.records.update pending }
      ((RegistryCall.registerAll batch, .ok none) ::ₘ settled) where
  capacity_eq := h.capacity_eq
  size_le := hsize
  sound := by
    intro key payload hget
    rw [Dict.get_update] at hget
    cases hpending : pending.get key with
    | some payload' =>
      rw [hpending] at hget
      obtain rfl := Option.some.inj hget
      obtain ⟨item, hitem, hregistered⟩ := hcollected.sound key _ hpending
      exact ⟨batch, Multiset.mem_cons_self _ _, item, hitem, hregistered⟩
    | none =>
      rw [hpending] at hget
      obtain ⟨earlier, hearlier, hitem⟩ := h.sound key payload hget
      exact ⟨earlier, Multiset.mem_cons_of_mem hearlier, hitem⟩
  complete := by
    intro batch' hbatch item hitem
    rcases Multiset.mem_cons.1 hbatch with heq | hbatch
    · obtain rfl : batch' = batch := by simpa using congrArg Prod.fst heq
      obtain ⟨key, payload, hregistered, hget⟩ := hcollected.complete item hitem
      refine ⟨key, payload, hregistered, ?_⟩
      show (s.records.update pending).get key = some payload
      rw [Dict.get_update, hget]
      rfl
    · obtain ⟨key, payload, hregistered, hget⟩ := h.complete batch' hbatch item hitem
      exact ⟨key, payload, hregistered, hgrows key payload hget⟩

/-- What a single call does: it leaves the store alone, or it registers a batch. -/
theorem registryCall_cases (P : Platform) (s : TrustedArtifactStore) (c : RegistryCall) :
    ((registryService P).call s c).2 = s ∧
        (∀ batch, (c, ((registryService P).call s c).1) ≠
          (RegistryCall.registerAll batch, .ok none)) ∨
      ∃ batch pending, c = .registerAll batch ∧ Collected P batch pending ∧
        (registryService P).call s c = (.ok none, { s with records := s.records.update pending }) ∧
        s.records.Grows (s.records.update pending) ∧
        (s.records.update pending).size ≤ s.capacity.val := by
  cases c with
  | contains context evidence =>
    left
    rw [registryService_contains]
    exact ⟨rfl, fun batch h => by cases congrArg Prod.fst h⟩
  | registerAll batch =>
    rw [registryService_registerAll]
    rcases registerAll_cases P s batch with ⟨e, he⟩ | ⟨pending, hcollected, heq, hgrows, hsize⟩
    · left
      rw [he]
      exact ⟨rfl, fun batch h => by cases congrArg Prod.snd h⟩
    · right
      rw [heq]
      exact ⟨batch, pending, rfl, hcollected, rfl, hgrows, hsize⟩

theorem RegistryRun.invariant (h : RegistryRun P capacity g) :
    RegistryInvariant P capacity g.shared g.settled := by
  refine Reachable.invariant ?_ ?_ h
  · exact {
      capacity_eq := rfl
      size_le := Nat.zero_le _
      sound := by simp [TrustedArtifactStore.empty]
      complete := by simp }
  · intro s settled c _ hinv
    rcases registryCall_cases P s c with ⟨hstore, hc⟩ | ⟨batch, pending, rfl, hcollected, heq,
      hgrows, hsize⟩
    · rw [hstore]
      exact hinv.settle hc
    · rw [heq]
      exact hinv.register hcollected hgrows hsize

/-- An object with the bytes of a registered one is held as it is. -/
theorem RegistryInvariant.holds (h : RegistryInvariant P capacity g.shared g.settled)
    {e : EvidenceObject} (he : Registered g e) : g.shared.Holds P e := by
  obtain ⟨batch, hbatch, item, hitem, hsame⟩ := he
  obtain ⟨key, payload, hregistered, hget⟩ := h.complete batch hbatch item hitem
  exact ⟨key, payload, hregistered.of_sameForm hsame.sameForm, hget⟩

end Runs

/-- What the registry guarantees at a moment of a run. -/
structure RegistrySound (P : Platform) (capacity : { n : ℕ // 1 ≤ n }) (g : RegistryMoment) :
    Prop where
  size_le : g.shared.records.size ≤ capacity.val
  unchanged_on_raise : ∀ batch e s', g.shared.registerAll P batch = (.error e, s') → s' = g.shared
  records_persist : ∀ g', RegistryStep P g g' → g.shared.records.Grows g'.shared.records
  reregistered : ∀ batch, (∀ item ∈ batch, Registered g item) →
    ∃ s', g.shared.registerAll P batch = (.ok (), s') ∧
      s'.records.size = g.shared.records.size ∧ ∀ key, s'.records.get key = g.shared.records.get key
  states_key : ∀ key payload, g.shared.records.get key = some payload → StatesKey payload key
  contains_iff : ∀ context e, g.shared.contains context e = .ok true ↔
    Registered g e ∧ e.metadata.tenantId = context.tenantId ∧ e.metadata.caseId = context.caseId ∧
      e.metadata.traceId = context.traceId

/-- Over every interleaving of calls on one registry of any capacity. -/
theorem registryRun_sound {P : Platform} {capacity : { n : ℕ // 1 ≤ n }} {g : RegistryMoment}
    (h : RegistryRun P capacity g) : RegistrySound P capacity g := by
  have hinv := h.invariant
  refine ⟨?_, ?_, ?_, ?_, ?_, ?_⟩
  · exact hinv.capacity_eq ▸ hinv.size_le
  · intro batch e s' heq
    rcases registerAll_cases P g.shared batch with ⟨e', he'⟩ | ⟨pending, -, hok, -⟩
    · rw [heq] at he'
      exact (Prod.mk.inj he').2
    · rw [heq] at hok
      cases congrArg Prod.fst hok
  · intro g' hstep
    rcases Reachable.step h hstep with ⟨hshared, -⟩ | ⟨c, -, hshared, -⟩
    · rw [hshared]
      exact Dict.Grows.refl _
    · rw [hshared]
      rcases registryCall_cases P g.shared c with ⟨hstore, -⟩ | ⟨batch, pending, -, -, heq, hgrows,
        -⟩
      · rw [hstore]
        exact Dict.Grows.refl _
      · rw [heq]
        exact hgrows
  · intro batch hbatch
    obtain ⟨records, heq, hsize, hget⟩ := registerAll_of_holds hinv.size_le
      fun item hitem => hinv.holds (hbatch item hitem)
    exact ⟨_, heq, hsize, hget⟩
  · intro key payload hget
    obtain ⟨batch, -, item, -, hregistered⟩ := hinv.sound key payload hget
    exact hregistered.statesKey
  · intro context e
    rw [contains_eq_true]
    constructor
    · rintro ⟨contentHash, payload, hhash, hbytes, hget⟩
      obtain ⟨batch, hbatch, item, hitem, hregistered⟩ := hinv.sound _ _ hget
      have hsame : SameCanonicalBytes item e := ⟨payload, hregistered.bytes_eq, hbytes⟩
      obtain ⟨contentHash', -, hkey⟩ := hregistered.key_eq
      have hform := hsame.sameForm
      simp only [keyFromArtifact, ArtifactKey.mk.injEq] at hkey
      refine ⟨⟨batch, hbatch, item, hitem, hsame⟩, ?_, ?_, ?_⟩
      · rw [← hform.tenantId]
        exact Subtype.ext hkey.1.symm
      · rw [← hform.caseId]
        exact Subtype.ext hkey.2.1.symm
      · rw [← hform.traceId]
        exact Subtype.ext hkey.2.2.1.symm
    · rintro ⟨hregistered, htenant, hcase, htrace⟩
      obtain ⟨key, payload, has, hget⟩ := hinv.holds hregistered
      obtain ⟨contentHash, hhash, rfl⟩ := has.key_eq
      refine ⟨contentHash, payload, hhash, has.bytes_eq, ?_⟩
      rw [← htenant, ← hcase, ← htrace]
      exact hget

namespace Sample

/-- A non-empty text that has no whitespace around it. -/
def named (s : String) (h : strip (lit s) = lit s ∧ lit s ≠ [] := by decide) : Filled := ⟨lit s, h⟩

def evidenceSeal : BitVec 256 := 0xa4396f05cd698a7d138f33b9f7b39e4d078b8e333af3cab85c5da267baa36309

/-- A platform that knows the digest of the sample evidence. -/
def evidencePlatform : Platform where
  sha256 b := if b.length = 459 then evidenceSeal else 0
  ed25519Verify _ _ _ := false
  jiter _ := none
  parseDatetime _ := none
  datetimeText _ := []
  recursionLimit := 900

/-- `2026-01-01T00:00:00Z`. -/
def evidenceTime : UtcTime := ⟨63902822400000000, by decide⟩

/-- An amount that was read from a document and sealed. -/
def evidence : EvidenceObject where
  metadata := {
    artifactId := named "ev-1"
    tenantId := named "tenant"
    caseId := named "case-1"
    schemaVersion := schemaVersion
    producerIdentity := named "PF-A2"
    traceId := named "trace-1"
    createdAt := ⟨.ofUtc evidenceTime, rfl⟩
    sourceRefs := [label "doc-1"]
    classification := .publicSynthetic
    contentHash := some (label
      "sha256:a4396f05cd698a7d138f33b9f7b39e4d078b8e333af3cab85c5da267baa36309") }
  evidenceType := label "SYNTHETIC_DOCUMENT_FIELD"
  fieldName := label "amount"
  normalizedValue := label "100"
  verbatimExcerpt := label "amount: 100"
  sourceDocumentId := label "doc-1"
  factStatus := .verified
  confidence := ⟨Decimal.ofNat 1, Decimal.isProportion_one⟩

set_option maxRecDepth 100000 in
theorem registerAll_evidence :
    (TrustedArtifactStore.registerAll evidencePlatform (.empty ⟨1, by decide⟩) [evidence]).1 =
      .ok () := by
  decide +kernel

theorem exists_canonicalBytes_evidence : ∃ b, evidence.canonicalBytes = .ok b := by
  have hbytes : evidence.canonicalBytes.toOption.isSome = true := by decide +kernel
  cases h : evidence.canonicalBytes with
  | ok b => exact ⟨b, rfl⟩
  | error e =>
    rw [h] at hbytes
    cases hbytes

end Sample

/-- In a run that registers the sample evidence twice, with room for one object. -/
theorem sample_registrySound : ∃ g, RegistryRun Sample.evidencePlatform ⟨1, by decide⟩ g ∧
    Registered g Sample.evidence ∧ g.settled.card = 2 ∧
    RegistrySound Sample.evidencePlatform ⟨1, by decide⟩ g := by
  have hstart :
      RegistryRun Sample.evidencePlatform ⟨1, by decide⟩ ⟨.empty ⟨1, by decide⟩, 0, 0, 0⟩ :=
    Relation.ReflTransGen.refl
  have honce := Reachable.settle hstart (c := .registerAll [Sample.evidence]) trivial
  have htwice := Reachable.settle honce (c := .registerAll [Sample.evidence]) trivial
  have hfirst : ((registryService Sample.evidencePlatform).call (.empty ⟨1, by decide⟩)
      (.registerAll [Sample.evidence])).1 = .ok none := by
    rw [registryService_registerAll, Sample.registerAll_evidence]
    rfl
  obtain ⟨b, hb⟩ := Sample.exists_canonicalBytes_evidence
  refine ⟨_, htwice, ⟨[Sample.evidence], ?_, Sample.evidence, List.mem_cons_self, b, hb, hb⟩, rfl,
    registryRun_sound htwice⟩
  unfold Succeeded
  rw [hfirst]
  dsimp only
  exact Multiset.mem_cons_of_mem (Multiset.mem_cons_self _ _)

end ProofFlow
