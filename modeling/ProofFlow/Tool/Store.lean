import ProofFlow.Kit.Dict
import ProofFlow.Kit.Interleaving
import ProofFlow.Kit.Selection
import ProofFlow.Recovery

/-!
# The trusted registry

`TrustedArtifactStore`: a bounded registry of the canonical bytes of the evidence that the process
itself has produced.  A batch is collected before the lock is taken and written under it, all or
nothing.
-/

namespace ProofFlow

open Kit

/-- `except (TypeError, ValueError)`. -/
def Fault.isTypeOrValueError : Fault → Bool
  | .valueError => true
  | .typeError => true
  | .validationError => true
  | _ => false

/-- `canonical_json` of an evidence object. -/
def EvidenceObject.canonicalBytes (e : EvidenceObject) : Except Fault Bytes := do
  let canonical ← canonicalize [] (Artifact.dump e)
  pure (canonicalJson canonical)

/-- `ArtifactKey`. -/
structure ArtifactKey where
  tenantId : Str
  caseId : Str
  traceId : Str
  artifactId : Str
  contentHash : Str
  deriving DecidableEq

/-- `_key_from_artifact` of an object with a content hash. -/
def keyFromArtifact (evidence : EvidenceObject) (contentHash : Stripped) : ArtifactKey where
  tenantId := evidence.metadata.tenantId.val
  caseId := evidence.metadata.caseId.val
  traceId := evidence.metadata.traceId.val
  artifactId := evidence.metadata.artifactId.val
  contentHash := contentHash.val

/-- `TrustedArtifactStore`. -/
structure TrustedArtifactStore where
  capacity : { n : ℕ // 1 ≤ n }
  records : Dict ArtifactKey Bytes

/-- `TrustedArtifactStore(capacity)`. -/
def TrustedArtifactStore.empty (capacity : { n : ℕ // 1 ≤ n }) : TrustedArtifactStore where
  capacity := capacity
  records := ∅

/-- The checks of `register_all` on one object that come after `verify_hash`. -/
def registrable (item : EvidenceObject) : Prop :=
  item.metadata.producerIdentity.val = lit "PF-A2" ∧
    item.metadata.classification = .publicSynthetic ∧ item.factStatus = .verified

instance (item : EvidenceObject) : Decidable (registrable item) :=
  inferInstanceAs (Decidable (_ ∧ _))

/-- The body of the loop of `register_all`. -/
def collect (P : Platform) (pending : Dict ArtifactKey Bytes) (item : EvidenceObject) :
    Except Fault (Dict ArtifactKey Bytes) := do
  let verified ← Artifact.verifyHash P item
  match verified, item.metadata.contentHash with
  | true, some contentHash =>
    if ¬ registrable item then
      .error (.trustedArtifactStoreRegistrationError
        "only verified PF-A2 PUBLIC_SYNTHETIC Evidence can be registered")
    else
      let key := keyFromArtifact item contentHash
      let payload ← item.canonicalBytes
      if ∃ p ∈ pending.get key, p ≠ payload then
        .error (.trustedArtifactStoreRegistrationError
          "conflicting canonical Evidence share one registry key")
      else pure (pending.set key payload)
  | _, _ =>
    .error (.trustedArtifactStoreRegistrationError
      "only verified PF-A2 PUBLIC_SYNTHETIC Evidence can be registered")

/-- What `register_all` does under the lock. -/
def TrustedArtifactStore.commit (s : TrustedArtifactStore) (pending : Dict ArtifactKey Bytes) :
    Except Fault Unit × TrustedArtifactStore :=
  if ∃ entry ∈ pending.entries, ∃ existing ∈ s.records.get entry.1, existing ≠ entry.2 then
    (.error (.trustedArtifactStoreRegistrationError "registered Evidence cannot be replaced"), s)
  else if s.capacity.val < s.records.size + (s.records.newKeys pending).length then
    (.error .trustedArtifactStoreCapacityError, s)
  else (.ok (), { s with records := s.records.update pending })

/-- `register_all`. -/
def TrustedArtifactStore.registerAll (P : Platform) (s : TrustedArtifactStore)
    (evidence : List EvidenceObject) : Except Fault Unit × TrustedArtifactStore :=
  match evidence.foldlM (collect P) ∅ with
  | .error e => (.error e, s)
  | .ok pending => s.commit pending

/-- The key and the bytes that `contains` looks up; no key stands for the answer `False`. -/
def lookupOf (context : SkillContext) (evidence : EvidenceObject) :
    Except Fault (Option (ArtifactKey × Bytes)) :=
  match evidence.metadata.contentHash with
  | none => .ok none
  | some contentHash =>
    match evidence.canonicalBytes with
    | .ok payload => .ok (some (
        { tenantId := context.tenantId.val
          caseId := context.caseId.val
          traceId := context.traceId.val
          artifactId := evidence.metadata.artifactId.val
          contentHash := contentHash.val }, payload))
    | .error e => if e.isTypeOrValueError then .ok none else .error e

/-- `contains`. -/
def TrustedArtifactStore.contains (s : TrustedArtifactStore) (context : SkillContext)
    (evidence : EvidenceObject) : Except Fault Bool := do
  match ← lookupOf context evidence with
  | none => pure false
  | some (key, payload) => pure (decide (s.records.get key = some payload))

/-! ## What canonical bytes say about an object -/

/-- The objects have one canonical form: they differ at most in how a time or a decimal is
written. -/
structure SameForm (e e' : EvidenceObject) : Prop where
  artifactId : e.metadata.artifactId = e'.metadata.artifactId
  tenantId : e.metadata.tenantId = e'.metadata.tenantId
  caseId : e.metadata.caseId = e'.metadata.caseId
  schemaVersion : e.metadata.schemaVersion = e'.metadata.schemaVersion
  producerIdentity : e.metadata.producerIdentity = e'.metadata.producerIdentity
  traceId : e.metadata.traceId = e'.metadata.traceId
  createdAt : datetimeValue e.metadata.createdAt.val = datetimeValue e'.metadata.createdAt.val
  sourceRefs : e.metadata.sourceRefs = e'.metadata.sourceRefs
  classification : e.metadata.classification = e'.metadata.classification
  contentHash : e.metadata.contentHash = e'.metadata.contentHash
  evidenceType : e.evidenceType = e'.evidenceType
  fieldName : e.fieldName = e'.fieldName
  normalizedValue : e.normalizedValue = e'.normalizedValue
  verbatimExcerpt : e.verbatimExcerpt = e'.verbatimExcerpt
  sourceDocumentId : e.sourceDocumentId = e'.sourceDocumentId
  factStatus : e.factStatus = e'.factStatus
  confidence : e.confidence.val.text = e'.confidence.val.text

/-- Two objects have exactly the same canonical bytes. -/
def SameCanonicalBytes (e e' : EvidenceObject) : Prop :=
  ∃ b, e.canonicalBytes = .ok b ∧ e'.canonicalBytes = .ok b

section Form

variable {e e' : EvidenceObject}

theorem legible_labels (l : List Stripped) : (Value.labels l).legible 1 = true := by
  have hitems : itemsLegible 0 (l.map fun s => Value.str s.val) = true := by
    rw [itemsLegible_iff]
    intro v hv
    obtain ⟨s, -, rfl⟩ := List.mem_map.1 hv
    rfl
  unfold Value.labels Value.legible
  rw [hitems]
  rfl

theorem legible_dump (e : EvidenceObject) : (Artifact.dump e).legible 3 = true := by
  have hrefs := legible_labels e.metadata.sourceRefs
  have hhash : (Value.label? e.metadata.contentHash).legible 1 = true := by
    cases e.metadata.contentHash <;> rfl
  simp [Artifact.dump, Artifact.metadata, Artifact.fields, ArtifactMeta.dump, keyed, Value.legible,
    membersLegible, Value.enum, hrefs, hhash]

theorem canonicalBytes_eq_ok {b : Bytes} : e.canonicalBytes = .ok b ↔
    ∃ c, canonicalize [] (Artifact.dump e) = .ok c ∧ b = canonicalJson c := by
  simp only [EvidenceObject.canonicalBytes, bind_eq_ok, pure, Except.pure, Except.ok.injEq]
  exact exists_congr fun c => and_congr_right fun _ => eq_comm

/-- The canonical bytes determine the canonical structure. -/
theorem canonicalize_eq_of_sameCanonicalBytes (h : SameCanonicalBytes e e') :
    ∃ c, canonicalize [] (Artifact.dump e) = .ok c ∧ canonicalize []
      (Artifact.dump e') = .ok c := by
  obtain ⟨b, hb, hb'⟩ := h
  obtain ⟨c, hc, rfl⟩ := canonicalBytes_eq_ok.1 hb
  obtain ⟨c', hc', heq⟩ := canonicalBytes_eq_ok.1 hb'
  have hform := canonicalize_form [] _ c hc 3
  have hform' := canonicalize_form [] _ c' hc' 3
  obtain ⟨l, rfl, -⟩ := canonicalize_obj_eq_ok.1 hc
  obtain ⟨l', rfl, -⟩ := canonicalize_obj_eq_ok.1 hc'
  have hsame := canonicalJson_inj rfl rfl (hform.readable (legible_dump e))
    (hform'.readable (legible_dump e')) hform.ordered hform'.ordered heq
  exact ⟨_, hc, hsame ▸ hc'⟩

theorem labels_inj {l l' : List Stripped}
    (h : canonicalize [] (Value.labels l) = canonicalize [] (Value.labels l')) : l = l' := by
  have hitems (l : List Stripped) : canonicalizeItems [] (l.map fun s => Value.str s.val) =
      .ok (l.map fun s => Canon.str s.val) := canonicalizeItems_map (fun _ => rfl) l
  simp only [Value.labels, canonicalize, hitems, ok_bind, pure, Except.pure, Except.ok.injEq,
    Canon.arr.injEq] at h
  exact List.map_injective_iff.2 (fun a b hab => Subtype.ext (Canon.str.inj hab)) h

theorem label?_inj {h h' : Option Stripped}
    (heq : canonicalize [] (Value.label? h) = canonicalize [] (Value.label? h')) : h = h' := by
  cases h <;> cases h' <;> simp [Value.label?, canonicalize] at heq ⊢
  exact Subtype.ext heq

theorem str_inj {s s' : Str} (h : canonicalize [] (.str s) = canonicalize [] (.str s')) : s = s' :=
  Canon.str.inj (Except.ok.inj h)

theorem classification_inj {c c' : DataClassification}
    (h : canonicalize [] (.enum c.text) = canonicalize [] (.enum c'.text)) : c = c' := by
  have htext : lit c.text = lit c'.text := str_inj h
  cases c <;> cases c' <;> first | rfl | exact absurd htext (by decide)

theorem factStatus_inj {c c' : FactStatus}
    (h : canonicalize [] (.enum c.text) = canonicalize [] (.enum c'.text)) : c = c' := by
  have htext : lit c.text = lit c'.text := str_inj h
  cases c <;> cases c' <;> first | rfl | exact absurd htext (by decide)

theorem decimal_inj {d d' : Decimal}
    (h : canonicalize [] (.decimal d) = canonicalize [] (.decimal d')) : d.text = d'.text := by
  simp only [canonicalize] at h
  cases hd : d.text <;> cases hd' : d'.text <;> simp [hd, hd'] at h ⊢
  exact h

theorem sameForm_of_canonicalize {c : Canon} (hc : canonicalize [] (Artifact.dump e) = .ok c)
    (hc' : canonicalize [] (Artifact.dump e') = .ok c) : SameForm e e' := by
  have hfields := canonicalizeMembers_inj ["meta", "evidence_type", "field_name",
    "normalized_value", "verbatim_excerpt", "source_document_id", "fact_status", "confidence"]
    hc hc' rfl rfl (by decide)
  simp only [Artifact.metadata, Artifact.fields, canonicalizeMembers, keyed, List.not_mem_nil,
    if_false, List.cons.injEq, Prod.mk.injEq, true_and, and_true] at hfields
  obtain ⟨hmetadata, htype, hfield, hvalue, hexcerpt, hsource, hstatus, hconfidence⟩ := hfields
  obtain ⟨-, cm, -, -, hm⟩ := exists_canonical_member hc List.mem_cons_self (by simp)
  have hm' : canonicalize [] e'.metadata.dump = .ok cm := hmetadata.symm.trans hm
  have hmeta := canonicalizeMembers_inj ["artifact_id", "tenant_id", "case_id", "schema_version",
    "producer_identity", "trace_id", "created_at", "source_refs", "classification",
    "content_hash"] hm hm' rfl rfl (by decide)
  simp only [canonicalizeMembers, keyed, List.not_mem_nil, if_false, List.cons.injEq,
    Prod.mk.injEq, true_and, and_true, Artifact.metadata] at hmeta
  obtain ⟨hartifact, htenant, hcase, hschema, hproducer, htrace, hcreated, hrefs, hclass, hhash⟩ :=
    hmeta
  exact {
    artifactId := Subtype.ext (str_inj hartifact)
    tenantId := Subtype.ext (str_inj htenant)
    caseId := Subtype.ext (str_inj hcase)
    schemaVersion := Subtype.ext (str_inj hschema)
    producerIdentity := Subtype.ext (str_inj hproducer)
    traceId := Subtype.ext (str_inj htrace)
    createdAt := hcreated
    sourceRefs := labels_inj hrefs
    classification := classification_inj hclass
    contentHash := label?_inj hhash
    evidenceType := Subtype.ext (str_inj htype)
    fieldName := Subtype.ext (str_inj hfield)
    normalizedValue := Subtype.ext (str_inj hvalue)
    verbatimExcerpt := Subtype.ext (str_inj hexcerpt)
    sourceDocumentId := Subtype.ext (str_inj hsource)
    factStatus := factStatus_inj hstatus
    confidence := decimal_inj hconfidence }

/-- Objects with the same canonical bytes have one canonical form. -/
theorem SameCanonicalBytes.sameForm (h : SameCanonicalBytes e e') : SameForm e e' := by
  obtain ⟨c, hc, hc'⟩ := canonicalize_eq_of_sameCanonicalBytes h
  exact sameForm_of_canonicalize hc hc'

/-- An object is canonicalized by its form, whatever keys are excluded. -/
theorem SameForm.canonicalize_eq (h : SameForm e e') (exclude : List Str) :
    canonicalize exclude (Artifact.dump e) = canonicalize exclude (Artifact.dump e') := by
  have hmeta : canonicalize exclude e.metadata.dump = canonicalize exclude e'.metadata.dump := by
    have hcreated : canonicalize exclude (.datetime e.metadata.createdAt.val) =
        canonicalize exclude (.datetime e'.metadata.createdAt.val) := h.createdAt
    unfold ArtifactMeta.dump
    apply canonicalize_obj_congr
    rw [h.artifactId, h.tenantId, h.caseId, h.schemaVersion, h.producerIdentity, h.traceId,
      h.sourceRefs, h.classification, h.contentHash]
    simp only [keyed, List.map_cons, List.map_nil, hcreated]
  have hdecimal : canonicalize exclude (.decimal e.confidence.val) =
      canonicalize exclude (.decimal e'.confidence.val) := by
    simp only [canonicalize, h.confidence]
  unfold Artifact.dump
  apply canonicalize_obj_congr
  simp only [Artifact.metadata, Artifact.fields, keyed, List.map_cons, List.map_nil, hmeta,
    hdecimal]
  rw [h.evidenceType, h.fieldName, h.normalizedValue, h.verbatimExcerpt, h.sourceDocumentId,
    h.factStatus]

/-- Objects of one form have the same canonical bytes, and their seals agree. -/
theorem SameForm.canonicalBytes_eq (h : SameForm e e') : e.canonicalBytes = e'.canonicalBytes := by
  unfold EvidenceObject.canonicalBytes
  rw [h.canonicalize_eq]

theorem SameForm.verifyHash_eq (h : SameForm e e') (P : Platform) :
    Artifact.verifyHash P e = Artifact.verifyHash P e' := by
  have hhash : (Artifact.metadata e).contentHash = (Artifact.metadata e').contentHash :=
    h.contentHash
  unfold Artifact.verifyHash Artifact.sealDigest sha256Digest
  rw [hhash, h.canonicalize_eq]

end Form

/-! ## One batch -/

section Batch

variable {P : Platform} {s : TrustedArtifactStore}

/-- The object is registered under the key with the bytes. -/
structure RegisteredAs (P : Platform) (item : EvidenceObject) (key : ArtifactKey)
    (payload : Bytes) :
    Prop where
  verified : Artifact.verifyHash P item = .ok true
  registrable : registrable item
  key_eq : ∃ contentHash, item.metadata.contentHash = some contentHash ∧
    key = keyFromArtifact item contentHash
  bytes_eq : item.canonicalBytes = .ok payload

/-- What an object is registered as is a matter of its form. -/
theorem RegisteredAs.of_sameForm {item item' : EvidenceObject} {key : ArtifactKey} {payload : Bytes}
    (h : RegisteredAs P item key payload) (hform : SameForm item item') :
    RegisteredAs P item' key payload where
  verified := hform.verifyHash_eq P ▸ h.verified
  registrable := by
    obtain ⟨hproducer, hclass, hstatus⟩ := h.registrable
    exact ⟨hform.producerIdentity ▸ hproducer, hform.classification ▸ hclass,
      hform.factStatus ▸ hstatus⟩
  key_eq := by
    obtain ⟨contentHash, hhash, rfl⟩ := h.key_eq
    refine ⟨contentHash, hform.contentHash ▸ hhash, ?_⟩
    unfold keyFromArtifact
    rw [hform.tenantId, hform.caseId, hform.traceId, hform.artifactId]
  bytes_eq := hform.canonicalBytes_eq ▸ h.bytes_eq

/-- One round of the loop: an object that passes every check is set under its key. -/
theorem collect_eq_ok {pending pending' : Dict ArtifactKey Bytes} {item : EvidenceObject} :
    collect P pending item = .ok pending' ↔ ∃ key payload, RegisteredAs P item key payload ∧
      (∀ p ∈ pending.get key, p = payload) ∧ pending' = pending.set key payload := by
  unfold collect
  rw [bind_eq_ok]
  constructor
  · rintro ⟨verified, hverified, h⟩
    split at h
    · next contentHash hhash =>
      split_ifs at h with hregistrable
      obtain ⟨payload, hpayload, h⟩ := bind_eq_ok.1 h
      split_ifs at h with hconflict
      push Not at hconflict
      exact ⟨_, payload, ⟨hverified, hregistrable, ⟨contentHash, hhash, rfl⟩, hpayload⟩,
        hconflict, (Except.ok.inj h).symm⟩
    · cases h
  · rintro ⟨key, payload, ⟨hverified, hregistrable, ⟨contentHash, hhash, rfl⟩, hpayload⟩, hsame,
      rfl⟩
    refine ⟨true, hverified, ?_⟩
    have hconflict : ¬ ∃ p ∈ pending.get (keyFromArtifact item contentHash), p ≠ payload := by
      push Not
      exact hsame
    simp only [hhash]
    rw [if_neg (not_not.2 hregistrable), hpayload, ok_bind, if_neg hconflict]
    rfl

/-- What a batch asks the registry to hold. -/
structure Collected (P : Platform) (batch : List EvidenceObject)
    (pending : Dict ArtifactKey Bytes) : Prop where
  sound : ∀ key payload, pending.get key = some payload →
    ∃ item ∈ batch, RegisteredAs P item key payload
  complete : ∀ item ∈ batch, ∃ key payload, RegisteredAs P item key payload ∧
    pending.get key = some payload

theorem collected_of_foldlM {batch : List EvidenceObject} {pending : Dict ArtifactKey Bytes}
    (h : batch.foldlM (collect P) ∅ = .ok pending) : Collected P batch pending := by
  refine ⟨?_, fun item hitem => ?_⟩
  · refine foldlM_invariant (fun pending : Dict ArtifactKey Bytes =>
      ∀ key payload, pending.get key = some payload →
        ∃ item ∈ batch, RegisteredAs P item key payload) (by simp) ?_ h
    intro item hitem pending pending' hsound hstep key payload hget
    obtain ⟨key', payload', hitem', -, rfl⟩ := collect_eq_ok.1 hstep
    rw [Dict.get_set] at hget
    split_ifs at hget with hkey
    · subst hkey
      obtain rfl := Option.some.inj hget
      exact ⟨item, hitem, hitem'⟩
    · exact hsound key payload hget
  · refine foldlM_establishes (fun pending : Dict ArtifactKey Bytes =>
      ∃ key payload, RegisteredAs P item key payload ∧ pending.get key = some payload)
      hitem ?_ ?_ h
    · intro pending pending' hstep
      obtain ⟨key, payload, hitem, -, rfl⟩ := collect_eq_ok.1 hstep
      exact ⟨key, payload, hitem, Dict.get_set_self _ _ _⟩
    · rintro other - pending pending' ⟨key, payload, hitem, hget⟩ hstep
      obtain ⟨key', payload', -, hsame, rfl⟩ := collect_eq_ok.1 hstep
      exact ⟨key, payload, hitem, Dict.grows_set_of_eq _ hsame key payload hget⟩

/-- Under the lock a batch is refused, or written without replacing anything. -/
theorem commit_cases (s : TrustedArtifactStore) (pending : Dict ArtifactKey Bytes) :
    (∃ e, s.commit pending = (.error e, s)) ∨
      (s.commit pending = (.ok (), { s with records := s.records.update pending }) ∧
        s.records.Grows (s.records.update pending) ∧
        (s.records.update pending).size ≤ s.capacity.val) := by
  unfold TrustedArtifactStore.commit
  split_ifs with hconflict hcapacity
  · exact .inl ⟨_, rfl⟩
  · exact .inl ⟨_, rfl⟩
  · push Not at hconflict
    refine .inr ⟨rfl, Dict.grows_update ?_, ?_⟩
    · intro key payload hget
      exact hconflict ⟨key, payload⟩ (Dict.mem_entries_iff.2 hget)
    · rw [Dict.size_update]
      omega

/-- A batch is registered whole or leaves the store unchanged. -/
theorem registerAll_cases (P : Platform) (s : TrustedArtifactStore) (batch : List EvidenceObject) :
    (∃ e, s.registerAll P batch = (.error e, s)) ∨
      ∃ pending, Collected P batch pending ∧
        s.registerAll P batch = (.ok (), { s with records := s.records.update pending }) ∧
        s.records.Grows (s.records.update pending) ∧
        (s.records.update pending).size ≤ s.capacity.val := by
  unfold TrustedArtifactStore.registerAll
  cases hcollect : batch.foldlM (collect P) ∅ with
  | error e => exact .inl ⟨e, rfl⟩
  | ok pending =>
    rcases commit_cases s pending with ⟨e, he⟩ | ⟨hcommit, hgrows, hsize⟩
    · exact .inl ⟨e, he⟩
    · exact .inr ⟨pending, collected_of_foldlM hcollect, hcommit, hgrows, hsize⟩

/-- The store holds the object. -/
def TrustedArtifactStore.Holds (P : Platform) (s : TrustedArtifactStore) (item : EvidenceObject) :
    Prop :=
  ∃ key payload, RegisteredAs P item key payload ∧ s.records.get key = some payload

/-- Objects that the store holds are collected without a conflict. -/
theorem exists_collected_of_holds {batch : List EvidenceObject} (h : ∀ item ∈ batch, s.Holds P item)
    {pending : Dict ArtifactKey Bytes} (hsub : pending.Grows s.records) :
    ∃ pending', batch.foldlM (collect P) pending = .ok pending' ∧ pending'.Grows s.records := by
  induction batch generalizing pending with
  | nil => exact ⟨pending, rfl, hsub⟩
  | cons item batch ih =>
    obtain ⟨key, payload, hitem, hget⟩ := h item List.mem_cons_self
    have hsame : ∀ p ∈ pending.get key, p = payload := by
      intro p hp
      have hheld := hsub key p hp
      rw [hget] at hheld
      exact (Option.some.inj hheld).symm
    have hstep := collect_eq_ok.2 ⟨key, payload, hitem, hsame, rfl⟩
    have hnext : (pending.set key payload).Grows s.records := by
      intro k v hk
      rw [Dict.get_set] at hk
      split_ifs at hk with hkey
      · rw [hkey, hget, hk]
      · exact hsub k v hk
    obtain ⟨pending', hpending, hsub'⟩ := ih (fun i hi => h i (List.mem_cons_of_mem item hi)) hnext
    refine ⟨pending', ?_, hsub'⟩
    rw [List.foldlM_cons, hstep, ok_bind, hpending]

/-- A batch of which the store holds everything is accepted and changes no entry. -/
theorem registerAll_of_holds {batch : List EvidenceObject}
    (hsize : s.records.size ≤ s.capacity.val) (h : ∀ item ∈ batch, s.Holds P item) :
    ∃ records, s.registerAll P batch = (.ok (), { s with records := records }) ∧
      records.size = s.records.size ∧ ∀ key, records.get key = s.records.get key := by
  have hempty : (∅ : Dict ArtifactKey Bytes).Grows s.records := fun k v hk => by simp at hk
  obtain ⟨pending, hpending, hsub⟩ := exists_collected_of_holds h hempty
  have hnone : ¬ ∃ entry ∈ pending.entries,
      ∃ existing ∈ s.records.get entry.1, existing ≠ entry.2 := by
    rintro ⟨entry, hentry, existing, hexisting, hne⟩
    have hheld := hsub entry.1 entry.2 (Dict.mem_entries_iff.1 hentry)
    rw [hheld] at hexisting
    exact hne (Option.some.inj hexisting).symm
  have hnew : s.records.newKeys pending = [] := by
    unfold Dict.newKeys
    rw [List.filter_eq_nil_iff]
    intro key hkey
    obtain ⟨payload, hget⟩ := Option.isSome_iff_exists.1 (AList.lookup_isSome.2 hkey)
    rw [hsub key payload hget]
    simp
  have hroom : ¬ s.capacity.val < s.records.size + (s.records.newKeys pending).length := by
    rw [hnew, List.length_nil]
    omega
  refine ⟨s.records.update pending, ?_, ?_, fun key => ?_⟩
  · unfold TrustedArtifactStore.registerAll
    simp only [hpending]
    unfold TrustedArtifactStore.commit
    rw [if_neg hnone, if_neg hroom]
  · rw [Dict.size_update, hnew]
    rfl
  · rw [Dict.get_update]
    cases hget : pending.get key with
    | none => rfl
    | some payload =>
      rw [hsub key payload hget]
      rfl

end Batch

end ProofFlow
