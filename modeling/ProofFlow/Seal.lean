import ProofFlow.Artifacts
import ProofFlow.Document

/-!
# What a seal covers

`seal` hashes the dump of an artifact without the members named `content_hash`, at every depth.  The
metadata has one such member, and so may the dictionaries of a calculation line item, whose keys
come from data.
-/

namespace ProofFlow

open Kit

/-! ## Values without some members -/

mutual

/-- The value without the members of the given names, at every depth. -/
def Value.without (exclude : List Str) : Value → Value
  | .arr items => .arr (itemsWithout exclude items)
  | .obj members => .obj (membersWithout exclude members)
  | v => v

def itemsWithout (exclude : List Str) : List Value → List Value
  | [] => []
  | v :: l => v.without exclude :: itemsWithout exclude l

def membersWithout (exclude : List Str) : List (Str × Value) → List (Str × Value)
  | [] => []
  | (k, v) :: l =>
    if k ∈ exclude then membersWithout exclude l
    else (k, v.without exclude) :: membersWithout exclude l

end

section Without

variable {exclude : List Str}

mutual

/-- Excluding names is canonicalizing the value without them. -/
theorem canonicalize_without (exclude : List Str) : (v : Value) →
    canonicalize exclude v = canonicalize [] (v.without exclude)
  | .null => rfl
  | .bool _ => rfl
  | .int _ => rfl
  | .float => rfl
  | .str _ => rfl
  | .unencodable => rfl
  | .decimal _ => rfl
  | .datetime _ => rfl
  | .date _ => rfl
  | .bytes _ => rfl
  | .arr items => by
    simp only [Value.without, canonicalize, canonicalizeItems_without exclude items]
  | .obj members => by
    simp only [Value.without, canonicalize, canonicalizeMembers_without exclude members]

theorem canonicalizeItems_without (exclude : List Str) : (l : List Value) →
    canonicalizeItems exclude l = canonicalizeItems [] (itemsWithout exclude l)
  | [] => rfl
  | v :: l => by
    simp only [itemsWithout, canonicalizeItems, canonicalize_without exclude v,
      canonicalizeItems_without exclude l]

theorem canonicalizeMembers_without (exclude : List Str) : (l : List (Str × Value)) →
    canonicalizeMembers exclude l = canonicalizeMembers [] (membersWithout exclude l)
  | [] => rfl
  | (k, v) :: l => by
    by_cases hk : k ∈ exclude
    · simp only [membersWithout, canonicalizeMembers, if_pos hk,
        canonicalizeMembers_without exclude l]
    · simp only [membersWithout, canonicalizeMembers, if_neg hk, List.not_mem_nil, if_false,
        canonicalize_without exclude v, canonicalizeMembers_without exclude l]

end

theorem membersPrintable_iff {l : List (Str × Canon)} :
    membersPrintable l = true ↔ ∀ m ∈ l, m.2.printable = true := by
  induction l with
  | nil => simp [membersPrintable]
  | cons m l ih => simp [membersPrintable, ih]

/-- The members of an object that can be written. -/
theorem exists_printable_member {members : List (Str × Value)} {c : Canon}
    (h : canonicalize [] (.obj members) = .ok c) (hc : c.printable = true) :
    ∀ m ∈ members, ∃ c, canonicalize [] m.2 = .ok c ∧ c.printable = true := by
  intro m hm
  obtain ⟨cs, rfl, hcs⟩ := canonicalize_obj_eq_ok.1 h
  have hmem : (m.1, canonicalize [] m.2) ∈ sortMembers (canonicalizeMembers [] members) := by
    rw [mem_sortMembers, canonicalizeMembers_nil]
    exact List.mem_map.2 ⟨m, hm, rfl⟩
  rw [hcs] at hmem
  obtain ⟨m', hm', heq⟩ := List.mem_map.1 hmem
  exact ⟨m'.2, (Prod.mk.inj heq).2.symm, membersPrintable_iff.1 hc m' hm'⟩

mutual

/-- A value that can be written can be written without some of its members. -/
theorem canonicalize_exclude (exclude : List Str) : (v : Value) → (c : Canon) →
    canonicalize [] v = .ok c → c.printable = true →
    ∃ c', canonicalize exclude v = .ok c' ∧ c'.printable = true
  | .null, c, h, hc => ⟨c, h, hc⟩
  | .bool _, c, h, hc => ⟨c, h, hc⟩
  | .int _, c, h, hc => ⟨c, h, hc⟩
  | .float, c, h, hc => ⟨c, h, hc⟩
  | .str _, c, h, hc => ⟨c, h, hc⟩
  | .unencodable, c, h, hc => ⟨c, h, hc⟩
  | .decimal _, c, h, hc => ⟨c, h, hc⟩
  | .datetime _, c, h, hc => ⟨c, h, hc⟩
  | .date _, c, h, hc => ⟨c, h, hc⟩
  | .bytes _, c, h, hc => ⟨c, h, hc⟩
  | .arr items, c, h, hc => by
    simp only [canonicalize, bind_eq_ok, pure, Except.pure, Except.ok.injEq] at h
    obtain ⟨cs, hcs, rfl⟩ := h
    obtain ⟨cs', hcs', hprintable⟩ := canonicalizeItems_exclude exclude items cs hcs hc
    refine ⟨.arr cs', ?_, hprintable⟩
    rw [canonicalize, hcs']
    rfl
  | .obj members, c, h, hc => by
    obtain ⟨cs', hcs', hprintable⟩ := canonicalizeMembers_exclude exclude members
      (exists_printable_member h hc)
    refine ⟨.obj (sortMembers cs'), canonicalize_obj_eq_ok.2 ⟨_, rfl, ?_⟩, ?_⟩
    · rw [hcs', sortMembers_map]
    · exact membersPrintable_iff.2 fun m hm => hprintable m (mem_sortMembers.1 hm)

theorem canonicalizeItems_exclude (exclude : List Str) : (l : List Value) → (cs : List Canon) →
    canonicalizeItems [] l = .ok cs → itemsPrintable cs = true →
    ∃ cs', canonicalizeItems exclude l = .ok cs' ∧ itemsPrintable cs' = true
  | [], _, _, _ => ⟨[], rfl, rfl⟩
  | v :: l, cs, h, hcs => by
    simp only [canonicalizeItems, bind_eq_ok, pure, Except.pure, Except.ok.injEq] at h
    obtain ⟨c, hc, rest, hrest, rfl⟩ := h
    simp only [itemsPrintable, Bool.and_eq_true] at hcs
    obtain ⟨c', hc', hprintable⟩ := canonicalize_exclude exclude v c hc hcs.1
    obtain ⟨rest', hrest', hprintable'⟩ := canonicalizeItems_exclude exclude l rest hrest hcs.2
    refine ⟨c' :: rest', ?_, ?_⟩
    · rw [canonicalizeItems, hc', hrest']
      rfl
    · simp only [itemsPrintable, hprintable, hprintable', Bool.and_self]

theorem canonicalizeMembers_exclude (exclude : List Str) : (l : List (Str × Value)) →
    (∀ m ∈ l, ∃ c, canonicalize [] m.2 = .ok c ∧ c.printable = true) →
    ∃ cs' : List (Str × Canon), canonicalizeMembers exclude l = (cs'.map fun m => (m.1, .ok m.2)) ∧
      ∀ m ∈ cs', m.2.printable = true
  | [], _ => ⟨[], rfl, by simp⟩
  | (k, v) :: l, h => by
    obtain ⟨hfirst, hrest⟩ := List.forall_mem_cons.1 h
    obtain ⟨cs', hcs', hprintable⟩ := canonicalizeMembers_exclude exclude l hrest
    obtain ⟨c, hc, hprintc⟩ := hfirst
    obtain ⟨c', hc', hprintable'⟩ := canonicalize_exclude exclude v c hc hprintc
    by_cases hk : k ∈ exclude
    · exact ⟨cs', by rw [canonicalizeMembers, if_pos hk, hcs'], hprintable⟩
    · refine ⟨(k, c') :: cs', ?_, List.forall_mem_cons.2 ⟨hprintable', hprintable⟩⟩
      rw [canonicalizeMembers, if_neg hk, hc', hcs']
      rfl

end

end Without

/-! ## Printable structures are told apart -/

mutual

/-- How deep a structure nests. -/
def Canon.depth : Canon → ℕ
  | .arr items => itemsDepth items + 1
  | .obj members => membersDepth members + 1
  | _ => 0

def itemsDepth : List Canon → ℕ
  | [] => 0
  | c :: l => max c.depth (itemsDepth l)

def membersDepth : List (Str × Canon) → ℕ
  | [] => 0
  | (_, c) :: l => max c.depth (membersDepth l)

end

mutual

theorem Canon.readable_of_printable {limit : ℕ} : (c : Canon) → c.printable = true →
    c.depth ≤ limit → c.readable limit = true
  | .null, _, _ => rfl
  | .bool _, _, _ => rfl
  | .int _, h, _ => h
  | .str _, _, _ => rfl
  | .arr items, h, hdepth => by
    simp only [Canon.depth] at hdepth
    simp only [Canon.readable, Bool.and_eq_true, decide_eq_true_eq]
    exact ⟨by omega, itemsReadable_of_printable items h (by omega)⟩
  | .obj members, h, hdepth => by
    simp only [Canon.depth] at hdepth
    simp only [Canon.readable, Bool.and_eq_true, decide_eq_true_eq]
    exact ⟨by omega, membersReadable_of_printable members h (by omega)⟩

theorem itemsReadable_of_printable {limit : ℕ} : (l : List Canon) → itemsPrintable l = true →
    itemsDepth l ≤ limit → itemsReadable limit l = true
  | [], _, _ => rfl
  | c :: l, h, hdepth => by
    simp only [itemsPrintable, Bool.and_eq_true] at h
    simp only [itemsDepth] at hdepth
    simp only [itemsReadable, Bool.and_eq_true]
    exact ⟨c.readable_of_printable h.1 (by omega), itemsReadable_of_printable l h.2 (by omega)⟩

theorem membersReadable_of_printable {limit : ℕ} : (l : List (Str × Canon)) →
    membersPrintable l = true → membersDepth l ≤ limit → membersReadable limit l = true
  | [], _, _ => rfl
  | (_, c) :: l, h, hdepth => by
    simp only [membersPrintable, Bool.and_eq_true] at h
    simp only [membersDepth] at hdepth
    simp only [membersReadable, Bool.and_eq_true]
    exact ⟨c.readable_of_printable h.1 (by omega), membersReadable_of_printable l h.2 (by omega)⟩

end

/-- Canonical JSON determines a structure in order, however deep it nests. -/
theorem canonicalJson_injective_of_printable {c c' : Canon} (ho : c.Ordered) (ho' : c'.Ordered)
    (hp : c.printable = true) (hp' : c'.printable = true) (h : canonicalJson c = canonicalJson c') :
    c = c' :=
  canonicalJson_injective ho ho' (c.readable_of_printable hp (Nat.le_max_left _ _))
    (c'.readable_of_printable hp' (Nat.le_max_right _ _)) h

theorem canonicalJsonOf_eq_ok {v : Value} {b : Bytes} : canonicalJsonOf v = .ok b ↔
    ∃ c, canonicalize [] v = .ok c ∧ c.printable = true ∧ b = canonicalJson c := by
  unfold canonicalJsonOf
  rw [bind_eq_ok]
  refine exists_congr fun c => and_congr_right fun _ => ?_
  by_cases hc : c.printable = true
  · simp [hc, pure, Except.pure, eq_comm]
  · simp [hc]

/-! ## Artifacts without hash entries -/

/-- The name that `seal` excludes. -/
def hashKey : Str := lit "content_hash"

/-- A dictionary without an entry that `seal` takes for its own. -/
def ScalarDict.trimmed (d : ScalarDict) : ScalarDict where
  entries := d.entries.filter fun m => decide (m.1.val ≠ hashKey)
  nodup := (List.filter_sublist.map _).nodup d.nodup

def CalculationLineItem.trimmed (i : CalculationLineItem) : CalculationLineItem :=
  { i with parameters := i.parameters.trimmed, intermediateValues := i.intermediateValues.trimmed }

def CalculationSheet.trimmed (s : CalculationSheet) : CalculationSheet :=
  { s with lineItems := s.lineItems.map CalculationLineItem.trimmed }

/-- The artifact without such entries: only calculation sheets have dictionaries with free keys. -/
def ArtifactClass.trimmed : (k : ArtifactClass) → k.Model → k.Model
  | .calculationSheet => CalculationSheet.trimmed
  | .evidenceObject => id
  | .timelineEvent => id
  | .ruleCitation => id
  | .proposal => id
  | .conflictReport => id
  | .auditReport => id
  | .approvalRecord => id
  | .packageManifest => id

section Fields

theorem itemsWithout_map {α : Type} {exclude : List Str} {f g : α → Value}
    (h : ∀ a, (f a).without exclude = g a) (l : List α) :
    itemsWithout exclude (l.map f) = l.map g := by
  induction l with
  | nil => rfl
  | cons a l ih => rw [List.map_cons, itemsWithout, h a, ih, List.map_cons]

variable {exclude : List Str}

@[simp] theorem labels_without (l : List Stripped) :
    (Value.labels l).without exclude = Value.labels l :=
  congrArg Value.arr (itemsWithout_map (fun _ => rfl) l)

@[simp] theorem label?_without (s : Option Stripped) :
    (Value.label? s).without exclude = Value.label? s := by
  cases s <;> rfl

@[simp] theorem date?_without (d : Option Date) :
    (Value.date? d).without exclude = Value.date? d := by
  cases d <;> rfl

@[simp] theorem decimal?_without (d : Option Decimal) :
    (Value.decimal? d).without exclude = Value.decimal? d := by
  cases d <;> rfl

theorem scalar_without (v : Scalar) : v.dump.without exclude = v.dump := by
  cases v <;> rfl

theorem scalarDict_without (d : ScalarDict) : d.dump.without [hashKey] = d.trimmed.dump := by
  unfold ScalarDict.dump Value.without ScalarDict.trimmed
  congr 1
  simp only
  induction d.entries with
  | nil => rfl
  | cons m l ih =>
    by_cases hm : m.1.val = hashKey
    · simp [membersWithout, hm, ih]
    · simp [membersWithout, hm, ih, scalar_without]

theorem conflict_without (c : Conflict) : c.dump.without [hashKey] = c.dump := by
  unfold Conflict.dump Value.without
  simp only [keyed, membersWithout, labels_without]
  rfl

theorem auditFinding_without (f : AuditFinding) : f.dump.without [hashKey] = f.dump := by
  unfold AuditFinding.dump Value.without
  simp only [keyed, membersWithout, labels_without]
  rfl

theorem packageFile_without (f : PackageFile) : f.dump.without [hashKey] = f.dump := rfl

theorem lineItem_without (i : CalculationLineItem) : i.dump.without [hashKey] = i.trimmed.dump := by
  unfold CalculationLineItem.dump Value.without
  simp only [keyed, membersWithout, scalarDict_without]
  rfl

/-- The members of the metadata that a seal covers. -/
def ArtifactMeta.rest (m : ArtifactMeta) : List (Str × Value) :=
  [keyed "artifact_id" (.str m.artifactId.val), keyed "tenant_id" (.str m.tenantId.val),
    keyed "case_id" (.str m.caseId.val), keyed "schema_version" (.str m.schemaVersion.val),
    keyed "producer_identity" (.str m.producerIdentity.val),
    keyed "trace_id" (.str m.traceId.val), keyed "created_at" (.datetime m.createdAt.val),
    keyed "source_refs" (.labels m.sourceRefs),
    keyed "classification" (.enum m.classification.text)]

theorem ArtifactMeta.dump_eq (m : ArtifactMeta) :
    m.dump = .obj (m.rest ++ [keyed "content_hash" (.label? m.contentHash)]) := rfl

theorem metadata_without (m : ArtifactMeta) : m.dump.without [hashKey] = .obj m.rest := by
  unfold ArtifactMeta.dump Value.without
  simp only [keyed, membersWithout, labels_without]
  rfl

/-- What a class has in the place of an artifact's own fields. -/
structure FieldShape (k : ArtifactClass) (keys : List String) : Prop where
  nodup : (("meta" :: keys).map lit).Nodup
  keys_eq : ∀ a : k.Model, (Artifact.fields a).map Prod.fst = keys.map lit
  metadata_eq : ∀ a : k.Model, Artifact.metadata (k.trimmed a) = Artifact.metadata a
  without_eq : ∀ a : k.Model,
    membersWithout [hashKey] (Artifact.fields a) = Artifact.fields (k.trimmed a)

theorem exists_fieldShape (k : ArtifactClass) : ∃ keys, FieldShape k keys := by
  cases k with
  | evidenceObject =>
    refine ⟨["evidence_type", "field_name", "normalized_value", "verbatim_excerpt",
      "source_document_id", "fact_status", "confidence"], by decide, fun _ => rfl, fun _ => rfl, ?_⟩
    intro a
    rfl
  | timelineEvent =>
    refine ⟨["occurred_from", "occurred_to", "description", "fact_status", "unresolved_reason"],
      by decide, fun _ => rfl, fun _ => rfl, fun a => ?_⟩
    show membersWithout [hashKey] (Artifact.fields (α := TimelineEvent) a) = _
    simp only [Artifact.fields, keyed, membersWithout, date?_without, label?_without]
    rfl
  | ruleCitation =>
    refine ⟨["rule_id", "version", "issue_code", "title", "jurisdiction", "effective_from",
      "effective_to", "authoritative_source", "locator", "excerpt", "source_hash"],
      by decide, fun _ => rfl, fun _ => rfl, fun a => ?_⟩
    show membersWithout [hashKey] (Artifact.fields (α := RuleCitation) a) = _
    simp only [Artifact.fields, keyed, membersWithout, date?_without]
    rfl
  | calculationSheet =>
    refine ⟨["line_items", "total", "missing_parameters", "reproducibility_hash"],
      by decide, fun _ => rfl, fun _ => rfl, fun a => ?_⟩
    show membersWithout [hashKey] (Artifact.fields (α := CalculationSheet) a) = _
    have hitems : (Value.arr (a.lineItems.map CalculationLineItem.dump)).without [hashKey] =
        .arr ((a.lineItems.map CalculationLineItem.trimmed).map CalculationLineItem.dump) := by
      rw [List.map_map]
      exact congrArg Value.arr (itemsWithout_map lineItem_without a.lineItems)
    simp only [Artifact.fields, keyed, membersWithout, hitems, decimal?_without, labels_without,
      label?_without]
    rfl
  | proposal =>
    refine ⟨["option_code", "summary", "actions", "evidence_refs", "rule_refs", "calculation_ref",
      "risks", "uncertainties"], by decide, fun _ => rfl, fun _ => rfl, fun a => ?_⟩
    show membersWithout [hashKey] (Artifact.fields (α := Proposal) a) = _
    simp only [Artifact.fields, keyed, membersWithout, labels_without, label?_without]
    rfl
  | conflictReport =>
    refine ⟨["conflicts", "blocker_ids", "input_complete"], by decide, fun _ => rfl, fun _ => rfl,
      fun a => ?_⟩
    show membersWithout [hashKey] (Artifact.fields (α := ConflictReport) a) = _
    have hconflicts : (Value.arr (a.conflicts.map Conflict.dump)).without [hashKey] =
        .arr (a.conflicts.map Conflict.dump) :=
      congrArg Value.arr (itemsWithout_map conflict_without a.conflicts)
    simp only [Artifact.fields, keyed, membersWithout, hconflicts, labels_without]
    rfl
  | auditReport =>
    refine ⟨["verdict", "findings", "unsupported_claims", "audited_artifact_hashes",
      "policy_version"], by decide, fun _ => rfl, fun _ => rfl, fun a => ?_⟩
    show membersWithout [hashKey] (Artifact.fields (α := AuditReport) a) = _
    have hfindings : (Value.arr (a.findings.map AuditFinding.dump)).without [hashKey] =
        .arr (a.findings.map AuditFinding.dump) :=
      congrArg Value.arr (itemsWithout_map auditFinding_without a.findings)
    simp only [Artifact.fields, keyed, membersWithout, hfindings, labels_without]
    rfl
  | approvalRecord =>
    refine ⟨["request_id", "decision", "approver_id", "approver_role", "reason",
      "approved_artifact_hash", "approval_method", "decided_at", "expires_at"],
      by decide, fun _ => rfl, fun _ => rfl, fun a => ?_⟩
    rfl
  | packageManifest =>
    refine ⟨["approval_record_ref", "audit_report_ref", "files", "included_artifact_refs",
      "manifest_hash"], by decide, fun _ => rfl, fun _ => rfl, fun a => ?_⟩
    show membersWithout [hashKey] (Artifact.fields (α := PackageManifest) a) = _
    have hfiles : (Value.arr (a.files.map PackageFile.dump)).without [hashKey] =
        .arr (a.files.map PackageFile.dump) :=
      congrArg Value.arr (itemsWithout_map packageFile_without a.files)
    simp only [Artifact.fields, keyed, membersWithout, hfiles, labels_without, label?_without]
    rfl

end Fields

/-! ## Which differences a seal sees -/

/-- Members with the canonical forms `cs`, in their order. -/
def Forms (members : List (Str × Value)) (cs : List (Str × Canon)) : Prop :=
  canonicalizeMembers [] members = cs.map fun m => (m.1, .ok m.2)

section Forms

variable {members members' : List (Str × Value)} {cs cs' : List (Str × Canon)}

theorem Forms.keys (h : Forms members cs) : cs.map Prod.fst = members.map Prod.fst := by
  unfold Forms at h
  rw [canonicalizeMembers_nil] at h
  have hkeys := congrArg (List.map Prod.fst) h
  simpa [Function.comp_def] using hkeys.symm

theorem Forms.canonicalize_eq (h : Forms members cs) :
    canonicalize [] (.obj members) = .ok (.obj (sortMembers cs)) := by
  refine canonicalize_obj_eq_ok.2 ⟨_, rfl, ?_⟩
  rw [h, sortMembers_map]

/-- Objects with the same distinct keys have one canonical form exactly if their members do. -/
theorem Forms.eq_iff (h : Forms members cs) (h' : Forms members' cs')
    (hkeys : members.map Prod.fst = members'.map Prod.fst) (hnodup : (members.map Prod.fst).Nodup) :
    canonicalize [] (.obj members) = canonicalize [] (.obj members') ↔ cs = cs' := by
  rw [h.canonicalize_eq, h'.canonicalize_eq, Except.ok.injEq, Canon.obj.injEq]
  constructor
  · intro hsorted
    refine eq_of_sortMembers_eq hsorted ?_ ?_
    · rw [h.keys, h'.keys, hkeys]
    · rw [h.keys]
      exact hnodup
  · intro heq
    rw [heq]

theorem Forms.cons {k : Str} {v : Value} {c : Canon} (hv : canonicalize [] v = .ok c)
    (h : Forms members cs) : Forms ((k, v) :: members) ((k, c) :: cs) := by
  unfold Forms at h ⊢
  rw [canonicalizeMembers, if_neg (by simp), hv, h]
  rfl

theorem Forms.append (h : Forms members cs) (h' : Forms members' cs') :
    Forms (members ++ members') (cs ++ cs') := by
  unfold Forms at h h' ⊢
  rw [canonicalizeMembers_nil] at h h' ⊢
  rw [List.map_append, h, h', List.map_append]

end Forms

section Classes

variable {k : ArtifactClass} {a b : k.Model}

/-- The artifact has canonical JSON. -/
def Writable (a : k.Model) : Prop :=
  ∃ c, canonicalize [] (Artifact.dump a) = .ok c ∧ c.printable = true

/-- The canonical forms of the parts of an artifact that can be written: the metadata with and
without its hash, and the fields without hash entries. -/
structure Parts (a : k.Model) (metadata : Canon) (rest fields : List (Str × Canon)) : Prop where
  metadata_eq : canonicalize [] (Artifact.metadata a).dump = .ok metadata
  rest_forms : Forms (Artifact.metadata a).rest rest
  fields_forms : Forms (Artifact.fields (k.trimmed a)) fields

theorem Writable.parts (h : Writable a) : ∃ metadata rest fields, Parts a metadata rest fields := by
  obtain ⟨keys, hshape⟩ := exists_fieldShape k
  obtain ⟨c, hc, hprintable⟩ := h
  have hmembers := exists_printable_member hc hprintable
  obtain ⟨cm, hcm, hcmprintable⟩ := hmembers _ List.mem_cons_self
  obtain ⟨fields, hfields, -⟩ := canonicalizeMembers_exclude [hashKey] (Artifact.fields a)
    fun m hm => hmembers m (List.mem_cons_of_mem _ hm)
  have hmetadata : canonicalize [] (.obj ((Artifact.metadata a).rest ++
      [keyed "content_hash" (.label? (Artifact.metadata a).contentHash)])) = .ok cm := hcm
  obtain ⟨rest, hrest, -⟩ := canonicalizeMembers_exclude [] (Artifact.metadata a).rest
    fun m hm => exists_printable_member hmetadata hcmprintable m (List.mem_append_left _ hm)
  refine ⟨cm, rest, fields, hcm, hrest, ?_⟩
  unfold Forms
  rw [← hshape.without_eq, ← canonicalizeMembers_without, hfields]

/-- The digest of an artifact is the digest of the covered parts. -/
theorem canonicalize_dump_without (keys : List String) (hshape : FieldShape k keys) (a : k.Model) :
    canonicalize [hashKey] (Artifact.dump a) =
      canonicalize [] (.obj (keyed "meta" (.obj (Artifact.metadata a).rest) ::
        Artifact.fields (k.trimmed a))) := by
  have hmeta : lit "meta" ∉ [hashKey] := by decide
  rw [canonicalize_without]
  unfold Artifact.dump Value.without
  rw [keyed, membersWithout, if_neg hmeta, metadata_without, hshape.without_eq]
  rfl

theorem dump_trimmed (keys : List String) (hshape : FieldShape k keys) (a : k.Model) :
    Artifact.dump (k.trimmed a) =
      .obj (keyed "meta" (Artifact.metadata a).dump :: Artifact.fields (k.trimmed a)) := by
  unfold Artifact.dump
  rw [hshape.metadata_eq]

/-- Two artifacts with one content hash are told apart without their hash exactly if they are told
apart without their hash entries. -/
theorem covered_iff (ha : Writable a) (hb : Writable b)
    (hhash : (Artifact.metadata b).contentHash = (Artifact.metadata a).contentHash) :
    canonicalize [hashKey] (Artifact.dump a) = canonicalize [hashKey] (Artifact.dump b) ↔
      canonicalize [] (Artifact.dump (k.trimmed a)) = canonicalize []
        (Artifact.dump (k.trimmed b)) := by
  obtain ⟨keys, hshape⟩ := exists_fieldShape k
  obtain ⟨m, rest, fields, h⟩ := ha.parts
  obtain ⟨m', rest', fields', h'⟩ := hb.parts
  have hrestkeys : (Artifact.metadata a).rest.map Prod.fst =
    (Artifact.metadata b).rest.map Prod.fst := rfl
  have hrestnodup : ((Artifact.metadata a).rest.map Prod.fst).Nodup := by
    show (["artifact_id", "tenant_id", "case_id", "schema_version", "producer_identity", "trace_id",
      "created_at", "source_refs", "classification"].map lit).Nodup
    decide
  have hkeys (x y : Value) : ((lit "meta", x) :: Artifact.fields (k.trimmed a)).map Prod.fst =
      ((lit "meta", y) :: Artifact.fields (k.trimmed b)).map Prod.fst := by
    rw [List.map_cons, List.map_cons, hshape.keys_eq, hshape.keys_eq]
  have hnodup (x : Value) :
      (((lit "meta", x) :: Artifact.fields (k.trimmed a)).map Prod.fst).Nodup := by
    rw [List.map_cons, hshape.keys_eq]
    exact hshape.nodup
  have hsame : m = m' ↔ rest = rest' := by
    obtain ⟨ch, hch⟩ :
        ∃ ch, canonicalize [] (.label? (Artifact.metadata a).contentHash) = .ok ch := by
      cases (Artifact.metadata a).contentHash <;> exact ⟨_, rfl⟩
    have hlast : Forms [keyed "content_hash" (.label? (Artifact.metadata a).contentHash)]
        [(lit "content_hash", ch)] := Forms.cons hch rfl
    have hlast' : Forms [keyed "content_hash" (.label? (Artifact.metadata b).contentHash)]
        [(lit "content_hash", ch)] := by
      rw [hhash]
      exact hlast
    have hforms := (h.rest_forms.append hlast).eq_iff (h'.rest_forms.append hlast') rfl (by
      show (["artifact_id", "tenant_id", "case_id", "schema_version", "producer_identity",
        "trace_id", "created_at", "source_refs", "classification", "content_hash"].map lit).Nodup
      decide)
    rw [← ArtifactMeta.dump_eq, ← ArtifactMeta.dump_eq, h.metadata_eq, h'.metadata_eq,
      Except.ok.injEq, List.append_left_inj] at hforms
    exact hforms
  rw [canonicalize_dump_without keys hshape, canonicalize_dump_without keys hshape,
    dump_trimmed keys hshape, dump_trimmed keys hshape]
  unfold keyed
  rw [(h.fields_forms.cons h.rest_forms.canonicalize_eq).eq_iff
      (h'.fields_forms.cons h'.rest_forms.canonicalize_eq) (hkeys _ _) (hnodup _),
    (h.fields_forms.cons h.metadata_eq).eq_iff (h'.fields_forms.cons h'.metadata_eq)
      (hkeys _ _) (hnodup _)]
  have hrest : sortMembers rest = sortMembers rest' ↔ rest = rest' := by
    have hforms := h.rest_forms.eq_iff h'.rest_forms hrestkeys hrestnodup
    rw [h.rest_forms.canonicalize_eq, h'.rest_forms.canonicalize_eq] at hforms
    simpa using hforms
  simp [hsame, hrest]

end Classes

/-! ## What a seal detects -/

section Sealed

variable {P : Platform}

/-- A seal does not depend on the hash that an artifact has. -/
theorem canonicalize_withHash {α : Type} [Artifact α] (a : α) (h : Stripped) :
    canonicalize [hashKey] (Artifact.dump (Artifact.withHash a h)) =
      canonicalize [hashKey] (Artifact.dump a) := by
  have hmeta : lit "meta" ∉ [hashKey] := by decide
  rw [canonicalize_without, canonicalize_without [hashKey] (Artifact.dump a)]
  unfold Artifact.dump Value.without keyed
  rw [membersWithout, membersWithout, if_neg hmeta, if_neg hmeta, metadata_without,
    metadata_without, Artifact.metadata_withHash, Artifact.fields_withHash]
  rfl

/-- The hash of a sealed artifact is the digest of its form without hash entries. -/
theorem hash_of_sealed {α : Type} [Artifact α] {a₀ a : α} (h : Artifact.sealed P a₀ = .ok a) :
    ∃ c, canonicalize [hashKey] (Artifact.dump a) = .ok c ∧
      (Artifact.metadata a).contentHash = some (digestOf P c).stripped := by
  unfold Artifact.sealed Artifact.sealDigest sha256Digest at h
  simp only [bind_eq_ok, pure, Except.pure, Except.ok.injEq] at h
  obtain ⟨_, ⟨c, hc, rfl⟩, rfl⟩ := h
  refine ⟨c, ?_, ?_⟩
  · rw [canonicalize_withHash]
    exact hc
  · rw [Artifact.metadata_withHash]

/-- A sealed artifact passes its check. -/
theorem verifyHash_of_sealed {α : Type} [Artifact α] {a₀ a : α} (h : Artifact.sealed P a₀ = .ok a) :
    Artifact.verifyHash P a = .ok true := by
  obtain ⟨c, hc, hhash⟩ := hash_of_sealed h
  have hdigest : Artifact.sealDigest P a = .ok (digestOf P c) := by
    show sha256Digest P (Artifact.dump a) [hashKey] = _
    unfold sha256Digest
    rw [hc]
    rfl
  unfold Artifact.verifyHash
  rw [hhash, hdigest]
  exact congrArg Except.ok (decide_eq_true rfl)

variable {k : ArtifactClass} {a b : k.Model}

/-- Of the two texts under the seals of the artifacts, SHA-256 does not confuse one with the
other. -/
def SealsCollisionFree (P : Platform) (a b : k.Model) : Prop :=
  CollisionFree P fun payload => ∃ x, (x = a ∨ x = b) ∧
    ∃ c, canonicalize [hashKey] (Artifact.dump x) = .ok c ∧ payload = canonicalJson c

/-- `b` carries the hash of the sealed artifact `a` and has another canonical form. -/
structure Alters (P : Platform) (a b : k.Model) : Prop where
  isSealed : ∃ a₀, Artifact.sealed P a₀ = .ok a
  hash_eq : (Artifact.metadata b).contentHash = (Artifact.metadata a).contentHash
  differ : ∃ bytes bytes', canonicalJsonOf (Artifact.dump a) = .ok bytes ∧
    canonicalJsonOf (Artifact.dump b) = .ok bytes' ∧ bytes ≠ bytes'

/-- The artifacts differ outside the hash entries of dictionaries with free keys. -/
def DifferCovered (a b : k.Model) : Prop :=
  canonicalize [] (Artifact.dump (k.trimmed a)) ≠ canonicalize [] (Artifact.dump (k.trimmed b))

theorem writable_of_canonicalJsonOf {bytes : Bytes}
    (h : canonicalJsonOf (Artifact.dump a) = .ok bytes) : Writable a := by
  obtain ⟨c, hc, hprintable, -⟩ := canonicalJsonOf_eq_ok.1 h
  exact ⟨c, hc, hprintable⟩

/-- The check fails exactly if the forms without hash entries differ. -/
theorem verifyHash_eq_false_iff (hfree : SealsCollisionFree P a b) (h : Alters P a b) :
    Artifact.verifyHash P b = .ok false ↔
      canonicalize [hashKey] (Artifact.dump a) ≠ canonicalize [hashKey] (Artifact.dump b) := by
  obtain ⟨a₀, hsealed⟩ := h.isSealed
  obtain ⟨_, _, hbytes, hbytes', -⟩ := h.differ
  obtain ⟨ca, hca, hcap⟩ := writable_of_canonicalJsonOf hbytes
  obtain ⟨cb, hcb, hcbp⟩ := writable_of_canonicalJsonOf hbytes'
  obtain ⟨c, hc, hcp⟩ := canonicalize_exclude [hashKey] _ ca hca hcap
  obtain ⟨c', hc', hcp'⟩ := canonicalize_exclude [hashKey] _ cb hcb hcbp
  obtain ⟨c₁, hc₁, hhash⟩ := hash_of_sealed hsealed
  obtain rfl : c = c₁ := Except.ok.inj (hc.symm.trans hc₁)
  have hdigest : Artifact.sealDigest P b = .ok (digestOf P c') := by
    show sha256Digest P (Artifact.dump b) [hashKey] = _
    unfold sha256Digest
    rw [hc']
    rfl
  have hverify : Artifact.verifyHash P b =
      .ok (decide ((digestOf P c).val = (digestOf P c').val)) := by
    unfold Artifact.verifyHash
    rw [h.hash_eq, hhash]
    dsimp only
    rw [hdigest]
    rfl
  have hsame : (digestOf P c).val = (digestOf P c').val ↔ c = c' := by
    rw [← Subtype.ext_iff]
    refine ⟨fun heq => ?_, fun heq => by rw [heq]⟩
    have hpayload : canonicalJson c = canonicalJson c' :=
      hfree _ _ ⟨a, .inl rfl, c, hc, rfl⟩ ⟨b, .inr rfl, c', hc', rfl⟩ heq
    exact canonicalJson_injective_of_printable (canonicalize_form _ _ c hc 0).ordered
      (canonicalize_form _ _ c' hc' 0).ordered hcp hcp' hpayload
  rw [hverify, hc, hc', Except.ok.injEq, decide_eq_false_iff_not, hsame, ne_eq, Except.ok.injEq]

/-- Only a calculation sheet has such entries. -/
theorem trimmed_eq_self (hk : k ≠ .calculationSheet) (a : k.Model) : k.trimmed a = a := by
  cases k with
  | calculationSheet => exact absurd rfl hk
  | evidenceObject => rfl
  | timelineEvent => rfl
  | ruleCitation => rfl
  | proposal => rfl
  | conflictReport => rfl
  | auditReport => rfl
  | approvalRecord => rfl
  | packageManifest => rfl

/-- Artifacts without hash entries differ outside them. -/
theorem Alters.differCovered (h : Alters P a b) (ha : k.trimmed a = a) (hb : k.trimmed b = b) :
    DifferCovered a b := by
  intro heq
  rw [ha, hb] at heq
  obtain ⟨bytes, bytes', hbytes, hbytes', hne⟩ := h.differ
  unfold canonicalJsonOf at hbytes hbytes'
  rw [heq, hbytes'] at hbytes
  exact hne (Except.ok.inj hbytes).symm

/-- An altered artifact fails its check exactly if it differs outside hash entries, which an
artifact of any class but the calculation sheet does. -/
theorem alteration_detected_iff (hfree : SealsCollisionFree P a b) (h : Alters P a b) :
    (Artifact.verifyHash P b = .ok false ↔ DifferCovered a b) ∧
      (k ≠ .calculationSheet → DifferCovered a b) := by
  refine ⟨?_, fun hk => h.differCovered (trimmed_eq_self hk a) (trimmed_eq_self hk b)⟩
  obtain ⟨_, _, hbytes, hbytes', -⟩ := h.differ
  rw [verifyHash_eq_false_iff hfree h, ne_eq, covered_iff (writable_of_canonicalJsonOf hbytes)
    (writable_of_canonicalJsonOf hbytes') h.hash_eq, DifferCovered]

end Sealed

namespace Sample

/-- A platform that knows the digests of some texts, told apart by their lengths. -/
def platformOf (digests : List (ℕ × BitVec 256)) : Platform where
  sha256 b := (digests.lookup b.length).getD 0
  ed25519Verify _ _ _ := false
  jiter _ := none
  parseDatetime _ := none
  datetimeText _ := []
  recursionLimit := 900

def sheetName : Filled := ⟨lit "sheet-1", by decide⟩

/-- `2026-01-02T00:00:00Z`. -/
def sheetTime : UtcTime := ⟨63902908800000000, by decide⟩

/-- A sheet with one parameter. -/
def sheetWith (key entry : String) (contentHash : Option Stripped) : CalculationSheet where
  metadata := {
    artifactId := sheetName
    tenantId := sheetName
    caseId := sheetName
    schemaVersion := schemaVersion
    producerIdentity := sheetName
    traceId := sheetName
    createdAt := ⟨.ofUtc sheetTime, rfl⟩
    sourceRefs := []
    classification := .publicSynthetic
    contentHash := contentHash }
  lineItems := [{
    itemCode := label "item"
    formulaId := label "formula"
    formulaVersion := label "1"
    parameters := ⟨[(label key, .str (label entry))], List.nodup_singleton _⟩
    intermediateValues := ⟨[], List.nodup_nil⟩
    amount := ⟨Decimal.ofNat 1, rfl⟩ }]
  total := none
  missingParameters := []
  reproducibilityHash := none
  total_none _ := rfl

def rateSeal : Stripped :=
  label "sha256:985306ead5e16229633afab938dc1e5581d55ab1167dbf1d6f1fa6e74e3c80db"

def hashEntrySeal : Stripped :=
  label "sha256:c4b0a6f04802b56c622c478acb6d12496dc46b74270bb1c99b94c44976e01f8c"

/-- The digests of the sheets below. -/
def sheetPlatform : Platform := platformOf
  [(475, 0x985306ead5e16229633afab938dc1e5581d55ab1167dbf1d6f1fa6e74e3c80db),
    (476, 0x95b19bf469b2dedd507d277199d48e4a9971b622f9feec5b465bec2d44c006ba),
    (465, 0xc4b0a6f04802b56c622c478acb6d12496dc46b74270bb1c99b94c44976e01f8c)]

/-- The bytes of two sheets, if they have some and these differ. -/
def apart (a b : CalculationSheet) : Bool :=
  match canonicalJsonOf (Artifact.dump a), canonicalJsonOf (Artifact.dump b) with
  | .ok x, .ok y => decide (x ≠ y)
  | _, _ => false

theorem exists_of_apart {a b : CalculationSheet} (h : apart a b = true) :
    ∃ x y, canonicalJsonOf (Artifact.dump a) = .ok x ∧ canonicalJsonOf (Artifact.dump b) = .ok y ∧
      x ≠ y := by
  unfold apart at h
  cases hx : canonicalJsonOf (Artifact.dump a) with
  | error e => simp [hx] at h
  | ok x =>
    cases hy : canonicalJsonOf (Artifact.dump b) with
    | error e => simp [hx, hy] at h
    | ok y => exact ⟨x, y, rfl, rfl, by simpa [hx, hy] using h⟩

theorem sealed_rate : Artifact.sealed sheetPlatform (sheetWith "rate" "1" none) =
    .ok (sheetWith "rate" "1" (some rateSeal)) := by
  decide +kernel

theorem sealed_hashEntry : Artifact.sealed sheetPlatform (sheetWith "content_hash" "1" none) =
    .ok (sheetWith "content_hash" "1" (some hashEntrySeal)) := by
  decide +kernel

/-- A sealed sheet and one with its hash and another rate. -/
theorem alters_rate : Alters (k := .calculationSheet) sheetPlatform
    (sheetWith "rate" "1" (some rateSeal)) (sheetWith "rate" "22" (some rateSeal)) where
  isSealed := ⟨_, sealed_rate⟩
  hash_eq := rfl
  differ := exists_of_apart (by decide)

/-- A sealed sheet and one with its hash and another entry under the name of a hash. -/
theorem alters_hashEntry : Alters (k := .calculationSheet) sheetPlatform
    (sheetWith "content_hash" "1" (some hashEntrySeal))
    (sheetWith "content_hash" "22" (some hashEntrySeal)) where
  isSealed := ⟨_, sealed_hashEntry⟩
  hash_eq := rfl
  differ := exists_of_apart (by decide +kernel)

/-- The seals of artifacts that are hashed alike exactly if they are alike. -/
theorem sealsCollisionFree_of {P : Platform} {k : ArtifactClass} {a b : k.Model} {c c' : Canon}
    (hc : canonicalize [hashKey] (Artifact.dump a) = .ok c)
    (hc' : canonicalize [hashKey] (Artifact.dump b) = .ok c')
    (h : canonicalJson c ≠ canonicalJson c' → digestOf P c ≠ digestOf P c') :
    SealsCollisionFree P a b := by
  rintro _ _ ⟨x, hx, d, hd, rfl⟩ ⟨y, hy, d', hd', rfl⟩ hsame
  rcases hx with rfl | rfl <;> rcases hy with rfl | rfl <;>
    simp only [hc, hc', Except.ok.injEq] at hd hd' <;> subst hd hd'
  · rfl
  · by_contra hne
    exact h hne hsame
  · by_contra hne
    exact h (Ne.symm hne) hsame.symm
  · rfl

def otherRateSeal : Sha256Text :=
  ⟨lit "sha256:95b19bf469b2dedd507d277199d48e4a9971b622f9feec5b465bec2d44c006ba", by decide⟩

theorem sealDigest_otherRate : Artifact.sealDigest sheetPlatform
    (sheetWith "rate" "22" (some rateSeal)) = .ok otherRateSeal := by
  decide +kernel

theorem sealsCollisionFree_rate : SealsCollisionFree (k := .calculationSheet) sheetPlatform
    (sheetWith "rate" "1" (some rateSeal)) (sheetWith "rate" "22" (some rateSeal)) := by
  obtain ⟨c, hc, hhash⟩ := hash_of_sealed sealed_rate
  have hother := sealDigest_otherRate
  unfold Artifact.sealDigest sha256Digest at hother
  simp only [bind_eq_ok, pure, Except.pure, Except.ok.injEq] at hother
  obtain ⟨c', hc', hdigest⟩ := hother
  refine sealsCollisionFree_of hc hc' fun _ heq => ?_
  have hrate : rateSeal = otherRateSeal.stripped := by
    rw [← hdigest, ← heq]
    exact Option.some.inj hhash
  exact absurd hrate (by decide)

theorem sealsCollisionFree_hashEntry : SealsCollisionFree (k := .calculationSheet) sheetPlatform
    (sheetWith "content_hash" "1" (some hashEntrySeal))
    (sheetWith "content_hash" "22" (some hashEntrySeal)) := by
  obtain ⟨c, hc, -⟩ := hash_of_sealed sealed_hashEntry
  have hcovered : canonicalize [hashKey]
      (Artifact.dump (sheetWith "content_hash" "22" (some hashEntrySeal))) = .ok c := by
    rw [← hc, canonicalize_without, canonicalize_without [hashKey] (Artifact.dump _)]
    rfl
  exact sealsCollisionFree_of hc hcovered fun hne => absurd rfl hne

end Sample

/-- A sealed sheet whose rate was altered fails its check. -/
theorem sample_alteration_detected :
    Alters (k := .calculationSheet) Sample.sheetPlatform
      (Sample.sheetWith "rate" "1" (some Sample.rateSeal))
      (Sample.sheetWith "rate" "22" (some Sample.rateSeal)) ∧
    Artifact.verifyHash Sample.sheetPlatform
      (Sample.sheetWith "rate" "22" (some Sample.rateSeal)) = .ok false :=
  ⟨Sample.alters_rate,
    (alteration_detected_iff Sample.sealsCollisionFree_rate Sample.alters_rate).1.2
      (Sample.alters_rate.differCovered rfl rfl)⟩

/-- A sealed sheet whose entry under the name of a hash was altered passes its check. -/
theorem sample_alteration_missed : ¬ ∀ (P : Platform) (k : ArtifactClass) (a b : k.Model),
    SealsCollisionFree P a b → Alters P a b → Artifact.verifyHash P b = .ok false := by
  intro h
  have hfalse := h _ _ _ _ Sample.sealsCollisionFree_hashEntry Sample.alters_hashEntry
  have htrue : Artifact.verifyHash Sample.sheetPlatform
      (Sample.sheetWith "content_hash" "22" (some Sample.hashEntrySeal)) = .ok true := by
    decide +kernel
  exact absurd (htrue.symm.trans hfalse) (by decide)

end ProofFlow
