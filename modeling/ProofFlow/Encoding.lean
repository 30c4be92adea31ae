import ProofFlow.Artifacts
import ProofFlow.Recovery

/-!
# Which values have a canonical form

Canonicalization fails on a float, a lone surrogate, a special decimal, and a date-time without a
zone or outside the calendar in UTC.  An artifact has a canonical form exactly if the instant of its
metadata is in the calendar.
-/

namespace ProofFlow

open Kit

/-- An aware date-time whose instant is in the calendar. -/
def DateTime.Representable (t : DateTime) : Prop :=
  t.utcoffset.isSome = true ∧ 0 ≤ t.instant ∧ t.instant.toNat < maxMicros + 1

instance (t : DateTime) : Decidable t.Representable := inferInstanceAs (Decidable (_ ∧ _ ∧ _))

mutual

/-- No part of the value outside the excluded members stops canonicalization. -/
def Value.Encodable (exclude : List Str) : Value → Prop
  | .float => False
  | .unencodable => False
  | .decimal d => d.isFinite = true
  | .datetime t => t.Representable
  | .arr items => ItemsEncodable exclude items
  | .obj members => MembersEncodable exclude members
  | _ => True

def ItemsEncodable (exclude : List Str) : List Value → Prop
  | [] => True
  | v :: l => v.Encodable exclude ∧ ItemsEncodable exclude l

def MembersEncodable (exclude : List Str) : List (Str × Value) → Prop
  | [] => True
  | (k, v) :: l => (k ∈ exclude ∨ v.Encodable exclude) ∧ MembersEncodable exclude l

end

section Encodable

variable {exclude : List Str}

theorem itemsEncodable_iff {l : List Value} :
    ItemsEncodable exclude l ↔ ∀ v ∈ l, v.Encodable exclude := by
  induction l with
  | nil => simp [ItemsEncodable]
  | cons v l ih => simp [ItemsEncodable, ih]

theorem membersEncodable_iff {l : List (Str × Value)} :
    MembersEncodable exclude l ↔ ∀ m ∈ l, m.1 ∈ exclude ∨ m.2.Encodable exclude := by
  induction l with
  | nil => simp [MembersEncodable]
  | cons m l ih => simp only [MembersEncodable, ih, List.forall_mem_cons]

theorem exists_datetimeValue {t : DateTime} : (∃ c, datetimeValue t = .ok c) ↔ t.Representable := by
  unfold datetimeValue DateTime.Representable DateTime.astimezoneUtc
  cases t.utcoffset with
  | none => simp
  | some o =>
    by_cases h : 0 ≤ t.instant ∧ t.instant.toNat < maxMicros + 1
    · rw [dif_pos h]
      simp only [Option.isSome_some, true_and, h, iff_true]
      exact ⟨_, rfl⟩
    · rw [dif_neg h]
      simp only [Option.isSome_some, true_and, h, iff_false]
      rintro ⟨_, ⟨⟩⟩

theorem exists_decimalValue {d : Decimal} :
    (∃ c, canonicalize exclude (.decimal d) = .ok c) ↔ d.isFinite = true := by
  cases d with
  | finite n c e => simp [canonicalize, Decimal.text, Decimal.isFinite]
  | infinity n => simp [canonicalize, Decimal.text, Decimal.isFinite]
  | nan => simp [canonicalize, Decimal.text, Decimal.isFinite]

/-- Results that are all values. -/
theorem exists_map_ok {l : List (Str × Except Fault Canon)} :
    (∃ cs : List (Str × Canon), l = cs.map fun m => (m.1, .ok m.2)) ↔
      ∀ m ∈ l, ∃ c, m.2 = .ok c := by
  induction l with
  | nil => simp
  | cons m l ih =>
    rw [List.forall_mem_cons, ← ih]
    constructor
    · rintro ⟨cs, hcs⟩
      obtain ⟨c, rest, rfl, hc, hrest⟩ := List.map_eq_cons_iff.1 hcs.symm
      exact ⟨⟨c.2, by rw [← hc]⟩, rest, hrest.symm⟩
    · rintro ⟨⟨c, hc⟩, cs, rfl⟩
      exact ⟨(m.1, c) :: cs, by rw [List.map_cons, ← hc]⟩

mutual

/-- A value has a canonical form exactly if nothing in it stops canonicalization. -/
theorem exists_canonicalize_iff (exclude : List Str) : (v : Value) →
    ((∃ c, canonicalize exclude v = .ok c) ↔ v.Encodable exclude)
  | .null => iff_of_true ⟨_, rfl⟩ trivial
  | .bool _ => iff_of_true ⟨_, rfl⟩ trivial
  | .int _ => iff_of_true ⟨_, rfl⟩ trivial
  | .str _ => iff_of_true ⟨_, rfl⟩ trivial
  | .date _ => iff_of_true ⟨_, rfl⟩ trivial
  | .bytes _ => iff_of_true ⟨_, rfl⟩ trivial
  | .float => iff_of_false (by rintro ⟨_, ⟨⟩⟩) id
  | .unencodable => iff_of_false (by rintro ⟨_, ⟨⟩⟩) id
  | .decimal _ => exists_decimalValue
  | .datetime _ => exists_datetimeValue
  | .arr items => by
    rw [Value.Encodable, ← exists_canonicalizeItems_iff exclude items]
    simp only [canonicalize, bind_eq_ok, pure, Except.pure, Except.ok.injEq]
    constructor
    · rintro ⟨_, cs, hcs, -⟩
      exact ⟨cs, hcs⟩
    · rintro ⟨cs, hcs⟩
      exact ⟨_, cs, hcs, rfl⟩
  | .obj members => by
    rw [Value.Encodable, ← forall_canonicalizeMembers_iff exclude members]
    simp only [canonicalize_obj_eq_ok]
    constructor
    · rintro ⟨_, cs, rfl, hcs⟩ m hm
      exact exists_map_ok.1 ⟨cs, hcs⟩ m (mem_sortMembers.2 hm)
    · intro h
      obtain ⟨cs, hcs⟩ := exists_map_ok.2 fun m hm => h m (mem_sortMembers.1 hm)
      exact ⟨_, cs, rfl, hcs⟩

theorem exists_canonicalizeItems_iff (exclude : List Str) : (l : List Value) →
    ((∃ cs, canonicalizeItems exclude l = .ok cs) ↔ ItemsEncodable exclude l)
  | [] => iff_of_true ⟨[], rfl⟩ trivial
  | v :: l => by
    rw [ItemsEncodable, ← exists_canonicalize_iff exclude v,
      ← exists_canonicalizeItems_iff exclude l]
    simp only [canonicalizeItems, bind_eq_ok, pure, Except.pure, Except.ok.injEq]
    constructor
    · rintro ⟨_, c, hc, cs, hcs, -⟩
      exact ⟨⟨c, hc⟩, cs, hcs⟩
    · rintro ⟨⟨c, hc⟩, cs, hcs⟩
      exact ⟨_, c, hc, cs, hcs, rfl⟩

theorem forall_canonicalizeMembers_iff (exclude : List Str) : (l : List (Str × Value)) →
    ((∀ m ∈ canonicalizeMembers exclude l, ∃ c, m.2 = .ok c) ↔ MembersEncodable exclude l)
  | [] => by simp [canonicalizeMembers, MembersEncodable]
  | (k, v) :: l => by
    rw [MembersEncodable, ← exists_canonicalize_iff exclude v,
      ← forall_canonicalizeMembers_iff exclude l]
    by_cases hk : k ∈ exclude
    · simp [canonicalizeMembers, hk]
    · simp [canonicalizeMembers, hk]

end

/-- A digest is computed exactly if the value has a canonical form. -/
theorem exists_sha256Digest_iff {P : Platform} {v : Value} :
    (∃ d, sha256Digest P v exclude = .ok d) ↔ v.Encodable exclude := by
  rw [← exists_canonicalize_iff]
  simp only [sha256Digest, bind_eq_ok, pure, Except.pure, Except.ok.injEq]
  constructor
  · rintro ⟨_, c, hc, -⟩
    exact ⟨c, hc⟩
  · rintro ⟨c, hc⟩
    exact ⟨_, c, hc, rfl⟩

/-! ## Parts of dumped models -/

@[simp] theorem encodable_str (s : Str) : (Value.str s).Encodable exclude := trivial

@[simp] theorem encodable_bool (b : Bool) : (Value.bool b).Encodable exclude := trivial

@[simp] theorem encodable_int (n : ℤ) : (Value.int n).Encodable exclude := trivial

@[simp] theorem encodable_date (d : Date) : (Value.date d).Encodable exclude := trivial

@[simp] theorem encodable_enum (s : String) : (Value.enum s).Encodable exclude := trivial

@[simp] theorem encodable_label? (s : Option Stripped) : (Value.label? s).Encodable exclude := by
  cases s <;> trivial

@[simp] theorem encodable_date? (d : Option Date) : (Value.date? d).Encodable exclude := by
  cases d <;> trivial

@[simp] theorem encodable_amount (d : Amount) : (Value.decimal d.val).Encodable exclude :=
    d.property

@[simp] theorem encodable_datetime (t : DateTime) :
    (Value.datetime t).Encodable exclude ↔ t.Representable := Iff.rfl

@[simp] theorem encodable_arr (items : List Value) :
    (Value.arr items).Encodable exclude ↔ ∀ v ∈ items, v.Encodable exclude := itemsEncodable_iff

@[simp] theorem encodable_obj (members : List (Str × Value)) :
    (Value.obj members).Encodable exclude ↔ ∀ m ∈ members, m.1 ∈ exclude ∨ m.2.Encodable exclude :=
  membersEncodable_iff

@[simp] theorem encodable_labels (l : List Stripped) : (Value.labels l).Encodable exclude := by
  unfold Value.labels
  rw [encodable_arr, List.forall_mem_map]
  intro s _
  exact encodable_str s.val

/-! ## Artifacts -/

theorem encodable_meta (hcreated : lit "created_at" ∉ exclude) (m : ArtifactMeta) :
    m.dump.Encodable exclude ↔ m.createdAt.val.Representable := by
  simp [ArtifactMeta.dump, keyed, hcreated]

/-- An artifact whose own fields can be encoded has a canonical form exactly if its time is in the
calendar. -/
theorem encodable_dump {α : Type} [Artifact α] {a : α} (hmeta : lit "meta" ∉ exclude)
    (hcreated : lit "created_at" ∉ exclude)
    (hfields : ∀ m ∈ Artifact.fields a, m.2.Encodable exclude) :
    (Artifact.dump a).Encodable exclude ↔ (Artifact.metadata a).createdAt.val.Representable := by
  unfold Artifact.dump keyed
  rw [encodable_obj, List.forall_mem_cons, ← encodable_meta hcreated]
  constructor
  · rintro ⟨hfirst, -⟩
    exact hfirst.resolve_left hmeta
  · intro h
    exact ⟨.inr h, fun m hm => .inr (hfields m hm)⟩

theorem isFinite_of_isProportion {d : Decimal} (h : d.isProportion = true) : d.isFinite = true := by
  cases d with
  | finite n c e => rfl
  | infinity n => simp [Decimal.isProportion, Decimal.finiteLe, Decimal.ofNat] at h
  | nan => simp [Decimal.isProportion, Decimal.finiteLe, Decimal.ofNat] at h

theorem encodable_evidence_fields (e : EvidenceObject) :
    ∀ m ∈ Artifact.fields e, m.2.Encodable exclude := by
  have hconfidence : (Value.decimal e.confidence.val).Encodable exclude :=
    isFinite_of_isProportion e.confidence.property
  simp [Artifact.fields, keyed, hconfidence]

theorem encodable_citation_fields (c : RuleCitation) :
    ∀ m ∈ Artifact.fields c, m.2.Encodable exclude := by
  simp [Artifact.fields, keyed]

theorem encodable_scalar (v : Scalar) : v.dump.Encodable exclude := by
  cases v with
  | decimal d => exact d.property
  | str s => exact encodable_str s.val
  | int n => exact encodable_int n

theorem encodable_scalarDict (d : ScalarDict) : d.dump.Encodable exclude := by
  unfold ScalarDict.dump
  rw [encodable_obj, List.forall_mem_map]
  intro m _
  exact .inr (encodable_scalar m.2)

theorem encodable_lineItem (i : CalculationLineItem) : i.dump.Encodable exclude := by
  simp [CalculationLineItem.dump, keyed, encodable_scalarDict]

theorem encodable_sheet_fields (s : CalculationSheet) :
    ∀ m ∈ Artifact.fields s, m.2.Encodable exclude := by
  have htotal : (Value.decimal? (s.total.map Subtype.val)).Encodable exclude := by
    cases s.total with
    | none => trivial
    | some d => exact d.property
  have hitems : (Value.arr (s.lineItems.map CalculationLineItem.dump)).Encodable exclude := by
    rw [encodable_arr, List.forall_mem_map]
    exact fun i _ => encodable_lineItem i
  simp only [Artifact.fields, keyed, List.forall_mem_cons]
  exact ⟨hitems, htotal, encodable_labels _, encodable_label? _, by simp⟩

end Encodable

end ProofFlow
