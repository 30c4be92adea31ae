import ProofFlow.Kit.Flow
import ProofFlow.Models
import ProofFlow.RoundTrip

/-!
# What canonical JSON determines

`canonicalize` lists the members of every object by key, so the canonical JSON of a value determines
the canonical structure, and the structure determines the canonical form of every member.
-/

namespace ProofFlow

open Kit

/-! ## Structures whose objects are in order -/

mutual

/-- Every object in the structure lists its members by key. -/
def Canon.Ordered : Canon → Prop
  | .arr items => ItemsOrdered items
  | .obj members => members.Pairwise (fun a b => a.1 ≤ b.1) ∧ MembersOrdered members
  | _ => True

def ItemsOrdered : List Canon → Prop
  | [] => True
  | v :: l => v.Ordered ∧ ItemsOrdered l

def MembersOrdered : List (Str × Canon) → Prop
  | [] => True
  | (_, v) :: l => v.Ordered ∧ MembersOrdered l

end

theorem sortMembers_of_pairwise {α : Type} {l : List (Str × α)}
    (h : l.Pairwise fun a b => a.1 ≤ b.1) : sortMembers l = l :=
  h.insertionSort_eq

theorem pairwise_sortMembers {α : Type} (l : List (Str × α)) :
    (sortMembers l).Pairwise fun a b => a.1 ≤ b.1 := by
  have htotal : Std.Total fun a b : Str × α => a.1 ≤ b.1 := ⟨fun a b => le_total a.1 b.1⟩
  have htrans : IsTrans (Str × α) fun a b => a.1 ≤ b.1 := ⟨fun _ _ _ => le_trans⟩
  exact List.pairwise_insertionSort _ l

theorem membersOrdered_iff {l : List (Str × Canon)} :
    MembersOrdered l ↔ ∀ m ∈ l, m.2.Ordered := by
  induction l with
  | nil => simp [MembersOrdered]
  | cons m l ih => simp [MembersOrdered, ih]

/-- An object in order is loaded as it stands. -/
theorem loaded_of_pairwise {l : List (Str × Canon)} (h : l.Pairwise fun a b => a.1 ≤ b.1) :
    (Canon.obj l).loaded = .obj (l.map fun m => (toPyStr m.1, m.2.loaded)) := by
  simp only [Canon.loaded, loadedMembers_eq, sortMembers_map, List.map_map]
  rw [sortMembers_of_pairwise h]
  rfl

mutual

/-- What is loaded determines a structure in order. -/
theorem Canon.loaded_inj : (c c' : Canon) → c.Ordered → c'.Ordered → c.loaded = c'.loaded → c = c'
  | .null, c', _, _, h => by cases c' <;> simp [Canon.loaded] at h ⊢
  | .bool b, c', _, _, h => by cases c' <;> simp [Canon.loaded] at h ⊢; exact h
  | .int n, c', _, _, h => by cases c' <;> simp [Canon.loaded] at h ⊢; exact h
  | .str s, c', _, _, h => by
    cases c' <;> simp [Canon.loaded] at h ⊢
    exact toPyStr_injective h
  | .arr l, c', ho, ho', h => by
    cases c' with
    | arr l' =>
      simp only [Canon.loaded, Json.arr.injEq] at h
      rw [loadedItems_inj l l' ho ho' h]
    | _ => simp [Canon.loaded] at h
  | .obj l, c', ho, ho', h => by
    cases c' with
    | obj l' =>
      rw [loaded_of_pairwise ho.1, loaded_of_pairwise ho'.1, Json.obj.injEq] at h
      rw [loadedMembers_inj_of_ordered l l' ho.2 ho'.2 h]
    | _ => simp [Canon.loaded] at h

theorem loadedItems_inj : (l l' : List Canon) → ItemsOrdered l → ItemsOrdered l' →
    loadedItems l = loadedItems l' → l = l'
  | [], [], _, _, _ => rfl
  | [], _ :: _, _, _, h => by simp [loadedItems] at h
  | _ :: _, [], _, _, h => by simp [loadedItems] at h
  | v :: l, v' :: l', ho, ho', h => by
    simp only [loadedItems, List.cons.injEq] at h
    rw [Canon.loaded_inj v v' ho.1 ho'.1 h.1, loadedItems_inj l l' ho.2 ho'.2 h.2]

theorem loadedMembers_inj_of_ordered : (l l' : List (Str × Canon)) → MembersOrdered l →
    MembersOrdered l' →
    (l.map fun m => (toPyStr m.1, m.2.loaded)) = l'.map
    (fun m => (toPyStr m.1, m.2.loaded)) → l = l'
  | [], [], _, _, _ => rfl
  | [], _ :: _, _, _, h => by simp at h
  | _ :: _, [], _, _, h => by simp at h
  | (k, v) :: l, (k', v') :: l', ho, ho', h => by
    simp only [List.map_cons, List.cons.injEq, Prod.mk.injEq] at h
    rw [toPyStr_injective h.1.1, Canon.loaded_inj v v' ho.1 ho'.1 h.1.2,
      loadedMembers_inj_of_ordered l l' ho.2 ho'.2 h.2]

end

/-- Canonical JSON determines an object in order. -/
theorem canonicalJson_inj {limit : ℕ} {c c' : Canon} {l l' : List (Str × Canon)} (hc : c = .obj l)
    (hc' : c' = .obj l') (hread : c.readable limit = true) (hread' : c'.readable limit = true)
    (ho : c.Ordered) (ho' : c'.Ordered) (h : canonicalJson c = canonicalJson c') : c = c' := by
  subst hc hc'
  exact Canon.loaded_inj _ _ ho ho' (loaded_eq_of_canonicalJson_eq hread hread' h)

/-! ## Canonical forms -/

/-- The members that are canonicalized are those whose values are, in the same order. -/
theorem sequenceMembers_eq_ok {l : List (Str × Except Fault Canon)} {cs : List (Str × Canon)} :
    sequenceMembers l = .ok cs ↔ l = cs.map fun m => (m.1, .ok m.2) := by
  induction l generalizing cs with
  | nil => cases cs <;> simp [sequenceMembers]
  | cons m l ih =>
    obtain ⟨k, v⟩ := m
    simp only [sequenceMembers, bind_eq_ok, pure, Except.pure, Except.ok.injEq]
    constructor
    · rintro ⟨c, rfl, rest, hrest, rfl⟩
      simp [ih.1 hrest]
    · intro h
      cases cs with
      | nil => simp at h
      | cons m cs =>
        simp only [List.map_cons, List.cons.injEq, Prod.mk.injEq] at h
        refine ⟨m.2, h.1.2, cs, ih.2 h.2, ?_⟩
        rw [h.1.1]

/-- The canonical form of an object is an object of the canonical forms of its members. -/
theorem canonicalize_obj_eq_ok {exclude : List Str} {members : List (Str × Value)} {c : Canon} :
    canonicalize exclude (.obj members) = .ok c ↔ ∃ cs, c = .obj cs ∧
      sortMembers (canonicalizeMembers exclude members) = cs.map fun m => (m.1, .ok m.2) := by
  simp only [canonicalize, bind_eq_ok, sequenceMembers_eq_ok, pure, Except.pure, Except.ok.injEq]
  constructor
  · rintro ⟨cs, hcs, rfl⟩
    exact ⟨cs, rfl, hcs⟩
  · rintro ⟨cs, rfl, hcs⟩
    exact ⟨cs, hcs, rfl⟩

theorem canonicalizeMembers_eq (exclude : List Str) (members : List (Str × Value)) :
    canonicalizeMembers exclude members =
      (members.filter fun m => decide (m.1 ∉ exclude)).map fun m =>
        (m.1, canonicalize exclude m.2) := by
  induction members with
  | nil => rfl
  | cons m members ih =>
    obtain ⟨k, v⟩ := m
    by_cases hk : k ∈ exclude <;> simp [canonicalizeMembers, hk, ih]

/-- An object is canonicalized member by member. -/
theorem canonicalize_obj_congr {exclude : List Str} {members members' : List (Str × Value)}
    (h : members.map (fun m => (m.1, canonicalize exclude m.2)) =
      members'.map fun m => (m.1, canonicalize exclude m.2)) :
    canonicalize exclude (.obj members) = canonicalize exclude (.obj members') := by
  have hfilter (l : List (Str × Value)) : canonicalizeMembers exclude l =
      (l.map fun m => (m.1, canonicalize exclude m.2)).filter fun m => decide (m.1 ∉ exclude) := by
    rw [canonicalizeMembers_eq, List.filter_map]
    rfl
  simp only [canonicalize]
  rw [hfilter, hfilter, h]

mutual

/-- The value nests at most `depth` deep and its integers are short enough to be read. -/
def Value.legible (depth : ℕ) : Value → Bool
  | .int n => decide ((decimalText n.natAbs).length ≤ maxStrDigits)
  | .arr items => 0 < depth && itemsLegible (depth - 1) items
  | .obj members => 0 < depth && membersLegible (depth - 1) members
  | _ => true

def itemsLegible (depth : ℕ) : List Value → Bool
  | [] => true
  | v :: l => v.legible depth && itemsLegible depth l

def membersLegible (depth : ℕ) : List (Str × Value) → Bool
  | [] => true
  | (_, v) :: l => v.legible depth && membersLegible depth l

end

theorem itemsLegible_iff {depth : ℕ} {l : List Value} :
    itemsLegible depth l = true ↔ ∀ v ∈ l, v.legible depth = true := by
  induction l with
  | nil => simp [itemsLegible]
  | cons v l ih => simp [itemsLegible, ih]

/-- An array of values of one kind. -/
theorem canonicalizeItems_map {α : Type} {exclude : List Str} {f : α → Value} {g : α → Canon}
    (h : ∀ a, canonicalize exclude (f a) = .ok (g a)) (l : List α) :
    canonicalizeItems exclude (l.map f) = .ok (l.map g) := by
  induction l with
  | nil => rfl
  | cons a l ih =>
    rw [List.map_cons, List.map_cons, canonicalizeItems, h a, ih]
    rfl

/-- The canonical form is in order, and as legible as the value. -/
structure CanonicalForm (depth : ℕ) (legible : Prop) (c : Canon) : Prop where
  ordered : c.Ordered
  readable : legible → c.readable depth = true

theorem datetimeValue_form {t : DateTime} {c : Canon} (h : datetimeValue t = .ok c) :
    ∃ s, c = .str s := by
  unfold datetimeValue at h
  split at h
  · cases h
  · split at h
    · exact ⟨_, (Except.ok.inj h).symm⟩
    · cases h

mutual

theorem canonicalize_form (exclude : List Str) : (v : Value) → (c : Canon) →
    canonicalize exclude v = .ok c → ∀ depth, CanonicalForm depth (v.legible depth = true) c
  | .null, _, h, depth => by
    obtain rfl := Except.ok.inj h
    exact ⟨trivial, fun _ => rfl⟩
  | .bool b, _, h, depth => by
    obtain rfl := Except.ok.inj h
    exact ⟨trivial, fun _ => rfl⟩
  | .int n, _, h, depth => by
    obtain rfl := Except.ok.inj h
    exact ⟨trivial, id⟩
  | .float, _, h, _ => by cases h
  | .str s, _, h, depth => by
    obtain rfl := Except.ok.inj h
    exact ⟨trivial, fun _ => rfl⟩
  | .unencodable, _, h, _ => by cases h
  | .decimal d, c, h, depth => by
    simp only [canonicalize] at h
    split at h
    · obtain rfl := Except.ok.inj h
      exact ⟨trivial, fun _ => rfl⟩
    · cases h
  | .datetime t, c, h, depth => by
    obtain ⟨s, rfl⟩ := datetimeValue_form h
    exact ⟨trivial, fun _ => rfl⟩
  | .date d, _, h, depth => by
    obtain rfl := Except.ok.inj h
    exact ⟨trivial, fun _ => rfl⟩
  | .bytes b, _, h, depth => by
    obtain rfl := Except.ok.inj h
    exact ⟨trivial, fun _ => rfl⟩
  | .arr items, c, h, depth => by
    simp only [canonicalize, bind_eq_ok, pure, Except.pure, Except.ok.injEq] at h
    obtain ⟨cs, hcs, rfl⟩ := h
    obtain ⟨hordered, hreadable⟩ := canonicalizeItems_form exclude items cs hcs (depth - 1)
    refine ⟨hordered, fun hlegible => ?_⟩
    simp only [Value.legible, Bool.and_eq_true, decide_eq_true_eq] at hlegible
    simp only [Canon.readable, Bool.and_eq_true, decide_eq_true_eq]
    exact ⟨hlegible.1, hreadable hlegible.2⟩
  | .obj members, c, h, depth => by
    obtain ⟨cs, rfl, hcs⟩ := canonicalize_obj_eq_ok.1 h
    have hmember : ∀ m ∈ cs, (m.1, (Except.ok m.2 : Except Fault Canon)) ∈
        canonicalizeMembers exclude members := by
      intro m hm
      have hsorted : (m.1, (Except.ok m.2 : Except Fault Canon)) ∈
          sortMembers (canonicalizeMembers exclude members) := by
        rw [hcs]
        exact List.mem_map.2 ⟨m, hm, rfl⟩
      exact (List.perm_insertionSort _ _).subset hsorted
    have hforms := canonicalizeMembers_form exclude members (depth - 1)
    refine ⟨⟨?_, ?_⟩, fun hlegible => ?_⟩
    · have hsorted := pairwise_sortMembers (canonicalizeMembers exclude members)
      rw [hcs, List.pairwise_map] at hsorted
      exact hsorted
    · exact membersOrdered_iff.2 fun m hm => (hforms m.1 m.2 (hmember m hm)).ordered
    · simp only [Value.legible, Bool.and_eq_true, decide_eq_true_eq] at hlegible
      simp only [Canon.readable, Bool.and_eq_true, decide_eq_true_eq]
      refine ⟨hlegible.1, membersReadable_iff.2 fun m hm => ?_⟩
      exact (hforms m.1 m.2 (hmember m hm)).readable hlegible.2

theorem canonicalizeItems_form (exclude : List Str) : (l : List Value) → (cs : List Canon) →
    canonicalizeItems exclude l = .ok cs → ∀ depth,
    ItemsOrdered cs ∧ (itemsLegible depth l = true → itemsReadable depth cs = true)
  | [], _, h, depth => by
    obtain rfl := Except.ok.inj h
    exact ⟨trivial, fun _ => rfl⟩
  | v :: l, cs, h, depth => by
    simp only [canonicalizeItems, bind_eq_ok, pure, Except.pure, Except.ok.injEq] at h
    obtain ⟨c, hc, rest, hrest, rfl⟩ := h
    have hform := canonicalize_form exclude v c hc depth
    obtain ⟨hordered, hreadable⟩ := canonicalizeItems_form exclude l rest hrest depth
    refine ⟨⟨hform.ordered, hordered⟩, fun hlegible => ?_⟩
    simp only [itemsLegible, Bool.and_eq_true] at hlegible
    simp only [itemsReadable, Bool.and_eq_true]
    exact ⟨hform.readable hlegible.1, hreadable hlegible.2⟩

theorem canonicalizeMembers_form (exclude : List Str) : (l : List (Str × Value)) → ∀ depth k c,
    (k, (Except.ok c : Except Fault Canon)) ∈ canonicalizeMembers exclude l →
    CanonicalForm depth (membersLegible depth l = true) c
  | [], _, _, _, h => by cases h
  | (k', v) :: l, depth, k, c, h => by
    have hrest (hmem : (k, (Except.ok c : Except Fault Canon)) ∈ canonicalizeMembers exclude l) :
        CanonicalForm depth (membersLegible depth ((k', v) :: l) = true) c := by
      have hform := canonicalizeMembers_form exclude l depth k c hmem
      refine ⟨hform.ordered, fun hlegible => hform.readable ?_⟩
      simp only [membersLegible, Bool.and_eq_true] at hlegible
      exact hlegible.2
    unfold canonicalizeMembers at h
    split_ifs at h
    · exact hrest h
    · rcases List.mem_cons.1 h with heq | hmem
      · have hform := canonicalize_form exclude v c (congrArg Prod.snd heq).symm depth
        refine ⟨hform.ordered, fun hlegible => hform.readable ?_⟩
        simp only [membersLegible, Bool.and_eq_true] at hlegible
        exact hlegible.1
      · exact hrest hmem

end

/-- Of an object with a canonical form, every member that is not excluded has one. -/
theorem exists_canonical_member {exclude : List Str} {members : List (Str × Value)} {c : Canon}
    (h : canonicalize exclude (.obj members) = .ok c) {k : Str} {v : Value} (hv : (k, v) ∈ members)
    (hk : k ∉ exclude) : ∃ cs cv, c = .obj cs ∧ (k, cv) ∈ cs ∧ canonicalize exclude v = .ok cv := by
  obtain ⟨cs, rfl, hcs⟩ := canonicalize_obj_eq_ok.1 h
  have hmember : (k, canonicalize exclude v) ∈ canonicalizeMembers exclude members := by
    rw [canonicalizeMembers_eq]
    exact List.mem_map.2 ⟨(k, v), List.mem_filter.2 ⟨hv, by simpa using hk⟩, rfl⟩
  have hsorted : (k, canonicalize exclude v) ∈ sortMembers (canonicalizeMembers exclude members) :=
    (List.perm_insertionSort _ _).symm.subset hmember
  rw [hcs] at hsorted
  obtain ⟨m, hm, heq⟩ := List.mem_map.1 hsorted
  obtain ⟨rfl, hv'⟩ := Prod.mk.inj heq
  exact ⟨cs, m.2, rfl, hm, hv'.symm⟩

/-- Objects with the same distinct keys and one canonical form have members with one canonical
form. -/
theorem canonicalizeMembers_inj (keys : List String) {exclude : List Str}
    {members members' : List (Str × Value)} {c : Canon}
    (h : canonicalize exclude (.obj members) = .ok c)
    (h' : canonicalize exclude (.obj members') = .ok c)
    (hkeys : members.map Prod.fst = keys.map lit) (hkeys' : members'.map Prod.fst = keys.map lit)
    (hnodup : (keys.map lit).Nodup) :
    canonicalizeMembers exclude members = canonicalizeMembers exclude members' := by
  obtain ⟨cs, rfl, hcs⟩ := canonicalize_obj_eq_ok.1 h
  obtain ⟨cs', heq, hcs'⟩ := canonicalize_obj_eq_ok.1 h'
  obtain rfl := Canon.obj.inj heq
  have hfst (l : List (Str × Value)) : (canonicalizeMembers exclude l).map Prod.fst =
      (l.map Prod.fst).filter fun k => decide (k ∉ exclude) := by
    rw [canonicalizeMembers_eq, List.map_map, List.filter_map]
    rfl
  apply eq_of_sortMembers_eq (hcs.trans hcs'.symm)
  · rw [hfst, hfst, hkeys, hkeys']
  · rw [hfst, hkeys]
    exact hnodup.filter _

/-! ## Reading a member back -/

/-- The member of an object that `json.loads` returned. -/
def memberOf (value : Json PyStr) (key : String) : Option (Json PyStr) :=
  match value with
  | .obj members => members.lookup (toPyStr (lit key))
  | _ => none

theorem lookup_of_mem {α : Type} {l : List (PyStr × α)} {k : PyStr} {v : α}
    (hnodup : (l.map Prod.fst).Nodup) (h : (k, v) ∈ l) : l.lookup k = some v := by
  induction l with
  | nil => cases h
  | cons m l ih =>
    obtain ⟨hfresh, hnodup⟩ := List.nodup_cons.1 hnodup
    rcases List.mem_cons.1 h with rfl | h
    · simp
    · have hne : k ≠ m.1 := by
        rintro rfl
        exact hfresh (List.mem_map.2 ⟨_, h, rfl⟩)
      rw [List.lookup_cons, beq_false_of_ne hne]
      exact ih hnodup h

/-- The member of an object is found in its canonical form. -/
theorem memberOf_canonicalize (keys : List String) (key : String) {exclude : List Str}
    {members : List (Str × Value)} {c : Canon} (h : canonicalize exclude (.obj members) = .ok c)
    (hkeys : members.map Prod.fst = keys.map lit) (hnodup : (keys.map lit).Nodup) {v : Value}
    (hv : (lit key, v) ∈ members) (hk : lit key ∉ exclude) :
    ∃ cv, canonicalize exclude v = .ok cv ∧ memberOf c.loaded key = some cv.loaded := by
  obtain ⟨cs, cv, rfl, hmem, hcv⟩ := exists_canonical_member h hv hk
  have hordered := (canonicalize_form exclude _ _ h 0).ordered
  obtain ⟨cs', heq, hcs⟩ := canonicalize_obj_eq_ok.1 h
  obtain rfl := Canon.obj.inj heq
  have hfst :
      (cs.map Prod.fst).Perm ((members.map Prod.fst).filter fun k => decide (k ∉ exclude)) := by
    have hsorted :
        cs.map Prod.fst = (sortMembers (canonicalizeMembers exclude members)).map Prod.fst := by
      rw [hcs, List.map_map]
      rfl
    rw [hsorted]
    refine ((List.perm_insertionSort _ _).map Prod.fst).trans (List.Perm.of_eq ?_)
    rw [canonicalizeMembers_eq, List.map_map, List.filter_map]
    rfl
  refine ⟨cv, hcv, ?_⟩
  rw [loaded_of_pairwise hordered.1]
  apply lookup_of_mem
  · have hnodup' : (cs.map Prod.fst).Nodup := by
      rw [hfst.nodup_iff, hkeys]
      exact hnodup.filter _
    have htext : (cs.map fun m => (toPyStr m.1, m.2.loaded)).map Prod.fst =
        (cs.map Prod.fst).map toPyStr := by
      rw [List.map_map, List.map_map]
      rfl
    rw [htext]
    exact hnodup'.map toPyStr_injective
  · exact List.mem_map.2 ⟨(lit key, cv), hmem, rfl⟩

end ProofFlow
