import Mathlib.Data.List.AList

/-!
# Dictionaries

Finite maps with a size, as Mathlib's association lists without duplicate keys.  An append-only
store never changes an entry: `Grows d d'` says that every entry of `d` is still one of `d'`.
-/

namespace Kit

/-- A finite map from `κ` to `υ`. -/
abbrev Dict (κ υ : Type) := AList fun _ : κ => υ

namespace Dict

variable {κ υ : Type}

/-- `len(d)`. -/
def size (d : Dict κ υ) : ℕ := d.entries.length

@[simp] theorem size_empty : (∅ : Dict κ υ).size = 0 := rfl

variable [DecidableEq κ]

/-- `d.get(k)`. -/
def get (d : Dict κ υ) (k : κ) : Option υ := d.lookup k

/-- `d[k] = v`. -/
def set (d : Dict κ υ) (k : κ) (v : υ) : Dict κ υ := d.insert k v

@[simp] theorem get_empty (k : κ) : (∅ : Dict κ υ).get k = none := AList.lookup_empty k

@[simp] theorem get_set_self (d : Dict κ υ) (k : κ) (v : υ) : (d.set k v).get k = some v :=
  AList.lookup_insert d

theorem get_set_ne (d : Dict κ υ) {k k' : κ} (v : υ) (h : k' ≠ k) : (d.set k v).get k' = d.get k' :=
  AList.lookup_insert_ne h

/-- Reading after a write. -/
theorem get_set (d : Dict κ υ) (k k' : κ) (v : υ) :
    (d.set k v).get k' = if k' = k then some v else d.get k' := by
  split_ifs with h
  · rw [h, get_set_self]
  · exact get_set_ne d v h

/-- A write to a free key makes the map larger by one. -/
theorem size_set (d : Dict κ υ) {k : κ} (v : υ) (h : d.get k = none) :
    (d.set k v).size = d.size + 1 := by
  unfold set size
  rw [AList.insert_of_notMem (AList.lookup_eq_none.1 h)]
  rfl

theorem set_ne_self (d : Dict κ υ) {k : κ} (v : υ) (h : d.get k = none) : d.set k v ≠ d := by
  intro heq
  have hk : (d.set k v).get k = d.get k := by rw [heq]
  rw [get_set_self, h] at hk
  cases hk

/-- Every entry of `d` is an entry of `d'`. -/
def Grows (d d' : Dict κ υ) : Prop := ∀ k v, d.get k = some v → d'.get k = some v

theorem Grows.refl (d : Dict κ υ) : Grows d d := fun _ _ h => h

/-- Writing what is already there, or to a free key, changes no entry. -/
theorem grows_set_of_eq (d : Dict κ υ) {k : κ} {v : υ} (h : ∀ w ∈ d.get k, w = v) :
    Grows d (d.set k v) := by
  intro k' v' hk'
  rw [get_set]
  split_ifs with heq
  · subst heq
    rw [h v' hk']
  · exact hk'

theorem grows_set (d : Dict κ υ) {k : κ} (v : υ) (h : d.get k = none) : Grows d (d.set k v) :=
  d.grows_set_of_eq (by simp [h])

/-! ## Updates -/

/-- Write the entries of a list, one after the other. -/
def setAll (d : Dict κ υ) (l : List (Sigma fun _ : κ => υ)) : Dict κ υ :=
  l.foldl (fun d e => d.set e.1 e.2) d

/-- `d.update(d')`. -/
def update (d d' : Dict κ υ) : Dict κ υ := d.setAll d'.entries

/-- The keys of `d'` that are not in `d`. -/
def newKeys (d d' : Dict κ υ) : List κ := d'.keys.filter fun k => (d.get k).isNone

theorem get_setAll (d : Dict κ υ) {l : List (Sigma fun _ : κ => υ)} (h : l.NodupKeys) (k : κ) :
    (d.setAll l).get k = (l.dlookup k).or (d.get k) := by
  induction l generalizing d with
  | nil => rfl
  | cons e l ih =>
    obtain ⟨hfresh, hl⟩ := List.nodupKeys_cons.1 h
    show ((d.set e.1 e.2).setAll l).get k = _
    rw [ih _ hl, get_set]
    by_cases hk : k = e.1
    · subst hk
      have hnone : l.dlookup e.1 = none := List.dlookup_eq_none.2 hfresh
      have hfound : (e :: l).dlookup e.1 = some e.2 := List.dlookup_cons_eq l e.1 e.2
      rw [hnone, hfound, if_pos rfl]
      rfl
    · have hskip : (e :: l).dlookup k = l.dlookup k := List.dlookup_cons_ne l e hk
      rw [if_neg hk, hskip]

/-- Reading after an update. -/
theorem get_update (d d' : Dict κ υ) (k : κ) : (d.update d').get k = (d'.get k).or (d.get k) :=
  d.get_setAll d'.nodupKeys k

/-- A write to a key that is taken does not change the size. -/
theorem size_set_of_some (d : Dict κ υ) {k : κ} {v : υ} (w : υ) (h : d.get k = some v) :
    (d.set k w).size = d.size := by
  have hk : k ∈ d.keys := AList.lookup_isSome.1 (Option.isSome_of_eq_some h)
  have hlen (d : Dict κ υ) : d.size = d.keys.length := (List.length_map _).symm
  have hpos := List.length_pos_of_mem hk
  unfold set
  rw [hlen, hlen, AList.keys_insert, List.length_cons, List.length_erase_of_mem hk]
  omega

theorem size_setAll (d : Dict κ υ) {l : List (Sigma fun _ : κ => υ)} (h : l.NodupKeys) :
    (d.setAll l).size = d.size + (l.keys.filter fun k => (d.get k).isNone).length := by
  induction l generalizing d with
  | nil => rfl
  | cons e l ih =>
    obtain ⟨hfresh, hl⟩ := List.nodupKeys_cons.1 h
    have hsame : l.keys.filter (fun k => ((d.set e.1 e.2).get k).isNone) =
        l.keys.filter fun k => (d.get k).isNone := by
      apply List.filter_congr
      intro k hk
      rw [get_set_ne]
      rintro rfl
      exact hfresh hk
    show ((d.set e.1 e.2).setAll l).size = _
    rw [ih _ hl, hsame, List.keys_cons]
    cases hget : d.get e.1 with
    | none =>
      rw [d.size_set e.2 hget]
      simp only [hget, Option.isNone_none, List.filter_cons_of_pos, List.length_cons]
      omega
    | some v =>
      rw [d.size_set_of_some e.2 hget]
      simp [hget]

/-- An update writes as many new entries as it has new keys. -/
theorem size_update (d d' : Dict κ υ) : (d.update d').size = d.size + (d.newKeys d').length :=
  d.size_setAll d'.nodupKeys

/-- An update that agrees with what is there changes no entry. -/
theorem grows_update {d d' : Dict κ υ} (h : ∀ k v, d'.get k = some v → ∀ w ∈ d.get k, w = v) :
    Grows d (d.update d') := by
  intro k v hk
  rw [get_update]
  cases hk' : d'.get k with
  | none => exact hk
  | some v' =>
    rw [h k v' hk' v hk]
    rfl

theorem mem_entries_iff {d : Dict κ υ} {e : Sigma fun _ : κ => υ} :
    e ∈ d.entries ↔ d.get e.1 = some e.2 := by
  obtain ⟨k, v⟩ := e
  exact AList.mem_lookup_iff.symm

end Dict

end Kit
