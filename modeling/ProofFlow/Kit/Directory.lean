import Mathlib.Data.List.Basic

/-!
# Directory tables

The directories of a file system as one table: an entry says that the directory with the inode
`parent` holds the object `inode` under `name`.  New entries are put in front.  `Stacked base
created` says that every entry of `created` was new when it was put on the table: then each is found
under its name, and taking them away in the opposite order gives `base` back.
-/

namespace Kit

structure DirEntry (ν : Type) where
  parent : ℕ
  name : ν
  inode : ℕ
  deriving DecidableEq

variable {ν : Type} [DecidableEq ν]

/-- The place of an entry. -/
def DirEntry.isAt (e : DirEntry ν) (parent : ℕ) (name : ν) : Bool :=
  decide (e.parent = parent) && decide (e.name = name)

theorem DirEntry.isAt_iff {e : DirEntry ν} {parent : ℕ} {name : ν} :
    e.isAt parent name = true ↔ e.parent = parent ∧ e.name = name := by
  rw [isAt, Bool.and_eq_true, decide_eq_true_eq, decide_eq_true_eq]

theorem DirEntry.isAt_self (e : DirEntry ν) : e.isAt e.parent e.name = true :=
  isAt_iff.2 ⟨rfl, rfl⟩

theorem DirEntry.isAt_comm {e e' : DirEntry ν} :
    e.isAt e'.parent e'.name = true ↔ e'.isAt e.parent e.name = true := by
  rw [isAt_iff, isAt_iff]
  exact and_congr eq_comm eq_comm

/-- The entries of all directories. -/
abbrev DirTable (ν : Type) := List (DirEntry ν)

namespace DirTable

/-- The object under a name. -/
def lookup (t : DirTable ν) (parent : ℕ) (name : ν) : Option ℕ :=
  (t.find? fun e => e.isAt parent name).map DirEntry.inode

/-- Take the entry under a name away. -/
def remove (t : DirTable ν) (parent : ℕ) (name : ν) : DirTable ν :=
  t.filter fun e => !e.isAt parent name

/-- The names in a directory. -/
def names (t : DirTable ν) (parent : ℕ) : List ν :=
  (t.filter fun e => decide (e.parent = parent)).map DirEntry.name

/-- A directory without entries. -/
def isEmptyAt (t : DirTable ν) (inode : ℕ) : Bool := t.all fun e => decide (e.parent ≠ inode)

/-- Follow a path from a directory. -/
def resolve (t : DirTable ν) (start : ℕ) : List ν → Option ℕ
  | [] => some start
  | name :: path => (t.lookup start name).bind fun inode => t.resolve inode path

variable {t base created created' : DirTable ν} {e x : DirEntry ν} {parent inode : ℕ} {name : ν}

theorem lookup_eq_none : t.lookup parent name = none ↔ ∀ e ∈ t, e.isAt parent name = false := by
  simp [lookup, List.find?_eq_none]

theorem mem_of_lookup (h : t.lookup parent name = some inode) : ⟨parent, name, inode⟩ ∈ t := by
  obtain ⟨e, he, rfl⟩ := Option.map_eq_some_iff.1 h
  have hat : e.isAt parent name = true := by simpa using List.find?_some he
  obtain ⟨rfl, rfl⟩ := DirEntry.isAt_iff.1 hat
  exact List.mem_of_find?_eq_some he

theorem lookup_ne_none (h : e ∈ t) : t.lookup e.parent e.name ≠ none := fun hnone => by
  have hnot := lookup_eq_none.1 hnone e h
  rw [e.isAt_self] at hnot
  cases hnot

theorem lookup_cons_self (x : DirEntry ν) (t : DirTable ν) :
    DirTable.lookup (x :: t) x.parent x.name = some x.inode := by
  simp [lookup, x.isAt_self]

theorem lookup_cons_of_not (h : x.isAt parent name = false) :
    DirTable.lookup (x :: t) parent name = t.lookup parent name := by
  simp [lookup, h]

theorem mem_remove : e ∈ t.remove parent name ↔ e ∈ t ∧ e.isAt parent name = false := by
  rw [remove, List.mem_filter, Bool.not_eq_true']

omit [DecidableEq ν] in
theorem isEmptyAt_iff : t.isEmptyAt inode = true ↔ ∀ e ∈ t, e.parent ≠ inode := by
  simp [isEmptyAt]

/-! ## Stacks of new entries -/

/-- `x` is new to the table: its name is free, and its object is not in use. -/
structure Fresh (x : DirEntry ν) (t : DirTable ν) : Prop where
  own : x.parent ≠ x.inode
  free : ∀ e ∈ t, e.isAt x.parent x.name = false
  empty : ∀ e ∈ t, e.parent ≠ x.inode
  unused : ∀ e ∈ t, e.inode ≠ x.inode

/-- Each entry of `created` was new when it was put on the table. -/
def Stacked (base : DirTable ν) : DirTable ν → Prop
  | [] => True
  | x :: created => Fresh x (created ++ base) ∧ Stacked base created

theorem Stacked.of_append (h : Stacked base (created' ++ created)) : Stacked base created := by
  induction created' with
  | nil => exact h
  | cons x created' ih => exact ih h.2

/-- Entries at different depths of the stack have different names and objects. -/
theorem Stacked.fresh_of_append (h : Stacked base (created' ++ created)) (hx : x ∈ created')
    (he : e ∈ created ++ base) :
    e.isAt x.parent x.name = false ∧ e.parent ≠ x.inode ∧ e.inode ≠ x.inode := by
  induction created' with
  | nil => cases hx
  | cons y created' ih =>
    rcases List.mem_cons.1 hx with rfl | hx
    · have hmem : e ∈ created' ++ created ++ base := by
        rw [List.append_assoc]
        exact List.mem_append_right _ he
      exact ⟨h.1.free e hmem, h.1.empty e hmem, h.1.unused e hmem⟩
    · exact ih h.2 hx

/-- A created entry is found under its name. -/
theorem Stacked.lookup_eq (h : Stacked base created) (hx : x ∈ created) :
    DirTable.lookup (created ++ base) x.parent x.name = some x.inode := by
  induction created with
  | nil => cases hx
  | cons y created ih =>
    rcases List.mem_cons.1 hx with rfl | hx
    · exact lookup_cons_self x _
    · have hnot : y.isAt x.parent x.name = false := by
        rw [Bool.eq_false_iff, ne_eq, DirEntry.isAt_comm, ← ne_eq, ← Bool.eq_false_iff]
        exact h.1.free x (List.mem_append_left _ hx)
      rw [List.cons_append, lookup_cons_of_not hnot]
      exact ih h.2 hx

/-- An entry under the name of a created one is that one. -/
theorem Stacked.eq_of_isAt (h : Stacked base created) (hx : x ∈ created) (he : e ∈ created ++ base)
    (hat : e.isAt x.parent x.name = true) : e = x := by
  induction created with
  | nil => cases hx
  | cons y created ih =>
    rw [List.cons_append] at he
    rcases List.mem_cons.1 hx with rfl | hx' <;> rcases List.mem_cons.1 he with rfl | he'
    · rfl
    · rw [h.1.free e he'] at hat
      cases hat
    · rw [DirEntry.isAt_comm, h.1.free x (List.mem_append_left _ hx')] at hat
      cases hat
    · exact ih h.2 hx' he'

/-- No created directory holds itself. -/
theorem Stacked.own (h : Stacked base created) (hx : x ∈ created) : x.parent ≠ x.inode := by
  induction created with
  | nil => cases hx
  | cons y created ih =>
    rcases List.mem_cons.1 hx with rfl | hx
    · exact h.1.own
    · exact ih h.2 hx

/-- Each created entry leads to an object of its own. -/
theorem Stacked.eq_of_inode (h : Stacked base created) (hx : x ∈ created) (he : e ∈ created)
    (heq : e.inode = x.inode) : e = x := by
  induction created with
  | nil => cases hx
  | cons y created ih =>
    rcases List.mem_cons.1 hx with rfl | hx' <;> rcases List.mem_cons.1 he with rfl | he'
    · rfl
    · exact absurd heq (h.1.unused e (List.mem_append_left _ he'))
    · exact absurd heq.symm (h.1.unused x (List.mem_append_left _ hx'))
    · exact ih h.2 hx' he'

/-- The newest entry can be taken away. -/
theorem Stacked.remove_newest (h : Stacked base (x :: created)) :
    DirTable.remove (x :: created ++ base) x.parent x.name = created ++ base := by
  rw [remove, List.cons_append, List.filter_cons_of_neg (by simp [x.isAt_self]),
    List.filter_eq_self]
  intro e he
  rw [h.1.free e he]
  rfl

/-- The newest directory is empty. -/
theorem Stacked.isEmptyAt_newest (h : Stacked base (x :: created)) :
    DirTable.isEmptyAt (x :: created ++ base) x.inode = true := by
  rw [isEmptyAt_iff, List.cons_append, List.forall_mem_cons]
  exact ⟨h.1.own, h.1.empty⟩

/-- What a created directory holds was created after it. -/
theorem Stacked.mem_of_lookup (h : Stacked base created) (hx : x ∈ created)
    (hl : DirTable.lookup (created ++ base) x.inode name = some inode) :
    ⟨x.inode, name, inode⟩ ∈ created := by
  rcases List.mem_append.1 (DirTable.mem_of_lookup hl) with hmem | hmem
  · exact hmem
  · have hbase : Stacked base (created ++ []) := by rwa [List.append_nil]
    exact absurd rfl (hbase.fresh_of_append hx (by simpa using hmem)).2.1

end DirTable

end Kit
