import ProofFlow.Python.JsonDump

/-!
# Reading the text of a loaded value

`json.loads` reads what `json.dumps` wrote of a value, as long as the `repr` of a float is a numeral
that is read back: the members of an object come in the order of their keys, and a float has the
numeral of its `repr` (`Json.respelled`).
-/

namespace ProofFlow

/-! ## Parts of a value -/

theorem itemsText_iff {l : List (Json PyStr)} : itemsText l = true ↔ ∀ v ∈ l, v.isText = true := by
  induction l with
  | nil => simp [itemsText]
  | cons v l ih => rw [itemsText, Bool.and_eq_true, ih, List.forall_mem_cons]

theorem membersText_iff {l : List (PyStr × Json PyStr)} :
    membersText l = true ↔ ∀ m ∈ l, isText m.1 = true ∧ m.2.isText = true := by
  induction l with
  | nil => simp [membersText]
  | cons m l ih => rw [membersText, Bool.and_eq_true, Bool.and_eq_true, ih, List.forall_mem_cons]

theorem dumpsItems_eq (repr : Str → Str) (l : List (Json PyStr)) :
    dumpsItems repr l = l.map (Json.dumps repr) := by
  induction l with
  | nil => rfl
  | cons v l ih => rw [dumpsItems, ih, List.map_cons]

theorem dumpsMembers_eq (repr : Str → Str) (l : List (PyStr × Json PyStr)) :
    dumpsMembers repr l = l.map fun m => (m.1, m.2.dumps repr) := by
  induction l with
  | nil => rfl
  | cons m l ih => rw [dumpsMembers, ih, List.map_cons]

/-! ## Members by key -/

theorem sortPoints_map {α β : Type} (f : α → β) (l : List (PyStr × α)) :
    sortPoints (l.map fun m => (m.1, f m.2)) = (sortPoints l).map fun m => (m.1, f m.2) :=
  (List.map_insertionSort (r := fun a b : PyStr × α => a.1 ≤ b.1)
    (s := fun a b : PyStr × β => a.1 ≤ b.1) _ _ fun _ _ _ _ => Iff.rfl).symm

theorem mem_sortPoints {α : Type} {l : List (PyStr × α)} {m : PyStr × α} :
    m ∈ sortPoints l ↔ m ∈ l := (List.perm_insertionSort _ l).mem_iff

theorem mem_of_lookup {α : Type} {l : List (PyStr × α)} {k : PyStr} {a : α}
    (h : l.lookup k = some a) :
    (k, a) ∈ l := by
  obtain ⟨before, after, rfl, -⟩ := List.lookup_eq_some_iff.1 h
  simp

/-- Sorting is stable, so that a key still has its first value. -/
theorem lookup_sortPoints {α : Type} (k : PyStr) (l : List (PyStr × α)) :
    (sortPoints l).lookup k = l.lookup k := by
  have hinsert (m : PyStr × α) (l : List (PyStr × α)) :
      (l.orderedInsert (fun a b => a.1 ≤ b.1) m).lookup k = (m :: l).lookup k := by
    induction l with
    | nil => rfl
    | cons b l ih =>
      rw [List.orderedInsert_cons]
      split_ifs with hle
      · rfl
      · rw [List.lookup_cons, ih, List.lookup_cons, List.lookup_cons, List.lookup_cons]
        by_cases hb : k = b.1
        · have hm : (k == m.1) = false := beq_eq_false_iff_ne.2 fun h => hle (by rw [← h, ← hb])
          rw [hm]
        · rw [beq_eq_false_iff_ne.2 hb]
  induction l with
  | nil => rfl
  | cons m l ih =>
    show ((sortPoints l).orderedInsert (fun a b => a.1 ≤ b.1) m).lookup k = _
    rw [hinsert, List.lookup_cons, List.lookup_cons, ih]

/-! ## The value that is read -/

mutual

/-- What `json.loads` reads of the text of a value. -/
def Json.respelled (repr : Str → Str) : Json PyStr → Json PyStr
  | .float numeral => .float (repr numeral)
  | .arr items => .arr (respelledItems repr items)
  | .obj members => .obj (sortPoints (respelledMembers repr members))
  | v => v

def respelledItems (repr : Str → Str) : List (Json PyStr) → List (Json PyStr)
  | [] => []
  | v :: l => v.respelled repr :: respelledItems repr l

def respelledMembers (repr : Str → Str) : List (PyStr × Json PyStr) → List (PyStr × Json PyStr)
  | [] => []
  | (k, v) :: l => (k, v.respelled repr) :: respelledMembers repr l

end

theorem respelledItems_eq (repr : Str → Str) (l : List (Json PyStr)) :
    respelledItems repr l = l.map (Json.respelled repr) := by
  induction l with
  | nil => rfl
  | cons v l ih => rw [respelledItems, ih, List.map_cons]

theorem respelledMembers_eq (repr : Str → Str) (l : List (PyStr × Json PyStr)) :
    respelledMembers repr l = l.map fun m => (m.1, m.2.respelled repr) := by
  induction l with
  | nil => rfl
  | cons m l ih => rw [respelledMembers, ih, List.map_cons]

/-- Objects that are the same, respelled, have the same members, respelled. -/
theorem lookup_eq_of_respelled_eq {repr : Str → Str} {members members' : List (PyStr × Json PyStr)}
    (h : (Json.obj members).respelled repr = (Json.obj members').respelled repr) (k : PyStr) :
    (members.lookup k).map (Json.respelled repr) = (members'.lookup k).map
    (Json.respelled repr) := by
  have hlookup (l : List (PyStr × Json PyStr)) :
      (sortPoints (respelledMembers repr l)).lookup k = (l.lookup k).map (Json.respelled repr) := by
    rw [lookup_sortPoints, respelledMembers_eq]
    induction l with
    | nil => rfl
    | cons m l ih =>
      rw [List.map_cons, List.lookup_cons, List.lookup_cons, ih]
      cases k == m.1 <;> rfl
  rw [Json.respelled, Json.respelled, Json.obj.injEq] at h
  rw [← hlookup, h, hlookup]

/-! ## Texts -/

/-- The characters of a string without surrogates. -/
def textOf (s : PyStr) : Str := (scalars s).getD []

@[simp] theorem textOf_toPyStr (s : Str) : textOf (toPyStr s) = s := by
  rw [textOf, scalars_toPyStr, Option.getD_some]

theorem toPyStr_textOf {s : PyStr} (h : isText s = true) : toPyStr (textOf s) = s := by
  obtain ⟨t, ht⟩ := exists_scalars_iff.2 h
  rw [← scalars_eq_some_iff.1 ht, textOf_toPyStr]

theorem dumpPyString_toPyStr (s : Str) : dumpPyString (toPyStr s) = toPyStr (dumpString s) := by
  have hescape (c : Char) : escapePoint (toCodePoint c) = toPyStr (escapeChar c) := by
    have hvalid : Nat.isValidChar (toCodePoint c).val := c.valid
    have hchar : Char.ofNat (toCodePoint c).val = c := Char.ofNat_toNat c
    rw [escapePoint, if_pos hvalid, hchar]
  have hflat : (toPyStr s).flatMap escapePoint = toPyStr (s.flatMap escapeChar) := by
    induction s with
    | nil => rfl
    | cons c s ih =>
      rw [toPyStr_cons, List.flatMap_cons, ih, hescape, List.flatMap_cons, toPyStr_append]
  rw [dumpPyString, hflat, dumpString, toPyStr_cons, toPyStr_append]
  rfl

theorem joinPoints_toPyStr (l : List Str) :
    joinPoints (l.map toPyStr) = toPyStr (joinWith [] l) := by
  induction l with
  | nil => rfl
  | cons s l ih =>
    cases l with
    | nil => rfl
    | cons t l =>
      rw [joinWith_cons_cons, List.nil_append, toPyStr_append, toPyStr_cons, ← ih]
      simp [joinPoints]

/-! ## Texts of containers -/

variable {depth : ℕ}

/-- A numeral that is read is neither infinite nor no number. -/
theorem dumpFloat_of_reads {repr : Str} {value : Json PyStr} (h : Reads depth repr value) :
    dumpFloat repr = repr := by
  have hscan := h.scans repr.length [] le_rfl (by simp [Stops])
  unfold dumpFloat
  split_ifs with hnan hinf hneg
  · rw [hnan] at hscan
    cases hscan
  · rw [hinf] at hscan
    cases hscan
  · rw [hneg] at hscan
    cases hscan
  · rfl

/-- Items that are read from their texts are read from the array of them. -/
theorem reads_items {l : List (Str × Json PyStr)} (h : ∀ p ∈ l, Reads depth p.1 p.2) :
    Reads (depth + 1) ('[' :: (joinWith [] (l.map Prod.fst) ++ [']'])) (.arr (l.map Prod.snd)) where
  starts := ⟨'[', _, rfl, by decide⟩
  scans := by
    intro fuel rest hfuel _
    have hopen : (toCodePoint '[').val = 91 := rfl
    have hblank : IsBlank [] := fun c hc => absurd hc List.not_mem_nil
    simp only [List.length_cons, List.length_append, List.length_nil] at hfuel
    obtain ⟨fuel, rfl⟩ := Nat.exists_eq_add_of_le' (Nat.le_trans (Nat.le_add_left 1 _) hfuel)
    cases l with
    | nil => rfl
    | cons p l =>
      have hstarts : Starts (joinWith [] ((p :: l).map Prod.fst)) :=
        starts_joinWith (h p (by simp)).starts
      have hscan := scanItems_joinWith hblank hblank (p :: l) (by simp) h fuel [] rest (by omega)
      simp only [toPyStr_cons, toPyStr_append, toPyStr_nil, List.cons_append, List.append_assoc,
        List.nil_append] at hscan ⊢
      unfold scanValue
      rw [if_neg (by decide), if_neg (by decide), if_pos hopen]
      simp only [hstarts.skipWs]
      rw [if_neg (hstarts.head_ne (by decide))]
      exact hscan

/-- The same for the members of an object. -/
theorem reads_members {l : List (Str × Str × Json PyStr)} (h : ∀ p ∈ l, Reads depth p.2.1 p.2.2) :
    Reads (depth + 1) ('{' :: (joinWith [] (l.map fun p => memberText [] (p.1, p.2.1)) ++ ['}']))
      (.obj (l.map fun p => (toPyStr p.1, p.2.2))) where
  starts := ⟨'{', _, rfl, by decide⟩
  scans := by
    intro fuel rest hfuel _
    have hopen : (toCodePoint '{').val = 123 := rfl
    have hblank : IsBlank [] := fun c hc => absurd hc List.not_mem_nil
    simp only [List.length_cons, List.length_append, List.length_nil] at hfuel
    obtain ⟨fuel, rfl⟩ := Nat.exists_eq_add_of_le' (Nat.le_trans (Nat.le_add_left 1 _) hfuel)
    cases l with
    | nil => rfl
    | cons p l =>
      have hstarts : Starts (joinWith [] ((p :: l).map fun p => memberText [] (p.1, p.2.1))) :=
        starts_joinWith ((starts_dumpString _).append _)
      have hscan :=
        scanMembers_joinWith hblank hblank hblank (p :: l) (by simp) h fuel [] rest (by omega)
      simp only [toPyStr_cons, toPyStr_append, toPyStr_nil, List.cons_append, List.append_assoc,
        List.nil_append] at hscan ⊢
      unfold scanValue
      rw [if_neg (by decide), if_pos hopen]
      simp only [hstarts.skipWs]
      rw [if_neg (hstarts.head_ne (by decide))]
      exact hscan

end ProofFlow
