import ProofFlow.DecimalText
import ProofFlow.Recovery

/-!
# Canonical JSON of documents

A document is built from `None`, booleans, integers, strings, lists and dictionaries with string
keys.  Documents are compared as Python compares dictionaries, without regard to the order of the
keys.  Two documents have one canonical JSON exactly if they are equal, and the canonical JSON is
read back as the canonical structure.
-/

namespace ProofFlow

open Kit

/-! ## The first characters of a canonical text -/

section Detection

theorem encodeChar_ne_zero {c : Char} (h : c.toNat ≠ 0) :
    ∃ x rest, String.utf8EncodeChar c = x :: rest ∧ x ≠ 0 := by
  have hv : c.val.toNat = c.toNat := rfl
  have hne {n : ℕ} (hn : n ≠ 0) (hn' : n < 256) : UInt8.ofNat n ≠ 0 := by
    intro heq
    have hnat := congrArg UInt8.toNat heq
    rw [UInt8.toNat_ofNat_of_lt' hn'] at hnat
    exact hn hnat
  unfold String.utf8EncodeChar
  simp only [hv]
  split_ifs with h1 h2 h3
  · exact ⟨_, _, rfl, hne h (by omega)⟩
  · exact ⟨_, _, rfl, hne (by omega) (by omega)⟩
  · exact ⟨_, _, rfl, hne (by omega) (by omega)⟩
  · exact ⟨_, _, rfl, hne (by omega) (by omega)⟩

/-- A text whose encoding is detected: its first character is ASCII, and its first two are not
NUL. -/
structure Detectable (s : Str) : Prop where
  head : ∃ a rest, s = a :: rest ∧ 0 < a.toNat ∧ a.toNat < 0x80
  second : ∀ b ∈ s.tail.head?, b.toNat ≠ 0

theorem Detectable.decode {s : Str} (h : Detectable s) :
    decodeDetected (encodeUtf8 s) = some (toPyStr s) := by
  obtain ⟨a, rest, rfl, ha⟩ := h.head
  obtain ⟨x, hx, hx0, hx1⟩ := encodeChar_ascii ha
  have hbytes : encodeUtf8 (a :: rest) = x :: encodeUtf8 rest := by
    simp [encodeUtf8, hx]
  have hdecode : decodeUtf8 .start [] (x :: encodeUtf8 rest) = some (toPyStr (a :: rest)) := by
    rw [← hbytes, decodeUtf8_encodeUtf8]
    rfl
  have hsecond : ∀ y ∈ (encodeUtf8 rest).head?, y ≠ 0 := by
    cases rest with
    | nil => simp [encodeUtf8]
    | cons b rest =>
      obtain ⟨y, tail, hy, hy0⟩ := encodeChar_ne_zero (h.second b (by simp))
      simp [encodeUtf8, hy, hy0]
  rw [hbytes]
  generalize encodeUtf8 rest = tail at hdecode hsecond
  have hx0' : x ≠ 0 := by
    rintro rfl
    exact absurd hx0 (by decide)
  have hbom {c : UInt8} {bom : Bytes} (hc : x ≠ c) :
      ¬ startsWith (x :: tail) (c :: bom) = true := by
    simp only [startsWith, List.isPrefixOf, Bool.and_eq_true, beq_iff_eq]
    exact fun h => hc h.1.symm
  have hascii {c : UInt8} (hc : 0x80 ≤ c.toNat) : x ≠ c := by
    rintro rfl
    exact absurd hx1 (Nat.not_lt.2 hc)
  unfold decodeDetected
  rw [if_neg (hbom hx0'), if_neg (hbom (hascii (by decide))), if_neg (hbom (hascii (by decide))),
    if_neg (hbom (hascii (by decide))), if_neg (hbom (hascii (by decide)))]
  rcases tail with _ | ⟨y, _ | ⟨z, _ | ⟨w, tail⟩⟩⟩
  · exact hdecode
  · simp only [if_neg hx0', if_neg (hsecond y (by simp))]
    exact hdecode
  · exact hdecode
  · simp only [if_neg hx0', if_neg (hsecond y (by simp))]
    exact hdecode

theorem escapeChar_ne_nul {c d : Char} (h : d ∈ escapeChar c) : d.toNat ≠ 0 := by
  have hhex : ∀ n, n < 16 → (hexDigit n).toNat ≠ 0 := by
    have checked : ∀ k : Fin 16, (hexDigit k).toNat ≠ 0 := by decide
    exact fun n hn => checked ⟨n, hn⟩
  unfold escapeChar at h
  split at h
  all_goals try
    simp only [List.mem_cons, List.not_mem_nil, or_false] at h
    rcases h with rfl | rfl <;> decide
  split_ifs at h with hlt
  · simp only [List.mem_cons, List.not_mem_nil, or_false] at h
    rcases h with rfl | rfl | rfl | rfl | rfl | rfl
    · decide
    · decide
    · decide
    · decide
    · exact hhex _ (by omega)
    · exact hhex _ (by omega)
  · rw [List.mem_singleton.1 h]
    omega

theorem dumpInt_ne_nul {n : ℤ} {d : Char} (h : d ∈ dumpInt n) : d.toNat ≠ 0 := by
  have hdigit : ∀ d ∈ decimalText n.natAbs, d.toNat ≠ 0 := by
    intro d hd
    have hrange := isDigit_of_mem_decimalText hd
    simp only [isDigit, Bool.and_eq_true, decide_eq_true_eq] at hrange
    omega
  unfold dumpInt at h
  split_ifs at h
  · rcases List.mem_cons.1 h with rfl | h
    · decide
    · exact hdigit d h
  · exact hdigit d h

/-- The first character of a canonical text. -/
theorem head_render (c : Canon) (level : ℕ) :
    ∃ a rest, c.render .compact level = a :: rest ∧ 0 < a.toNat ∧ a.toNat < 0x80 := by
  cases c with
  | null => exact ⟨'n', _, rfl, by decide⟩
  | bool b => cases b <;> exact ⟨_, _, rfl, by decide⟩
  | int n =>
    obtain ⟨a, rest, h⟩ : ∃ a rest, dumpInt n = a :: rest := by
      refine List.exists_cons_of_ne_nil ?_
      unfold dumpInt
      split_ifs <;> simp [decimalText_ne_nil]
    have hmem : a ∈ dumpInt n := h ▸ List.mem_cons_self
    refine ⟨a, rest, h, Nat.pos_of_ne_zero (dumpInt_ne_nul hmem), ?_⟩
    rw [dumpInt_eq, List.mem_append] at hmem
    rcases hmem with hmem | hmem
    · unfold signText at hmem
      split_ifs at hmem
      · rw [List.mem_singleton.1 hmem]
        decide
      · cases hmem
    · have hrange := isDigit_of_mem_decimalText hmem
      simp only [isDigit, Bool.and_eq_true, decide_eq_true_eq] at hrange
      omega
  | str s => exact ⟨'"', _, rfl, by decide⟩
  | arr items =>
    simp only [Canon.render, Layout.enclose]
    split_ifs <;> exact ⟨'[', _, rfl, by decide⟩
  | obj members =>
    simp only [Canon.render, Layout.enclose]
    split_ifs <;> exact ⟨'{', _, rfl, by decide⟩

theorem detectable_dumps (c : Canon) : Detectable c.dumps := by
  refine ⟨head_render c 0, ?_⟩
  cases c with
  | null =>
    intro b hb
    obtain rfl : 'u' = b := Option.some.inj hb
    decide
  | bool v =>
    intro b hb
    cases v with
    | true =>
      obtain rfl : 'r' = b := Option.some.inj hb
      decide
    | false =>
      obtain rfl : 'a' = b := Option.some.inj hb
      decide
  | int n =>
    intro b hb
    exact dumpInt_ne_nul (List.mem_of_mem_tail (List.mem_of_mem_head? hb))
  | str s =>
    intro b hb
    have hmem : b ∈ s.flatMap escapeChar ++ ['"'] := List.mem_of_mem_head? hb
    rcases List.mem_append.1 hmem with hmem | hmem
    · obtain ⟨c, -, hc⟩ := List.mem_flatMap.1 hmem
      exact escapeChar_ne_nul hc
    · rw [List.mem_singleton.1 hmem]
      decide
  | arr items =>
    simp only [Canon.dumps, Canon.render, Layout.enclose, renderItems_eq]
    cases items with
    | nil =>
      intro b hb
      obtain rfl : ']' = b := Option.some.inj hb
      decide
    | cons v l =>
      obtain ⟨a, rest, hv, ha, -⟩ := head_render v 1
      intro b hb
      have hne : (v :: l).map (Canon.render .compact 1) ≠ [] := by simp
      rw [if_neg hne, List.tail_cons] at hb
      cases l with
      | nil => simp_all [joinWith, Layout.compact]; omega
      | cons w l => simp_all [joinWith, Layout.compact]; omega
  | obj members =>
    obtain ⟨c, s, hdumps, hc⟩ := dumps_obj members
    rw [hdumps]
    intro b hb
    obtain rfl : c = b := by simpa using hb
    rcases hc with rfl | rfl <;> decide

/-- `json.loads` inverts `canonical_json`. -/
theorem jsonLoads_canonical {limit : ℕ} {c : Canon} (h : c.readable limit = true) :
    jsonLoads limit (canonicalJson c) = .ok c.loaded := by
  have hb : decodeDetected (canonicalJson c) = some (toPyStr (c.dumps ++ [])) := by
    rw [List.append_nil]
    exact (detectable_dumps c).decode
  exact jsonLoads_of_reads hb (Canon.reads_render Layout.blank_compact c limit 0 h)
    (by simp [IsBlank])

end Detection

/-! ## Documents -/

mutual

/-- A value built from `None`, booleans, integers, strings, lists and dictionaries. -/
def Value.IsDocument : Value → Prop
  | .null => True
  | .bool _ => True
  | .int _ => True
  | .str _ => True
  | .arr items => ItemsAreDocuments items
  | .obj members => (members.map Prod.fst).Nodup ∧ MembersAreDocuments members
  | _ => False

def ItemsAreDocuments : List Value → Prop
  | [] => True
  | v :: l => v.IsDocument ∧ ItemsAreDocuments l

def MembersAreDocuments : List (Str × Value) → Prop
  | [] => True
  | (_, v) :: l => v.IsDocument ∧ MembersAreDocuments l

end

mutual

/-- The same document up to the order of keys. -/
def Value.Same : Value → Value → Prop
  | .arr items, v => ∃ items', v = .arr items' ∧ ItemsSame items items'
  | .obj members, v =>
    ∃ members', v = .obj members' ∧ members.length = members'.length ∧ MembersSame members members'
  | u, v => v = u

def ItemsSame : List Value → List Value → Prop
  | [], l' => l' = []
  | u :: l, l' => ∃ v rest, l' = v :: rest ∧ u.Same v ∧ ItemsSame l rest

/-- Every member is in the second list too. -/
def MembersSame : List (Str × Value) → List (Str × Value) → Prop
  | [], _ => True
  | (k, u) :: l, l' => (∃ v, (k, v) ∈ l' ∧ u.Same v) ∧ MembersSame l l'

end

theorem membersAreDocuments_iff {l : List (Str × Value)} :
    MembersAreDocuments l ↔ ∀ m ∈ l, m.2.IsDocument := by
  induction l with
  | nil => simp [MembersAreDocuments]
  | cons m l ih => simp [MembersAreDocuments, ih]

theorem canonicalizeMembers_nil (members : List (Str × Value)) :
    canonicalizeMembers [] members = members.map fun m => (m.1, canonicalize [] m.2) := by
  rw [canonicalizeMembers_eq, List.filter_eq_self.2 (by simp)]

mutual

/-- Every document has a canonical form. -/
theorem exists_canonicalize : (v : Value) → v.IsDocument → ∃ c, canonicalize [] v = .ok c
  | .null, _ => ⟨_, rfl⟩
  | .bool _, _ => ⟨_, rfl⟩
  | .int _, _ => ⟨_, rfl⟩
  | .str _, _ => ⟨_, rfl⟩
  | .arr items, h => by
    obtain ⟨cs, hcs⟩ := exists_canonicalizeItems items h
    refine ⟨.arr cs, ?_⟩
    rw [canonicalize, hcs]
    rfl
  | .obj members, h => by
    obtain ⟨cs, hcs⟩ := exists_canonicalizeMembers members h.2
    refine ⟨.obj (sortMembers cs), canonicalize_obj_eq_ok.2 ⟨_, rfl, ?_⟩⟩
    rw [hcs, sortMembers_map]

theorem exists_canonicalizeItems : (l : List Value) → ItemsAreDocuments l →
    ∃ cs, canonicalizeItems [] l = .ok cs
  | [], _ => ⟨[], rfl⟩
  | v :: l, h => by
    obtain ⟨c, hc⟩ := exists_canonicalize v h.1
    obtain ⟨cs, hcs⟩ := exists_canonicalizeItems l h.2
    refine ⟨c :: cs, ?_⟩
    rw [canonicalizeItems, hc, hcs]
    rfl

theorem exists_canonicalizeMembers : (l : List (Str × Value)) → MembersAreDocuments l →
    ∃ cs : List (Str × Canon), canonicalizeMembers [] l = cs.map fun m => (m.1, .ok m.2)
  | [], _ => ⟨[], rfl⟩
  | (k, v) :: l, h => by
    obtain ⟨c, hc⟩ := exists_canonicalize v h.1
    obtain ⟨cs, hcs⟩ := exists_canonicalizeMembers l h.2
    refine ⟨(k, c) :: cs, ?_⟩
    rw [canonicalizeMembers, if_neg (by simp), hc, hcs]
    rfl

end

/-- What a document with the canonical form looks like. -/
def FormOf : Canon → Value → Prop
  | .null, v => v = .null
  | .bool b, v => v = .bool b
  | .int n, v => v = .int n
  | .str s, v => v = .str s
  | .arr cs, v => ∃ items, v = .arr items ∧ canonicalizeItems [] items = .ok cs
  | .obj cs, v => ∃ members, v = .obj members ∧
      sortMembers (canonicalizeMembers [] members) = cs.map fun m => (m.1, .ok m.2)

theorem formOf_of_canonicalize {v : Value} {c : Canon} (hv : v.IsDocument)
    (h : canonicalize [] v = .ok c) : FormOf c v := by
  cases v with
  | null => obtain rfl := Except.ok.inj h; rfl
  | bool b => obtain rfl := Except.ok.inj h; rfl
  | int n => obtain rfl := Except.ok.inj h; rfl
  | str s => obtain rfl := Except.ok.inj h; rfl
  | arr items =>
    simp only [canonicalize, bind_eq_ok, pure, Except.pure, Except.ok.injEq] at h
    obtain ⟨cs, hcs, rfl⟩ := h
    exact ⟨items, rfl, hcs⟩
  | obj members =>
    obtain ⟨cs, rfl, hcs⟩ := canonicalize_obj_eq_ok.1 h
    exact ⟨members, rfl, hcs⟩
  | float => exact hv.elim
  | unencodable => exact hv.elim
  | decimal d => exact hv.elim
  | datetime t => exact hv.elim
  | date d => exact hv.elim
  | bytes b => exact hv.elim

mutual

/-- Documents with one canonical form are the same. -/
theorem same_of_canonicalize : (u v : Value) → u.IsDocument → v.IsDocument →
    canonicalize [] u = canonicalize [] v → u.Same v
  | .null, v, _, hv, h => formOf_of_canonicalize (c := .null) hv h.symm
  | .bool b, v, _, hv, h => formOf_of_canonicalize (c := .bool b) hv h.symm
  | .int n, v, _, hv, h => formOf_of_canonicalize (c := .int n) hv h.symm
  | .str s, v, _, hv, h => formOf_of_canonicalize (c := .str s) hv h.symm
  | .arr items, v, hu, hv, h => by
    obtain ⟨cs, hcs⟩ := exists_canonicalizeItems items hu
    have hform : canonicalize [] (.arr items) = .ok (.arr cs) := by
      rw [canonicalize, hcs]
      rfl
    obtain ⟨items', rfl, hitems'⟩ := formOf_of_canonicalize hv (h ▸ hform)
    exact ⟨items', rfl, itemsSame_of_canonicalize items items' hu hv (hcs.trans hitems'.symm)⟩
  | .obj members, v, hu, hv, h => by
    obtain ⟨c, hc⟩ := exists_canonicalize (.obj members) hu
    obtain ⟨cs, rfl, hcs⟩ := canonicalize_obj_eq_ok.1 hc
    obtain ⟨members', rfl, hmembers'⟩ := formOf_of_canonicalize hv (h ▸ hc)
    have hperm : (canonicalizeMembers [] members).Perm (canonicalizeMembers [] members') :=
      calc (canonicalizeMembers [] members).Perm (sortMembers (canonicalizeMembers [] members)) :=
            (List.perm_insertionSort _ _).symm
        _ = sortMembers (canonicalizeMembers [] members') := hcs.trans hmembers'.symm
        (sortMembers (canonicalizeMembers [] members')).Perm (canonicalizeMembers [] members') :=
            List.perm_insertionSort _ _
    rw [canonicalizeMembers_nil, canonicalizeMembers_nil] at hperm
    refine ⟨members', rfl, by simpa using hperm.length_eq, ?_⟩
    refine membersSame_of_canonicalize members members' hu.2 hv.2 fun m hm => ?_
    have hmem := hperm.subset (List.mem_map_of_mem hm)
    obtain ⟨⟨k, v⟩, hv, heq⟩ := List.mem_map.1 hmem
    obtain ⟨rfl, hvalue⟩ := Prod.mk.inj heq
    exact ⟨v, hv, hvalue.symm⟩

theorem itemsSame_of_canonicalize : (l l' : List Value) → ItemsAreDocuments l →
    ItemsAreDocuments l' → canonicalizeItems [] l = canonicalizeItems [] l' → ItemsSame l l'
  | [], [], _, _, _ => rfl
  | [], v :: l', _, h', h => by
    obtain ⟨c, hc⟩ := exists_canonicalize v h'.1
    obtain ⟨cs, hcs⟩ := exists_canonicalizeItems l' h'.2
    rw [canonicalizeItems, canonicalizeItems, hc, hcs] at h
    cases h
  | u :: l, l', hu, h', h => by
    obtain ⟨c, hc⟩ := exists_canonicalize u hu.1
    obtain ⟨cs, hcs⟩ := exists_canonicalizeItems l hu.2
    rw [canonicalizeItems, hc, hcs] at h
    cases l' with
    | nil => cases h
    | cons v l' =>
      obtain ⟨d, hd⟩ := exists_canonicalize v h'.1
      obtain ⟨ds, hds⟩ := exists_canonicalizeItems l' h'.2
      rw [canonicalizeItems, hd, hds] at h
      obtain ⟨rfl, rfl⟩ := List.cons.inj (Except.ok.inj h)
      exact ⟨v, l', rfl, same_of_canonicalize u v hu.1 h'.1 (hc.trans hd.symm),
        itemsSame_of_canonicalize l l' hu.2 h'.2 (hcs.trans hds.symm)⟩

theorem membersSame_of_canonicalize : (l l' : List (Str × Value)) → MembersAreDocuments l →
    MembersAreDocuments l' →
    (∀ m ∈ l, ∃ v, (m.1, v) ∈ l' ∧ canonicalize [] m.2 = canonicalize [] v) → MembersSame l l'
  | [], _, _, _, _ => trivial
  | (k, u) :: l, l', hu, h', h => by
    obtain ⟨hfirst, hrest⟩ := List.forall_mem_cons.1 h
    obtain ⟨v, hv, hcanonical⟩ := hfirst
    have hdocument := membersAreDocuments_iff.1 h' (k, v) hv
    exact ⟨⟨v, hv, same_of_canonicalize u v hu.1 hdocument hcanonical⟩,
      membersSame_of_canonicalize l l' hu.2 h' hrest⟩

end

/-- The order of members with distinct keys is lost when they are sorted. -/
theorem sortMembers_eq_of_perm {α : Type} {l l' : List (Str × α)} (h : l.Perm l')
    (hnodup : (l.map Prod.fst).Nodup) : sortMembers l = sortMembers l' := by
  have hperm : (sortMembers l).Perm (sortMembers l') :=
    (List.perm_insertionSort _ l).trans (h.trans (List.perm_insertionSort _ l').symm)
  have hkeys : ((sortMembers l).map Prod.fst).Nodup :=
    ((List.perm_insertionSort _ l).map Prod.fst).nodup_iff.2 hnodup
  refine hperm.eq_of_pairwise ?_ (pairwise_sortMembers l) (pairwise_sortMembers l')
  intro a b ha hb hab hba
  exact List.inj_on_of_nodup_map hkeys ha (hperm.symm.subset hb) (le_antisymm hab hba)

mutual

/-- The same documents have one canonical form. -/
theorem Value.Same.canonicalize_eq : (u v : Value) → u.IsDocument → v.IsDocument → u.Same v →
    canonicalize [] u = canonicalize [] v
  | .null, v, _, _, h => congrArg (canonicalize []) h.symm
  | .bool _, v, _, _, h => congrArg (canonicalize []) h.symm
  | .int _, v, _, _, h => congrArg (canonicalize []) h.symm
  | .str _, v, _, _, h => congrArg (canonicalize []) h.symm
  | .arr items, v, hu, hv, h => by
    obtain ⟨items', rfl, hitems⟩ := h
    rw [canonicalize, canonicalize, ItemsSame.canonicalize_eq items items' hu hv hitems]
  | .obj members, v, hu, hv, h => by
    obtain ⟨members', rfl, hlength, hmembers⟩ := h
    have hkeys (l : List (Str × Value)) :
        (canonicalizeMembers [] l).map Prod.fst = l.map Prod.fst := by
      rw [canonicalizeMembers_nil, List.map_map]
      rfl
    have hnodup : ((canonicalizeMembers [] members).map Prod.fst).Nodup := hkeys members ▸ hu.1
    have hsubset := MembersSame.canonicalize_mem members members' hu.2 hv.2 hmembers
    have hperm : (canonicalizeMembers [] members).Perm (canonicalizeMembers [] members') := by
      refine (List.Nodup.of_map _ hnodup).subperm hsubset |>.perm_of_length_le ?_
      rw [canonicalizeMembers_nil, canonicalizeMembers_nil, List.length_map, List.length_map,
        hlength]
    simp only [canonicalize, sortMembers_eq_of_perm hperm hnodup]

theorem ItemsSame.canonicalize_eq : (l l' : List Value) → ItemsAreDocuments l →
    ItemsAreDocuments l' → ItemsSame l l' → canonicalizeItems [] l = canonicalizeItems [] l'
  | [], l', _, _, h => congrArg (canonicalizeItems []) h.symm
  | u :: l, l', hu, h', h => by
    obtain ⟨v, rest, rfl, hv, hrest⟩ := h
    rw [canonicalizeItems, canonicalizeItems, Value.Same.canonicalize_eq u v hu.1 h'.1 hv,
      ItemsSame.canonicalize_eq l rest hu.2 h'.2 hrest]

theorem MembersSame.canonicalize_mem : (l l' : List (Str × Value)) → MembersAreDocuments l →
    MembersAreDocuments l' → MembersSame l l' → canonicalizeMembers [] l ⊆ canonicalizeMembers [] l'
  | [], _, _, _, _ => List.nil_subset _
  | (k, u) :: l, l', hu, h', h => by
    obtain ⟨⟨v, hv, huv⟩, hrest⟩ := h
    have hdocument := membersAreDocuments_iff.1 h' (k, v) hv
    rw [canonicalizeMembers, if_neg (by simp)]
    refine List.cons_subset.2 ⟨?_, MembersSame.canonicalize_mem l l' hu.2 h' hrest⟩
    rw [Value.Same.canonicalize_eq u v hu.1 hdocument huv, canonicalizeMembers_nil]
    exact List.mem_map.2 ⟨(k, v), hv, rfl⟩

end

/-! ## What is read back -/

mutual

/-- A canonical structure as a Python value. -/
def Canon.value : Canon → Value
  | .null => .null
  | .bool b => .bool b
  | .int n => .int n
  | .str s => .str s
  | .arr items => .arr (itemValues items)
  | .obj members => .obj (memberValues members)

def itemValues : List Canon → List Value
  | [] => []
  | c :: l => c.value :: itemValues l

def memberValues : List (Str × Canon) → List (Str × Value)
  | [] => []
  | (k, c) :: l => (k, c.value) :: memberValues l

end

mutual

/-- What `json.loads` returns as a Python value. -/
def Value.ofJson : Json Str → Value
  | .null => .null
  | .bool b => .bool b
  | .int n => .int n
  | .float _ => .float
  | .constant _ => .float
  | .str s => .str s
  | .arr items => .arr (valuesOfJson items)
  | .obj members => .obj (membersOfJson members)

def valuesOfJson : List (Json Str) → List Value
  | [] => []
  | v :: l => Value.ofJson v :: valuesOfJson l

def membersOfJson : List (Str × Json Str) → List (Str × Value)
  | [] => []
  | (k, v) :: l => (k, Value.ofJson v) :: membersOfJson l

end

mutual

/-- The integers of a structure are short enough to be written: `int.__repr__` has a limit. -/
def Canon.printable : Canon → Bool
  | .int n => decide ((decimalText n.natAbs).length ≤ maxStrDigits)
  | .arr items => itemsPrintable items
  | .obj members => membersPrintable members
  | _ => true

def itemsPrintable : List Canon → Bool
  | [] => true
  | c :: l => c.printable && itemsPrintable l

def membersPrintable : List (Str × Canon) → Bool
  | [] => true
  | (_, c) :: l => c.printable && membersPrintable l

end

/-- `canonical_json(value)`. -/
def canonicalJsonOf (v : Value) : Except Fault Bytes := do
  let c ← canonicalize [] v
  if c.printable then pure (canonicalJson c) else .error .valueError

mutual

theorem Canon.printable_of_readable {depth : ℕ} : (c : Canon) → c.readable depth = true →
    c.printable = true
  | .null, _ => rfl
  | .bool _, _ => rfl
  | .int _, h => h
  | .str _, _ => rfl
  | .arr items, h => by
    simp only [Canon.readable, Bool.and_eq_true] at h
    exact itemsPrintable_of_readable items h.2
  | .obj members, h => by
    simp only [Canon.readable, Bool.and_eq_true] at h
    exact membersPrintable_of_readable members h.2

theorem itemsPrintable_of_readable {depth : ℕ} : (l : List Canon) → itemsReadable depth l = true →
    itemsPrintable l = true
  | [], _ => rfl
  | c :: l, h => by
    simp only [itemsReadable, Bool.and_eq_true] at h
    simp only [itemsPrintable, Bool.and_eq_true]
    exact ⟨c.printable_of_readable h.1, itemsPrintable_of_readable l h.2⟩

theorem membersPrintable_of_readable {depth : ℕ} : (l : List (Str × Canon)) →
    membersReadable depth l = true → membersPrintable l = true
  | [], _ => rfl
  | (_, c) :: l, h => by
    simp only [membersReadable, Bool.and_eq_true] at h
    simp only [membersPrintable, Bool.and_eq_true]
    exact ⟨c.printable_of_readable h.1, membersPrintable_of_readable l h.2⟩

end

mutual

/-- A structure in order is its own canonical form. -/
theorem canonicalize_value : (c : Canon) → c.Ordered → canonicalize [] c.value = .ok c
  | .null, _ => rfl
  | .bool _, _ => rfl
  | .int _, _ => rfl
  | .str _, _ => rfl
  | .arr items, h => by
    rw [Canon.value, canonicalize, canonicalizeItems_values items h]
    rfl
  | .obj members, h => by
    refine canonicalize_obj_eq_ok.2 ⟨members, rfl, ?_⟩
    rw [canonicalizeMembers_values members h.2]
    exact sortMembers_of_pairwise (List.pairwise_map.2 h.1)

theorem canonicalizeItems_values : (l : List Canon) → ItemsOrdered l →
    canonicalizeItems [] (itemValues l) = .ok l
  | [], _ => rfl
  | c :: l, h => by
    rw [itemValues, canonicalizeItems, canonicalize_value c h.1, canonicalizeItems_values l h.2]
    rfl

theorem canonicalizeMembers_values : (l : List (Str × Canon)) → MembersOrdered l →
    canonicalizeMembers [] (memberValues l) = l.map fun m => (m.1, .ok m.2)
  | [], _ => rfl
  | (k, c) :: l, h => by
    rw [memberValues, canonicalizeMembers, if_neg (by simp), canonicalize_value c h.1,
      canonicalizeMembers_values l h.2]
    rfl

end

mutual

/-- A structure in order is read back as it stands. -/
theorem ofJson_parsed : (c : Canon) → c.Ordered → Value.ofJson c.parsed = c.value
  | .null, _ => rfl
  | .bool _, _ => rfl
  | .int _, _ => rfl
  | .str _, _ => rfl
  | .arr items, h => by
    simp only [Canon.parsed, Value.ofJson, Canon.value, valuesOfJson_parsed items h]
  | .obj members, h => by
    have hsorted : sortMembers (parsedMembers members) = parsedMembers members := by
      rw [parsedMembers_eq]
      exact sortMembers_of_pairwise (List.pairwise_map.2 h.1)
    simp only [Canon.parsed, Value.ofJson, Canon.value, hsorted, membersOfJson_parsed members h.2]

theorem valuesOfJson_parsed : (l : List Canon) → ItemsOrdered l →
    valuesOfJson (parsedItems l) = itemValues l
  | [], _ => rfl
  | c :: l, h => by
    rw [parsedItems, valuesOfJson, ofJson_parsed c h.1, valuesOfJson_parsed l h.2, itemValues]

theorem membersOfJson_parsed : (l : List (Str × Canon)) → MembersOrdered l →
    membersOfJson (parsedMembers l) = memberValues l
  | [], _ => rfl
  | (k, c) :: l, h => by
    rw [parsedMembers, membersOfJson, ofJson_parsed c h.1, membersOfJson_parsed l h.2, memberValues]

end

/-! ## The encoding is faithful -/

/-- A document that is written, read back as its canonical structure, and hashed as what is read. -/
structure Rereads (P : Platform) (limit : ℕ) (v : Value) (c : Canon) (bytes : Bytes)
    (json : Json Str) : Prop where
  canonical : canonicalize [] v = .ok c
  idempotent : canonicalize [] c.value = .ok c
  written : canonicalJsonOf v = .ok bytes
  read : (jsonLoads limit bytes).map jiterValue = .ok (some json)
  value_eq : Value.ofJson json = c.value
  digest_eq : sha256Digest P (Value.ofJson json) [] = sha256Digest P v []

section Faithful

variable {limit : ℕ} {v : Value} {c : Canon}

theorem canonicalJsonOf_eq (hc : canonicalize [] v = .ok c) (hlegible : v.legible limit = true) :
    canonicalJsonOf v = .ok (canonicalJson c) := by
  have hreadable := (canonicalize_form [] v c hc limit).readable hlegible
  unfold canonicalJsonOf
  rw [hc, ok_bind, if_pos (c.printable_of_readable hreadable)]
  rfl

theorem rereads (P : Platform) (hc : canonicalize [] v = .ok c)
    (hlegible : v.legible limit = true) :
    Rereads P limit v c (canonicalJson c) c.parsed := by
  obtain ⟨hordered, hreadable⟩ := canonicalize_form [] v c hc limit
  have hagain := canonicalize_value c hordered
  have hvalue := ofJson_parsed c hordered
  refine ⟨hc, hagain, canonicalJsonOf_eq hc hlegible, ?_, hvalue, ?_⟩
  · rw [jsonLoads_canonical (hreadable hlegible), ← c.jiterValue_loaded]
    rfl
  · unfold sha256Digest
    rw [hvalue, hagain, hc]

/-- Canonical JSON determines a structure in order. -/
theorem canonicalJson_injective {c' : Canon} (ho : c.Ordered) (ho' : c'.Ordered)
    (hread : c.readable limit = true) (hread' : c'.readable limit = true)
    (h : canonicalJson c = canonicalJson c') : c = c' := by
  have hloads := jsonLoads_canonical hread
  rw [h, jsonLoads_canonical hread'] at hloads
  exact Canon.loaded_inj c c' ho ho' (Except.ok.inj hloads).symm

/-- Documents are written alike exactly if they are the same up to the order of keys, and what is
written is read back as the canonical structure. -/
theorem canonicalJson_faithful (P : Platform) (limit : ℕ) (a b : Value) (ha : a.IsDocument)
    (hb : b.IsDocument) (hla : a.legible limit = true) (hlb : b.legible limit = true) :
    (canonicalJsonOf a = canonicalJsonOf b ↔ a.Same b) ∧
      ∃ c bytes json, Rereads P limit a c bytes json := by
  obtain ⟨c, hc⟩ := exists_canonicalize a ha
  obtain ⟨d, hd⟩ := exists_canonicalize b hb
  refine ⟨?_, c, _, _, rereads P hc hla⟩
  rw [canonicalJsonOf_eq hc hla, canonicalJsonOf_eq hd hlb, Except.ok.injEq]
  constructor
  · intro h
    obtain ⟨hordered, hreadable⟩ := canonicalize_form [] a c hc limit
    obtain ⟨hordered', hreadable'⟩ := canonicalize_form [] b d hd limit
    obtain rfl := canonicalJson_injective hordered hordered' (hreadable hla) (hreadable' hlb) h
    exact same_of_canonicalize a b ha hb (hc.trans hd.symm)
  · intro h
    have hcanonical := Value.Same.canonicalize_eq a b ha hb h
    rw [hc, hd] at hcanonical
    rw [Except.ok.inj hcanonical]

end Faithful

/-- Two orders of the keys of one document. -/
theorem sample_faithful : ∃ a b : Value, canonicalJsonOf a = canonicalJsonOf b ∧ a.Same b := by
  let inner : Value := .arr [.bool true, .int 1, .null]
  let a : Value := .obj [(lit "a", inner), (lit "b", .str (lit "x"))]
  let b : Value := .obj [(lit "b", .str (lit "x")), (lit "a", inner)]
  have hsame : a.Same b := by
    refine ⟨_, rfl, rfl, ⟨inner, by simp, ?_⟩, ⟨.str (lit "x"), by simp, rfl⟩, trivial⟩
    exact ⟨_, rfl, _, _, rfl, rfl, _, _, rfl, rfl, _, _, rfl, rfl, rfl⟩
  have hinner : inner.IsDocument := ⟨trivial, trivial, trivial, trivial⟩
  have hfaithful := canonicalJson_faithful ⟨fun _ => 0, fun _ _ _ => false, fun _ => none,
    fun _ => none, fun _ => [], 2⟩ 2 a b ⟨by decide, hinner, trivial, trivial⟩
    ⟨by decide, trivial, hinner, trivial⟩ (by decide) (by decide)
  exact ⟨a, b, hfaithful.1.2 hsame, hsame⟩

/-! ## What the interpreter does not write or read -/

/-- Lists in one another. -/
def nested : ℕ → Value
  | 0 => .arr []
  | depth + 1 => .arr [nested depth]

/-- The canonical form of nested lists. -/
def nestedForm : ℕ → Canon
  | 0 => .arr []
  | depth + 1 => .arr [nestedForm depth]

theorem canonicalize_nested (depth : ℕ) :
    canonicalize [] (nested depth) = .ok (nestedForm depth) := by
  induction depth with
  | zero => rfl
  | succ depth ih =>
    simp only [nested, canonicalize, canonicalizeItems, ih]
    rfl

theorem isDocument_nested (depth : ℕ) : (nested depth).IsDocument := by
  induction depth with
  | zero => trivial
  | succ depth ih => exact ⟨ih, trivial⟩

theorem printable_nested (depth : ℕ) : (nestedForm depth).printable = true := by
  induction depth with
  | zero => rfl
  | succ depth ih =>
    simp only [nestedForm, Canon.printable, itemsPrintable, ih]
    rfl

theorem render_nested (depth level : ℕ) :
    ∃ rest, (nestedForm depth).render .compact level = '[' :: rest := by
  cases depth with
  | zero => exact ⟨_, rfl⟩
  | succ depth => exact ⟨_, rfl⟩

theorem render_nested_succ (depth level : ℕ) : (nestedForm (depth + 1)).render .compact level =
    '[' :: ((nestedForm depth).render .compact (level + 1) ++ [']']) := by
  simp only [nestedForm, Canon.render, renderItems, Layout.enclose, joinWith, Layout.compact]
  rw [if_neg (by simp), List.nil_append, List.append_nil]

theorem length_nested (depth level : ℕ) :
    2 * depth < ((nestedForm depth).render .compact level).length := by
  induction depth generalizing level with
  | zero =>
    obtain ⟨rest, hrest⟩ := render_nested 0 level
    simp [hrest]
  | succ depth ih =>
    have hlen := ih (level + 1)
    rw [render_nested_succ, List.length_cons, List.length_append, List.length_singleton]
    omega

/-- Lists nested deeper than the recursion limit are not read. -/
theorem scanValue_nested (depth level : ℕ) (rest : PyStr) {fuel : ℕ} (hfuel : 2 * depth < fuel) :
    scanValue .none fuel depth (toPyStr ((nestedForm depth).render .compact level) ++ rest) =
      .error .recursionError := by
  induction depth generalizing level rest fuel with
  | zero =>
    obtain ⟨tail, htail⟩ := render_nested 0 level
    obtain ⟨fuel, rfl⟩ : ∃ k, fuel = k + 1 := ⟨fuel - 1, by omega⟩
    rw [htail]
    simp [scanValue, toCodePoint]
  | succ depth ih =>
    obtain ⟨fuel, rfl⟩ : ∃ k, fuel = k + 1 + 1 := ⟨fuel - 2, by omega⟩
    obtain ⟨tail, htail⟩ := render_nested depth (level + 1)
    have hitem := ih (level + 1) (toPyStr [']'] ++ rest) (show 2 * depth < fuel by omega)
    rw [render_nested_succ]
    rw [htail] at hitem ⊢
    simp only [toPyStr_cons, toPyStr_append, List.cons_append, List.append_assoc] at hitem ⊢
    simp [scanValue, scanItems, skipWs, toCodePoint] at hitem ⊢
    rw [hitem]

theorem jsonLoads_nested (limit : ℕ) :
    jsonLoads limit (canonicalJson (nestedForm limit)) = .error .recursionError := by
  have hstart : skipWs (toPyStr (nestedForm limit).dumps) = toPyStr (nestedForm limit).dumps := by
    obtain ⟨tail, htail⟩ := render_nested limit 0
    have hdumps : (nestedForm limit).dumps = '[' :: tail := htail
    rw [hdumps]
    simp [skipWs, toCodePoint]
  have hfuel : 2 * limit < 2 * (toPyStr (nestedForm limit).dumps).length + 2 := by
    have hlen : 2 * limit < (nestedForm limit).dumps.length := length_nested limit 0
    rw [length_toPyStr]
    omega
  have hscan := scanValue_nested limit 0 [] hfuel
  rw [List.append_nil] at hscan
  unfold jsonLoads jsonLoadsWith canonicalJson
  rw [(detectable_dumps _).decode]
  simp only [scanDocument, hstart]
  have htext : (nestedForm limit).render .compact 0 = (nestedForm limit).dumps := rfl
  rw [htext] at hscan
  rw [hscan]

theorem canonicalJsonOf_pow {k : ℕ} (h : maxStrDigits ≤ k) :
    canonicalJsonOf (.int (10 ^ k)) = .error .valueError := by
  have hlen : (decimalText ((10 : ℤ) ^ k).natAbs).length = k + 1 := by
    have hdigits := Decimal.digits_mul_pow one_ne_zero k
    rw [one_mul, add_comm] at hdigits
    rw [Int.natAbs_pow]
    exact hdigits
  have hprintable : (Canon.int (10 ^ k)).printable = false := by
    simp only [Canon.printable, hlen, decide_eq_false_iff_not]
    omega
  unfold canonicalJsonOf
  rw [canonicalize, ok_bind, hprintable]
  rfl

/-- An integer of 4301 digits is not written, and whatever the recursion limit some document is not
read back. -/
theorem sample_not_faithful : canonicalJsonOf (.int (10 ^ 4300)) = .error .valueError ∧
    ∀ limit, ∃ v bytes, v.IsDocument ∧ canonicalJsonOf v = .ok bytes ∧
      jsonLoads limit bytes = .error .recursionError := by
  refine ⟨canonicalJsonOf_pow (le_refl _), fun limit => ?_⟩
  refine ⟨nested limit, canonicalJson (nestedForm limit), isDocument_nested limit, ?_,
    jsonLoads_nested limit⟩
  unfold canonicalJsonOf
  rw [canonicalize_nested, ok_bind, if_pos (printable_nested limit)]
  rfl

end ProofFlow
