import ProofFlow.Python.JsonText

/-!
# Dictionaries and their texts

What `json.loads` keeps of an object in which a key is repeated, and the text that `json.dumps`
gives of a loaded value with `ensure_ascii=False`: a text in which a surrogate stands exactly if one
stands in a string of the value.
-/

namespace ProofFlow

/-! ## Strings without surrogates -/

/-- The string has no surrogate, so it can be encoded. -/
def isText (s : PyStr) : Bool := s.all fun c => decide (Nat.isValidChar c.val)

@[simp] theorem isText_nil : isText [] = true := rfl

@[simp] theorem isText_cons (c : CodePoint) (s : PyStr) :
    isText (c :: s) = (decide (Nat.isValidChar c.val) && isText s) := rfl

@[simp] theorem isText_append (s t : PyStr) : isText (s ++ t) = (isText s && isText t) :=
  List.all_append

@[simp] theorem isText_toPyStr (s : Str) : isText (toPyStr s) = true := by
  simp only [isText, toPyStr, List.all_map, List.all_eq_true, Function.comp_apply,
    decide_eq_true_eq]
  exact fun c _ => c.valid

theorem scalars_eq_some_iff {s : PyStr} {t : Str} : scalars s = some t ↔ toPyStr t = s := by
  constructor
  · intro h
    induction s generalizing t with
    | nil =>
      cases h
      rfl
    | cons c s ih =>
      simp only [scalars, List.mapM_cons, Option.bind_eq_bind, Option.bind_eq_some_iff,
        Option.pure_def, Option.some.injEq] at h
      obtain ⟨d, hd, u, hu, rfl⟩ := h
      split at hd
      · rename_i hvalid
        obtain rfl := Option.some.inj hd
        have hcode : toCodePoint (Char.ofNat c.val) = c := by
          apply Fin.ext
          rw [toCodePoint_val, Char.ofNat, dif_pos hvalid]
          rfl
        rw [toPyStr_cons, hcode, ih hu]
      · cases hd
  · rintro rfl
    exact scalars_toPyStr t

/-- A string that a model field takes is one without surrogates. -/
theorem exists_scalars_iff {s : PyStr} : (∃ t, scalars s = some t) ↔ isText s = true := by
  constructor
  · rintro ⟨t, ht⟩
    rw [← scalars_eq_some_iff.1 ht, isText_toPyStr]
  · intro h
    simp only [isText, List.all_eq_true, decide_eq_true_eq] at h
    refine ⟨s.map fun c => Char.ofNat c.val, scalars_eq_some_iff.2 ?_⟩
    rw [toPyStr, List.map_map]
    refine (List.map_congr_left fun c hc => ?_).trans (List.map_id s)
    apply Fin.ext
    show (Char.ofNat c.val).toNat = c.val
    rw [Char.ofNat, dif_pos (h c hc)]
    rfl

mutual

/-- No key and no string of the value has a surrogate. -/
def Json.isText : Json PyStr → Bool
  | .str s => ProofFlow.isText s
  | .arr items => itemsText items
  | .obj members => membersText members
  | _ => true

def itemsText : List (Json PyStr) → Bool
  | [] => true
  | v :: l => v.isText && itemsText l

def membersText : List (PyStr × Json PyStr) → Bool
  | [] => true
  | (k, v) :: l => ProofFlow.isText k && v.isText && membersText l

end

/-! ## Dictionaries -/

mutual

/-- The loaded value: in a dictionary the last of equal keys counts. -/
def Json.latest : Json PyStr → Json PyStr
  | .arr items => .arr (latestItems items)
  | .obj members => .obj (latestMembers members)
  | v => v

def latestItems : List (Json PyStr) → List (Json PyStr)
  | [] => []
  | v :: l => v.latest :: latestItems l

def latestMembers : List (PyStr × Json PyStr) → List (PyStr × Json PyStr)
  | [] => []
  | (k, v) :: l =>
    if k ∈ l.map Prod.fst then latestMembers l else (k, v.latest) :: latestMembers l

end

theorem mem_keys_latestMembers {l : List (PyStr × Json PyStr)} {k : PyStr} :
    k ∈ (latestMembers l).map Prod.fst ↔ k ∈ l.map Prod.fst := by
  induction l with
  | nil => rfl
  | cons m l ih =>
    rw [latestMembers]
    split
    · rename_i hmem
      rw [ih, List.map_cons, List.mem_cons]
      refine ⟨.inr, fun h => h.elim (fun heq => ?_) id⟩
      rw [heq]
      exact hmem
    · rw [List.map_cons, List.map_cons, List.mem_cons, List.mem_cons, ih]

/-- A dictionary has each key once. -/
theorem nodup_keys_latestMembers (l : List (PyStr × Json PyStr)) :
    ((latestMembers l).map Prod.fst).Nodup := by
  induction l with
  | nil => exact List.nodup_nil
  | cons m l ih =>
    rw [latestMembers]
    split
    · exact ih
    · rename_i hmem
      exact List.nodup_cons.2 ⟨mt mem_keys_latestMembers.1 hmem, ih⟩

/-! ## Texts -/

/-- One code point of a string of `json.dumps(..., ensure_ascii=False)`. -/
def escapePoint (c : CodePoint) : PyStr :=
  if Nat.isValidChar c.val then toPyStr (escapeChar (Char.ofNat c.val)) else [c]

def dumpPyString (s : PyStr) : PyStr := toPyStr ['"'] ++ s.flatMap escapePoint ++ toPyStr ['"']

/-- `json.dumps` of a float with the given `repr`. -/
def dumpFloat (repr : Str) : Str :=
  if repr = lit "nan" then lit "NaN"
  else if repr = lit "inf" then lit "Infinity"
  else if repr = lit "-inf" then lit "-Infinity"
  else repr

/-- Texts joined by commas. -/
def joinPoints : List PyStr → PyStr
  | [] => []
  | [s] => s
  | s :: l => s ++ toPyStr [','] ++ joinPoints l

/-- The members of a dictionary by key. -/
def sortPoints {α : Type} (l : List (PyStr × α)) : List (PyStr × α) :=
  l.insertionSort fun a b => a.1 ≤ b.1

mutual

/-- `json.dumps(value, ensure_ascii=False, sort_keys=True, separators=(",", ":"))` of a loaded
value; `repr` gives the text of the float that a numeral denotes. -/
def Json.dumps (repr : Str → Str) : Json PyStr → PyStr
  | .null => toPyStr (lit "null")
  | .bool true => toPyStr (lit "true")
  | .bool false => toPyStr (lit "false")
  | .int n => toPyStr (dumpInt n)
  | .float numeral => toPyStr (dumpFloat (repr numeral))
  | .constant name => toPyStr name
  | .str s => dumpPyString s
  | .arr items => toPyStr ['['] ++ joinPoints (dumpsItems repr items) ++ toPyStr [']']
  | .obj members =>
    toPyStr ['{'] ++ joinPoints ((sortPoints (dumpsMembers repr members)).map fun m =>
      dumpPyString m.1 ++ toPyStr [':'] ++ m.2) ++ toPyStr ['}']

def dumpsItems (repr : Str → Str) : List (Json PyStr) → List PyStr
  | [] => []
  | v :: l => v.dumps repr :: dumpsItems repr l

def dumpsMembers (repr : Str → Str) : List (PyStr × Json PyStr) → List (PyStr × PyStr)
  | [] => []
  | (k, v) :: l => (k, v.dumps repr) :: dumpsMembers repr l

end

theorem isText_escapePoint (c : CodePoint) :
    isText (escapePoint c) = decide (Nat.isValidChar c.val) := by
  unfold escapePoint
  by_cases h : Nat.isValidChar c.val
  · rw [if_pos h, isText_toPyStr, decide_eq_true h]
  · rw [if_neg h, isText_cons, isText_nil, Bool.and_true]

@[simp] theorem isText_dumpPyString (s : PyStr) : isText (dumpPyString s) = isText s := by
  have hflat : isText (s.flatMap escapePoint) = isText s := by
    induction s with
    | nil => rfl
    | cons c s ih => rw [List.flatMap_cons, isText_append, isText_escapePoint, ih, isText_cons]
  rw [dumpPyString, isText_append, isText_append, hflat, isText_toPyStr, Bool.true_and,
    Bool.and_true]

theorem isText_joinPoints (l : List PyStr) : isText (joinPoints l) = l.all isText := by
  induction l with
  | nil => rfl
  | cons s l ih =>
    cases l with
    | nil => simp [joinPoints]
    | cons t l =>
      rw [List.all_cons, ← ih]
      simp only [joinPoints, isText_append, isText_toPyStr, Bool.and_true]

mutual

/-- A text has a surrogate exactly if the value has one. -/
theorem isText_dumps (repr : Str → Str) : (v : Json PyStr) → isText (v.dumps repr) = v.isText
  | .null => isText_toPyStr _
  | .bool true => isText_toPyStr _
  | .bool false => isText_toPyStr _
  | .int _ => isText_toPyStr _
  | .float _ => isText_toPyStr _
  | .constant _ => isText_toPyStr _
  | .str s => isText_dumpPyString s
  | .arr items => by
    rw [Json.dumps, isText_append, isText_append, isText_toPyStr, isText_toPyStr, isText_joinPoints,
      all_dumpsItems repr items, Bool.true_and, Bool.and_true, Json.isText]
  | .obj members => by
    have hsorted : (sortPoints (dumpsMembers repr members)).Perm (dumpsMembers repr members) :=
      List.perm_insertionSort _ _
    rw [Json.dumps, isText_append, isText_append, isText_toPyStr, isText_toPyStr, isText_joinPoints,
      List.all_map, hsorted.all_eq, Bool.true_and, Bool.and_true, Json.isText,
      ← all_dumpsMembers repr members]
    simp only [Function.comp_def, isText_append, isText_toPyStr, isText_dumpPyString, Bool.and_true]

theorem all_dumpsItems (repr : Str → Str) : (l : List (Json PyStr)) →
    (dumpsItems repr l).all isText = itemsText l
  | [] => rfl
  | v :: l => by
    rw [dumpsItems, List.all_cons, isText_dumps repr v, all_dumpsItems repr l, itemsText]

theorem all_dumpsMembers (repr : Str → Str) : (l : List (PyStr × Json PyStr)) →
    ((dumpsMembers repr l).all fun m => isText m.1 && isText m.2) = membersText l
  | [] => rfl
  | (k, v) :: l => by
    rw [dumpsMembers, List.all_cons, isText_dumps repr v, all_dumpsMembers repr l, membersText]

end

/-! ## Depth -/

mutual

/-- Repeated keys do not make a value deeper. -/
theorem depth_latest_le : (v : Json PyStr) → v.latest.depth ≤ v.depth
  | .null => le_rfl
  | .bool _ => le_rfl
  | .int _ => le_rfl
  | .float _ => le_rfl
  | .constant _ => le_rfl
  | .str _ => le_rfl
  | .arr items => Nat.succ_le_succ (depthItems_latest_le items)
  | .obj members => Nat.succ_le_succ (depthMembers_latest_le members)

theorem depthItems_latest_le : (l : List (Json PyStr)) → depthItems (latestItems l) ≤ depthItems l
  | [] => le_rfl
  | v :: l => max_le_max (depth_latest_le v) (depthItems_latest_le l)

theorem depthMembers_latest_le : (l : List (PyStr × Json PyStr)) →
    depthMembers (latestMembers l) ≤ depthMembers l
  | [] => le_rfl
  | (k, v) :: l => by
    rw [latestMembers]
    split
    · exact (depthMembers_latest_le l).trans (le_max_right _ _)
    · exact max_le_max (depth_latest_le v) (depthMembers_latest_le l)

end

theorem depthItems_le_iff {σ : Type} {l : List (Json σ)} {n : ℕ} :
    depthItems l ≤ n ↔ ∀ v ∈ l, v.depth ≤ n := by
  induction l with
  | nil => simp [depthItems]
  | cons v l ih => rw [depthItems, max_le_iff, ih, List.forall_mem_cons]

theorem depthMembers_le_iff {σ : Type} {l : List (σ × Json σ)} {n : ℕ} :
    depthMembers l ≤ n ↔ ∀ m ∈ l, m.2.depth ≤ n := by
  induction l with
  | nil => simp [depthMembers]
  | cons m l ih => rw [depthMembers, max_le_iff, ih, List.forall_mem_cons]

section Hooks

variable {hooks : JsonHooks}

theorem onConstant_eq_ok {name : Str} {s rest : PyStr} {v : Json PyStr}
    (h : hooks.onConstant name s = .ok (v, rest)) : v = .constant name := by
  unfold JsonHooks.onConstant at h
  split_ifs at h
  exact (Prod.mk.inj (Except.ok.inj h)).1.symm

theorem onPairs_eq_ok {members : List (PyStr × Json PyStr)} {s rest : PyStr} {v : Json PyStr}
    (h : hooks.onPairs members s = .ok (v, rest)) : v = .obj members := by
  unfold JsonHooks.onPairs at h
  split_ifs at h
  exact (Prod.mk.inj (Except.ok.inj h)).1.symm

theorem depth_of_scanScalar {s rest : PyStr} {v : Json PyStr}
    (h : scanScalar hooks s = .ok (v, rest)) : v.depth = 0 := by
  have hnumber (h : scanNumber s = .ok (v, rest)) : v.depth = 0 := by
    unfold scanNumber at h
    split at h
    · cases h
    · dsimp only at h
      split_ifs at h <;> cases h <;> rfl
  have hconstant {name : Str} {s : PyStr} (h : hooks.onConstant name s = .ok (v, rest)) :
      v.depth = 0 := by
    rw [onConstant_eq_ok h]
    rfl
  unfold scanScalar at h
  repeat' split at h
  all_goals first | exact hnumber h | exact hconstant h | (cases h; rfl)

/-- What the scanner reads is no deeper than it may go. -/
theorem depth_le_of_scan (fuel : ℕ) :
    (∀ depth s v rest, scanValue hooks fuel depth s = .ok (v, rest) → v.depth ≤ depth) ∧
    (∀ depth acc s v rest, (∀ m ∈ acc, m.2.depth ≤ depth) →
      scanMembers hooks fuel depth acc s = .ok (v, rest) → v.depth ≤ depth + 1) ∧
    (∀ depth acc s v rest, (∀ w ∈ acc, w.depth ≤ depth) →
      scanItems hooks fuel depth acc s = .ok (v, rest) → v.depth ≤ depth + 1) := by
  induction fuel with
  | zero => exact ⟨fun _ _ _ _ h => (nomatch h), fun _ _ _ _ _ _ h => (nomatch h),
      fun _ _ _ _ _ _ h => (nomatch h)⟩
  | succ fuel ih =>
    obtain ⟨ihvalue, ihmembers, ihitems⟩ := ih
    refine ⟨?_, ?_, ?_⟩
    · intro depth s v rest h
      cases s with
      | nil => cases h
      | cons c s =>
        unfold scanValue at h
        dsimp only at h
        by_cases hquote : c.val = 34
        · rw [if_pos hquote] at h
          split at h
          · cases h
            exact Nat.zero_le _
          · cases h
        · rw [if_neg hquote] at h
          by_cases hbrace : c.val = 123
          · rw [if_pos hbrace] at h
            cases depth with
            | zero => cases h
            | succ depth =>
              dsimp only at h
              split_ifs at h
              · rw [onPairs_eq_ok h]
                exact Nat.succ_le_succ (Nat.zero_le _)
              · exact ihmembers depth [] _ v rest (fun m hm => absurd hm List.not_mem_nil) h
          · rw [if_neg hbrace] at h
            by_cases hbracket : c.val = 91
            · rw [if_pos hbracket] at h
              cases depth with
              | zero => cases h
              | succ depth =>
                dsimp only at h
                split_ifs at h
                · cases h
                  exact Nat.succ_le_succ (Nat.zero_le _)
                · exact ihitems depth [] _ v rest (fun m hm => absurd hm List.not_mem_nil) h
            · rw [if_neg hbracket] at h
              rw [depth_of_scanScalar h]
              exact Nat.zero_le _
    · intro depth acc s v rest hacc h
      rw [scanMembers] at h
      split_ifs at h
      split at h
      · cases h
      · dsimp only at h
        split_ifs at h
        split at h
        · cases h
        · rename_i key _ _ _ _ w _ hw
          have hacc' : ∀ m ∈ (key, w) :: acc, m.2.depth ≤ depth :=
            List.forall_mem_cons.2 ⟨ihvalue depth _ _ _ hw, hacc⟩
          split_ifs at h
          · rw [onPairs_eq_ok h]
            refine Nat.succ_le_succ (depthMembers_le_iff.2 fun m hm => ?_)
            exact hacc' m (List.mem_reverse.1 hm)
          · exact ihmembers depth _ _ v rest hacc' h
    · intro depth acc s v rest hacc h
      rw [scanItems] at h
      split at h
      · cases h
      · rename_i w _ hw
        have hacc' : ∀ w' ∈ w :: acc, w'.depth ≤ depth :=
          List.forall_mem_cons.2 ⟨ihvalue depth _ _ _ hw, hacc⟩
        dsimp only at h
        split_ifs at h
        · cases h
          refine Nat.succ_le_succ (depthItems_le_iff.2 fun w' hw' => ?_)
          exact hacc' w' (List.mem_reverse.1 hw')
        · exact ihitems depth _ _ v rest hacc' h

/-- A document is no deeper than the recursion limit. -/
theorem depth_le_of_scanDocument {limit : ℕ} {s : PyStr} {v : Json PyStr}
    (h : scanDocument hooks limit s = .ok v) : v.depth ≤ limit := by
  unfold scanDocument at h
  split at h
  · cases h
  · rename_i hscan
    split_ifs at h
    cases h
    exact (depth_le_of_scan _).1 _ _ _ _ hscan

theorem depth_le_of_jsonLoadsWith {limit : ℕ} {b : Bytes} {v : Json PyStr}
    (h : jsonLoadsWith hooks limit b = .ok v) : v.depth ≤ limit := by
  unfold jsonLoadsWith at h
  split at h
  · cases h
  · exact depth_le_of_scanDocument h

theorem depth_le_of_jsonLoads {limit : ℕ} {b : Bytes} {v : Json PyStr}
    (h : jsonLoads limit b = .ok v) : v.depth ≤ limit :=
  depth_le_of_jsonLoadsWith h

end Hooks

end ProofFlow
