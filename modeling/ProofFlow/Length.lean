import ProofFlow.Python.Utf8
import ProofFlow.Recovery

/-!
# The length of canonical JSON

`canonical_json` writes a string as its escaped characters in UTF-8 between two quotes, and a
container as its parts between brackets with commas between them.  So the number of its bytes is a
sum over the value, and the order of the members does not matter.
-/

namespace ProofFlow

open Kit

/-! ## Texts -/

/-- The bytes of a string between its quotes. -/
def jsonWidth (s : Str) : ℕ := (encodeUtf8 (s.flatMap escapeChar)).length

theorem jsonWidth_append (s t : Str) : jsonWidth (s ++ t) = jsonWidth s + jsonWidth t := by
  unfold jsonWidth
  rw [List.flatMap_append, encodeUtf8_append, List.length_append]

theorem length_encodeUtf8_append (s t : Str) :
    (encodeUtf8 (s ++ t)).length = (encodeUtf8 s).length + (encodeUtf8 t).length := by
  rw [encodeUtf8_append, List.length_append]

theorem length_encodeUtf8_ascii {c : Char} (h : c.toNat < 0x80) (s : Str) :
    (encodeUtf8 (c :: s)).length = (encodeUtf8 s).length + 1 := by
  rw [encodeUtf8_cons, encodeChar_of_lt h, List.length_append, List.length_singleton]
  exact Nat.add_comm 1 _

theorem length_encodeUtf8_dumpString (s : Str) :
    (encodeUtf8 (dumpString s)).length = jsonWidth s + 2 := by
  show (encodeUtf8 ('"' :: (s.flatMap escapeChar ++ ['"']))).length = _
  rw [length_encodeUtf8_ascii (by decide), length_encodeUtf8_append]
  rfl

/-- A visible character that JSON writes as it is, in one byte. -/
def isPlainChar (c : Char) : Bool :=
  32 < c.toNat && c.toNat < 0x7f && c.toNat ≠ 34 && c.toNat ≠ 92

theorem escapeChar_plain {c : Char} (h : isPlainChar c = true) : escapeChar c = [c] := by
  simp only [isPlainChar, Bool.and_eq_true, decide_eq_true_eq] at h
  obtain ⟨⟨⟨hlow, -⟩, hquote⟩, hslash⟩ := h
  unfold escapeChar
  split <;> first | omega | skip
  rw [if_neg (by omega)]

theorem jsonWidth_plain {s : Str} (h : ∀ c ∈ s, isPlainChar c = true) : jsonWidth s = s.length := by
  have hsame : s.flatMap escapeChar = s := by
    induction s with
    | nil => rfl
    | cons c s ih =>
      obtain ⟨hc, hs⟩ := List.forall_mem_cons.1 h
      rw [List.flatMap_cons, escapeChar_plain hc, ih hs, List.singleton_append]
  unfold jsonWidth
  rw [hsame]
  apply length_encodeUtf8
  intro c hc
  have hplain := h c hc
  simp only [isPlainChar, Bool.and_eq_true, decide_eq_true_eq] at hplain
  exact Nat.lt_trans hplain.1.1.2 (by decide)

theorem isPlainChar_of_isLowerHex {c : Char} (h : isLowerHex c = true) : isPlainChar c = true := by
  simp only [isLowerHex, isDigit, Bool.or_eq_true, Bool.and_eq_true, decide_eq_true_eq] at h
  simp only [isPlainChar, Bool.and_eq_true, decide_eq_true_eq]
  omega

theorem jsonWidth_paddedText (width n : ℕ) : jsonWidth (paddedText width n) = width := by
  rw [jsonWidth_plain, length_paddedText]
  intro c hc
  have hdigit := isDigit_of_mem_paddedText hc
  exact isPlainChar_of_isLowerHex (by rw [isLowerHex, hdigit, Bool.true_or])

theorem jsonWidth_cons_plain {c : Char} (h : isPlainChar c = true) (s : Str) :
    jsonWidth (c :: s) = jsonWidth s + 1 := by
  have hc : jsonWidth [c] = 1 := jsonWidth_plain (List.forall_mem_singleton.2 h)
  rw [← List.singleton_append, jsonWidth_append, hc, Nat.add_comm]

theorem jsonWidth_isoformat (d : Date) : jsonWidth d.isoformat = 10 := by
  have hdash : isPlainChar '-' = true := by decide
  unfold Date.isoformat
  simp only [jsonWidth_append, jsonWidth_cons_plain hdash, jsonWidth_paddedText]

/-- A date-time is written in 27 bytes. -/
theorem jsonWidth_datetimeText (t : UtcTime) : jsonWidth (datetimeText t) = 27 := by
  have hmarks : isPlainChar 'T' = true ∧ isPlainChar ':' = true ∧ isPlainChar '.' = true := by
    decide
  have hend : jsonWidth ['Z'] = 1 := by decide
  unfold datetimeText
  simp only [jsonWidth_append, jsonWidth_cons_plain hmarks.1, jsonWidth_cons_plain hmarks.2.1,
    jsonWidth_cons_plain hmarks.2.2, jsonWidth_paddedText, jsonWidth_isoformat, hend]

/-! ## Containers -/

/-- The bytes of a container, from those of its parts. -/
def enclosedLength (parts : List ℕ) : ℕ := 2 + parts.sum + (parts.length - 1)

theorem enclosedLength_perm {parts parts' : List ℕ} (h : parts.Perm parts') :
    enclosedLength parts = enclosedLength parts' := by
  unfold enclosedLength
  rw [h.sum_eq, h.length_eq]

theorem length_joinWith (parts : List Str) : (encodeUtf8 (joinWith [] parts)).length =
    (parts.map fun s => (encodeUtf8 s).length).sum + (parts.length - 1) := by
  induction parts with
  | nil => rfl
  | cons s parts ih =>
    cases parts with
    | nil => simp [joinWith]
    | cons t parts =>
      rw [joinWith_cons_cons, List.nil_append, length_encodeUtf8_append,
        length_encodeUtf8_ascii (by decide), ih]
      simp only [List.map_cons, List.sum_cons, List.length_cons]
      omega

theorem length_enclose {level : ℕ} {opening closing : Char} (hopening : opening.toNat < 0x80)
    (hclosing : closing.toNat < 0x80) (parts : List Str) :
    (encodeUtf8 (Layout.compact.enclose level opening closing parts)).length =
      enclosedLength (parts.map fun s => (encodeUtf8 s).length) := by
  have hend : (encodeUtf8 [closing]).length = 1 := by
    rw [length_encodeUtf8_ascii hclosing]
    rfl
  unfold Layout.enclose enclosedLength
  split_ifs with h
  · rw [length_encodeUtf8_ascii hopening, hend, h]
    rfl
  · simp only [Layout.compact, List.nil_append, List.append_nil]
    rw [length_encodeUtf8_ascii hopening, length_encodeUtf8_append, length_joinWith, hend,
      List.length_map]
    omega

/-! ## Values -/

mutual

/-- The bytes of the canonical JSON of a value that has one. -/
def Value.width : Value → ℕ
  | .null => 4
  | .bool b => if b then 4 else 5
  | .int n => (encodeUtf8 (dumpInt n)).length
  | .float => 0
  | .str s => jsonWidth s + 2
  | .unencodable => 0
  | .decimal d => d.text.elim 0 fun s => jsonWidth s + 2
  | .datetime _ => 29
  | .date _ => 12
  | .bytes b => jsonWidth (hexText b) + 2
  | .arr items => enclosedLength (itemWidths items)
  | .obj members => enclosedLength (memberWidths members)

def itemWidths : List Value → List ℕ
  | [] => []
  | v :: l => v.width :: itemWidths l

def memberWidths : List (Str × Value) → List ℕ
  | [] => []
  | (k, v) :: l => (jsonWidth k + 3 + v.width) :: memberWidths l

end

/-- The bytes of a canonical structure at a level. -/
def Canon.lengthAt (level : ℕ) (c : Canon) : ℕ := (encodeUtf8 (c.render .compact level)).length

/-- The bytes of a member whose value may have failed. -/
def memberLength (level : ℕ) (m : Str × Except Fault Canon) : ℕ :=
  jsonWidth m.1 + 3 + m.2.toOption.elim 0 (Canon.lengthAt level)

theorem lengthAt_arr (level : ℕ) (items : List Canon) :
    (Canon.arr items).lengthAt level = enclosedLength (items.map (Canon.lengthAt (level + 1))) := by
  unfold Canon.lengthAt
  rw [Canon.render, length_enclose (by decide) (by decide), renderItems_eq, List.map_map]
  rfl

theorem lengthAt_obj (level : ℕ) (members : List (Str × Canon)) :
    (Canon.obj members).lengthAt level =
      enclosedLength (members.map fun m => memberLength (level + 1) (m.1, .ok m.2)) := by
  have hmember (m : Str × Str) : (encodeUtf8 (dumpString m.1 ++ ':' :: ([] ++ m.2))).length =
      jsonWidth m.1 + 3 + (encodeUtf8 m.2).length := by
    rw [List.nil_append, length_encodeUtf8_append, length_encodeUtf8_dumpString,
      length_encodeUtf8_ascii (by decide)]
    omega
  unfold Canon.lengthAt
  rw [Canon.render, length_enclose (by decide) (by decide), renderMembers_eq, List.map_map]
  refine enclosedLength_perm (((List.perm_insertionSort _ _).map _).trans ?_)
  rw [List.map_map]
  exact List.Perm.of_eq (List.map_congr_left fun m _ => hmember _)

mutual

/-- The canonical JSON of a value has the bytes of the value, at any level. -/
theorem Value.lengthAt_eq : (v : Value) → ∀ c level, canonicalize [] v = .ok c →
    c.lengthAt level = v.width
  | .null, _, _, h => by obtain rfl := Except.ok.inj h; rfl
  | .bool b, _, _, h => by obtain rfl := Except.ok.inj h; cases b <;> rfl
  | .int n, _, _, h => by obtain rfl := Except.ok.inj h; rfl
  | .float, _, _, h => by cases h
  | .str s, _, _, h => by
    obtain rfl := Except.ok.inj h
    exact length_encodeUtf8_dumpString s
  | .unencodable, _, _, h => by cases h
  | .decimal d, c, level, h => by
    simp only [canonicalize] at h
    unfold Value.width
    cases htext : d.text with
    | none => simp [htext] at h
    | some s =>
      rw [htext] at h
      obtain rfl := Except.ok.inj h
      exact length_encodeUtf8_dumpString s
  | .datetime t, c, level, h => by
    simp only [canonicalize, datetimeValue] at h
    cases hoffset : t.utcoffset with
    | none => simp [hoffset] at h
    | some offset =>
      cases hutc : t.astimezoneUtc with
      | error e => simp [hoffset, hutc] at h
      | ok u =>
        simp only [hoffset, hutc, Except.ok.injEq] at h
        subst h
        exact (length_encodeUtf8_dumpString _).trans (by rw [jsonWidth_datetimeText, Value.width])
  | .date d, _, _, h => by
    obtain rfl := Except.ok.inj h
    exact (length_encodeUtf8_dumpString _).trans (by rw [jsonWidth_isoformat, Value.width])
  | .bytes b, _, _, h => by
    obtain rfl := Except.ok.inj h
    exact length_encodeUtf8_dumpString _
  | .arr items, c, level, h => by
    simp only [canonicalize, bind_eq_ok, pure, Except.pure, Except.ok.injEq] at h
    obtain ⟨cs, hcs, rfl⟩ := h
    rw [lengthAt_arr, itemLengths_eq items cs (level + 1) hcs, Value.width]
  | .obj members, c, level, h => by
    obtain ⟨cs, rfl, hcs⟩ := canonicalize_obj_eq_ok.1 h
    have hperm : (cs.map fun m => (m.1, Except.ok m.2)).Perm (canonicalizeMembers [] members) := by
      rw [← hcs]
      exact List.perm_insertionSort _ _
    have hok : ∀ m ∈ canonicalizeMembers [] members, ∃ c, m.2 = .ok c := by
      intro m hm
      obtain ⟨m', -, rfl⟩ := List.mem_map.1 (hperm.mem_iff.2 hm)
      exact ⟨m'.2, rfl⟩
    have hparts := hperm.map (memberLength (level + 1))
    rw [List.map_map] at hparts
    rw [lengthAt_obj, Value.width, ← memberLengths_eq members (level + 1) hok]
    exact enclosedLength_perm hparts

theorem itemLengths_eq : (l : List Value) → ∀ cs level, canonicalizeItems [] l = .ok cs →
    cs.map (Canon.lengthAt level) = itemWidths l
  | [], _, _, h => by obtain rfl := Except.ok.inj h; rfl
  | v :: l, cs, level, h => by
    simp only [canonicalizeItems, bind_eq_ok, pure, Except.pure, Except.ok.injEq] at h
    obtain ⟨c, hc, rest, hrest, rfl⟩ := h
    rw [List.map_cons, Value.lengthAt_eq v c level hc, itemLengths_eq l rest level hrest,
      itemWidths]

theorem memberLengths_eq : (l : List (Str × Value)) → ∀ level,
    (∀ m ∈ canonicalizeMembers [] l, ∃ c, m.2 = .ok c) →
    (canonicalizeMembers [] l).map (memberLength level) = memberWidths l
  | [], _, _ => rfl
  | (k, v) :: l, level, h => by
    rw [canonicalizeMembers, if_neg List.not_mem_nil] at h ⊢
    obtain ⟨⟨c, hc⟩, hl⟩ := List.forall_mem_cons.1 h
    have hv := Value.lengthAt_eq v c level hc
    rw [List.map_cons, memberLengths_eq l level hl, memberWidths, memberLength, hc]
    show (jsonWidth k + 3 + c.lengthAt level) :: memberWidths l = _
    rw [hv]

end

end ProofFlow
