import ProofFlow.Python.JsonText

/-!
# What the encoder writes

The texts of `json.dumps` are texts of the JSON grammar, whatever the layout puts between the parts
of a container, as long as it is whitespace.
-/

namespace ProofFlow

/-! ## Strings and numbers -/

/-- The text of a character in a string literal spells the character. -/
theorem spells_escapeChar (c : Char) : SpellsChar (toCodePoint c) (escapeChar c) := by
  have hletter {e : Char} {n : ℕ} (hn : c.toNat = n)
      (he : (escapeValue (toCodePoint e)).map Fin.val = some n) :
      SpellsChar (toCodePoint c) ['\\', e] := by
    obtain ⟨v, hv, hval⟩ := Option.map_eq_some_iff.1 he
    refine .letter ?_
    rw [hv]
    exact congrArg some (Fin.ext (hval.trans hn.symm))
  unfold escapeChar
  split
  · exact hletter ‹_› (by decide)
  · exact hletter ‹_› (by decide)
  · exact hletter ‹_› (by decide)
  · exact hletter ‹_› (by decide)
  · exact hletter ‹_› (by decide)
  · exact hletter ‹_› (by decide)
  · exact hletter ‹_› (by decide)
  · rename_i hquote hbackslash _ _ _ _ _
    split_ifs with hcontrol
    · have h0 : hexValue (toCodePoint '0') = some 0 := by decide
      have hvalue : c.toNat / 16 * 16 + c.toNat % 16 = c.toNat := Nat.div_add_mod' _ _
      refine .unit ?_
      simp [hex4, h0, hexValue_hexDigit (n := c.toNat / 16) (by omega),
        hexValue_hexDigit (n := c.toNat % 16) (by omega), hvalue]
    · refine .plain (by omega) ?_ ?_
      · rintro rfl
        exact hquote rfl
      · rintro rfl
        exact hbackslash rfl

theorem spells_dumpString (s : Str) : SpellsString (toPyStr s) (dumpString s) := by
  refine ⟨s.flatMap escapeChar, ?_, rfl⟩
  induction s with
  | nil => exact .nil
  | cons c s ih => exact .cons (spells_escapeChar c) ih

theorem isWhole_decimalText (n : ℕ) : IsWhole (decimalText n) := by
  rcases Nat.eq_zero_or_pos n with rfl | hn
  · exact .zero
  · have hdigits : ∀ c ∈ decimalText n, isDigit c = true :=
      fun c hc => isDigit_of_mem_decimalText hc
    have hhead := head_decimalText (Nat.ne_of_gt hn)
    cases htext : decimalText n with
    | nil => exact absurd htext (decimalText_ne_nil n)
    | cons c s =>
      rw [htext] at hdigits hhead
      refine .nonzero (hdigits c List.mem_cons_self) ?_
        fun d hd => hdigits d (List.mem_cons_of_mem c hd)
      rintro rfl
      exact hhead '0' rfl rfl

theorem spells_dumpInt (n : ℤ) : Spells (.int n) (dumpInt n) := by
  have hvalue : n = if decide (n < 0) = true then -(digitsValue (decimalText n.natAbs) : ℤ)
      else digitsValue (decimalText n.natAbs) := by
    rw [digitsValue_decimalText]
    split_ifs with h <;> simp at h <;> omega
  rw [dumpInt_eq]
  conv => arg 1; rw [hvalue]
  exact .int (isWhole_decimalText _)

/-! ## Containers -/

section Containers

variable {gap last colon : Str} {layout : Layout} {level : ℕ}

theorem isBlank_nil : IsBlank [] := nofun

theorem spellsItems_joinWith (hgap : IsBlank gap) (hlast : IsBlank last)
    {l : List (Str × Json PyStr)} (hne : l ≠ []) (hl : ∀ p ∈ l, Spells p.2 p.1) :
    SpellsItems (l.map Prod.snd) (gap ++ (joinWith gap (l.map Prod.fst) ++ last)) := by
  induction l with
  | nil => exact absurd rfl hne
  | cons p l ih =>
    obtain ⟨hp, hl⟩ := List.forall_mem_cons.1 hl
    cases l with
    | nil => exact .last hgap hp hlast
    | cons q l =>
      have hrest := ih (List.cons_ne_nil q l) hl
      simpa only [List.map_cons, joinWith_cons_cons, List.append_assoc, List.cons_append,
        List.nil_append] using SpellsItems.cons hgap hp isBlank_nil hrest

theorem spellsMembers_joinWith (hgap : IsBlank gap) (hlast : IsBlank last) (hcolon : IsBlank colon)
    {l : List (Str × Str × Json PyStr)} (hne : l ≠ []) (hl : ∀ m ∈ l, Spells m.2.2 m.2.1) :
    SpellsMembers (l.map fun m => (toPyStr m.1, m.2.2))
      (gap ++ (joinWith gap (l.map fun m => memberText colon (m.1, m.2.1)) ++ last)) := by
  induction l with
  | nil => exact absurd rfl hne
  | cons m l ih =>
    obtain ⟨hm, hl⟩ := List.forall_mem_cons.1 hl
    cases l with
    | nil =>
      simpa only [List.map_cons, List.map_nil, joinWith, memberText, List.append_assoc,
        List.cons_append, List.nil_append] using
        SpellsMembers.last hgap (spells_dumpString m.1) isBlank_nil hcolon hm hlast
    | cons q l =>
      have hrest := ih (List.cons_ne_nil q l) hl
      simpa only [List.map_cons, joinWith_cons_cons, memberText, List.append_assoc,
        List.cons_append, List.nil_append] using
        SpellsMembers.cons hgap (spells_dumpString m.1) isBlank_nil hcolon hm isBlank_nil hrest

/-- The parts of an array. -/
theorem spells_arr (hlayout : layout.Blank) {l : List (Str × Json PyStr)}
    (hl : ∀ p ∈ l, Spells p.2 p.1) :
    Spells (.arr (l.map Prod.snd)) (layout.enclose level '[' ']' (l.map Prod.fst)) := by
  unfold Layout.enclose
  split_ifs with h
  · obtain rfl := List.map_eq_nil_iff.1 h
    exact .emptyArr isBlank_nil
  · have hne : l ≠ [] := fun hnil => h (List.map_eq_nil_iff.2 hnil)
    simpa only [List.append_assoc] using
      Spells.arr (spellsItems_joinWith (hlayout.gap (level + 1)) (hlayout.gap level) hne hl)

/-- The members of an object, in any order. -/
theorem spells_obj (hlayout : layout.Blank) {l : List (Str × Str × Json PyStr)}
    (hl : ∀ m ∈ l, Spells m.2.2 m.2.1) :
    Spells (.obj (l.map fun m => (toPyStr m.1, m.2.2)))
      (layout.enclose level '{' '}' (l.map fun m => memberText layout.colon (m.1, m.2.1))) := by
  unfold Layout.enclose
  split_ifs with h
  · obtain rfl := List.map_eq_nil_iff.1 h
    exact .emptyObj isBlank_nil
  · have hne : l ≠ [] := fun hnil => h (List.map_eq_nil_iff.2 hnil)
    simpa only [List.append_assoc] using Spells.obj
      (spellsMembers_joinWith (hlayout.gap (level + 1)) (hlayout.gap level) hlayout.colon hne hl)

/-- The encoder writes a text of the value that the decoder makes of it. -/
theorem Canon.spells_render (hlayout : layout.Blank) :
    (v : Canon) → (level : ℕ) → Spells v.loaded (v.render layout level)
  | .null, _ => .null
  | .bool true, _ => .true
  | .bool false, _ => .false
  | .int n, _ => spells_dumpInt n
  | .str s, _ => .str (spells_dumpString s)
  | .arr l, level => by
    have hitems : ∀ p ∈ l.map fun v => (v.render layout (level + 1), v.loaded), Spells p.2 p.1 :=
      List.forall_mem_map.2 fun v hv => v.spells_render hlayout (level + 1)
    have h : Spells _ (layout.enclose level '[' ']' _) := spells_arr hlayout hitems
    simpa only [Canon.render, Canon.loaded, renderItems_eq, loadedItems_eq, List.map_map,
      Function.comp_def] using h
  | .obj l, level => by
    have hmembers : ∀ m ∈ l, Spells m.2.loaded (m.2.render layout (level + 1)) :=
      fun m hm => m.2.spells_render hlayout (level + 1)
    have hsorted : ∀ m ∈ (sortMembers l).map fun m =>
        (m.1, m.2.render layout (level + 1), m.2.loaded), Spells m.2.2 m.2.1 :=
      List.forall_mem_map.2 fun m hm => hmembers m (mem_sortMembers.1 hm)
    have h : Spells _ (layout.enclose level '{' '}' _) := spells_obj hlayout hsorted
    simpa only [Canon.render, Canon.loaded, renderMembers_eq, loadedMembers_eq, sortMembers_map,
      List.map_map, Function.comp_def, memberText] using h
termination_by v => sizeOf v
decreasing_by
  · simp only [Canon.arr.sizeOf_spec]
    exact Nat.lt_add_left 1 (List.sizeOf_lt_of_mem hv)
  · simp only [Canon.obj.sizeOf_spec]
    exact sizeOf_snd_lt hm

end Containers

/-! ## Bodies -/

/-- The bytes are a JSON text in UTF-8. -/
def IsJson (body : Bytes) : Prop := ∃ v text, IsJsonText v text ∧ body = encodeUtf8 text

theorem isJson_of_spells {v : Json PyStr} {text : Str} (h : Spells v text) :
    IsJson (encodeUtf8 text) :=
  ⟨v, text, ⟨[], text, [], isBlank_nil, h, isBlank_nil, (List.append_nil text).symm⟩, rfl⟩

theorem isJson_canonicalJson (c : Canon) : IsJson (canonicalJson c) :=
  isJson_of_spells (c.spells_render Layout.blank_compact 0)

end ProofFlow
