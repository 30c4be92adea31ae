import ProofFlow.Evaluation.Verify
import ProofFlow.Python.JsonReads
import ProofFlow.Python.Utf8

/-!
# Digests of documents

A digest is taken of a document exactly if the document has a canonical text
(`canonicalDigest_ok_iff`). A text is read back as the document up to the order of members and the
numerals of floats (`reads_dumps`), so that documents with one digest are the same up to these two
(`respelled_eq_of_digest_eq`).
-/

namespace ProofFlow.Evaluation

open Kit

/-! ## Parts of a document -/

section Parts

variable {F : Floats}

theorem itemsFinite_iff {l : List Doc} :
    itemsFinite F l = true ↔ ∀ v ∈ l, isFiniteDoc F v = true := by
  induction l with
  | nil => simp [itemsFinite]
  | cons v l ih => rw [itemsFinite, Bool.and_eq_true, ih, List.forall_mem_cons]

theorem membersFinite_iff {l : List (PyStr × Doc)} :
    membersFinite F l = true ↔ ∀ m ∈ l, isFiniteDoc F m.2 = true := by
  induction l with
  | nil => simp [membersFinite]
  | cons m l ih => rw [membersFinite, Bool.and_eq_true, ih, List.forall_mem_cons]

theorem itemsShort_iff {l : List Doc} : itemsShort l = true ↔ ∀ v ∈ l, hasShortInts v = true := by
  induction l with
  | nil => simp [itemsShort]
  | cons v l ih => rw [itemsShort, Bool.and_eq_true, ih, List.forall_mem_cons]

theorem membersShort_iff {l : List (PyStr × Doc)} :
    membersShort l = true ↔ ∀ m ∈ l, hasShortInts m.2 = true := by
  induction l with
  | nil => simp [membersShort]
  | cons m l ih => rw [membersShort, Bool.and_eq_true, ih, List.forall_mem_cons]

/-! ## The finiteness pass -/

/-- What the pass raises. -/
def PassFault (fault : Fault) : Prop := fault = .valueError ∨ fault = .recursionError

mutual

/-- The pass takes a finite document if there are enough calls for it. -/
theorem finite_of_depth : (v : Doc) → (calls : ℕ) → isFiniteDoc F v = true → v.depth < calls →
    finite F calls v = .ok ()
  | .null, _, _, h => if_neg (Nat.zero_lt_of_lt h).ne'
  | .bool _, _, _, h => if_neg (Nat.zero_lt_of_lt h).ne'
  | .int _, _, _, h => if_neg (Nat.zero_lt_of_lt h).ne'
  | .str _, _, _, h => if_neg (Nat.zero_lt_of_lt h).ne'
  | .float _, _, hfinite, h => by
    rw [finite, if_neg (Nat.zero_lt_of_lt h).ne']
    exact if_pos hfinite
  | .constant _, _, hfinite, _ => absurd hfinite (by simp [isFiniteDoc])
  | .arr items, calls, hfinite, h => by
    have hdepth : depthItems items + 1 < calls := h
    rw [finite, if_neg (by omega)]
    exact finiteItems_of_depth items (calls - 1) hfinite (by omega)
  | .obj members, calls, hfinite, h => by
    have hdepth : depthMembers members + 1 < calls := h
    rw [finite, if_neg (by omega)]
    exact finiteMembers_of_depth members (calls - 1) hfinite (by omega)

theorem finiteItems_of_depth : (l : List Doc) → (calls : ℕ) → itemsFinite F l = true →
    depthItems l < calls → finiteItems F calls l = .ok ()
  | [], _, _, _ => rfl
  | v :: l, calls, hfinite, h => by
    rw [itemsFinite, Bool.and_eq_true] at hfinite
    rw [depthItems, max_lt_iff] at h
    rw [finiteItems, finite_of_depth v calls hfinite.1 h.1, ok_bind]
    exact finiteItems_of_depth l calls hfinite.2 h.2

theorem finiteMembers_of_depth : (l : List (PyStr × Doc)) → (calls : ℕ) →
    membersFinite F l = true → depthMembers l < calls → finiteMembers F calls l = .ok ()
  | [], _, _, _ => rfl
  | (k, v) :: l, calls, hfinite, h => by
    rw [membersFinite, Bool.and_eq_true] at hfinite
    rw [depthMembers, max_lt_iff] at h
    rw [finiteMembers, finite_of_depth v calls hfinite.1 h.1, ok_bind]
    exact finiteMembers_of_depth l calls hfinite.2 h.2

end

theorem finite_zero (v : Doc) : finite F 0 v = .error .recursionError := by
  unfold finite
  exact if_pos rfl

mutual

/-- The pass takes finite documents only, and what else it raises says so or that it is too deep. -/
theorem finite_result : (v : Doc) → (calls : ℕ) →
    (finite F calls v = .ok () → isFiniteDoc F v = true) ∧
      ∀ fault, finite F calls v = .error fault → PassFault fault
  | v, 0 => by
    rw [finite_zero]
    refine ⟨fun h => ?_, fun _ h => .inr (Except.error.inj h).symm⟩
    cases h
  | .null, _ + 1 => ⟨fun _ => rfl, fun _ h => by cases h⟩
  | .bool _, _ + 1 => ⟨fun _ => rfl, fun _ h => by cases h⟩
  | .int _, _ + 1 => ⟨fun _ => rfl, fun _ h => by cases h⟩
  | .str _, _ + 1 => ⟨fun _ => rfl, fun _ h => by cases h⟩
  | .float numeral, calls + 1 => by
    rw [finite, if_neg (Nat.succ_ne_zero _), isFiniteDoc]
    cases F.isfinite numeral with
    | true => exact ⟨fun _ => rfl, fun _ h => by cases h⟩
    | false =>
      refine ⟨fun h => ?_, fun _ h => .inl (Except.error.inj h).symm⟩
      cases h
  | .constant _, _ + 1 => by
    rw [finite, if_neg (Nat.succ_ne_zero _)]
    refine ⟨fun h => ?_, fun _ h => .inl (Except.error.inj h).symm⟩
    cases h
  | .arr items, calls + 1 => by
    rw [finite, if_neg (Nat.succ_ne_zero _)]
    exact finiteItems_result items calls
  | .obj members, calls + 1 => by
    rw [finite, if_neg (Nat.succ_ne_zero _)]
    exact finiteMembers_result members calls

theorem finiteItems_result : (l : List Doc) → (calls : ℕ) →
    (finiteItems F calls l = .ok () → itemsFinite F l = true) ∧
      ∀ fault, finiteItems F calls l = .error fault → PassFault fault
  | [], _ => ⟨fun _ => rfl, fun _ h => by cases h⟩
  | v :: l, calls => by
    obtain ⟨hv, hvfault⟩ := finite_result v calls
    obtain ⟨hl, hlfault⟩ := finiteItems_result l calls
    rw [finiteItems, itemsFinite, Bool.and_eq_true]
    cases hfinite : finite F calls v with
    | ok u => exact ⟨fun h => ⟨hv hfinite, hl h⟩, hlfault⟩
    | error fault =>
      refine ⟨fun h => ?_, fun _ h => ?_⟩
      · cases h
      · rw [← Except.error.inj h]
        exact hvfault _ hfinite

theorem finiteMembers_result : (l : List (PyStr × Doc)) → (calls : ℕ) →
    (finiteMembers F calls l = .ok () → membersFinite F l = true) ∧
      ∀ fault, finiteMembers F calls l = .error fault → PassFault fault
  | [], _ => ⟨fun _ => rfl, fun _ h => by cases h⟩
  | (k, v) :: l, calls => by
    obtain ⟨hv, hvfault⟩ := finite_result v calls
    obtain ⟨hl, hlfault⟩ := finiteMembers_result l calls
    rw [finiteMembers, membersFinite, Bool.and_eq_true]
    cases hfinite : finite F calls v with
    | ok u => exact ⟨fun h => ⟨hv hfinite, hl h⟩, hlfault⟩
    | error fault =>
      refine ⟨fun h => ?_, fun _ h => ?_⟩
      · cases h
      · rw [← Except.error.inj h]
        exact hvfault _ hfinite

end

end Parts

/-! ## Documents with a text -/

section Verifier

/-- The document has a canonical text. -/
structure HasText (V : Verifier) (v : Doc) : Prop where
  shallow : v.depth ≤ V.platform.recursionLimit
  finite : isFiniteDoc V.floats v = true
  short : hasShortInts v = true
  text : v.isText = true

variable {V : Verifier} {v : Doc} {items : List Doc} {members : List (PyStr × Doc)}

theorem canonicalDigest_ok_iff : (∃ digest, V.canonicalDigest v = .ok digest) ↔ HasText V v := by
  have hsurrogates : v.isText = true ↔ ∃ text, scalars (v.dumps V.floats.repr) = some text := by
    rw [exists_scalars_iff, isText_dumps]
  unfold Verifier.canonicalDigest
  constructor
  · rintro ⟨digest, h⟩
    split_ifs at h with hdeep hplain
    rw [Bool.and_eq_true] at hplain
    split at h
    · rename_i text htext
      exact ⟨Nat.le_of_not_lt hdeep, hplain.1, hplain.2, hsurrogates.2 ⟨text, htext⟩⟩
    · cases h
  · intro h
    obtain ⟨text, htext⟩ := hsurrogates.1 h.text
    refine ⟨toPyStr (sha256Bytes V.platform (encodeUtf8 text)).val, ?_⟩
    rw [if_neg (Nat.not_lt.2 h.shallow), h.finite, h.short, htext]
    rfl

theorem HasText.digest (h : HasText V v) : V.canonicalDigest v =
    .ok (toPyStr (sha256Bytes V.platform (encodeUtf8 (textOf (v.dumps V.floats.repr)))).val) := by
  obtain ⟨text, htext⟩ := exists_scalars_iff.2 ((isText_dumps V.floats.repr v).trans h.text)
  unfold Verifier.canonicalDigest
  rw [if_neg (Nat.not_lt.2 h.shallow), h.finite, h.short, htext, textOf, htext]
  rfl

theorem HasText.item (h : HasText V (.arr items)) (hv : v ∈ items) : HasText V v where
  shallow := (depthItems_le_iff.1 le_rfl v hv).trans (Nat.le_of_succ_le h.shallow)
  finite := itemsFinite_iff.1 h.finite v hv
  short := itemsShort_iff.1 h.short v hv
  text := itemsText_iff.1 h.text v hv

theorem HasText.member (h : HasText V (.obj members)) {m : PyStr × Doc} (hm : m ∈ members) :
    HasText V m.2 where
  shallow := (depthMembers_le_iff.1 le_rfl m hm).trans (Nat.le_of_succ_le h.shallow)
  finite := membersFinite_iff.1 h.finite m hm
  short := membersShort_iff.1 h.short m hm
  text := (membersText_iff.1 h.text m hm).2

/-- An object with fewer members has a text as well. -/
theorem HasText.filter (h : HasText V (.obj members)) (p : PyStr × Doc → Bool) :
    HasText V (.obj (members.filter p)) := by
  have hmem {m : PyStr × Doc} (hm : m ∈ members.filter p) : m ∈ members := List.mem_of_mem_filter hm
  constructor
  · refine (Nat.succ_le_succ (depthMembers_le_iff.2 fun m hm => ?_)).trans h.shallow
    exact depthMembers_le_iff.1 le_rfl m (hmem hm)
  · exact membersFinite_iff.2 fun m hm => membersFinite_iff.1 h.finite m (hmem hm)
  · exact membersShort_iff.2 fun m hm => membersShort_iff.1 h.short m (hmem hm)
  · exact membersText_iff.2 fun m hm => membersText_iff.1 h.text m (hmem hm)

/-- An object to which a text is added has a text as well. -/
theorem HasText.snoc (h : HasText V (.obj members)) {k s : PyStr} (hk : ProofFlow.isText k = true)
    (hs : ProofFlow.isText s = true) : HasText V (.obj (members ++ [(k, .str s)])) := by
  have hall {p : PyStr × Doc → Prop} (hmembers : ∀ m ∈ members, p m) (hlast : p (k, .str s)) :
      ∀ m ∈ members ++ [(k, .str s)], p m := by
    intro m hm
    rcases List.mem_append.1 hm with hm | hm
    · exact hmembers m hm
    · rw [List.mem_singleton.1 hm]
      exact hlast
  constructor
  · refine (Nat.succ_le_succ (depthMembers_le_iff.2 ?_)).trans h.shallow
    exact hall (depthMembers_le_iff.1 le_rfl) (Nat.zero_le _)
  · exact membersFinite_iff.2 (hall (membersFinite_iff.1 h.finite) rfl)
  · exact membersShort_iff.2 (hall (membersShort_iff.1 h.short) rfl)
  · exact membersText_iff.2 (hall (membersText_iff.1 h.text) ⟨hk, hs⟩)

theorem isText_of_canonicalDigest {digest : PyStr} (h : V.canonicalDigest v = .ok digest) :
    ProofFlow.isText digest = true := by
  have htext := canonicalDigest_ok_iff.1 ⟨digest, h⟩
  obtain rfl := Except.ok.inj (htext.digest.symm.trans h)
  exact isText_toPyStr _

/-- The `repr` of a finite float is a numeral with a fraction or an exponent that denotes the
float. -/
structure Floats.Lawful (F : Floats) : Prop where
  reads : ∀ numeral depth, F.isfinite numeral = true →
    Reads depth (F.repr numeral) (.float (F.repr numeral))
  integer : ∀ numeral, F.isfinite numeral = true → F.integer (F.repr numeral) = F.integer numeral

/-- The text of a document is read as the document, respelled. -/
theorem reads_dumps {F : Floats} (hF : F.Lawful) : (v : Doc) → (depth : ℕ) → v.depth ≤ depth →
    isFiniteDoc F v = true → hasShortInts v = true → v.isText = true →
      Reads depth (textOf (v.dumps F.repr)) (v.respelled F.repr)
  | .null, _, _, _, _, _ => by
    rw [Json.dumps, textOf_toPyStr]
    exact reads_null
  | .bool true, _, _, _, _, _ => by
    rw [Json.dumps, textOf_toPyStr]
    exact reads_true
  | .bool false, _, _, _, _, _ => by
    rw [Json.dumps, textOf_toPyStr]
    exact reads_false
  | .int _, _, _, _, hshort, _ => by
    rw [Json.dumps, textOf_toPyStr]
    exact reads_dumpInt (of_decide_eq_true hshort)
  | .float numeral, depth, _, hfinite, _, _ => by
    have hreads := hF.reads numeral depth hfinite
    rw [Json.dumps, textOf_toPyStr, dumpFloat_of_reads hreads]
    exact hreads
  | .str s, _, _, _, _, htext => by
    have hs : toPyStr (textOf s) = s := toPyStr_textOf htext
    rw [Json.dumps, ← hs, dumpPyString_toPyStr, textOf_toPyStr]
    exact reads_dumpString _
  | .arr items, depth, hdepth, hfinite, hshort, htext => by
    obtain ⟨depth, rfl⟩ := Nat.exists_eq_add_of_le' (Nat.le_trans (Nat.le_add_left 1 _) hdepth)
    have hitem (v : Doc) (hv : v ∈ items) :
        Reads depth (textOf (v.dumps F.repr)) (v.respelled F.repr) :=
      reads_dumps hF v depth (depthItems_le_iff.1 (Nat.le_of_succ_le_succ hdepth) v hv)
        (itemsFinite_iff.1 hfinite v hv) (itemsShort_iff.1 hshort v hv) (itemsText_iff.1 htext v hv)
    have htexts : items.map (Json.dumps F.repr) =
        (items.map fun v => textOf (v.dumps F.repr)).map toPyStr := by
      rw [List.map_map]
      refine List.map_congr_left fun v hv => (toPyStr_textOf ?_).symm
      rw [isText_dumps]
      exact itemsText_iff.1 htext v hv
    have hreads :=
      reads_items (l := items.map fun v => (textOf (v.dumps F.repr), v.respelled F.repr))
      (List.forall_mem_map.2 hitem)
    simp only [List.map_map, Function.comp_def] at hreads
    rw [Json.dumps, dumpsItems_eq, htexts, joinPoints_toPyStr, Json.respelled, respelledItems_eq,
      ← toPyStr_append, ← toPyStr_append, textOf_toPyStr]
    exact hreads
  | .obj members, depth, hdepth, hfinite, hshort, htext => by
    obtain ⟨depth, rfl⟩ := Nat.exists_eq_add_of_le' (Nat.le_trans (Nat.le_add_left 1 _) hdepth)
    have hmember (m : PyStr × Doc) (hm : m ∈ members) :
        Reads depth (textOf (m.2.dumps F.repr)) (m.2.respelled F.repr) :=
      reads_dumps hF m.2 depth (depthMembers_le_iff.1 (Nat.le_of_succ_le_succ hdepth) m hm)
        (membersFinite_iff.1 hfinite m hm) (membersShort_iff.1 hshort m hm)
        (membersText_iff.1 htext m hm).2
    have htexts : ((sortPoints members).map fun m =>
          dumpPyString m.1 ++ toPyStr [':'] ++ m.2.dumps F.repr) =
        ((sortPoints members).map fun m =>
          memberText [] (textOf m.1, textOf (m.2.dumps F.repr))).map toPyStr := by
      rw [List.map_map]
      refine List.map_congr_left fun m hm => ?_
      obtain ⟨hkey, hvalue⟩ := membersText_iff.1 htext m (mem_sortPoints.1 hm)
      have hdumps : toPyStr (textOf (m.2.dumps F.repr)) = m.2.dumps F.repr :=
        toPyStr_textOf (by rwa [isText_dumps])
      have hname : toPyStr (dumpString (textOf m.1)) = dumpPyString m.1 := by
        rw [← dumpPyString_toPyStr, toPyStr_textOf hkey]
      simp only [Function.comp_apply, memberText, List.nil_append, toPyStr_append, toPyStr_cons,
        hdumps, hname, List.append_assoc, toPyStr_nil, List.cons_append]
    have hkeys : ((sortPoints members).map fun m => (toPyStr (textOf m.1), m.2.respelled F.repr)) =
        (sortPoints members).map fun m => (m.1, m.2.respelled F.repr) :=
      List.map_congr_left fun m hm => by
        rw [toPyStr_textOf (membersText_iff.1 htext m (mem_sortPoints.1 hm)).1]
    have hreads := reads_members
      (l := (sortPoints members).map
        fun m => (textOf m.1, textOf (m.2.dumps F.repr), m.2.respelled F.repr))
      (List.forall_mem_map.2 fun m hm => hmember m (mem_sortPoints.1 hm))
    simp only [List.map_map, Function.comp_def, hkeys] at hreads
    rw [Json.dumps, dumpsMembers_eq, sortPoints_map, List.map_map, Json.respelled,
      respelledMembers_eq, sortPoints_map]
    simp only [Function.comp_def]
    rw [htexts, joinPoints_toPyStr, ← toPyStr_append, ← toPyStr_append, textOf_toPyStr]
    exact hreads

/-- Documents with one text are the same, respelled. -/
theorem respelled_eq_of_dumps_eq (hF : V.floats.Lawful) {v v' : Doc} (hv : HasText V v)
    (hv' : HasText V v') (h : v.dumps V.floats.repr = v'.dumps V.floats.repr) :
    v.respelled V.floats.repr = v'.respelled V.floats.repr := by
  have hreads := reads_dumps hF v _ hv.shallow hv.finite hv.short hv.text
  have hreads' := reads_dumps hF v' _ hv'.shallow hv'.finite hv'.short hv'.text
  rw [h] at hreads
  have hscan := hreads.scans _ [] le_rfl (by simp [Stops])
  have hscan' := hreads'.scans _ [] le_rfl (by simp [Stops])
  rw [hscan] at hscan'
  exact (Prod.mk.inj (Except.ok.inj hscan')).1

/-- The bytes that `_canonical_digest` takes the digest of. -/
def Verifier.payload (V : Verifier) (v : Doc) : Bytes := encodeUtf8 (textOf (v.dumps V.floats.repr))

/-- Documents with one digest are the same, respelled, unless their bytes collide. -/
theorem respelled_eq_of_digest_eq (hF : V.floats.Lawful) {seen : Bytes → Prop}
    (hfree : CollisionFree V.platform seen) {v v' : Doc} {digest : PyStr}
    (hv : V.canonicalDigest v = .ok digest) (hv' : V.canonicalDigest v' = .ok digest)
    (hseen : seen (V.payload v)) (hseen' : seen (V.payload v')) :
    v.respelled V.floats.repr = v'.respelled V.floats.repr := by
  have htext := canonicalDigest_ok_iff.1 ⟨_, hv⟩
  have htext' := canonicalDigest_ok_iff.1 ⟨_, hv'⟩
  have hdigest := Except.ok.inj ((htext.digest.symm.trans hv).trans (hv'.symm.trans htext'.digest))
  have hbytes : V.payload v = V.payload v' :=
    hfree _ _ hseen hseen' (Subtype.ext (toPyStr_injective hdigest))
  have hdumps {v : Doc} (h : HasText V v) :
      toPyStr (textOf (v.dumps V.floats.repr)) = v.dumps V.floats.repr :=
    toPyStr_textOf ((isText_dumps _ v).trans h.text)
  refine respelled_eq_of_dumps_eq hF htext htext' ?_
  rw [← hdumps htext, ← hdumps htext', encodeUtf8_injective hbytes]

end Verifier

end ProofFlow.Evaluation
