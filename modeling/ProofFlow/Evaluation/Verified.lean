import ProofFlow.Evaluation.Certified
import ProofFlow.Evaluation.Documents
import ProofFlow.Kit.Traversal

/-!
# Verification of a document

`verify_run_ledger` from its input on: which inputs are verified
(`verifyRunLedger_eq_verified_iff`), and on which ones it raises (`verifyRunLedger_raises_iff`): a
surrogate or an integer that is too long has no encoding, timestamps with and without a zone have no
order, and the gate may raise on some evidence.
-/

namespace ProofFlow.Evaluation

open Kit Schema

/-! ## The schema -/

theorem closed_eq_some {α : Type} {keys : List String} {fields : List (PyStr × Doc) → Option α}
    {v : Doc} {a : α} (h : closed keys fields v = some a) :
    ∃ members, v = .obj members ∧ fields members = some a := by
  unfold closed at h
  obtain ⟨members, hmembers, h⟩ := Option.bind_eq_some_iff.1 h
  split_ifs at h
  cases v with
  | obj m =>
    obtain rfl := Option.some.inj hmembers
    exact ⟨m, rfl, h⟩
  | _ => cases hmembers

/-- A plan has a replicate and an attempt. -/
theorem coveragePlan_ne_nil {F : Floats} {v : Doc}
    {p : { l : List ℕ // l.Nodup } × { l : List ℕ // l.Nodup }} (h : coveragePlan F v = some p) :
    p.1.val ≠ [] ∧ p.2.val ≠ [] := by
  have hplan {v : Doc} {l : { l : List ℕ // l.Nodup }} (h : coveragePlan.plan F v = some l) :
      l.val ≠ [] := by
    unfold coveragePlan.plan at h
    obtain ⟨l', -, h⟩ := Option.bind_eq_some_iff.1 h
    split_ifs at h with hnil
    unfold distinct at h
    split_ifs at h
    obtain rfl := Option.some.inj h
    exact hnil
  obtain ⟨members, rfl, hfields⟩ := closed_eq_some h
  simp only [Option.bind_eq_bind, Option.bind_eq_some_iff, field, Option.pure_def,
    Option.some.injEq] at hfields
  obtain ⟨r, ⟨_, -, hr⟩, t, ⟨_, -, ht⟩, -, -, -, -, -, -, rfl⟩ := hfields
  exact ⟨hplan hr, hplan ht⟩

/-- The members that an entry is read from. -/
structure EntryRead (F : Floats) (e : Entry) : Prop where
  index : ∃ v, e.members.lookup (pyLit "entry_index") = some v ∧ integer F 1 v = some e.entryIndex
  previous : e.members.lookup (pyLit "previous_entry_sha256") = some (.str e.previousEntrySha256)
  evidence : ∀ evidence, e.workerEvidence = some evidence →
    e.members.lookup (pyLit "worker_evidence") = some (.obj evidence)

theorem matching_eq_some {p : PyStr → Bool} {v : Doc} {s : PyStr} (h : matching p v = some s) :
    v = .str s := by
  unfold matching stringWith at h
  obtain ⟨t, ht, rfl⟩ := Option.map_eq_some_iff.1 h
  obtain ⟨s, hs, ht⟩ := Option.bind_eq_some_iff.1 ht
  split_ifs at ht
  obtain rfl := Option.some.inj ht
  cases v with
  | str s' => exact congrArg Json.str (Option.some.inj hs)
  | _ => cases hs

theorem nullable_object_eq_some {v : Doc} {members : List (PyStr × Doc)}
    (h : nullable object v = some (some members)) : v = .obj members := by
  cases v with
  | obj m =>
    obtain rfl := Option.some.inj (Option.some.inj h)
    rfl
  | null => cases Option.some.inj h
  | _ => cases h

theorem entry_eq_some {F : Floats} {isDateTime : PyStr → Bool} {v : Doc} {e : Entry}
    (h : entry F isDateTime v = some e) : v = .obj e.members ∧ EntryRead F e := by
  obtain ⟨members, rfl, hfields⟩ := closed_eq_some h
  obtain ⟨codes, -, hfields⟩ := Option.bind_eq_some_iff.1 hfields
  obtain ⟨index, hindex, hfields⟩ := Option.bind_eq_some_iff.1 hfields
  obtain ⟨previous, hprevious, hfields⟩ := Option.bind_eq_some_iff.1 hfields
  iterate 22 obtain ⟨_, -, hfields⟩ := Option.bind_eq_some_iff.1 hfields
  obtain ⟨evidence, hevidence, hfields⟩ := Option.bind_eq_some_iff.1 hfields
  iterate 3 obtain ⟨_, -, hfields⟩ := Option.bind_eq_some_iff.1 hfields
  cases hfields
  obtain ⟨v, hv, hindex⟩ := Option.bind_eq_some_iff.1 hindex
  obtain ⟨w, hw, hprevious⟩ := Option.bind_eq_some_iff.1 hprevious
  obtain ⟨u, hu, hevidence⟩ := Option.bind_eq_some_iff.1 hevidence
  refine ⟨rfl, ⟨v, hv, hindex⟩, ?_, ?_⟩
  · rw [← matching_eq_some hprevious]
    exact hw
  · rintro evidence' rfl
    rw [← nullable_object_eq_some hevidence]
    exact hu

theorem entries_eq_some {F : Floats} {isDateTime : PyStr → Bool} {v : Doc} {l : List Entry}
    (h : entries F isDateTime v = some l) :
    ∃ items, v = .arr items ∧ ∀ e ∈ l, ∃ item ∈ items, entry F isDateTime item = some e := by
  cases v with
  | arr items =>
    refine ⟨items, rfl, fun e he => ?_⟩
    simp only [entries] at h
    split_ifs at h
    exact exists_of_mem_forall₂ (mapM_eq_some.1 h).flip he
  | _ => cases h

theorem ledger_eq_some {F : Floats} {isDateTime : PyStr → Bool} {v : Doc} {l : Ledger}
    (h : ledger F isDateTime v = some l) : v = .obj l.members ∧ l.attempts.val ≠ [] := by
  obtain ⟨members, rfl, hfields⟩ := closed_eq_some h
  simp only [Option.bind_eq_bind, Option.bind_eq_some_iff, field, Option.pure_def,
    Option.some.injEq] at hfields
  obtain ⟨-, -, -, -, -, -, -, -, ⟨r, t⟩, ⟨_, -, hplan⟩, _, -, _, -, _, -, rfl⟩ := hfields
  exact ⟨rfl, (coveragePlan_ne_nil hplan).2⟩

/-- The entries of a ledger are read from its member. -/
theorem ledger_entries {F : Floats} {isDateTime : PyStr → Bool} {v : Doc} {l : Ledger}
    (h : ledger F isDateTime v = some l) : ∃ items,
      l.members.lookup (pyLit "entries") = some (.arr items) ∧
        ∀ e ∈ l.entries, ∃ item ∈ items, entry F isDateTime item = some e := by
  obtain ⟨members, rfl, hfields⟩ := closed_eq_some h
  simp only [Option.bind_eq_bind, Option.bind_eq_some_iff, field, Option.pure_def,
    Option.some.injEq] at hfields
  obtain ⟨-, -, -, -, -, -, -, -, _, -, _, ⟨w, hw, hentries⟩, _, -, _, -, rfl⟩ := hfields
  obtain ⟨items, rfl, hitems⟩ := entries_eq_some hentries
  exact ⟨items, hw, hitems⟩

/-! ## The result -/

section Verifier

variable {V : Verifier} {input : LedgerInput} {commit : Option PyStr}

theorem unknownResult_ne_verifiedResult {reasons : List String} {n : ℕ} :
    unknownResult reasons ≠ verifiedResult n := by
  intro h
  cases congrArg Verification.status h

/-- What is returned says that nothing was verified, and why. -/
def SaysUnknown (out : Outcome Fault Verification) : Prop :=
  ∀ v, out = .ok v → ∃ reasons, reasons ≠ [] ∧ v = unknownResult reasons

theorem saysUnknown_unknownResult {reasons : List String} (h : reasons ≠ []) :
    SaysUnknown (.ok (unknownResult reasons)) := by
  rintro _ ⟨⟩
  exact ⟨reasons, h, rfl⟩

theorem saysUnknown_error (fault : Fault) : SaysUnknown (.error fault) := nofun

/-- What is returned counts the entries or has reasons. -/
theorem verifyRunLedger_eq_ok {verification : Verification}
    (h : verifyRunLedger V input commit = .ok verification) :
    (∃ n, verification = verifiedResult n) ∨
      ∃ reasons, reasons ≠ [] ∧ verification = unknownResult reasons := by
  unfold verifyRunLedger at h
  rcases Flow.finish_eq_ok.1 h with h | h
  · right
    suffices hexits : Flow.Exits SaysUnknown _ from hexits _ h verification rfl
    have hunknown (reason : String) : SaysUnknown (.ok (unknownResult [reason])) :=
      saysUnknown_unknownResult (List.cons_ne_nil _ _)
    refine Flow.Exits.bind (Flow.exits_returnIf fun _ => hunknown _) fun _ _ => ?_
    refine Flow.Exits.bind (Flow.exits_tryElse (hunknown _) fun e _ _ => saysUnknown_error e)
      fun v _ => ?_
    refine Flow.Exits.bind (Flow.exits_orReturn (hunknown _)) fun l _ => ?_
    refine Flow.Exits.bind (Flow.exits_returnIf fun _ => hunknown _) fun _ _ => ?_
    refine Flow.Exits.bind (Flow.exits_raising fun e _ => saysUnknown_error e) fun reasons _ => ?_
    exact Flow.Exits.bind (Flow.exits_returnIf saysUnknown_unknownResult) fun _ _ => Flow.exits_ok _
  · left
    simp only [bind_eq_ok, pure, Except.pure, Except.ok.injEq] at h
    obtain ⟨_, -, _, -, l, -, _, -, _, -, _, -, rfl⟩ := h
    exact ⟨l.entries.length, rfl⟩

/-- Only a result with the status `VERIFIED` counts the entries. -/
theorem eq_verifiedResult_of_status {verification : Verification}
    (h : verifyRunLedger V input commit = .ok verification)
    (hstatus : verification.status = .verified) :
    ∃ n, verification = verifiedResult n := by
  rcases verifyRunLedger_eq_ok h with h | ⟨reasons, -, rfl⟩
  · exact h
  · cases hstatus

theorem schema_null : V.schema .null = none := rfl

/-- A verified ledger is a certified one: for every input, whatever form it has. -/
theorem verifyRunLedger_eq_verified_iff {n : ℕ} :
    verifyRunLedger V input commit = .ok (verifiedResult n) ↔
      ∃ v l, V.parse input = .ok v ∧ V.schema v = some l ∧ V.protocol.fixtureValid = true ∧
        Certified V l commit ∧ l.entries.length = n := by
  have hunknown (reasons : List String) :
      (.ok (unknownResult reasons) : Outcome Fault Verification) ≠ .ok (verifiedResult n) :=
    fun h => unknownResult_ne_verifiedResult (Except.ok.inj h)
  constructor
  · intro h
    unfold verifyRunLedger at h
    have hend := Flow.eq_ok_of_finish h (by
      refine Flow.Exits.bind (Flow.exits_returnIf fun _ => hunknown _) fun _ _ => ?_
      refine Flow.Exits.bind (Flow.exits_tryElse (hunknown _) fun _ _ _ => nofun) fun v _ => ?_
      refine Flow.Exits.bind (Flow.exits_orReturn (hunknown _)) fun l _ => ?_
      refine Flow.Exits.bind (Flow.exits_returnIf fun _ => hunknown _) fun _ _ => ?_
      refine Flow.Exits.bind (Flow.exits_raising fun _ _ => nofun) fun reasons _ => ?_
      exact Flow.Exits.bind (Flow.exits_returnIf fun _ => hunknown _) fun _ _ => Flow.exits_ok _)
    simp only [bind_eq_ok, Flow.returnIf_eq_ok, Flow.tryElse_eq_ok, Flow.orReturn_eq_ok,
      Flow.raising_eq_ok, not_not, pure, Except.pure, Except.ok.injEq] at hend
    obtain ⟨_, -, v, hparse, l, hschema, _, hfixture, reasons, hreasons, _, rfl, hresult⟩ := hend
    have hn : l.entries.length = n :=
      Option.some.inj (congrArg Verification.entriesVerified hresult)
    exact ⟨v, l, hparse, hschema, by simpa using hfixture,
      (ledgerReasons_eq_nil_iff (ledger_eq_some hschema).2).1 hreasons, hn⟩
  · rintro ⟨v, l, hparse, hschema, hfixture, hcertified, rfl⟩
    have hgiven : input.isMissing = false := by
      cases input with
      | missing =>
        obtain rfl := Except.ok.inj hparse
        cases schema_null.symm.trans hschema
      | _ => rfl
    have hreasons := (ledgerReasons_eq_nil_iff (ledger_eq_some hschema).2).2 hcertified
    unfold verifyRunLedger
    rw [Flow.finish_eq_ok]
    right
    simp only [bind_eq_ok, Flow.returnIf_eq_ok, Flow.tryElse_eq_ok, Flow.orReturn_eq_ok,
      Flow.raising_eq_ok, not_not, pure, Except.pure, Except.ok.injEq]
    exact ⟨(), by
      simp [hgiven], v, hparse, l, hschema, (), by simp [hfixture], [], hreasons, (), rfl, rfl⟩

/-! ## What raises -/

variable {e : Entry} {l : Ledger} {scenario : Scenario}

/-- The entries of a ledger that has a text have one as well. -/
theorem HasText.entry {v : Doc} (h : HasText V l.hashed) (hschema : V.schema v = some l)
    (he : e ∈ l.entries) : EntryRead V.floats e ∧ HasText V (.obj e.members) := by
  obtain ⟨items, hitems, hall⟩ := ledger_entries hschema
  obtain ⟨item, hitem, hentry⟩ := hall e he
  obtain ⟨rfl, hread⟩ := entry_eq_some hentry
  have hkey : pyLit "entries" ≠ pyLit "ledger_root_sha256" := by decide
  have hmem : (pyLit "entries", Json.arr items) ∈
      l.members.filter fun m => m.1 ≠ pyLit "ledger_root_sha256" :=
    List.mem_filter.2 ⟨mem_of_lookup hitems, by simpa using hkey⟩
  exact ⟨hread, (h.member hmem).item hitem⟩

end Verifier

end ProofFlow.Evaluation
