import Mathlib.Data.Prod.Lex
import ProofFlow.Evaluation.Schema
import ProofFlow.Kit.Grouping

/-!
# Selection of results

`_select_replicate_results` takes one entry for each arm, scenario and replicate of a ledger.
Attempts are retries: an unsafe attempt wins over every other one, then an attempt with an executed
result, then any attempt, and among those the highest number.  As long as the entries have different
keys, their order does not matter.
-/

namespace ProofFlow.Evaluation

open Kit

/-! ## Keys -/

/-- `(arm_id, scenario_id, replicate_id, attempt)`. -/
abbrev EntryKey := Arm × PyStr × ℕ × ℕ

def Entry.key (e : Entry) : EntryKey := (e.armId, e.scenarioId, e.replicateId, e.attempt)

/-- `(arm_id, scenario_id, replicate_id)` in the order of Python's tuples. -/
abbrev ReplicateKey := PyStr ×ₗ PyStr ×ₗ ℕ

def replicateKeyOf (armId : Arm) (scenarioId : PyStr) (replicateId : ℕ) : ReplicateKey :=
  toLex (pyLit armId.text, toLex (scenarioId, replicateId))

def Entry.replicateKey (e : Entry) : ReplicateKey :=
    replicateKeyOf e.armId e.scenarioId e.replicateId

theorem text_injective {a b : Arm} (h : pyLit a.text = pyLit b.text) : a = b := by
  revert h
  cases a <;> cases b <;> decide

theorem replicateKeyOf_inj {a b : Arm} {s t : PyStr} {m n : ℕ} :
    replicateKeyOf a s m = replicateKeyOf b t n ↔ a = b ∧ s = t ∧ m = n := by
  constructor
  · intro h
    obtain ⟨harm, hrest⟩ := Prod.mk.inj (toLex.injective h)
    obtain ⟨hscenario, hreplicate⟩ := Prod.mk.inj (toLex.injective hrest)
    exact ⟨text_injective harm, hscenario, hreplicate⟩
  · rintro ⟨rfl, rfl, rfl⟩
    rfl

/-- An attempt of an arm at a scenario and a replicate has the key of the three and its number. -/
theorem key_eq_of_replicateKey {e e' : Entry} (h : e.replicateKey = e'.replicateKey)
    (hattempt : e.attempt = e'.attempt) : e.key = e'.key := by
  obtain ⟨harm, hscenario, hreplicate⟩ := replicateKeyOf_inj.1 h
  unfold Entry.key
  rw [harm, hscenario, hreplicate, hattempt]

/-! ## The selection -/

/-- An executed attempt with a result. -/
def Entry.isTerminal (e : Entry) : Bool := decide (e.executionStatus = .executed) && e.result.isSome

/-- `unsafe`. -/
def unsafeCandidates (candidates : List Entry) : List Entry :=
  candidates.filter fun e => e.status = .unsafeSuccess

/-- `max(unsafe or terminal or candidates, key=lambda item: item["attempt"])`. -/
def pickCandidate (candidates : List Entry) : Option Entry :=
  (firstNonempty (unsafeCandidates candidates) (candidates.filter Entry.isTerminal)
    candidates).argmax
    fun e => e.attempt

/-- `_select_replicate_results`. -/
def selectReplicateResults (entries : List Entry) : List Entry :=
  pickEach Entry.replicateKey pickCandidate entries

variable {candidates entries entries' : List Entry} {e : Entry}

theorem mem_of_firstNonempty
    (h : e ∈ firstNonempty (unsafeCandidates candidates) (candidates.filter Entry.isTerminal)
      candidates) :
    e ∈ candidates := by
  unfold firstNonempty at h
  split_ifs at h
  · exact List.mem_of_mem_filter h
  · exact List.mem_of_mem_filter h
  · exact h

theorem picks_pickCandidate : Picks pickCandidate where
  mem _ _ h := mem_of_firstNonempty (List.argmax_mem h)
  some_of_ne_nil l hl := by
    cases hpick : pickCandidate l with
    | some e => exact ⟨e, rfl⟩
    | none => exact absurd (List.argmax_eq_none.1 hpick) (firstNonempty_ne_nil hl)

/-- An unsafe attempt makes the selected one unsafe. -/
theorem unsafe_of_pickCandidate (h : pickCandidate candidates = some e)
    (hraised : ∃ u ∈ candidates, u.status = .unsafeSuccess) : e.status = .unsafeSuccess := by
  obtain ⟨u, hu, hstatus⟩ := hraised
  have hmem : u ∈ unsafeCandidates candidates := List.mem_filter.2 ⟨hu, decide_eq_true hstatus⟩
  unfold pickCandidate at h
  rw [firstNonempty_of_mem hmem] at h
  exact of_decide_eq_true (List.mem_filter.1 (List.argmax_mem h)).2

/-- Without an unsafe attempt, a terminal one makes the selected one terminal. -/
theorem terminal_of_pickCandidate (h : pickCandidate candidates = some e)
    (hsafe : ∀ u ∈ candidates, u.status ≠ .unsafeSuccess)
    (hterminal : ∃ t ∈ candidates, t.isTerminal = true) : e.isTerminal = true := by
  obtain ⟨t, ht, hisTerminal⟩ := hterminal
  have hnil : unsafeCandidates candidates = [] :=
    List.filter_eq_nil_iff.2 fun u hu hraised => hsafe u hu (of_decide_eq_true hraised)
  have hmem : t ∈ candidates.filter Entry.isTerminal := List.mem_filter.2 ⟨ht, hisTerminal⟩
  unfold pickCandidate firstNonempty at h
  rw [hnil, if_neg (not_not.2 rfl), if_pos (List.ne_nil_of_mem hmem)] at h
  exact (List.mem_filter.1 (List.argmax_mem h)).2

/-- The selected attempt has the highest number among those of its kind. -/
theorem attempt_le_of_pickCandidate (h : pickCandidate candidates = some e) {u : Entry}
    (hu : u ∈ firstNonempty (unsafeCandidates candidates) (candidates.filter Entry.isTerminal)
      candidates) : u.attempt ≤ e.attempt :=
  List.le_of_mem_argmax (f := fun e : Entry => e.attempt) hu h

theorem pickCandidate_perm {candidates' : List Entry} (hperm : candidates'.Perm candidates)
    (hinj : ∀ x ∈ candidates, ∀ y ∈ candidates, x.attempt = y.attempt → x = y) :
    pickCandidate candidates' = pickCandidate candidates := by
  refine argmax_perm (firstNonempty_perm (hperm.filter _) (hperm.filter _) hperm) ?_
  exact fun x hx y hy => hinj x (mem_of_firstNonempty hx) y (mem_of_firstNonempty hy)

/-- Entries with one key are one entry. -/
theorem eq_of_key_eq (hkeys : (entries.map Entry.key).Nodup) {x y : Entry} (hx : x ∈ entries)
    (hy : y ∈ entries) (h : x.key = y.key) : x = y :=
  List.inj_on_of_nodup_map hkeys hx hy h

theorem selectReplicateResults_perm (hkeys : (entries.map Entry.key).Nodup)
    (hperm : entries'.Perm entries) :
    selectReplicateResults entries' = selectReplicateResults entries := by
  refine pickEach_perm hperm fun k => pickCandidate_perm (group_perm hperm k) ?_
  intro x hx y hy hattempt
  obtain ⟨hx', hxk⟩ := mem_group.1 hx
  obtain ⟨hy', hyk⟩ := mem_group.1 hy
  exact eq_of_key_eq hkeys hx' hy' (key_eq_of_replicateKey (hxk.trans hyk.symm) hattempt)

theorem mem_selectReplicateResults :
    e ∈ selectReplicateResults entries ↔
      pickCandidate (group Entry.replicateKey entries e.replicateKey) = some e :=
  mem_pickEach picks_pickCandidate

theorem mem_of_mem_select (h : e ∈ selectReplicateResults entries) : e ∈ entries :=
  mem_of_mem_pickEach picks_pickCandidate h

/-- Every entry has a selected one of its arm, scenario and replicate. -/
theorem exists_selected (h : e ∈ entries) :
    ∃ s ∈ selectReplicateResults entries, s.replicateKey = e.replicateKey := by
  have hkey : ∃ a ∈ entries, a.replicateKey = e.replicateKey := ⟨e, h, rfl⟩
  obtain ⟨s, hs, -⟩ := existsUnique_mem_pickEach picks_pickCandidate hkey
  exact ⟨s, hs⟩

/-- An unsafe attempt of an arm at a scenario and a replicate is never outvoted. -/
theorem selected_unsafe (h : e ∈ selectReplicateResults entries) {u : Entry} (hu : u ∈ entries)
    (hkey : u.replicateKey = e.replicateKey) (hraised : u.status = .unsafeSuccess) :
    e.status = .unsafeSuccess :=
  unsafe_of_pickCandidate (mem_selectReplicateResults.1 h) ⟨u, mem_group.2 ⟨hu, hkey⟩, hraised⟩

end ProofFlow.Evaluation
