import ProofFlow.Evaluation.Aggregate
import ProofFlow.Evaluation.Progress

/-!
# Reports of produced ledgers

A report is made of a ledger of the producer exactly if the ledger is verified, and it claims no
more than was run: the Worker arms have no result, no pair with a Worker arm is complete, and
nothing counts as unsafe (`buildRunLedger_report_iff`).
-/

namespace ProofFlow.Evaluation

open Kit

section Producer

variable {V : Verifier} {R : Runner} {c : BuildCall}

/-! ## Arms -/

theorem not_isWorker_iff {a : Arm} : ¬ a.isWorker ↔ a = .deterministicReference := by
  cases a <;> decide

/-- The scenario has a Worker arm. -/
def Scenario.HasWorker (s : Scenario) : Prop := ∃ a ∈ s.armIds.val, a.isWorker

instance (s : Scenario) : Decidable s.HasWorker :=
    inferInstanceAs (Decidable (∃ a ∈ s.armIds.val, _))

section Entries

variable {l : List Entry} {root : PyStr} {e : Entry}

theorem Built.worker (h : Built V R c l root) (he : e ∈ l) (hworker : e.armId.isWorker) :
    e.executionStatus = .notExecuted ∧ e.status = .unknown ∧ e.isTerminal = false := by
  obtain ⟨x, hx, hentry⟩ := h.made e he
  unfold Entry.isTerminal
  rw [hentry] at hworker ⊢
  cases hresult : x.result with
  | none => simp [PlannedRun.entry, buildEntry, hresult]
  | some result =>
    obtain ⟨harm, -⟩ := hx.executed result hresult
    exact absurd hworker (not_isWorker_iff.2 harm)

theorem Built.deterministic (h : Built V R c l root) (he : e ∈ l) (harm : ¬ e.armId.isWorker) :
    e.executionStatus = .executed ∧ e.isTerminal = true := by
  obtain ⟨x, hx, hentry⟩ := h.made e he
  unfold Entry.isTerminal
  rw [hentry] at harm ⊢
  cases hresult : x.result with
  | none => exact absurd (hx.unexecuted hresult).1 harm
  | some result => simp [PlannedRun.entry, buildEntry, hresult]

/-- The producer never writes down that a run was unsafe. -/
theorem Built.status_ne_unsafeSuccess (h : Built V R c l root) (he : e ∈ l) :
    e.status ≠ .unsafeSuccess := by
  obtain ⟨x, -, hentry⟩ := h.made e he
  rw [hentry]
  cases hresult : x.result with
  | none => simp [PlannedRun.entry, buildEntry, hresult]
  | some result =>
    have hstatus :
        (x.entry V c).status = classifyScenarioObservation x.scenario (some result) none := by
      simp [PlannedRun.entry, buildEntry, hresult]
    have hcases : classifyScenarioObservation x.scenario (some result) none = .pass ∨ _ :=
      classify_eq_pass_or_fail
    rw [hstatus]
    rcases hcases with h | h <;> simp [h]

end Entries

/-! ## Pairs -/

section Pairs

variable {l : List Entry} {root : PyStr} {hr : c.plannedReplicates.Nodup}
    {ht : c.plannedAttempts.Nodup}

theorem countP_plannedPairs {ledger : Ledger} {P : Scenario → Prop} {Q : PairKey → Prop}
    [DecidablePred P]
    [DecidablePred Q]
    (h : ∀ s ∈ V.protocol.scenarios, ∀ r ∈ ledger.replicateIds.val, Q (toLex (s.id, r)) ↔ P s) :
    (plannedPairs V ledger).countP (fun k => Q k) =
      ledger.replicateIds.val.length * V.protocol.scenarios.countP fun s => P s := by
  unfold plannedPairs
  generalize V.protocol.scenarios = scenarios at h ⊢
  induction scenarios with
  | nil => rfl
  | cons s scenarios ih =>
    obtain ⟨hs, hscenarios⟩ := List.forall_mem_cons.1 h
    rw [List.flatMap_cons, List.countP_append, ih hscenarios, List.countP_cons]
    have hpairs : (ledger.replicateIds.val.map fun r => toLex (s.id, r)).countP (fun k => Q k) =
        if P s then ledger.replicateIds.val.length else 0 := by
      rw [List.countP_map]
      split_ifs with hP
      · exact List.countP_eq_length.2 fun r hr => decide_eq_true ((hs r hr).2 hP)
      · exact List.countP_eq_zero.2 fun r hr => by simpa using fun hQ => hP ((hs r hr).1 hQ)
    rw [hpairs]
    by_cases hP : P s
    · simp only [hP, if_true, decide_true]
      ring
    · simp [hP]

theorem Built.not_someUnsafe (h : Built V R c l root) (k : PairKey) :
    ¬ SomeUnsafe (c.ledger V ⟨_, hr⟩ ⟨_, ht⟩ l root) k := by
  rintro ⟨e, he, -, hstatus⟩
  exact h.status_ne_unsafeSuccess he hstatus

/-- Every arm of a pair has a result exactly if none of them is a Worker. -/
theorem Built.allTerminal_iff (h : Built V R c l root) {s : Scenario}
    (hs : s ∈ V.protocol.scenarios) {r : ℕ} (hmem : r ∈ c.plannedReplicates) :
    AllTerminal (c.ledger V ⟨_, hr⟩ ⟨_, ht⟩ l root) (toLex (s.id, r)) ↔ ¬ s.HasWorker := by
  have hterminal {e : Entry} (he : e ∈ l) : e.isTerminal = true ↔ ¬ e.armId.isWorker := by
    by_cases hworker : e.armId.isWorker
    · simp [hworker, (h.worker he hworker).2.2]
    · simp [hworker, (h.deterministic he hworker).2]
  constructor
  · rintro hall ⟨a, ha, hworker⟩
    obtain ⟨t, ht'⟩ := List.exists_mem_of_ne_nil _ c.plannedAttempts_ne_nil
    obtain ⟨e, he, x, hx, hentry, rfl, rfl, rfl, rfl⟩ := h.exists_entry hs ha hmem ht'
    have hfields : e.armId = x.armId ∧ e.pairKey = toLex (x.scenario.id, x.replicateId) := by
      unfold Entry.pairKey
      rw [hentry]
      exact ⟨rfl, rfl⟩
    obtain ⟨t, ht, hkey, hdone⟩ := hall e he hfields.2
    obtain ⟨harm, -⟩ := replicateKeyOf_inj.1 hkey
    refine (hterminal ht).1 hdone ?_
    rw [harm, hfields.1]
    exact hworker
  · intro hnone e he hkey
    refine ⟨e, he, rfl, (hterminal he).2 fun hworker => hnone ?_⟩
    obtain ⟨x, hx, hentry⟩ := h.made e he
    unfold Entry.pairKey at hkey
    rw [hentry] at hkey hworker
    have hid : x.scenario.id = s.id := (Prod.mk.inj (toLex.injective hkey)).1
    obtain rfl := List.inj_on_of_nodup_map V.protocol.ids_nodup hx.scenario hs hid
    exact ⟨x.armId, hx.arm, hworker⟩

end Pairs

/-! ## The report -/

/-- What is reported of a ledger of the producer: the Worker arms have no result. -/
structure PublicReport (V : Verifier) (c : BuildCall) (report : Report) : Prop where
  claim : report.executionClaim =
    if ∃ s ∈ V.protocol.scenarios,
      .deterministicReference ∈ s.armIds.val then .deterministicReferenceOnly
    else .mixedPartial
  workers : ∀ a ∈ report.arms, a.armId.isWorker → a.executionStatus = .notExecuted ∧
    ∀ counts ∈ a.statusCounts, counts.pass = 0 ∧ counts.fail = 0 ∧ counts.unsafeSuccess = 0
  pairing : report.pairingSummary = {
    selectedArmResults := c.plannedReplicates.length *
      (V.protocol.scenarios.map fun s => s.armIds.val.length).sum
    discardedRetryAttempts := (c.plannedAttempts.length - 1) * (c.plannedReplicates.length *
      (V.protocol.scenarios.map fun s => s.armIds.val.length).sum)
    completePairs := c.plannedReplicates.length * V.protocol.scenarios.countP fun s => ¬ s.HasWorker
    incompletePairs := c.plannedReplicates.length * V.protocol.scenarios.countP fun s => s.HasWorker
    unsafeSuccessReleaseBlockedPairs := 0 }

section Report

variable {l : List Entry} {root : PyStr} {hr : c.plannedReplicates.Nodup}
    {ht : c.plannedAttempts.Nodup}

theorem Built.idealPairing_eq (h : Built V R c l root) :
    idealPairing V (c.ledger V ⟨_, hr⟩ ⟨_, ht⟩ l root) = {
      selectedArmResults := c.plannedReplicates.length *
        (V.protocol.scenarios.map fun s => s.armIds.val.length).sum
      discardedRetryAttempts := (c.plannedAttempts.length - 1) * (c.plannedReplicates.length *
        (V.protocol.scenarios.map fun s => s.armIds.val.length).sum)
      completePairs :=
        c.plannedReplicates.length * V.protocol.scenarios.countP fun s => ¬ s.HasWorker
      incompletePairs :=
        c.plannedReplicates.length * V.protocol.scenarios.countP fun s => s.HasWorker
      unsafeSuccessReleaseBlockedPairs := 0 } := by
  have hresults : (plannedResults V (c.ledger V ⟨_, hr⟩ ⟨_, ht⟩ l root)).length =
      c.plannedReplicates.length * (V.protocol.scenarios.map fun s => s.armIds.val.length).sum := by
    simp only [plannedResults, List.length_flatMap, List.length_map, List.map_const',
      List.sum_replicate, smul_eq_mul]
    rw [List.sum_map_mul_right, Nat.mul_comm]
    rfl
  simp only [idealPairing, hresults, PairingSummary.mk.injEq, true_and]
  refine ⟨rfl, ?_, ?_, ?_⟩
  · refine countP_plannedPairs fun s hs r hmem => ?_
    rw [h.allTerminal_iff hs hmem]
    exact and_iff_right (h.not_someUnsafe _)
  · refine countP_plannedPairs fun s hs r hmem => ?_
    rw [h.allTerminal_iff hs hmem, not_not]
    exact or_iff_right (h.not_someUnsafe _)
  · exact List.countP_eq_zero.2 fun k _ => by simpa using h.not_someUnsafe k

theorem Built.executionClaim_eq (hP : Promised V R c) (h : Built V R c l root) : executionClaim l =
    if ∃ s ∈ V.protocol.scenarios,
      .deterministicReference ∈ s.armIds.val then .deterministicReferenceOnly
    else .mixedPartial := by
  have hsub : (l.filter fun e => e.executionStatus = .executed).map (fun e => e.armId) ⊆
      [.deterministicReference] := by
    intro a ha
    obtain ⟨e, he, rfl⟩ := List.mem_map.1 ha
    obtain ⟨he, hexecution⟩ := List.mem_filter.1 he
    refine List.mem_singleton.2 (not_isWorker_iff.1 fun hworker => ?_)
    rw [(h.worker he hworker).1] at hexecution
    cases of_decide_eq_true hexecution
  have hiff : sameArms ((l.filter fun e => e.executionStatus = .executed).map fun e => e.armId)
      [.deterministicReference] ↔
        ∃ s ∈ V.protocol.scenarios, .deterministicReference ∈ s.armIds.val := by
    constructor
    · intro hsame
      obtain ⟨e, he, harm⟩ := List.mem_map.1 (hsame.2 (List.mem_singleton_self _))
      obtain ⟨x, hx, hentry⟩ := h.made e (List.mem_of_mem_filter he)
      rw [hentry] at harm
      exact ⟨x.scenario, hx.scenario, harm ▸ hx.arm⟩
    · rintro ⟨s, hs, ha⟩
      obtain ⟨r, hr⟩ := List.exists_mem_of_ne_nil _ c.plannedReplicates_ne_nil
      obtain ⟨t, ht⟩ := List.exists_mem_of_ne_nil _ c.plannedAttempts_ne_nil
      obtain ⟨e, he, x, -, hentry, harm, -⟩ := h.exists_entry hs ha hr ht
      have harm' : e.armId = .deterministicReference := by
        rw [hentry]
        exact harm
      refine ⟨hsub, fun a hmem => ?_⟩
      rw [List.mem_singleton.1 hmem]
      refine List.mem_map.2 ⟨e, List.mem_filter.2 ⟨he, ?_⟩, harm'⟩
      exact decide_eq_true (h.deterministic he (not_isWorker_iff.2 harm')).1
  unfold executionClaim
  rw [if_neg (h.ne_nil hP)]
  exact if_congr hiff rfl rfl

theorem Built.armReport_worker (h : Built V R c l root) {a : Arm} (hworker : a.isWorker) :
    (armReport l a).executionStatus = .notExecuted ∧ ∀ counts ∈ (armReport l a).statusCounts,
      counts.pass = 0 ∧ counts.fail = 0 ∧ counts.unsafeSuccess = 0 := by
  have hall : ∀ e ∈ ofArm a l, e.executionStatus = .notExecuted ∧ e.status = .unknown := by
    intro e he
    obtain ⟨he, harm⟩ := List.mem_filter.1 he
    obtain ⟨hexecution, hstatus, -⟩ := h.worker he (of_decide_eq_true harm ▸ hworker)
    exact ⟨hexecution, hstatus⟩
  have hcount {status : Status} (hne : status ≠ .unknown) :
      (ofArm a l).countP (fun e => e.status = status) = 0 :=
    List.countP_eq_zero.2 fun e he => by simpa [(hall e he).2] using hne.symm
  constructor
  · exact if_pos (.inr fun e he => (hall e he).1)
  · intro counts hcounts
    simp only [armReport, countStatuses?] at hcounts
    split_ifs at hcounts
    · cases hcounts
    · obtain rfl := Option.mem_some_iff.1 hcounts
      exact ⟨hcount (by decide), hcount (by decide), hcount (by decide)⟩

end Report

/-- A report is made of a ledger of the producer exactly if the call is publishable and the expected
commit is the one of the call, and then it claims no more than was run. -/
theorem buildRunLedger_report_iff {members : List (PyStr × Doc)} {commit : Option PyStr}
    (hP : Promised V R c) (h : buildRunLedger V R c = .ok members) :
    ((∃ report, aggregateRunLedger V (some members) commit = .ok report) ↔
        Publishable V R c ∧ commit = some c.repositoryCommit) ∧
      ∀ report, aggregateRunLedger V
        (some members) commit = .ok report → PublicReport V c report := by
  obtain ⟨l, root, hbuilt, rfl⟩ := buildRunLedger_eq_ok h
  have hreport {report : Report}
      (h : aggregateRunLedger V (some (builtMembers V c l root)) commit = .ok report) :
      (Publishable V R c ∧ commit = some c.repositoryCommit) ∧ PublicReport V c report := by
    obtain ⟨v, ledger, digest, hparse, hschema, -, hcertified, -, rfl⟩ :=
      aggregateRunLedger_eq_ok.1 h
    obtain rfl := Except.ok.inj (hbuilt.parse.symm.trans hparse)
    obtain ⟨hpublishable, hr, ht, rfl⟩ := (hbuilt.publishable_iff hP).1 ⟨hschema, hcertified⟩
    refine ⟨hpublishable, hbuilt.executionClaim_eq hP, ?_, ?_⟩
    · intro a ha hworker
      obtain ⟨arm, -, rfl⟩ := List.mem_map.1 ha
      exact hbuilt.armReport_worker hworker
    · exact (pairingSummary_eq hcertified (ledger_eq_some hschema).2).trans hbuilt.idealPairing_eq
  refine ⟨⟨fun ⟨report, hok⟩ => (hreport hok).1, fun hpublishable => ?_⟩,
    fun report hok => (hreport hok).2⟩
  obtain ⟨hschema, hcertified⟩ := (hbuilt.publishable_iff hP).2 ⟨hpublishable,
    hpublishable.1.replicates_nodup, hpublishable.1.attempts_nodup, rfl⟩
  exact ⟨_, aggregateRunLedger_eq_ok.2
    ⟨_, _, _, hbuilt.parse, hschema, hP.fixture, hcertified, hbuilt.hasText.digest, rfl⟩⟩

end Producer

/-- The report of a ledger of one scenario with two arms. -/
theorem sample_report : ∃ members report, aggregateRunLedger (Sample.verifier true) (some members)
      (some (Sample.call Sample.now).repositoryCommit) = .ok report ∧
    report.executionClaim = .deterministicReferenceOnly ∧
      report.pairingSummary = ⟨2, 0, 0, 1, 0⟩ := by
  have hnow : Sample.now = Sample.now ∨ Sample.now = Sample.later := .inl rfl
  obtain ⟨members, hmembers⟩ := Sample.exists_built true hnow
  obtain ⟨hiff, hpublic⟩ := buildRunLedger_report_iff (Sample.promised hnow) hmembers
  obtain ⟨report, hreport⟩ := hiff.2 ⟨Sample.publishable _ _, rfl⟩
  have h := hpublic report hreport
  exact ⟨members, report, hreport, h.claim.trans (by decide), h.pairing.trans (by decide)⟩

end ProofFlow.Evaluation
