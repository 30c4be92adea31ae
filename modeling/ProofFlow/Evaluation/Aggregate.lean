import ProofFlow.Evaluation.Verified

/-!
# The report of a ledger

`aggregate_run_ledger` counts the entries of a verified ledger for each arm, selects one result for
each arm, scenario and replicate, and counts the pairs that are complete.  `idealPairing` says what
the pairing summary should be from the plan and the recorded attempts alone, without a selection,
and `aggregateRunLedger_eq_ok_iff` that a report has just that summary.
-/

namespace ProofFlow.Evaluation

open Kit

/-! ## Reports -/

inductive ReportStatus where
  | protocolValidatedNotExecuted
  | mixedExecution
  | executed
  deriving DecidableEq

inductive ExecutionClaim where
  | none
  | deterministicReferenceOnly
  | mixedPartial
  deriving DecidableEq

inductive ArmExecution where
  | notExecuted
  | executed
  | mixed
  deriving DecidableEq

structure StatusCounts where
  pass : ℕ
  fail : ℕ
  unknown : ℕ
  unsafeSuccess : ℕ
  deriving DecidableEq

/-- What is reported of an arm; `score_status` is always `UNKNOWN`. -/
structure ArmReport where
  armId : Arm
  executionStatus : ArmExecution
  gateStatus : String
  reasonCode : String
  entryCount : ℕ
  selectedResultCount : ℕ
  statusCounts : Option StatusCounts
  selectedStatusCounts : Option StatusCounts
  deriving DecidableEq

/-- The counts of `pairing_summary`. -/
structure PairingSummary where
  selectedArmResults : ℕ
  discardedRetryAttempts : ℕ
  completePairs : ℕ
  incompletePairs : ℕ
  unsafeSuccessReleaseBlockedPairs : ℕ
  deriving DecidableEq

@[ext]
structure Report where
  reportStatus : ReportStatus
  executionClaim : ExecutionClaim
  protocolManifestSha256 : PyStr
  ledgerSha256 : Option PyStr
  arms : List ArmReport
  pairingSummary : PairingSummary
  deriving DecidableEq

/-! ## Counting -/

/-- `{status: counts.get(status, 0) for status in (...)}`. -/
def countStatuses (entries : List Entry) : StatusCounts where
  pass := entries.countP fun e => e.status = .pass
  fail := entries.countP fun e => e.status = .fail
  unknown := entries.countP fun e => e.status = .unknown
  unsafeSuccess := entries.countP fun e => e.status = .unsafeSuccess

/-- The counts, if there is something to count. -/
def countStatuses? (entries : List Entry) : Option StatusCounts :=
  if entries = [] then none else some (countStatuses entries)

def armExecution (armEntries : List Entry) : ArmExecution :=
  if armEntries = [] ∨ ∀ e ∈ armEntries, e.executionStatus = .notExecuted then .notExecuted
  else if ∀ e ∈ armEntries, e.executionStatus = .executed then .executed
  else .mixed

/-- The entries of an arm. -/
def ofArm (a : Arm) (entries : List Entry) : List Entry := entries.filter fun e => e.armId = a

def armReport (entries : List Entry) (a : Arm) : ArmReport where
  armId := a
  executionStatus := armExecution (ofArm a entries)
  gateStatus := if a = .deterministicReference then "NOT_REQUIRED" else "BLOCKED"
  reasonCode :=
    if armExecution (ofArm a entries) = .notExecuted then "ARM_NOT_EXECUTED"
    else "OFFICIAL_SCORE_REQUIRES_PAIRED_ARMS"
  entryCount := (ofArm a entries).length
  selectedResultCount := (ofArm a (selectReplicateResults entries)).length
  statusCounts := countStatuses? (ofArm a entries)
  selectedStatusCounts := countStatuses? (ofArm a (selectReplicateResults entries))

/-- `(scenario_id, replicate_id)` in the order of Python's tuples. -/
abbrev PairKey := PyStr ×ₗ ℕ

def Entry.pairKey (e : Entry) : PairKey := toLex (e.scenarioId, e.replicateId)

/-- `sorted(pairing_keys)`. -/
def pairingKeys (selected : List Entry) : List PairKey :=
  (selected.map Entry.pairKey).toFinset.sort (· ≤ ·)

/-- The three counters of the loop over the pairs. -/
structure PairCounts where
  complete : ℕ
  incomplete : ℕ
  unsafeBlocked : ℕ

section Verifier

variable (V : Verifier)

/-- `scenario["arm_ids"]` of the first scenario with the identifier; a verified ledger has no
other. -/
def Protocol.armIds (p : Protocol) (scenarioId : PyStr) : List Arm :=
  match p.scenario? scenarioId with
  | some s => s.armIds.val
  | none => []

/-- The entries of a pair. -/
def ofPair (k : PairKey) (entries : List Entry) : List Entry :=
    entries.filter fun e => e.pairKey = k

/-- `arm_set_complete`. -/
def ArmSetComplete (selected : List Entry) (k : PairKey) : Prop :=
  sameArms ((ofPair k selected).map fun e => e.armId) (V.protocol.armIds (ofLex k).1)

instance (selected : List Entry) (k : PairKey) : Decidable (ArmSetComplete V selected k) :=
  inferInstanceAs (Decidable (sameArms _ _))

/-- A pass of the loop over the pairs. -/
def countPair (selected : List Entry) (counts : PairCounts) (k : PairKey) : PairCounts :=
  if ArmSetComplete V selected k ∧ ∃ e ∈ ofPair k selected, e.status = .unsafeSuccess then
    { counts with
      unsafeBlocked := counts.unsafeBlocked + 1
      incomplete := counts.incomplete + 1 }
  else if ArmSetComplete V selected k ∧ ∀ e ∈ ofPair k selected, e.status ≠ .unknown then
    { counts with complete := counts.complete + 1 }
  else { counts with incomplete := counts.incomplete + 1 }

def pairingSummary (entries : List Entry) : PairingSummary :=
  let selected := selectReplicateResults entries
  let counts := (pairingKeys selected).foldl (countPair V selected) ⟨0, 0, 0⟩
  { selectedArmResults := selected.length
    discardedRetryAttempts := entries.length - selected.length
    completePairs := counts.complete
    incompletePairs := counts.incomplete
    unsafeSuccessReleaseBlockedPairs := counts.unsafeBlocked }

def executionClaim (entries : List Entry) : ExecutionClaim :=
  let executed := (entries.filter fun e => e.executionStatus = .executed).map fun e => e.armId
  if entries = [] then .none
  else if sameArms executed [.deterministicReference] then .deterministicReferenceOnly
  else .mixedPartial

/-- The status of a report on a ledger: one in which nothing was executed counts as executed. -/
def reportStatus (entries : List Entry) : ReportStatus :=
  if (∃ e ∈ entries, e.executionStatus = .executed) ∧
    ∃ e ∈ entries, e.executionStatus = .notExecuted
  then .mixedExecution
  else .executed

def buildReport (status : ReportStatus) (ledgerSha256 : Option PyStr) (entries : List Entry) :
    Report where
  reportStatus := status
  executionClaim := executionClaim entries
  protocolManifestSha256 := V.protocol.scenarioManifestSha256
  ledgerSha256 := ledgerSha256
  arms := arms.map (armReport entries)
  pairingSummary := pairingSummary V entries

/-- `aggregate_run_ledger`. -/
def aggregateRunLedger (ledger : Option (List (PyStr × Doc)))
    (expectedRepositoryCommit : Option PyStr) :
    Except Fault Report :=
  match ledger with
  | none => .ok (buildReport V .protocolValidatedNotExecuted none [])
  | some members => do
    let verification ← verifyRunLedger V (.mapping members) expectedRepositoryCommit
    match verification.status, V.schema (.obj members) with
    | .verified, some l =>
      let digest ← V.canonicalDigest (.obj members)
      return buildReport V (reportStatus l.entries) (some digest) l.entries
    | _, _ => .error .valueError

/-! ## The ideal summary -/

/-- The planned pairs. -/
def plannedPairs (l : Ledger) : List PairKey :=
  V.protocol.scenarios.flatMap fun s => l.replicateIds.val.map fun r => toLex (s.id, r)

/-- The planned arms, scenarios and replicates. -/
def plannedResults (l : Ledger) : List ReplicateKey :=
  V.protocol.scenarios.flatMap fun s => s.armIds.val.flatMap fun a =>
    l.replicateIds.val.map fun r => replicateKeyOf a s.id r

/-- Some attempt of the pair was unsafe. -/
def SomeUnsafe (l : Ledger) (k : PairKey) : Prop :=
  ∃ e ∈ l.entries, e.pairKey = k ∧ e.status = .unsafeSuccess

instance (l : Ledger) (k : PairKey) : Decidable (SomeUnsafe l k) :=
  inferInstanceAs (Decidable (∃ e ∈ l.entries, _))

/-- Every arm of the pair has an attempt with a result. -/
def AllTerminal (l : Ledger) (k : PairKey) : Prop :=
  ∀ e ∈ l.entries, e.pairKey = k →
    ∃ t ∈ l.entries, t.replicateKey = e.replicateKey ∧ t.isTerminal = true

instance (l : Ledger) (k : PairKey) : Decidable (AllTerminal l k) :=
  inferInstanceAs (Decidable (∀ e ∈ l.entries, _))

/-- The summary by the plan and by what was attempted. -/
def idealPairing (l : Ledger) : PairingSummary where
  selectedArmResults := (plannedResults V l).length
  discardedRetryAttempts := (l.attempts.val.length - 1) * (plannedResults V l).length
  completePairs := (plannedPairs V l).countP fun k => ¬ SomeUnsafe l k ∧ AllTerminal l k
  incompletePairs := (plannedPairs V l).countP fun k => SomeUnsafe l k ∨ ¬ AllTerminal l k
  unsafeSuccessReleaseBlockedPairs := (plannedPairs V l).countP fun k => SomeUnsafe l k

variable {V} {l : Ledger} {e : Entry} {scenario : Scenario} {commit : Option PyStr} {k : PairKey}

/-! ## The loop over the pairs -/

/-- A pair that counts as blocked. -/
def IsBlocked (V : Verifier) (selected : List Entry) (k : PairKey) : Prop :=
  ArmSetComplete V selected k ∧ ∃ e ∈ ofPair k selected, e.status = .unsafeSuccess

instance (selected : List Entry) (k : PairKey) : Decidable (IsBlocked V selected k) :=
  inferInstanceAs (Decidable (_ ∧ _))

/-- A pair that counts as complete. -/
def IsComplete (V : Verifier) (selected : List Entry) (k : PairKey) : Prop :=
  ¬ IsBlocked V selected k ∧ ArmSetComplete V selected k ∧
    ∀ e ∈ ofPair k selected, e.status ≠ .unknown

instance (selected : List Entry) (k : PairKey) : Decidable (IsComplete V selected k) :=
  inferInstanceAs (Decidable (_ ∧ _))

/-- The counters after the loop. -/
theorem foldl_countPair (selected : List Entry) (keys : List PairKey) (counts : PairCounts) :
    keys.foldl (countPair V selected) counts =
      { complete := counts.complete + keys.countP fun k => IsComplete V selected k
        incomplete := counts.incomplete + keys.countP fun k => ¬ IsComplete V selected k
        unsafeBlocked := counts.unsafeBlocked + keys.countP fun k => IsBlocked V selected k } := by
  induction keys generalizing counts with
  | nil => simp
  | cons k keys ih =>
    rw [List.foldl_cons, ih]
    simp only [List.countP_cons]
    by_cases hblocked : IsBlocked V selected k
    · have hincomplete : ¬ IsComplete V selected k := fun h => h.1 hblocked
      have hcount : countPair V selected counts k =
          { counts with
            unsafeBlocked := counts.unsafeBlocked + 1
            incomplete := counts.incomplete + 1 } := if_pos hblocked
      simp only [hcount, hblocked, hincomplete, decide_true, decide_false, not_false_eq_true,
        if_true, Bool.false_eq_true, if_false, PairCounts.mk.injEq]
      omega
    · by_cases hcomplete : IsComplete V selected k
      · have hcount : countPair V selected counts k =
            { counts with complete := counts.complete + 1 } :=
          (if_neg hblocked).trans (if_pos hcomplete.2)
        simp only [hcount, hblocked, hcomplete, decide_true, decide_false, not_true_eq_false,
          if_true, Bool.false_eq_true, if_false, PairCounts.mk.injEq]
        omega
      · have hcount : countPair V selected counts k =
            { counts with incomplete := counts.incomplete + 1 } :=
          (if_neg hblocked).trans (if_neg fun h => hcomplete ⟨hblocked, h⟩)
        simp only [hcount, hblocked, hcomplete, decide_true, decide_false, not_false_eq_true,
          if_true, Bool.false_eq_true, if_false, PairCounts.mk.injEq]
        omega

/-! ## Statuses -/

theorem contractStatus_ne_unknown (r : Result) (expected : Expected) :
    contractStatus r expected ≠ .unknown := by
  unfold contractStatus
  split_ifs <;> simp

/-- An entry of a verified ledger is of unknown status exactly if it has no result. -/
theorem Reported.status_ne_unknown_iff (h : Reported e.toEntryBody scenario) :
    e.status ≠ .unknown ↔ e.isTerminal = true := by
  unfold Entry.isTerminal
  cases hexecution : e.executionStatus with
  | notExecuted => simp [(h.unexecuted hexecution).1]
  | executed =>
    cases hresult : e.result with
    | none => simp [h.missing hexecution hresult]
    | some r =>
      have hstatus := (h.observed r hexecution hresult).2
      simp [hstatus, contractStatus_ne_unknown]

theorem pairKey_eq_of_replicateKey {e e' : Entry} (h : e.replicateKey = e'.replicateKey) :
    e.pairKey = e'.pairKey := by
  obtain ⟨-, hscenario, hreplicate⟩ := replicateKeyOf_inj.1 h
  unfold Entry.pairKey
  rw [hscenario, hreplicate]

theorem mem_ofPair {entries : List Entry} : e ∈ ofPair k entries ↔ e ∈ entries ∧ e.pairKey = k := by
  simp [ofPair]

/-- Whether a selected result is unsafe is settled by the attempts. -/
theorem exists_unsafe_iff :
    (∃ e ∈ ofPair k (selectReplicateResults l.entries), e.status = .unsafeSuccess) ↔
      SomeUnsafe l k := by
  constructor
  · rintro ⟨e, he, hstatus⟩
    obtain ⟨he, hkey⟩ := mem_ofPair.1 he
    exact ⟨e, mem_of_mem_select he, hkey, hstatus⟩
  · rintro ⟨u, hu, hkey, hstatus⟩
    obtain ⟨e, he, hreplicate⟩ := exists_selected hu
    refine ⟨e, mem_ofPair.2 ⟨he, ?_⟩, selected_unsafe he hu hreplicate.symm hstatus⟩
    rw [pairKey_eq_of_replicateKey hreplicate, hkey]

/-- Without an unsafe attempt, the selected results of a pair all have a status exactly if every arm
has an attempt with a result. -/
theorem forall_known_iff (hcertified : Certified V l commit) (hsafe : ¬ SomeUnsafe l k) :
    (∀ e ∈ ofPair k (selectReplicateResults l.entries), e.status ≠ .unknown) ↔ AllTerminal l k := by
  have hterminal {e : Entry} (he : e ∈ l.entries) : e.status ≠ .unknown ↔ e.isTerminal = true := by
    obtain ⟨s, -, hmeets⟩ := hcertified.exists_scenario he
    exact hmeets.reported.status_ne_unknown_iff
  constructor
  · intro h e he hkey
    obtain ⟨t, ht, hreplicate⟩ := exists_selected he
    have hmem : t ∈ ofPair k (selectReplicateResults l.entries) :=
      mem_ofPair.2 ⟨ht, (pairKey_eq_of_replicateKey hreplicate).trans hkey⟩
    exact ⟨t, mem_of_mem_select ht, hreplicate, (hterminal (mem_of_mem_select ht)).1 (h t hmem)⟩
  · intro h e he
    obtain ⟨he, hkey⟩ := mem_ofPair.1 he
    obtain ⟨t, ht, hreplicate, htterminal⟩ := h e (mem_of_mem_select he) hkey
    refine (hterminal (mem_of_mem_select he)).2
      (terminal_of_pickCandidate (mem_selectReplicateResults.1 he)
      ?_ ⟨t, mem_group.2 ⟨ht, hreplicate⟩, htterminal⟩)
    intro u hu hstatus
    obtain ⟨hu, hreplicate⟩ := mem_group.1 hu
    exact hsafe ⟨u, hu, (pairKey_eq_of_replicateKey hreplicate).trans hkey, hstatus⟩

/-! ## The plan -/

theorem nodup_plannedPairs : (plannedPairs V l).Nodup := by
  refine nodup_flatMap_of_key Scenario.id (fun k => (ofLex k).1) V.protocol.ids_nodup
    (fun s _ => ?_) ?_
  · exact l.replicateIds.property.map fun r r' h => (Prod.mk.inj (toLex.injective h)).2
  · rintro s - k hk
    obtain ⟨r, -, rfl⟩ := List.mem_map.1 hk
    rfl

theorem nodup_plannedResults : (plannedResults V l).Nodup := by
  refine nodup_flatMap_of_key Scenario.id (fun k => (ofLex (ofLex k).2).1) V.protocol.ids_nodup
    (fun s hs => nodup_flatMap_of_key (fun a => pyLit a.text) (fun k => (ofLex k).1)
      ((V.protocol.arms_nodup s hs).map fun a a' h => text_injective h) (fun a _ => ?_) ?_) ?_
  · exact l.replicateIds.property.map fun r r' h => (replicateKeyOf_inj.1 h).2.2
  · rintro a - k hk
    obtain ⟨r, -, rfl⟩ := List.mem_map.1 hk
    rfl
  · rintro s - k hk
    simp only [List.mem_flatMap, List.mem_map] at hk
    obtain ⟨a, -, r, -, rfl⟩ := hk
    rfl

/-- Every planned run has as many entries as there are attempts. -/
theorem length_expectedKeys :
    (expectedKeys V l).length = l.attempts.val.length * (plannedResults V l).length := by
  simp only [expectedKeys, plannedResults, List.length_flatMap, List.length_map, List.map_const',
    List.sum_replicate, smul_eq_mul]
  rw [← List.sum_map_mul_left]
  refine congrArg List.sum (List.map_congr_left fun s _ => ?_)
  ring

theorem mem_plannedPairs : k ∈ plannedPairs V l ↔
    ∃ s ∈ V.protocol.scenarios, ∃ r ∈ l.replicateIds.val, k = toLex (s.id, r) := by
  simp [plannedPairs, eq_comm]

/-- The selected results are those of the planned arms, scenarios and replicates. -/
theorem Covers.length_select (h : Covers V l) (hattempts : l.attempts.val ≠ []) :
    (selectReplicateResults l.entries).length = (plannedResults V l).length := by
  have hperm :
      ((selectReplicateResults l.entries).map Entry.replicateKey).Perm (plannedResults V l) := by
    refine (List.perm_ext_iff_of_nodup (nodup_keys_pickEach picks_pickCandidate)
      nodup_plannedResults).2 fun k => ?_
    rw [map_key_pickEach picks_pickCandidate, mem_sortedKeys]
    simp only [plannedResults, List.mem_flatMap, List.mem_map]
    constructor
    · rintro ⟨e, he, rfl⟩
      have hkey : e.key ∈ expectedKeys V l := (h.keys _).1 (List.mem_map_of_mem he)
      obtain ⟨⟨s, hs, hid, harm⟩, hr, -⟩ := mem_expectedKeys.1 hkey
      refine ⟨s, hs, e.armId, harm, e.replicateId, hr, ?_⟩
      rw [hid]
      rfl
    · rintro ⟨s, hs, a, ha, r, hr, rfl⟩
      obtain ⟨t, ht⟩ := List.exists_mem_of_ne_nil _ hattempts
      obtain ⟨e, he, rfl, hid, rfl, -⟩ := h.exists_entry hs ha hr ht
      exact ⟨e, he, replicateKeyOf_inj.2 ⟨rfl, hid, rfl⟩⟩
  rw [← hperm.length_eq, List.length_map]

theorem mem_pairingKeys {selected : List Entry} :
    k ∈ pairingKeys selected ↔ ∃ e ∈ selected, e.pairKey = k := by
  simp [pairingKeys]

theorem nodup_pairingKeys (selected : List Entry) : (pairingKeys selected).Nodup :=
  Finset.sort_nodup _ _

/-- The pairs that are counted are the planned ones. -/
theorem Covers.pairingKeys_perm (h : Covers V l) (hattempts : l.attempts.val ≠ []) :
    (pairingKeys (selectReplicateResults l.entries)).Perm (plannedPairs V l) := by
  refine (List.perm_ext_iff_of_nodup (nodup_pairingKeys _) nodup_plannedPairs).2 fun k => ?_
  rw [mem_pairingKeys, mem_plannedPairs]
  constructor
  · rintro ⟨e, he, rfl⟩
    have hkey : e.key ∈ expectedKeys V l :=
      (h.keys _).1 (List.mem_map_of_mem (mem_of_mem_select he))
    obtain ⟨⟨s, hs, hid, -⟩, hr, -⟩ := mem_expectedKeys.1 hkey
    refine ⟨s, hs, e.replicateId, hr, ?_⟩
    rw [hid]
    rfl
  · rintro ⟨s, hs, r, hr, rfl⟩
    obtain ⟨a, ha⟩ := List.exists_mem_of_ne_nil _ s.armIds.property
    obtain ⟨t, ht⟩ := List.exists_mem_of_ne_nil _ hattempts
    obtain ⟨e, he, rfl, hid, rfl, -⟩ := h.exists_entry hs ha hr ht
    obtain ⟨selected, hselected, hkey⟩ := exists_selected he
    refine ⟨selected, hselected, ?_⟩
    rw [pairKey_eq_of_replicateKey hkey, Entry.pairKey, hid]

/-- A planned pair has all of its arms. -/
theorem Covers.armSetComplete (h : Covers V l) (hattempts : l.attempts.val ≠ [])
    (hk : k ∈ plannedPairs V l) : ArmSetComplete V (selectReplicateResults l.entries) k := by
  obtain ⟨s, hs, r, hr, rfl⟩ := mem_plannedPairs.1 hk
  have harms := h.sameArms_pairOf hattempts hs hr
  have hpair : pairOf l s.id r = ofPair (toLex (s.id, r)) (selectReplicateResults l.entries) := by
    refine List.filter_congr fun e _ => ?_
    simp [Entry.pairKey, Prod.ext_iff]
  have hids : V.protocol.armIds s.id = s.armIds.val := by
    unfold Protocol.armIds
    rw [Protocol.scenario?_eq_some.2 ⟨hs, rfl⟩]
  rw [hpair] at harms
  unfold ArmSetComplete
  rwa [ofLex_toLex, hids]

/-! ## The summary -/

/-- The pairing summary of a certified ledger is the ideal one. -/
theorem pairingSummary_eq (hcertified : Certified V l commit) (hattempts : l.attempts.val ≠ []) :
    pairingSummary V l.entries = idealPairing V l := by
  have hcovers := hcertified.covers
  have hperm := hcovers.pairingKeys_perm hattempts
  have hselected := hcovers.length_select hattempts
  have hentries : l.entries.length = l.attempts.val.length * (plannedResults V l).length := by
    rw [← length_expectedKeys, ← hcertified.planned.length_eq, List.length_map]
  have hblocked (k : PairKey) (hk : k ∈ plannedPairs V l) :
      IsBlocked V (selectReplicateResults l.entries) k ↔ SomeUnsafe l k := by
    rw [IsBlocked, exists_unsafe_iff, and_iff_right (hcovers.armSetComplete hattempts hk)]
  have hcomplete (k : PairKey) (hk : k ∈ plannedPairs V l) :
      IsComplete V (selectReplicateResults l.entries) k ↔ ¬ SomeUnsafe l k ∧ AllTerminal l k := by
    rw [IsComplete, hblocked k hk, and_iff_right (hcovers.armSetComplete hattempts hk)]
    exact and_congr_right fun hsafe => forall_known_iff hcertified hsafe
  simp only [pairingSummary, idealPairing, foldl_countPair, hselected, hentries, Nat.zero_add,
    PairingSummary.mk.injEq, true_and]
  refine ⟨?_, ?_, ?_, ?_⟩
  · rw [Nat.sub_mul, Nat.one_mul]
  · rw [hperm.countP_eq]
    exact List.countP_congr fun k hk => by simp [hcomplete k hk]
  · rw [hperm.countP_eq]
    refine List.countP_congr fun k hk => ?_
    simp only [decide_eq_true_eq, hcomplete k hk]
    tauto
  · rw [hperm.countP_eq]
    exact List.countP_congr fun k hk => by simp [hblocked k hk]

/-! ## The report -/

/-- Every entry is one of exactly one arm. -/
theorem sum_length_ofArm (entries : List Entry) :
    (arms.map fun a => (ofArm a entries).length).sum = entries.length := by
  induction entries with
  | nil => rfl
  | cons e entries ih =>
    simp only [arms, List.map_cons, List.map_nil, List.sum_cons, List.sum_nil, ofArm,
      List.filter_cons] at ih ⊢
    cases e.armId <;> simp <;> omega

/-- The report of a ledger: its counts add up, and its summary is the ideal one. -/
structure Reports (V : Verifier) (l : Ledger) (digest : PyStr) (report : Report) : Prop where
  status : report.reportStatus = reportStatus l.entries
  claim : report.executionClaim = executionClaim l.entries
  protocol : report.protocolManifestSha256 = V.protocol.scenarioManifestSha256
  digest : report.ledgerSha256 = some digest
  arms : report.arms = arms.map (armReport l.entries)
  entries : (report.arms.map fun a => a.entryCount).sum =
    l.attempts.val.length * (plannedResults V l).length
  selected : (report.arms.map fun a => a.selectedResultCount).sum = (plannedResults V l).length
  pairing : report.pairingSummary = idealPairing V l

theorem reports_buildReport (hcertified : Certified V l commit) (hattempts : l.attempts.val ≠ [])
    (digest : PyStr) :
    Reports V l digest (buildReport V (reportStatus l.entries) (some digest) l.entries) where
  status := rfl
  claim := rfl
  protocol := rfl
  digest := rfl
  arms := rfl
  entries := by
    rw [← length_expectedKeys, ← hcertified.planned.length_eq, List.length_map,
      ← sum_length_ofArm l.entries]
    rfl
  selected := by
    rw [← hcertified.covers.length_select hattempts,
      ← sum_length_ofArm (selectReplicateResults l.entries)]
    rfl
  pairing := pairingSummary_eq hcertified hattempts

theorem parse_mapping {members : List (PyStr × Doc)} {v : Doc}
    (h : V.parse (.mapping members) = .ok v) :
    v = .obj members := by
  obtain ⟨_, -, h⟩ := bind_eq_ok.1 h
  exact (Except.ok.inj h).symm

/-- A report is made of exactly the certified ledgers. -/
theorem aggregateRunLedger_eq_ok {members : List (PyStr × Doc)} {report : Report} :
    aggregateRunLedger V (some members) commit = .ok report ↔
      ∃ v l digest, V.parse (.mapping members) = .ok v ∧ V.schema v = some l ∧
        V.protocol.fixtureValid = true ∧ Certified V l commit ∧ V.canonicalDigest v = .ok digest ∧
        report = buildReport V (reportStatus l.entries) (some digest) l.entries := by
  unfold aggregateRunLedger
  simp only [bind_eq_ok]
  constructor
  · rintro ⟨verification, hverify, h⟩
    split at h
    · rename_i l hstatus hschema
      obtain ⟨digest, hdigest, hreport⟩ := bind_eq_ok.1 h
      obtain ⟨n, rfl⟩ := eq_verifiedResult_of_status hverify hstatus
      obtain ⟨v, l', hparse, hschema', hfixture, hcertified, -⟩ :=
        verifyRunLedger_eq_verified_iff.1 hverify
      obtain rfl := parse_mapping hparse
      rw [hschema] at hschema'
      obtain rfl := Option.some.inj hschema'
      exact ⟨_, l, digest, hparse, hschema, hfixture, hcertified, hdigest,
        (Except.ok.inj hreport).symm⟩
    · cases h
  · rintro ⟨v, l, digest, hparse, hschema, hfixture, hcertified, hdigest, rfl⟩
    obtain rfl := parse_mapping hparse
    refine ⟨_, verifyRunLedger_eq_verified_iff.2 ⟨_, l, hparse, hschema, hfixture, hcertified, rfl⟩,
      ?_⟩
    rw [hschema]
    show (V.canonicalDigest (.obj members) >>= _) = _
    rw [hdigest, ok_bind]
    rfl

/-- A report is made of exactly the certified ledgers, and it is the faithful one. -/
theorem aggregateRunLedger_eq_ok_iff {members : List (PyStr × Doc)} {report : Report} :
    aggregateRunLedger V (some members) commit = .ok report ↔
      ∃ v l digest, V.parse (.mapping members) = .ok v ∧ V.schema v = some l ∧
        V.protocol.fixtureValid = true ∧ Certified V l commit ∧ V.canonicalDigest v = .ok digest ∧
        Reports V l digest report := by
  rw [aggregateRunLedger_eq_ok]
  constructor
  · rintro ⟨v, l, digest, hparse, hschema, hfixture, hcertified, hdigest, rfl⟩
    exact ⟨v, l, digest, hparse, hschema, hfixture, hcertified, hdigest,
      reports_buildReport hcertified (ledger_eq_some hschema).2 digest⟩
  · rintro ⟨v, l, digest, hparse, hschema, hfixture, hcertified, hdigest, hreport⟩
    have hideal := reports_buildReport hcertified (ledger_eq_some hschema).2 digest
    refine ⟨v, l, digest, hparse, hschema, hfixture, hcertified, hdigest, ?_⟩
    exact Report.ext (hreport.status.trans hideal.status.symm)
      (hreport.claim.trans hideal.claim.symm) (hreport.protocol.trans hideal.protocol.symm)
      (hreport.digest.trans hideal.digest.symm)
      (hreport.arms.trans hideal.arms.symm) (hreport.pairing.trans hideal.pairing.symm)

end Verifier

end ProofFlow.Evaluation
