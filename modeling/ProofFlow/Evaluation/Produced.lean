import ProofFlow.Evaluation.Documents
import ProofFlow.Evaluation.Identifiers
import ProofFlow.Evaluation.SchemaReads
import ProofFlow.Evaluation.Verified

/-!
# Produced ledgers

What `build_run_ledger` builds is verified exactly if the plan has no replicate and no attempt
twice, the commit and the names of the runs have the patterns of the schema, and no run ended before
it started or has a result that the two classifiers see differently (`Built.verified_iff`).
-/

namespace ProofFlow.Evaluation

open Kit

section Producer

variable {V : Verifier} {R : Runner} {c : BuildCall}

/-! ## The chain -/

theorem hashed_chained (e : EntryBody) (index : ℕ) (previous digest : PyStr) :
    (e.chained index previous digest).hashed = .obj (numberedMembers e index previous) := rfl

/-- The loop numbers the entries and links them by their digests. -/
theorem chainEntries_eq_ok {bodies : List EntryBody} {docs : List (List (PyStr × Doc))} {index : ℕ}
    {previous : PyStr} (h : chainEntries V index previous bodies = .ok docs) :
    ∃ l : List Entry, docs = (l.map fun e => e.members) ∧ bodies = (l.map fun e => e.toEntryBody) ∧
      (∀ e ∈ l, e.IsChained ∧ V.canonicalDigest e.hashed = .ok e.entrySha256) ∧
      (l.map fun e => e.entryIndex) = List.range' index l.length ∧
      Linked (fun e : Entry => e.previousEntrySha256) (fun e => e.entrySha256) previous l := by
  induction bodies generalizing docs index previous with
  | nil =>
    obtain rfl := Except.ok.inj h
    exact ⟨[], rfl, rfl, by simp, rfl, eachAfter_nil⟩
  | cons e bodies ih =>
    rw [chainEntries] at h
    obtain ⟨digest, hdigest, h⟩ := bind_eq_ok.1 h
    obtain ⟨chained, hchained, h⟩ := bind_eq_ok.1 h
    obtain rfl := Except.ok.inj h
    obtain ⟨l, rfl, rfl, hall, hindex, hlinked⟩ := ih hchained
    refine ⟨e.chained index previous digest :: l, rfl, rfl, ?_, ?_, ?_⟩
    · exact List.forall_mem_cons.2 ⟨⟨rfl, (hashed_chained e index previous digest).symm ▸ hdigest⟩,
        hall⟩
    · rw [List.map_cons, List.length_cons, List.range'_succ, hindex]
      rfl
    · exact linked_cons.2 ⟨rfl, hlinked⟩

/-- A chain of entries with digests has a digest before every entry. -/
theorem matchesDigest_previous {l : List Entry} {start : PyStr}
    (hstart : matchesDigest start = true)
    (hdigests : ∀ e ∈ l, V.canonicalDigest e.hashed = .ok e.entrySha256)
    (h : Linked (fun e : Entry => e.previousEntrySha256) (fun e => e.entrySha256) start l) :
    ∀ e ∈ l, matchesDigest e.previousEntrySha256 = true := by
  induction l generalizing start with
  | nil => simp
  | cons e l ih =>
    obtain ⟨he, hl⟩ := List.forall_mem_cons.1 hdigests
    obtain ⟨hprevious, hlinked⟩ := linked_cons.1 h
    have hdigest := matchesDigest_canonicalDigest he
    refine List.forall_mem_cons.2 ⟨?_, ih hdigest hl hlinked⟩
    rw [hprevious]
    exact hstart

/-! ## The entries -/

/-- A run of the plan, executed or not. -/
structure PlannedRun where
  armId : Arm
  scenario : Scenario
  replicateId : ℕ
  attempt : ℕ
  result : Option Result
  startedAt : UtcTime
  finishedAt : UtcTime

/-- The entry of a run. -/
def PlannedRun.entry (V : Verifier) (c : BuildCall) (x : PlannedRun) : EntryBody :=
  buildEntry (c.provenance V) x.armId x.scenario x.replicateId x.attempt x.result x.startedAt
    x.finishedAt

/-- The run is one that the producer makes: the deterministic arm is executed, a Worker arm is
not. -/
structure PlannedRun.IsMade (V : Verifier) (R : Runner) (c : BuildCall)
    (replicateIds attempts : List ℕ) (x : PlannedRun) : Prop where
  scenario : x.scenario ∈ V.protocol.scenarios
  replicateId : x.replicateId ∈ replicateIds
  attempt : x.attempt ∈ attempts
  arm : x.armId ∈ x.scenario.armIds.val
  executed : ∀ result ∈ x.result, x.armId = .deterministicReference ∧
    R.run x.scenario x.replicateId x.attempt = .ok (x.startedAt, result, x.finishedAt)
  unexecuted : x.result = none →
    x.armId.isWorker ∧ x.startedAt = c.recordedAt ∧ x.finishedAt = c.recordedAt

/-- The arms of a scenario in the order of the producer. -/
def Scenario.orderedArms (s : Scenario) : List Arm := arms.filter fun a => a ∈ s.armIds.val

theorem mem_orderedArms {s : Scenario} {a : Arm} : a ∈ s.orderedArms ↔ a ∈ s.armIds.val := by
  have hall : a ∈ arms := by cases a <;> decide
  simp [Scenario.orderedArms, hall]

def EntryBody.key (e : EntryBody) : EntryKey := (e.armId, e.scenarioId, e.replicateId, e.attempt)

theorem scenarioEntries_eq_ok {r t : ℕ} {s : Scenario} {bodies : List EntryBody}
    (h : scenarioEntries V R c r t s = .ok bodies) :
    (bodies.map EntryBody.key = s.orderedArms.map fun a => (a, s.id, r, t)) ∧
      ∀ {replicateIds attempts : List ℕ}, s ∈ V.protocol.scenarios → r ∈ replicateIds →
        t ∈ attempts →
        ∀ e ∈ bodies, ∃ x : PlannedRun, x.IsMade V R c replicateIds attempts ∧ e = x.entry V c := by
  unfold scenarioEntries at h
  obtain ⟨deterministic, hdeterministic, h⟩ := bind_eq_ok.1 h
  obtain rfl := Except.ok.inj h
  have hworkers : (workerEntries V c s r t).map EntryBody.key =
      ([.singleAgent, .sixAgent].filter fun a => a ∈ s.armIds.val).map
        fun a => (a, s.id, r, t) := by
    rw [workerEntries, List.map_map]
    rfl
  have hmade {replicateIds attempts : List ℕ} (hs : s ∈ V.protocol.scenarios)
    (hr : r ∈ replicateIds) (ht : t ∈ attempts) : ∀ e ∈ workerEntries V c s r t,
        ∃ x : PlannedRun, x.IsMade V R c replicateIds attempts ∧ e = x.entry V c := by
    intro e he
    obtain ⟨a, ha, rfl⟩ := List.mem_map.1 he
    obtain ⟨hworker, harm⟩ := List.mem_filter.1 ha
    refine ⟨⟨a, s, r, t, none, c.recordedAt, c.recordedAt⟩,
      ⟨hs, hr, ht, of_decide_eq_true harm, nofun, fun _ => ⟨?_, rfl, rfl⟩⟩, rfl⟩
    simpa [Arm.isWorker] using hworker
  have harms :
      s.orderedArms = (if .deterministicReference ∈ s.armIds.val then [.deterministicReference]
      else []) ++ [.singleAgent, .sixAgent].filter fun a => a ∈ s.armIds.val := by
    simp only [Scenario.orderedArms, arms, List.filter_cons]
    split_ifs <;> simp_all
  unfold deterministicEntries at hdeterministic
  rw [List.map_append, hworkers, harms, List.map_append]
  split_ifs at hdeterministic with harm hbound
  · obtain ⟨⟨startedAt, result, finishedAt⟩, hrun, hdeterministic⟩ := bind_eq_ok.1 hdeterministic
    obtain rfl := Except.ok.inj hdeterministic
    rw [if_pos harm]
    refine ⟨rfl, fun hs hr ht e he => ?_⟩
    rcases List.mem_append.1 he with he | he
    · obtain rfl := List.mem_singleton.1 he
      refine ⟨⟨.deterministicReference, s, r, t, some result, startedAt, finishedAt⟩,
        ⟨hs, hr, ht, harm, ?_, nofun⟩, rfl⟩
      intro result' hresult
      obtain rfl := Option.mem_some_iff.1 hresult
      exact ⟨rfl, hrun⟩
    · exact hmade hs hr ht e he
  · obtain rfl := Except.ok.inj hdeterministic
    rw [if_neg harm]
    exact ⟨rfl, fun hs hr ht e he => hmade hs hr ht e he⟩

/-- The keys of the planned runs in the order of the producer. -/
def plannedKeys (V : Verifier) (replicateIds attempts : List ℕ) : List EntryKey :=
  replicateIds.flatMap fun r => attempts.flatMap fun t => V.protocol.scenarios.flatMap fun s =>
    s.orderedArms.map fun a => (a, s.id, r, t)

theorem plannedEntries_eq_ok {replicateIds attempts : List ℕ} {bodies : List EntryBody}
    (h : plannedEntries V R c replicateIds attempts = .ok bodies) :
    bodies.map EntryBody.key = plannedKeys V replicateIds attempts ∧
      ∀ e ∈ bodies, ∃ x : PlannedRun, x.IsMade V R c replicateIds attempts ∧ e = x.entry V c := by
  constructor
  · refine map_collect h fun r _ _ hr => map_collect hr fun t _ _ ht => map_collect ht
      fun s _ _ hs => ?_
    exact (scenarioEntries_eq_ok hs).1
  · intro e he
    obtain ⟨r, hr, _, hreplicate, he⟩ := exists_of_mem_collect h he
    obtain ⟨t, ht, _, hattempt, he⟩ := exists_of_mem_collect hreplicate he
    obtain ⟨s, hs, _, hscenario, he⟩ := exists_of_mem_collect hattempt he
    exact (scenarioEntries_eq_ok hscenario).2 hs hr ht e he

/-- A run that the producer makes has an entry. -/
theorem entry_mem_plannedEntries {replicateIds attempts : List ℕ} {bodies : List EntryBody}
    (h : plannedEntries V R c replicateIds attempts = .ok bodies) {x : PlannedRun}
    (hx : x.IsMade V R c replicateIds attempts) : x.entry V c ∈ bodies := by
  obtain ⟨_, hreplicate, hsub⟩ := exists_result_of_mem_collect h hx.replicateId
  obtain ⟨_, hattempt, hsub'⟩ := exists_result_of_mem_collect hreplicate hx.attempt
  obtain ⟨_, hscenario, hsub''⟩ := exists_result_of_mem_collect hattempt hx.scenario
  refine hsub (hsub' (hsub'' ?_))
  unfold scenarioEntries at hscenario
  obtain ⟨deterministic, hdeterministic, hscenario⟩ := bind_eq_ok.1 hscenario
  obtain rfl := Except.ok.inj hscenario
  obtain ⟨a, s, r, t, result, startedAt, finishedAt⟩ := x
  cases result with
  | none =>
    obtain ⟨hworker, rfl, rfl⟩ := hx.unexecuted rfl
    refine List.mem_append_right _ (List.mem_map.2 ⟨a, List.mem_filter.2 ⟨?_, ?_⟩, rfl⟩)
    · simpa [Arm.isWorker] using hworker
    · exact decide_eq_true hx.arm
  | some result =>
    obtain ⟨harm, hrun⟩ := hx.executed result rfl
    dsimp only at harm hrun
    subst harm
    unfold deterministicEntries at hdeterministic
    rw [if_pos hx.arm] at hdeterministic
    split_ifs at hdeterministic
    rw [hrun] at hdeterministic
    obtain rfl := Except.ok.inj hdeterministic
    exact List.mem_append_left _ (List.mem_singleton_self _)

/-! ## What is built -/

/-- `planned_replicates`. -/
def BuildCall.plannedReplicates (c : BuildCall) : List ℕ :=
  (planned c.replicateIds c.replicateId).map Int.toNat

/-- `planned_attempts`. -/
def BuildCall.plannedAttempts (c : BuildCall) : List ℕ :=
    (planned c.attempts c.attempt).map Int.toNat

/-- The entries and the digest of a ledger that is built. -/
structure Built (V : Verifier) (R : Runner) (c : BuildCall) (l : List Entry) (root : PyStr) :
    Prop where
  replicates_pos : ∀ n ∈ c.plannedReplicates, 1 ≤ n
  attempts_pos : ∀ n ∈ c.plannedAttempts, 1 ≤ n
  chained : ∀ e ∈ l, e.IsChained
  hashed : ∀ e ∈ l, V.canonicalDigest e.hashed = .ok e.entrySha256
  numbered : (l.map fun e => e.entryIndex) = List.range' 1 l.length
  linked : Linked (fun e : Entry => e.previousEntrySha256) (fun e => e.entrySha256)
    genesisEntrySha256 l
  keys : l.map Entry.key = plannedKeys V c.plannedReplicates c.plannedAttempts
  made : ∀ e ∈ l, ∃ x : PlannedRun,
    x.IsMade V R c c.plannedReplicates c.plannedAttempts ∧ e.toEntryBody = x.entry V c
  listed : ∀ x : PlannedRun, x.IsMade V R c c.plannedReplicates c.plannedAttempts →
    ∃ e ∈ l, e.toEntryBody = x.entry V c
  root : V.canonicalDigest (.obj (unsealedMembers V c c.plannedReplicates c.plannedAttempts
    (l.map fun e => e.members))) = .ok root

/-- The members of a ledger that is built. -/
abbrev builtMembers (V : Verifier) (c : BuildCall) (l : List Entry) (root : PyStr) :
    List (PyStr × Doc) :=
  sealedMembers V c c.plannedReplicates c.plannedAttempts (l.map fun e => e.members) root

theorem planned_ne_nil (ids : Option (List ℤ)) (single : ℤ) : planned ids single ≠ [] := by
  unfold planned
  split <;> simp

theorem BuildCall.plannedReplicates_ne_nil (c : BuildCall) : c.plannedReplicates ≠ [] := by
  simp [BuildCall.plannedReplicates, planned_ne_nil]

theorem BuildCall.plannedAttempts_ne_nil (c : BuildCall) : c.plannedAttempts ≠ [] := by
  simp [BuildCall.plannedAttempts, planned_ne_nil]

/-- A plan of positive identifiers has positive numbers. -/
theorem BuildCall.one_le_planned
    (h : ∀ n ∈ planned c.replicateIds c.replicateId ++ planned c.attempts c.attempt, 1 ≤ n) :
    (∀ n ∈ c.plannedReplicates, 1 ≤ n) ∧ ∀ n ∈ c.plannedAttempts, 1 ≤ n := by
  have htoNat {ids : List ℤ} (hids : ∀ n ∈ ids, 1 ≤ n) : ∀ n ∈ ids.map Int.toNat, 1 ≤ n := by
    intro n hn
    obtain ⟨m, hm, rfl⟩ := List.mem_map.1 hn
    have hle := hids m hm
    omega
  obtain ⟨hreplicates, hattempts⟩ := List.forall_mem_append.1 h
  exact ⟨htoNat hreplicates, htoNat hattempts⟩

theorem buildRunLedger_eq_ok {members : List (PyStr × Doc)}
    (h : buildRunLedger V R c = .ok members) :
    ∃ l root, Built V R c l root ∧ members = builtMembers V c l root := by
  simp only [buildRunLedger] at h
  split_ifs at h with hneg
  obtain ⟨bodies, hbodies, h⟩ := bind_eq_ok.1 h
  obtain ⟨docs, hdocs, h⟩ := bind_eq_ok.1 h
  obtain ⟨root, hroot, h⟩ := bind_eq_ok.1 h
  obtain rfl := Except.ok.inj h
  obtain ⟨l, rfl, rfl, hall, hnumbered, hlinked⟩ := chainEntries_eq_ok hdocs
  obtain ⟨hkeys, hmade⟩ := plannedEntries_eq_ok hbodies
  obtain ⟨hreplicates, hattempts⟩ :=
    BuildCall.one_le_planned (c := c) fun n hn => not_lt.1 fun hlt => hneg ⟨n, hn, hlt⟩
  refine ⟨l, root, ⟨hreplicates, hattempts,
    fun e he => (hall e he).1, fun e he => (hall e he).2, hnumbered, hlinked, ?_, ?_, ?_, hroot⟩,
      rfl⟩
  · rw [List.map_map] at hkeys
    exact hkeys
  · exact fun e he => hmade _ (List.mem_map_of_mem he)
  · intro x hx
    obtain ⟨e, he, heq⟩ := List.mem_map.1 (entry_mem_plannedEntries hbodies hx)
    exact ⟨e, he, heq⟩

/-! ## The plan -/

theorem mem_plannedKeys {replicateIds attempts : List ℕ} {a : Arm} {scenarioId : PyStr} {r t : ℕ} :
    (a, scenarioId, r, t) ∈ plannedKeys V replicateIds attempts ↔
      (∃ s ∈ V.protocol.scenarios, s.id = scenarioId ∧ a ∈ s.armIds.val) ∧
        r ∈ replicateIds ∧ t ∈ attempts := by
  simp only [plannedKeys, List.mem_flatMap, List.mem_map, mem_orderedArms, Prod.mk.injEq]
  constructor
  · rintro ⟨r', hr, t', ht, s, hs, a', ha, rfl, hid, rfl, rfl⟩
    exact ⟨⟨s, hs, hid, ha⟩, hr, ht⟩
  · rintro ⟨⟨s, hs, hid, ha⟩, hr, ht⟩
    exact ⟨r, hr, t, ht, s, hs, a, ha, rfl, hid, rfl, rfl⟩

theorem nodup_orderedArms (s : Scenario) : s.orderedArms.Nodup := by
  have hall : arms.Nodup := by decide
  exact hall.filter _

theorem nodup_plannedKeys {replicateIds attempts : List ℕ} (hr : replicateIds.Nodup)
    (ht : attempts.Nodup) : (plannedKeys V replicateIds attempts).Nodup := by
  refine nodup_flatMap_of_key id (fun k => k.2.2.1) (by simpa using hr) (fun r _ => ?_) ?_
  · refine nodup_flatMap_of_key id (fun k => k.2.2.2) (by simpa using ht) (fun t _ => ?_) ?_
    · refine nodup_flatMap_of_key Scenario.id (fun k => k.2.1) V.protocol.ids_nodup (fun s _ => ?_)
        ?_
      · exact (nodup_orderedArms s).map fun a a' h => (Prod.mk.inj h).1
      · rintro s - k hk
        obtain ⟨a, -, rfl⟩ := List.mem_map.1 hk
        rfl
    · rintro t - k hk
      simp only [List.mem_flatMap, List.mem_map] at hk
      obtain ⟨s, -, a, -, rfl⟩ := hk
      rfl
  · rintro r - k hk
    simp only [List.mem_flatMap, List.mem_map] at hk
    obtain ⟨t, -, s, -, a, -, rfl⟩ := hk
    rfl

/-- The producer makes the runs that the verifier expects. -/
theorem plannedKeys_perm (l : Ledger) :
    (plannedKeys V l.replicateIds.val l.attempts.val).Perm (expectedKeys V l) := by
  refine (List.perm_ext_iff_of_nodup (nodup_plannedKeys l.replicateIds.property l.attempts.property)
    nodup_expectedKeys).2 fun ⟨a, scenarioId, r, t⟩ => ?_
  rw [mem_plannedKeys, mem_expectedKeys]

theorem length_plannedKeys (replicateIds attempts : List ℕ) :
    (plannedKeys V replicateIds attempts).length = replicateIds.length * (attempts.length *
      (V.protocol.scenarios.map fun s => s.armIds.val.length).sum) := by
  have harms : ∀ s ∈ V.protocol.scenarios, s.orderedArms.length = s.armIds.val.length := fun s hs =>
    ((List.perm_ext_iff_of_nodup (nodup_orderedArms s) (V.protocol.arms_nodup s hs)).2
      fun a => mem_orderedArms).length_eq
  simp only [plannedKeys, List.length_flatMap, List.length_map, List.map_const', List.sum_replicate,
    smul_eq_mul, List.map_congr_left harms]

/-! ## Names -/

/-- The identifier of an entry. -/
def entryName (a : Arm) (s : Scenario) (r t : ℕ) : PyStr := pyLit "entry-" ++ runSuffix a s r t

/-- The identifier of a run. -/
def runName (a : Arm) (s : Scenario) (r t : ℕ) : PyStr :=
  (if a.isWorker then pyLit "not-executed-" else pyLit "run-") ++ runSuffix a s r t

theorem PlannedRun.IsMade.runId {x : PlannedRun} {replicateIds attempts : List ℕ}
    (hx : x.IsMade V R c replicateIds attempts) :
    (x.entry V c).runId = runName x.armId x.scenario x.replicateId x.attempt := by
  obtain ⟨a, s, r, t, result, startedAt, finishedAt⟩ := x
  cases result with
  | none =>
    obtain ⟨hworker, -, -⟩ := hx.unexecuted rfl
    exact congrArg (· ++ _) (if_pos hworker).symm
  | some result =>
    obtain ⟨harm, -⟩ := hx.executed result rfl
    dsimp only at harm
    subst harm
    rfl

theorem entryName_inj {a a' : Arm} {s s' : Scenario} {r r' t t' : ℕ}
    (hs : matchesScenarioId s.id = true) (hs' : matchesScenarioId s'.id = true)
    (h : entryName a s r t = entryName a' s' r' t') : a = a' ∧ s.id = s'.id ∧ r = r' ∧ t = t' :=
  (runSuffix_inj hs hs').1 (List.append_cancel_left h)

theorem runName_inj {a a' : Arm} {s s' : Scenario} {r r' t t' : ℕ}
    (hs : matchesScenarioId s.id = true) (hs' : matchesScenarioId s'.id = true)
    (h : runName a s r t = runName a' s' r' t') : a = a' ∧ s.id = s'.id ∧ r = r' ∧ t = t' := by
  have hrun : pyLit "run-" = 114 :: pyLit "un-" := by decide
  have hworker : pyLit "not-executed-" = 110 :: pyLit "ot-executed-" := by decide
  unfold runName at h
  rw [hrun, hworker] at h
  split_ifs at h
  · exact (runSuffix_inj hs hs').1 (List.append_cancel_left h)
  · simp at h
  · simp at h
  · exact (runSuffix_inj hs hs').1 (List.append_cancel_left h)

/-! ## Entries under the protocol -/

/-- A time that the producer writes is read as it was. -/
structure Verifier.ReadsTime (V : Verifier) (t : UtcTime) : Prop where
  isDateTime : V.isDateTime (timestamp t) = true
  fromIsoformat : V.fromIsoformat (replaceZulu (timestamp t)) = some (.ofUtc t)

/-- What the checked-in manifest and the library promise to a call. -/
structure Promised (V : Verifier) (R : Runner) (c : BuildCall) : Prop where
  fixture : V.protocol.fixtureValid = true
  scenarios : V.protocol.scenarios ≠ []
  scenarioIds : ∀ s ∈ V.protocol.scenarios, matchesScenarioId s.id = true
  fixtureManifest : matchesDigest V.protocol.fixtureManifestSha256 = true
  scenarioManifest : matchesDigest V.protocol.scenarioManifestSha256 = true
  ruleCatalog : matchesDigest V.protocol.ruleCatalogSha256 = true
  formula : matchesIdentifier V.protocol.formulaVersion = true
  recordedAt : V.ReadsTime c.recordedAt
  runs : ∀ s r t startedAt result finishedAt, R.run s r t = .ok (startedAt, result, finishedAt) →
    V.ReadsTime startedAt ∧ V.ReadsTime finishedAt

/-- A run did not end before it started, raised no signal, and repeats no issue code that it
meets. -/
structure RunAccepted (s : Scenario) (startedAt : UtcTime) (result : Result)
    (finishedAt : UtcTime) :
    Prop where
  ordered : startedAt ≤ finishedAt
  safe : result.unsafeSignals.raised = false
  plain : ¬ RepeatsMetCode s result

section Entries

variable {x : PlannedRun} {replicateIds attempts : List ℕ} {e : Entry} {l : Ledger}

theorem PlannedRun.IsMade.readsTime (hP : Promised V R c)
    (hx : x.IsMade V R c replicateIds attempts) :
    V.ReadsTime x.startedAt ∧ V.ReadsTime x.finishedAt := by
  cases hresult : x.result with
  | none =>
    obtain ⟨-, hstarted, hfinished⟩ := hx.unexecuted hresult
    rw [hstarted, hfinished]
    exact ⟨hP.recordedAt, hP.recordedAt⟩
  | some result => exact hP.runs _ _ _ _ _ _ (hx.executed result hresult).2

theorem ordered_entry (hstarted : V.ReadsTime x.startedAt) (hfinished : V.ReadsTime x.finishedAt)
    (he : e.toEntryBody = x.entry V c) : Ordered V e ↔ x.startedAt ≤ x.finishedAt := by
  unfold Ordered
  rw [he]
  show (∃ started finished, V.fromIsoformat (replaceZulu (timestamp x.startedAt)) = some started ∧
    V.fromIsoformat (replaceZulu (timestamp x.finishedAt)) = some finished ∧ _) ↔ _
  rw [hstarted.fromIsoformat, hfinished.fromIsoformat]
  simp [DateTime.ofUtc, DateTime.instant]

/-- The entry reports its run exactly if the two classifiers agree on it. -/
theorem reported_entry : Reported (x.entry V c) x.scenario ↔
    ∀ result ∈ x.result, result.unsafeSignals.raised = false ∧
      ¬ RepeatsMetCode x.scenario result := by
  cases hresult : x.result with
  | none =>
    have hexecution : (x.entry V c).executionStatus = .notExecuted := by
      simp [PlannedRun.entry, buildEntry, hresult]
    refine iff_of_true ⟨fun _ => ?_, ?_, ?_⟩ (by simp)
    · simp [PlannedRun.entry, buildEntry, hresult]
    · simp [hexecution]
    · simp [hexecution]
  | some result =>
    have hentry : (x.entry V c).executionStatus = .executed ∧ (x.entry V c).result = some result ∧
        (x.entry V c).issueCodes = result.issueCodes.val ∧
        (x.entry V c).status = classifyScenarioObservation x.scenario (some result) none := by
      simp [PlannedRun.entry, buildEntry, hresult]
    obtain ⟨hexecution, hgiven, hcodes, hstatus⟩ := hentry
    have hiff : Reported (x.entry V c) x.scenario ↔
        classifyScenarioObservation x.scenario (some result) none =
          contractStatus result x.scenario.expected := by
      constructor
      · intro h
        rw [← hstatus]
        exact (h.observed result hexecution hgiven).2
      · intro h
        refine ⟨by simp [hexecution], by simp [hgiven], fun result' _ hresult' => ?_⟩
        obtain rfl := Option.some.inj (hgiven.symm.trans hresult')
        exact ⟨hcodes.symm, hstatus.trans h⟩
    rw [hiff, classify_eq_contractStatus_iff]
    simp

theorem measured_unknownLatency : Measured unknownLatency.complete
    [unknownLatency.endToEndMs.isSome, unknownLatency.activeComputeMs.isSome,
      unknownLatency.humanWaitMs.isSome] unknownLatency.unknownReason :=
  ⟨nofun, fun _ => ⟨by decide, nofun⟩⟩

theorem measured_unknownCost : Measured unknownCost.complete
    [unknownCost.inputTokens.isSome, unknownCost.outputTokens.isSome,
      unknownCost.totalTokens.isSome, unknownCost.totalCost.isSome, unknownCost.currency.isSome,
      unknownCost.rateCardId.isSome]
    unknownCost.unknownReason :=
  ⟨nofun, fun _ => ⟨by decide, nofun⟩⟩

theorem latencyAllowed_unknownLatency {F : Floats} : LatencyAllowed F unknownLatency :=
  ⟨rfl, rfl, rfl, by decide⟩

theorem costAllowed_unknownCost {F : Floats} : CostAllowed F unknownCost :=
  ⟨rfl, nofun, nofun, by decide⟩

/-- The entry follows the protocol exactly if its run is accepted. -/
theorem entryMeets_entry (hP : Promised V R c) (hx : x.IsMade V R c replicateIds attempts)
    (he : e.toEntryBody = x.entry V c) (hl : l.repositoryCommit = c.repositoryCommit) :
    EntryMeets V l e x.scenario ↔
      ∀ result ∈ x.result, RunAccepted x.scenario x.startedAt result x.finishedAt := by
  obtain ⟨hstarted, hfinished⟩ := hx.readsTime hP
  have hordered : Ordered V e ↔ x.startedAt ≤ x.finishedAt := ordered_entry hstarted hfinished he
  have hreported : Reported e.toEntryBody x.scenario ↔ _ := he ▸ reported_entry (V := V) (c := c)
  constructor
  · intro h result hresult
    obtain ⟨hsafe, hplain⟩ := hreported.1 h.reported result hresult
    exact ⟨hordered.1 h.ordered, hsafe, hplain⟩
  · intro h
    have hle : x.startedAt ≤ x.finishedAt := by
      cases hresult : x.result with
      | none =>
        obtain ⟨-, hs, hf⟩ := hx.unexecuted hresult
        rw [hs, hf]
      | some result => exact (h result hresult).ordered
    have hworker (hexecution : e.executionStatus = .executed) : ¬ e.armId.isWorker := by
      rw [he] at hexecution ⊢
      cases hresult : x.result with
      | none => simp [PlannedRun.entry, buildEntry, hresult] at hexecution
      | some result =>
        obtain ⟨harm, -⟩ := hx.executed result hresult
        show ¬ x.armId.isWorker
        rw [harm]
        decide
    have hobserved : Reported e.toEntryBody x.scenario :=
      hreported.2 fun result hresult => ⟨(h result hresult).safe, (h result hresult).plain⟩
    have hordered := hordered.2 hle
    obtain ⟨body, index, previous, digest, members⟩ := e
    dsimp only at he
    subst he
    exact {
      arm := hx.arm
      fixture := rfl
      scenarioManifest := rfl
      commit := hl.symm
      ruleCatalog := rfl
      formula := rfl
      unexecuted := fun _ => rfl
      ordered := hordered
      reported := hobserved
      latency := measured_unknownLatency
      cost := measured_unknownCost
      evidenced := ⟨fun _ => ⟨rfl, rfl⟩, fun hexecution hw => absurd hw (hworker hexecution),
        fun hexecution hw => absurd hw (hworker hexecution)⟩ }

/-- The schema takes the entry exactly if it takes its names and the commit. -/
theorem entryAllowed_entry (hP : Promised V R c) (hx : x.IsMade V R c replicateIds attempts)
    (hreplicates : ∀ n ∈ replicateIds, 1 ≤ n) (hattempts : ∀ n ∈ attempts, 1 ≤ n) :
    EntryAllowed V.floats V.isDateTime (x.entry V c) ↔
      (matchesIdentifier (entryName x.armId x.scenario x.replicateId x.attempt) = true ∧
        matchesIdentifier (runName x.armId x.scenario x.replicateId x.attempt) = true) ∧
      matchesCommit c.repositoryCommit = true := by
  obtain ⟨hstarted, hfinished⟩ := hx.readsTime hP
  rw [← hx.runId]
  constructor
  · intro h
    exact ⟨⟨h.entryId, h.runId⟩, h.commit⟩
  · rintro ⟨⟨hentry, hrun⟩, hcommit⟩
    have hnone {P : PyStr → Prop} : ∀ s ∈ (none : Option PyStr), P s := by simp
    have hcodes : (x.entry V c).issueCodes.Nodup := by
      cases hresult : x.result with
      | none => simp [PlannedRun.entry, buildEntry, hresult]
      | some result => simpa [PlannedRun.entry, buildEntry, hresult]
          using result.issueCodes.property
    exact {
      issueCodes := hcodes
      entryId := hentry
      scenarioId := hP.scenarioIds _ hx.scenario
      replicateId := hreplicates _ hx.replicateId
      attempt := hattempts _ hx.attempt
      runId := hrun
      startedAt := hstarted.isDateTime
      finishedAt := hfinished.isDateTime
      fixtureManifest := hP.fixtureManifest
      scenarioManifest := hP.scenarioManifest
      commit := hcommit
      ruleCatalog := hP.ruleCatalog
      formula := hP.formula
      modelProviderId := hnone
      modelId := hnone
      modelConfigurationDigest := hnone
      agentteamsVersion := hnone
      agentteamsCommit := hnone
      workerEvidenceSha256 := hnone
      latency := latencyAllowed_unknownLatency
      cost := costAllowed_unknownCost }

end Entries

/-! ## The ledger -/

/-- The schema takes the names of the planned runs. -/
def NamesAllowed (V : Verifier) (c : BuildCall) : Prop :=
  ∀ s ∈ V.protocol.scenarios, ∀ a ∈ s.armIds.val, ∀ r ∈ c.plannedReplicates,
    ∀ t ∈ c.plannedAttempts,
    matchesIdentifier (entryName a s r t) = true ∧ matchesIdentifier (runName a s r t) = true

/-- Every deterministic run of the plan is accepted. -/
def RunsAccepted (V : Verifier) (R : Runner) (c : BuildCall) : Prop :=
  ∀ s ∈ V.protocol.scenarios, .deterministicReference ∈ s.armIds.val → ∀ r ∈ c.plannedReplicates,
    ∀ t ∈ c.plannedAttempts, ∀ startedAt result finishedAt,
      R.run s r t = .ok (startedAt, result, finishedAt) → RunAccepted s startedAt result finishedAt

/-- What a call must meet for its ledger to be verified. -/
structure Publishable (V : Verifier) (R : Runner) (c : BuildCall) : Prop where
  replicates_nodup : c.plannedReplicates.Nodup
  attempts_nodup : c.plannedAttempts.Nodup
  commit : matchesCommit c.repositoryCommit = true
  names : NamesAllowed V c
  runs : RunsAccepted V R c

section Ledger

variable {l : List Entry} {root : PyStr} {commit : Option PyStr}

/-- A planned run has an entry. -/
theorem Built.exists_entry (h : Built V R c l root) {s : Scenario} {a : Arm} {r t : ℕ}
    (hs : s ∈ V.protocol.scenarios) (ha : a ∈ s.armIds.val) (hr : r ∈ c.plannedReplicates)
    (ht : t ∈ c.plannedAttempts) :
    ∃ e ∈ l, ∃ x : PlannedRun, x.IsMade V R c c.plannedReplicates c.plannedAttempts ∧
      e.toEntryBody = x.entry V c ∧ x.armId = a ∧ x.scenario = s ∧ x.replicateId = r ∧
        x.attempt = t := by
  have hkey : (a, s.id, r, t) ∈ l.map Entry.key := by
    rw [h.keys, mem_plannedKeys]
    exact ⟨⟨s, hs, rfl, ha⟩, hr, ht⟩
  obtain ⟨e, he, hkey⟩ := List.mem_map.1 hkey
  obtain ⟨x, hx, hentry⟩ := h.made e he
  unfold Entry.key at hkey
  rw [hentry] at hkey
  obtain ⟨ha, hid, hr, ht⟩ :
      x.armId = a ∧ x.scenario.id = s.id ∧ x.replicateId = r ∧ x.attempt = t := by
    simpa [PlannedRun.entry, buildEntry] using hkey
  exact ⟨e, he, x, hx, hentry, ha, List.inj_on_of_nodup_map V.protocol.ids_nodup hx.scenario hs hid,
    hr, ht⟩

theorem Built.length_eq (h : Built V R c l root) :
    l.length = c.plannedReplicates.length * (c.plannedAttempts.length *
      (V.protocol.scenarios.map fun s => s.armIds.val.length).sum) := by
  rw [← length_plannedKeys, ← h.keys, List.length_map]

theorem Built.ne_nil (hP : Promised V R c) (h : Built V R c l root) : l ≠ [] := by
  obtain ⟨s, hs⟩ := List.exists_mem_of_ne_nil _ hP.scenarios
  obtain ⟨a, ha⟩ := List.exists_mem_of_ne_nil _ s.armIds.property
  obtain ⟨r, hr⟩ := List.exists_mem_of_ne_nil _ c.plannedReplicates_ne_nil
  obtain ⟨t, ht⟩ := List.exists_mem_of_ne_nil _ c.plannedAttempts_ne_nil
  obtain ⟨e, he, -⟩ := h.exists_entry hs ha hr ht
  exact List.ne_nil_of_mem he

theorem Built.chainedAllowed_iff (hP : Promised V R c) (h : Built V R c l root) :
    (∀ e ∈ l, ChainedAllowed V.floats V.isDateTime e) ↔
      NamesAllowed V c ∧ matchesCommit c.repositoryCommit = true := by
  have hbody {e : Entry} {x : PlannedRun}
    (hx : x.IsMade V R c c.plannedReplicates c.plannedAttempts)
      (hentry : e.toEntryBody = x.entry V c) :
          EntryAllowed V.floats V.isDateTime e.toEntryBody ↔ _ :=
    hentry ▸ entryAllowed_entry hP hx h.replicates_pos h.attempts_pos
  constructor
  · intro hall
    constructor
    · intro s hs a ha r hr t ht
      obtain ⟨e, he, x, hx, hentry, rfl, rfl, rfl, rfl⟩ := h.exists_entry hs ha hr ht
      exact ((hbody hx hentry).1 (hall e he).body).1
    · obtain ⟨e, he⟩ := List.exists_mem_of_ne_nil l (h.ne_nil hP)
      obtain ⟨x, hx, hentry⟩ := h.made e he
      exact ((hbody hx hentry).1 (hall e he).body).2
  · rintro ⟨hnames, hcommit⟩ e he
    obtain ⟨x, hx, hentry⟩ := h.made e he
    refine ⟨?_, matchesDigest_previous matchesDigest_genesis h.hashed h.linked e he,
      matchesDigest_canonicalDigest (h.hashed e he), (hbody hx hentry).2 ⟨?_, hcommit⟩⟩
    · have hindex : e.entryIndex ∈ List.range' 1 l.length := h.numbered ▸ List.mem_map_of_mem he
      exact (List.mem_range'_1.1 hindex).1
    · exact hnames _ hx.scenario _ hx.arm _ hx.replicateId _ hx.attempt

theorem Built.hasText (h : Built V R c l root) : HasText V (.obj (builtMembers V c l root)) :=
  (canonicalDigest_ok_iff.1 ⟨root, h.root⟩).snoc (by decide) (isText_of_canonicalDigest h.root)

/-! ## Depth -/

@[simp] theorem depth_textDoc? (s : Option PyStr) : (textDoc? s).depth = 0 := by cases s <;> rfl

@[simp] theorem depth_natDoc? (n : Option ℕ) : (natDoc? n).depth = 0 := by cases n <;> rfl

@[simp] theorem depth_amountDoc? (a : Option Amount) : (amountDoc? a).depth = 0 := by
  rcases a with _ | _ | _ <;> rfl

@[simp] theorem depth_boolDoc? (b : Option Bool) : (boolDoc? b).depth = 0 := by cases b <;> rfl

theorem depth_codesDoc (l : List Code) : (codesDoc l).depth ≤ 1 := by
  refine Nat.succ_le_succ (depthItems_le_iff.2 fun v hv => ?_)
  obtain ⟨c, -, rfl⟩ := List.mem_map.1 hv
  exact le_rfl

theorem depth_result (r : Result) : (Json.obj r.members).depth ≤ 2 := by
  have hcodes := depth_codesDoc r.issueCodes.val
  have hevents := depth_codesDoc r.traceEvents.val
  refine Nat.succ_le_succ (depthMembers_le_iff.2 ?_)
  simp [Result.members, Json.depth, depthMembers, hcodes, hevents]

/-- What the producer writes of a run has at most two levels. -/
theorem depth_entry (x : PlannedRun) : ∀ m ∈ (x.entry V c).members, m.2.depth ≤ 2 := by
  have hcodes : (codesDoc (x.entry V c).issueCodes).depth ≤ 2 :=
    (depth_codesDoc _).trans (by decide)
  have hresult : (objectDoc? ((x.entry V c).result.map Result.members)).depth ≤ 2 := by
    cases hx : (x.entry V c).result with
    | none => exact Nat.zero_le _
    | some r => exact depth_result r
  have hworker : (objectDoc? (x.entry V c).workerEvidence).depth ≤ 2 := Nat.zero_le _
  simp only [EntryBody.members, List.forall_mem_cons, depth_textDoc?, Json.depth, Latency.doc,
    Cost.doc, depthMembers, depth_amountDoc?, depth_natDoc?, List.not_mem_nil, false_imp_iff,
    implies_true, and_true]
  simp [hcodes, hresult, hworker]

theorem depth_planDoc (replicateIds attempts : List ℕ) :
    (planDoc replicateIds attempts).depth ≤ 2 := by
  have hids (ids : List ℕ) : (Json.arr (ids.map fun (n : ℕ) => (.int n : Doc))).depth ≤ 1 := by
    refine Nat.succ_le_succ (depthItems_le_iff.2 (List.forall_mem_map.2 fun n _ => ?_))
    exact le_rfl
  refine Nat.succ_le_succ (depthMembers_le_iff.2 ?_)
  simp only [List.forall_mem_cons, List.not_mem_nil, false_imp_iff, implies_true, and_true]
  exact ⟨hids _, hids _, Nat.zero_le _, Nat.zero_le _, Nat.zero_le _⟩

theorem depth_chained {e : Entry} (h : e.IsChained)
    (hbody : ∀ m ∈ e.toEntryBody.members, m.2.depth ≤ 2) : ∀ m ∈ e.members, m.2.depth ≤ 2 := by
  rw [h]
  refine List.forall_mem_append.2 ⟨List.forall_mem_append.2 ⟨hbody, ?_⟩, ?_⟩
  · exact List.forall_mem_cons.2 ⟨Nat.zero_le _, List.forall_mem_singleton.2 (Nat.zero_le _)⟩
  · exact List.forall_mem_singleton.2 (Nat.zero_le _)

/-- No ledger that is built has more than five levels. -/
theorem Built.depth_le (h : Built V R c l root) :
    (Json.obj (builtMembers V c l root)).depth ≤ 5 := by
  have hentries : (Json.arr ((l.map fun e => e.members).map fun members => Json.obj members)).depth
      ≤ 4 := by
    refine Nat.succ_le_succ (depthItems_le_iff.2 ?_)
    refine List.forall_mem_map.2 (List.forall_mem_map.2 fun e he => ?_)
    obtain ⟨x, -, hentry⟩ := h.made e he
    refine Nat.succ_le_succ (depthMembers_le_iff.2 (depth_chained (h.chained e he) ?_))
    rw [hentry]
    exact depth_entry x
  have hplan := (depth_planDoc c.plannedReplicates c.plannedAttempts).trans (by decide : 2 ≤ 4)
  have hprovenance : (provenanceDoc V c).depth ≤ 4 :=
    Nat.succ_le_succ (depthMembers_le_iff.2 (by simp [Json.depth]))
  refine Nat.succ_le_succ (depthMembers_le_iff.2 ?_)
  refine List.forall_mem_append.2 ⟨?_, List.forall_mem_singleton.2 (Nat.zero_le _)⟩
  simp only [unsealedMembers, List.forall_mem_cons, List.not_mem_nil, false_imp_iff, implies_true,
    and_true]
  exact ⟨Nat.zero_le _, Nat.zero_le _, Nat.zero_le _, Nat.zero_le _, hplan, hentries, hprovenance⟩

/-- The ledger is parsed as it is. -/
theorem Built.parse (h : Built V R c l root) :
    V.parse (.mapping (builtMembers V c l root)) = .ok (.obj (builtMembers V c l root)) := by
  have hdepth := h.depth_le
  have hcalls := V.finiteCalls_ge
  have hfinite := finite_of_depth _ V.finiteCalls h.hasText.finite (by omega)
  rw [Verifier.parse, hfinite]
  rfl

/-- The schema takes the ledger exactly if nothing is planned twice and it takes the commit and the
names. -/
theorem Built.schema_iff (hP : Promised V R c) (h : Built V R c l root) {ledger : Ledger} :
    V.schema (.obj (builtMembers V c l root)) = some ledger ↔
      (NamesAllowed V c ∧ matchesCommit c.repositoryCommit = true) ∧
        ∃ hr ht, ledger = c.ledger V ⟨c.plannedReplicates, hr⟩ ⟨c.plannedAttempts, ht⟩ l root := by
  have hindex : (l.map fun e => e.entryIndex).Nodup := h.numbered ▸ List.nodup_range'
  rw [ledger_sealedMembers h.chained hindex, h.chainedAllowed_iff hP]
  constructor
  · rintro ⟨-, ⟨-, hnames⟩, hledger⟩
    exact ⟨hnames, hledger⟩
  · rintro ⟨hnames, hr, ht, rfl⟩
    refine ⟨?_, ⟨h.ne_nil hP, hnames⟩, hr, ht, rfl⟩
    exact {
      replicates_pos := h.replicates_pos
      replicates_ne := c.plannedReplicates_ne_nil
      replicates_nodup := hr
      attempts_pos := h.attempts_pos
      attempts_ne := c.plannedAttempts_ne_nil
      attempts_nodup := ht
      ledgerId := matchesIdentifier_ledgerId c.recordedAt
      recordedAt := hP.recordedAt.isDateTime
      fixtureManifest := hP.fixtureManifest
      scenarioManifest := hP.scenarioManifest
      commit := hnames.2
      root := matchesDigest_canonicalDigest h.root }

/-- The identifiers of the entries and of the runs are different if the planned keys are. -/
theorem Built.nodup_names (hP : Promised V R c) (h : Built V R c l root)
    (hkeys : (l.map Entry.key).Nodup) :
    (l.map fun e => e.entryId).Nodup ∧ (l.map fun e => e.runId).Nodup := by
  have hname {f : Entry → PyStr} (hinj : ∀ e ∈ l, ∀ e' ∈ l, f e = f e' → e.key = e'.key) :
      (l.map f).Nodup := by
    refine (List.Nodup.of_map _ hkeys).map_on fun e he e' he' heq => ?_
    exact List.inj_on_of_nodup_map hkeys he he' (hinj e he e' he' heq)
  have hkey {x y : PlannedRun} {e e' : Entry} (he : e.toEntryBody = x.entry V c)
      (he' : e'.toEntryBody = y.entry V c) (heq : x.armId = y.armId ∧
        x.scenario.id = y.scenario.id ∧
        x.replicateId = y.replicateId ∧ x.attempt = y.attempt) : e.key = e'.key := by
    unfold Entry.key
    rw [he, he']
    simpa [PlannedRun.entry, buildEntry] using heq
  constructor
  · refine hname fun e he e' he' heq => ?_
    obtain ⟨x, hx, hentry⟩ := h.made e he
    obtain ⟨y, hy, hentry'⟩ := h.made e' he'
    rw [hentry, hentry'] at heq
    exact hkey hentry hentry'
      (entryName_inj (hP.scenarioIds _ hx.scenario) (hP.scenarioIds _ hy.scenario) heq)
  · refine hname fun e he e' he' heq => ?_
    obtain ⟨x, hx, hentry⟩ := h.made e he
    obtain ⟨y, hy, hentry'⟩ := h.made e' he'
    rw [hentry, hentry', hx.runId, hy.runId] at heq
    exact hkey hentry hentry'
      (runName_inj (hP.scenarioIds _ hx.scenario) (hP.scenarioIds _ hy.scenario) heq)

/-- The ledger is certified exactly if the verifier expects its commit and its runs are accepted. -/
theorem Built.certified_iff (hP : Promised V R c) (h : Built V R c l root)
    (hr : c.plannedReplicates.Nodup) (ht : c.plannedAttempts.Nodup) :
    Certified V (c.ledger V ⟨_, hr⟩ ⟨_, ht⟩ l root) commit ↔
      commit = some c.repositoryCommit ∧ RunsAccepted V R c := by
  have hkeys : (l.map Entry.key).Nodup := h.keys ▸ nodup_plannedKeys hr ht
  have hmeets {e : Entry} {x : PlannedRun}
    (hx : x.IsMade V R c c.plannedReplicates c.plannedAttempts)
      (hentry : e.toEntryBody = x.entry V c) :
      EntryMeets V (c.ledger V ⟨_, hr⟩ ⟨_, ht⟩ l root) e x.scenario ↔ _ :=
    entryMeets_entry hP hx hentry rfl
  constructor
  · intro hcertified
    refine ⟨hcertified.commit, fun s hs harm r hr t ht startedAt result finishedAt hrun => ?_⟩
    have hx : PlannedRun.IsMade V R c c.plannedReplicates c.plannedAttempts
        ⟨.deterministicReference, s, r, t, some result, startedAt, finishedAt⟩ :=
      ⟨hs, hr, ht, harm, fun _ hresult => Option.mem_some_iff.1 hresult ▸ ⟨rfl, hrun⟩, nofun⟩
    obtain ⟨e, he, hentry⟩ := h.listed _ hx
    obtain ⟨s', hs', hid, hmet⟩ := hcertified.meets e he
    have hscenario : e.scenarioId = s.id := by
      rw [hentry]
      rfl
    obtain rfl : s' = s :=
      List.inj_on_of_nodup_map V.protocol.ids_nodup hs' hs (hid.trans hscenario)
    exact (hmeets hx hentry).1 hmet result rfl
  · rintro ⟨hcommit, hruns⟩
    obtain ⟨hids, hnames⟩ := h.nodup_names hP hkeys
    have hunnamed {e : Entry} (he : e ∈ l) : e.modelConfigurationDigest = none := by
      obtain ⟨x, -, hentry⟩ := h.made e he
      rw [hentry]
      rfl
    refine ⟨rfl, rfl, hcommit, h.numbered, h.linked, h.hashed, ?_, hids, hnames, fun e he => ?_, ?_,
      h.root⟩
    · have hperm := plannedKeys_perm (V := V) (c.ledger V ⟨_, hr⟩ ⟨_, ht⟩ l root)
      show (l.map Entry.key).Perm _
      rw [h.keys]
      exact hperm
    · obtain ⟨x, hx, hentry⟩ := h.made e he
      refine ⟨x.scenario, hx.scenario, ?_, (hmeets hx hentry).2 fun result hresult => ?_⟩
      · rw [hentry]
        rfl
      · obtain ⟨harm, hrun⟩ := hx.executed result hresult
        exact hruns _ hx.scenario (harm ▸ hx.arm) _ hx.replicateId _ hx.attempt _ _ _ hrun
    · intro s _ r _ _ e he e' he'
      have hmem {e : Entry}
          (he : e ∈ llmPair (pairOf (c.ledger V ⟨_, hr⟩ ⟨_, ht⟩ l root) s.id r)) : e ∈ l := by
        have hselected := mem_of_mem_pairOf (List.mem_of_mem_filter he)
        exact hselected
      rw [hunnamed (hmem he), hunnamed (hmem he')]

theorem Built.publishable_iff (hP : Promised V R c) (h : Built V R c l root) {ledger : Ledger} :
    V.schema (.obj (builtMembers V c l root)) = some ledger ∧ Certified V ledger commit ↔
      (Publishable V R c ∧ commit = some c.repositoryCommit) ∧
        ∃ hr ht, ledger = c.ledger V ⟨c.plannedReplicates, hr⟩ ⟨c.plannedAttempts, ht⟩ l root := by
  rw [h.schema_iff hP]
  constructor
  · rintro ⟨⟨⟨hnames, hcommit⟩, hr, ht, rfl⟩, hcertified⟩
    obtain ⟨hexpected, hruns⟩ := (h.certified_iff hP hr ht).1 hcertified
    exact ⟨⟨⟨hr, ht, hcommit, hnames, hruns⟩, hexpected⟩, hr, ht, rfl⟩
  · rintro ⟨⟨hpublishable, hexpected⟩, hr, ht, rfl⟩
    exact ⟨⟨⟨hpublishable.names, hpublishable.commit⟩, hr, ht, rfl⟩,
      (h.certified_iff hP hr ht).2 ⟨hexpected, hpublishable.runs⟩⟩

theorem Built.verified_iff (hP : Promised V R c) (h : Built V R c l root) {n : ℕ} :
    verifyRunLedger V (.mapping (builtMembers V c l root)) commit = .ok (verifiedResult n) ↔
      Publishable V R c ∧ commit = some c.repositoryCommit ∧
        n = c.plannedReplicates.length * (c.plannedAttempts.length *
          (V.protocol.scenarios.map fun s => s.armIds.val.length).sum) := by
  rw [verifyRunLedger_eq_verified_iff]
  constructor
  · rintro ⟨v, ledger, hparse, hschema, -, hcertified, rfl⟩
    obtain rfl := Except.ok.inj (h.parse.symm.trans hparse)
    obtain ⟨⟨hpublishable, hexpected⟩, hr, ht, rfl⟩ :=
      (h.publishable_iff hP).1 ⟨hschema, hcertified⟩
    exact ⟨hpublishable, hexpected, h.length_eq⟩
  · rintro ⟨hpublishable, hexpected, rfl⟩
    obtain ⟨hschema, hcertified⟩ := (h.publishable_iff hP).2 ⟨⟨hpublishable, hexpected⟩,
      hpublishable.replicates_nodup, hpublishable.attempts_nodup, rfl⟩
    exact ⟨_, _, h.parse, hschema, hP.fixture, hcertified, h.length_eq⟩

end Ledger

end Producer

end ProofFlow.Evaluation
