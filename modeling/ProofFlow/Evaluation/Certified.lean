import ProofFlow.Evaluation.Verify
import ProofFlow.Kit.Linked

/-!
# What a verified ledger says

`Certified` states what `verify_run_ledger` is for, without its passes: the entries are numbered and
linked by their recomputed digests, they are exactly the planned runs, and each one reports its run
under the frozen protocol.  `ledgerReasons_eq_nil_iff` shows that the verifier has no reason against
a ledger exactly if it is certified.  The checks of the groups of attempts, of the arms of a pair,
and of the rule catalog and the formula within a pair are implied by the others.
-/

namespace ProofFlow.Evaluation

open Kit

/-! ## Entries -/

/-- A complete measurement has every value and no reason for a missing one; another one has no value
and a reason. -/
structure Measured (complete : Bool) (present : List Bool) (unknownReason : Option PyStr) :
    Prop where
  of_complete : complete = true → false ∉ present ∧ unknownReason = none
  of_incomplete : complete = false → true ∉ present ∧ unknownReason ≠ none

theorem measurementReasons_eq_nil {kind : String} {complete : Bool} {present : List Bool}
    {unknownReason : Option PyStr} :
    measurementReasons kind complete present unknownReason = [] ↔
      Measured complete present unknownReason := by
  unfold measurementReasons
  cases complete with
  | true =>
    have hiff : Measured true present unknownReason ↔ false ∉ present ∧ unknownReason = none :=
      ⟨fun h => h.of_complete rfl, fun h => ⟨fun _ => h, nofun⟩⟩
    rw [hiff]
    simp
  | false =>
    have hiff : Measured false present unknownReason ↔ true ∉ present ∧ unknownReason ≠ none :=
      ⟨fun h => h.of_incomplete rfl, fun h => ⟨nofun, fun _ => h⟩⟩
    rw [hiff]
    simp [Option.ne_none_iff_isSome]

/-- The entry reports what its run gave, by the contract of its scenario. -/
structure Reported (e : EntryBody) (scenario : Scenario) : Prop where
  unexecuted : e.executionStatus = .notExecuted → e.status = .unknown ∧ e.result = none
  missing : e.executionStatus = .executed → e.result = none → e.status = .unknown
  observed : ∀ r, e.executionStatus = .executed → e.result = some r →
    r.issueCodes.val = e.issueCodes ∧ e.status = contractStatus r scenario.expected

theorem resultReasons_eq_nil {e : EntryBody} {scenario : Scenario} :
    resultReasons e scenario = [] ↔ Reported e scenario := by
  unfold resultReasons
  cases hexecution : e.executionStatus with
  | notExecuted =>
    have hiff : Reported e scenario ↔ e.status = .unknown ∧ e.result = none := by
      refine ⟨fun h => h.unexecuted hexecution, fun h => ⟨fun _ => h, ?_, ?_⟩⟩
      · simp [hexecution]
      · simp [hexecution]
    rw [hiff]
    simp
  | executed =>
    cases hresult : e.result with
    | none =>
      have hiff : Reported e scenario ↔ e.status = .unknown := by
        refine ⟨fun h => h.missing hexecution hresult, fun h => ⟨?_, fun _ _ => h, ?_⟩⟩
        · simp [hexecution]
        · simp [hresult]
      rw [hiff]
      simp
    | some r =>
      have hiff : Reported e scenario ↔
          r.issueCodes.val = e.issueCodes ∧ e.status = contractStatus r scenario.expected := by
        refine ⟨fun h => h.observed r hexecution hresult, fun h => ⟨?_, ?_, ?_⟩⟩
        · simp [hexecution]
        · simp [hresult]
        · intro r' _ hr'
          rw [hresult] at hr'
          obtain rfl := Option.some.inj hr'
          exact h
      rw [hiff]
      simp

section Verifier

variable (V : Verifier)

/-- The run did not end before it started. -/
def Ordered (e : Entry) : Prop :=
  ∃ started finished, V.fromIsoformat (replaceZulu e.startedAt) = some started ∧
    V.fromIsoformat (replaceZulu e.finishedAt) = some finished ∧
    started.utcoffset.isSome = finished.utcoffset.isSome ∧ started.instant ≤ finished.instant

/-- The entry has the evidence of its Workers, and none if no Worker ran. -/
structure Evidenced (e : Entry) : Prop where
  absent : e.executionStatus = .notExecuted ∨ ¬ e.armId.isWorker →
    e.workerEvidence = none ∧ e.workerEvidenceSha256 = none
  present : e.executionStatus = .executed → e.armId.isWorker →
    ∃ evidence sha, e.workerEvidence = some evidence ∧ e.workerEvidenceSha256 = some sha ∧
      V.canonicalDigest (.obj evidence) = .ok sha ∧ V.workerSchema evidence = true ∧
      bindsEntry evidence e = true ∧
      V.gateWorkerExecutionEvidence evidence e.armId e.scenarioId e.repositoryCommit = .ok .ready
  pinned : e.executionStatus = .executed → e.armId.isWorker →
    e.modelConfigurationDigest ≠ none ∧ e.agentteamsVersion = some expectedAgentteamsVersion ∧
      e.agentteamsCommit = some expectedAgentteamsCommit

/-- The entry of a ledger is one of its scenario under the frozen protocol. -/
structure EntryMeets (l : Ledger) (e : Entry) (scenario : Scenario) : Prop where
  arm : e.armId ∈ scenario.armIds.val
  fixture : e.fixtureManifestSha256 = V.protocol.fixtureManifestSha256
  scenarioManifest : e.scenarioManifestSha256 = V.protocol.scenarioManifestSha256
  commit : e.repositoryCommit = l.repositoryCommit
  ruleCatalog : e.ruleCatalogSha256 = V.protocol.ruleCatalogSha256
  formula : e.formulaVersion = V.protocol.formulaVersion
  unexecuted : e.executionStatus = .notExecuted ∨ ¬ e.armId.isWorker → e.namesModel = false
  ordered : Ordered V e
  reported : Reported e.toEntryBody scenario
  latency : Measured e.latency.complete
    [e.latency.endToEndMs.isSome, e.latency.activeComputeMs.isSome, e.latency.humanWaitMs.isSome]
    e.latency.unknownReason
  cost : Measured e.cost.complete
    [e.cost.inputTokens.isSome, e.cost.outputTokens.isSome, e.cost.totalTokens.isSome,
      e.cost.totalCost.isSome, e.cost.currency.isSome, e.cost.rateCardId.isSome]
        e.cost.unknownReason
  evidenced : Evidenced V e

variable {V} {l : Ledger} {e : Entry} {scenario : Scenario} {commit : Option PyStr}

theorem timestampReasons_eq_nil : timestampReasons V e = .ok [] ↔ Ordered V e := by
  unfold timestampReasons Ordered
  cases hstarted : V.fromIsoformat (replaceZulu e.startedAt) with
  | none => simp
  | some started =>
    cases hfinished : V.fromIsoformat (replaceZulu e.finishedAt) with
    | none => simp
    | some finished =>
      simp only [Option.some.injEq, isBefore]
      split_ifs with h
      · simp [Except.map, h]
      · simp [Except.map, Ne.symm h]

theorem workerHashReasons_eq_nil {evidence : List (PyStr × Doc)} {sha : PyStr} :
    workerHashReasons V evidence sha = .ok [] ↔ V.canonicalDigest (.obj evidence) = .ok sha := by
  unfold workerHashReasons
  split
  · rename_i digest hdigest
    simp [hdigest]
  · rename_i hdigest
    simp [hdigest]
  · rename_i fault _ hdigest
    simp [hdigest]

theorem workerReasons_eq_nil : workerReasons V e = .ok [] ↔ Evidenced V e := by
  unfold workerReasons
  split_ifs with hnone
  · rw [Except.ok.injEq, reasonIf_eq_nil]
    constructor
    · intro h
      push Not at h
      refine ⟨fun _ => by simpa using h, fun hexecuted hworker => ?_, fun hexecuted hworker => ?_⟩
      · rcases hnone with h' | h'
        · rw [h'] at hexecuted
          cases hexecuted
        · exact absurd hworker h'
      · rcases hnone with h' | h'
        · rw [h'] at hexecuted
          cases hexecuted
        · exact absurd hworker h'
    · intro h
      obtain ⟨hevidence, hsha⟩ := h.absent hnone
      simp [hevidence, hsha]
  · push Not at hnone
    obtain ⟨hexecution, hworker⟩ := hnone
    have hexecuted : e.executionStatus = .executed := by
      cases h : e.executionStatus with
      | executed => rfl
      | notExecuted => exact absurd h hexecution
    split
    · rename_i evidence sha hevidence hsha
      simp only [bind_eq_ok, pure, Except.pure, Except.ok.injEq, List.append_eq_nil_iff,
        reasonIf_eq_nil, Bool.not_eq_false, not_not]
      constructor
      · rintro ⟨hash, hhash, gate, hgate, ⟨⟨⟨⟨⟨rfl, hschema⟩, hbinds⟩, hmodel⟩, hversion⟩, hcommit⟩,
          rfl⟩
        refine ⟨fun h => ?_, fun _ _ => ?_, fun _ _ => ⟨hmodel, hversion, hcommit⟩⟩
        · rcases h with h | h
          · exact absurd h hexecution
          · exact absurd hworker h
        · exact ⟨evidence, sha, hevidence, hsha, workerHashReasons_eq_nil.1 hhash, hschema, hbinds,
            hgate⟩
      · intro h
        obtain ⟨evidence', sha', hevidence', hsha', hdigest, hschema, hbinds, hgate⟩ :=
          h.present hexecuted hworker
        obtain ⟨hmodel, hversion, hcommit⟩ := h.pinned hexecuted hworker
        rw [hevidence] at hevidence'
        rw [hsha] at hsha'
        obtain rfl := Option.some.inj hevidence'
        obtain rfl := Option.some.inj hsha'
        exact ⟨[], workerHashReasons_eq_nil.2 hdigest, .ready, hgate,
          ⟨⟨⟨⟨⟨rfl, hschema⟩, hbinds⟩, hmodel⟩, hversion⟩, hcommit⟩, rfl⟩
    · rename_i hmissing
      refine iff_of_false (by simp) fun h => ?_
      obtain ⟨evidence, sha, hevidence, hsha, -⟩ := h.present hexecuted hworker
      exact hmissing evidence sha hevidence hsha

theorem bindingReasons_eq_nil : bindingReasons V l e scenario = [] ↔
    e.armId ∈ scenario.armIds.val ∧ e.fixtureManifestSha256 = V.protocol.fixtureManifestSha256 ∧
      e.scenarioManifestSha256 = V.protocol.scenarioManifestSha256 ∧
      e.repositoryCommit = l.repositoryCommit ∧
      e.ruleCatalogSha256 = V.protocol.ruleCatalogSha256 ∧
      e.formulaVersion = V.protocol.formulaVersion ∧
      (e.executionStatus = .notExecuted ∨ ¬ e.armId.isWorker → e.namesModel = false) := by
  simp only [bindingReasons, List.append_eq_nil_iff, reasonIf_eq_nil, not_not, and_assoc, not_and,
    Bool.not_eq_true]

theorem contractReasons_eq_nil :
    contractReasons V l e scenario = .ok [] ↔ EntryMeets V l e scenario := by
  simp only [contractReasons, bind_eq_ok, pure, Except.pure, Except.ok.injEq,
    List.append_eq_nil_iff, bindingReasons_eq_nil, resultReasons_eq_nil, latencyReasons,
    costReasons,
    measurementReasons_eq_nil]
  constructor
  · rintro ⟨_, hordered, _, hevidenced, ⟨⟨⟨⟨hbinding, rfl⟩, hreported⟩, hlatency⟩, hcost⟩, rfl⟩
    obtain ⟨harm, hfixture, hmanifest, hcommit, hcatalog, hformula, hunexecuted⟩ := hbinding
    exact ⟨harm, hfixture, hmanifest, hcommit, hcatalog, hformula, hunexecuted,
      timestampReasons_eq_nil.1 hordered, hreported, hlatency, hcost,
        workerReasons_eq_nil.1 hevidenced⟩
  · intro h
    exact ⟨[], timestampReasons_eq_nil.2 h.ordered, [], workerReasons_eq_nil.2 h.evidenced,
      ⟨⟨⟨⟨⟨h.arm, h.fixture, h.scenarioManifest, h.commit, h.ruleCatalog, h.formula, h.unexecuted⟩,
        rfl⟩, h.reported⟩, h.latency⟩, h.cost⟩, rfl⟩

/-! ## The pass over the entries -/

/-- Different scenarios have different identifiers. -/
theorem Protocol.scenario?_eq_some {p : Protocol} {scenarioId : PyStr} :
    p.scenario? scenarioId = some scenario ↔ scenario ∈ p.scenarios ∧ scenario.id = scenarioId := by
  constructor
  · intro h
    exact ⟨List.mem_of_find?_eq_some h, by simpa using List.find?_some h⟩
  · rintro ⟨hmem, rfl⟩
    have hfound : (p.scenario? scenario.id).isSome := List.find?_isSome.2 ⟨scenario, hmem, by simp⟩
    obtain ⟨s, hs⟩ := Option.isSome_iff_exists.1 hfound
    have hid : s.id = scenario.id := by simpa using List.find?_some hs
    rw [hs, List.inj_on_of_nodup_map p.ids_nodup (List.mem_of_find?_eq_some hs) hmem hid]

/-- The locals of the loop after some entries. -/
def Scan.after (V : Verifier) (before : List Entry) (reasons : List String) : Scan where
  expectedIndex := before.length + 1
  reasons := reasons
  seenKeys := before.map Entry.key
  seenEntries := before.map fun e => e.entryId
  seenRuns := before.map fun e => e.runId
  grouped := before.filter fun e => (V.protocol.scenario? e.scenarioId).isSome
  previous := lastDigest (fun e : Entry => e.entrySha256) genesisEntrySha256 before

theorem scanEntry_after (before : List Entry) (reasons : List String) (e : Entry) :
    scanEntry V l (Scan.after V before reasons) e =
      (entryReasons V l (Scan.after V before []) e).map fun noticed =>
        Scan.after V (before ++ [e]) (reasons ++ noticed) := by
  have hreasons : entryReasons V l (Scan.after V before reasons) e =
      entryReasons V l (Scan.after V before []) e := rfl
  unfold scanEntry
  rw [hreasons]
  cases entryReasons V l (Scan.after V before []) e with
  | error fault => rfl
  | ok noticed =>
    have hgrouped : (if (V.protocol.scenario? e.scenarioId).isSome then
          before.filter (fun e => (V.protocol.scenario? e.scenarioId).isSome) ++ [e]
        else before.filter fun e => (V.protocol.scenario? e.scenarioId).isSome) =
        (before ++ [e]).filter fun e => (V.protocol.scenario? e.scenarioId).isSome := by
      rw [List.filter_append, List.filter_singleton]
      cases (V.protocol.scenario? e.scenarioId).isSome <;> simp
    show Except.ok _ = Except.ok _
    simp only [Scan.after, hgrouped, List.map_append, List.map_cons, List.map_nil,
      List.length_append, List.length_singleton, lastDigest_append_singleton]

/-- What the loop notices at an entry. -/
abbrev noticeEntry (V : Verifier) (l : Ledger) (before : List Entry) (e : Entry) :
    Except Fault (List String) :=
  entryReasons V l (Scan.after V before []) e

theorem scan_eq (reasons : List String) : l.entries.foldlM (scanEntry V l) (Scan.start reasons) =
    (noticeAll (noticeEntry V l) [] l.entries).map fun noticed =>
      Scan.after V l.entries (reasons ++ noticed) := by
  have hstart : Scan.start reasons = Scan.after V [] reasons := rfl
  rw [hstart, foldlM_eq_noticeAll scanEntry_after, List.nil_append]

/-- An entry of a known scenario that is hashed, numbered and linked, and whose names are new. -/
theorem noticeEntry_eq_nil {done : List Entry} : noticeEntry V l done e = .ok [] ↔
    ((V.canonicalDigest e.hashed = .ok e.entrySha256 ∧
        ∃ s ∈ V.protocol.scenarios, s.id = e.scenarioId ∧ EntryMeets V l e s) ∧
      e.entryIndex = done.length + 1 ∧
      e.previousEntrySha256 = lastDigest (fun e : Entry => e.entrySha256) genesisEntrySha256 done) ∧
    e.key ∉ done.map Entry.key ∧ e.entryId ∉ (done.map fun e => e.entryId) ∧
      e.runId ∉ done.map fun e => e.runId := by
  have hidentity (digest : PyStr) : identityReasons (Scan.after V done []) e digest = [] ↔
      (e.entryIndex = done.length + 1 ∧
        e.previousEntrySha256 =
          lastDigest (fun e : Entry => e.entrySha256) genesisEntrySha256 done ∧
        e.entrySha256 = digest) ∧
      e.key ∉ done.map Entry.key ∧ e.entryId ∉ (done.map fun e => e.entryId) ∧
        e.runId ∉ done.map fun e => e.runId := by
    simp only [identityReasons, List.append_eq_nil_iff, reasonIf_eq_nil, not_not, and_assoc]
    rfl
  unfold noticeEntry entryReasons
  rw [bind_eq_ok]
  constructor
  · rintro ⟨digest, hdigest, h⟩
    split at h
    · simp [pure, Except.pure] at h
    · rename_i s hs
      obtain ⟨contract, hcontract, h⟩ := bind_eq_ok.1 h
      obtain ⟨hnil, rfl⟩ := List.append_eq_nil_iff.1 (Except.ok.inj h)
      obtain ⟨⟨hindex, hprevious, rfl⟩, hnew⟩ := (hidentity digest).1 hnil
      obtain ⟨hmem, hid⟩ := Protocol.scenario?_eq_some.1 hs
      exact ⟨⟨⟨hdigest, s, hmem, hid, contractReasons_eq_nil.1 hcontract⟩, hindex, hprevious⟩, hnew⟩
  · rintro ⟨⟨⟨hdigest, s, hmem, hid, hmeets⟩, hindex, hprevious⟩, hnew⟩
    refine ⟨e.entrySha256, hdigest, ?_⟩
    rw [Protocol.scenario?_eq_some.2 ⟨hmem, hid⟩]
    show (contractReasons V l e s >>= _) = _
    rw [contractReasons_eq_nil.2 hmeets, ok_bind,
      (hidentity e.entrySha256).2 ⟨⟨hindex, hprevious, rfl⟩, hnew⟩]
    rfl

/-- The verifier notices nothing in its pass over the entries. -/
theorem noticeAll_entries_eq_nil : noticeAll (noticeEntry V l) [] l.entries = .ok [] ↔
    (((∀ e ∈ l.entries, V.canonicalDigest e.hashed = .ok e.entrySha256) ∧
        ∀ e ∈ l.entries, ∃ s ∈ V.protocol.scenarios, s.id = e.scenarioId ∧ EntryMeets V l e s) ∧
      (l.entries.map fun e => e.entryIndex) = List.range' 1 l.entries.length ∧
      Linked (fun e : Entry => e.previousEntrySha256) (fun e => e.entrySha256) genesisEntrySha256
        l.entries) ∧
    (l.entries.map Entry.key).Nodup ∧ (l.entries.map fun e => e.entryId).Nodup ∧
      (l.entries.map fun e => e.runId).Nodup := by
  rw [noticeAll_eq_nil_iff, eachAfter_congr fun e _ done => noticeEntry_eq_nil]
  simp only [eachAfter_and, eachAfter_const, eachAfter_number_iff, eachAfter_notMem_iff,
    List.map_nil, List.not_mem_nil, not_false_eq_true, implies_true, and_true, List.length_nil,
    Nat.zero_add]
  rfl

/-! ## The plan -/

theorem mem_expectedKeys {a : Arm} {scenarioId : PyStr} {r t : ℕ} :
    (a, scenarioId, r, t) ∈ expectedKeys V l ↔
      (∃ s ∈ V.protocol.scenarios, s.id = scenarioId ∧ a ∈ s.armIds.val) ∧
        r ∈ l.replicateIds.val ∧ t ∈ l.attempts.val := by
  simp only [expectedKeys, List.mem_flatMap, List.mem_map, Prod.mk.injEq]
  constructor
  · rintro ⟨s, hs, a', ha, r', hr, t', ht, rfl, hid, rfl, rfl⟩
    exact ⟨⟨s, hs, hid, ha⟩, hr, ht⟩
  · rintro ⟨⟨s, hs, hid, ha⟩, hr, ht⟩
    exact ⟨s, hs, a, ha, r, hr, t, ht, rfl, hid, rfl, rfl⟩

/-- A planned key of a scenario is one of its arms at a planned replicate and attempt. -/
theorem mem_expectedKeys_of_mem (hs : scenario ∈ V.protocol.scenarios) {a : Arm} {r t : ℕ} :
    (a, scenario.id, r, t) ∈ expectedKeys V l ↔
      a ∈ scenario.armIds.val ∧ r ∈ l.replicateIds.val ∧ t ∈ l.attempts.val := by
  rw [mem_expectedKeys]
  refine and_congr_left fun _ => ⟨?_, fun h => ⟨scenario, hs, rfl, h⟩⟩
  rintro ⟨s, hs', hid, ha⟩
  rwa [List.inj_on_of_nodup_map V.protocol.ids_nodup hs' hs hid] at ha

theorem nodup_expectedKeys : (expectedKeys V l).Nodup := by
  refine nodup_flatMap_of_key Scenario.id (fun k => k.2.1) V.protocol.ids_nodup (fun s hs => ?_) ?_
  · refine nodup_flatMap_of_key id (fun k => k.1)
      (by simpa using V.protocol.arms_nodup s hs) (fun a _ => ?_) ?_
    · refine nodup_flatMap_of_key id (fun k => k.2.2.1)
        (by simpa using l.replicateIds.property) (fun r _ => ?_) ?_
      · exact l.attempts.property.map fun t t' h => by simpa using h
      · rintro r - k hk
        obtain ⟨t, -, rfl⟩ := List.mem_map.1 hk
        rfl
    · rintro a - k hk
      simp only [List.mem_flatMap, List.mem_map] at hk
      obtain ⟨r, -, t, -, rfl⟩ := hk
      rfl
  · rintro s - k hk
    simp only [List.mem_flatMap, List.mem_map] at hk
    obtain ⟨a, -, r, -, t, -, rfl⟩ := hk
    rfl

/-- A ledger without repeated keys covers the plan exactly if its keys are the planned ones. -/
theorem coverageReasons_eq_nil (hnodup : (l.entries.map Entry.key).Nodup) :
    coverageReasons V l (l.entries.map Entry.key) = [] ↔
      (l.entries.map Entry.key).Perm (expectedKeys V l) := by
  simp only [coverageReasons, List.append_eq_nil_iff, reasonIf_eq_nil]
  rw [List.perm_ext_iff_of_nodup hnodup nodup_expectedKeys]
  constructor
  · rintro ⟨hmissing, hunexpected⟩ k
    push Not at hmissing hunexpected
    exact ⟨hunexpected k, hmissing k⟩
  · intro h
    push Not
    exact ⟨fun k => (h k).2, fun k => (h k).1⟩

/-- What follows from the coverage of the plan. -/
structure Covers (V : Verifier) (l : Ledger) : Prop where
  keys : ∀ k, k ∈ l.entries.map Entry.key ↔ k ∈ expectedKeys V l
  nodup : (l.entries.map Entry.key).Nodup

theorem Covers.mem_arms (h : Covers V l) (hs : scenario ∈ V.protocol.scenarios) (he : e ∈ l.entries)
    (hid : e.scenarioId = scenario.id) :
    e.armId ∈ scenario.armIds.val ∧ e.replicateId ∈ l.replicateIds.val ∧
      e.attempt ∈ l.attempts.val := by
  rw [← mem_expectedKeys_of_mem (V := V) hs, ← hid]
  exact (h.keys _).1 (List.mem_map_of_mem he)

/-- Every planned run is in the ledger. -/
theorem Covers.exists_entry (h : Covers V l) (hs : scenario ∈ V.protocol.scenarios) {a : Arm}
    {r t : ℕ} (ha : a ∈ scenario.armIds.val) (hr : r ∈ l.replicateIds.val)
    (ht : t ∈ l.attempts.val) :
    ∃ e ∈ l.entries, e.armId = a ∧ e.scenarioId = scenario.id ∧ e.replicateId = r ∧
      e.attempt = t := by
  have hkey := (h.keys _).2 ((mem_expectedKeys_of_mem hs).2 ⟨ha, hr, ht⟩)
  obtain ⟨e, he, heq⟩ := List.mem_map.1 hkey
  simp only [Entry.key, Prod.mk.injEq] at heq
  exact ⟨e, he, heq⟩

/-- Every attempt of the plan has the arms of its scenario. -/
theorem Covers.attemptReasons_eq_nil (h : Covers V l) : attemptReasons V l l.entries = [] := by
  simp only [attemptReasons, List.flatMap_eq_nil_iff, reasonIf_eq_nil, not_not]
  intro s hs r hr t ht
  constructor
  · intro a ha
    simp only [attemptArms, List.mem_map, List.mem_filter, decide_eq_true_eq] at ha
    obtain ⟨e, ⟨he, hid, -⟩, rfl⟩ := ha
    exact (h.mem_arms hs he hid).1
  · intro a ha
    obtain ⟨e, he, rfl, hid, hr', ht'⟩ := h.exists_entry hs ha hr ht
    simp only [attemptArms, List.mem_map, List.mem_filter, decide_eq_true_eq]
    exact ⟨e, ⟨he, hid, hr', ht'⟩, rfl⟩

/-- The selected results of a scenario and a replicate. -/
abbrev pairOf (l : Ledger) (scenarioId : PyStr) (replicateId : ℕ) : List Entry :=
  selectedPair (selectReplicateResults l.entries) scenarioId replicateId

theorem mem_pairOf {scenarioId : PyStr} {r : ℕ} : e ∈ pairOf l scenarioId r ↔
    e ∈ selectReplicateResults l.entries ∧ e.scenarioId = scenarioId ∧ e.replicateId = r := by
  simp [pairOf, selectedPair]

theorem mem_of_mem_pairOf {scenarioId : PyStr} {r : ℕ} (h : e ∈ pairOf l scenarioId r) :
    e ∈ l.entries :=
  mem_of_mem_select (mem_pairOf.1 h).1

/-- Every pair of the plan has the arms of its scenario. -/
theorem Covers.sameArms_pairOf (h : Covers V l) (hattempts : l.attempts.val ≠ [])
    (hs : scenario ∈ V.protocol.scenarios) {r : ℕ} (hr : r ∈ l.replicateIds.val) :
    sameArms ((pairOf l scenario.id r).map fun e => e.armId) scenario.armIds.val := by
  constructor
  · intro a ha
    obtain ⟨e, he, rfl⟩ := List.mem_map.1 ha
    exact (h.mem_arms hs (mem_of_mem_pairOf he) (mem_pairOf.1 he).2.1).1
  · intro a ha
    obtain ⟨t, ht⟩ := List.exists_mem_of_ne_nil _ hattempts
    obtain ⟨e, he, rfl, hid, rfl, -⟩ := h.exists_entry hs ha hr ht
    obtain ⟨selected, hselected, hkey⟩ := exists_selected he
    obtain ⟨harm, hscenario, hreplicate⟩ := replicateKeyOf_inj.1 hkey
    refine List.mem_map.2 ⟨selected, mem_pairOf.2 ⟨hselected, ?_, hreplicate⟩, harm⟩
    rw [hscenario, hid]

/-- The Worker arms of a pair, if all of them were executed, have one model configuration. -/
def SameModel (pair : List Entry) : Prop :=
  (∀ e ∈ llmPair pair, e.executionStatus = .executed) →
    ∀ e ∈ llmPair pair, ∀ e' ∈ llmPair pair, e.modelConfigurationDigest =
      e'.modelConfigurationDigest

/-- The elements of a list have one value. -/
theorem length_dedup_map_eq_one {α β : Type} [DecidableEq β] {f : α → β} {l : List α}
    (hl : l ≠ []) :
    (l.map f).dedup.length = 1 ↔ ∀ a ∈ l, ∀ b ∈ l, f a = f b := by
  rw [List.length_eq_one_iff]
  constructor
  · rintro ⟨c, hc⟩ a ha b hb
    have hmem (a : α) (ha : a ∈ l) : f a = c := by
      have hdedup : f a ∈ (l.map f).dedup := List.mem_dedup.2 (List.mem_map_of_mem ha)
      rw [hc] at hdedup
      exact List.mem_singleton.1 hdedup
    rw [hmem a ha, hmem b hb]
  · intro h
    obtain ⟨a, ha⟩ := List.exists_mem_of_ne_nil l hl
    have hsub : (l.map f).dedup ⊆ [f a] := by
      intro c hc
      obtain ⟨b, hb, rfl⟩ := List.mem_map.1 (List.mem_dedup.1 hc)
      exact List.mem_singleton.2 (h b hb a ha)
    have hmem : f a ∈ (l.map f).dedup := List.mem_dedup.2 (List.mem_map_of_mem ha)
    have hperm :=
      (List.perm_ext_iff_of_nodup (List.nodup_dedup (l.map f)) (List.nodup_singleton (f a))).2
      fun c => ⟨fun hc => hsub hc, fun hc => List.mem_singleton.1 hc ▸ hmem⟩
    exact ⟨f a, List.perm_singleton.1 hperm⟩

/-- In a pair whose executed Worker runs name a model configuration. -/
theorem modelReasons_eq_nil {pair : List Entry} (hnamed : ∀ e ∈ llmPair pair,
    e.executionStatus = .executed → e.modelConfigurationDigest ≠ none) :
    modelReasons pair = [] ↔ SameModel pair := by
  unfold modelReasons SameModel
  split_ifs with hexecuted hmissing
  · obtain ⟨e, he, hnone⟩ := List.mem_map.1 hmissing
    exact absurd hnone (hnamed e he (hexecuted.2 e he))
  · rw [reasonIf_eq_nil, not_not, length_dedup_map_eq_one hexecuted.1]
    exact ⟨fun h _ => h, fun h => h hexecuted.2⟩
  · refine iff_of_true rfl fun hall e he => ?_
    exact absurd ⟨List.ne_nil_of_mem he, hall⟩ hexecuted

/-! ## Ledgers -/

/-- The ledger is a complete, linked record of the planned runs under the frozen protocol. -/
structure Certified (V : Verifier) (l : Ledger) (expectedRepositoryCommit : Option PyStr) :
    Prop where
  fixture : l.fixtureManifestSha256 = V.protocol.fixtureManifestSha256
  scenarioManifest : l.scenarioManifestSha256 = V.protocol.scenarioManifestSha256
  commit : expectedRepositoryCommit = some l.repositoryCommit
  numbered : (l.entries.map fun e => e.entryIndex) = List.range' 1 l.entries.length
  linked : Linked (fun e : Entry => e.previousEntrySha256) (fun e => e.entrySha256)
    genesisEntrySha256
    l.entries
  hashed : ∀ e ∈ l.entries, V.canonicalDigest e.hashed = .ok e.entrySha256
  planned : (l.entries.map Entry.key).Perm (expectedKeys V l)
  ids_nodup : (l.entries.map fun e => e.entryId).Nodup
  runs_nodup : (l.entries.map fun e => e.runId).Nodup
  meets : ∀ e ∈ l.entries, ∃ s ∈ V.protocol.scenarios, s.id = e.scenarioId ∧ EntryMeets V l e s
  models : ∀ s ∈ V.protocol.scenarios, ∀ r ∈ l.replicateIds.val, SameModel (pairOf l s.id r)
  root : V.canonicalDigest l.hashed = .ok l.ledgerRootSha256

theorem Certified.covers (h : Certified V l commit) : Covers V l where
  keys _ := h.planned.mem_iff
  nodup := h.planned.nodup_iff.2 nodup_expectedKeys

theorem Certified.exists_scenario (h : Certified V l commit) (he : e ∈ l.entries) :
    ∃ s, V.protocol.scenario? e.scenarioId = some s ∧ EntryMeets V l e s := by
  obtain ⟨s, hs, hid, hmeets⟩ := h.meets e he
  exact ⟨s, Protocol.scenario?_eq_some.2 ⟨hs, hid⟩, hmeets⟩

/-- The entries of known scenarios are all grouped. -/
theorem filter_grouped (h : ∀ e ∈ l.entries,
    ∃ s ∈ V.protocol.scenarios, s.id = e.scenarioId ∧ EntryMeets V l e s) :
    (l.entries.filter fun e => (V.protocol.scenario? e.scenarioId).isSome) = l.entries := by
  refine List.filter_eq_self.2 fun e he => ?_
  obtain ⟨s, hs, hid, -⟩ := h e he
  rw [Protocol.scenario?_eq_some.2 ⟨hs, hid⟩]
  rfl

theorem provenanceReasons_eq_nil : provenanceReasons V l commit = [] ↔
    l.fixtureManifestSha256 = V.protocol.fixtureManifestSha256 ∧
      l.scenarioManifestSha256 = V.protocol.scenarioManifestSha256 ∧
      commit = some l.repositoryCommit := by
  cases commit with
  | none => simp [provenanceReasons]
  | some expected =>
    simp only [provenanceReasons, List.append_eq_nil_iff, reasonIf_eq_nil, not_not, and_assoc,
      Option.some.injEq, eq_comm (a := expected)]

/-- A pair of the plan in which every entry follows the protocol has no reason but its models. -/
theorem pairReasons_eq_nil (hcovers : Covers V l) (hattempts : l.attempts.val ≠ [])
    (hmeets : ∀ e ∈ l.entries, ∃ s ∈ V.protocol.scenarios, s.id = e.scenarioId ∧ EntryMeets V l e s)
    (hs : scenario ∈ V.protocol.scenarios) {r : ℕ} (hr : r ∈ l.replicateIds.val) :
    pairReasons scenario (pairOf l scenario.id r) = [] ↔ SameModel (pairOf l scenario.id r) := by
  have harms := hcovers.sameArms_pairOf hattempts hs hr
  have hne : pairOf l scenario.id r ≠ [] := by
    obtain ⟨a, ha⟩ := List.exists_mem_of_ne_nil _ scenario.armIds.property
    obtain ⟨e, he, -⟩ := List.mem_map.1 (harms.2 ha)
    exact List.ne_nil_of_mem he
  have hcatalog : ((pairOf l scenario.id r).map fun e => e.ruleCatalogSha256).dedup.length = 1 := by
    refine (length_dedup_map_eq_one hne).2 fun e he e' he' => ?_
    obtain ⟨_, -, -, h⟩ := hmeets e (mem_of_mem_pairOf he)
    obtain ⟨_, -, -, h'⟩ := hmeets e' (mem_of_mem_pairOf he')
    rw [h.ruleCatalog, h'.ruleCatalog]
  have hformula : ((pairOf l scenario.id r).map fun e => e.formulaVersion).dedup.length = 1 := by
    refine (length_dedup_map_eq_one hne).2 fun e he e' he' => ?_
    obtain ⟨_, -, -, h⟩ := hmeets e (mem_of_mem_pairOf he)
    obtain ⟨_, -, -, h'⟩ := hmeets e' (mem_of_mem_pairOf he')
    rw [h.formula, h'.formula]
  have hnamed : ∀ e ∈ llmPair (pairOf l scenario.id r), e.executionStatus = .executed →
      e.modelConfigurationDigest ≠ none := by
    intro e he hexecuted
    obtain ⟨hmem, hworker⟩ := List.mem_filter.1 he
    obtain ⟨_, -, -, h⟩ := hmeets e (mem_of_mem_pairOf hmem)
    exact (h.evidenced.pinned hexecuted (of_decide_eq_true hworker)).1
  rw [pairReasons, if_neg (not_not.2 harms), List.append_eq_nil_iff, List.append_eq_nil_iff,
    reasonIf_eq_nil, reasonIf_eq_nil, not_not, not_not, modelReasons_eq_nil hnamed]
  exact ⟨fun h => h.2, fun h => ⟨⟨hcatalog, hformula⟩, h⟩⟩

/-- The verifier has nothing against a ledger exactly if it is certified. -/
theorem ledgerReasons_eq_nil_iff (hattempts : l.attempts.val ≠ []) :
    ledgerReasons V l commit = .ok [] ↔ Certified V l commit := by
  unfold ledgerReasons
  rw [scan_eq, bind_eq_ok]
  constructor
  · rintro ⟨scan, hscan, h⟩
    obtain ⟨noticed, hnoticed, rfl⟩ :
        ∃ noticed, noticeAll (noticeEntry V l) [] l.entries = .ok noticed ∧
        Scan.after V l.entries (provenanceReasons V l commit ++ noticed) = scan := by
      cases hall : noticeAll (noticeEntry V l) [] l.entries with
      | error fault => simp [hall, Except.map] at hscan
      | ok noticed => exact ⟨noticed, rfl, by simpa [hall, Except.map] using hscan⟩
    obtain ⟨root, hroot, h⟩ := bind_eq_ok.1 h
    simp only [pure, Except.pure, Except.ok.injEq, List.append_eq_nil_iff, reasonIf_eq_nil, not_not,
      Scan.after] at h
    obtain ⟨⟨⟨⟨⟨hprovenance, rfl⟩, hcoverage⟩, -⟩, hpairs⟩, rfl⟩ := h
    obtain ⟨⟨⟨hhashed, hmeets⟩, hnumbered, hlinked⟩, hkeys, hids, hruns⟩ :=
      noticeAll_entries_eq_nil.1 hnoticed
    obtain ⟨hfixture, hmanifest, hcommit⟩ := provenanceReasons_eq_nil.1 hprovenance
    have hplanned := (coverageReasons_eq_nil hkeys).1 hcoverage
    have hcovers : Covers V l := ⟨fun _ => hplanned.mem_iff, hkeys⟩
    refine ⟨hfixture, hmanifest, hcommit, hnumbered, hlinked, hhashed, hplanned, hids, hruns,
      hmeets,
      fun s hs r hr => ?_, hroot⟩
    simp only [pairingReasons, List.flatMap_eq_nil_iff] at hpairs
    exact (pairReasons_eq_nil hcovers hattempts hmeets hs hr).1 (hpairs s hs r hr)
  · intro h
    have hnoticed : noticeAll (noticeEntry V l) [] l.entries = .ok [] :=
      noticeAll_entries_eq_nil.2 ⟨⟨⟨h.hashed, h.meets⟩, h.numbered, h.linked⟩, h.covers.nodup,
        h.ids_nodup, h.runs_nodup⟩
    have hprovenance : provenanceReasons V l commit = [] :=
      provenanceReasons_eq_nil.2 ⟨h.fixture, h.scenarioManifest, h.commit⟩
    have hpairs : pairingReasons V l = [] := by
      simp only [pairingReasons, List.flatMap_eq_nil_iff]
      exact fun s hs r hr =>
        (pairReasons_eq_nil h.covers hattempts h.meets hs hr).2 (h.models s hs r hr)
    refine ⟨Scan.after V l.entries [], by rw [hnoticed, hprovenance]; rfl, ?_⟩
    have hgrouped : (Scan.after V l.entries []).grouped = l.entries := filter_grouped h.meets
    have hcoverage : coverageReasons V l (Scan.after V l.entries []).seenKeys = [] :=
      (coverageReasons_eq_nil h.covers.nodup).2 h.planned
    have hroot :
        reasonIf (l.ledgerRootSha256 ≠ l.ledgerRootSha256) "LEDGER_ROOT_HASH_MISMATCH" = [] :=
      reasonIf_eq_nil.2 (not_not.2 rfl)
    rw [h.root, ok_bind, hgrouped, hcoverage, h.covers.attemptReasons_eq_nil, hpairs, hroot]
    rfl

end Verifier

end ProofFlow.Evaluation
