import ProofFlow.Evaluation.Produced

/-!
# The producer and the verifier

A publishable call whose deterministic runs all return gives a ledger, and the ledger is verified
(`exists_verified_ledger`): every text that the producer hashes can be encoded, and no document is
deeper than five levels.  A ledger of another call is not verified (`buildRunLedger_verified_iff`).
-/

namespace ProofFlow.Evaluation

open Kit

/-! ## Plain documents -/

/-- The document has a canonical text at a depth. -/
structure Plain (F : Floats) (depth : ℕ) (v : Doc) : Prop where
  shallow : v.depth ≤ depth
  finite : isFiniteDoc F v = true
  short : hasShortInts v = true
  text : v.isText = true

section Plain

variable {F : Floats} {depth : ℕ} {v : Doc} {members : List (PyStr × Doc)}

theorem Plain.hasText {V : Verifier} (h : Plain V.floats depth v)
    (hdepth : depth ≤ V.platform.recursionLimit) :
    HasText V v :=
  ⟨h.shallow.trans hdepth, h.finite, h.short, h.text⟩

theorem Plain.mono {depth' : ℕ} (h : Plain F depth v) (hdepth : depth ≤ depth') :
    Plain F depth' v :=
  ⟨h.shallow.trans hdepth, h.finite, h.short, h.text⟩

theorem plain_null : Plain F depth .null := ⟨Nat.zero_le _, rfl, rfl, rfl⟩

theorem plain_bool (b : Bool) : Plain F depth (.bool b) := ⟨Nat.zero_le _, rfl, rfl, rfl⟩

theorem plain_str {s : PyStr} (h : ProofFlow.isText s = true) : Plain F depth (.str s) :=
  ⟨Nat.zero_le _, rfl, rfl, h⟩

theorem plain_lit (s : String) : Plain F depth (.str (pyLit s)) := plain_str (isText_pyLit s)

theorem plain_nat {n : ℕ} (h : n < 10 ^ maxStrDigits) : Plain F depth (.int n) := by
  have hlength : (decimalText n).length ≤ maxStrDigits :=
    (Nat.length_toDigits_le_iff (by decide) (by decide)).2 h
  exact ⟨Nat.zero_le _, rfl, decide_eq_true hlength, rfl⟩

theorem plain_arr {items : List Doc} (h : ∀ v ∈ items, Plain F depth v) :
    Plain F (depth + 1) (.arr items) where
  shallow := Nat.succ_le_succ (depthItems_le_iff.2 fun v hv => (h v hv).shallow)
  finite := itemsFinite_iff.2 fun v hv => (h v hv).finite
  short := itemsShort_iff.2 fun v hv => (h v hv).short
  text := itemsText_iff.2 fun v hv => (h v hv).text

theorem plain_obj (h : ∀ m ∈ members, ProofFlow.isText m.1 = true ∧ Plain F depth m.2) :
    Plain F (depth + 1) (.obj members) where
  shallow := Nat.succ_le_succ (depthMembers_le_iff.2 fun m hm => (h m hm).2.shallow)
  finite := membersFinite_iff.2 fun m hm => (h m hm).2.finite
  short := membersShort_iff.2 fun m hm => (h m hm).2.short
  text := membersText_iff.2 fun m hm => ⟨(h m hm).1, (h m hm).2.text⟩

theorem plain_codes (l : List Code) : Plain F (depth + 1) (codesDoc l) := by
  refine plain_arr fun v hv => ?_
  obtain ⟨c, -, rfl⟩ := List.mem_map.1 hv
  exact plain_str (isText_of_matchesCode c.property)

theorem plain_result {r : Result} (h : ProofFlow.isText r.terminalStage.val = true) :
    Plain F (depth + 2) (.obj r.members) := by
  refine plain_obj ?_
  have hvalid : Plain F (depth + 1) (boolDoc? r.artifactVerificationValid) := by
    cases r.artifactVerificationValid with
    | none => exact plain_null
    | some b => exact plain_bool b
  simp only [Result.members, List.forall_mem_cons, isText_pyLit, true_and, List.not_mem_nil,
    false_imp_iff, implies_true, and_true]
  refine ⟨plain_lit _, plain_lit _, plain_str h, plain_codes _, plain_bool _, plain_bool _,
    plain_bool _, hvalid, plain_codes _, plain_obj ?_⟩
  simp only [List.forall_mem_cons, isText_pyLit, true_and, List.not_mem_nil, false_imp_iff,
    implies_true, and_true]
  exact ⟨plain_bool _, plain_bool _, plain_bool _, plain_bool _⟩

theorem plain_unknownLatency : Plain F 2 unknownLatency.doc :=
  ⟨by decide, rfl, rfl, by decide +kernel⟩

theorem plain_unknownCost : Plain F 2 unknownCost.doc :=
  ⟨by decide, rfl, rfl, by decide +kernel⟩

end Plain

section Producer

variable {V : Verifier} {R : Runner} {c : BuildCall}

/-! ## Entries -/

/-- A name that the schema takes has short numbers in it. -/
theorem lt_of_matchesIdentifier {a : Arm} {s : Scenario} {r t : ℕ}
    (h : matchesIdentifier (entryName a s r t) = true) :
    r < 10 ^ maxStrDigits ∧ t < 10 ^ maxStrDigits := by
  have hlength := length_le_of_matchesIdentifier h
  simp only [entryName, runSuffix, List.length_append, length_toPyStr] at hlength
  have hlt {n : ℕ} (hn : (decimalText n).length ≤ 129) : n < 10 ^ maxStrDigits :=
    (Nat.length_toDigits_le_iff (by decide) (by decide)).1 (hn.trans (by decide))
  exact ⟨hlt (by omega), hlt (by omega)⟩

/-- What the producer writes of a run that the schema takes is plain. -/
theorem plain_entry {x : PlannedRun} (h : EntryAllowed V.floats V.isDateTime (x.entry V c))
    (hstage : ∀ r ∈ x.result, ProofFlow.isText r.terminalStage.val = true)
    (hr : x.replicateId < 10 ^ maxStrDigits) (ht : x.attempt < 10 ^ maxStrDigits) :
    ∀ m ∈ (x.entry V c).members, ProofFlow.isText m.1 = true ∧ Plain V.floats 2 m.2 := by
  have hresult : Plain V.floats 2 (objectDoc? ((x.entry V c).result.map Result.members)) := by
    show Plain V.floats 2 (objectDoc? (x.result.map Result.members))
    cases hx : x.result with
    | none => exact plain_null
    | some r => exact plain_result (hstage r hx)
  have hcodes : Plain V.floats 2 (codesDoc (x.entry V c).issueCodes) := plain_codes _
  simp only [EntryBody.members, List.forall_mem_cons, isText_pyLit, true_and, List.not_mem_nil,
    false_imp_iff, implies_true, and_true]
  exact ⟨plain_str (isText_of_matchesIdentifier h.entryId), plain_lit _,
    plain_str (isText_of_matchesScenarioId h.scenarioId), plain_nat hr, plain_nat ht,
    plain_str (isText_of_matchesIdentifier h.runId), plain_lit _, plain_lit _, hcodes,
    plain_str (isText_toPyStr _), plain_str (isText_toPyStr _),
    plain_str (isText_of_matchesDigest h.fixtureManifest),
    plain_str (isText_of_matchesDigest h.scenarioManifest),
      plain_str (isText_of_matchesCommit h.commit),
    plain_str (isText_of_matchesDigest h.ruleCatalog),
      plain_str (isText_of_matchesIdentifier h.formula), plain_null, plain_null, plain_null,
    plain_null, plain_null, plain_null, plain_null, hresult,
    plain_unknownLatency, plain_unknownCost⟩

/-- A plain entry with a number is hashed. -/
theorem plain_numbered {e : EntryBody} {index : ℕ} {previous : PyStr}
    (h : ∀ m ∈ e.members, ProofFlow.isText m.1 = true ∧ Plain V.floats 2 m.2)
    (hindex : index < 10 ^ maxStrDigits) (hprevious : ProofFlow.isText previous = true) :
    ∀ m ∈ numberedMembers e index previous, ProofFlow.isText m.1 = true ∧ Plain V.floats 2 m.2 := by
  intro m hm
  rcases List.mem_append.1 hm with hm | hm
  · exact h m hm
  · simp only [List.mem_cons, List.not_mem_nil, or_false] at hm
    rcases hm with rfl | rfl
    · exact ⟨isText_pyLit _, plain_nat hindex⟩
    · exact ⟨isText_pyLit _, plain_str hprevious⟩

/-- The loop that chains plain entries ends, with plain documents. -/
theorem exists_chainEntries (hlimit : 3 ≤ V.platform.recursionLimit) {bodies : List EntryBody}
    {index : ℕ}
    {previous : PyStr}
    (h : ∀ e ∈ bodies, ∀ m ∈ e.members, ProofFlow.isText m.1 = true ∧ Plain V.floats 2 m.2)
    (hindex : index + bodies.length ≤ 10 ^ maxStrDigits)
    (hprevious : ProofFlow.isText previous = true) :
    ∃ docs, chainEntries V index previous bodies = .ok docs ∧
      ∀ members ∈ docs, Plain V.floats 3 (.obj members) := by
  induction bodies generalizing index previous with
  | nil => exact ⟨[], rfl, by simp⟩
  | cons e bodies ih =>
    obtain ⟨he, hbodies⟩ := List.forall_mem_cons.1 h
    rw [List.length_cons] at hindex
    have hlt : index < 10 ^ maxStrDigits := by omega
    have hle : index + 1 + bodies.length ≤ 10 ^ maxStrDigits := by omega
    have hnumbered := plain_numbered he hlt hprevious
    obtain ⟨digest, hdigest⟩ := canonicalDigest_ok_iff.2 ((plain_obj hnumbered).hasText hlimit)
    have htext := isText_of_canonicalDigest hdigest
    obtain ⟨docs, hdocs, hplain⟩ := ih hbodies hle htext
    refine ⟨chainedMembers e index previous digest :: docs, ?_, List.forall_mem_cons.2 ⟨?_, hplain⟩⟩
    · rw [chainEntries, hdigest, ok_bind, hdocs, ok_bind]
      rfl
    · refine plain_obj fun m hm => ?_
      rcases List.mem_append.1 hm with hm | hm
      · exact hnumbered m hm
      · rw [List.mem_singleton.1 hm]
        exact ⟨isText_pyLit _, plain_str htext⟩

/-! ## The ledger -/

/-- What the producer needs of its runs and of the platform. -/
structure Runnable (V : Verifier) (R : Runner) (c : BuildCall) : Prop where
  positive : ∀ n ∈ planned c.replicateIds c.replicateId ++ planned c.attempts c.attempt, 1 ≤ n
  bound : ∀ s ∈ V.protocol.scenarios, .deterministicReference ∈ s.armIds.val → R.isBound s = true
  runs : ∀ s ∈ V.protocol.scenarios, .deterministicReference ∈ s.armIds.val →
    ∀ r ∈ c.plannedReplicates, ∀ t ∈ c.plannedAttempts, ∃ startedAt result finishedAt,
      R.run s r t = .ok (startedAt, result, finishedAt) ∧
        ProofFlow.isText result.terminalStage.val = true
  recursionLimit : 5 ≤ V.platform.recursionLimit
  count : c.plannedReplicates.length * (c.plannedAttempts.length *
    (V.protocol.scenarios.map fun s => s.armIds.val.length).sum) < 10 ^ maxStrDigits

theorem Runnable.exists_plannedEntries (h : Runnable V R c) :
    ∃ bodies, plannedEntries V R c c.plannedReplicates c.plannedAttempts = .ok bodies := by
  refine exists_collect fun r hr => exists_collect fun t ht => exists_collect fun s hs => ?_
  unfold scenarioEntries deterministicEntries
  split_ifs with harm hbound
  · obtain ⟨startedAt, result, finishedAt, hrun, -⟩ := h.runs s hs harm r hr t ht
    rw [hrun]
    exact ⟨_, rfl⟩
  · exact absurd (h.bound s hs harm) hbound
  · exact ⟨_, rfl⟩

/-- The entries of a publishable call are plain. -/
theorem Runnable.plain_bodies (hP : Promised V R c) (hpublishable : Publishable V R c)
    (h : Runnable V R c) {bodies : List EntryBody}
    (hbodies : plannedEntries V R c c.plannedReplicates c.plannedAttempts = .ok bodies) :
    ∀ e ∈ bodies, ∀ m ∈ e.members, ProofFlow.isText m.1 = true ∧ Plain V.floats 2 m.2 := by
  obtain ⟨hreplicates, hattempts⟩ := BuildCall.one_le_planned h.positive
  intro e he
  obtain ⟨x, hx, rfl⟩ := (plannedEntries_eq_ok hbodies).2 e he
  have hnames := hpublishable.names _ hx.scenario _ hx.arm _ hx.replicateId _ hx.attempt
  obtain ⟨hr, ht⟩ := lt_of_matchesIdentifier hnames.1
  refine plain_entry
    ((entryAllowed_entry hP hx hreplicates hattempts).2 ⟨hnames, hpublishable.commit⟩)
    (fun result hresult => ?_) hr ht
  obtain ⟨harm, hrun⟩ := hx.executed result hresult
  obtain ⟨_, result', _, hrun', hstage⟩ :=
    h.runs _ hx.scenario (harm ▸ hx.arm) _ hx.replicateId _ hx.attempt
  rw [hrun] at hrun'
  obtain ⟨-, rfl, -⟩ : _ ∧ result = result' ∧ _ := by simpa using hrun'
  exact hstage

theorem plain_plan {replicateIds attempts : List ℕ} (hr : ∀ n ∈ replicateIds, n < 10 ^ maxStrDigits)
    (ht : ∀ n ∈ attempts, n < 10 ^ maxStrDigits) :
    Plain V.floats 2 (planDoc replicateIds attempts) := by
  have hids {l : List ℕ} (h : ∀ n ∈ l, n < 10 ^ maxStrDigits) :
      Plain V.floats 1 (.arr (l.map fun (n : ℕ) => .int n)) := by
    refine plain_arr fun v hv => ?_
    obtain ⟨n, hn, rfl⟩ := List.mem_map.1 hv
    exact plain_nat (h n hn)
  refine plain_obj ?_
  simp only [List.forall_mem_cons, isText_pyLit, true_and, List.not_mem_nil, false_imp_iff,
    implies_true, and_true]
  exact ⟨hids hr, hids ht, plain_bool _, plain_lit _, plain_lit _⟩

theorem plain_unsealed (hP : Promised V R c) (hcommit : matchesCommit c.repositoryCommit = true)
    {replicateIds attempts : List ℕ} {docs : List (List (PyStr × Doc))}
    (hplan : Plain V.floats 2 (planDoc replicateIds attempts))
    (hdocs : ∀ members ∈ docs, Plain V.floats 3 (.obj members)) :
    Plain V.floats 5 (.obj (unsealedMembers V c replicateIds attempts docs)) := by
  have hentries : Plain V.floats 4 (.arr (docs.map fun members => .obj members)) :=
    plain_arr (List.forall_mem_map.2 hdocs)
  have hprovenance : Plain V.floats 1 (provenanceDoc V c) := by
    refine plain_obj ?_
    simp only [List.forall_mem_cons, isText_pyLit, true_and, List.not_mem_nil, false_imp_iff,
      implies_true, and_true]
    exact ⟨plain_str (isText_of_matchesDigest hP.fixtureManifest),
      plain_str (isText_of_matchesDigest hP.scenarioManifest),
        plain_str (isText_of_matchesCommit hcommit), plain_lit _, plain_str (isText_toPyStr _)⟩
  refine plain_obj ?_
  simp only [unsealedMembers, List.forall_mem_cons, isText_pyLit, true_and, List.not_mem_nil,
    false_imp_iff, implies_true, and_true]
  exact ⟨plain_lit _, plain_str (isText_of_matchesIdentifier (matchesIdentifier_ledgerId _)),
    plain_bool _, plain_lit _, hplan.mono (by decide), hentries, hprovenance.mono (by decide)⟩

/-- A publishable call gives a ledger. -/
theorem Runnable.exists_members (hP : Promised V R c) (hpublishable : Publishable V R c)
    (h : Runnable V R c) : ∃ members, buildRunLedger V R c = .ok members := by
  obtain ⟨bodies, hbodies⟩ := h.exists_plannedEntries
  have hpositive :
      ¬ ∃ n ∈ planned c.replicateIds c.replicateId ++ planned c.attempts c.attempt, n < 1 := by
    rintro ⟨n, hn, hlt⟩
    exact absurd (h.positive n hn) (not_le.2 hlt)
  have hcount : 1 + bodies.length ≤ 10 ^ maxStrDigits := by
    have hkeys := congrArg List.length (plannedEntries_eq_ok hbodies).1
    rw [List.length_map, length_plannedKeys] at hkeys
    have hlt := h.count
    omega
  have hlimit : 3 ≤ V.platform.recursionLimit := Nat.le_trans (by decide) h.recursionLimit
  obtain ⟨docs, hdocs, hplain⟩ :=
    exists_chainEntries hlimit (h.plain_bodies hP hpublishable hbodies) hcount
    (by decide : ProofFlow.isText genesisEntrySha256 = true)
  have hplan : Plain V.floats 2 (planDoc c.plannedReplicates c.plannedAttempts) := by
    obtain ⟨s, hs⟩ := List.exists_mem_of_ne_nil _ hP.scenarios
    obtain ⟨a, ha⟩ := List.exists_mem_of_ne_nil _ s.armIds.property
    obtain ⟨r, hr⟩ := List.exists_mem_of_ne_nil _ c.plannedReplicates_ne_nil
    obtain ⟨t, ht⟩ := List.exists_mem_of_ne_nil _ c.plannedAttempts_ne_nil
    exact plain_plan
      (fun r hr => (lt_of_matchesIdentifier (hpublishable.names s hs a ha r hr t ht).1).1)
      fun t ht => (lt_of_matchesIdentifier (hpublishable.names s hs a ha r hr t ht).1).2
  have htext := (plain_unsealed hP hpublishable.commit hplan hplain).hasText h.recursionLimit
  obtain ⟨root, hroot⟩ := canonicalDigest_ok_iff.2 htext
  unfold BuildCall.plannedReplicates BuildCall.plannedAttempts at hbodies hroot
  simp only [buildRunLedger]
  rw [if_neg hpositive, hbodies, ok_bind, hdocs, ok_bind, hroot, ok_bind]
  exact ⟨_, rfl⟩

end Producer

/-! ## A call -/

namespace Sample

/-- Two points of time in 2025. -/
def now : UtcTime := ⟨63900000000000000, by decide⟩

def later : UtcTime := ⟨63900000060000000, by decide⟩

/-- `happy_path` with at most one Worker arm. -/
def scenario (withWorker : Bool) : Scenario :=
  { happyPath with armIds :=
      if withWorker then ⟨[.deterministicReference, .singleAgent], by decide⟩
      else ⟨[.deterministicReference], by decide⟩ }

def protocol (withWorker : Bool) : Protocol where
  scenarios := [scenario withWorker]
  ruleCatalogSha256 := genesisEntrySha256
  formulaVersion := pyLit "cn-economic-compensation-v0.1"
  fixtureManifestSha256 := genesisEntrySha256
  scenarioManifestSha256 := genesisEntrySha256
  fixtureValid := true
  ids_nodup := by simp
  arms_nodup := by cases withWorker <;> simp [scenario]

def verifier (withWorker : Bool) : Verifier where
  platform := {
    sha256 := fun b => b.foldl (fun d x => d * 257 + BitVec.ofNat 256 (x.toNat + 1)) 0
    ed25519Verify := fun _ _ _ => false
    jiter := fun _ => none
    parseDatetime := fun _ => none
    datetimeText := fun _ => []
    recursionLimit := 1000 }
  floats := {
    isfinite := fun numeral => numeral = lit "0.0"
    integer := fun numeral => if numeral = lit "0.0" then some 0 else none
    nonnegative := fun numeral => numeral = lit "0.0"
    repr := id }
  protocol := protocol withWorker
  isDateTime := fun s => s = timestamp now ∨ s = timestamp later
  fromIsoformat := fun s =>
    if s = replaceZulu (timestamp now) then some (.ofUtc now)
    else if s = replaceZulu (timestamp later) then some (.ofUtc later) else none
  workerSchema := fun _ => false
  finiteCalls := 900
  finiteCalls_ge := by decide
  gateWorkerExecutionEvidence := fun _ _ _ _ => .ok .blocked

def runner : Runner where
  isBound := fun _ => true
  run := fun _ _ _ => .ok (now, happyResult false, now)

def call (recordedAt : UtcTime) : BuildCall where
  repositoryCommit := List.replicate 40 97
  replicateId := 1
  attempt := 1
  replicateIds := none
  attempts := none
  recordedAt := recordedAt

variable {withWorker : Bool} {t : UtcTime}

theorem promised (ht : t = now ∨ t = later) : Promised (verifier withWorker) runner (call t) := by
  have hnow : (verifier withWorker).ReadsTime now := ⟨by simp [verifier], by simp [verifier]⟩
  have hlater : (verifier withWorker).ReadsTime later := by
    have hne : replaceZulu (timestamp later) ≠ replaceZulu (timestamp now) := by decide +kernel
    exact ⟨by simp [verifier], by simp [verifier, hne]⟩
  have hid : matchesScenarioId (pyLit "happy_path") = true := by decide
  have hdigest : matchesDigest genesisEntrySha256 = true := matchesDigest_genesis
  refine ⟨rfl, by simp [verifier, protocol], ?_, hdigest, hdigest, hdigest, ?_, ?_, ?_⟩
  · intro s hs
    obtain rfl := List.mem_singleton.1 hs
    exact hid
  · show matchesIdentifier (pyLit "cn-economic-compensation-v0.1") = true
    decide +kernel
  · rcases ht with rfl | rfl
    · exact hnow
    · exact hlater
  · rintro s r t _ _ _ hrun
    cases hrun
    exact ⟨hnow, hnow⟩

theorem publishable (withWorker : Bool) (t : UtcTime) :
    Publishable (verifier withWorker) runner (call t) := by
  have hnames : NamesAllowed (verifier withWorker) (call now) := by
    unfold NamesAllowed
    cases withWorker <;> decide +kernel
  refine ⟨List.nodup_singleton _, List.nodup_singleton _, ?_, hnames, ?_⟩
  · show matchesCommit (List.replicate 40 97) = true
    decide +kernel
  · rintro s hs - r - t - _ _ _ hrun
    obtain rfl := List.mem_singleton.1 hs
    cases hrun
    exact ⟨le_rfl, rfl, fun h => h.1 List.nodup_nil⟩

theorem runnable (withWorker : Bool) (t : UtcTime) :
    Runnable (verifier withWorker) runner (call t) where
  positive := by
    show ∀ n ∈ planned none 1 ++ planned none 1, 1 ≤ n
    decide
  bound := fun _ _ _ => rfl
  runs := fun _ _ _ _ _ _ _ => ⟨now, happyResult false, now, rfl, isText_pyLit _⟩
  recursionLimit := by
    show 5 ≤ 1000
    decide
  count := by
    have hfew : 2 < 10 ^ maxStrDigits :=
      Nat.lt_of_lt_of_le (by decide : 2 < 10 ^ 1) (Nat.pow_le_pow_right (by decide) (by decide))
    refine Nat.lt_of_le_of_lt ?_ hfew
    show (call now).plannedReplicates.length * ((call now).plannedAttempts.length * _) ≤ 2
    cases withWorker <;> decide

theorem exists_built (withWorker : Bool) (ht : t = now ∨ t = later) :
    ∃ members, buildRunLedger (verifier withWorker) runner (call t) = .ok members :=
  (runnable withWorker t).exists_members (promised ht) (publishable withWorker t)

end Sample

/-! ## What is verified -/

section Producer

variable {V : Verifier} {R : Runner} {c : BuildCall}

/-- A publishable call whose runs return gives a ledger that is verified. -/
theorem exists_verified_ledger (hP : Promised V R c) (hpublishable : Publishable V R c)
    (h : Runnable V R c) : ∃ members, buildRunLedger V R c = .ok members ∧
      verifyRunLedger V (.mapping members) (some c.repositoryCommit) = .ok (verifiedResult
        (c.plannedReplicates.length * (c.plannedAttempts.length *
          (V.protocol.scenarios.map fun s => s.armIds.val.length).sum))) := by
  obtain ⟨members, hmembers⟩ := h.exists_members hP hpublishable
  obtain ⟨l, root, hbuilt, rfl⟩ := buildRunLedger_eq_ok hmembers
  exact ⟨_, hmembers, (hbuilt.verified_iff hP).2 ⟨hpublishable, rfl, rfl⟩⟩

/-- One scenario with two arms has a verified ledger. -/
theorem sample_exists_verified_ledger : ∃ members,
    buildRunLedger (Sample.verifier true) Sample.runner (Sample.call Sample.now) = .ok members ∧
      verifyRunLedger (Sample.verifier true) (.mapping members)
        (some (Sample.call Sample.now).repositoryCommit) = .ok (verifiedResult 2) :=
  exists_verified_ledger (Sample.promised (.inl rfl)) (Sample.publishable _ _) (Sample.runnable _ _)

/-- The independent verifier accepts a ledger of the producer exactly if the call is publishable and
the expected commit is the one of the call, and it counts every planned run. -/
theorem buildRunLedger_verified_iff {members : List (PyStr × Doc)} {commit : Option PyStr} {n : ℕ}
    (hP : Promised V R c) (h : buildRunLedger V R c = .ok members) :
    verifyRunLedger V (.mapping members) commit = .ok (verifiedResult n) ↔
      Publishable V R c ∧ commit = some c.repositoryCommit ∧
        n = c.plannedReplicates.length * (c.plannedAttempts.length *
          (V.protocol.scenarios.map fun s => s.armIds.val.length).sum) := by
  obtain ⟨l, root, hbuilt, rfl⟩ := buildRunLedger_eq_ok h
  exact hbuilt.verified_iff hP

/-- The ledger is verified with its commit and not without one. -/
theorem sample_ledger_verified : ∃ members,
    buildRunLedger (Sample.verifier true) Sample.runner (Sample.call Sample.now) = .ok members ∧
      verifyRunLedger (Sample.verifier true) (.mapping members)
        (some (Sample.call Sample.now).repositoryCommit) = .ok (verifiedResult 2) ∧
      ∀ n, verifyRunLedger (Sample.verifier true) (.mapping members) none ≠ .ok
        (verifiedResult n) := by
  have hnow : Sample.now = Sample.now ∨ Sample.now = Sample.later := .inl rfl
  obtain ⟨members, hmembers⟩ := Sample.exists_built true hnow
  refine ⟨members, hmembers, ?_, fun n h => ?_⟩
  · exact (buildRunLedger_verified_iff (Sample.promised hnow) hmembers).2 ⟨Sample.publishable _ _,
      rfl, rfl⟩
  · obtain ⟨-, hcommit, -⟩ := (buildRunLedger_verified_iff (Sample.promised hnow) hmembers).1 h
    cases hcommit

end Producer

end ProofFlow.Evaluation
