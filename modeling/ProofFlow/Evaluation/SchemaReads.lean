import ProofFlow.Evaluation.Produce
import ProofFlow.Kit.Traversal

/-!
# What the schema reads of a produced ledger

The schema reads the document of an entry as the entry itself, exactly if its texts have the
patterns that the schema asks for (`entry_chainedMembers`), and the document of a ledger as the
ledger of its entries (`ledger_sealedMembers`).
-/

namespace ProofFlow.Evaluation

open Kit Schema

variable {F : Floats} {isDateTime : PyStr → Bool}

/-! ## Values -/

theorem bind_guard {α β : Type} {c : Prop} [Decidable c] {a : α} {f : α → Option β} {b : β} :
    (if c then some a else none).bind f = some b ↔ c ∧ f a = some b := by
  by_cases h : c <;> simp [h]

theorem matching_str (p : PyStr → Bool) (s : PyStr) :
    matching p (.str s) = if p s = true then some s else none := by
  by_cases h : p s = true <;> simp [matching, stringWith, string, h]

theorem nullable_textDoc (p : PyStr → Bool) (o : Option PyStr) :
    nullable (matching p) (textDoc? o) = if ∀ s ∈ o, p s = true then some o else none := by
  cases o with
  | none => simp [textDoc?, nullable]
  | some s =>
    have hnull : nullable (matching p) (.str s) = (matching p (.str s)).map some := rfl
    rw [textDoc?, hnull, matching_str]
    by_cases h : p s = true <;> simp [h]

theorem integer_int (lo n : ℕ) : integer F lo (.int n) = if lo ≤ n then some n else none := by
  simp [integer]

theorem bind_matching {α : Type} {p : PyStr → Bool} {s : PyStr} {f : PyStr → Option α} {a : α} :
    (matching p (.str s)).bind f = some a ↔ p s = true ∧ f s = some a := by
  rw [matching_str, bind_guard]

theorem bind_nullable {α : Type} {p : PyStr → Bool} {o : Option PyStr} {f : Option PyStr → Option α}
    {a : α} : (nullable (matching p) (textDoc? o)).bind f = some a ↔
      (∀ s ∈ o, p s = true) ∧ f o = some a := by
  rw [nullable_textDoc, bind_guard]

theorem bind_integer {α : Type} {lo n : ℕ} {f : ℕ → Option α} {a : α} :
    (integer F lo (.int n)).bind f = some a ↔ lo ≤ n ∧ f n = some a := by
  rw [integer_int, bind_guard]

theorem nullable_natDoc (o : Option ℕ) : nullable (integer F 0) (natDoc? o) = some o := by
  cases o with
  | none => rfl
  | some n =>
    have hnull : nullable (integer F 0) (.int n) = (integer F 0 (.int n)).map some := rfl
    rw [natDoc?, hnull, integer_int]
    rfl

/-- A number that the schema takes. -/
def amountAllowed (F : Floats) : Option Amount → Bool
  | some (.float numeral) => F.nonnegative numeral
  | _ => true

theorem nullable_amountDoc (o : Option Amount) :
    nullable (amount F) (amountDoc? o) = if amountAllowed F o = true then some o else none := by
  cases o with
  | none => rfl
  | some m =>
    cases m with
    | int n =>
      have hnull : nullable (amount F) (.int n) = (amount F (.int n)).map some := rfl
      have hamount : amount F (.int n) = some (.int n) := by simp [amount]
      rw [amountDoc?, hnull, hamount]
      rfl
    | float numeral =>
      have hnull : nullable (amount F) (.float numeral) =
          (if F.nonnegative numeral = true then some (Amount.float numeral) else none).map some :=
            rfl
      rw [amountDoc?, hnull]
      by_cases h : F.nonnegative numeral = true <;> simp [amountAllowed, h]

theorem nullable_object (o : Option (List (PyStr × Doc))) :
    nullable object (objectDoc? o) = some o := by
  cases o <;> rfl

theorem armId_text (a : Arm) : armId (.str (pyLit a.text)) = some a := by
  cases a <;> rfl

theorem executionStatus_text (s : ExecutionStatus) :
    executionStatus (.str (pyLit s.text)) = some s := by
  cases s <;> rfl

theorem status_text (s : Status) : status (.str (pyLit s.text)) = some s := by
  cases s <;> rfl

theorem outcomeClass_text (c : OutcomeClass) : outcomeClass (.str (pyLit c.text)) = some c := by
  cases c <;> rfl

theorem codes_codesDoc (l : List Code) : codes (codesDoc l) = distinct l := by
  have hcode (c : Code) : code (.str c.val) = some c := by
    simp [code, stringWith, string, c.property]
  have hitems : (l.map fun c => Json.str c.val).mapM code = some l :=
    mapM_eq_some.2 (List.forall₂_map_left_iff.2 (List.forall₂_same.2 fun c _ => hcode c))
  show (((l.map fun c => Json.str c.val).mapM code).bind distinct) = _
  rw [hitems]
  rfl

theorem codes_nodup (l : { l : List Code // l.Nodup }) : codes (codesDoc l.val) = some l := by
  rw [codes_codesDoc]
  exact dif_pos l.property

/-! ## Results and measurements -/

theorem result_members (r : Result) : result (.obj r.members) = some r := by
  have hfields : result (.obj r.members) = (do
      let _ ← constant "EXECUTED" (.str (pyLit "EXECUTED"))
      return {
        outcomeClass := ← outcomeClass (.str (pyLit r.outcomeClass.text))
        terminalStage := ← filledText (.str r.terminalStage.val)
        issueCodes := ← codes (codesDoc r.issueCodes.val)
        approvalRequired := r.approvalRequired
        externalSideEffectsEnabled := ← exactly false (.bool r.externalSideEffectsEnabled.val)
        valueEmitted := r.valueEmitted
        artifactVerificationValid := ← nullable boolean (boolDoc? r.artifactVerificationValid)
        traceEvents := ← codes (codesDoc r.traceEvents.val)
        unsafeSignals := r.unsafeSignals }) := rfl
  have hconstant : constant "EXECUTED" (.str (pyLit "EXECUTED")) = some () := rfl
  have hstage : filledText (.str r.terminalStage.val) = some r.terminalStage :=
    dif_pos r.terminalStage.property
  have heffects : exactly false (.bool r.externalSideEffectsEnabled.val) =
      some r.externalSideEffectsEnabled := dif_pos r.externalSideEffectsEnabled.property
  have hvalid : nullable boolean (boolDoc? r.artifactVerificationValid) =
      some r.artifactVerificationValid := by
    cases r.artifactVerificationValid <;> rfl
  rw [hfields, hconstant, outcomeClass_text, hstage, codes_nodup, heffects, hvalid, codes_nodup]
  rfl

theorem nullable_result (o : Option Result) :
    nullable result (objectDoc? (o.map Result.members)) = some o := by
  cases o with
  | none => rfl
  | some r =>
    have hnull : nullable result (.obj r.members) = (result (.obj r.members)).map some := rfl
    rw [Option.map_some, objectDoc?, hnull, result_members]
    rfl

/-- The values of a latency that the schema takes. -/
structure LatencyAllowed (F : Floats) (m : Latency) : Prop where
  endToEndMs : amountAllowed F m.endToEndMs = true
  activeComputeMs : amountAllowed F m.activeComputeMs = true
  humanWaitMs : amountAllowed F m.humanWaitMs = true
  unknownReason : ∀ s ∈ m.unknownReason, isFilled s = true

theorem latency_doc {m m' : Latency} :
    latency F m.doc = some m' ↔ LatencyAllowed F m ∧ m' = m := by
  have hfields : latency F m.doc = (do
      return {
        endToEndMs := ← nullable (amount F) (amountDoc? m.endToEndMs)
        activeComputeMs := ← nullable (amount F) (amountDoc? m.activeComputeMs)
        humanWaitMs := ← nullable (amount F) (amountDoc? m.humanWaitMs)
        complete := m.complete
        unknownReason := ← nullable (matching isFilled) (textDoc? m.unknownReason) }) := rfl
  rw [hfields]
  simp only [nullable_amountDoc, nullable_textDoc, Option.bind_eq_bind, bind_guard, Option.pure_def,
    Option.some.injEq, eq_comm (a := m')]
  constructor
  · rintro ⟨h₁, h₂, h₃, h₄, rfl⟩
    exact ⟨⟨h₁, h₂, h₃, h₄⟩, rfl⟩
  · rintro ⟨⟨h₁, h₂, h₃, h₄⟩, rfl⟩
    exact ⟨h₁, h₂, h₃, h₄, rfl⟩

theorem bind_latency {α : Type} {m : Latency} {f : Latency → Option α} {a : α} :
    (latency F m.doc).bind f = some a ↔ LatencyAllowed F m ∧ f m = some a := by
  simp only [Option.bind_eq_some_iff, latency_doc, and_assoc, exists_and_left, exists_eq_left]

/-- The values of a cost that the schema takes. -/
structure CostAllowed (F : Floats) (m : Cost) : Prop where
  totalCost : amountAllowed F m.totalCost = true
  currency : ∀ s ∈ m.currency, matchesCurrency s = true
  rateCardId : ∀ s ∈ m.rateCardId, isFilled s = true
  unknownReason : ∀ s ∈ m.unknownReason, isFilled s = true

theorem cost_doc {m m' : Cost} : cost F m.doc = some m' ↔ CostAllowed F m ∧ m' = m := by
  have hfields : cost F m.doc = (do
      return {
        inputTokens := ← nullable (integer F 0) (natDoc? m.inputTokens)
        outputTokens := ← nullable (integer F 0) (natDoc? m.outputTokens)
        totalTokens := ← nullable (integer F 0) (natDoc? m.totalTokens)
        totalCost := ← nullable (amount F) (amountDoc? m.totalCost)
        currency := ← nullable (matching matchesCurrency) (textDoc? m.currency)
        rateCardId := ← nullable (matching isFilled) (textDoc? m.rateCardId)
        complete := m.complete
        unknownReason := ← nullable (matching isFilled) (textDoc? m.unknownReason) }) := rfl
  rw [hfields]
  simp only [nullable_natDoc, nullable_amountDoc, nullable_textDoc, Option.bind_eq_bind, bind_guard,
    Option.bind_some, Option.pure_def, Option.some.injEq, eq_comm (a := m')]
  constructor
  · rintro ⟨h₁, h₂, h₃, h₄, rfl⟩
    exact ⟨⟨h₁, h₂, h₃, h₄⟩, rfl⟩
  · rintro ⟨⟨h₁, h₂, h₃, h₄⟩, rfl⟩
    exact ⟨h₁, h₂, h₃, h₄, rfl⟩

theorem bind_cost {α : Type} {m : Cost} {f : Cost → Option α} {a : α} :
    (cost F m.doc).bind f = some a ↔ CostAllowed F m ∧ f m = some a := by
  simp only [Option.bind_eq_some_iff, cost_doc, and_assoc, exists_and_left, exists_eq_left]

/-! ## Entries -/

/-- The texts and the numbers of an entry that the schema takes. -/
structure EntryAllowed (F : Floats) (isDateTime : PyStr → Bool) (e : EntryBody) : Prop where
  issueCodes : e.issueCodes.Nodup
  entryId : matchesIdentifier e.entryId = true
  scenarioId : matchesScenarioId e.scenarioId = true
  replicateId : 1 ≤ e.replicateId
  attempt : 1 ≤ e.attempt
  runId : matchesIdentifier e.runId = true
  startedAt : isDateTime e.startedAt = true
  finishedAt : isDateTime e.finishedAt = true
  fixtureManifest : matchesDigest e.fixtureManifestSha256 = true
  scenarioManifest : matchesDigest e.scenarioManifestSha256 = true
  commit : matchesCommit e.repositoryCommit = true
  ruleCatalog : matchesDigest e.ruleCatalogSha256 = true
  formula : matchesIdentifier e.formulaVersion = true
  modelProviderId : ∀ s ∈ e.modelProviderId, isFilled s = true
  modelId : ∀ s ∈ e.modelId, isFilled s = true
  modelConfigurationDigest : ∀ s ∈ e.modelConfigurationDigest, matchesDigest s = true
  agentteamsVersion : ∀ s ∈ e.agentteamsVersion, isFilled s = true
  agentteamsCommit : ∀ s ∈ e.agentteamsCommit, matchesCommit s = true
  workerEvidenceSha256 : ∀ s ∈ e.workerEvidenceSha256, matchesDigest s = true
  latency : LatencyAllowed F e.latency
  cost : CostAllowed F e.cost

/-- The entry that a chained document is read as. -/
def EntryBody.chained (e : EntryBody) (index : ℕ) (previous digest : PyStr) : Entry where
  toEntryBody := e
  entryIndex := index
  previousEntrySha256 := previous
  entrySha256 := digest
  members := chainedMembers e index previous digest

variable {e : EntryBody} {index : ℕ} {previous digest : PyStr}

theorem entry_chainedMembers {e' : Entry} :
    entry F isDateTime (.obj (chainedMembers e index previous digest)) = some e' ↔
      (1 ≤ index ∧ matchesDigest previous = true ∧ matchesDigest digest = true) ∧
        EntryAllowed F isDateTime e ∧ e' = e.chained index previous digest := by
  have hfields : entry F isDateTime (.obj (chainedMembers e index previous digest)) = (do
      let issueCodes ← codes (codesDoc e.issueCodes)
      return {
        entryIndex := ← integer F 1 (.int index)
        previousEntrySha256 := ← matching matchesDigest (.str previous)
        entrySha256 := ← matching matchesDigest (.str digest)
        entryId := ← matching matchesIdentifier (.str e.entryId)
        armId := ← armId (.str (pyLit e.armId.text))
        scenarioId := ← matching matchesScenarioId (.str e.scenarioId)
        replicateId := ← integer F 1 (.int e.replicateId)
        attempt := ← integer F 1 (.int e.attempt)
        runId := ← matching matchesIdentifier (.str e.runId)
        executionStatus := ← executionStatus (.str (pyLit e.executionStatus.text))
        status := ← status (.str (pyLit e.status.text))
        issueCodes := issueCodes.val
        startedAt := ← matching isDateTime (.str e.startedAt)
        finishedAt := ← matching isDateTime (.str e.finishedAt)
        fixtureManifestSha256 := ← matching matchesDigest (.str e.fixtureManifestSha256)
        scenarioManifestSha256 := ← matching matchesDigest (.str e.scenarioManifestSha256)
        repositoryCommit := ← matching matchesCommit (.str e.repositoryCommit)
        ruleCatalogSha256 := ← matching matchesDigest (.str e.ruleCatalogSha256)
        formulaVersion := ← matching matchesIdentifier (.str e.formulaVersion)
        modelProviderId := ← nullable (matching isFilled) (textDoc? e.modelProviderId)
        modelId := ← nullable (matching isFilled) (textDoc? e.modelId)
        modelConfigurationDigest :=
          ← nullable (matching matchesDigest) (textDoc? e.modelConfigurationDigest)
        agentteamsVersion := ← nullable (matching isFilled) (textDoc? e.agentteamsVersion)
        agentteamsCommit := ← nullable (matching matchesCommit) (textDoc? e.agentteamsCommit)
        workerEvidenceSha256 :=
          ← nullable (matching matchesDigest) (textDoc? e.workerEvidenceSha256)
        workerEvidence := ← nullable object (objectDoc? e.workerEvidence)
        result := ← nullable result (objectDoc? (e.result.map Result.members))
        latency := ← latency F e.latency.doc
        cost := ← cost F e.cost.doc
        members := chainedMembers e index previous digest }) := rfl
  have hcodes {β : Type} {f : { l : List Code // l.Nodup } → Option β} {b : β} :
      (codes (codesDoc e.issueCodes)).bind f = some b ↔ ∃ h :
          e.issueCodes.Nodup, f ⟨_, h⟩ = some b := by
    rw [codes_codesDoc, distinct]
    by_cases h : e.issueCodes.Nodup <;> simp [h]
  rw [hfields]
  constructor
  · intro h
    obtain ⟨hissues, h⟩ := hcodes.1 h
    obtain ⟨hindex, h⟩ := bind_integer.1 h
    obtain ⟨hprevious, h⟩ := bind_matching.1 h
    obtain ⟨hdigest, h⟩ := bind_matching.1 h
    obtain ⟨hentry, h⟩ := bind_matching.1 h
    rw [armId_text] at h
    obtain ⟨hscenario, h⟩ := bind_matching.1 h
    obtain ⟨hreplicate, h⟩ := bind_integer.1 h
    obtain ⟨hattempt, h⟩ := bind_integer.1 h
    obtain ⟨hrun, h⟩ := bind_matching.1 h
    rw [executionStatus_text, status_text] at h
    obtain ⟨hstarted, h⟩ := bind_matching.1 h
    obtain ⟨hfinished, h⟩ := bind_matching.1 h
    obtain ⟨hfixture, h⟩ := bind_matching.1 h
    obtain ⟨hmanifest, h⟩ := bind_matching.1 h
    obtain ⟨hcommit, h⟩ := bind_matching.1 h
    obtain ⟨hcatalog, h⟩ := bind_matching.1 h
    obtain ⟨hformula, h⟩ := bind_matching.1 h
    obtain ⟨hprovider, h⟩ := bind_nullable.1 h
    obtain ⟨hmodel, h⟩ := bind_nullable.1 h
    obtain ⟨hconfiguration, h⟩ := bind_nullable.1 h
    obtain ⟨hversion, h⟩ := bind_nullable.1 h
    obtain ⟨hteams, h⟩ := bind_nullable.1 h
    obtain ⟨hsha, h⟩ := bind_nullable.1 h
    rw [nullable_object, nullable_result] at h
    obtain ⟨hlatency, h⟩ := bind_latency.1 h
    obtain ⟨hcost, h⟩ := bind_cost.1 h
    exact ⟨⟨hindex, hprevious, hdigest⟩,
      ⟨hissues, hentry, hscenario, hreplicate, hattempt, hrun, hstarted,
      hfinished, hfixture, hmanifest, hcommit, hcatalog, hformula, hprovider, hmodel,
        hconfiguration, hversion, hteams, hsha, hlatency, hcost⟩, (Option.some.inj h).symm⟩
  · rintro ⟨⟨hindex, hprevious, hdigest⟩, h, rfl⟩
    have hmatching {p : PyStr → Bool} {s : PyStr} (h : p s = true) :
        matching p (.str s) = some s := by
      rw [matching_str, if_pos h]
    have hnumber {n : ℕ} (h : 1 ≤ n) : integer F 1 (.int n) = some n := by
      rw [integer_int, if_pos h]
    have htext {p : PyStr → Bool} {o : Option PyStr} (h : ∀ s ∈ o, p s = true) :
        nullable (matching p) (textDoc? o) = some o := by
      rw [nullable_textDoc, if_pos h]
    refine hcodes.2 ⟨h.issueCodes, ?_⟩
    simp only [hnumber hindex, hnumber h.replicateId, hnumber h.attempt, hmatching hprevious,
      hmatching hdigest, hmatching h.entryId, hmatching h.scenarioId, hmatching h.runId,
      hmatching h.startedAt, hmatching h.finishedAt, hmatching h.fixtureManifest,
      hmatching h.scenarioManifest, hmatching h.commit, hmatching h.ruleCatalog,
        hmatching h.formula, htext h.modelProviderId, htext h.modelId,
      htext h.modelConfigurationDigest,
      htext h.agentteamsVersion, htext h.agentteamsCommit, htext h.workerEvidenceSha256, armId_text,
      executionStatus_text, status_text, nullable_object, nullable_result,
      latency_doc.2 ⟨h.latency, rfl⟩, cost_doc.2 ⟨h.cost, rfl⟩]
    rfl

/-! ## Ledgers -/

/-- The document of the entry is the one that the producer makes of it. -/
def Entry.IsChained (e : Entry) : Prop :=
  e.members = chainedMembers e.toEntryBody e.entryIndex e.previousEntrySha256 e.entrySha256

/-- What the schema asks of a chained entry. -/
structure ChainedAllowed (F : Floats) (isDateTime : PyStr → Bool) (e : Entry) : Prop where
  index : 1 ≤ e.entryIndex
  previous : matchesDigest e.previousEntrySha256 = true
  digest : matchesDigest e.entrySha256 = true
  body : EntryAllowed F isDateTime e.toEntryBody

theorem Entry.IsChained.eq_chained {e : Entry} (h : e.IsChained) :
    e = e.toEntryBody.chained e.entryIndex e.previousEntrySha256 e.entrySha256 := by
  cases e
  simp only [EntryBody.chained, Entry.mk.injEq, true_and]
  exact h

theorem entry_members {e e' : Entry} (h : e.IsChained) :
    entry F isDateTime (.obj e.members) = some e' ↔ ChainedAllowed F isDateTime e ∧ e' = e := by
  rw [h, entry_chainedMembers, ← h.eq_chained]
  constructor
  · rintro ⟨⟨hindex, hprevious, hdigest⟩, hbody, rfl⟩
    exact ⟨⟨hindex, hprevious, hdigest, hbody⟩, rfl⟩
  · rintro ⟨h, rfl⟩
    exact ⟨⟨h.index, h.previous, h.digest⟩, h.body, rfl⟩

/-- Objects that are the same have the same members. -/
theorem lookup_of_sameMembers {m m' : List (PyStr × Doc)} (h : sameMembers F m m' = true)
    {k : PyStr} {v : Doc}
    (hv : (k, v) ∈ m) : ∃ v', m'.lookup k = some v' ∧ sameDoc F v v' = true := by
  induction m with
  | nil => cases hv
  | cons b m ih =>
    rw [sameMembers, Bool.and_eq_true] at h
    rcases List.mem_cons.1 hv with rfl | hv
    · cases hlookup : m'.lookup k with
      | none =>
        rw [hlookup] at h
        cases h.1
      | some v' =>
        rw [hlookup] at h
        exact ⟨v', rfl, h.1⟩
    · exact ih h.2 hv

/-- Chained entries with different numbers are different documents. -/
theorem sameDoc_members {e e' : Entry} (h : e.IsChained) (h' : e'.IsChained)
    (hindex : e.entryIndex ≠ e'.entryIndex) :
    sameDoc F (.obj e.members) (.obj e'.members) = false := by
  rw [← Bool.not_eq_true]
  intro hsame
  simp only [sameDoc, Bool.and_eq_true] at hsame
  have hmem : (pyLit "entry_index", Json.int e.entryIndex) ∈ e.members := by
    rw [h]
    simp [chainedMembers, numberedMembers]
  have hlookup : e'.members.lookup (pyLit "entry_index") = some (.int e'.entryIndex) := by
    rw [h']
    rfl
  obtain ⟨v', hv', hsame⟩ := lookup_of_sameMembers hsame.2 hmem
  rw [hlookup] at hv'
  obtain rfl := Option.some.inj hv'
  simp only [sameDoc, beq_iff_eq, Int.natCast_inj] at hsame
  exact hindex hsame

/-- The entries that the schema reads of the documents of numbered entries. -/
theorem entries_members {l l' : List Entry} (hchained : ∀ e ∈ l, e.IsChained)
    (hindex : (l.map fun e => e.entryIndex).Nodup) :
    entries F isDateTime (.arr (l.map fun e => .obj e.members)) = some l' ↔
      l ≠ [] ∧ (∀ e ∈ l, ChainedAllowed F isDateTime e) ∧ l' = l := by
  have hunique : uniqueItems F (l.map fun e => .obj e.members) := by
    refine List.pairwise_map.2 ((List.pairwise_map.1 hindex).imp_of_mem fun {e e'} he he' hne => ?_)
    exact sameDoc_members (hchained e he) (hchained e' he') hne
  have hread : (l.map fun e => Json.obj e.members).mapM (entry F isDateTime) = some l' ↔
      (∀ e ∈ l, ChainedAllowed F isDateTime e) ∧ l' = l := by
    rw [mapM_eq_some, List.forall₂_map_left_iff]
    clear hindex hunique
    induction l generalizing l' with
    | nil => simp
    | cons e l ih =>
      obtain ⟨he, hl⟩ := List.forall_mem_cons.1 hchained
      rw [List.forall₂_cons_left_iff]
      simp only [entry_members he, ih hl, List.forall_mem_cons]
      constructor
      · rintro ⟨_, _, ⟨hallowed, rfl⟩, ⟨hrest, rfl⟩, rfl⟩
        exact ⟨⟨hallowed, hrest⟩, rfl⟩
      · rintro ⟨⟨hallowed, hrest⟩, rfl⟩
        exact ⟨e, l, ⟨hallowed, rfl⟩, ⟨hrest, rfl⟩, rfl⟩
  simp only [entries]
  by_cases hnil : l = []
  · simp [hnil]
  · rw [if_neg (by simp [hnil, hunique]), hread]
    simp [hnil]

/-- The texts of a plan and of a ledger that the schema takes. -/
structure LedgerAllowed (V : Verifier) (c : BuildCall) (replicateIds attempts : List ℕ)
    (root : PyStr) :
    Prop where
  replicates_pos : ∀ n ∈ replicateIds, 1 ≤ n
  replicates_ne : replicateIds ≠ []
  replicates_nodup : replicateIds.Nodup
  attempts_pos : ∀ n ∈ attempts, 1 ≤ n
  attempts_ne : attempts ≠ []
  attempts_nodup : attempts.Nodup
  ledgerId : matchesIdentifier (pyLit "proofflow-ledger-" ++ toPyStr (stamp c.recordedAt)) = true
  recordedAt : V.isDateTime (timestamp c.recordedAt) = true
  fixtureManifest : matchesDigest V.protocol.fixtureManifestSha256 = true
  scenarioManifest : matchesDigest V.protocol.scenarioManifestSha256 = true
  commit : matchesCommit c.repositoryCommit = true
  root : matchesDigest root = true

theorem plan_arr {ids : List ℕ} {p : { l : List ℕ // l.Nodup }} :
    coveragePlan.plan F (.arr (ids.map fun (n : ℕ) => .int n)) = some p ↔
      (∀ n ∈ ids, 1 ≤ n) ∧ ids ≠ [] ∧ p.val = ids := by
  have hread {l : List ℕ} : (ids.map fun (n : ℕ) => Json.int n).mapM (integer F 1) = some l ↔
      (∀ n ∈ ids, 1 ≤ n) ∧ l = ids := by
    rw [mapM_eq_some, List.forall₂_map_left_iff]
    induction ids generalizing l with
    | nil => simp
    | cons n ids ih =>
      rw [List.forall₂_cons_left_iff]
      simp only [ih, List.forall_mem_cons]
      constructor
      · rintro ⟨m, _, hm, ⟨hrest, rfl⟩, rfl⟩
        rw [integer_int] at hm
        split_ifs at hm with hn
        obtain rfl := Option.some.inj hm
        exact ⟨⟨hn, hrest⟩, rfl⟩
      · rintro ⟨⟨hn, hrest⟩, rfl⟩
        exact ⟨n, ids, (integer_int 1 n).trans (if_pos hn), ⟨hrest, rfl⟩, rfl⟩
  unfold coveragePlan.plan
  rw [Option.bind_eq_some_iff]
  constructor
  · rintro ⟨l, hl, h⟩
    obtain ⟨hpos, rfl⟩ := hread.1 hl
    split_ifs at h with hnil
    unfold distinct at h
    split_ifs at h
    obtain rfl := Option.some.inj h
    exact ⟨hpos, hnil, rfl⟩
  · rintro ⟨hpos, hnil, rfl⟩
    exact ⟨p.val, hread.2 ⟨hpos, rfl⟩, by rw [if_neg hnil, distinct, dif_pos p.property]⟩

theorem coveragePlan_planDoc {replicateIds attempts : List ℕ}
    {p : { l : List ℕ // l.Nodup } × { l : List ℕ // l.Nodup }} :
    coveragePlan F (planDoc replicateIds attempts) = some p ↔
      ((∀ n ∈ replicateIds, 1 ≤ n) ∧ replicateIds ≠ [] ∧ p.1.val = replicateIds) ∧
        (∀ n ∈ attempts, 1 ≤ n) ∧ attempts ≠ [] ∧ p.2.val = attempts := by
  have hfields : coveragePlan F (planDoc replicateIds attempts) = (do
      let replicateIds ← coveragePlan.plan F (.arr (replicateIds.map fun (n : ℕ) => .int n))
      let attempts ← coveragePlan.plan F (.arr (attempts.map fun (n : ℕ) => .int n))
      return (replicateIds, attempts)) := rfl
  rw [hfields]
  simp only [Option.bind_eq_bind, Option.bind_eq_some_iff, plan_arr, Option.pure_def,
    Option.some.injEq]
  constructor
  · rintro ⟨r, hr, t, ht, rfl⟩
    exact ⟨hr, ht⟩
  · rintro ⟨hr, ht⟩
    exact ⟨p.1, hr, p.2, ht, rfl⟩

/-- The ledger that a sealed document is read as. -/
def BuildCall.ledger (V : Verifier) (c : BuildCall)
    (replicateIds attempts : { l : List ℕ // l.Nodup }) (entries : List Entry)
    (root : PyStr) : Ledger where
  replicateIds := replicateIds
  attempts := attempts
  entries := entries
  ledgerRootSha256 := root
  fixtureManifestSha256 := V.protocol.fixtureManifestSha256
  scenarioManifestSha256 := V.protocol.scenarioManifestSha256
  repositoryCommit := c.repositoryCommit
  members := sealedMembers V c replicateIds.val attempts.val (entries.map fun e => e.members) root

theorem ledger_sealedMembers {V : Verifier} {c : BuildCall} {replicateIds attempts : List ℕ}
    {l : List Entry} {root : PyStr} {ledger : Ledger} (hchained : ∀ e ∈ l, e.IsChained)
    (hindex : (l.map fun e => e.entryIndex).Nodup) :
    V.schema (.obj (sealedMembers V c replicateIds attempts (l.map fun e => e.members) root)) =
        some ledger ↔
      LedgerAllowed V c replicateIds attempts root ∧
        (l ≠ [] ∧ ∀ e ∈ l, ChainedAllowed V.floats V.isDateTime e) ∧
        ∃ hr ht, ledger = c.ledger V ⟨replicateIds, hr⟩ ⟨attempts, ht⟩ l root := by
  have hfields : V.schema
      (.obj (sealedMembers V c replicateIds attempts (l.map fun e => e.members) root)) = (do
      let _ ← matching matchesIdentifier
        (.str (pyLit "proofflow-ledger-" ++ toPyStr (stamp c.recordedAt)))
      let plan ← coveragePlan V.floats (planDoc replicateIds attempts)
      let entries ← entries V.floats V.isDateTime
        (.arr ((l.map fun e => e.members).map fun members => .obj members))
      let root' ← matching matchesDigest (.str root)
      let provenance ← (do
        let fixture ← matching matchesDigest (.str V.protocol.fixtureManifestSha256)
        let scenario ← matching matchesDigest (.str V.protocol.scenarioManifestSha256)
        let commit ← matching matchesCommit (.str c.repositoryCommit)
        let _ ← matching V.isDateTime (.str (timestamp c.recordedAt))
        return (fixture, scenario, commit))
      return {
        replicateIds := plan.1
        attempts := plan.2
        entries := entries
        ledgerRootSha256 := root'
        fixtureManifestSha256 := provenance.1
        scenarioManifestSha256 := provenance.2.1
        repositoryCommit := provenance.2.2
        members := sealedMembers V c replicateIds attempts (l.map fun e => e.members) root }) := rfl
  rw [hfields, List.map_map]
  constructor
  · intro h
    obtain ⟨hid, h⟩ := bind_matching.1 h
    obtain ⟨⟨r, t⟩, hplan, h⟩ := Option.bind_eq_some_iff.1 h
    obtain ⟨⟨hrpos, hrne, hr⟩, htpos, htne, ht⟩ := coveragePlan_planDoc.1 hplan
    obtain ⟨l', hentries, h⟩ := Option.bind_eq_some_iff.1 h
    obtain ⟨hne, hall, rfl⟩ := (entries_members hchained hindex).1 hentries
    obtain ⟨hroot, h⟩ := bind_matching.1 h
    obtain ⟨⟨fixture, scenario, commit⟩, hprovenance, h⟩ := Option.bind_eq_some_iff.1 h
    obtain ⟨hfixture, hprovenance⟩ := bind_matching.1 hprovenance
    obtain ⟨hscenario, hprovenance⟩ := bind_matching.1 hprovenance
    obtain ⟨hcommit, hprovenance⟩ := bind_matching.1 hprovenance
    obtain ⟨hrecorded, hprovenance⟩ := bind_matching.1 hprovenance
    cases hprovenance
    cases h
    subst hr ht
    exact ⟨⟨hrpos, hrne, r.property, htpos, htne, t.property, hid, hrecorded, hfixture, hscenario,
      hcommit, hroot⟩, ⟨hne, hall⟩, r.property, t.property, rfl⟩
  · rintro ⟨h, ⟨hne, hall⟩, hr, ht, rfl⟩
    have hplan : coveragePlan V.floats (planDoc replicateIds attempts) =
        some (⟨replicateIds, hr⟩, ⟨attempts, ht⟩) :=
      coveragePlan_planDoc.2 ⟨⟨h.replicates_pos, h.replicates_ne, rfl⟩, h.attempts_pos,
        h.attempts_ne, rfl⟩
    refine bind_matching.2 ⟨h.ledgerId, Option.bind_eq_some_iff.2 ⟨_, hplan, ?_⟩⟩
    refine Option.bind_eq_some_iff.2 ⟨l, (entries_members hchained hindex).2 ⟨hne, hall, rfl⟩, ?_⟩
    refine bind_matching.2 ⟨h.root, Option.bind_eq_some_iff.2 ⟨(_, _, _), ?_, rfl⟩⟩
    refine bind_matching.2 ⟨h.fixtureManifest, bind_matching.2 ⟨h.scenarioManifest, ?_⟩⟩
    exact bind_matching.2 ⟨h.commit, bind_matching.2 ⟨h.recordedAt, rfl⟩⟩

end ProofFlow.Evaluation
