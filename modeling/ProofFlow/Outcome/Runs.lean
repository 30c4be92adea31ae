import ProofFlow.Outcome.Total

/-!
# Runs on the outcome closure index

Any number of calls share one index, whose operation is atomic.  Whatever is appended, and in
whatever order, the index holds one hash chain for every attempt.  In runs of
`verify_outcome_closure` a closure is reported as present only when it was appended before.
-/

namespace ProofFlow

open Kit

/-! ## Arbitrary appends -/

/-- Clients that call `append_once` with arguments of their own. -/
def appendService : Service ClosureAppend ClosureAppend OutcomeIndexStatus OutcomeIndexStatus
    InMemoryOutcomeClosureIndex where
  plan a := .ok (a, id)
  apply := InMemoryOutcomeClosureIndex.appendOnce

theorem appendService_call (x : InMemoryOutcomeClosureIndex) (a : ClosureAppend) :
    appendService.call x a = x.appendOnce a := rfl

/-- A moment of a run of appends, as data. -/
abbrev AppendConfig := Config ClosureAppend ClosureAppend OutcomeIndexStatus OutcomeIndexStatus
  InMemoryOutcomeClosureIndex

/-- A step of a run of appends with whatever arguments.  No append has a number below one, so zero
stands for all of these. -/
abbrev AppendStep : AppendConfig → AppendConfig → Prop :=
  Step appendService fun _ => True

/-- A moment of a run of appends on a fresh index. -/
abbrev AppendRun (capacity : Ranged 1 1000000) : AppendConfig → Prop :=
  Reachable appendService (fun _ => True) (.init capacity)

section Appends

variable {capacity : Ranged 1 1000000} {g g' : AppendConfig}

theorem InMemoryOutcomeClosureIndex.capacity_appendOnce (x : InMemoryOutcomeClosureIndex)
    (a : ClosureAppend) : (x.appendOnce a).2.capacity = x.capacity := by
  rcases x.appendOnce_cases a with ⟨-, heq⟩ | ⟨-, heq⟩ | ⟨-, -, -, heq⟩
  · rw [heq]
    rfl
  · rw [heq]
  · rw [heq]

theorem AppendRun.chained (h : AppendRun capacity g) :
    g.shared.HashChained ∧ g.shared.capacity = capacity := by
  refine Reachable.invariant (I := fun x _ => x.HashChained ∧ x.capacity = capacity)
    ⟨InMemoryOutcomeClosureIndex.hashChained_init capacity, rfl⟩ (fun x _ a _ hx => ?_) h
  rw [appendService_call]
  exact ⟨hx.1.appendOnce a, (x.capacity_appendOnce a).trans hx.2⟩

theorem AppendRun.grows (h : AppendRun capacity g) (hs : AppendStep g g') :
    g.shared.Grows g'.shared := by
  rcases Reachable.step h hs with ⟨hshared, -⟩ | ⟨a, -, hshared, -⟩
  · rw [hshared]
    exact InMemoryOutcomeClosureIndex.Grows.refl _
  · rw [hshared, appendService_call]
    exact g.shared.grows_appendOnce a

/-- A step that settles a call settles it with the index's answer in the current state. -/
theorem AppendRun.settles (h : AppendRun capacity g) (hs : AppendStep g g') {a : ClosureAppend}
    {status : OutcomeIndexStatus} (hsettled : g'.settled = (a, status) ::ₘ g.settled) :
    g.shared.appendOnce a = (status, g'.shared) := by
  rcases Reachable.step h hs with ⟨-, hsame⟩ | ⟨a', -, hshared, hsettled'⟩
  · rw [hsame] at hsettled
    simpa using congrArg Multiset.card hsettled
  · rw [appendService_call] at hshared hsettled'
    rw [hsettled', Multiset.cons_inj_left, Prod.mk.injEq] at hsettled
    obtain ⟨rfl, rfl⟩ := hsettled
    exact Prod.ext rfl hshared.symm

/-- The index at a moment of a run of appends. -/
structure ClosuresChained (capacity : Ranged 1 1000000) (g : AppendConfig) : Prop where
  chain : ∀ key, ∃ n, Chain (g.shared.entries key) (g.shared.latest.get key) n
  sizes_eq : g.shared.closures.size = g.shared.executions.size
  size_le : g.shared.closures.size ≤ capacity.val
  grows : ∀ g', AppendStep g g' → g.shared.Grows g'.shared
  unchanged : ∀ g' a status, AppendStep g g' → g'.settled = (a, status) ::ₘ g.settled →
    status ≠ .appended → g'.shared = g.shared

theorem AppendRun.closuresChained (h : AppendRun capacity g) : ClosuresChained capacity g := by
  obtain ⟨hchained, hcapacity⟩ := h.chained
  exact {
    chain := hchained.chain
    sizes_eq := hchained.sizes_eq
    size_le := hcapacity ▸ hchained.size_le
    grows := fun g' hs => h.grows hs
    unchanged := fun g' a status hs hsettled hstatus => by
      have hanswer := h.settles hs hsettled
      have hsame := InMemoryOutcomeClosureIndex.appendOnce_unchanged (x := g.shared) (a := a)
        (by rw [hanswer]; exact hstatus)
      rwa [hanswer] at hsame }

/-! ## Intents -/

/-- Two appends with the same tenant and the same idempotency key carry the same intent. -/
def IntentsBound (settled : Multiset (ClosureAppend × OutcomeIndexStatus)) : Prop :=
  ∀ a a', (a, .appended) ∈ settled → (a', .appended) ∈ settled → a.tenantId = a'.tenantId →
    a.idempotencyKey = a'.idempotencyKey → a.intentSha256 = a'.intentSha256

/-- Under whatever other sequence number the idempotency key is recorded, it is with this intent. -/
def KeepsIntent (x : InMemoryOutcomeClosureIndex) (a : ClosureAppend) : Prop :=
  ∀ number, number ≠ a.closureSequence →
    ∀ entry ∈ x.idempotency.get (a.tenantId, a.idempotencyKey, number), entry.1 = a.intentSha256

/-- The map of intents holds exactly what was appended. -/
structure IntentsRecorded (x : InMemoryOutcomeClosureIndex)
    (settled : Multiset (ClosureAppend × OutcomeIndexStatus)) : Prop where
  recorded : ∀ a, (a, .appended) ∈ settled →
    x.idempotency.get a.idempotencyKeyed = some (a.intentSha256, a.payloadSha256)
  appended : ∀ key entry, x.idempotency.get key = some entry →
    ∃ a, (a, .appended) ∈ settled ∧ a.idempotencyKeyed = key ∧
      entry = (a.intentSha256, a.payloadSha256)

theorem AppendRun.intentsRecorded (h : AppendRun capacity g) :
    IntentsRecorded g.shared g.settled := by
  refine Reachable.invariant (I := IntentsRecorded)
    ⟨by simp, by simp [InMemoryOutcomeClosureIndex.init]⟩ (fun x settled a _ hx => ?_) h
  rw [appendService_call]
  have hkeep {status : OutcomeIndexStatus} (hstatus : status ≠ .appended) :
      IntentsRecorded x ((a, status) ::ₘ settled) := by
    refine ⟨fun a' ha' => ?_, fun key entry hget => ?_⟩
    · rcases Multiset.mem_cons.1 ha' with heq | ha'
      · exact absurd (Prod.mk.inj heq).2.symm hstatus
      · exact hx.recorded a' ha'
    · obtain ⟨a', ha', hrest⟩ := hx.appended key entry hget
      exact ⟨a', Multiset.mem_cons_of_mem ha', hrest⟩
  rcases x.appendOnce_cases a with ⟨ha, heq⟩ | ⟨-, heq⟩ | ⟨-, hne, -, heq⟩
  · rw [heq]
    refine ⟨fun a' ha' => ?_, fun key entry hget => ?_⟩
    · rcases Multiset.mem_cons.1 ha' with heq | ha'
      · obtain ⟨rfl, -⟩ := Prod.mk.inj heq
        exact Dict.get_set_self _ _ _
      · exact ha.grows.idempotency _ _ (hx.recorded a' ha')
    · simp only [InMemoryOutcomeClosureIndex.write, Dict.get_set] at hget
      split_ifs at hget with hkey
      · exact ⟨a, Multiset.mem_cons_self _ _, hkey.symm, (Option.some.inj hget).symm⟩
      · obtain ⟨a', ha', hrest⟩ := hx.appended key entry hget
        exact ⟨a', Multiset.mem_cons_of_mem ha', hrest⟩
  · rw [heq]
    exact hkeep (by simp)
  · rw [heq]
    exact hkeep hne

/-- An append keeps the intents bound exactly when it keeps the intent of its key. -/
theorem AppendRun.intentsBound_iff (h : AppendRun capacity g) (hbound : IntentsBound g.settled)
    (hs : AppendStep g g') {a : ClosureAppend}
    (hsettled : g'.settled = (a, .appended) ::ₘ g.settled) :
    IntentsBound g'.settled ↔ KeepsIntent g.shared a := by
  have hrecorded := h.intentsRecorded
  have hanswer := h.settles hs hsettled
  have hfree : g.shared.idempotency.get a.idempotencyKeyed = none := by
    rcases g.shared.appendOnce_cases a with ⟨ha, -⟩ | ⟨-, heq⟩ | ⟨-, hne, -⟩
    · exact ha.idempotency_free
    · rw [heq] at hanswer
      cases hanswer
    · rw [hanswer] at hne
      exact absurd rfl hne
  rw [hsettled]
  constructor
  · rintro hbound' number - entry hentry
    obtain ⟨a', ha', hkey, rfl⟩ := hrecorded.appended _ _ hentry
    obtain ⟨htenant, hidem, -⟩ : a'.tenantId = a.tenantId ∧
        a'.idempotencyKey = a.idempotencyKey ∧ a'.closureSequence = number := by
      simpa [ClosureAppend.idempotencyKeyed] using hkey
    exact hbound' a' a (Multiset.mem_cons_of_mem ha') (Multiset.mem_cons_self _ _) htenant hidem
  · intro hkeeps
    -- an earlier append under the same number would have taken the key
    have hearlier {a' : ClosureAppend} (ha' : (a', .appended) ∈ g.settled)
        (htenant : a'.tenantId = a.tenantId) (hidem : a'.idempotencyKey = a.idempotencyKey) :
        a'.intentSha256 = a.intentSha256 := by
      have hget := hrecorded.recorded a' ha'
      simp only [ClosureAppend.idempotencyKeyed, htenant, hidem] at hget hfree
      by_cases hnumber : a'.closureSequence = a.closureSequence
      · rw [hnumber, hfree] at hget
        cases hget
      · exact hkeeps _ hnumber _ hget
    intro a₁ a₂ h₁ h₂ htenant hidem
    rcases Multiset.mem_cons.1 h₁, Multiset.mem_cons.1 h₂ with ⟨heq₁ | hmem₁, heq₂ | hmem₂⟩
    · rw [(Prod.mk.inj heq₁).1, (Prod.mk.inj heq₂).1]
    · obtain ⟨rfl, -⟩ := Prod.mk.inj heq₁
      exact (hearlier hmem₂ htenant.symm hidem.symm).symm
    · obtain ⟨rfl, -⟩ := Prod.mk.inj heq₂
      exact hearlier hmem₁ htenant hidem
    · exact hbound a₁ a₂ hmem₁ hmem₂ htenant hidem

/-- A moment of a run in which every append keeps the intent of its key. -/
def KeepingRun (capacity : Ranged 1 1000000) : AppendConfig → Prop :=
  Relation.ReflTransGen (fun g g' => AppendStep g g' ∧
    ∀ a, g'.settled = (a, .appended) ::ₘ g.settled → KeepsIntent g.shared a)
    (.start (.init capacity))

theorem KeepingRun.appendRun (h : KeepingRun capacity g) : AppendRun capacity g := by
  induction h with
  | refl => exact Relation.ReflTransGen.refl
  | tail _ hs ih => exact ih.tail hs.1

/-- A step settles one call or none. -/
theorem AppendRun.step_settled (h : AppendRun capacity g) (hs : AppendStep g g') :
    g'.settled = g.settled ∨ ∃ a status, g'.settled = (a, status) ::ₘ g.settled := by
  rcases Reachable.step h hs with ⟨-, hsame⟩ | ⟨a, -, -, hsettled⟩
  · exact .inl hsame
  · exact .inr ⟨a, _, hsettled⟩

/-- Intents stay bound in every run whose appends keep the intent of their key under the other
sequence numbers, and the first append that does not keep it rebinds the key. -/
theorem outcomeIndex_intents_bound (capacity : Ranged 1 1000000) :
    (∀ g, KeepingRun capacity g → IntentsBound g.settled) ∧
      ∀ g g' a, AppendRun capacity g → IntentsBound g.settled → AppendStep g g' →
        g'.settled = (a, .appended) ::ₘ g.settled →
        (IntentsBound g'.settled ↔ KeepsIntent g.shared a) := by
  refine ⟨fun g h => ?_, fun g g' a h hbound hs => h.intentsBound_iff hbound hs⟩
  induction h with
  | refl =>
    intro a a' ha
    simp [Config.start] at ha
  | @tail g g' hr hs ih =>
    have hrun := KeepingRun.appendRun hr
    rcases hrun.step_settled hs.1 with hsame | ⟨a, status, hsettled⟩
    · rwa [hsame]
    · by_cases hstatus : status = .appended
      · subst hstatus
        exact (hrun.intentsBound_iff ih hs.1 hsettled).2 (hs.2 a hsettled)
      · have hmem {a' : ClosureAppend} (ha' : (a', .appended) ∈ g'.settled) :
            (a', .appended) ∈ g.settled := by
          rw [hsettled] at ha'
          rcases Multiset.mem_cons.1 ha' with heq | ha'
          · exact absurd (Prod.mk.inj heq).2.symm hstatus
          · exact ha'
        exact fun a₁ a₂ h₁ h₂ => ih a₁ a₂ (hmem h₁) (hmem h₂)

namespace Sample

/-- The first closure of an attempt. -/
def firstAppend : ClosureAppend where
  tenantId := lit "tenant"
  closureId := lit "closure-1"
  executionId := lit "exec-1"
  attemptId := lit "attempt-1"
  closureSequence := 1
  previousPayloadSha256 := none
  payloadSha256 := (digest (repeated 1)).val
  idempotencyKey := lit "key-1"
  intentSha256 := (digest (repeated 2)).val

/-- The next closure of the attempt, with the same idempotency key and another intent. -/
def secondAppend : ClosureAppend where
  tenantId := lit "tenant"
  closureId := lit "closure-2"
  executionId := lit "exec-1"
  attemptId := lit "attempt-1"
  closureSequence := 2
  previousPayloadSha256 := some (digest (repeated 1)).val
  payloadSha256 := (digest (repeated 3)).val
  idempotencyKey := lit "key-1"
  intentSha256 := (digest (repeated 4)).val

theorem both_appended : (appendService.call closureIndex firstAppend).1 = .appended ∧
    (appendService.call (appendService.call closureIndex firstAppend).2 secondAppend).1 =
      .appended := by
  decide

end Sample

/-- Two closures of one attempt are appended although they carry two intents for one key. -/
theorem sample_intent_rebound :
    ∃ g, AppendRun Sample.capacity g ∧ ¬ IntentsBound g.settled := by
  have hstart : AppendRun Sample.capacity ⟨Sample.closureIndex, 0, 0, 0⟩ :=
    Relation.ReflTransGen.refl
  have honce := Reachable.settle hstart (c := Sample.firstAppend) trivial
  have htwice := Reachable.settle honce (c := Sample.secondAppend) trivial
  refine ⟨_, htwice, fun hbound => ?_⟩
  have hne : Sample.secondAppend.intentSha256 ≠ Sample.firstAppend.intentSha256 := by
    decide
  dsimp only at hbound
  rw [Sample.both_appended.1, Sample.both_appended.2] at hbound
  exact hne (hbound _ _ (Multiset.mem_cons_self _ _)
    (Multiset.mem_cons_of_mem (Multiset.mem_cons_self _ _)) rfl rfl)

end Appends

/-! ## Runs of the verifier -/

/-- The verifier as a service on the shared index. -/
def closureService (P : Platform) :
    Service OutcomeCall ClosureAppend OutcomeIndexStatus ClosureOutcome
      InMemoryOutcomeClosureIndex where
  plan call :=
    match deriveOutcome P call with
    | .error out => .error out
    | .ok (b, verdict) => .ok (b.append P, b.conclude P call verdict)
  apply := InMemoryOutcomeClosureIndex.appendOnce

/-- The verifier on an in-memory index. -/
abbrev verifyClosure (P : Platform) (call : OutcomeCall) (x : InMemoryOutcomeClosureIndex) :
    ClosureOutcome × InMemoryOutcomeClosureIndex :=
  verifyOutcomeClosure P call InMemoryOutcomeClosureIndex.protocol x

/-- A call of the service is a call of the verifier. -/
theorem closureService_call (P : Platform) (x : InMemoryOutcomeClosureIndex) (c : OutcomeCall) :
    (closureService P).call x c = verifyClosure P c x := by
  unfold Service.call verifyClosure verifyOutcomeClosure
  simp only [closureService]
  cases deriveOutcome P c <;> rfl

/-- The call returned PASS or FAIL for one of the two reasons. -/
def ClosureReturned (passReason failReason : OutcomeClosureVerificationReason)
    (out : ClosureOutcome) : Prop :=
  ∃ r, out = .ok r ∧ (r.status = .pass ∨ r.status = .fail) ∧
    (r.reasonCodes.val = [passReason] ∨ r.reasonCodes.val = [failReason])

/-- The closure was appended by this call. -/
abbrev ReturnedAppended : ClosureOutcome → Prop := ClosureReturned .passVerified .failVerified

/-- The closure was found in the index. -/
abbrev ReturnedAlreadyPresent : ClosureOutcome → Prop :=
  ClosureReturned .passAlreadyPresent .failAlreadyPresent

section Closures

variable {P : Platform} {call : OutcomeCall} {b : BoundClosure} {verdict : OutcomeVerdict}

theorem not_appended_and_alreadyPresent {out : ClosureOutcome} (h : ReturnedAppended out) :
    ¬ ReturnedAlreadyPresent out := by
  obtain ⟨r, rfl, -, hr⟩ := h
  rintro ⟨r', hout, -, hr'⟩
  obtain rfl := Except.ok.inj hout
  rcases hr with hr | hr <;> rcases hr' with hr' | hr' <;> simp [hr] at hr'

theorem deriveOutcome_eq_ok (h : deriveOutcome P call = .ok (b, verdict)) :
    ClosureBound P call b ∧ (verdict = .pass ∨ verdict = .fail) := by
  obtain ⟨b', hreach, h⟩ := bind_eq_ok.1 h
  obtain ⟨v, hv, h⟩ := bind_eq_ok.1 h
  obtain ⟨rfl, rfl⟩ := Prod.mk.inj (Except.ok.inj h)
  refine ⟨reachReconciliation_eq_ok.1 hreach, ?_⟩
  rcases b'.reconcile_cases P call with ⟨-, heq⟩ | ⟨-, heq⟩ | ⟨-, heq⟩ | ⟨-, -, -, out, heq, -⟩
  · rw [heq] at hv
    exact .inl (Except.ok.inj hv).symm
  · rw [heq] at hv
    exact .inr (Except.ok.inj hv).symm
  · rw [heq] at hv
    cases hv
  · rw [heq] at hv
    cases hv

/-- A call that ends before the append records nothing. -/
theorem exits_deriveOutcome : Flow.Exits Unrecorded (deriveOutcome P call) := by
  refine exits_reachReconciliation.bind fun b _ => ?_
  refine Flow.Exits.bind (fun out hout => ?_) fun _ _ => Flow.exits_ok _
  rcases b.reconcile_cases P call with
    ⟨-, heq⟩ | ⟨-, heq⟩ | ⟨-, heq⟩ | ⟨-, -, -, out', heq, ⟨-, reason, -, rfl⟩ | ⟨-, reason, -, rfl⟩⟩
  · rw [heq] at hout
    cases hout
  · rw [heq] at hout
    cases hout
  · rw [heq] at hout
    obtain rfl := Except.error.inj hout
    exact unrecorded_result (.inr rfl)
  · rw [heq] at hout
    obtain rfl := Except.error.inj hout
    exact unrecorded_result (.inr rfl)
  · rw [heq] at hout
    obtain rfl := Except.error.inj hout
    exact unrecorded_result (.inl rfl)

/-- What the answer of the index makes of the verdict. -/
theorem conclude_returned (hderive : deriveOutcome P call = .ok (b, verdict)) :
    ReturnedAppended (b.conclude P call verdict .appended) ∧
      ReturnedAlreadyPresent (b.conclude P call verdict .alreadyPresent) := by
  obtain ⟨hbound, hverdict⟩ := deriveOutcome_eq_ok hderive
  obtain ⟨r, hr, hstatus⟩ := conclude_records hverdict (.inl rfl) hbound.observers
  obtain ⟨r', hr', hstatus'⟩ := conclude_records hverdict (.inr rfl) hbound.observers
  have hcodes := (outcomeResult_eq_ok hr).2.1
  have hcodes' := (outcomeResult_eq_ok hr').2.1
  rcases hverdict with rfl | rfl
  · exact ⟨⟨r, hr, .inl hstatus, .inl hcodes⟩, ⟨r', hr', .inl hstatus', .inl hcodes'⟩⟩
  · exact ⟨⟨r, hr, .inr hstatus, .inr hcodes⟩, ⟨r', hr', .inr hstatus', .inr hcodes'⟩⟩

/-- A call appends a closure, finds it present, or records nothing; only the first changes the
index. -/
theorem verifyClosure_cases (P : Platform) (call : OutcomeCall) (x : InMemoryOutcomeClosureIndex) :
    (∃ b verdict, deriveOutcome P call = .ok (b, verdict) ∧ x.Appendable (b.append P) ∧
        ReturnedAppended (verifyClosure P call x).1 ∧
        (verifyClosure P call x).2 = x.write (b.append P)) ∨
      (∃ b verdict, deriveOutcome P call = .ok (b, verdict) ∧ x.Present (b.append P) ∧
        ReturnedAlreadyPresent (verifyClosure P call x).1 ∧ (verifyClosure P call x).2 = x) ∨
      (Unrecorded (verifyClosure P call x).1 ∧ (verifyClosure P call x).2 = x) := by
  cases hderive : deriveOutcome P call with
  | error out =>
    have hv : verifyClosure P call x = (out, x) := by
      simp [verifyClosure, verifyOutcomeClosure, hderive]
    rw [hv]
    exact .inr (.inr ⟨exits_deriveOutcome out hderive, rfl⟩)
  | ok derived =>
    obtain ⟨b, verdict⟩ := derived
    have hv : verifyClosure P call x = (b.conclude P call verdict (x.appendOnce (b.append P)).1,
        (x.appendOnce (b.append P)).2) := by
      simp [verifyClosure, verifyOutcomeClosure, hderive, InMemoryOutcomeClosureIndex.protocol]
    obtain ⟨happended, hpresent⟩ := conclude_returned hderive
    rcases x.appendOnce_cases (b.append P) with ⟨ha, heq⟩ | ⟨hp, heq⟩ | ⟨-, hna, hnp, heq⟩
    · rw [hv, heq]
      exact .inl ⟨b, verdict, rfl, ha, happended, rfl⟩
    · rw [hv, heq]
      exact .inr (.inl ⟨b, verdict, rfl, hp, hpresent, rfl⟩)
    · rw [hv]
      refine .inr (.inr ⟨fun r hr => ?_, heq⟩)
      rcases conclude_eq_ok hr with ⟨hrecords, -⟩ | ⟨-, hrefused, -⟩
      · exact absurd hrecords (not_or.2 ⟨hna, hnp⟩)
      · simp [hrefused]

/-- Calls with the same payload append the same entry. -/
theorem closureAppend_eq_of_payload_eq {c c' : OutcomeCall} {b b' : BoundClosure}
    (h : ClosureBound P c b) (h' : ClosureBound P c' b') (hp : b.payload = b'.payload) :
    b.append P = b'.append P := by
  have hs := h.opened.statement_parsed
  rw [hp, h'.opened.statement_parsed] at hs
  have hs := Except.ok.inj hs
  simp only [BoundClosure.append, hp, hs]

/-- One of the settled calls appended an entry with the property. -/
def AppendedWith (P : Platform) (settled : Multiset (OutcomeCall × ClosureOutcome))
    (entry : ClosureAppend → Prop) : Prop :=
  ∃ c out b verdict, (c, out) ∈ settled ∧ ReturnedAppended out ∧
    deriveOutcome P c = .ok (b, verdict) ∧ entry (b.append P)

theorem AppendedWith.cons {settled : Multiset (OutcomeCall × ClosureOutcome)}
    {entry : ClosureAppend → Prop} (h : AppendedWith P settled entry)
    (s : OutcomeCall × ClosureOutcome) : AppendedWith P (s ::ₘ settled) entry := by
  obtain ⟨c, out, b, verdict, hmem, hrest⟩ := h
  exact ⟨c, out, b, verdict, Multiset.mem_cons_of_mem hmem, hrest⟩

/-- The maps of closures and intents hold what the settled calls appended. -/
structure ClosuresRecorded (P : Platform) (x : InMemoryOutcomeClosureIndex)
    (settled : Multiset (OutcomeCall × ClosureOutcome)) : Prop where
  recorded : ∀ c out b verdict, (c, out) ∈ settled → ReturnedAppended out →
    deriveOutcome P c = .ok (b, verdict) → (x.closures.get (b.append P).closureKey).isSome
  closures : ∀ key payload, x.closures.get key = some payload →
    AppendedWith P settled fun a => a.payloadSha256 = payload
  intents : ∀ key entry, x.idempotency.get key = some entry →
    AppendedWith P settled fun a => a.payloadSha256 = entry.2

theorem ClosuresRecorded.of_not_appended {x : InMemoryOutcomeClosureIndex}
    {settled : Multiset (OutcomeCall × ClosureOutcome)} {c : OutcomeCall} {out : ClosureOutcome}
    (h : ClosuresRecorded P x settled) (hout : ¬ ReturnedAppended out) :
    ClosuresRecorded P x ((c, out) ::ₘ settled) where
  recorded c' out' b verdict hmem hret hderive := by
    rcases Multiset.mem_cons.1 hmem with heq | hmem
    · obtain ⟨-, rfl⟩ := Prod.mk.inj heq
      exact absurd hret hout
    · exact h.recorded c' out' b verdict hmem hret hderive
  closures key payload hget := (h.closures key payload hget).cons _
  intents key entry hget := (h.intents key entry hget).cons _

theorem ClosuresRecorded.of_appended {x : InMemoryOutcomeClosureIndex}
    {settled : Multiset (OutcomeCall × ClosureOutcome)} {c : OutcomeCall} {out : ClosureOutcome}
    (h : ClosuresRecorded P x settled) (hderive : deriveOutcome P c = .ok (b, verdict))
    (ha : x.Appendable (b.append P)) (hout : ReturnedAppended out) :
    ClosuresRecorded P (x.write (b.append P)) ((c, out) ::ₘ settled) where
  recorded c' out' b' verdict' hmem hret hderive' := by
    rcases Multiset.mem_cons.1 hmem with heq | hmem
    · obtain ⟨rfl, -⟩ := Prod.mk.inj heq
      rw [hderive] at hderive'
      obtain ⟨rfl, -⟩ := Prod.mk.inj (Except.ok.inj hderive')
      simp [InMemoryOutcomeClosureIndex.write]
    · obtain ⟨payload, hget⟩ :=
        Option.isSome_iff_exists.1 (h.recorded c' out' b' verdict' hmem hret hderive')
      rw [ha.grows.closures _ _ hget]
      rfl
  closures key payload hget := by
    simp only [InMemoryOutcomeClosureIndex.write, Dict.get_set] at hget
    split_ifs at hget with hk
    · exact ⟨c, out, b, verdict, Multiset.mem_cons_self _ _, hout, hderive, Option.some.inj hget⟩
    · exact (h.closures key payload hget).cons _
  intents key entry hget := by
    simp only [InMemoryOutcomeClosureIndex.write, Dict.get_set] at hget
    split_ifs at hget with hk
    · obtain rfl := Option.some.inj hget
      exact ⟨c, out, b, verdict, Multiset.mem_cons_self _ _, hout, hderive, rfl⟩
    · exact (h.intents key entry hget).cons _

theorem ClosuresRecorded.settle {x : InMemoryOutcomeClosureIndex}
    {settled : Multiset (OutcomeCall × ClosureOutcome)} (c : OutcomeCall)
    (h : ClosuresRecorded P x settled) :
    ClosuresRecorded P (verifyClosure P c x).2 ((c, (verifyClosure P c x).1) ::ₘ settled) := by
  rcases verifyClosure_cases P c x with
    ⟨b, verdict, hderive, ha, hout, heq⟩ | ⟨b, verdict, -, -, hout, heq⟩ | ⟨hout, heq⟩
  · rw [heq]
    exact h.of_appended hderive ha hout
  · rw [heq]
    exact h.of_not_appended fun hret => not_appended_and_alreadyPresent hret hout
  · rw [heq]
    refine h.of_not_appended ?_
    rintro ⟨r, hr, hstatus, -⟩
    exact absurd hstatus (not_or.2 (hout r hr))

/-- The payload of every call is one of the payloads seen. -/
def ClosureSeen (P : Platform) (seen : Bytes → Prop) (call : OutcomeCall) : Prop :=
  ∀ envelope, parseJsonModel P Decode.dsseEnvelope call.envelopeBytes
    "OutcomeClosure DSSE envelope" = .ok envelope → seen envelope.payload.bytes

/-- A moment of a run of the verifier, as data. -/
abbrev ClosureConfig :=
  Config OutcomeCall ClosureAppend OutcomeIndexStatus ClosureOutcome InMemoryOutcomeClosureIndex

/-- A step of a run of the verifier. -/
abbrev ClosureStep (P : Platform) (seen : Bytes → Prop) :=
  Step (closureService P) (ClosureSeen P seen)

/-- A moment of a run of the verifier on a fresh index. -/
abbrev ClosureRun (P : Platform) (seen : Bytes → Prop) (capacity : Ranged 1 1000000) :=
  Reachable (closureService P) (ClosureSeen P seen) (.init capacity)

variable {seen : Bytes → Prop} {capacity : Ranged 1 1000000} {g g' : ClosureConfig}

/-- What the index holds was appended by calls that were admitted. -/
theorem ClosureRun.recorded (h : ClosureRun P seen capacity g) :
    ClosuresRecorded P g.shared g.settled ∧ ∀ c out, (c, out) ∈ g.settled →
      ClosureSeen P seen c := by
  refine Reachable.invariant (I := fun x settled => ClosuresRecorded P x settled ∧
    ∀ c out, (c, out) ∈ settled → ClosureSeen P seen c) ⟨?_, by simp⟩
    (fun x settled c hc hinv => ?_) h
  · exact ⟨by simp, by simp [InMemoryOutcomeClosureIndex.init],
      by simp [InMemoryOutcomeClosureIndex.init]⟩
  · rw [closureService_call]
    refine ⟨hinv.1.settle c, fun c' out' hmem => ?_⟩
    rcases Multiset.mem_cons.1 hmem with heq | hmem
    · obtain ⟨rfl, -⟩ := Prod.mk.inj heq
      exact hc
    · exact hinv.2 c' out' hmem

/-- A call that settled before appended the same payload, under the same closure id and number. -/
def PayloadAppended (P : Platform) (g : ClosureConfig) (b : BoundClosure) : Prop :=
  ∃ c out b' verdict, (c, out) ∈ g.settled ∧ ReturnedAppended out ∧
    deriveOutcome P c = .ok (b', verdict) ∧ b'.payload = b.payload ∧
    b'.statement.predicate.tenantId = b.statement.predicate.tenantId ∧
    b'.statement.predicate.closureId = b.statement.predicate.closureId ∧
    b'.statement.predicate.closureSequence = b.statement.predicate.closureSequence

theorem ClosureRun.payloadAppended (hfree : CollisionFree P seen)
    (h : ClosureRun P seen capacity g) {c : OutcomeCall} (hseen : ClosureSeen P seen c)
    (hderive : deriveOutcome P c = .ok (b, verdict))
    (hwith : AppendedWith P g.settled fun a => a.payloadSha256 = (b.append P).payloadSha256) :
    ∃ c' out' b' verdict', (c', out') ∈ g.settled ∧ ReturnedAppended out' ∧
      deriveOutcome P c' = .ok (b', verdict') ∧ b'.payload = b.payload ∧ ClosureBound P c' b' := by
  obtain ⟨c', out', b', verdict', hmem, hret, hderive', hpayload⟩ := hwith
  have hbound := (deriveOutcome_eq_ok hderive).1
  have hbound' := (deriveOutcome_eq_ok hderive').1
  refine ⟨c', out', b', verdict', hmem, hret, hderive',
    hfree _ _ ?_ ?_ (Subtype.ext hpayload), hbound'⟩
  · exact hbound'.opened.payload_eq ▸ h.recorded.2 c' out' hmem _ hbound'.opened.envelope_parsed
  · exact hbound.opened.payload_eq ▸ hseen _ hbound.opened.envelope_parsed

/-- A closure is reported as present only when it was appended before. -/
theorem ClosureRun.appended_of_alreadyPresent (hfree : CollisionFree P seen)
    (h : ClosureRun P seen capacity g) (hs : ClosureStep P seen g g') {c : OutcomeCall}
    {out : ClosureOutcome} (hsettled : g'.settled = (c, out) ::ₘ g.settled)
    (hout : ReturnedAlreadyPresent out) :
    ∃ b verdict, deriveOutcome P c = .ok (b, verdict) ∧ PayloadAppended P g b := by
  obtain ⟨hseen, hv⟩ : ClosureSeen P seen c ∧ (verifyClosure P c g.shared).1 = out := by
    rcases Reachable.step h hs with ⟨-, hsame⟩ | ⟨c', hc', -, hsettled'⟩
    · rw [hsame] at hsettled
      simpa using congrArg Multiset.card hsettled
    · rw [closureService_call] at hsettled'
      rw [hsettled', Multiset.cons_inj_left, Prod.mk.injEq] at hsettled
      obtain ⟨rfl, rfl⟩ := hsettled
      exact ⟨hc', rfl⟩
  have hrecorded := h.recorded.1
  rcases verifyClosure_cases P c g.shared with
    ⟨b, verdict, -, -, happended, -⟩ | ⟨b, verdict, hderive, hpresent, -, -⟩ | ⟨hunrecorded, -⟩
  · rw [hv] at happended
    exact absurd hout (not_appended_and_alreadyPresent happended)
  · have hbound := (deriveOutcome_eq_ok hderive).1
    refine ⟨b, verdict, hderive, ?_⟩
    rcases hpresent with ⟨hclosure, -⟩ | ⟨hfreeClosure, -, hintent⟩
    · obtain ⟨c', out', b', verdict', hmem, hret, hderive', hp, hbound'⟩ :=
        h.payloadAppended hfree hseen hderive (hrecorded.closures _ _ hclosure)
      have hstatement : b'.statement = b.statement := by
        have hs := hbound'.opened.statement_parsed
        rw [hp, hbound.opened.statement_parsed] at hs
        exact (Except.ok.inj hs).symm
      exact ⟨c', out', b', verdict', hmem, hret, hderive', hp, by rw [hstatement],
        by rw [hstatement], by rw [hstatement]⟩
    · -- the closure whose intent is recorded would be recorded under this id
      obtain ⟨c', out', b', verdict', hmem, hret, hderive', hp, hbound'⟩ :=
        h.payloadAppended hfree hseen hderive (hrecorded.intents _ _ hintent)
      have hsome := hrecorded.recorded c' out' b' verdict' hmem hret hderive'
      rw [closureAppend_eq_of_payload_eq hbound' hbound hp, hfreeClosure] at hsome
      cases hsome
  · obtain ⟨r, hr, hstatus, -⟩ := hout
    exact absurd hstatus (not_or.2 (hunrecorded r (hv.trans hr)))

/-- A closure that the index holds can be verified again, and is then reported as present. -/
theorem ClosureRun.exists_alreadyPresent {x : InMemoryOutcomeClosureIndex}
    {d : Multiset (OutcomeCall × ClosureOutcome)} (h : ClosureRun P seen capacity ⟨x, 0, 0, d⟩)
    (hseen : ClosureSeen P seen call) (hderive : deriveOutcome P call = .ok (b, verdict))
    (hpresent : (x.appendOnce (b.append P)).1 = .alreadyPresent) :
    ∃ g g' out, ClosureRun P seen capacity g ∧ ClosureStep P seen g g' ∧
      g'.settled = (call, out) ::ₘ g.settled ∧ ReturnedAlreadyPresent out := by
  have hplan : (closureService P).plan call = .ok (b.append P, b.conclude P call verdict) := by
    simp only [closureService, hderive]
  have hwaiting := (Relation.ReflTransGen.tail h (.enter _ hseen)).tail (.request hplan)
  refine ⟨_, _, _, hwaiting, .operate _ _ _, rfl, ?_⟩
  show ReturnedAlreadyPresent (b.conclude P call verdict (x.appendOnce (b.append P)).1)
  rw [hpresent]
  exact (conclude_returned hderive).2

/-- The index holds hash chains over every interleaving of appends, and reports a closure as present
in runs of the verifier only when that payload was appended before. -/
theorem outcomeIndex_chained (capacity : Ranged 1 1000000) :
    (∀ g, AppendRun capacity g → ClosuresChained capacity g) ∧
      ∀ (P : Platform) (seen : Bytes → Prop), CollisionFree P seen →
        ∀ (g g' : ClosureConfig) (c : OutcomeCall) (out : ClosureOutcome),
          ClosureRun P seen capacity g → ClosureStep P seen g g' →
          g'.settled = (c, out) ::ₘ g.settled → ReturnedAlreadyPresent out →
          ∃ b verdict, deriveOutcome P c = .ok (b, verdict) ∧ PayloadAppended P g b :=
  ⟨fun _ h => h.closuresChained,
    fun _ _ hfree _ _ _ _ h hs hsettled hout => h.appended_of_alreadyPresent hfree hs hsettled hout⟩

namespace Sample

theorem closureSeen_closureCall : ClosureSeen platform (· = closurePayload) closureCall := by
  intro envelope hparse
  have hsame := opened_closure.envelope_parsed
  rw [hparse] at hsame
  rw [Except.ok.inj hsame]
  exact opened_closure.payload_eq.symm

/-- On a fresh index the closure is appended, and then it is present. -/
theorem closure_recorded : ∃ b verdict, deriveOutcome platform closureCall = .ok (b, verdict) ∧
    (verifyClosure platform closureCall closureIndex).2 = closureIndex.write (b.append platform) ∧
    ((closureIndex.write (b.append platform)).appendOnce (b.append platform)).1 =
      .alreadyPresent := by
  rcases verifyClosure_cases platform closureCall closureIndex with
    ⟨b, verdict, hderive, ha, -, heq⟩ | ⟨b, verdict, -, hpresent, -, -⟩ | ⟨hunrecorded, -⟩
  · refine ⟨b, verdict, hderive, heq, ?_⟩
    have hpresent : (closureIndex.write (b.append platform)).Present (b.append platform) :=
      .inl ⟨Dict.get_set_self _ _ _, _, Dict.get_set_self _ _ _⟩
    rcases (closureIndex.write (b.append platform)).appendOnce_cases (b.append platform) with
      ⟨hfree, -⟩ | ⟨-, hanswer⟩ | ⟨habsent, -⟩
    · have hnone := hfree.closure_free
      rw [InMemoryOutcomeClosureIndex.write, Dict.get_set_self] at hnone
      cases hnone
    · rw [hanswer]
    · exact absurd hpresent habsent
  · rcases hpresent with ⟨hclosure, -⟩ | ⟨-, -, hintent⟩
    · cases hclosure
    · cases hintent
  · exact absurd (.inl rfl) (not_or.2 (hunrecorded _ verify_closureCall))

end Sample

/-- In a run that verifies the sample closure twice, it is appended first and then present. -/
theorem sample_alreadyPresent : ∃ g g' out,
    ClosureRun Sample.platform (· = Sample.closurePayload) Sample.capacity g ∧
    ClosureStep Sample.platform (· = Sample.closurePayload) g g' ∧
    g'.settled = (Sample.closureCall, out) ::ₘ g.settled ∧ ReturnedAlreadyPresent out ∧
    ∃ b verdict, deriveOutcome Sample.platform Sample.closureCall = .ok (b, verdict) ∧
      PayloadAppended Sample.platform g b := by
  have hfree : CollisionFree Sample.platform (· = Sample.closurePayload) :=
    fun b b' hb hb' _ => hb.trans hb'.symm
  have hstart : ClosureRun Sample.platform (· = Sample.closurePayload) Sample.capacity
      ⟨Sample.closureIndex, 0, 0, 0⟩ :=
    Relation.ReflTransGen.refl
  have honce := Reachable.settle hstart Sample.closureSeen_closureCall
  obtain ⟨b, verdict, hderive, hwrite, hanswer⟩ := Sample.closure_recorded
  rw [closureService_call, hwrite] at honce
  obtain ⟨g, g', out, hrun, hstep, hsettled, hout⟩ :=
    ClosureRun.exists_alreadyPresent honce Sample.closureSeen_closureCall hderive hanswer
  exact ⟨g, g', out, hrun, hstep, hsettled, hout,
    (outcomeIndex_chained Sample.capacity).2 _ _ hfree _ _ _ _ hrun hstep hsettled hout⟩

end Closures

end ProofFlow
