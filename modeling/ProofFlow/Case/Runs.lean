import ProofFlow.Case.Machine
import ProofFlow.Kit.History

/-!
# Runs of a case

Whatever is asked of a case, in whatever order and by whom, the steps it accepts form a path of the
transition graph.  The path to `PACKAGED` has no branches after its last entry into `INGESTING`,
so a packaged case has passed every guard on the way.
-/

namespace ProofFlow

open Kit

/-- An accepted step of a case. -/
abbrev CaseStep := Entry CaseRecord TransitionRequest TraceEvent

/-- A case as it is first recorded. -/
abbrev FreshCase := { c : CaseRecord // c.state = .received ∧ c.stateVersion = 0 }

/-- The step moved the case from one state to another, past the guard. -/
structure Moves (e : CaseStep) (source target : CaseState) : Prop where
  before : e.before.state = source
  requested : e.input.target = target
  after : e.after.state = target
  guard : validateGuard source target e.input.actorKind e.input.context = .ok ()

variable {P : Platform} {c₀ s : CaseRecord} {l : List CaseStep}

/-- A case that has left `RECEIVED` entered its state by the last step. -/
theorem exists_moves (h : History (transitionCase P) c₀ l s) (h₀ : c₀.state = .received)
    (hs : s.state ≠ .received) :
    ∃ earlier e, l = earlier ++ [e] ∧ History (transitionCase P) c₀ earlier e.before ∧
      s.state ∈ allowedTransitions e.before.state ∧ Moves e e.before.state s.state := by
  have hne : s ≠ c₀ := by
    rintro rfl
    exact hs h₀
  obtain ⟨earlier, e, hl, hearlier, rfl, hstep⟩ := h.last hne
  have ht := transition_of_ok hstep
  have hstate : e.after.state = e.input.target := by rw [ht.advanced]; rfl
  refine ⟨earlier, e, hl, hearlier, ?_, rfl, hstate.symm, rfl, ?_⟩
  · rw [hstate]
    exact ht.allowed
  · rw [hstate]
    exact ht.guard

/-- The states that are entered from one other state only. -/
def mainLine : List (CaseState × CaseState) :=
  [(.ingesting, .factsReady), (.factsReady, .rulesReady), (.rulesReady, .calcReady),
    (.calcReady, .proposalReady), (.proposalReady, .awaitingApproval),
    (.awaitingApproval, .approved), (.approved, .packaged)]

theorem eq_of_mem_mainLine {source target current : CaseState} (hline : (source, target) ∈ mainLine)
    (h : target ∈ allowedTransitions current) : current = source := by
  simp only [mainLine, List.mem_cons, Prod.mk.injEq, List.not_mem_nil, or_false] at hline
  rcases hline with ⟨rfl, rfl⟩ | ⟨rfl, rfl⟩ | ⟨rfl, rfl⟩ | ⟨rfl, rfl⟩ | ⟨rfl, rfl⟩ | ⟨rfl, rfl⟩ |
    ⟨rfl, rfl⟩ <;> cases current <;> simp [allowedTransitions] at h ⊢

/-- A state of the main line is entered from the state before it. -/
theorem exists_moves_from (h : History (transitionCase P) c₀ l s) (h₀ : c₀.state = .received)
    {source target : CaseState} (hs : s.state = target) (hline : (source, target) ∈ mainLine) :
    ∃ earlier e, l = earlier ++ [e] ∧ History (transitionCase P) c₀ earlier e.before ∧
      e.before.state = source ∧ Moves e source target := by
  have hne : s.state ≠ .received := by
    rintro heq
    rw [← hs, heq] at hline
    exact absurd hline (by simp [mainLine])
  obtain ⟨earlier, e, hl, hearlier, hallowed, hmoves⟩ := exists_moves h h₀ hne
  rw [hs] at hallowed hmoves
  have hsource := eq_of_mem_mainLine hline hallowed
  rw [hsource] at hmoves
  exact ⟨earlier, e, hl, hearlier, hsource, hmoves⟩

/-- The eight steps that end in `PACKAGED`, with what their guards established. -/
structure PackagedBy
    (ingesting facts rules calculation proposal awaiting approved packaged : CaseStep) :
    Prop where
  ingested : ingesting.after.state = .ingesting
  factsReady : Moves facts .ingesting .factsReady
  factsGuard : facts.input.context.evidenceComplete = true ∧
    facts.input.context.hasBlockingIssue = false
  rulesReady : Moves rules .factsReady .rulesReady
  rulesGuard : rules.input.context.rulesValid = true ∧ rules.input.context.hasBlockingIssue = false
  calcReady : Moves calculation .rulesReady .calcReady
  calcGuard : calculation.input.context.calculationComplete = true ∧
    calculation.input.context.hasBlockingIssue = false
  proposalReady : Moves proposal .calcReady .proposalReady
  proposalGuard : proposal.input.context.proposalComplete = true
  awaitingApproval : Moves awaiting .proposalReady .awaitingApproval
  auditGuard : awaiting.input.context.auditVerdict = some .pass ∧
    awaiting.input.context.hasBlockingIssue = false
  approval : Moves approved .awaitingApproval .approved
  approvalGuard : approved.input.actorKind = .human ∧ holdsRole approved.input.context = true ∧
    approved.input.context.approvalDecision = some .approve ∧
    approved.input.context.approvalValid = true
  packaging : Moves packaged .approved .packaged
  packageGuard : packaged.input.context.approvalValid = true ∧
    packaged.input.context.auditVerdict = some .pass ∧
    packaged.input.context.packageValid = true

/-! ## The guards on the way -/

section Guards

variable {actorKind : ActorKind} {context : TransitionContext}

theorem guard_factsReady {current : CaseState}
    (h : validateGuard current .factsReady actorKind context = .ok ()) :
    context.evidenceComplete = true ∧ context.hasBlockingIssue = false := by
  simpa [validateGuard, bind_eq_ok] using h

theorem guard_rulesReady {current : CaseState}
    (h : validateGuard current .rulesReady actorKind context = .ok ()) :
    context.rulesValid = true ∧ context.hasBlockingIssue = false := by
  simpa [validateGuard, bind_eq_ok] using h

theorem guard_calcReady {current : CaseState}
    (h : validateGuard current .calcReady actorKind context = .ok ()) :
    context.calculationComplete = true ∧ context.hasBlockingIssue = false := by
  simpa [validateGuard, bind_eq_ok] using h

theorem guard_proposalReady {current : CaseState}
    (h : validateGuard current .proposalReady actorKind context = .ok ()) :
    context.proposalComplete = true := by
  simpa [validateGuard] using h

theorem guard_awaitingApproval {current : CaseState}
    (h : validateGuard current .awaitingApproval actorKind context = .ok ()) :
    context.auditVerdict = some .pass ∧ context.hasBlockingIssue = false := by
  simpa [validateGuard, bind_eq_ok] using h

theorem guard_approved (h : validateGuard .awaitingApproval .approved actorKind context = .ok ()) :
    actorKind = .human ∧ holdsRole context = true ∧ context.approvalDecision = some .approve ∧
      context.approvalValid = true := by
  simpa [validateGuard, bind_eq_ok] using h

theorem guard_packaged (h : validateGuard .approved .packaged actorKind context = .ok ()) :
    context.approvalValid = true ∧ context.auditVerdict = some .pass ∧
      context.packageValid = true := by
  simpa [validateGuard, bind_eq_ok] using h

end Guards

/-- The steps to a packaged case. -/
theorem exists_packagedBy (h : History (transitionCase P) c₀ l s) (h₀ : c₀.state = .received)
    (hs : s.state = .packaged) :
    ∃ earlier i f r c p a v k, l = earlier ++ [i, f, r, c, p, a, v, k] ∧
      PackagedBy i f r c p a v k := by
  obtain ⟨l₇, k, rfl, h₇, hk, mk⟩ := exists_moves_from h h₀ hs
    (by simp [mainLine] : (CaseState.approved, _) ∈ mainLine)
  obtain ⟨l₆, v, rfl, h₆, hv, mv⟩ := exists_moves_from h₇ h₀ hk
    (by simp [mainLine] : (CaseState.awaitingApproval, _) ∈ mainLine)
  obtain ⟨l₅, a, rfl, h₅, ha, ma⟩ := exists_moves_from h₆ h₀ hv
    (by simp [mainLine] : (CaseState.proposalReady, _) ∈ mainLine)
  obtain ⟨l₄, p, rfl, h₄, hp, mp⟩ := exists_moves_from h₅ h₀ ha
    (by simp [mainLine] : (CaseState.calcReady, _) ∈ mainLine)
  obtain ⟨l₃, c, rfl, h₃, hc, mc⟩ := exists_moves_from h₄ h₀ hp
    (by simp [mainLine] : (CaseState.rulesReady, _) ∈ mainLine)
  obtain ⟨l₂, r, rfl, h₂, hr, mr⟩ := exists_moves_from h₃ h₀ hc
    (by simp [mainLine] : (CaseState.factsReady, _) ∈ mainLine)
  obtain ⟨l₁, f, rfl, h₁, hf, mf⟩ := exists_moves_from h₂ h₀ hr
    (by simp [mainLine] : (CaseState.ingesting, _) ∈ mainLine)
  -- `INGESTING` has three predecessors, so only the entry itself is known
  obtain ⟨l₀, i, rfl, -, -, mi⟩ := exists_moves h₁ h₀ (by simp [hf])
  refine ⟨l₀, i, f, r, c, p, a, v, k, by simp, ?_⟩
  exact {
    ingested := mi.after.trans hf
    factsReady := mf
    factsGuard := guard_factsReady mf.guard
    rulesReady := mr
    rulesGuard := guard_rulesReady mr.guard
    calcReady := mc
    calcGuard := guard_calcReady mc.guard
    proposalReady := mp
    proposalGuard := guard_proposalReady mp.guard
    awaitingApproval := ma
    auditGuard := guard_awaitingApproval ma.guard
    approval := mv
    approvalGuard := guard_approved mv.guard
    packaging := mk
    packageGuard := guard_packaged mk.guard }

/-! ## What holds of every run -/

/-- The event of a step hashes the case before and after it. -/
structure Hashed (P : Platform) (e : CaseStep) : Prop where
  input : ∃ d, sha256Digest P e.before.dump [] = .ok d ∧ e.output.inputHash = some d.stripped
  output : ∃ d, sha256Digest P e.after.dump [] = .ok d ∧ e.output.outputHash = some d.stripped

/-- What the accepted steps of a case from its first record say about where it is now. -/
structure CaseRunSound (P : Platform) (first last : CaseRecord) (steps : List CaseStep) : Prop where
  /-- No package without audit and human approval, after the last entry into `INGESTING`. -/
  packaged : last.state = .packaged → ∃ earlier i f r c p a v k,
    steps = earlier ++ [i, f, r, c, p, a, v, k] ∧ PackagedBy i f r c p a v k
  version : last.stateVersion = steps.length
  stale : ∀ r : TransitionRequest, r.expectedStateVersion ≠ last.stateVersion →
    ∃ message, transitionCase P last r = .error (.transitionRejected message)
  frame : last = { first with state := last.state, stateVersion := last.stateVersion }
  hashed : ∀ e ∈ steps, Hashed P e
  chained : steps.IsChain fun a b => a.output.outputHash = b.output.inputHash
  closed : last.state = .closed → ∀ r,
    ∃ message, transitionCase P last r = .error (.transitionRejected message)

theorem Transition.frame {case case' : CaseRecord} {r : TransitionRequest} {event : TraceEvent}
    (h : Transition P case r case' event) (state : CaseState) (version : ℕ) :
    { case' with state := state, stateVersion := version } =
      { case with state := state, stateVersion := version } := by
  rw [h.advanced]
  rfl

theorem hashed_of_history (h : History (transitionCase P) c₀ l s) : ∀ e ∈ l, Hashed P e := by
  intro e he
  have ht := transition_of_ok (h.accepted e he)
  exact ⟨ht.inputHash, ht.outputHash⟩

/-- Steps that start where the one before ended have matching hashes. -/
theorem Hashed.chain {a b : CaseStep} (ha : Hashed P a) (hb : Hashed P b)
    (hab : a.after = b.before) : a.output.outputHash = b.output.inputHash := by
  obtain ⟨d, hd, hout⟩ := ha.output
  obtain ⟨d', hd', hin⟩ := hb.input
  rw [hab, hd'] at hd
  rw [hout, hin, Except.ok.inj hd]

/-- Every history that starts at `RECEIVED` with version zero is sound. -/
theorem caseRunSound_of_history (h : History (transitionCase P) c₀ l s)
    (hstate : c₀.state = .received) (hversion : c₀.stateVersion = 0) :
    CaseRunSound P c₀ s l := by
  refine ⟨exists_packagedBy h hstate, ?_, fun r => transitionCase_stale, ?_, hashed_of_history h,
    ?_, ?_⟩
  · have hcount := h.counts CaseRecord.stateVersion fun s r s' o hs => by
      rw [(transition_of_ok hs).advanced]
      rfl
    rw [hcount, hversion, Nat.zero_add]
  · have hframe := h.preserved (fun c => { c with state := .received, stateVersion := 0 })
      fun s r s' o hs => (transition_of_ok hs).frame .received 0
    simp only [CaseRecord.mk.injEq] at hframe
    obtain ⟨h₁, h₂, -, -, h₃, h₄, h₅, h₆, h₇⟩ := hframe
    simp only [← h₁, ← h₂, ← h₃, ← h₄, ← h₅, ← h₆, ← h₇]
  · exact h.linked.imp_of_mem_imp fun a b ha hb hab =>
      (hashed_of_history h a ha).chain (hashed_of_history h b hb) hab
  · intro hclosed r
    exact transitionCase_terminal r (by rw [hclosed]; rfl)

/-- Every run of a fresh case is sound, whatever was requested of it. -/
theorem caseRun_sound (P : Platform) (case : FreshCase) (requests : List TransitionRequest) :
    CaseRunSound P case.val (run (transitionCase P) case.val requests).1
      (run (transitionCase P) case.val requests).2 :=
  caseRunSound_of_history (history_run (transitionCase P) case.val requests) case.property.1
    case.property.2

end ProofFlow
