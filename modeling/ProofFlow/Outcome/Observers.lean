import ProofFlow.Outcome.Handoff
import ProofFlow.Receipt.Accept

/-!
# The observers of a closure

The specification of `_qualifying_outcome_observers`: what it keeps is distinct and qualified, so
it never reports more than the sixteen observers a closure may declare; when it gives no reason to
refuse, nobody entitled to observe was passed over; and it raises exactly when the skew leads out of
the calendar at a root it has to examine.
-/

namespace ProofFlow

open Kit

section Observers

variable {P : Platform} {predicate : OutcomeClosurePredicate} {policy : TrustPolicy}
  {parties : Parties} {now : UtcTime} {roots : List TrustRoot} {r : TrustRoot}

/-- The second of the two questions is decided, so only the first can fail. -/
theorem currentAtBoth_eq_error {earlier : UtcTime} {skew : ℕ} {e : PyErr}
    (hnow : now.Representable skew) :
    currentAtBoth earlier now skew r = .error e ↔
      e = .overflowError ∧ SkewOverflows r earlier skew := by
  classical
  have hsecond : ∀ e, trustRootIsCurrent r now skew ≠ .error e := by
    intro e
    rw [trustRootIsCurrent_eq r hnow]
    simp
  rw [← trustRootIsCurrent_eq_error]
  unfold currentAtBoth
  cases h : trustRootIsCurrent r earlier skew with
  | error e' => simp [bind, Except.bind]
  | ok atEarlier =>
    rw [ok_bind]
    cases atEarlier with
    | false => simp [pure, Except.pure]
    | true => simpa using hsecond e

/-- The root may observe the closure: it is entitled to, declared, independent of the parties, and
current at both times. -/
structure QualifiedOutcomeObserver (P : Platform) (predicate : OutcomeClosurePredicate)
    (policy : TrustPolicy) (parties : Parties) (now : UtcTime) (r : TrustRoot) : Prop where
  observes : observesOutcomes predicate policy r
  declared : r.principalId.val ∈ predicate.producer.observerPrincipals.val
  independent : ¬ selfObserves P parties r
  current_at_issue : RootCurrent r predicate.issuedAt policy.skew
  current_now : RootCurrent r now policy.skew

/-- One round of the loop that goes on: the root is passed over, raises a flag, or is admitted. -/
theorem considerOutcomeObserver_cases {s s' : OutcomeSelection}
    (h : considerOutcomeObserver P predicate policy parties now s r = .ok s') :
    (¬ observesOutcomes predicate policy r ∧ s' = s) ∨
      (r.principalId.val ∈ predicate.producer.observerPrincipals.val ∧
        (s' = { s with selfObserved := true } ∨ s' = { s with stale := true } ∨
          (QualifiedOutcomeObserver P predicate policy parties now r ∧ s' = { s with
            qualified :=
              enroll (trustRootFingerprint P) (fun r => r.principalId) s.qualified r }))) := by
  unfold considerOutcomeObserver at h
  split_ifs at h with hobs hdecl hself
  · exact .inr ⟨hdecl, .inl (Except.ok.inj h).symm⟩
  · obtain ⟨current, hcur, h⟩ := bind_eq_ok.1 h
    obtain rfl := Except.ok.inj h
    cases current with
    | false => exact .inr ⟨hdecl, .inr (.inl rfl)⟩
    | true =>
      obtain ⟨hissue, hnow⟩ := rootCurrent_of_currentAtBoth (Flow.raising_eq_ok.1 hcur)
      exact .inr ⟨hdecl, .inr (.inr ⟨⟨hobs, hdecl, hself, hissue, hnow⟩, rfl⟩)⟩
  · exact .inl ⟨hobs, (Except.ok.inj h).symm⟩

/-- One round of the loop that leaves it: the root is not declared, or its window cannot be
compared with the time of issue. -/
theorem considerOutcomeObserver_exits (hnow : now.Representable policy.skew) {s : OutcomeSelection}
    {out : Outcome PyErr ObserverAnswer} :
    considerOutcomeObserver P predicate policy parties now s r = .error out ↔
      observesOutcomes predicate policy r ∧
        ((r.principalId.val ∉ predicate.producer.observerPrincipals.val ∧
            out = .ok ([], some .producerSignerMismatch)) ∨
          (r.principalId.val ∈ predicate.producer.observerPrincipals.val ∧
            ¬ selfObserves P parties r ∧ SkewOverflows r predicate.issuedAt policy.skew ∧
            out = .error .overflowError)) := by
  unfold considerOutcomeObserver
  split_ifs with hobs hdecl hself
  · simp [hdecl, hself]
  · simp only [bind_eq_error, Flow.raising_eq_error, currentAtBoth_eq_error hnow, pure,
      Except.pure, reduceCtorEq, and_false, exists_false, or_false, hobs, hdecl, hself,
      not_true_eq_false, not_false_eq_true, true_and, false_and, false_or]
    constructor
    · rintro ⟨e, ⟨rfl, hover⟩, rfl⟩
      exact ⟨hover, rfl⟩
    · rintro ⟨hover, rfl⟩
      exact ⟨_, ⟨rfl, hover⟩, rfl⟩
  · simp [hobs, hdecl, eq_comm]
  · simp [hobs]

/-- Leaving the loop early is never an answer without a reason. -/
theorem considerOutcomeObserver_answer {s : OutcomeSelection} {answer : ObserverAnswer}
    (h : considerOutcomeObserver P predicate policy parties now s r = .error (.ok answer)) :
    answer = ([], some .producerSignerMismatch) := by
  unfold considerOutcomeObserver at h
  split_ifs at h with hobs hdecl hself
  · simp [bind_eq_error, pure, Except.pure] at h
  · exact (Except.ok.inj (Except.error.inj h)).symm

/-- What the loop keeps is distinct and qualified. -/
structure OutcomeObserversKept (P : Platform) (predicate : OutcomeClosurePredicate)
    (policy : TrustPolicy) (parties : Parties) (now : UtcTime) (roots kept : List TrustRoot) :
    Prop where
  distinct : Distinct (trustRootFingerprint P) (fun r => r.principalId) kept
  sound : ∀ r ∈ kept, r ∈ roots ∧ QualifiedOutcomeObserver P predicate policy parties now r

/-- The state before the loop. -/
def OutcomeSelection.init : OutcomeSelection where
  qualified := []
  stale := false
  selfObserved := false

theorem outcomeObserversKept_of_loop {s : OutcomeSelection}
    (h : roots.foldlM (considerOutcomeObserver P predicate policy parties now) .init = .ok s) :
    OutcomeObserversKept P predicate policy parties now roots s.qualified := by
  refine foldlM_invariant (fun s : OutcomeSelection =>
    OutcomeObserversKept P predicate policy parties now roots s.qualified)
    ⟨Distinct.nil, by simp [OutcomeSelection.init]⟩ ?_ h
  intro r hr s s' hkept hstep
  rcases considerOutcomeObserver_cases hstep with ⟨-, rfl⟩ | ⟨-, rfl | rfl | ⟨hq, rfl⟩⟩
  · exact hkept
  · exact hkept
  · exact hkept
  · refine ⟨hkept.distinct.enroll r, fun r' hr' => ?_⟩
    rcases mem_of_mem_enroll hr' with hr' | rfl
    · exact hkept.sound r' hr'
    · exact ⟨hr, hq⟩

/-- Unless a flag is raised, every root that is entitled to observe is qualified. -/
theorem qualified_of_loop {s : OutcomeSelection}
    (h : roots.foldlM (considerOutcomeObserver P predicate policy parties now) .init = .ok s)
    (hself : s.selfObserved = false) (hstale : s.stale = false) (hr : r ∈ roots)
    (hobs : observesOutcomes predicate policy r) :
    QualifiedOutcomeObserver P predicate policy parties now r := by
  by_contra hnot
  have hflag : s.selfObserved = true ∨ s.stale = true := by
    refine foldlM_establishes (fun s : OutcomeSelection => s.selfObserved = true ∨ s.stale = true)
      hr ?_ ?_ h
    · intro s s' hstep
      rcases considerOutcomeObserver_cases hstep with ⟨hno, -⟩ | ⟨-, rfl | rfl | ⟨hq, -⟩⟩
      · exact absurd hobs hno
      · exact .inl rfl
      · exact .inr rfl
      · exact absurd hq hnot
    · rintro b - s s' hs hstep
      rcases considerOutcomeObserver_cases hstep with ⟨-, rfl⟩ | ⟨-, rfl | rfl | ⟨-, rfl⟩⟩
      · exact hs
      · exact .inl rfl
      · exact .inr rfl
      · exact hs
  rcases hflag with hflag | hflag <;> simp_all

/-- Whatever the answer, it reports the ids of kept roots. -/
theorem exists_kept_of_answer {answer : ObserverAnswer}
    (h : qualifyingOutcomeObservers P roots predicate policy parties now = .ok answer) :
    ∃ kept, OutcomeObserversKept P predicate policy parties now roots kept ∧
      answer.1 = sortedStr (kept.map fun r => r.rootId.val) := by
  have hnil : ∃ kept, OutcomeObserversKept P predicate policy parties now roots kept ∧
      [] = sortedStr (kept.map fun r => r.rootId.val) :=
    ⟨[], ⟨Distinct.nil, by simp⟩, rfl⟩
  simp only [qualifyingOutcomeObservers, Flow.finish_eq_ok, bind_eq_error, bind_eq_ok,
    Flow.returnIf_eq_error, Flow.returnIf_eq_ok] at h
  rcases h with (h | ⟨s, hs, h⟩) | ⟨s, hs, h⟩
  · obtain ⟨done, r, rest, s', -, -, h⟩ := foldlM_eq_error h
    obtain rfl := considerOutcomeObserver_answer h
    exact hnil
  · have hkept := outcomeObserversKept_of_loop hs
    rcases h with ⟨-, h⟩ | ⟨-, -, ⟨-, h⟩ | ⟨-, -, ⟨-, h⟩ | ⟨-, -, ⟨-, h⟩ | ⟨-, -, h⟩⟩⟩⟩
    · obtain rfl := Except.ok.inj h
      exact hnil
    · obtain rfl := Except.ok.inj h
      exact ⟨_, hkept, rfl⟩
    · obtain rfl := Except.ok.inj h
      exact ⟨_, hkept, rfl⟩
    · obtain rfl := Except.ok.inj h
      exact ⟨_, hkept, rfl⟩
    · cases h
  · obtain ⟨-, -, -, -, -, -, -, -, h⟩ := h
    obtain rfl := Except.ok.inj (Except.ok.inj h)
    exact ⟨_, outcomeObserversKept_of_loop hs, rfl⟩

/-- An answer reports distinct root ids, at most as many as a closure declares observers. -/
theorem answer_bounds {answer : ObserverAnswer}
    (hroots : ∀ r ∈ roots, r ∈ policy.roots.val)
    (h : qualifyingOutcomeObservers P roots predicate policy parties now = .ok answer) :
    answer.1.length ≤ 16 ∧ answer.1.Nodup := by
  obtain ⟨kept, hkept, hids⟩ := exists_kept_of_answer h
  have hlen := length_le_principals hkept.distinct fun r hr => (hkept.sound r hr).2.declared
  have hnodup := policy.nodup_ids_of_distinct (fun r hr => hroots r (hkept.sound r hr).1)
    hkept.distinct
  rw [hids, length_sortedStr, List.length_map, (sortedStr_perm _).nodup_iff]
  exact ⟨hlen.trans predicate.producer.observerPrincipals.property.2, hnodup⟩

/-- A loop that has gone over an entitled root found it declared, and could compare its window. -/
theorem declared_of_loop {s s' : OutcomeSelection} (hnow : now.Representable policy.skew)
    (h : roots.foldlM (considerOutcomeObserver P predicate policy parties now) s = .ok s')
    (hr : r ∈ roots) (hobs : observesOutcomes predicate policy r) :
    r.principalId.val ∈ predicate.producer.observerPrincipals.val ∧
      (¬ selfObserves P parties r → ¬ SkewOverflows r predicate.issuedAt policy.skew) := by
  refine foldlM_establishes
    (fun _ => r.principalId.val ∈ predicate.producer.observerPrincipals.val ∧
    (¬ selfObserves P parties r → ¬ SkewOverflows r predicate.issuedAt policy.skew))
    hr (fun s s' hstep => ?_) (fun _ _ _ _ hdecl _ => hdecl) h
  by_contra hnot
  have hexit : ∃ out, considerOutcomeObserver P predicate policy parties now s r = .error out := by
    by_cases hdecl : r.principalId.val ∈ predicate.producer.observerPrincipals.val
    · obtain ⟨hself, hover⟩ : ¬ selfObserves P parties r ∧
          SkewOverflows r predicate.issuedAt policy.skew := by simpa [hdecl] using hnot
      exact ⟨_, (considerOutcomeObserver_exits hnow).2 ⟨hobs, .inr ⟨hdecl, hself, hover, rfl⟩⟩⟩
    · exact ⟨_, (considerOutcomeObserver_exits hnow).2 ⟨hobs, .inl ⟨hdecl, rfl⟩⟩⟩
  obtain ⟨out, hout⟩ := hexit
  rw [hstep] at hout
  cases hout

/-- The observers that an answer without a reason rests on. -/
structure OutcomeObserversAccepted (P : Platform) (predicate : OutcomeClosurePredicate)
    (policy : TrustPolicy) (parties : Parties) (now : UtcTime) (roots : List TrustRoot)
    (ids : List Str) (kept : List TrustRoot) : Prop extends
    OutcomeObserversKept P predicate policy parties now roots kept where
  ids_eq : ids = sortedStr (kept.map fun r => r.rootId.val)
  threshold_le : policy.outcomeObserverThreshold.val ≤ kept.length
  declared : sameSet (kept.map fun r => r.principalId.val) predicate.producer.observerPrincipals.val
  complete : ∀ r ∈ roots, observesOutcomes predicate policy r →
    QualifiedOutcomeObserver P predicate policy parties now r

/-- An answer without a reason is one of the loop that raised no flag. -/
theorem selection_of_answer {ids : List Str}
    (h : qualifyingOutcomeObservers P roots predicate policy parties now = .ok (ids, none)) :
    ∃ s, roots.foldlM (considerOutcomeObserver P predicate policy parties now) .init = .ok s ∧
      s.selfObserved = false ∧ s.stale = false ∧
      sameSet (s.qualified.map fun r => r.principalId.val)
        predicate.producer.observerPrincipals.val ∧
      policy.outcomeObserverThreshold.val ≤ s.qualified.length ∧ s.rootIds = ids := by
  have hend := Flow.eq_ok_of_finish h (by
    refine Flow.Exits.bind (fun out hout => ?_) fun s _ => ?_
    · rintro rfl
      obtain ⟨done, r, rest, s', -, -, h⟩ := foldlM_eq_error hout
      cases considerOutcomeObserver_answer h
    · refine (Flow.exits_returnIf fun _ => by simp).bind fun _ _ => ?_
      refine (Flow.exits_returnIf fun _ => by simp).bind fun _ _ => ?_
      refine (Flow.exits_returnIf fun _ => by simp).bind fun _ _ => ?_
      exact (Flow.exits_returnIf fun _ => by simp).bind fun _ _ => Flow.exits_ok _)
  simp only [bind_eq_ok, Flow.returnIf_eq_ok, not_not, not_lt, Bool.not_eq_true] at hend
  obtain ⟨s, hs, _, hself, _, hstale, _, hdecl, _, hlen, hend⟩ := hend
  simp only [pure, Except.pure, Except.ok.injEq, Prod.mk.injEq, and_true] at hend
  exact ⟨s, hs, hself, hstale, hdecl, hlen, hend⟩

theorem outcomeObserversAccepted_of_answer {ids : List Str}
    (h : qualifyingOutcomeObservers P roots predicate policy parties now = .ok (ids, none)) :
    ∃ kept, OutcomeObserversAccepted P predicate policy parties now roots ids kept := by
  obtain ⟨s, hs, hself, hstale, hdecl, hlen, hids⟩ := selection_of_answer h
  exact ⟨s.qualified, {
    toOutcomeObserversKept := outcomeObserversKept_of_loop hs
    ids_eq := hids.symm
    threshold_le := hlen
    declared := hdecl
    complete := fun r hr hobs => qualified_of_loop hs hself hstale hr hobs }⟩

/-- Some root makes the loop raise: it has to be compared with the time of issue, nobody before it
ends the loop, and the skew leads out of the calendar there. -/
def ObserverOverflows (P : Platform) (predicate : OutcomeClosurePredicate) (policy : TrustPolicy)
    (parties : Parties) (roots : List TrustRoot) : Prop :=
  ∃ before r after, roots = before ++ r :: after ∧
    (∀ b ∈ before, observesOutcomes predicate policy b →
      b.principalId.val ∈ predicate.producer.observerPrincipals.val) ∧
    observesOutcomes predicate policy r ∧
    r.principalId.val ∈ predicate.producer.observerPrincipals.val ∧ ¬ selfObserves P parties r ∧
    SkewOverflows r predicate.issuedAt policy.skew

/-- Only the loop can raise. -/
theorem qualifyingOutcomeObservers_eq_error {e : PyErr} :
    qualifyingOutcomeObservers P roots predicate policy parties now = .error e ↔
      roots.foldlM (considerOutcomeObserver P predicate policy parties now) .init =
        .error (.error e) := by
  simp [qualifyingOutcomeObservers, Flow.finish_eq_error, bind_eq_error, bind_eq_ok, pure,
    Except.pure, Flow.Raises, OutcomeSelection.init]

/-- The selection raises exactly when a root overflows, whatever the time of verification. -/
theorem observerOverflows_iff {e : PyErr} (hnow : now.Representable policy.skew) :
    qualifyingOutcomeObservers P roots predicate policy parties now = .error e ↔
      e = .overflowError ∧ ObserverOverflows P predicate policy parties roots := by
  rw [qualifyingOutcomeObservers_eq_error]
  constructor
  · intro h
    obtain ⟨before, r, after, s, rfl, hbefore, h⟩ := foldlM_eq_error h
    obtain ⟨hobs, ⟨-, h⟩ | ⟨hdecl, hself, hover, h⟩⟩ := (considerOutcomeObserver_exits hnow).1 h
    · cases h
    · exact ⟨Except.error.inj h, before, r, after, rfl,
        fun b hb hobs => (declared_of_loop hnow hbefore hb hobs).1, hobs, hdecl, hself, hover⟩
  · rintro ⟨rfl, before, r, after, rfl, hbefore, hobs, hdecl, hself, hover⟩
    cases hloop : (before ++ r :: after).foldlM
        (considerOutcomeObserver P predicate policy parties now) .init with
    | ok s => exact absurd hover ((declared_of_loop hnow hloop (by simp) hobs).2 hself)
    | error out =>
      obtain ⟨done, r', rest, s, heq, hdone, hout⟩ := foldlM_eq_error hloop
      obtain ⟨hobs', ⟨hndecl, -⟩ | ⟨-, -, -, rfl⟩⟩ := (considerOutcomeObserver_exits hnow).1 hout
      · -- a root that is not declared stands neither before the root nor after it
        exfalso
        rcases List.append_eq_append_iff.1 heq with ⟨mid, rfl, htail⟩ | ⟨mid, rfl, htail⟩
        · rcases List.cons_eq_append_iff.1 htail with ⟨-, htail⟩ | ⟨mid', rfl, -⟩
          · exact hndecl ((List.cons.inj htail).1 ▸ hdecl)
          · exact (declared_of_loop hnow hdone (by simp) hobs).2 hself hover
        · rcases List.cons_eq_append_iff.1 htail with ⟨-, htail⟩ | ⟨mid', rfl, -⟩
          · exact hndecl ((List.cons.inj htail).1 ▸ hdecl)
          · exact hndecl (hbefore r' (by simp) hobs')
      · rfl

/-- After an answer without a reason, no later selection among the same roots raises. -/
theorem not_observerOverflows_of_answer {ids : List Str} (hnow : now.Representable policy.skew)
    (h : qualifyingOutcomeObservers P roots predicate policy parties now = .ok (ids, none))
    (parties' : Parties) : ¬ ObserverOverflows P predicate policy parties' roots := by
  obtain ⟨s, hs, hself, hstale, -⟩ := selection_of_answer h
  rintro ⟨before, r, after, rfl, -, hobs, -, -, hover⟩
  have hq := qualified_of_loop hs hself hstale (r := r) (by simp) hobs
  exact (declared_of_loop hnow hs (by simp) hobs).2 hq.independent hover

end Observers

end ProofFlow
