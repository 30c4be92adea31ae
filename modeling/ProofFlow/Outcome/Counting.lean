import ProofFlow.Certificate.Runs
import ProofFlow.Kit.Matching
import ProofFlow.Outcome.Observers

/-!
# Counting roots against a threshold

The three selectors go over the verified roots in the order of their ids and keep a root unless its
key or its principal was already counted.  A threshold is about the roots, not about their names: of
`k` eligible roots with distinct keys and distinct principals at least `k` should count.  The scan
meets this for every naming unless one counted root can stand in the way of two.
-/

namespace ProofFlow

open Kit

/-! ## The selectors -/

/-- A selector with its arguments but the roots: `_qualifying_roots`, `_qualifying_observer_roots`
and `_qualifying_outcome_observers`. -/
inductive RootSelector where
  | authority (purpose : TrustPurpose) (predicate : ActionCertificatePredicate)
      (policy : TrustPolicy) (now : UtcTime) (approvers : Option (List Str))
  | receipt (predicate : ExecutionReceiptPredicate) (policy : TrustPolicy) (parties : Parties)
      (now : UtcTime)
  | closure (predicate : OutcomeClosurePredicate) (policy : TrustPolicy) (parties : Parties)
      (now : UtcTime)

namespace RootSelector

/-- How many roots the selector counts. -/
def count (P : Platform) : RootSelector → List TrustRoot → Except PyErr ℕ
  | .authority purpose predicate policy now approvers, roots => do
    let kept ← qualifyingRoots P roots purpose predicate policy now approvers
    return kept.length
  | .receipt predicate policy parties now, roots => do
    let s ← qualifyingObserverRoots P roots predicate policy parties now
    return s.distinct.length
  | .closure predicate policy parties now, roots => do
    let answer ← qualifyingOutcomeObservers P roots predicate policy parties now
    return answer.1.length

/-- The root has the purpose and the scopes the selector looks for. -/
def Entitled : RootSelector → TrustRoot → Prop
  | .authority purpose predicate policy now approvers, r =>
    rootQualifies purpose predicate policy now approvers r = .ok true
  | .receipt predicate policy _ _, r => observesReceipts predicate policy r
  | .closure predicate policy _ _, r => observesOutcomes predicate policy r

/-- The root is declared by the producer, none of the parties, and current at both times. -/
def Impeccable (P : Platform) : RootSelector → TrustRoot → Prop
  | .authority .., _ => True
  | .receipt predicate policy parties now, r =>
    r.principalId.val ∈ predicate.producer.observerPrincipals.val ∧ ¬ selfObserves P parties r ∧
      currentAtBoth predicate.issuedAt now policy.skew r = .ok true
  | .closure predicate policy parties now, r =>
    r.principalId.val ∈ predicate.producer.observerPrincipals.val ∧ ¬ selfObserves P parties r ∧
      currentAtBoth predicate.issuedAt now policy.skew r = .ok true

/-- The root counts towards the threshold. -/
def Eligible (P : Platform) (s : RootSelector) (r : TrustRoot) : Prop :=
  s.Entitled r ∧ s.Impeccable P r

/-- No entitled root is undeclared, stale or self-observing; the authorities of a certificate are
selected at a time that its validity was checked at. -/
def Undisturbed (P : Platform) (s : RootSelector) (roots : List TrustRoot) : Prop :=
  (∀ r ∈ roots, s.Entitled r → s.Impeccable P r) ∧
    match s with
    | .authority _ _ policy now _ => now.Representable policy.skew
    | _ => True

/-- There are `k` eligible roots, pairwise distinct in public key and in principal. -/
def Holds (P : Platform) (s : RootSelector) (roots : List TrustRoot) (k : ℕ) : Prop :=
  ∃ found : List TrustRoot, found.length = k ∧ (∀ r ∈ found, r ∈ roots ∧ s.Eligible P r) ∧
    Distinct (fun r => r.publicKey.bytes) (fun r => r.principalId) found

/-- Whatever the order in which the names put the roots, the selector counts as many as there are,
and so it counts the same. -/
structure IgnoresNames (P : Platform) (s : RootSelector) (roots : List TrustRoot) : Prop where
  counts : ∀ named, named.Perm roots → ∀ k, s.Holds P roots k → ∃ n, s.count P named = .ok n ∧ k ≤ n
  agrees : ∀ named named', named.Perm roots → named'.Perm roots → s.count P named = s.count P named'

open scoped Classical in
/-- The roots that count towards the threshold. -/
noncomputable def eligible (P : Platform) (s : RootSelector) (roots : List TrustRoot) :
    List TrustRoot :=
  roots.filter fun r => decide (s.Eligible P r)

/-- One root can stand in the way of two: among the choices of eligible roots with distinct keys and
principals that no eligible root can be added to, there is one with a member that could be exchanged
for two eligible roots, one with its key and one with its principal. -/
def Obstructed (P : Platform) (s : RootSelector) (roots : List TrustRoot) : Prop :=
  Improvable (fun r => r.publicKey.bytes) (fun r : TrustRoot => r.principalId) (s.eligible P roots)

section Counting

variable {P : Platform} {s : RootSelector} {roots named : List TrustRoot}

theorem mem_eligible {r : TrustRoot} : r ∈ s.eligible P roots ↔ r ∈ roots ∧ s.Eligible P r := by
  simp [eligible]

theorem Undisturbed.perm (h : s.Undisturbed P roots) (hp : named.Perm roots) :
    s.Undisturbed P named :=
  ⟨fun r hr => h.1 r (hp.subset hr), h.2⟩

theorem holds_iff {k : ℕ} : s.Holds P roots k ↔ ∃ found, found.length = k ∧
    Selection (fun r => r.publicKey.bytes) (fun r : TrustRoot => r.principalId)
      (s.eligible P roots) found := by
  refine exists_congr fun found => and_congr_right fun _ => ?_
  constructor
  · rintro ⟨hmem, hdistinct⟩
    exact ⟨fun r hr => mem_eligible.2 (hmem r hr), hdistinct⟩
  · rintro ⟨hsub, hdistinct⟩
    exact ⟨fun r hr => mem_eligible.1 (hsub hr), hdistinct⟩

/-- Undisturbed, an entitled root is an eligible one. -/
theorem Undisturbed.eligible_iff (h : s.Undisturbed P roots) {r : TrustRoot} (hr : r ∈ roots) :
    s.Eligible P r ↔ s.Entitled r :=
  ⟨And.left, fun hentitled => ⟨hentitled, h.1 r hr hentitled⟩⟩

theorem count_authority {purpose : TrustPurpose} {predicate : ActionCertificatePredicate}
    {policy : TrustPolicy} {now : UtcTime} {approvers : Option (List Str)}
    (h : (authority purpose predicate policy now approvers).Undisturbed P roots) :
    (authority purpose predicate policy now approvers).count P roots =
      .ok (greedy (trustRootFingerprint P) (fun r : TrustRoot => r.principalId)
        ((authority purpose predicate policy now approvers).eligible P roots)).length := by
  classical
  have hnow : now.Representable policy.skew := h.2
  have hloop : roots.foldlM (considerRoot P purpose predicate policy now approvers) [] =
      .ok (greedy (trustRootFingerprint P) (fun r : TrustRoot => r.principalId)
        ((authority purpose predicate policy now approvers).eligible P roots)) := by
    refine foldlM_enroll id ?_ []
    intro kept r hr
    have hqualifies : ∃ b, rootQualifies purpose predicate policy now approvers r = .ok b := by
      unfold rootQualifies
      split_ifs
      · exact ⟨_, rfl⟩
      · rw [trustRootIsCurrent_eq r hnow, ok_bind]
        exact ⟨_, rfl⟩
    obtain ⟨b, hb⟩ := hqualifies
    have heligible := h.eligible_iff hr
    have hentitled : (authority purpose predicate policy now approvers).Entitled r ↔ b = true := by
      show rootQualifies purpose predicate policy now approvers r = .ok true ↔ b = true
      rw [hb, Except.ok.injEq]
    unfold considerRoot
    rw [hb, ok_bind]
    simp only [id, heligible, hentitled]
    cases b <;> simp [pure, Except.pure]
  show (qualifyingRoots P roots purpose predicate policy now approvers >>= _) = _
  unfold qualifyingRoots
  rw [hloop, ok_bind]
  simp [pure, Except.pure, ok_bind]

theorem count_receipt {predicate : ExecutionReceiptPredicate} {policy : TrustPolicy}
    {parties : Parties} {now : UtcTime}
    (h : (receipt predicate policy parties now).Undisturbed P roots) :
    (receipt predicate policy parties now).count P roots =
      .ok (greedy (trustRootFingerprint P) (fun r : TrustRoot => r.principalId)
        ((receipt predicate policy parties now).eligible P roots)).length := by
  classical
  have hloop : roots.foldlM (considerObserver P predicate policy parties now)
      { distinct := [], staleOrRevoked := false, selfObservation := false,
        producerMismatch := false } =
      .ok { distinct := greedy (trustRootFingerprint P) (fun r : TrustRoot => r.principalId)
              ((receipt predicate policy parties now).eligible P roots)
            staleOrRevoked := false, selfObservation := false, producerMismatch := false } := by
    refine foldlM_enroll (fun kept : List TrustRoot => ObserverSelection.mk kept false false false)
      ?_ []
    intro kept r hr
    have heligible : (receipt predicate policy parties now).Eligible P r ↔
        observesReceipts predicate policy r := h.eligible_iff hr
    simp only [heligible]
    unfold considerObserver
    by_cases hobs : observesReceipts predicate policy r
    · obtain ⟨hdeclared, hself, hcurrent⟩ := h.1 r hr hobs
      simp [hobs, hdeclared, hself, hcurrent, ok_bind, pure, Except.pure]
    · simp [hobs]
  show (qualifyingObserverRoots P roots predicate policy parties now >>= _) = _
  unfold qualifyingObserverRoots
  rw [hloop, ok_bind]
  simp [pure, Except.pure, ok_bind]

theorem count_closure {predicate : OutcomeClosurePredicate} {policy : TrustPolicy}
    {parties : Parties} {now : UtcTime}
    (h : (closure predicate policy parties now).Undisturbed P roots) :
    (closure predicate policy parties now).count P roots =
      .ok (greedy (trustRootFingerprint P) (fun r : TrustRoot => r.principalId)
        ((closure predicate policy parties now).eligible P roots)).length := by
  classical
  have hloop : roots.foldlM (considerOutcomeObserver P predicate policy parties now)
      { qualified := [], stale := false, selfObserved := false } =
      .ok { qualified := greedy (trustRootFingerprint P) (fun r : TrustRoot => r.principalId)
              ((closure predicate policy parties now).eligible P roots)
            stale := false, selfObserved := false } := by
    refine foldlM_enroll (fun kept : List TrustRoot => OutcomeSelection.mk kept false false) ?_ []
    intro kept r hr
    have heligible : (closure predicate policy parties now).Eligible P r ↔
        observesOutcomes predicate policy r := h.eligible_iff hr
    unfold considerOutcomeObserver
    by_cases hobs : observesOutcomes predicate policy r
    · obtain ⟨hdeclared, hself, hcurrent⟩ := h.1 r hr hobs
      have hchosen : decide ((closure predicate policy parties now).Eligible P r) = true :=
        decide_eq_true (heligible.2 hobs)
      rw [if_neg (not_not.2 hobs), if_neg (not_not.2 hdeclared), if_neg hself, hcurrent, hchosen]
      rfl
    · have hskipped : decide ((closure predicate policy parties now).Eligible P r) = false :=
        decide_eq_false fun h => hobs (heligible.1 h)
      rw [if_pos hobs, hskipped]
      rfl
  show (qualifyingOutcomeObservers P roots predicate policy parties now >>= _) = _
  unfold qualifyingOutcomeObservers
  rw [hloop, ok_bind]
  -- whatever the answer says of the declared principals and the threshold, it lists the same ids
  simp only [Flow.returnIf, Bool.false_eq_true, if_false, ok_bind, OutcomeSelection.rootIds]
  split_ifs <;> simp [Flow.finish, pure, Except.pure, bind, Except.bind]

/-- Undisturbed, a selector counts what the greedy scan of the eligible roots keeps. -/
theorem count_eq (h : s.Undisturbed P roots) : s.count P roots =
    .ok (greedy (trustRootFingerprint P) (fun r : TrustRoot => r.principalId)
      (s.eligible P roots)).length := by
  cases s with
  | authority purpose predicate policy now approvers => exact count_authority h
  | receipt predicate policy parties now => exact count_receipt h
  | closure predicate policy parties now => exact count_closure h

/-- The public keys of the roots have different fingerprints. -/
def KeysCollisionFree (P : Platform) (roots : List TrustRoot) : Prop :=
  CollisionFree P fun b => ∃ r ∈ roots, b = r.publicKey.bytes

/-- Without a collision the scan may as well compare the public keys. -/
theorem greedy_fingerprint (hfree : KeysCollisionFree P roots) :
    greedy (trustRootFingerprint P) (fun r : TrustRoot => r.principalId) (s.eligible P roots) =
      greedy (fun r => r.publicKey.bytes) (fun r : TrustRoot => r.principalId)
        (s.eligible P roots) := by
  apply greedy_congr_key
  intro a ha b hb
  constructor
  · exact hfree _ _ ⟨a, (mem_eligible.1 ha).1, rfl⟩ ⟨b, (mem_eligible.1 hb).1, rfl⟩
  · exact fun h => congrArg (sha256Bytes P) h

/-- Every order of the eligible roots is that of some naming of all roots. -/
theorem exists_named {order : List TrustRoot} (h : order.Perm (s.eligible P roots)) :
    ∃ named, named.Perm roots ∧ s.eligible P named = order := by
  classical
  have heligible : ∀ r ∈ order, s.Eligible P r := fun r hr =>
    (mem_eligible.1 (h.subset hr)).2
  refine ⟨order ++ roots.filter fun r => decide ¬ s.Eligible P r, ?_, ?_⟩
  · refine (h.append_right _).trans ?_
    have hsplit := List.filter_append_perm (fun r => decide (s.Eligible P r)) roots
    simpa [eligible] using hsplit
  · unfold eligible
    rw [List.filter_append, List.filter_eq_self.2 fun r hr => by simpa using heligible r hr,
      List.filter_filter]
    simp

end Counting

end RootSelector

open RootSelector in
/-- Each of the three selectors ignores the names of the roots, exactly if no eligible root can
stand in the way of two. -/
theorem ignoresNames_iff {P : Platform} (s : RootSelector) {roots : List TrustRoot}
    (hfree : KeysCollisionFree P roots) (h : s.Undisturbed P roots) :
    s.IgnoresNames P roots ↔ ¬ s.Obstructed P roots := by
  have hcount (named : List TrustRoot) (hp : named.Perm roots) : s.count P named =
      .ok (greedy (fun r => r.publicKey.bytes) (fun r : TrustRoot => r.principalId)
        (s.eligible P named)).length := by
    have hnamed : KeysCollisionFree P named := by
      rintro b b' ⟨r, hr, rfl⟩ ⟨r', hr', rfl⟩
      exact hfree _ _ ⟨r, hp.subset hr, rfl⟩ ⟨r', hp.subset hr', rfl⟩
    rw [count_eq (h.perm hp), greedy_fingerprint hnamed]
  unfold Obstructed
  rw [← greedy_longest_iff]
  constructor
  · intro hignores order horder found hfound
    obtain ⟨named, hp, rfl⟩ := exists_named horder
    obtain ⟨n, hn, hle⟩ := hignores.counts named hp _ (holds_iff.2 ⟨found, rfl, hfound⟩)
    rw [hcount named hp] at hn
    rw [Except.ok.inj hn]
    exact hle
  · intro hlongest
    have horder (named : List TrustRoot) (hp : named.Perm roots) :
        (s.eligible P named).Perm (s.eligible P roots) := hp.filter _
    refine ⟨fun named hp k hk => ?_, fun named named' hp hp' => ?_⟩
    · obtain ⟨found, rfl, hfound⟩ := holds_iff.1 hk
      exact ⟨_, hcount named hp, hlongest _ (horder named hp) found hfound⟩
    · have hle (a b : List TrustRoot) (ha : a.Perm roots) (hb : b.Perm roots) :
          (greedy (fun r => r.publicKey.bytes) (fun r : TrustRoot => r.principalId)
            (s.eligible P a)).length ≤
          (greedy (fun r => r.publicKey.bytes) (fun r : TrustRoot => r.principalId)
            (s.eligible P b)).length := by
        apply hlongest _ (horder b hb)
        have hgreedy : Selection (fun r : TrustRoot => r.publicKey.bytes)
            (fun r : TrustRoot => r.principalId) (s.eligible P a) _ := selection_greedy
        exact ⟨fun r hr => (horder a ha).subset (hgreedy.subset hr), hgreedy.distinct⟩
      rw [hcount named hp, hcount named' hp',
        le_antisymm (hle named named' hp hp') (hle named' named hp' hp)]

namespace Sample

/-- The issuer's key in the name of a deputy. -/
def deputyRoot : TrustRoot where
  toTrustRootFields := rootFields (ident "b-deputy") (ident "deputy") .actionIssuer
    issuerRoot.publicKey "runtime" .actionCertificate
  valid := by decide +kernel

/-- A second key of the issuer. -/
def spareRoot : TrustRoot where
  toTrustRootFields := rootFields (ident "c-spare") (ident "issuer") .actionIssuer
    approverRoot.publicKey "runtime" .actionCertificate
  valid := by decide +kernel

/-- Three issuer roots, of which the first shares its key with one and its principal with
another. -/
def sharingRoots : List TrustRoot := [issuerRoot, deputyRoot, spareRoot]

def sharingPolicy : TrustPolicy where
  toTrustPolicyFields := { policyFields ⟨sharingRoots, by decide⟩ with
    allowedActionIssuerPrincipals := ⟨[lit "issuer", lit "deputy"], by decide⟩
    actionIssuerThreshold := ⟨2, by decide⟩ }
  valid := by decide +kernel

/-- The selection of the issuers of the sample certificate. -/
def sharingSelector : RootSelector :=
  .authority .actionIssuer statement.predicate sharingPolicy (minute 30) none

theorem entitled_sharingRoots : ∀ r ∈ sharingRoots, sharingSelector.Entitled r := by
  show ∀ r ∈ sharingRoots,
    rootQualifies .actionIssuer statement.predicate sharingPolicy (minute 30) none r = .ok true
  decide

theorem undisturbed_sharingRoots : sharingSelector.Undisturbed platform sharingRoots := by
  refine ⟨fun _ _ _ => trivial, ?_⟩
  show (minute 30).Representable sharingPolicy.skew
  decide

theorem keysCollisionFree_sharingRoots : RootSelector.KeysCollisionFree platform sharingRoots := by
  have hkeys : ∀ r ∈ sharingRoots, ∀ r' ∈ sharingRoots,
      sha256Bytes platform r.publicKey.bytes = sha256Bytes platform r'.publicKey.bytes →
      r.publicKey.bytes = r'.publicKey.bytes := by
    decide
  rintro b b' ⟨r, hr, rfl⟩ ⟨r', hr', rfl⟩
  exact hkeys r hr r' hr'

end Sample

theorem sample_ignoresNames_iff :
    Sample.sharingSelector.IgnoresNames Sample.platform Sample.sharingRoots ↔
      ¬ Sample.sharingSelector.Obstructed Sample.platform Sample.sharingRoots :=
  ignoresNames_iff _ Sample.keysCollisionFree_sharingRoots Sample.undisturbed_sharingRoots

/-- In the order of their ids only the first of the three roots counts, although the other two have
distinct keys and distinct principals. -/
theorem sample_threshold_depends_on_names :
    RootSelector.KeysCollisionFree Sample.platform Sample.sharingRoots ∧
      Sample.sharingSelector.Undisturbed Sample.platform Sample.sharingRoots ∧
      ¬ Sample.sharingSelector.IgnoresNames Sample.platform Sample.sharingRoots := by
  refine ⟨Sample.keysCollisionFree_sharingRoots, Sample.undisturbed_sharingRoots, fun h => ?_⟩
  have hcount : Sample.sharingSelector.count Sample.platform Sample.sharingRoots = .ok 1 := by
    show ((qualifyingRoots Sample.platform Sample.sharingRoots .actionIssuer
      Sample.statement.predicate Sample.sharingPolicy (Sample.minute 30) none).map List.length) = _
    decide
  have hholds : Sample.sharingSelector.Holds Sample.platform Sample.sharingRoots 2 := by
    refine ⟨[Sample.deputyRoot, Sample.spareRoot], rfl, fun r hr => ?_, ?_⟩
    · have hmem : r ∈ Sample.sharingRoots := List.mem_cons_of_mem _ hr
      exact ⟨hmem, Sample.entitled_sharingRoots r hmem, trivial⟩
    · unfold Distinct
      decide
  obtain ⟨n, hn, hle⟩ := h.counts _ (List.Perm.refl _) 2 hholds
  rw [hcount] at hn
  obtain rfl := Except.ok.inj hn
  omega

end ProofFlow
