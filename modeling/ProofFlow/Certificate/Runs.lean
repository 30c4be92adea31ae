import ProofFlow.Certificate.Accept
import ProofFlow.Kit.Interleaving

/-!
# Runs of the certificate verifier

Any number of calls of `verify_action_certificate` share one ledger; the ledger's operation is
atomic and everything else is local to a call.  Over every interleaving, a reservation is made
exactly by the calls that return ACCEPT, and each nonce and each idempotency key of a tenant is
accepted at most once.
-/

namespace ProofFlow

open Kit

/-- The verifier as a service on the shared ledger. -/
def certificateService (P : Platform) :
    Service CertificateCall Reservation ReservationStatus CertificateOutcome
      InMemoryReplayLedger where
  plan call :=
    match authorize P call with
    | .error out => .error out
    | .ok a => .ok (a.reservation P, a.conclude P)
  apply := InMemoryReplayLedger.reserveOnce

/-- A call of the service is a call of the verifier. -/
theorem certificateService_call (P : Platform) (l : InMemoryReplayLedger) (c : CertificateCall) :
    (certificateService P).call l c = verifyActionCertificate P c l := by
  unfold Service.call verifyActionCertificate
  simp only [certificateService]
  cases authorize P c <;> rfl

/-- A signature verifies under at most one of the configured public keys. -/
def OneKeyPerSignature (P : Platform) (call : CertificateCall) : Prop :=
  ∀ r ∈ call.trustPolicy.roots.val, ∀ r' ∈ call.trustPolicy.roots.val, ∀ signature message : Bytes,
    P.ed25519Verify r.publicKey.bytes signature message = true →
      P.ed25519Verify r'.publicKey.bytes signature message = true →
      r.publicKey.bytes = r'.publicKey.bytes

/-! ## Building the result cannot fail -/

section Total

variable {P : Platform} {call : CertificateCall} {a : Authorization}

/-- No more roots count than the envelope has signatures. -/
theorem CountedRoots.length_le {purpose : TrustPurpose} {threshold : ℕ} {roots : List TrustRoot}
    (h : CountedRoots P call a purpose threshold roots) (hone : OneKeyPerSignature P call) :
    roots.length ≤ 16 := by
  refine (h.distinct.length_le_tokens h.signed ?_).trans a.envelope.signatures.property.2
  intro s _ r hr r' hr' hv hv'
  exact hone r (h.configured r hr) r' (h.configured r' hr') _ _ hv hv'

theorem Authorized.approvalRoots_length_le (h : Authorized P call a)
    (hone : OneKeyPerSignature P call) : a.approvalRoots.length ≤ 16 := by
  cases hreq : a.statement.predicate.approval.required with
  | true => exact (h.approval hreq).roots.length_le hone
  | false => simp [h.no_approval hreq]

/-- A result with reasons its status admits and at most sixteen roots of each kind is built. -/
theorem verificationResult_total {status : VerificationStatus} {reasons : List VerificationReason}
    {certificateId : Option Identifier} {payloadSha256 : Option Sha256Text}
    {issuerRoots approvalRoots : List TrustRoot} {reserved : Bool}
    (hreasons : 1 ≤ reasons.eraseDups.length ∧ reasons.eraseDups.length ≤ 16)
    (hissuers : issuerRoots.length ≤ 16) (happrovals : approvalRoots.length ≤ 16)
    (hclosed : ∀ f : ActionCertificateVerificationResultFields, f.status = status →
      f.reasonCodes.val = reasons.eraseDups → f.reserved = reserved → f.validate = .ok ()) :
    ∃ result, verificationResult status reasons certificateId payloadSha256 issuerRoots
      approvalRoots reserved = .ok result := by
  simp only [verificationResult, boundedItems, length_sortedStr, List.length_map, Nat.zero_le,
    hreasons, hissuers, happrovals, and_self, dite_true, ok_bind]
  exact ⟨_, construct_eq_ok.2 ⟨hclosed _ rfl rfl rfl, rfl⟩⟩

/-- After the reservation, the ACCEPT result is built without an exception. -/
theorem Authorized.conclude_reserved (h : Authorized P call a) (hone : OneKeyPerSignature P call) :
    ∃ result, a.conclude P .reserved = .ok result ∧ result.status = .accept := by
  obtain ⟨result, hr⟩ : ∃ result, a.conclude P .reserved = .ok result := by
    refine verificationResult_total (by decide) (h.issuers.length_le hone)
      (h.approvalRoots_length_le hone) ?_
    intro f hstatus hcodes hreserved
    have hone : [VerificationReason.accepted].eraseDups = [.accepted] := by decide
    simp [ActionCertificateVerificationResultFields.validate, hstatus, hcodes, hone, hreserved,
      bind_eq_ok]
  exact ⟨result, hr, (verificationResult_eq_ok hr).1⟩

end Total

/-! ## One call -/

section Call

variable {P : Platform}

/-- The call returned ACCEPT. -/
def ReturnedAccept (out : CertificateOutcome) : Prop := ∃ r, out = .ok r ∧ r.status = .accept

/-- The call planned the reservation and returned ACCEPT. -/
def Authorizes (P : Platform) (reservation : Reservation → Prop)
    (settled : CertificateCall × CertificateOutcome) : Prop :=
  ReturnedAccept settled.2 ∧ ∃ a, authorize P settled.1 = .ok a ∧ reservation (a.reservation P)

/-- A call is accepted with its reservation made, or it leaves the ledger alone. -/
theorem verify_cases {call : CertificateCall} (hone : OneKeyPerSignature P call)
    (l : InMemoryReplayLedger) :
    (∃ a, authorize P call = .ok a ∧ (l.reserveOnce (a.reservation P)).1 = .reserved ∧
        ReturnedAccept (verifyActionCertificate P call l).1 ∧
        (verifyActionCertificate P call l).2 = (l.reserveOnce (a.reservation P)).2) ∨
      (¬ ReturnedAccept (verifyActionCertificate P call l).1 ∧
        (verifyActionCertificate P call l).2 = l) := by
  cases ha : authorize P call with
  | error out =>
    have hv : verifyActionCertificate P call l = (out, l) := by simp [verifyActionCertificate, ha]
    rw [hv]
    refine .inr ⟨?_, rfl⟩
    rintro ⟨r, hr, haccept⟩
    exact exits_authorize out ha r hr haccept
  | ok a =>
    have hv : verifyActionCertificate P call l =
        (a.conclude P (l.reserveOnce (a.reservation P)).1,
          (l.reserveOnce (a.reservation P)).2) := by
      simp [verifyActionCertificate, ha]
    by_cases hs : (l.reserveOnce (a.reservation P)).1 = .reserved
    · refine .inl ⟨a, rfl, hs, ?_, by rw [hv]⟩
      rw [hv, hs]
      exact (authorized_of_authorize ha).conclude_reserved hone
    · refine .inr ⟨?_, ?_⟩
      · rintro ⟨r, hr, haccept⟩
        obtain ⟨a', ha', hreserved, -⟩ := accept_inversion (Prod.ext hr rfl) haccept
        rw [ha] at ha'
        obtain rfl := Except.ok.inj ha'
        exact hs (by rw [hreserved])
      · rw [hv]
        exact not_not.1 fun hne => hs ((l.reserveOnce_changes_iff _).1 hne)

end Call

/-! ## Whole runs -/

section Runs

open scoped Classical

/-- What holds of the ledger and of the calls settled so far: the maps are in step, and each entry
stands for exactly one accepted call. -/
structure LedgerInvariant (P : Platform) (capacity : Ranged 1 1000000) (l : InMemoryReplayLedger)
    (settled : Multiset (CertificateCall × CertificateOutcome)) : Prop where
  capacity_eq : l.capacity = capacity
  wellFormed : l.WellFormed
  nonces : ∀ key, settled.countP (Authorizes P fun r => r.nonceKey = key) =
    if (l.nonces.get key).isSome then 1 else 0
  idempotency : ∀ key, settled.countP (Authorizes P fun r => r.idempotency = key) =
    if (l.idempotency.get key).isSome then 1 else 0

variable {P : Platform} {capacity : Ranged 1 1000000}

theorem ledgerInvariant_init : LedgerInvariant P capacity (.init capacity) 0 where
  capacity_eq := rfl
  wellFormed := InMemoryReplayLedger.wellFormed_init capacity
  nonces := by simp [InMemoryReplayLedger.init]
  idempotency := by simp [InMemoryReplayLedger.init]

/-- An accepted call authorizes exactly the reservation it planned. -/
theorem authorizes_iff {call : CertificateCall} {out : CertificateOutcome} {a : Authorization}
    (ha : authorize P call = .ok a) (hout : ReturnedAccept out) {p : Reservation → Prop} :
    Authorizes P p (call, out) ↔ p (a.reservation P) := by
  constructor
  · rintro ⟨-, a', ha', hp⟩
    rw [ha] at ha'
    obtain rfl := Except.ok.inj ha'
    exact hp
  · exact fun hp => ⟨hout, a, ha, hp⟩

theorem LedgerInvariant.call {l : InMemoryReplayLedger}
    {settled : Multiset (CertificateCall × CertificateOutcome)} {c : CertificateCall}
    (hone : OneKeyPerSignature P c) (h : LedgerInvariant P capacity l settled) :
    LedgerInvariant P capacity (verifyActionCertificate P c l).2
      ((c, (verifyActionCertificate P c l).1) ::ₘ settled) := by
  rcases verify_cases hone l with ⟨a, ha, hs, hout, heq⟩ | ⟨hout, heq⟩
  · have hwellFormed := h.wellFormed.reserveOnce (a.reservation P)
    obtain ⟨hn, hi, hreserved⟩ := InMemoryReplayLedger.reserveOnce_of_reserved hs
    rw [hreserved] at hwellFormed
    rw [heq, hreserved]
    refine ⟨h.capacity_eq, hwellFormed, fun key => ?_, fun key => ?_⟩
    · have hcount := h.nonces key
      rw [Multiset.countP_cons, hcount, authorizes_iff ha hout, Dict.get_set]
      by_cases hk : key = (a.reservation P).nonceKey
      · subst hk
        simp [hn]
      · simp [hk, Ne.symm hk]
    · have hcount := h.idempotency key
      rw [Multiset.countP_cons, hcount, authorizes_iff ha hout, Dict.get_set]
      by_cases hk : key = (a.reservation P).idempotency
      · subst hk
        simp [hi]
      · simp [hk, Ne.symm hk]
  · rw [heq]
    refine ⟨h.capacity_eq, h.wellFormed, fun key => ?_, fun key => ?_⟩
    · rw [Multiset.countP_cons_of_neg _ fun hp => hout hp.1]
      exact h.nonces key
    · rw [Multiset.countP_cons_of_neg _ fun hp => hout hp.1]
      exact h.idempotency key

/-- A moment of a run of the verifier on a fresh ledger. -/
abbrev CertificateRun (P : Platform) (capacity : Ranged 1 1000000) :=
  Reachable (certificateService P) (OneKeyPerSignature P) (.init capacity)

/-- A step of a run. -/
abbrev CertificateStep (P : Platform) := Step (certificateService P) (OneKeyPerSignature P)

theorem CertificateRun.invariant
    {g : Config CertificateCall Reservation ReservationStatus CertificateOutcome
      InMemoryReplayLedger} (h : CertificateRun P capacity g) :
    LedgerInvariant P capacity g.shared g.settled := by
  refine Reachable.invariant ledgerInvariant_init (fun l settled c hc hinv => ?_) h
  rw [certificateService_call]
  exact hinv.call hc

/-- A step changes the ledger exactly when it settles a call with ACCEPT, and no entry is ever
removed or overwritten. -/
theorem CertificateRun.step
    {g g' : Config CertificateCall Reservation ReservationStatus CertificateOutcome
      InMemoryReplayLedger} (h : CertificateRun P capacity g) (hs : CertificateStep P g g') :
    (g'.shared ≠ g.shared ↔
        ∃ c out, g'.settled = (c, out) ::ₘ g.settled ∧ ReturnedAccept out) ∧
      g.shared.nonces.Grows g'.shared.nonces ∧
      g.shared.idempotency.Grows g'.shared.idempotency := by
  rcases Reachable.step h hs with ⟨hshared, hsettled⟩ | ⟨c, hc, hshared, hsettled⟩
  · rw [hshared, hsettled]
    refine ⟨iff_of_false (by simp) ?_, Dict.Grows.refl _, Dict.Grows.refl _⟩
    rintro ⟨c, out, hcons, -⟩
    simpa using congrArg Multiset.card hcons
  · rw [certificateService_call] at hshared hsettled
    have haccept : (∃ c out, g'.settled = (c, out) ::ₘ g.settled ∧ ReturnedAccept out) ↔
        ReturnedAccept (verifyActionCertificate P c g.shared).1 := by
      rw [hsettled]
      constructor
      · rintro ⟨c', out, heq, hout⟩
        rw [Multiset.cons_inj_left, Prod.mk.injEq] at heq
        rwa [heq.2]
      · exact fun hout => ⟨c, _, rfl, hout⟩
    rw [haccept, hshared]
    rcases verify_cases hc g.shared with ⟨a, -, hs, hout, heq⟩ | ⟨hout, heq⟩
    · rw [heq]
      have hchanges := (g.shared.reserveOnce_changes_iff (a.reservation P)).2 hs
      exact ⟨iff_of_true hchanges hout, g.shared.reserveOnce_grows (a.reservation P)⟩
    · rw [heq]
      exact ⟨iff_of_false (by simp) hout, Dict.Grows.refl _, Dict.Grows.refl _⟩

/-- At-most-once authorization at a moment of a run. -/
structure AtMostOnce (P : Platform) (capacity : Ranged 1 1000000)
    (g : Config CertificateCall Reservation ReservationStatus CertificateOutcome
      InMemoryReplayLedger) : Prop where
  sizes_eq : g.shared.nonces.size = g.shared.idempotency.size
  size_le : g.shared.nonces.size ≤ capacity.val
  nonce_once : ∀ tenant nonce, g.settled.countP
    (Authorizes P fun r => r.tenantId = tenant ∧ r.nonce = nonce) ≤ 1
  idempotency_once : ∀ tenant key, g.settled.countP
    (Authorizes P fun r => r.tenantId = tenant ∧ r.idempotencyKey = key) ≤ 1
  changes_iff : ∀ g', CertificateStep P g g' → (g'.shared ≠ g.shared ↔
    ∃ c out, g'.settled = (c, out) ::ₘ g.settled ∧ ReturnedAccept out)
  nonces_grow : ∀ g', CertificateStep P g g' → g.shared.nonces.Grows g'.shared.nonces
  idempotency_grows : ∀ g', CertificateStep P g g' →
    g.shared.idempotency.Grows g'.shared.idempotency

/-- Over every interleaving of calls on one ledger of any capacity, authorization happens at most
once per nonce and per idempotency key, and exactly the accepted calls change the ledger. -/
theorem certificateRun_atMostOnce (P : Platform) (capacity : Ranged 1 1000000)
    {g : Config CertificateCall Reservation ReservationStatus CertificateOutcome
      InMemoryReplayLedger} (h : CertificateRun P capacity g) : AtMostOnce P capacity g := by
  have hinv := h.invariant
  exact {
    sizes_eq := hinv.wellFormed.sizes_eq
    size_le := hinv.capacity_eq ▸ hinv.wellFormed.size_le
    nonce_once := fun tenant nonce => by
      have hcount := hinv.nonces (tenant, nonce)
      simp only [Reservation.nonceKey, Prod.mk.injEq] at hcount
      rw [hcount]
      split_ifs <;> simp
    idempotency_once := fun tenant key => by
      have hcount := hinv.idempotency (tenant, key)
      simp only [Reservation.idempotency, Prod.mk.injEq] at hcount
      rw [hcount]
      split_ifs <;> simp
    changes_iff := fun g' hs => (h.step hs).1
    nonces_grow := fun g' hs => (h.step hs).2.1
    idempotency_grows := fun g' hs => (h.step hs).2.2 }

end Runs

namespace Sample

theorem oneKeyPerSignature_call : OneKeyPerSignature platform (call policy) := by
  have hkeys : ∀ p ∈ signatures, ∀ q ∈ signatures, p.2 = q.2 → p.1 = q.1 := by decide +kernel
  intro r _ r' _ signature _ hr hr'
  exact hkeys _ (of_decide_eq_true hr) _ (of_decide_eq_true hr') rfl

end Sample

/-- In a run that verifies the sample certificate twice, it is accepted and at most once. -/
theorem sample_atMostOnce : ∃ g, CertificateRun Sample.platform Sample.capacity g ∧
    (Sample.call Sample.policy, .ok Sample.acceptedResult) ∈ g.settled ∧
    g.settled.card = 2 ∧ AtMostOnce Sample.platform Sample.capacity g := by
  have hstart : CertificateRun Sample.platform Sample.capacity ⟨Sample.ledger, 0, 0, 0⟩ :=
    Relation.ReflTransGen.refl
  have honce := Reachable.settle hstart Sample.oneKeyPerSignature_call
  have htwice := Reachable.settle honce Sample.oneKeyPerSignature_call
  obtain ⟨ledger', haccepts⟩ := Sample.selects_policy.accepts
  have hfirst : ((certificateService Sample.platform).call Sample.ledger
      (Sample.call Sample.policy)).1 = .ok Sample.acceptedResult := by
    rw [certificateService_call, haccepts]
  refine ⟨_, htwice, ?_, rfl, certificateRun_atMostOnce _ _ htwice⟩
  rw [hfirst]
  dsimp only
  exact Multiset.mem_cons_of_mem (Multiset.mem_cons_self _ _)

end ProofFlow
