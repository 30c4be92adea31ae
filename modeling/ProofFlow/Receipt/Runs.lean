import ProofFlow.Kit.Interleaving
import ProofFlow.Receipt.Accept

/-!
# Runs of the receipt verifier

Any number of calls of `verify_execution_receipt` share one index; the index's operation is atomic
and everything else is local to a call.  Over every interleaving the index only grows, each receipt
and each attempt is appended at most once, and a payload is reported as present exactly when it was
appended before.
-/

namespace ProofFlow

open Kit

/-- The verifier as a service on the shared index. -/
def receiptService (P : Platform) :
    Service ReceiptCall ReceiptAppend ReceiptIndexStatus ReceiptOutcome InMemoryReceiptIndex where
  plan call :=
    match examine P call with
    | .error out => .error out
    | .ok e => .ok (e.append P, e.conclude P call)
  apply := InMemoryReceiptIndex.appendOnce

/-- The verifier on an in-memory index. -/
abbrev verifyReceipt (P : Platform) (call : ReceiptCall) (x : InMemoryReceiptIndex) :
    ReceiptOutcome × InMemoryReceiptIndex :=
  verifyExecutionReceipt P call InMemoryReceiptIndex.protocol x

/-- A call of the service is a call of the verifier. -/
theorem receiptService_call (P : Platform) (x : InMemoryReceiptIndex) (c : ReceiptCall) :
    (receiptService P).call x c = verifyReceipt P c x := by
  unfold Service.call verifyReceipt verifyExecutionReceipt
  simp only [receiptService]
  cases examine P c <;> rfl

/-! ## Building the result cannot fail -/

section Total

variable {P : Platform} {call : ReceiptCall} {e : Examined}

/-- No more observers count than the receipt declares. -/
theorem CountedObservers.length_le (h : CountedObservers P call e) : e.observers.length ≤ 16 :=
  (length_le_principals h.distinct fun _ hr => h.declared.1 (List.mem_map_of_mem hr)).trans
    e.statement.predicate.producer.observerPrincipals.property.2

theorem CountedObservers.ne_nil (h : CountedObservers P call e) : e.observers ≠ [] := by
  intro hnil
  have hpos := call.trustPolicy.executionObserverThreshold.property.1
  have hlen := h.threshold_le
  simp only [hnil, List.length_nil] at hlen
  omega

/-- The call returned ACCEPT for the reason. -/
def ReceiptReturned (reason : ExecutionReceiptVerificationReason) (out : ReceiptOutcome) : Prop :=
  ∃ r, out = .ok r ∧ r.status = .accept ∧ r.reasonCodes.val = [reason]

/-- The call returned ACCEPT. -/
def ReceiptReturnedAccept (out : ReceiptOutcome) : Prop := ∃ r, out = .ok r ∧ r.status = .accept

/-- An ACCEPT result for counted observers is built without an exception. -/
theorem CountedObservers.accept (h : CountedObservers P call e)
    {reason : ExecutionReceiptVerificationReason}
    (hreason : reason = .appended ∨ reason = .alreadyPresent) :
    ReceiptReturned reason (receiptResult .accept [reason] (sha256Bytes P call.envelopeBytes)
      (some e.statement.predicate.receiptId) (some (sha256Bytes P e.payload))
      (e.observers.map fun r => r.rootId.val) true (some e.statement)) := by
  have hlen := h.length_le
  have hnodup := (sortedStr_perm _).nodup_iff.2
    (call.trustPolicy.nodup_ids_of_distinct h.configured h.distinct)
  have hne : sortedStr (e.observers.map fun r => r.rootId.val) ≠ [] := by
    rw [← List.length_pos_iff_ne_nil, length_sortedStr, List.length_map, List.length_pos_iff_ne_nil]
    exact h.ne_nil
  have hone : [reason].eraseDups = [reason] := rfl
  obtain ⟨r, hr⟩ : ∃ r, receiptResult .accept [reason] (sha256Bytes P call.envelopeBytes)
      (some e.statement.predicate.receiptId) (some (sha256Bytes P e.payload))
      (e.observers.map fun r => r.rootId.val) true (some e.statement) = .ok r := by
    simp only [receiptResult, boundedItems, length_sortedStr, List.length_map, Nat.zero_le, hlen,
      hone, List.length_singleton, le_refl, Nat.reduceLeDiff, and_self, dite_true, ok_bind]
    refine ⟨_, construct_eq_ok.2 ⟨?_, rfl⟩⟩
    simp only [ExecutionReceiptVerificationResultFields.validate, bind_eq_ok, raiseIf_eq_ok]
    refine ⟨(), by simp, (), by simpa using hnodup, ?_⟩
    rcases hreason with rfl | rfl <;> simp [hne]
  obtain ⟨hstatus, hcodes, -⟩ := receiptResult_eq_ok hr
  exact ⟨r, hr, hstatus, hcodes.trans hone⟩

end Total

/-! ## One call -/

section Call

variable {P : Platform}

/-- A call appends a receipt, finds it present, or is not accepted; only the first changes the
index. -/
theorem verifyReceipt_cases (call : ReceiptCall) (x : InMemoryReceiptIndex) :
    (∃ e, examine P call = .ok e ∧ x.Appendable (e.append P) ∧
        ReceiptReturned .appended (verifyReceipt P call x).1 ∧
        (verifyReceipt P call x).2 = x.write (e.append P)) ∨
      (∃ e, examine P call = .ok e ∧ x.Holds (e.append P) ∧
        ReceiptReturned .alreadyPresent (verifyReceipt P call x).1 ∧
        (verifyReceipt P call x).2 = x) ∨
      ((∀ e, examine P call = .ok e → ¬ x.Holds (e.append P)) ∧
        ¬ ReceiptReturnedAccept (verifyReceipt P call x).1 ∧ (verifyReceipt P call x).2 = x) := by
  cases he : examine P call with
  | error out =>
    have hv : verifyReceipt P call x = (out, x) := by
      simp [verifyReceipt, verifyExecutionReceipt, he]
    rw [hv]
    refine .inr (.inr ⟨by simp, ?_, rfl⟩)
    rintro ⟨r, hr, haccept⟩
    exact exits_examine out he r hr haccept
  | ok e =>
    have hv : verifyReceipt P call x =
        (e.conclude P call (x.appendOnce (e.append P)).1, (x.appendOnce (e.append P)).2) := by
      simp [verifyReceipt, verifyExecutionReceipt, he, InMemoryReceiptIndex.protocol]
    have hobservers := (receiptChecked_of_examine he).observers
    rcases x.appendOnce_cases (e.append P) with ⟨ha, heq⟩ | ⟨hh, heq⟩ | ⟨hh, hna, hnp, heq⟩
    · rw [hv, heq]
      exact .inl ⟨e, rfl, ha, hobservers.accept (.inl rfl), rfl⟩
    · rw [hv, heq]
      exact .inr (.inl ⟨e, rfl, hh, hobservers.accept (.inr rfl), rfl⟩)
    · rw [hv]
      refine .inr (.inr ⟨?_, ?_, heq⟩)
      · rintro e' ⟨⟩
        exact hh
      · rintro ⟨r, hr, haccept⟩
        rcases conclude_accept hr haccept with hs | hs
        · exact hna hs
        · exact hnp hs

/-- Calls with the same payload append the same entry. -/
theorem append_eq_of_payload_eq {c c' : ReceiptCall} {e e' : Examined}
    (h : ReceiptChecked P c e) (h' : ReceiptChecked P c' e') (hp : e.payload = e'.payload) :
    e.append P = e'.append P := by
  have hs := h.statement_parsed
  rw [hp, h'.statement_parsed] at hs
  have hs := Except.ok.inj hs
  simp only [Examined.append, hp, hs]

end Call

/-! ## Whole runs -/

section Runs

open scoped Classical

/-- The settled call appended an entry with the property. -/
def Appends (P : Platform) (entry : ReceiptAppend → Prop) (settled : ReceiptCall × ReceiptOutcome) :
    Prop :=
  ReceiptReturned .appended settled.2 ∧ ∃ e, examine P settled.1 = .ok e ∧ entry (e.append P)

/-- What holds of the index and of the calls settled so far: the maps are in step, the entries of
the settled calls are recorded, and every recorded payload was appended by one of them. -/
structure ReceiptInvariant (P : Platform) (capacity : Ranged 1 1000000) (x : InMemoryReceiptIndex)
    (settled : Multiset (ReceiptCall × ReceiptOutcome)) : Prop where
  capacity_eq : x.capacity = capacity
  wellFormed : x.WellFormed
  receipts : ∀ key, settled.countP (Appends P fun a => a.receiptKey = key) =
    if (x.receipts.get key).isSome then 1 else 0
  attempts : ∀ key, settled.countP (Appends P fun a => a.attemptKey = key) =
    if (x.attempts.get key).isSome then 1 else 0
  recorded : ∀ c out e, (c, out) ∈ settled → ReceiptReturned .appended out →
    examine P c = .ok e → x.Holds (e.append P) ∧
      x.idempotency.get (e.append P).idempotency = some (e.append P).intentSha256
  appended : ∀ key payload, x.receipts.get key = some payload → ∃ c out e, (c, out) ∈ settled ∧
    ReceiptReturned .appended out ∧ examine P c = .ok e ∧ (e.append P).payloadSha256 = payload

variable {P : Platform} {capacity : Ranged 1 1000000}

theorem receiptInvariant_init : ReceiptInvariant P capacity (.init capacity) 0 where
  capacity_eq := rfl
  wellFormed := InMemoryReceiptIndex.wellFormed_init capacity
  receipts := by simp [InMemoryReceiptIndex.init]
  attempts := by simp [InMemoryReceiptIndex.init]
  recorded := by simp
  appended := by simp [InMemoryReceiptIndex.init]

theorem appends_iff {call : ReceiptCall} {out : ReceiptOutcome} {e : Examined}
    (he : examine P call = .ok e) (hout : ReceiptReturned .appended out)
    {p : ReceiptAppend → Prop} : Appends P p (call, out) ↔ p (e.append P) := by
  constructor
  · rintro ⟨-, e', he', hp⟩
    rw [he] at he'
    obtain rfl := Except.ok.inj he'
    exact hp
  · exact fun hp => ⟨hout, e, he, hp⟩

theorem ReceiptReturned.accept {reason : ExecutionReceiptVerificationReason} {out : ReceiptOutcome}
    (h : ReceiptReturned reason out) : ReceiptReturnedAccept out := by
  obtain ⟨r, hr, haccept, -⟩ := h
  exact ⟨r, hr, haccept⟩

theorem ReceiptReturned.reason_eq {reason reason' : ExecutionReceiptVerificationReason}
    {out : ReceiptOutcome} (h : ReceiptReturned reason out) (h' : ReceiptReturned reason' out) :
    reason = reason' := by
  obtain ⟨r, rfl, -, hr⟩ := h
  obtain ⟨r', hout, -, hr'⟩ := h'
  obtain rfl := Except.ok.inj hout
  rw [hr] at hr'
  simpa using hr'

/-- A call that appends nothing keeps the invariant. -/
theorem ReceiptInvariant.of_not_appended {x : InMemoryReceiptIndex}
    {settled : Multiset (ReceiptCall × ReceiptOutcome)} {c : ReceiptCall} {out : ReceiptOutcome}
    (h : ReceiptInvariant P capacity x settled) (hout : ¬ ReceiptReturned .appended out) :
    ReceiptInvariant P capacity x ((c, out) ::ₘ settled) where
  capacity_eq := h.capacity_eq
  wellFormed := h.wellFormed
  receipts key := by
    rw [Multiset.countP_cons_of_neg _ fun hp => hout hp.1]
    exact h.receipts key
  attempts key := by
    rw [Multiset.countP_cons_of_neg _ fun hp => hout hp.1]
    exact h.attempts key
  recorded c' out' e hmem hret he := by
    rcases Multiset.mem_cons.1 hmem with heq | hmem
    · obtain ⟨rfl, rfl⟩ := Prod.mk.inj heq
      exact absurd hret hout
    · exact h.recorded c' out' e hmem hret he
  appended key payload hget := by
    obtain ⟨c', out', e, hmem, hrest⟩ := h.appended key payload hget
    exact ⟨c', out', e, Multiset.mem_cons_of_mem hmem, hrest⟩

/-- A call that appends keeps the invariant. -/
theorem ReceiptInvariant.of_appended {x : InMemoryReceiptIndex}
    {settled : Multiset (ReceiptCall × ReceiptOutcome)} {c : ReceiptCall} {out : ReceiptOutcome}
    {e : Examined} (h : ReceiptInvariant P capacity x settled) (he : examine P c = .ok e)
    (ha : x.Appendable (e.append P)) (hout : ReceiptReturned .appended out) :
    ReceiptInvariant P capacity (x.write (e.append P)) ((c, out) ::ₘ settled) where
  capacity_eq := h.capacity_eq
  wellFormed := h.wellFormed.write ha
  receipts key := by
    have hcount := h.receipts key
    have hfree := ha.receipt_free
    rw [Multiset.countP_cons, hcount, appends_iff he hout, InMemoryReceiptIndex.write, Dict.get_set]
    by_cases hk : key = (e.append P).receiptKey
    · subst hk
      simp [hfree]
    · simp [hk, Ne.symm hk]
  attempts key := by
    have hcount := h.attempts key
    have hfree := ha.attempt_free
    rw [Multiset.countP_cons, hcount, appends_iff he hout, InMemoryReceiptIndex.write, Dict.get_set]
    by_cases hk : key = (e.append P).attemptKey
    · subst hk
      simp [hfree]
    · simp [hk, Ne.symm hk]
  recorded c' out' e' hmem hret he' := by
    rcases Multiset.mem_cons.1 hmem with heq | hmem
    · obtain ⟨rfl, rfl⟩ := Prod.mk.inj heq
      rw [he] at he'
      obtain rfl := Except.ok.inj he'
      exact ⟨⟨Dict.get_set_self _ _ _, Dict.get_set_self _ _ _⟩, Dict.get_set_self _ _ _⟩
    · obtain ⟨hheld, hintent⟩ := h.recorded c' out' e' hmem hret he'
      have hgrows := ha.grows
      exact ⟨⟨hgrows.receipts _ _ hheld.1, hgrows.attempts _ _ hheld.2⟩,
        hgrows.idempotency _ _ hintent⟩
  appended key payload hget := by
    rw [InMemoryReceiptIndex.write, Dict.get_set] at hget
    split_ifs at hget with hk
    · exact ⟨c, out, e, Multiset.mem_cons_self _ _, hout, he, Option.some.inj hget⟩
    · obtain ⟨c', out', e', hmem, hrest⟩ := h.appended key payload hget
      exact ⟨c', out', e', Multiset.mem_cons_of_mem hmem, hrest⟩

theorem ReceiptInvariant.call {x : InMemoryReceiptIndex}
    {settled : Multiset (ReceiptCall × ReceiptOutcome)} (c : ReceiptCall)
    (h : ReceiptInvariant P capacity x settled) :
    ReceiptInvariant P capacity (verifyReceipt P c x).2
      ((c, (verifyReceipt P c x).1) ::ₘ settled) := by
  rcases verifyReceipt_cases c x with ⟨e, he, ha, hout, heq⟩ | ⟨e, he, hh, hout, heq⟩ | ⟨-, hout,
    heq⟩
  · rw [heq]
    exact h.of_appended he ha hout
  · rw [heq]
    exact h.of_not_appended fun hret => by simpa using hout.reason_eq hret
  · rw [heq]
    exact h.of_not_appended fun hret => hout hret.accept

/-- The payload of every call is one of the payloads seen. -/
def PayloadSeen (P : Platform) (seen : Bytes → Prop) (call : ReceiptCall) : Prop :=
  ∀ envelope, parseJsonModel P Decode.dsseEnvelope call.envelopeBytes
    "ExecutionReceipt DSSE envelope" = .ok envelope → seen envelope.payload.bytes

/-- A moment of a run of the verifier on a fresh index. -/
abbrev ReceiptRun (P : Platform) (seen : Bytes → Prop) (capacity : Ranged 1 1000000) :=
  Reachable (receiptService P) (PayloadSeen P seen) (.init capacity)

/-- A step of a run. -/
abbrev ReceiptStep (P : Platform) (seen : Bytes → Prop) :=
  Step (receiptService P) (PayloadSeen P seen)

/-- A moment of a run, as data. -/
abbrev ReceiptConfig :=
  Config ReceiptCall ReceiptAppend ReceiptIndexStatus ReceiptOutcome InMemoryReceiptIndex

variable {seen : Bytes → Prop} {g g' : ReceiptConfig}

/-- The payload was appended by a call settled so far, which carried an admissible payload. -/
def AppendedBefore (P : Platform) (g : ReceiptConfig) (payload : Bytes) : Prop :=
  ∃ c out e, (c, out) ∈ g.settled ∧ ReceiptReturned .appended out ∧ examine P c = .ok e ∧
    e.payload = payload

theorem ReceiptRun.invariant (h : ReceiptRun P seen capacity g) :
    ReceiptInvariant P capacity g.shared g.settled := by
  refine Reachable.invariant receiptInvariant_init (fun x settled c _ hinv => ?_) h
  rw [receiptService_call]
  exact hinv.call c

/-- Every settled call was admitted. -/
theorem ReceiptRun.payloadSeen (h : ReceiptRun P seen capacity g) :
    ∀ c out, (c, out) ∈ g.settled → PayloadSeen P seen c := by
  refine Reachable.invariant (I := fun _ settled => ∀ c out, (c, out) ∈ settled →
    PayloadSeen P seen c) (by simp) (fun x settled c hc hinv c' out' hmem => ?_) h
  rcases Multiset.mem_cons.1 hmem with heq | hmem
  · obtain ⟨rfl, -⟩ := Prod.mk.inj heq
    exact hc
  · exact hinv c' out' hmem

/-- A step that settles a call settles it with the verifier's answer in the current state. -/
theorem ReceiptRun.settles (h : ReceiptRun P seen capacity g) (hs : ReceiptStep P seen g g')
    {c : ReceiptCall} {out : ReceiptOutcome} (hsettled : g'.settled = (c, out) ::ₘ g.settled) :
    PayloadSeen P seen c ∧ verifyReceipt P c g.shared = (out, g'.shared) := by
  rcases Reachable.step h hs with ⟨-, hsame⟩ | ⟨c', hc', hshared, hsettled'⟩
  · rw [hsame] at hsettled
    simpa using congrArg Multiset.card hsettled
  · rw [receiptService_call] at hshared hsettled'
    rw [hsettled', Multiset.cons_inj_left, Prod.mk.injEq] at hsettled
    obtain ⟨rfl, rfl⟩ := hsettled
    exact ⟨hc', Prod.ext rfl hshared.symm⟩

theorem ReceiptRun.grows (h : ReceiptRun P seen capacity g) (hs : ReceiptStep P seen g g') :
    g.shared.Grows g'.shared := by
  rcases Reachable.step h hs with ⟨hshared, -⟩ | ⟨c, -, hshared, -⟩
  · rw [hshared]
    exact InMemoryReceiptIndex.Grows.refl _
  · rw [hshared, receiptService_call]
    rcases verifyReceipt_cases c g.shared with ⟨e, -, ha, -, heq⟩ | ⟨e, -, -, -, heq⟩ | ⟨-, -, heq⟩
    · rw [heq]
      exact ha.grows
    · rw [heq]
      exact InMemoryReceiptIndex.Grows.refl _
    · rw [heq]
      exact InMemoryReceiptIndex.Grows.refl _

/-- A payload is reported as present exactly when the call passes its other checks and that payload
was appended before. -/
theorem ReceiptRun.alreadyPresent_iff (hfree : CollisionFree P seen)
    (h : ReceiptRun P seen capacity g) (hs : ReceiptStep P seen g g') {c : ReceiptCall}
    {out : ReceiptOutcome} (hsettled : g'.settled = (c, out) ::ₘ g.settled) :
    ReceiptReturned .alreadyPresent out ↔
      ∃ e, examine P c = .ok e ∧ AppendedBefore P g e.payload := by
  obtain ⟨hseen, hv⟩ := h.settles hs hsettled
  have hinv := h.invariant
  constructor
  · intro hret
    rcases verifyReceipt_cases (P := P) c g.shared with
      ⟨e, -, -, hout, -⟩ | ⟨e, he, hh, -, -⟩ | ⟨-, hout, -⟩
    · rw [hv] at hout
      simpa using hret.reason_eq hout
    · obtain ⟨c', out', e', hmem, hret', he', hpayload⟩ := hinv.appended _ _ hh.1
      have hc := receiptChecked_of_examine he
      have hc' := receiptChecked_of_examine he'
      refine ⟨e, he, c', out', e', hmem, hret', he', hfree _ _ ?_ ?_ (Subtype.ext hpayload)⟩
      · exact hc'.payload_eq ▸ h.payloadSeen c' out' hmem _ hc'.envelope_parsed
      · exact hc.payload_eq ▸ hseen _ hc.envelope_parsed
    · rw [hv] at hout
      exact absurd hret.accept hout
  · rintro ⟨e, he, c', out', e', hmem, hret, he', hpayload⟩
    obtain ⟨hheld, -⟩ := hinv.recorded c' out' e' hmem hret he'
    rw [append_eq_of_payload_eq (receiptChecked_of_examine he') (receiptChecked_of_examine he)
      hpayload] at hheld
    rcases verifyReceipt_cases (P := P) c g.shared with
      ⟨e₁, he₁, ha, -, -⟩ | ⟨-, -, -, hout, -⟩ | ⟨hnot, -, -⟩
    · rw [he] at he₁
      obtain rfl := Except.ok.inj he₁
      exact absurd hheld.1 (by simp [ha.receipt_free])
    · rwa [hv] at hout
    · exact absurd hheld (hnot e he)

/-- The index at a moment of a run. -/
structure ReceiptIndexed (P : Platform) (seen : Bytes → Prop) (capacity : Ranged 1 1000000)
    (g : ReceiptConfig) : Prop where
  sizes_eq : g.shared.receipts.size = g.shared.attempts.size
  size_le : g.shared.receipts.size ≤ capacity.val
  receipt_once : ∀ key, g.settled.countP (Appends P fun a => a.receiptKey = key) ≤ 1
  attempt_once : ∀ key, g.settled.countP (Appends P fun a => a.attemptKey = key) ≤ 1
  payload_recorded : ∀ c out e, (c, out) ∈ g.settled → ReceiptReturned .appended out →
    examine P c = .ok e → g.shared.Holds (e.append P)
  intent_recorded : ∀ c out e, (c, out) ∈ g.settled → ReceiptReturned .appended out →
    examine P c = .ok e →
    g.shared.idempotency.get (e.append P).idempotency = some (e.append P).intentSha256
  grows : ∀ g', ReceiptStep P seen g g' → g.shared.Grows g'.shared
  alreadyPresent_iff : ∀ g' c out, ReceiptStep P seen g g' →
    g'.settled = (c, out) ::ₘ g.settled →
    (ReceiptReturned .alreadyPresent out ↔
      ∃ e, examine P c = .ok e ∧ AppendedBefore P g e.payload)
  unchanged : ∀ g' c out, ReceiptStep P seen g g' → g'.settled = (c, out) ::ₘ g.settled →
    ¬ ReceiptReturnedAccept out → g'.shared = g.shared

/-- Over every interleaving of calls on one index of any capacity, whose payloads do not collide:
the maps only grow and stay in step, each receipt and each attempt is appended at most once, and
exactly the appended payloads are reported as present. -/
theorem receiptRun_indexed (P : Platform) {seen : Bytes → Prop} (hfree : CollisionFree P seen)
    (capacity : Ranged 1 1000000) {g : ReceiptConfig} (h : ReceiptRun P seen capacity g) :
    ReceiptIndexed P seen capacity g := by
  have hinv := h.invariant
  exact {
    sizes_eq := hinv.wellFormed.sizes_eq
    size_le := hinv.capacity_eq ▸ hinv.wellFormed.size_le
    receipt_once := fun key => by
      rw [hinv.receipts key]
      split_ifs <;> simp
    attempt_once := fun key => by
      rw [hinv.attempts key]
      split_ifs <;> simp
    payload_recorded := fun c out e hmem hret he => (hinv.recorded c out e hmem hret he).1
    intent_recorded := fun c out e hmem hret he => (hinv.recorded c out e hmem hret he).2
    grows := fun g' hs => h.grows hs
    alreadyPresent_iff := fun g' c out hs hsettled => h.alreadyPresent_iff hfree hs hsettled
    unchanged := fun g' c out hs hsettled hout => by
      obtain ⟨-, hv⟩ := h.settles hs hsettled
      rcases verifyReceipt_cases (P := P) c g.shared with
        ⟨e, -, -, hret, -⟩ | ⟨e, -, -, hret, -⟩ | ⟨-, -, heq⟩
      · rw [hv] at hret
        exact absurd hret.accept hout
      · rw [hv] at hret
        exact absurd hret.accept hout
      · rwa [hv] at heq }

end Runs

namespace Sample

theorem payloadSeen_receiptCall : PayloadSeen platform (· = receiptPayload) receiptCall := by
  intro envelope hparse
  obtain ⟨hparse', hpayload⟩ := openEnvelope_eq_ok
    (openEnvelope_receiptParts "ExecutionReceipt DSSE envelope" "ExecutionReceipt payload")
  have hsame : parseJsonModel platform Decode.dsseEnvelope receiptParts.bytes
      "ExecutionReceipt DSSE envelope" = .ok envelope := hparse
  rw [hparse'] at hsame
  rw [← Except.ok.inj hsame, ← hpayload]

end Sample

/-- In a run that verifies the sample receipt twice, it is appended and at most once. -/
theorem sample_indexed : ∃ g,
    ReceiptRun Sample.platform (· = Sample.receiptPayload) Sample.capacity g ∧
      (Sample.receiptCall, .ok Sample.acceptedReceipt) ∈ g.settled ∧ g.settled.card = 2 ∧
      ReceiptIndexed Sample.platform (· = Sample.receiptPayload) Sample.capacity g := by
  have hfree : CollisionFree Sample.platform (· = Sample.receiptPayload) :=
    fun b b' hb hb' _ => hb.trans hb'.symm
  have hstart : ReceiptRun Sample.platform (· = Sample.receiptPayload) Sample.capacity
      ⟨Sample.receiptIndex, 0, 0, 0⟩ :=
    Relation.ReflTransGen.refl
  have honce := Reachable.settle hstart Sample.payloadSeen_receiptCall
  have htwice := Reachable.settle honce Sample.payloadSeen_receiptCall
  obtain ⟨index', haccepts⟩ := Sample.verify_receiptCall
  have hfirst : ((receiptService Sample.platform).call Sample.receiptIndex
      Sample.receiptCall).1 = .ok Sample.acceptedReceipt := by
    rw [receiptService_call, verifyReceipt, haccepts]
  refine ⟨_, htwice, ?_, rfl, receiptRun_indexed _ hfree _ htwice⟩
  rw [hfirst]
  dsimp only
  exact Multiset.mem_cons_of_mem (Multiset.mem_cons_self _ _)

end ProofFlow
