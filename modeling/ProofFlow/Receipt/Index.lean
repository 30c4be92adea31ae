import ProofFlow.Kit.Dict
import ProofFlow.Wire

/-!
# The receipt index

`InMemoryReceiptIndex`: three maps, keyed by receipt, by attempt and by idempotency key, that one
atomic operation checks and extends together.  The first two hold payload digests, the third the
intent that an idempotency key stands for.
-/

namespace ProofFlow

open Kit

inductive ReceiptIndexStatus where
  | appended
  | alreadyPresent
  | receiptIdConflict
  | attemptConflict
  | idempotencyConflict
  | unavailable
  deriving DecidableEq

/-- The arguments of `append_once`. -/
structure ReceiptAppend where
  tenantId : Str
  receiptId : Str
  executionId : Str
  attemptId : Str
  payloadSha256 : Str
  idempotencyKey : Str
  intentSha256 : Str
  deriving DecidableEq

namespace ReceiptAppend

/-- `receipt_key`. -/
def receiptKey (a : ReceiptAppend) : Str × Str := (a.tenantId, a.receiptId)

/-- `attempt_key`. -/
def attemptKey (a : ReceiptAppend) : Str × Str × Str := (a.tenantId, a.executionId, a.attemptId)

/-- `idempotency`. -/
def idempotency (a : ReceiptAppend) : Str × Str := (a.tenantId, a.idempotencyKey)

end ReceiptAppend

/-- The `ReceiptIndex` protocol on states of type `σ`; no status stands for an exception. -/
structure ReceiptIndex (σ : Type) where
  appendOnce : σ → ReceiptAppend → Option ReceiptIndexStatus × σ

structure InMemoryReceiptIndex where
  capacity : Ranged 1 1000000
  receipts : Dict (Str × Str) Str
  attempts : Dict (Str × Str × Str) Str
  idempotency : Dict (Str × Str) Str

namespace InMemoryReceiptIndex

/-- A new index. -/
def init (capacity : Ranged 1 1000000) : InMemoryReceiptIndex where
  capacity := capacity
  receipts := ∅
  attempts := ∅
  idempotency := ∅

/-- The three assignments of `append_once`. -/
def write (x : InMemoryReceiptIndex) (a : ReceiptAppend) : InMemoryReceiptIndex :=
  { x with
    receipts := x.receipts.set a.receiptKey a.payloadSha256
    attempts := x.attempts.set a.attemptKey a.payloadSha256
    idempotency := x.idempotency.set a.idempotency a.intentSha256 }

/-- `append_once`, the section under the lock. -/
def appendOnce (x : InMemoryReceiptIndex) (a : ReceiptAppend) :
    ReceiptIndexStatus × InMemoryReceiptIndex :=
  match x.receipts.get a.receiptKey with
  | some existing =>
    if existing = a.payloadSha256 ∧ x.attempts.get a.attemptKey = some a.payloadSha256 then
      (.alreadyPresent, x)
    else (.receiptIdConflict, x)
  | none =>
    if (x.attempts.get a.attemptKey).isSome then (.attemptConflict, x)
    else if ∃ intent ∈ x.idempotency.get a.idempotency, intent ≠ a.intentSha256 then
      (.idempotencyConflict, x)
    else if x.capacity.val ≤ x.receipts.size then (.unavailable, x)
    else (.appended, x.write a)

/-- The keys of the append are free, its idempotency key stands for no other intent, and there is
room. -/
structure Appendable (x : InMemoryReceiptIndex) (a : ReceiptAppend) : Prop where
  receipt_free : x.receipts.get a.receiptKey = none
  attempt_free : x.attempts.get a.attemptKey = none
  intent_eq : ∀ intent ∈ x.idempotency.get a.idempotency, intent = a.intentSha256
  room : x.receipts.size < x.capacity.val

/-- The index holds exactly this payload for the receipt and for the attempt. -/
def Holds (x : InMemoryReceiptIndex) (a : ReceiptAppend) : Prop :=
  x.receipts.get a.receiptKey = some a.payloadSha256 ∧
    x.attempts.get a.attemptKey = some a.payloadSha256

theorem appendOnce_init (capacity : Ranged 1 1000000) (a : ReceiptAppend) :
    ∃ x, (init capacity).appendOnce a = (.appended, x) := by
  have hcapacity : ¬ capacity.val ≤ 0 := Nat.not_le.2 capacity.property.1
  exact ⟨_, by simp [appendOnce, init, hcapacity]; rfl⟩

/-- What the operation can do: append, find the payload present, or refuse; it writes only when it
appends. -/
theorem appendOnce_cases (x : InMemoryReceiptIndex) (a : ReceiptAppend) :
    (x.Appendable a ∧ x.appendOnce a = (.appended, x.write a)) ∨
      (x.Holds a ∧ x.appendOnce a = (.alreadyPresent, x)) ∨
      (¬ x.Holds a ∧ (x.appendOnce a).1 ≠ .appended ∧ (x.appendOnce a).1 ≠ .alreadyPresent ∧
        (x.appendOnce a).2 = x) := by
  unfold appendOnce Holds
  cases hr : x.receipts.get a.receiptKey with
  | some existing =>
    by_cases hp : existing = a.payloadSha256 ∧ x.attempts.get a.attemptKey = some a.payloadSha256
    · exact .inr (.inl ⟨⟨by rw [hp.1], hp.2⟩, by simp [hp]⟩)
    · exact .inr (.inr ⟨by simpa using hp, by simp [hp]⟩)
  | none =>
    cases ha : x.attempts.get a.attemptKey with
    | some existing => exact .inr (.inr ⟨by simp, by simp⟩)
    | none =>
      by_cases hi : ∃ intent ∈ x.idempotency.get a.idempotency, intent ≠ a.intentSha256
      · exact .inr (.inr ⟨by simp, by simp only [if_pos hi]; simp⟩)
      · by_cases hc : x.capacity.val ≤ x.receipts.size
        · exact .inr (.inr ⟨by simp, by simp only [if_neg hi, if_pos hc]; simp⟩)
        · refine .inl ⟨⟨hr, ha, ?_, not_le.1 hc⟩, by simp only [if_neg hi, if_neg hc]; simp⟩
          intro intent hm
          by_contra hne
          exact hi ⟨intent, hm, hne⟩

/-- Every entry of the three maps is still there. -/
structure Grows (x y : InMemoryReceiptIndex) : Prop where
  receipts : x.receipts.Grows y.receipts
  attempts : x.attempts.Grows y.attempts
  idempotency : x.idempotency.Grows y.idempotency

theorem Grows.refl (x : InMemoryReceiptIndex) : Grows x x :=
  ⟨Dict.Grows.refl _, Dict.Grows.refl _, Dict.Grows.refl _⟩

/-- An append overwrites nothing: an idempotency key that is present keeps its intent. -/
theorem Appendable.grows {x : InMemoryReceiptIndex} {a : ReceiptAppend} (h : x.Appendable a) :
    Grows x (x.write a) where
  receipts := x.receipts.grows_set _ h.receipt_free
  attempts := x.attempts.grows_set _ h.attempt_free
  idempotency := x.idempotency.grows_set_of_eq h.intent_eq

/-- The receipts and the attempts are in step and within the capacity. -/
structure WellFormed (x : InMemoryReceiptIndex) : Prop where
  sizes_eq : x.receipts.size = x.attempts.size
  size_le : x.receipts.size ≤ x.capacity.val

theorem wellFormed_init (capacity : Ranged 1 1000000) : (init capacity).WellFormed :=
  ⟨rfl, Nat.zero_le _⟩

theorem WellFormed.write {x : InMemoryReceiptIndex} {a : ReceiptAppend} (h : x.WellFormed)
    (ha : x.Appendable a) : (x.write a).WellFormed := by
  have hsizes := h.sizes_eq
  have hroom := ha.room
  refine ⟨?_, ?_⟩
  · simp only [InMemoryReceiptIndex.write, Dict.size_set _ _ ha.receipt_free,
      Dict.size_set _ _ ha.attempt_free, hsizes]
  · simp only [InMemoryReceiptIndex.write, Dict.size_set _ _ ha.receipt_free]
    omega

/-- The in-memory index as an implementation of the protocol: it never raises. -/
def protocol : ReceiptIndex InMemoryReceiptIndex where
  appendOnce x a := (some (x.appendOnce a).1, (x.appendOnce a).2)

theorem protocol_appendOnce {x x' : InMemoryReceiptIndex} {a : ReceiptAppend}
    {status : ReceiptIndexStatus} (h : x.appendOnce a = (status, x')) :
    protocol.appendOnce x a = (some status, x') := by
  simp only [protocol, h]

end InMemoryReceiptIndex

end ProofFlow
