import ProofFlow.Kit.Chain
import ProofFlow.Kit.Dict
import ProofFlow.Kit.Interleaving
import ProofFlow.Wire

/-!
# The outcome closure index

`InMemoryOutcomeClosureIndex`: four maps that one atomic operation checks and extends together.
For every attempt of an execution the recorded closures form a hash chain, whatever is submitted
and in whatever order.
-/

namespace ProofFlow

open Kit

inductive OutcomeIndexStatus where
  | appended
  | alreadyPresent
  | closureIdConflict
  | attemptSequenceConflict
  | previousDigestConflict
  | idempotencyConflict
  | unavailable
  deriving DecidableEq

/-- The arguments of `append_once`. -/
structure ClosureAppend where
  tenantId : Str
  closureId : Str
  executionId : Str
  attemptId : Str
  closureSequence : ℕ
  previousPayloadSha256 : Option Str
  payloadSha256 : Str
  idempotencyKey : Str
  intentSha256 : Str
  deriving DecidableEq

namespace ClosureAppend

/-- `closure_key`. -/
def closureKey (a : ClosureAppend) : Str × Str := (a.tenantId, a.closureId)

/-- `latest_key`. -/
def latestKey (a : ClosureAppend) : Str × Str × Str := (a.tenantId, a.executionId, a.attemptId)

/-- `execution_key`: the latest key and the sequence number. -/
def executionKey (a : ClosureAppend) : (Str × Str × Str) × ℕ := (a.latestKey, a.closureSequence)

/-- `idempotency_keyed`. -/
def idempotencyKeyed (a : ClosureAppend) : Str × Str × ℕ :=
  (a.tenantId, a.idempotencyKey, a.closureSequence)

end ClosureAppend

/-- The `OutcomeClosureIndex` protocol on states of type `σ`; no status stands for an exception. -/
structure OutcomeClosureIndex (σ : Type) where
  appendOnce : σ → ClosureAppend → Option OutcomeIndexStatus × σ

structure InMemoryOutcomeClosureIndex where
  capacity : Ranged 1 1000000
  closures : Dict (Str × Str) Str
  /-- The payload digest and the digest of the previous payload. -/
  executions : Dict ((Str × Str × Str) × ℕ) (Str × Option Str)
  /-- The last sequence number and its payload digest. -/
  latest : Dict (Str × Str × Str) (ℕ × Str)
  /-- The intent and the payload digest. -/
  idempotency : Dict (Str × Str × ℕ) (Str × Str)

namespace InMemoryOutcomeClosureIndex

/-- A new index. -/
def init (capacity : Ranged 1 1000000) : InMemoryOutcomeClosureIndex where
  capacity := capacity
  closures := ∅
  executions := ∅
  latest := ∅
  idempotency := ∅

/-- The four assignments of `append_once`. -/
def write (x : InMemoryOutcomeClosureIndex) (a : ClosureAppend) : InMemoryOutcomeClosureIndex :=
  { x with
    closures := x.closures.set a.closureKey a.payloadSha256
    executions := x.executions.set a.executionKey (a.payloadSha256, a.previousPayloadSha256)
    latest := x.latest.set a.latestKey (a.closureSequence, a.payloadSha256)
    idempotency := x.idempotency.set a.idempotencyKeyed (a.intentSha256, a.payloadSha256) }

/-- The checks of `append_once` on the sequence number and the previous digest. -/
def linkConflict (x : InMemoryOutcomeClosureIndex) (a : ClosureAppend) :
    Option OutcomeIndexStatus :=
  if a.closureSequence = 1 then
    if a.previousPayloadSha256 ≠ none then some .previousDigestConflict else none
  else
    match x.latest.get a.latestKey with
    | none => some .attemptSequenceConflict
    | some latest =>
      if latest.1 + 1 ≠ a.closureSequence then some .attemptSequenceConflict
      else if a.previousPayloadSha256 ≠ some latest.2 then some .previousDigestConflict
      else none

/-- `append_once`, the section under the lock. -/
def appendOnce (x : InMemoryOutcomeClosureIndex) (a : ClosureAppend) :
    OutcomeIndexStatus × InMemoryOutcomeClosureIndex :=
  match x.closures.get a.closureKey with
  | some existing =>
    if existing = a.payloadSha256 ∧
        ∃ execution ∈ x.executions.get a.executionKey, execution.1 = a.payloadSha256 then
      (.alreadyPresent, x)
    else (.closureIdConflict, x)
  | none =>
    if (x.executions.get a.executionKey).isSome then (.attemptSequenceConflict, x)
    else
      match x.idempotency.get a.idempotencyKeyed with
      | some existing =>
        if existing = (a.intentSha256, a.payloadSha256) then (.alreadyPresent, x)
        else (.idempotencyConflict, x)
      | none =>
        match x.linkConflict a with
        | some status => (status, x)
        | none =>
          if x.capacity.val ≤ x.closures.size then (.unavailable, x) else (.appended, x.write a)

/-- The in-memory index as an implementation of the protocol: it never raises. -/
def protocol : OutcomeClosureIndex InMemoryOutcomeClosureIndex where
  appendOnce x a := (some (x.appendOnce a).1, (x.appendOnce a).2)

theorem protocol_appendOnce {x x' : InMemoryOutcomeClosureIndex} {a : ClosureAppend}
    {status : OutcomeIndexStatus} (h : x.appendOnce a = (status, x')) :
    protocol.appendOnce x a = (some status, x') := by
  simp only [protocol, h]

/-- A new index takes the first closure of any attempt. -/
theorem appendOnce_init (capacity : Ranged 1 1000000) {a : ClosureAppend}
    (hsequence : a.closureSequence = 1) (hprevious : a.previousPayloadSha256 = none) :
    ∃ x, (init capacity).appendOnce a = (.appended, x) := by
  have hcapacity : ¬ capacity.val ≤ 0 := Nat.not_le.2 capacity.property.1
  exact ⟨_, by simp [appendOnce, linkConflict, init, hcapacity, hsequence, hprevious]; rfl⟩

/-! ## What one operation can do -/

/-- The keys of the append are free, it links to the chain of its attempt, and there is room. -/
structure Appendable (x : InMemoryOutcomeClosureIndex) (a : ClosureAppend) : Prop where
  closure_free : x.closures.get a.closureKey = none
  execution_free : x.executions.get a.executionKey = none
  idempotency_free : x.idempotency.get a.idempotencyKeyed = none
  links : Links (x.latest.get a.latestKey) a.closureSequence a.previousPayloadSha256
  room : x.closures.size < x.capacity.val

/-- The closure is recorded under its id, its attempt and its number; or both are free and its
idempotency key is taken by the same intent and payload. -/
def Present (x : InMemoryOutcomeClosureIndex) (a : ClosureAppend) : Prop :=
  (x.closures.get a.closureKey = some a.payloadSha256 ∧
      ∃ previous, x.executions.get a.executionKey = some (a.payloadSha256, previous)) ∨
    (x.closures.get a.closureKey = none ∧ x.executions.get a.executionKey = none ∧
      x.idempotency.get a.idempotencyKeyed = some (a.intentSha256, a.payloadSha256))

theorem linkConflict_eq_none {x : InMemoryOutcomeClosureIndex} {a : ClosureAppend} :
    x.linkConflict a = none ↔
      Links (x.latest.get a.latestKey) a.closureSequence a.previousPayloadSha256 := by
  unfold linkConflict Links
  split_ifs with h₁ h₂
  · simpa using h₂
  · simpa using h₂
  · cases hl : x.latest.get a.latestKey with
    | none => simp
    | some latest =>
      by_cases hn : latest.1 + 1 = a.closureSequence
      · by_cases hp : a.previousPayloadSha256 = some latest.2 <;> simp [hn, hp]
      · simp [hn]

/-- No conflict is reported as an append or a presence. -/
theorem linkConflict_ne {x : InMemoryOutcomeClosureIndex} {a : ClosureAppend}
    {status : OutcomeIndexStatus} (h : x.linkConflict a = some status) :
    status ≠ .appended ∧ status ≠ .alreadyPresent := by
  unfold linkConflict at h
  split at h
  · split at h
    · obtain rfl := Option.some.inj h
      simp
    · cases h
  · split at h
    · obtain rfl := Option.some.inj h
      simp
    · split_ifs at h
      · obtain rfl := Option.some.inj h
        simp
      · obtain rfl := Option.some.inj h
        simp

/-- What the operation can do: append, find the closure present, or refuse; it writes only when it
appends. -/
theorem appendOnce_cases (x : InMemoryOutcomeClosureIndex) (a : ClosureAppend) :
    (x.Appendable a ∧ x.appendOnce a = (.appended, x.write a)) ∨
      (x.Present a ∧ x.appendOnce a = (.alreadyPresent, x)) ∨
      (¬ x.Present a ∧ (x.appendOnce a).1 ≠ .appended ∧ (x.appendOnce a).1 ≠ .alreadyPresent ∧
        (x.appendOnce a).2 = x) := by
  unfold appendOnce Present
  cases hc : x.closures.get a.closureKey with
  | some existing =>
    by_cases hp : existing = a.payloadSha256 ∧
        ∃ execution ∈ x.executions.get a.executionKey, execution.1 = a.payloadSha256
    · obtain ⟨rfl, ⟨payload, previous⟩, he, rfl⟩ := hp
      exact .inr (.inl ⟨.inl ⟨rfl, previous, he⟩, if_pos ⟨rfl, _, he, rfl⟩⟩)
    · refine .inr (.inr ⟨?_, by simp [if_neg hp]⟩)
      rintro (⟨heq, previous, he⟩ | ⟨hnone, -⟩)
      · exact hp ⟨Option.some.inj heq, _, he, rfl⟩
      · cases hnone
  | none =>
    cases he : x.executions.get a.executionKey with
    | some execution => exact .inr (.inr ⟨by simp, by simp⟩)
    | none =>
      cases hi : x.idempotency.get a.idempotencyKeyed with
      | some existing =>
        by_cases hp : existing = (a.intentSha256, a.payloadSha256)
        · exact .inr (.inl ⟨.inr ⟨rfl, rfl, by rw [hp]⟩, by simp [hp]⟩)
        · exact .inr (.inr ⟨by simpa using hp, by simp [hp]⟩)
      | none =>
        cases hl : x.linkConflict a with
        | some status =>
          obtain ⟨hna, hnp⟩ := linkConflict_ne hl
          exact .inr (.inr ⟨by simp, by simpa using hna, by simpa using hnp, by simp⟩)
        | none =>
          by_cases hroom : x.capacity.val ≤ x.closures.size
          · exact .inr (.inr ⟨by simp, by simp [hroom]⟩)
          · exact .inl ⟨⟨hc, he, hi, linkConflict_eq_none.1 hl, not_le.1 hroom⟩, by simp [hroom]⟩

/-- Every entry of the maps of closures, executions and intents is still there, and no pointer was
removed. -/
structure Grows (x y : InMemoryOutcomeClosureIndex) : Prop where
  closures : x.closures.Grows y.closures
  executions : x.executions.Grows y.executions
  idempotency : x.idempotency.Grows y.idempotency
  latest : ∀ key, (x.latest.get key).isSome → (y.latest.get key).isSome

theorem Grows.refl (x : InMemoryOutcomeClosureIndex) : Grows x x :=
  ⟨Dict.Grows.refl _, Dict.Grows.refl _, Dict.Grows.refl _, fun _ h => h⟩

theorem Appendable.grows {x : InMemoryOutcomeClosureIndex} {a : ClosureAppend}
    (h : x.Appendable a) : Grows x (x.write a) where
  closures := x.closures.grows_set _ h.closure_free
  executions := x.executions.grows_set _ h.execution_free
  idempotency := x.idempotency.grows_set _ h.idempotency_free
  latest key hkey := by
    simp only [write, Dict.get_set]
    split_ifs
    · rfl
    · exact hkey

/-- The operation changes the index only by appending. -/
theorem grows_appendOnce (x : InMemoryOutcomeClosureIndex) (a : ClosureAppend) :
    Grows x (x.appendOnce a).2 := by
  rcases x.appendOnce_cases a with ⟨ha, heq⟩ | ⟨-, heq⟩ | ⟨-, -, -, heq⟩
  · rw [heq]
    exact ha.grows
  · rw [heq]
    exact Grows.refl x
  · rw [heq]
    exact Grows.refl x

theorem appendOnce_unchanged {x : InMemoryOutcomeClosureIndex} {a : ClosureAppend}
    (h : (x.appendOnce a).1 ≠ .appended) : (x.appendOnce a).2 = x := by
  rcases x.appendOnce_cases a with ⟨-, heq⟩ | ⟨-, heq⟩ | ⟨-, -, -, heq⟩
  · exact absurd (by rw [heq]) h
  · rw [heq]
  · exact heq

/-! ## The chain -/

/-- The entries recorded for an attempt, by number. -/
def entries (x : InMemoryOutcomeClosureIndex) (key : Str × Str × Str) (i : ℕ) :
    Option (Str × Option Str) :=
  x.executions.get (key, i)

/-- Every attempt's closures form a hash chain, and the maps are in step and within the capacity. -/
structure HashChained (x : InMemoryOutcomeClosureIndex) : Prop where
  chain : ∀ key, ∃ n, Chain (x.entries key) (x.latest.get key) n
  sizes_eq : x.closures.size = x.executions.size
  size_le : x.closures.size ≤ x.capacity.val

theorem hashChained_init (capacity : Ranged 1 1000000) : (init capacity).HashChained where
  chain key := ⟨0, by
    have hentries : (init capacity).entries key = fun _ => none := by
      funext i
      exact Dict.get_empty _
    have hlatest : (init capacity).latest.get key = none := Dict.get_empty _
    rw [hentries, hlatest]
    exact Chain.empty⟩
  sizes_eq := rfl
  size_le := Nat.zero_le _

/-- An append adds one entry to the chain of its attempt. -/
theorem entries_write_self (x : InMemoryOutcomeClosureIndex) (a : ClosureAppend) :
    (x.write a).entries a.latestKey = Function.update (x.entries a.latestKey) a.closureSequence
      (some (a.payloadSha256, a.previousPayloadSha256)) := by
  funext i
  simp only [entries, write, Dict.get_set, ClosureAppend.executionKey, Function.update_apply,
    Prod.mk.injEq, true_and]

theorem entries_write_of_ne (x : InMemoryOutcomeClosureIndex) (a : ClosureAppend)
    {key : Str × Str × Str} (h : key ≠ a.latestKey) : (x.write a).entries key = x.entries key := by
  funext i
  simp [entries, write, Dict.get_set, ClosureAppend.executionKey, h]

theorem HashChained.write {x : InMemoryOutcomeClosureIndex} {a : ClosureAppend}
    (h : x.HashChained) (ha : x.Appendable a) : (x.write a).HashChained where
  chain key := by
    by_cases hk : key = a.latestKey
    · subst hk
      obtain ⟨n, hn⟩ := h.chain a.latestKey
      obtain ⟨hnumber, hprevious⟩ := hn.eq_of_links ha.links ha.execution_free
      have hlatest : (x.write a).latest.get a.latestKey = some (n + 1, a.payloadSha256) := by
        rw [← hnumber]
        exact Dict.get_set_self _ _ _
      refine ⟨n + 1, ?_⟩
      rw [entries_write_self, hlatest, hprevious, hnumber]
      exact hn.extend a.payloadSha256
    · obtain ⟨n, hn⟩ := h.chain key
      refine ⟨n, ?_⟩
      rw [entries_write_of_ne x a hk, InMemoryOutcomeClosureIndex.write, Dict.get_set_ne _ _ hk]
      exact hn
  sizes_eq := by
    simp only [InMemoryOutcomeClosureIndex.write, Dict.size_set _ _ ha.closure_free,
      Dict.size_set _ _ ha.execution_free, h.sizes_eq]
  size_le := by
    have hroom := ha.room
    simp only [InMemoryOutcomeClosureIndex.write, Dict.size_set _ _ ha.closure_free]
    omega

/-- Every operation keeps the chains. -/
theorem HashChained.appendOnce {x : InMemoryOutcomeClosureIndex} (h : x.HashChained)
    (a : ClosureAppend) : (x.appendOnce a).2.HashChained := by
  rcases x.appendOnce_cases a with ⟨ha, heq⟩ | ⟨-, heq⟩ | ⟨-, -, -, heq⟩
  · rw [heq]
    exact h.write ha
  · rw [heq]
    exact h
  · rw [heq]
    exact h

end InMemoryOutcomeClosureIndex

end ProofFlow
