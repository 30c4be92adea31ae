import ProofFlow.Kit.Dict
import ProofFlow.Wire

/-!
# The replay ledger

`InMemoryReplayLedger`: two maps, keyed by nonce and by idempotency key, that one atomic operation
checks and extends together.
-/

namespace ProofFlow

open Kit

inductive ReservationStatus where
  | reserved
  | replay
  | idempotencyConflict
  | unavailable
  deriving DecidableEq

/-- The arguments of `reserve_once`. -/
structure Reservation where
  tenantId : Str
  nonce : Str
  idempotencyKey : Str
  intentSha256 : Str
  deriving DecidableEq

namespace Reservation

/-- `nonce_key`. -/
def nonceKey (r : Reservation) : Str × Str := (r.tenantId, r.nonce)

/-- `idempotency`. -/
def idempotency (r : Reservation) : Str × Str := (r.tenantId, r.idempotencyKey)

end Reservation

structure InMemoryReplayLedger where
  capacity : Ranged 1 1000000
  nonces : Dict (Str × Str) Str
  idempotency : Dict (Str × Str) Str

namespace InMemoryReplayLedger

/-- A new ledger. -/
def init (capacity : Ranged 1 1000000) : InMemoryReplayLedger where
  capacity := capacity
  nonces := ∅
  idempotency := ∅

/-- `reserve_once`, the section under the lock. -/
def reserveOnce (l : InMemoryReplayLedger) (r : Reservation) :
    ReservationStatus × InMemoryReplayLedger :=
  if (l.nonces.get r.nonceKey).isSome then (.replay, l)
  else
    match l.idempotency.get r.idempotency with
    | some existing => if existing = r.intentSha256 then (.replay, l) else (.idempotencyConflict, l)
    | none =>
      if l.capacity.val ≤ l.nonces.size then (.unavailable, l)
      else
        (.reserved,
          { l with
            nonces := l.nonces.set r.nonceKey r.intentSha256
            idempotency := l.idempotency.set r.idempotency r.intentSha256 })

/-- What the operation can do: reserve two free keys below the capacity, or change nothing. -/
theorem reserveOnce_cases (l : InMemoryReplayLedger) (r : Reservation) :
    (l.nonces.get r.nonceKey = none ∧ l.idempotency.get r.idempotency = none ∧
        l.nonces.size < l.capacity.val ∧
        l.reserveOnce r = (.reserved,
          { l with
            nonces := l.nonces.set r.nonceKey r.intentSha256
            idempotency := l.idempotency.set r.idempotency r.intentSha256 })) ∨
      ((l.reserveOnce r).1 ≠ .reserved ∧ (l.reserveOnce r).2 = l) := by
  by_cases hn : (l.nonces.get r.nonceKey).isSome
  · exact .inr (by simp [reserveOnce, hn])
  cases hi : l.idempotency.get r.idempotency with
  | some existing =>
    by_cases he : existing = r.intentSha256
    · exact .inr (by simp [reserveOnce, hn, hi, he])
    · exact .inr (by simp [reserveOnce, hn, hi, he])
  | none =>
    by_cases hc : l.capacity.val ≤ l.nonces.size
    · exact .inr (by simp [reserveOnce, hn, hi, hc])
    · exact .inl ⟨by simpa using hn, rfl, not_le.1 hc, by simp [reserveOnce, hn, hi, hc]⟩

/-- A reservation takes two free keys. -/
theorem reserveOnce_of_reserved {l : InMemoryReplayLedger} {r : Reservation}
    (h : (l.reserveOnce r).1 = .reserved) :
    l.nonces.get r.nonceKey = none ∧ l.idempotency.get r.idempotency = none ∧
      (l.reserveOnce r).2 =
        { l with
          nonces := l.nonces.set r.nonceKey r.intentSha256
          idempotency := l.idempotency.set r.idempotency r.intentSha256 } := by
  rcases l.reserveOnce_cases r with ⟨hn, hi, -, heq⟩ | ⟨hs, -⟩
  · exact ⟨hn, hi, by rw [heq]⟩
  · exact absurd h hs

/-- A new ledger has room for any reservation. -/
theorem reserveOnce_init (capacity : Ranged 1 1000000) (r : Reservation) :
    ∃ l, (init capacity).reserveOnce r = (.reserved, l) := by
  have hcapacity : ¬ capacity.val ≤ 0 := Nat.not_le.2 capacity.property.1
  exact ⟨_, by simp [reserveOnce, init, hcapacity]; rfl⟩

/-- The ledger changes exactly when a reservation is made. -/
theorem reserveOnce_changes_iff (l : InMemoryReplayLedger) (r : Reservation) :
    (l.reserveOnce r).2 ≠ l ↔ (l.reserveOnce r).1 = .reserved := by
  rcases l.reserveOnce_cases r with ⟨hn, -, -, h⟩ | ⟨hs, h⟩
  · rw [h]
    refine iff_of_true (fun heq => ?_) rfl
    exact l.nonces.set_ne_self r.intentSha256 hn (congrArg nonces heq)
  · rw [h]
    exact iff_of_false (by simp) hs

/-- No entry is removed or overwritten. -/
theorem reserveOnce_grows (l : InMemoryReplayLedger) (r : Reservation) :
    l.nonces.Grows (l.reserveOnce r).2.nonces ∧
      l.idempotency.Grows (l.reserveOnce r).2.idempotency := by
  rcases l.reserveOnce_cases r with ⟨hn, hi, -, h⟩ | ⟨-, h⟩
  · rw [h]
    exact ⟨l.nonces.grows_set _ hn, l.idempotency.grows_set _ hi⟩
  · rw [h]
    exact ⟨Dict.Grows.refl _, Dict.Grows.refl _⟩

/-- The two maps are in step and within the capacity. -/
structure WellFormed (l : InMemoryReplayLedger) : Prop where
  sizes_eq : l.nonces.size = l.idempotency.size
  size_le : l.nonces.size ≤ l.capacity.val

theorem wellFormed_init (capacity : Ranged 1 1000000) : (init capacity).WellFormed :=
  ⟨rfl, Nat.zero_le _⟩

theorem WellFormed.reserveOnce {l : InMemoryReplayLedger} (h : l.WellFormed) (r : Reservation) :
    (l.reserveOnce r).2.WellFormed := by
  rcases l.reserveOnce_cases r with ⟨hn, hi, hc, heq⟩ | ⟨-, heq⟩
  · rw [heq]
    have hsizes := h.sizes_eq
    refine ⟨?_, ?_⟩
    · simp only [Dict.size_set _ _ hn, Dict.size_set _ _ hi, hsizes]
    · simp only [Dict.size_set _ _ hn]
      omega
  · rw [heq]
    exact h

end InMemoryReplayLedger

end ProofFlow
