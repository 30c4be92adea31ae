import Mathlib.Data.Multiset.AddSub
import Mathlib.Logic.Relation

/-!
# Calls that share one atomic object

A call of the service computes on its own inputs, performs at most one atomic operation on an
object shared by all calls, and computes its result from the answer.  Calls run concurrently: any
number of them are under way, and the atomic operations interleave in any order.  Every step of
such a run either leaves the object alone or settles one call exactly as if that call had run by
itself in the current state (`Reachable.step`), so an invariant of single calls is an invariant of
all interleavings (`Reachable.invariant`).
-/

namespace Kit

/-- A service: the local part of a call, which ends early with a result or asks for one operation,
and the atomic operation. -/
structure Service (C O A R σ : Type) where
  plan : C → Except R (O × (A → R))
  apply : σ → O → A × σ

variable {C O A R σ : Type}

/-- A call that runs by itself. -/
def Service.call (S : Service C O A R σ) (s : σ) (c : C) : R × σ :=
  match S.plan c with
  | .error r => (r, s)
  | .ok (o, k) => (k (S.apply s o).1, (S.apply s o).2)

/-- A moment of a run. -/
structure Config (C O A R σ : Type) where
  shared : σ
  /-- Calls that have been made and are still computing on their own inputs. -/
  entered : Multiset C
  /-- Calls that are about to perform their operation. -/
  waiting : Multiset (C × O × (A → R))
  /-- Calls whose result is determined. -/
  settled : Multiset (C × R)

/-- Nothing has been called yet. -/
def Config.start (s : σ) : Config C O A R σ where
  shared := s
  entered := 0
  waiting := 0
  settled := 0

/-- A step of one of the calls. -/
inductive Step (S : Service C O A R σ) (enters : C → Prop) :
    Config C O A R σ → Config C O A R σ → Prop
  | enter {s e w d} (c : C) (h : enters c) : Step S enters ⟨s, e, w, d⟩ ⟨s, c ::ₘ e, w, d⟩
  | exit {s e w d c r} (h : S.plan c = .error r) :
      Step S enters ⟨s, c ::ₘ e, w, d⟩ ⟨s, e, w, (c, r) ::ₘ d⟩
  | request {s e w d c o k} (h : S.plan c = .ok (o, k)) :
      Step S enters ⟨s, c ::ₘ e, w, d⟩ ⟨s, e, (c, o, k) ::ₘ w, d⟩
  | operate {s e w d} (c : C) (o : O) (k : A → R) :
      Step S enters ⟨s, e, (c, o, k) ::ₘ w, d⟩
        ⟨(S.apply s o).2, e, w, (c, k (S.apply s o).1) ::ₘ d⟩

/-- The moments of the runs that start from `s`. -/
def Reachable (S : Service C O A R σ) (enters : C → Prop) (s : σ) (g : Config C O A R σ) : Prop :=
  Relation.ReflTransGen (Step S enters) (.start s) g

variable {S : Service C O A R σ} {enters : C → Prop} {s₀ : σ} {g g' : Config C O A R σ}

/-- Every call under way was admitted, and the waiting ones ask for what they planned. -/
def Config.Planned (S : Service C O A R σ) (enters : C → Prop) (g : Config C O A R σ) : Prop :=
  (∀ c ∈ g.entered, enters c) ∧ ∀ w ∈ g.waiting, enters w.1 ∧ S.plan w.1 = .ok w.2

theorem Step.planned (h : Step S enters g g') (hg : g.Planned S enters) : g'.Planned S enters := by
  obtain ⟨he, hw⟩ := hg
  cases h with
  | enter c hc => exact ⟨Multiset.forall_mem_cons.2 ⟨hc, he⟩, hw⟩
  | exit hc => exact ⟨(Multiset.forall_mem_cons.1 he).2, hw⟩
  | request hc =>
    obtain ⟨hc', he⟩ := Multiset.forall_mem_cons.1 he
    exact ⟨he, Multiset.forall_mem_cons.2 ⟨⟨hc', hc⟩, hw⟩⟩
  | operate c o k => exact ⟨he, (Multiset.forall_mem_cons.1 hw).2⟩

theorem Reachable.planned (h : Reachable S enters s₀ g) : g.Planned S enters := by
  induction h with
  | refl => exact ⟨by simp [Config.start], by simp [Config.start]⟩
  | tail _ hs ih => exact hs.planned ih

/-- A step settles nothing and leaves the shared object alone, or it settles one call as if that
call ran by itself. -/
theorem Reachable.step (h : Reachable S enters s₀ g) (hs : Step S enters g g') :
    (g'.shared = g.shared ∧ g'.settled = g.settled) ∨
      ∃ c, enters c ∧ g'.shared = (S.call g.shared c).2 ∧
        g'.settled = (c, (S.call g.shared c).1) ::ₘ g.settled := by
  obtain ⟨he, hw⟩ := h.planned
  cases hs with
  | enter c hc => exact .inl ⟨rfl, rfl⟩
  | @exit s e w d c r hc =>
    refine .inr ⟨c, he c (Multiset.mem_cons_self c e), ?_⟩
    simp [Service.call, hc]
  | request hc => exact .inl ⟨rfl, rfl⟩
  | @operate s e w d c o k =>
    obtain ⟨hc, hp⟩ := hw _ (Multiset.mem_cons_self _ w)
    refine .inr ⟨c, hc, ?_⟩
    simp [Service.call, hp]

/-- What every single call preserves holds at every moment of every run. -/
theorem Reachable.invariant {I : σ → Multiset (C × R) → Prop} (init : I s₀ 0)
    (call : ∀ s d c, enters c → I s d → I (S.call s c).2 ((c, (S.call s c).1) ::ₘ d))
    (h : Reachable S enters s₀ g) : I g.shared g.settled := by
  induction h with
  | refl => exact init
  | tail hr hs ih =>
    rcases Reachable.step hr hs with ⟨h₁, h₂⟩ | ⟨c, hc, h₁, h₂⟩
    · rw [h₁, h₂]
      exact ih
    · rw [h₁, h₂]
      exact call _ _ c hc ih

/-- A call may run from its beginning to its end without another in between. -/
theorem Reachable.settle {s : σ} {e : Multiset C} {w : Multiset (C × O × (A → R))}
    {d : Multiset (C × R)} (h : Reachable S enters s₀ ⟨s, e, w, d⟩) {c : C} (hc : enters c) :
    Reachable S enters s₀ ⟨(S.call s c).2, e, w, (c, (S.call s c).1) ::ₘ d⟩ := by
  have hentered := Relation.ReflTransGen.tail h (.enter c hc)
  unfold Service.call
  cases hp : S.plan c with
  | error r => exact hentered.tail (.exit hp)
  | ok ok => exact (hentered.tail (.request hp)).tail (.operate c ok.1 ok.2)

end Kit
