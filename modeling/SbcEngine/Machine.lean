/-
Run-to-completion machines.

A machine reacts to one event at a time; a reaction may fire further events,
which wait in a first-in first-out queue and are processed, one after the
other, before control returns to whoever sent the first event.  Nothing here
depends on what the contexts and the events are.

* `Machine.process` — one event from outside, with the queue drained after it;
* `Machine.drain_queue` — the queue really is empty when `process` returns;
* `Machine.process_induct` — the invariant rule: what every reaction keeps, of
  the context together with the waiting events, `process` keeps;
* `Machine.process_related` — the rule for two machines side by side.

Design notes: termination of the cascade is not left to fuel that may run out.
Every event has a weight and a reaction may only fire events that are lighter
in total than the one it consumed (`Machine.lighter`), so the weight of the
first event is enough fuel.
-/
import Mathlib.Algebra.BigOperators.Group.List.Basic
import Mathlib.Algebra.GroupWithZero.Nat
import Mathlib.Tactic.Common

universe u v

/-- A machine over contexts `C` and events `E`.  `react c e = none` means that
the machine has no transition for `e` in `c`. -/
structure Machine (C : Type u) (E : Type v) where
  /-- The context after the transition and the events it fired, in order. -/
  react : C → E → Option (C × List E)
  weight : E → ℕ
  weight_pos : ∀ e, 0 < weight e
  lighter : ∀ {c e c' fired}, react c e = some (c', fired) →
    (fired.map weight).sum < weight e

namespace Machine

variable {C : Type u} {E : Type v} (M : Machine C E)

/-- Process the waiting events for at most `n` reactions; the flag is cleared
by an event that had no transition. -/
def drain : ℕ → C → List E → Bool → C × Bool × List E
  | 0, c, queue, handled => (c, handled, queue)
  | _ + 1, c, [], handled => (c, handled, [])
  | n + 1, c, e :: queue, handled =>
    match M.react c e with
    | none => drain n c queue false
    | some (c', fired) => drain n c' (queue ++ fired) handled

/-- One event from outside, run to completion.  The flag says whether the
event and every event it led to had a transition. -/
def process (c : C) (e : E) : C × Bool :=
  let r := M.drain (M.weight e) c [e] true
  (r.1, r.2.1)

/-- The total weight of the waiting events is enough fuel to drain them. -/
theorem drain_queue : ∀ (n : ℕ) (c : C) (queue : List E) (handled : Bool),
    (queue.map M.weight).sum ≤ n → (M.drain n c queue handled).2.2 = [] := by
  intro n
  induction n with
  | zero =>
    intro c queue handled h
    rcases queue with _ | ⟨e, queue⟩
    · rfl
    · have hpos := M.weight_pos e
      simp only [List.map_cons, List.sum_cons] at h
      omega
  | succ n ih =>
    intro c queue handled h
    rcases queue with _ | ⟨e, queue⟩
    · rfl
    · have hpos := M.weight_pos e
      simp only [List.map_cons, List.sum_cons] at h
      rw [drain]
      split
      · exact ih _ _ _ (by omega)
      · next c' fired hr =>
        have hl := M.lighter hr
        refine ih _ _ _ ?_
        rw [List.map_append, List.sum_append]
        omega

/-- The invariant rule for a cascade: `I` speaks of the context and of the
events still waiting. -/
theorem drain_induct {I : C → List E → Prop}
    (hskip : ∀ c e queue, I c (e :: queue) → M.react c e = none → I c queue)
    (hreact : ∀ c e queue c' fired, I c (e :: queue) →
      M.react c e = some (c', fired) → I c' (queue ++ fired)) :
    ∀ (n : ℕ) (c : C) (queue : List E) (handled : Bool), I c queue →
      I (M.drain n c queue handled).1 (M.drain n c queue handled).2.2 := by
  intro n
  induction n with
  | zero => exact fun c queue handled h => h
  | succ n ih =>
    intro c queue handled h
    rcases queue with _ | ⟨e, queue⟩
    · exact h
    · rw [drain]
      split
      · next hr => exact ih _ _ _ (hskip c e queue h hr)
      · next c' fired hr => exact ih _ _ _ (hreact c e queue c' fired h hr)

/-- The invariant rule for one event from outside: when `process` returns,
nothing is waiting any more. -/
theorem process_induct {I : C → List E → Prop}
    (hskip : ∀ c e queue, I c (e :: queue) → M.react c e = none → I c queue)
    (hreact : ∀ c e queue c' fired, I c (e :: queue) →
      M.react c e = some (c', fired) → I c' (queue ++ fired))
    {c : C} {e : E} (h : I c [e]) : I (M.process c e).1 [] := by
  have hI := M.drain_induct hskip hreact (M.weight e) c [e] true h
  rwa [M.drain_queue _ _ _ _ (by simp)] at hI

/-- An invariant of the context alone needs to be kept by reactions only. -/
theorem process_keeps {I : C → Prop}
    (hreact : ∀ c e c' fired, I c → M.react c e = some (c', fired) → I c')
    {c : C} {e : E} (h : I c) : I (M.process c e).1 :=
  M.process_induct (I := fun c _ => I c) (fun _ _ _ hc _ => hc)
    (fun c e _ c' fired hc hr => hreact c e c' fired hc hr) h

/-- Without a transition, an event leaves the context alone. -/
theorem process_none {c : C} {e : E} (h : M.react c e = none) :
    M.process c e = (c, false) := by
  obtain ⟨n, hn⟩ : ∃ n, M.weight e = n + 1 := ⟨M.weight e - 1, by have := M.weight_pos e; omega⟩
  rw [process, hn, drain, h]
  cases n <;> rfl

/-! ### Two machines side by side -/

section Related

variable {D : Type u} {M} {N : Machine D E} {R : C → D → Prop} {P : E → Prop}

/-- Two machines react alike to the events `P`: in related contexts they have
a transition or not at once, fire the same events, and these are `P` again. -/
def ReactAlike (M : Machine C E) (N : Machine D E) (R : C → D → Prop) (P : E → Prop) : Prop :=
  ∀ c d e, R c d → P e →
    Option.Rel (fun r s => R r.1 s.1 ∧ r.2 = s.2 ∧ ∀ e' ∈ r.2, P e') (M.react c e) (N.react d e)

theorem drain_related (hreact : M.ReactAlike N R P) :
    ∀ (n : ℕ) (c : C) (d : D) (queue : List E) (handled : Bool), R c d → (∀ e ∈ queue, P e) →
      R (M.drain n c queue handled).1 (N.drain n d queue handled).1 ∧
        (M.drain n c queue handled).2.1 = (N.drain n d queue handled).2.1 := by
  intro n
  induction n with
  | zero => exact fun c d queue handled h _ => ⟨h, rfl⟩
  | succ n ih =>
    intro c d queue handled h hqueue
    rcases queue with _ | ⟨e, queue⟩
    · exact ⟨h, rfl⟩
    · have hrest : ∀ e' ∈ queue, P e' := fun e' he' => hqueue e' (List.mem_cons_of_mem e he')
      have hone := hreact c d e h (hqueue e List.mem_cons_self)
      rw [drain, drain]
      revert hone
      generalize M.react c e = r
      generalize N.react d e = s
      intro hone
      cases hone with
      | none => exact ih c d queue false h hrest
      | @some r s hrs =>
        obtain ⟨hR, hfired, hP⟩ := hrs
        obtain ⟨c', fired⟩ := r
        obtain ⟨d', fired'⟩ := s
        cases hfired
        refine ih c' d' (queue ++ fired) handled hR fun e' he' => ?_
        rcases List.mem_append.mp he' with he' | he'
        · exact hrest e' he'
        · exact hP e' he'

/-- The rule for two machines: when they react alike, one event from outside
takes related contexts to related contexts, and both handled it or neither did. -/
theorem process_related (hreact : M.ReactAlike N R P) (hweight : M.weight = N.weight)
    {c : C} {d : D} {e : E} (h : R c d) (he : P e) :
    R (M.process c e).1 (N.process d e).1 ∧ (M.process c e).2 = (N.process d e).2 := by
  rw [process, process, hweight]
  exact drain_related hreact (N.weight e) c d [e] true h (by simpa using he)

end Related

end Machine
