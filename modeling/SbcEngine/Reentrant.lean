/-
Machines that are interrupted while they act.

An action of such a machine hands control to its surroundings, and these may
send it a signal before the action returns.  The signal is handled on the spot
and may feed the machine another event, which then finds the first one half
processed.  Nothing here depends on what the contexts, the events and the
signals are.

* `process` — one event: its action, then the queue of waiting events, each of
  which is taken off only after it was dispatched;
* `interrupt` — a signal, when at most `n` more can arrive inside it;
* `drain_keeps`, `process_keeps` — the invariant rules for one event;
* `process_queue` — when the queue is empty after an event;
* `interrupt_induct` — what handling a signal keeps, if the signals inside it
  do, every signal keeps.

Design notes: the machine's state and its queue are parts of the context, so an
inner event changes them under the feet of the outer one.  What taking off from
an empty queue does is up to the context (`pop`).
-/
import Mathlib.Data.Nat.Notation
import Mathlib.Tactic.Common

universe u v w

/-- A machine over contexts `W` that reacts to events `E` and is interrupted by
signals `S`. -/
structure ReentrantMachine (W : Type u) (E : Type v) (S : Type w) where
  queue : W → List E
  /-- Take the first event off the queue. -/
  pop : W → W
  /-- React to an event; signals that arrive meanwhile go to the first argument. -/
  dispatch : (S → W → W) → E → W → W × Bool
  /-- React to a signal, given how inner signals and inner events are treated. -/
  handle : (S → W → W) → (E → W → W × Bool) → S → W → W

namespace ReentrantMachine

variable {W : Type u} {E : Type v} {S : Type w} (M : ReentrantMachine W E S)

/-- Serve the queue for at most `n` rounds; the flag is cleared by an event
without a transition. -/
def drain (sig : S → W → W) : ℕ → W → Bool → W × Bool
  | 0, x, handled => (x, handled)
  | n + 1, x, handled =>
    match M.queue x with
    | [] => (x, handled)
    | e :: _ =>
      let r := M.dispatch sig e x
      drain sig n (M.pop r.1) (handled && r.2)

/-- One event, then whatever waits in the queue. -/
def process (sig : S → W → W) (e : E) (x : W) : W × Bool :=
  let r := M.dispatch sig e x
  M.drain sig (M.queue r.1).length r.1 r.2

/-- A signal, with at most `n` signals nested in it; deeper ones are ignored. -/
def interrupt : ℕ → S → W → W
  | 0, _, x => x
  | n + 1, s, x => M.handle (interrupt n) (M.process (interrupt n)) s x

/-! ### Invariants -/

/-- Serving one event keeps `I`, so serving the queue does. -/
theorem drain_keeps {sig : S → W → W} {I : W → Prop}
    (hserve : ∀ x e q, M.queue x = e :: q → I x → I (M.pop (M.dispatch sig e x).1)) :
    ∀ (n : ℕ) (x : W) (handled : Bool), I x → I (M.drain sig n x handled).1 := by
  intro n
  induction n with
  | zero => exact fun x handled h => h
  | succ n ih =>
    intro x handled h
    rw [drain]
    split
    · exact h
    · next e q hq => exact ih _ _ (hserve x e q hq h)

/-- What holds after the first dispatch and is kept by serving the queue holds
when `process` returns. -/
theorem process_keeps {sig : S → W → W} {I : W → Prop}
    (hserve : ∀ x e q, M.queue x = e :: q → I x → I (M.pop (M.dispatch sig e x).1))
    {e : E} {x : W} (h : I (M.dispatch sig e x).1) : I (M.process sig e x).1 :=
  M.drain_keeps hserve _ _ _ h

/-- The induction rule over nested signals, for properties `P` of a treatment of
signals. -/
theorem interrupt_induct {P : (S → W → W) → Prop} (hzero : P fun _ x => x)
    (hstep : ∀ sig, P sig → P (M.handle sig (M.process sig))) (n : ℕ) : P (M.interrupt n) := by
  induction n with
  | zero => exact hzero
  | succ n ih => exact hstep _ ih

/-! ### The end of the queue -/

theorem process_of_nil {sig : S → W → W} {e : E} {x : W}
    (h : M.queue (M.dispatch sig e x).1 = []) : M.process sig e x = M.dispatch sig e x := by
  rw [process, h]
  rfl

/-- An event whose action fires one other. -/
theorem process_of_singleton {sig : S → W → W} {e e' : E} {x : W}
    (h : M.queue (M.dispatch sig e x).1 = [e']) :
    (M.process sig e x).1 = M.pop (M.dispatch sig e' (M.dispatch sig e x).1).1 := by
  rw [process, h, List.length_singleton, drain, h]
  rfl

/-- If serving an event fires nothing, or an event inside it has emptied the
queue, then the queue is empty when it has been served. -/
theorem drain_queue {sig : S → W → W} {I : W → Prop}
    (hserve : ∀ x e q, M.queue x = e :: q → I x → I (M.pop (M.dispatch sig e x).1))
    (hlight : ∀ x e q, M.queue x = e :: q → I x →
      M.queue (M.dispatch sig e x).1 = M.queue x ∨ M.queue (M.dispatch sig e x).1 = [])
    (hpop : ∀ x, M.queue (M.pop x) = (M.queue x).tail) :
    ∀ (n : ℕ) (x : W) (handled : Bool), I x → (M.queue x).length ≤ n →
      M.queue (M.drain sig n x handled).1 = [] := by
  intro n
  induction n with
  | zero =>
    intro x handled _ hlen
    exact List.length_eq_zero_iff.mp (Nat.le_zero.mp hlen)
  | succ n ih =>
    intro x handled hx hlen
    rw [drain]
    split
    · next hnil => exact hnil
    · next e q hcons =>
      rw [hcons, List.length_cons] at hlen
      refine ih _ _ (hserve x e q hcons hx) ?_
      rw [hpop]
      rcases hlight x e q hcons hx with hsame | hempty
      · rw [hsame, hcons, List.tail_cons]
        omega
      · rw [hempty]
        exact Nat.zero_le n

/-- The same for a whole event. -/
theorem process_queue {sig : S → W → W} {I : W → Prop}
    (hserve : ∀ x e q, M.queue x = e :: q → I x → I (M.pop (M.dispatch sig e x).1))
    (hlight : ∀ x e q, M.queue x = e :: q → I x →
      M.queue (M.dispatch sig e x).1 = M.queue x ∨ M.queue (M.dispatch sig e x).1 = [])
    (hpop : ∀ x, M.queue (M.pop x) = (M.queue x).tail) {e : E} {x : W}
    (h : I (M.dispatch sig e x).1) : M.queue (M.process sig e x).1 = [] :=
  M.drain_queue hserve hlight hpop _ _ _ h (Nat.le_refl _)

end ReentrantMachine
