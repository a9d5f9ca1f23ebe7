/-
The outbound queue of the control-plane client: a bounded FIFO of serialized
messages, one in flight at a time.

The front message stays in the queue while it is in flight; `complete` removes
it once the backend acknowledged it and `abort` keeps it for a resend.  The
structure carries the fact that makes `complete` safe: a message in flight is
in the queue.

* `kept` — the messages that are not best effort, which must not be lost;
* `purgeBestEffort_kept` — purging leaves them alone, order included.
-/
import Mathlib.Data.List.Basic
import Mathlib.Data.Nat.Notation

namespace SbcEngine

structure Message where
  payload : String
  bestEffort : Bool
  deriving DecidableEq, Repr

structure OutboundQueue where
  maxSize : ℕ
  messages : List Message
  inFlight : Bool
  /-- A message in flight is the front of the queue. -/
  front : inFlight = true → messages ≠ []

namespace OutboundQueue

def new (maxSize : ℕ) : OutboundQueue where
  maxSize := maxSize
  messages := []
  inFlight := false
  front := by simp

def empty (q : OutboundQueue) : Bool := q.messages.isEmpty

/-- `none` when the queue is full. -/
def push (q : OutboundQueue) (m : Message) : Option OutboundQueue :=
  if q.maxSize ≤ q.messages.length then none
  else some { q with messages := q.messages ++ [m], front := by simp }

/-- Mark the front as in flight and return it; nothing when the queue is empty
or a message is already in flight. -/
def startNext (q : OutboundQueue) : Option (Message × OutboundQueue) :=
  if q.inFlight then none
  else match q.messages with
    | [] => none
    | m :: rest => some (m, { q with messages := m :: rest, inFlight := true, front := by simp })

/-- The in-flight message was acknowledged: remove it. -/
def complete (q : OutboundQueue) : OutboundQueue :=
  if q.inFlight then { q with messages := q.messages.tail, inFlight := false, front := by simp }
  else q

/-- The connection failed before the acknowledgement: keep the message. -/
def abort (q : OutboundQueue) : OutboundQueue := { q with inFlight := false, front := by simp }

/-- Drop every best-effort message except one already in flight. -/
def purgeBestEffort (q : OutboundQueue) : OutboundQueue where
  maxSize := q.maxSize
  messages :=
    if q.inFlight then q.messages.take 1 ++ (q.messages.drop 1).filter (!·.bestEffort)
    else q.messages.filter (!·.bestEffort)
  inFlight := q.inFlight
  front := by
    intro h
    have hne := q.front h
    rw [if_pos h]
    rcases hm : q.messages with _ | ⟨m, rest⟩
    · exact absurd hm hne
    · simp

/-! ### The messages that must not be lost -/

/-- The messages that are not best effort, in order. -/
def kept (ms : List Message) : List Message := ms.filter (!·.bestEffort)

@[simp] theorem kept_nil : kept [] = [] := rfl

@[simp] theorem kept_append (l m : List Message) : kept (l ++ m) = kept l ++ kept m :=
  List.filter_append ..

@[simp] theorem kept_kept (l : List Message) : kept (kept l) = kept l := by simp [kept]

theorem kept_cons (m : Message) (l : List Message) :
    kept (m :: l) = if m.bestEffort then kept l else m :: kept l := by
  cases h : m.bestEffort <;> simp [kept, h]

theorem push_messages {q q' : OutboundQueue} {m : Message} (h : q.push m = some q') :
    q'.messages = q.messages ++ [m] ∧ q'.inFlight = q.inFlight := by
  rw [push] at h
  split_ifs at h
  cases h
  exact ⟨rfl, rfl⟩

theorem startNext_messages {q q' : OutboundQueue} {m : Message}
    (h : q.startNext = some (m, q')) :
    q.inFlight = false ∧ q'.messages = q.messages ∧ q'.inFlight = true ∧
      ∃ rest, q.messages = m :: rest := by
  rw [startNext] at h
  split_ifs at h with hf
  split at h
  · exact absurd h (by simp)
  · next m' rest hm =>
    cases h
    exact ⟨by simpa using hf, hm.symm, rfl, rest, hm⟩

theorem startNext_none {q : OutboundQueue} (h : q.startNext = none) :
    q.inFlight = true ∨ q.messages = [] := by
  rw [startNext] at h
  split_ifs at h with hf
  · exact .inl hf
  · split at h
    · next hm => exact .inr hm
    · exact absurd h (by simp)

@[simp] theorem complete_inFlight (q : OutboundQueue) : q.complete.inFlight = false := by
  rw [complete]
  split_ifs with h
  · rfl
  · simpa using h

theorem complete_messages {q : OutboundQueue} (h : q.inFlight = true) :
    q.complete.messages = q.messages.tail := by
  simp [complete, h]

@[simp] theorem abort_inFlight (q : OutboundQueue) : q.abort.inFlight = false := rfl

@[simp] theorem abort_messages (q : OutboundQueue) : q.abort.messages = q.messages := rfl

@[simp] theorem purgeBestEffort_inFlight (q : OutboundQueue) :
    q.purgeBestEffort.inFlight = q.inFlight := rfl

/-- Purging loses no message that must be kept. -/
theorem purgeBestEffort_kept (q : OutboundQueue) :
    kept q.purgeBestEffort.messages = kept q.messages := by
  rw [purgeBestEffort]
  split_ifs
  · change kept (_ ++ kept _) = _
    rw [kept_append, kept_kept, ← kept_append, List.take_append_drop]
  · exact kept_kept _

/-- Purging keeps a front that is not best effort where it is. -/
theorem purgeBestEffort_front {q : OutboundQueue} {m : Message} {rest : List Message}
    (h : q.messages = m :: rest) (hm : m.bestEffort = false) :
    ∃ rest', q.purgeBestEffort.messages = m :: rest' := by
  simp only [purgeBestEffort, h]
  split_ifs <;> simp [hm]

end OutboundQueue

end SbcEngine
