/-
Advisory locks owned by database sessions.

A lock belongs to the session that took it.  That session can take it again, and has
to give it back as often; to every other session it is taken.  Giving back a lock one
does not hold does nothing.

* `tryLock`, `unlock` — the two statements, with what they return;
* `tryLock_taken`, `tryLock_refused` — what an attempt leaves behind;
* `unlock_own`, `unlock_other` — giving back, by the holder and by anyone else.
-/
import Mathlib.Data.Nat.Notation
import Mathlib.Tactic.Common

universe u

/-- Free, or held by one session, which has taken it `again` more times. -/
inductive SessionLock (S : Type u) where
  | free
  | held (session : S) (again : ℕ)
  deriving DecidableEq, Repr

namespace SessionLock

variable {S : Type u} [DecidableEq S]

def holder : SessionLock S → Option S
  | free => none
  | held session _ => some session

/-- How often the lock has to be given back. -/
def count : SessionLock S → ℕ
  | free => 0
  | held _ again => again + 1

/-- `pg_try_advisory_lock` -/
def tryLock (session : S) : SessionLock S → SessionLock S × Bool
  | free => (held session 0, true)
  | held owner again =>
    if owner = session then (held owner (again + 1), true) else (held owner again, false)

/-- `pg_advisory_unlock` -/
def unlock (session : S) : SessionLock S → SessionLock S × Bool
  | free => (free, false)
  | held owner again =>
    if owner = session then
      match again with
      | 0 => (free, true)
      | again + 1 => (held owner again, true)
    else (held owner again, false)

theorem tryLock_taken {session : S} {l : SessionLock S} (h : (l.tryLock session).2 = true) :
    (l.tryLock session).1.holder = some session ∧ (l.tryLock session).1.count = l.count + 1 ∧
      ∀ owner, l.holder = some owner → owner = session := by
  cases l with
  | free => exact ⟨rfl, rfl, fun _ h => by cases h⟩
  | held owner again =>
    rw [tryLock] at h ⊢
    split_ifs at h ⊢ with howner
    exact ⟨congrArg some howner, rfl, fun _ h => by cases h; exact howner⟩

theorem tryLock_refused {session : S} {l : SessionLock S} (h : (l.tryLock session).2 = false) :
    (l.tryLock session).1 = l := by
  cases l with
  | free => cases h
  | held owner again =>
    rw [tryLock] at h ⊢
    split_ifs at h ⊢
    rfl

/-- The last time the holder gives it back, the lock is free. -/
theorem unlock_own {session : S} {l : SessionLock S} (h : l.holder = some session) :
    (l.unlock session).1.count + 1 = l.count ∧
      (0 < (l.unlock session).1.count → (l.unlock session).1.holder = some session) := by
  cases l with
  | free => cases h
  | held owner again =>
    cases h
    cases again <;> simp [unlock, count, holder]

theorem unlock_other {session : S} {l : SessionLock S} (h : l.holder ≠ some session) :
    (l.unlock session).1 = l := by
  cases l with
  | free => rfl
  | held owner again =>
    have hne : owner ≠ session := fun heq => h (congrArg some heq)
    simp [unlock, hne]

end SessionLock
