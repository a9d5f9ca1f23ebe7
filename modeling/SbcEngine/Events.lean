/-
Vocabulary shared by the call machines: which side of the B2BUA an event
belongs to, and how an offer/answer exchange can end.
-/
import Mathlib.Data.Int.Notation
import Mathlib.Data.Nat.Notation
import Mathlib.Tactic.Common

namespace SbcEngine

/-- Which side of the B2BUA a piece of per-call state or an event belongs to. -/
inductive Leg where
  | caller
  | callee
  deriving DecidableEq, Repr

/-- The leg on the other side of the call. -/
def other : Leg → Leg
  | .caller => .callee
  | .callee => .caller

@[simp] theorem other_caller : other .caller = .callee := rfl

@[simp] theorem other_callee : other .callee = .caller := rfl

inductive ExchangeOutcome where
  | pending
  | committed
  | rolledBack
  | failed
  deriving DecidableEq, Repr

end SbcEngine
