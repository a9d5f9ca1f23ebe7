/-
Transactions: statements that can fail, over a copy of the data.

A transaction works on a copy of the data.  Any of its statements can fail, and a
write fails that leaves the data outside a constraint.  What it has written becomes
the data when it comes to its end; after a failure the data is rolled back.

* `Tx` — transactions, with `read`, `write` and `throw`;
* `Spec` — what holds at the end of a transaction, and where it fails;
* `Spec.bind`, `Spec.read_bind`, `Spec.write_bind`, `Spec.throw` — the rules;
* `commit` — what becomes of the data.

Design notes: the data as each write leaves it is kept, so that a postcondition can
speak of the states in between.
-/
import Mathlib.Data.List.Basic

namespace Transactions

variable {D E A B : Type}

/-- What a transaction works with: the data, the number of its statements so far and
the data as each of its writes left it. -/
structure Work (D : Type) where
  data : D
  statements : ℕ
  written : List D

def Tx (D E A : Type) := Work D → Except E A × Work D

namespace Tx

def pure (a : A) : Tx D E A := fun w => (.ok a, w)

def bind (x : Tx D E A) (f : A → Tx D E B) : Tx D E B := fun w =>
  match x w with
  | (.ok a, w) => f a w
  | (.error e, w) => (.error e, w)

end Tx

instance : Monad (Tx D E) where
  pure := Tx.pure
  bind := Tx.bind

/-- Abandon the transaction. -/
def throw (e : E) : Tx D E A := fun w => (.error e, w)

/-- `fails` says which statements fail, by their number. -/
def read (fails : ℕ → Option E) (f : D → A) : Tx D E A := fun w =>
  let next := { w with statements := w.statements + 1 }
  match fails w.statements with
  | some e => (.error e, next)
  | none => (.ok (f w.data), next)

/-- A write, and the constraint that the database checks after it. -/
def write (fails : ℕ → Option E) (constraint : D → Bool) (violation : E) (f : D → A × D) :
    Tx D E A := fun w =>
  match fails w.statements with
  | some e => (.error e, { w with statements := w.statements + 1 })
  | none =>
    let (a, data) := f w.data
    let next : Work D := ⟨data, w.statements + 1, w.written ++ [data]⟩
    if constraint data then (.ok a, next) else (.error violation, next)

/-- What becomes of the data; `rollback` is given the data before the transaction and
the copy it worked on. -/
def commit (rollback : D → D → D) (x : Tx D E A) (d : D) : Except E A × D × List D :=
  match x ⟨d, 0, []⟩ with
  | (.ok a, w) => (.ok a, w.data, w.written)
  | (.error e, w) => (.error e, rollback d w.data, w.written)

/-! ### Specifications -/

/-- From data `d` and writes `l` the transaction ends with `Q`, or fails with `F`. -/
def Spec (d : D) (l : List D) (x : Tx D E A) (Q : A → D → List D → Prop)
    (F : E → D → List D → Prop) : Prop :=
  ∀ n, match x ⟨d, n, l⟩ with
    | (.ok a, w) => Q a w.data w.written
    | (.error e, w) => F e w.data w.written

variable {d : D} {l : List D} {F : E → D → List D → Prop} {fails : ℕ → Option E}

theorem Spec.pure {a : A} {Q : A → D → List D → Prop} (h : Q a d l) :
    Spec d l (Pure.pure a : Tx D E A) Q F :=
  fun _ => h

theorem Spec.throw {e : E} {Q : A → D → List D → Prop} (h : F e d l) :
    Spec d l (throw e : Tx D E A) Q F :=
  fun _ => h

/-- The rule of consequence. -/
theorem Spec.imp {x : Tx D E A} {Q Q' : A → D → List D → Prop} {F' : E → D → List D → Prop}
    (h : Spec d l x Q F) (hQ : ∀ a d l, Q a d l → Q' a d l) (hF : ∀ e d l, F e d l → F' e d l) :
    Spec d l x Q' F' := by
  intro n
  have hx := h n
  rcases hrun : x ⟨d, n, l⟩ with ⟨e | a, w⟩
  · rw [hrun] at hx
    exact hF e w.data w.written hx
  · rw [hrun] at hx
    exact hQ a w.data w.written hx

theorem Spec.bind {x : Tx D E A} {f : A → Tx D E B} {R : A → D → List D → Prop}
    {Q : B → D → List D → Prop} (hx : Spec d l x R F)
    (hf : ∀ a d l, R a d l → Spec d l (f a) Q F) : Spec d l (x >>= f) Q F := by
  intro n
  have hfirst := hx n
  show match Tx.bind x f ⟨d, n, l⟩ with
    | (.ok a, w) => Q a w.data w.written
    | (.error e, w) => F e w.data w.written
  rw [Tx.bind]
  rcases hrun : x ⟨d, n, l⟩ with ⟨_ | a, mid⟩
  · rw [hrun] at hfirst
    exact hfirst
  · rw [hrun] at hfirst
    exact hf a mid.data mid.written hfirst mid.statements

/-- A read at the head of a transaction. -/
theorem Spec.read_bind {f : D → A} {k : A → Tx D E B} {Q : B → D → List D → Prop}
    (hfail : ∀ n e, fails n = some e → F e d l) (hok : Spec d l (k (f d)) Q F) :
    Spec d l (read fails f >>= k) Q F := by
  refine Spec.bind (R := fun a d' l' => a = f d ∧ d' = d ∧ l' = l) (fun n => ?_) ?_
  · rw [read]
    dsimp only
    cases hfails : fails n with
    | none => exact ⟨rfl, rfl, rfl⟩
    | some e => exact hfail n e hfails
  · rintro a d' l' ⟨rfl, rfl, rfl⟩
    exact hok

/-- A write at the head of a transaction. -/
theorem Spec.write_bind {constraint : D → Bool} {violation : E} {f : D → A × D}
    {k : A → Tx D E B} {Q : B → D → List D → Prop} (hfail : ∀ n e, fails n = some e → F e d l)
    (hviolation : constraint (f d).2 = false → F violation (f d).2 (l ++ [(f d).2]))
    (hok : constraint (f d).2 = true → Spec (f d).2 (l ++ [(f d).2]) (k (f d).1) Q F) :
    Spec d l (write fails constraint violation f >>= k) Q F := by
  refine Spec.bind (R := fun a d' l' => constraint (f d).2 = true ∧ a = (f d).1 ∧ d' = (f d).2 ∧
    l' = l ++ [(f d).2]) (fun n => ?_) ?_
  · rw [write]
    dsimp only
    cases hfails : fails n with
    | some e => exact hfail n e hfails
    | none =>
      dsimp only
      cases hkept : constraint (f d).2 with
      | true => exact ⟨rfl, rfl, rfl, rfl⟩
      | false => exact hviolation hkept
  · rintro a d' l' ⟨hkept, rfl, rfl, rfl⟩
    exact hok hkept

/-- What a transaction does to the data, from its specification. -/
theorem Spec.commit {x : Tx D E A} {Q : A → D → List D → Prop} (rollback : D → D → D)
    (h : Spec d [] x Q F) :
    match commit rollback x d with
    | (.ok a, d', l) => Q a d' l
    | (.error e, d', l) => ∃ copy, F e copy l ∧ d' = rollback d copy := by
  have hrun := h 0
  rw [Transactions.commit]
  rcases hx : x ⟨d, 0, []⟩ with ⟨_ | a, w⟩
  · rw [hx] at hrun
    exact ⟨w.data, hrun, rfl⟩
  · rw [hx] at hrun
    exact hrun

end Transactions
