/-
The states of a run, and the moments of a log.

A log that grows along a run is read with a delay.  What was read last was the newest
entry at some moment of the run.

* `exists_states` — the states a run goes through;
* `exists_moments` — the moments, and that they do not go back.
-/
import SbcEngine.Runs
import Mathlib.Data.Nat.Find
import Mathlib.Order.Monotone.Defs
import Mathlib.Order.Nat

universe u v

namespace Runs

variable {S : Type u} {I : Type v} (step : S → I → Option S)

/-- The states a run goes through, by the number of inputs before them; the last one is
kept after the end. -/
theorem exists_states {is : List I} {s s' : S} (hrun : run step s is = some s') :
    ∃ states : ℕ → S, states 0 = s ∧ (∀ k, run step s (is.take k) = some (states k)) ∧
      ∀ k, states (k + 1) = states k ∨
        ∃ i, is[k]? = some i ∧ step (states k) i = some (states (k + 1)) := by
  induction is generalizing s with
  | nil =>
    refine ⟨fun _ => s, rfl, fun k => ?_, fun _ => .inl rfl⟩
    rw [List.take_nil]
    rfl
  | cons i is ih =>
    obtain ⟨mid, hmid, hrest⟩ := Option.bind_eq_some_iff.mp hrun
    obtain ⟨states, hstart, hstates, hsteps⟩ := ih hrest
    refine ⟨fun k => k.casesOn s states, rfl, fun k => ?_, fun k => ?_⟩
    · cases k with
      | zero => rfl
      | succ k =>
        rw [List.take_succ_cons, run, hmid]
        exact hstates k
    · cases k with
      | zero =>
        exact .inr ⟨i, rfl, hmid.trans (congrArg some hstart.symm)⟩
      | succ k => exact hsteps k

/-- A log that only grows. -/
theorem prefix_of_le {A : Type u} {log : ℕ → List A} (hextends : ∀ k, log k <+: log (k + 1)) {j k : ℕ}
    (hle : j ≤ k) : log j <+: log k := by
  induction k, hle using Nat.le_induction with
  | base => exact List.prefix_refl _
  | succ k _ ih => exact ih.trans (hextends k)

/-- If a log of length one at first grows by at most one entry at a time, and what is
seen of it does not go back, there is a moment at which what is seen was its last
entry, and these moments do not go back. -/
theorem exists_moments {A : Type u} (log : ℕ → List A) (seen : ℕ → ℕ) (hstart : (log 0).length = 1)
    (hextends : ∀ k, log k <+: log (k + 1)) (hgrows : ∀ k, (log (k + 1)).length ≤ (log k).length + 1)
    (hseen : ∀ k, seen k < (log k).length) (hmono : Monotone seen) :
    ∃ m : ℕ → ℕ, Monotone m ∧ ∀ k, m k ≤ k ∧ (log (m k)).getLast? = (log k)[seen k]? := by
  have hexists : ∀ k, ∃ j, seen k < (log j).length := fun k => ⟨k, hseen k⟩
  refine ⟨fun k => Nat.find (hexists k), fun k k' hle => ?_, fun k => ?_⟩
  · exact Nat.find_min' _ ((hmono hle).trans_lt (Nat.find_spec (hexists k')))
  have hle : Nat.find (hexists k) ≤ k := Nat.find_min' _ (hseen k)
  have hspec := Nat.find_spec (hexists k)
  have hlength : (log (Nat.find (hexists k))).length = seen k + 1 := by
    cases hfind : Nat.find (hexists k) with
    | zero =>
      rw [hfind] at hspec
      omega
    | succ j =>
      -- one step before, the entry was not there yet
      have hbefore := Nat.find_min (hexists k) (m := j) (by omega)
      have hone := hgrows j
      rw [hfind] at hspec
      omega
  refine ⟨hle, ?_⟩
  dsimp only
  rw [List.getLast?_eq_getElem?, hlength, Nat.add_sub_cancel, List.getElem?_eq_getElem hspec,
    List.prefix_iff_getElem?.mp (prefix_of_le hextends hle) _ hspec]

end Runs
