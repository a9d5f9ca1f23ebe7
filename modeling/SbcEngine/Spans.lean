/-
Checked views of buffers, and loops over their frames.

A view that leaves its buffer, or a division by zero, is a fault.  A loop takes its
input and its output frame by frame, with frames of two different sizes.

* `subspan`, `overwrite` — a view, and a write through one;
* `Yields` — a computation has no fault, and its result meets a condition;
* `convertFrames` — the loop;
* `convertFrames_yields` — with room for all frames it has no fault and leaves the
  lengths alone, and a function that converts every frame converts them all.
-/
import Mathlib.Data.List.Basic
import Mathlib.Data.Nat.Notation

universe u

namespace Spans

inductive Fault where
  | outOfBounds
  | divisionByZero
  deriving DecidableEq, Repr

variable {α β S : Type u}

/-- `count` elements from `offset` on. -/
def subspan (buffer : List α) (offset count : ℕ) : Except Fault (List α) :=
  if offset + count ≤ buffer.length then .ok ((buffer.drop offset).take count)
  else .error .outOfBounds

/-- The elements from `offset` on are replaced. -/
def overwrite (buffer : List α) (offset : ℕ) (written : List α) : List α :=
  buffer.take offset ++ written ++ buffer.drop (offset + written.length)

theorem overwrite_length {buffer : List α} {offset : ℕ} {written : List α}
    (h : offset + written.length ≤ buffer.length) :
    (overwrite buffer offset written).length = buffer.length := by
  rw [overwrite, List.length_append, List.length_append, List.length_take, List.length_drop]
  omega

/-! ### Faults -/

/-- There is no fault, and the result meets the condition. -/
def Yields (x : Except Fault α) (P : α → Prop) : Prop := ∃ a, x = .ok a ∧ P a

theorem Yields.pure {P : α → Prop} {a : α} (h : P a) : Yields (pure a) P := ⟨a, rfl, h⟩

theorem Yields.bind {P : α → Prop} {Q : β → Prop} {x : Except Fault α} {f : α → Except Fault β}
    (hx : Yields x P) (hf : ∀ a, P a → Yields (f a) Q) : Yields (x >>= f) Q := by
  obtain ⟨a, rfl, ha⟩ := hx
  exact hf a ha

theorem Yields.mono {P Q : α → Prop} {x : Except Fault α} (hx : Yields x P)
    (h : ∀ a, P a → Q a) : Yields x Q := by
  obtain ⟨a, rfl, ha⟩ := hx
  exact ⟨a, rfl, h a ha⟩

theorem subspan_yields {buffer : List α} {offset count : ℕ} (h : offset + count ≤ buffer.length) :
    Yields (subspan buffer offset count) fun view => view.length = count := by
  refine ⟨(buffer.drop offset).take count, if_pos h, ?_⟩
  show ((buffer.drop offset).take count).length = count
  rw [List.length_take, List.length_drop]
  omega

/-! ### Frames -/

/-- `n` frames of `input` from the `i`-th on are converted into frames of `output`.  The
function is given a frame and the room for its result; a result of another size, like
none, ends the loop. -/
def convertFrames (f : S → List α → ℕ → S × Option (List α)) (inSize outSize : ℕ)
    (input : List α) : ℕ → ℕ → S → List α → Except Fault (S × List α × Bool)
  | 0, _, s, output => pure (s, output, true)
  | n + 1, i, s, output => do
    let _ ← subspan output (i * outSize) outSize
    let frame ← subspan input (i * inSize) inSize
    match f s frame outSize with
    | (s, none) => pure (s, output, false)
    | (s, some written) =>
      let output := overwrite output (i * outSize) (written.take outSize)
      if written.length = outSize then convertFrames f inSize outSize input n (i + 1) s output
      else pure (s, output, false)

/-- In each of some states the function makes a whole frame of a whole frame, and stays
in them. -/
def Converting (f : S → List α → ℕ → S × Option (List α)) (inSize outSize : ℕ)
    (states : S → Prop) : Prop :=
  ∀ s frame, states s → frame.length = inSize →
    ∃ s' written, f s frame outSize = (s', some written) ∧ states s' ∧ written.length = outSize

theorem convertFrames_yields {f : S → List α → ℕ → S × Option (List α)} {inSize outSize : ℕ}
    {input : List α} {n i : ℕ} {s : S} {output : List α}
    (hin : (i + n) * inSize ≤ input.length) (hout : (i + n) * outSize ≤ output.length) :
    Yields (convertFrames f inSize outSize input n i s output) fun r =>
      r.2.1.length = output.length ∧
        ∀ states, Converting f inSize outSize states → states s → states r.1 ∧ r.2.2 = true := by
  induction n generalizing i s output with
  | zero => exact Yields.pure ⟨rfl, fun _ _ hs => ⟨hs, rfl⟩⟩
  | succ n ih =>
    -- frame `i` ends where frame `i + 1` starts
    have hlast : ∀ size, i * size + size ≤ (i + (n + 1)) * size := by
      intro size
      rw [← Nat.succ_mul]
      exact Nat.mul_le_mul_right size (by omega)
    rw [convertFrames]
    refine Yields.bind (subspan_yields (Nat.le_trans (hlast outSize) hout)) fun _ _ => ?_
    refine Yields.bind (subspan_yields (Nat.le_trans (hlast inSize) hin)) fun frame hframe => ?_
    have hlen : ∀ written : List α,
        (overwrite output (i * outSize) (written.take outSize)).length = output.length := by
      intro written
      have hroom := Nat.le_trans (hlast outSize) hout
      have htake := List.length_take_le outSize written
      exact overwrite_length (by omega)
    rcases hf : f s frame outSize with ⟨s', _ | written⟩
    · refine Yields.pure ⟨rfl, fun states hconverting hs => ?_⟩
      obtain ⟨_, _, hsome, -⟩ := hconverting s frame hs hframe
      rw [hf] at hsome
      cases hsome
    · simp only
      split_ifs with hwhole
      · refine (ih ?_ ?_).mono fun r hr =>
          ⟨hr.1.trans (hlen _), fun states hconverting hs => hr.2 states hconverting ?_⟩
        · rwa [show i + 1 + n = i + (n + 1) by omega]
        · rwa [hlen, show i + 1 + n = i + (n + 1) by omega]
        · obtain ⟨_, _, hsome, hs', -⟩ := hconverting s frame hs hframe
          rw [hf] at hsome
          cases hsome
          exact hs'
      · refine Yields.pure ⟨hlen _, fun states hconverting hs => ?_⟩
        obtain ⟨_, _, hsome, -, hlength⟩ := hconverting s frame hs hframe
        rw [hf] at hsome
        cases hsome
        exact absurd hlength hwhole

end Spans
