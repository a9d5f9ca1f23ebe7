/-
Percent escapes in byte strings.

A byte stands for itself or is written as a percent sign and two hexadecimal digits
of either letter case.  Which percent signs start an escape depends on what is read
before them, so the positions of a text are told by reading it from the left.

* `HexDigit` — the digits of a value;
* `Encoding` — a text and any way to write it in which every percent sign is escaped;
* `ReadAt` — the positions at which a byte or an escape is read;
* `WellEscaped` — every percent sign that is read starts an escape;
* `wellEscaped_end`, `wellEscaped_plain`, `wellEscaped_percent` — one step of reading.
-/
import Mathlib.Data.List.Basic
import Mathlib.Data.Nat.Notation

namespace PercentEscapes

def percent : UInt8 := 0x25

/-- The byte is a hexadecimal digit for the value. -/
def HexDigit (d : UInt8) (v : ℕ) : Prop :=
  v < 10 ∧ d.toNat = 0x30 + v ∨ 10 ≤ v ∧ v < 16 ∧ (d.toNat = 0x37 + v ∨ d.toNat = 0x57 + v)

instance (d : UInt8) (v : ℕ) : Decidable (HexDigit d v) := inferInstanceAs (Decidable (_ ∨ _))

/-- The second text writes the first one: every percent sign and any other bytes are
escaped. -/
inductive Encoding : List UInt8 → List UInt8 → Prop
  | nil : Encoding [] []
  | plain {b : UInt8} {s e : List UInt8} (hb : b ≠ percent) (h : Encoding s e) :
      Encoding (b :: s) (b :: e)
  | escaped {b high low : UInt8} {s e : List UInt8} (hhigh : HexDigit high (b.toNat / 16))
      (hlow : HexDigit low (b.toNat % 16)) (h : Encoding s e) :
      Encoding (b :: s) (percent :: high :: low :: e)

/-- Reading on from position `j`, a byte or an escape is read at `i`. -/
inductive ReadAt (text : List UInt8) : ℕ → ℕ → Prop
  | here (j : ℕ) : ReadAt text j j
  | plain {j i : ℕ} {b : UInt8} (hj : text[j]? = some b) (hb : b ≠ percent)
      (h : ReadAt text (j + 1) i) : ReadAt text j i
  | escape {j i : ℕ} (hj : text[j]? = some percent) (h : ReadAt text (j + 3) i) : ReadAt text j i

/-- A percent sign at `i` has two hexadecimal digits behind it, which do not make the
NUL byte. -/
def EscapeAt (text : List UInt8) (i : ℕ) : Prop :=
  ∃ high low vh vl, text[i + 1]? = some high ∧ text[i + 2]? = some low ∧
    HexDigit high vh ∧ HexDigit low vl ∧ ¬ (vh = 0 ∧ vl = 0)

/-- Every percent sign that is not part of an earlier escape starts one, reading from
`j`. -/
def WellEscaped (text : List UInt8) (j : ℕ) : Prop :=
  ∀ i, ReadAt text j i → text[i]? = some percent → EscapeAt text i

/-! ### Reading -/

theorem wellEscaped_end {text : List UInt8} {j : ℕ} (hj : text[j]? = none) :
    WellEscaped text j := by
  intro i hread hi
  cases hread with
  | here => simp [hj] at hi
  | plain h => simp [hj] at h
  | escape h => simp [hj] at h

theorem wellEscaped_plain {text : List UInt8} {j : ℕ} {b : UInt8} (hj : text[j]? = some b)
    (hb : b ≠ percent) : WellEscaped text j ↔ WellEscaped text (j + 1) := by
  refine ⟨fun h i hread => h i (.plain hj hb hread), fun h i hread hi => ?_⟩
  cases hread with
  | here =>
    rw [hj] at hi
    exact absurd (Option.some.inj hi) hb
  | plain _ _ hread => exact h i hread hi
  | escape hj' =>
    rw [hj] at hj'
    exact absurd (Option.some.inj hj') hb

theorem wellEscaped_percent {text : List UInt8} {j : ℕ} (hj : text[j]? = some percent) :
    WellEscaped text j ↔ EscapeAt text j ∧ WellEscaped text (j + 3) := by
  refine ⟨fun h => ⟨h j (.here j) hj, fun i hread => h i (.escape hj hread)⟩, ?_⟩
  rintro ⟨hescape, h⟩ i hread hi
  cases hread with
  | here => exact hescape
  | plain hj' hb _ =>
    rw [hj] at hj'
    exact absurd (Option.some.inj hj').symm hb
  | escape _ hread => exact h i hread hi

end PercentEscapes
