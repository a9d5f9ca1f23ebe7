/-
The Replaces parameter of a transfer target.

A Refer-To names the dialog to replace in a header parameter of its URI, with the
characters a URI cannot hold as percent escapes.

* `percentDecode` — `percent_decode`, by the position in the text;
* `percentDecodeFrom_isSome` — it succeeds when every percent sign it reads starts an
  escape of a byte that is not NUL;
* `percentDecodeFrom_encoding` — it reads any encoding of a text back;
* `percentDecode_exact` — both, over all byte strings.

Design notes: a byte of 128 or more is a negative `char` in the source and no digit
either way.
-/
import Mathlib.Tactic.Common
import SbcEngine.PercentEscapes

namespace SbcEngine

namespace ReferHandler

open PercentEscapes

/-- `none` is the source's -1. -/
def hexValue (digit : UInt8) : Option ℕ :=
  if 0x30 ≤ digit.toNat ∧ digit.toNat ≤ 0x39 then some (digit.toNat - 0x30)
  else if 0x41 ≤ digit.toNat ∧ digit.toNat ≤ 0x46 then some (digit.toNat - 0x41 + 10)
  else if 0x61 ≤ digit.toNat ∧ digit.toNat ≤ 0x66 then some (digit.toNat - 0x61 + 10)
  else none

/-- The loop of `percent_decode` from a position on. -/
def percentDecodeFrom (value : List UInt8) (index : ℕ) (decoded : List UInt8) :
    Option (List UInt8) :=
  if h : index < value.length then
    if value[index] ≠ percent then percentDecodeFrom value (index + 1) (decoded ++ [value[index]])
    else if hend : value.length ≤ index + 2 then none
    else
      match hexValue value[index + 1], hexValue value[index + 2] with
      | some high, some low =>
        let decodedChar := UInt8.ofNat (high <<< 4 ||| low)
        if decodedChar = 0 then none
        else percentDecodeFrom value (index + 3) (decoded ++ [decodedChar])
      | _, _ => none
  else some decoded
termination_by value.length - index

def percentDecode (value : List UInt8) : Option (List UInt8) := percentDecodeFrom value 0 []

/-! ### Digits -/

theorem hexValue_eq_some {d : UInt8} {v : ℕ} : hexValue d = some v ↔ HexDigit d v := by
  rw [hexValue, HexDigit]
  split_ifs with h0 h1 h2
  · rw [Option.some.injEq]
    omega
  · rw [Option.some.injEq]
    omega
  · rw [Option.some.injEq]
    omega
  · simp only [false_iff]
    omega

theorem HexDigit.lt {d : UInt8} {v : ℕ} (h : HexDigit d v) : v < 16 := by
  rw [HexDigit] at h
  omega

/-- The byte two digits stand for. -/
theorem decodedChar_toNat {high low : UInt8} {vh vl : ℕ} (hh : HexDigit high vh)
    (hl : HexDigit low vl) : (UInt8.ofNat (vh <<< 4 ||| vl)).toNat = 16 * vh + vl := by
  have hor : vh <<< 4 ||| vl = 16 * vh + vl := by
    rw [← Nat.shiftLeft_add_eq_or_of_lt (HexDigit.lt hl), Nat.shiftLeft_eq]
    omega
  rw [hor, UInt8.toNat_ofNat', Nat.mod_eq_of_lt]
  have := HexDigit.lt hh
  have := HexDigit.lt hl
  omega

theorem decodedChar_eq_zero {high low : UInt8} {vh vl : ℕ} (hh : HexDigit high vh)
    (hl : HexDigit low vl) : UInt8.ofNat (vh <<< 4 ||| vl) = 0 ↔ vh = 0 ∧ vl = 0 := by
  rw [← UInt8.toNat_inj, decodedChar_toNat hh hl, UInt8.toNat_zero]
  omega

/-! ### One step of the loop -/

theorem percentDecodeFrom_plain {value : List UInt8} {index : ℕ} {b : UInt8}
    (hb : value[index]? = some b) (hne : b ≠ percent) (decoded : List UInt8) :
    percentDecodeFrom value index decoded =
      percentDecodeFrom value (index + 1) (decoded ++ [b]) := by
  obtain ⟨hlt, rfl⟩ := List.getElem?_eq_some_iff.mp hb
  rw [percentDecodeFrom, dif_pos hlt, if_pos hne]

theorem percentDecodeFrom_escape {value : List UInt8} {index : ℕ} {high low : UInt8} {vh vl : ℕ}
    (hb : value[index]? = some percent) (hhigh : value[index + 1]? = some high)
    (hlow : value[index + 2]? = some low) (hvh : HexDigit high vh) (hvl : HexDigit low vl)
    (decoded : List UInt8) :
    percentDecodeFrom value index decoded =
      if vh = 0 ∧ vl = 0 then none
      else percentDecodeFrom value (index + 3) (decoded ++ [UInt8.ofNat (vh <<< 4 ||| vl)]) := by
  obtain ⟨hlt, hpercent⟩ := List.getElem?_eq_some_iff.mp hb
  obtain ⟨_, hhigh⟩ := List.getElem?_eq_some_iff.mp hhigh
  obtain ⟨hlook, hlow⟩ := List.getElem?_eq_some_iff.mp hlow
  rw [percentDecodeFrom, dif_pos hlt, if_neg (by simp [hpercent]), dif_neg (by omega)]
  simp only [hhigh, hlow, hexValue_eq_some.mpr hvh, hexValue_eq_some.mpr hvl,
    decodedChar_eq_zero hvh hvl]

/-- A percent sign that starts no escape. -/
theorem percentDecodeFrom_bad {value : List UInt8} {index : ℕ} (hb : value[index]? = some percent)
    (hbad : ¬ EscapeAt value index) (decoded : List UInt8) :
    percentDecodeFrom value index decoded = none := by
  obtain ⟨hlt, hpercent⟩ := List.getElem?_eq_some_iff.mp hb
  rw [percentDecodeFrom, dif_pos hlt, if_neg (by simp [hpercent])]
  split_ifs with hend
  · rfl
  · split
    · next vh vl hvh hvl =>
      have hdh := hexValue_eq_some.mp hvh
      have hdl := hexValue_eq_some.mp hvl
      have hzero : vh = 0 ∧ vl = 0 := by
        by_contra hne
        exact hbad ⟨_, _, vh, vl, List.getElem?_eq_getElem _, List.getElem?_eq_getElem _, hdh, hdl, hne⟩
      exact if_pos ((decodedChar_eq_zero hdh hdl).mpr hzero)
    · rfl

/-! ### The loop -/

theorem percentDecodeFrom_end {value : List UInt8} {index : ℕ} (h : value[index]? = none)
    (decoded : List UInt8) : percentDecodeFrom value index decoded = some decoded := by
  rw [percentDecodeFrom, dif_neg (by simpa using List.getElem?_eq_none_iff.mp h)]

theorem percentDecodeFrom_isSome (value : List UInt8) (index : ℕ) (decoded : List UInt8) :
    (percentDecodeFrom value index decoded).isSome ↔ WellEscaped value index := by
  induction hn : value.length - index using Nat.strongRecOn generalizing index decoded with
  | _ n ih =>
    cases hb : value[index]? with
    | none => simp [percentDecodeFrom_end hb, wellEscaped_end hb]
    | some b =>
      have hlt := (List.getElem?_eq_some_iff.mp hb).1
      by_cases hne : b = percent
      · subst hne
        rw [wellEscaped_percent hb]
        by_cases hescape : EscapeAt value index
        · obtain ⟨high, low, vh, vl, hhigh, hlow, hvh, hvl, hnul⟩ := id hescape
          rw [percentDecodeFrom_escape hb hhigh hlow hvh hvl, if_neg hnul, ih _ (by omega) _ _ rfl]
          exact (and_iff_right hescape).symm
        · simp [percentDecodeFrom_bad hb hescape, hescape]
      · rw [percentDecodeFrom_plain hb hne, wellEscaped_plain hb hne]
        exact ih _ (by omega) _ _ rfl

/-- Behind a part that has been read, an encoding is read back. -/
theorem percentDecodeFrom_encoding {s e : List UInt8} (h : Encoding s e) (hs : 0 ∉ s)
    (pre decoded : List UInt8) :
    percentDecodeFrom (pre ++ e) pre.length decoded = some (decoded ++ s) := by
  induction h generalizing pre decoded with
  | nil =>
    rw [List.append_nil, List.append_nil]
    exact percentDecodeFrom_end (List.getElem?_eq_none (Nat.le_refl _)) decoded
  | @plain b s e hb h ih =>
    have hread : (pre ++ b :: e)[pre.length]? = some b := by simp
    rw [percentDecodeFrom_plain hread hb]
    have hrest := ih (fun hmem => hs (List.mem_cons_of_mem _ hmem)) (pre ++ [b]) (decoded ++ [b])
    simpa using hrest
  | @escaped b high low s e hhigh hlow h ih =>
    have hread : (pre ++ percent :: high :: low :: e)[pre.length]? = some percent := by simp
    have hdigits : ∀ n, (pre ++ percent :: high :: low :: e)[pre.length + n]? =
        (percent :: high :: low :: e)[n]? := fun n => by
      rw [List.getElem?_append_right (Nat.le_add_right _ _), Nat.add_sub_cancel_left]
    have hb : UInt8.ofNat ((b.toNat / 16) <<< 4 ||| b.toNat % 16) = b := by
      rw [← UInt8.toNat_inj, decodedChar_toNat hhigh hlow]
      exact Nat.div_add_mod _ _
    have hnul : ¬ (b.toNat / 16 = 0 ∧ b.toNat % 16 = 0) := by
      rintro ⟨hdiv, hmod⟩
      have hzero : b = 0 := UInt8.toNat_inj.mp (by simp; omega)
      exact hs (hzero ▸ List.mem_cons_self)
    rw [percentDecodeFrom_escape hread (hdigits 1) (hdigits 2) hhigh hlow, if_neg hnul, hb]
    have hrest := ih (fun hmem => hs (List.mem_cons_of_mem _ hmem))
      (pre ++ [percent, high, low]) (decoded ++ [b])
    simpa using hrest

/-- **What `percent_decode` accepts, and what it reads.**  It succeeds exactly when
every percent sign that is not part of an earlier escape has two hexadecimal digits
behind it that do not make a NUL, and it reads every encoding of a text without NUL
back. -/
theorem percentDecode_exact :
    (∀ value, (percentDecode value).isSome ↔ WellEscaped value 0) ∧
      ∀ s e, 0 ∉ s → Encoding s e → percentDecode e = some s :=
  ⟨fun value => percentDecodeFrom_isSome value 0 [],
    fun _ _ hs h => percentDecodeFrom_encoding h hs [] []⟩

/-- `%41%ff` with digits of both cases stands for two bytes. -/
theorem percentDecode_exact_two :
    percentDecode [0x25, 0x34, 0x31, 0x25, 0x66, 0x46] = some [0x41, 0xff] :=
  percentDecode_exact.2 [0x41, 0xff] _ (by decide)
    (.escaped (by decide) (by decide) (.escaped (by decide) (by decide) .nil))

end ReferHandler

end SbcEngine
