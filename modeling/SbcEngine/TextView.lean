/-
Views of texts and searches in them.

The functions are those of `std::string_view`, over lists of any characters.  A
search that finds nothing has no position (`none` is `npos`); a count of `none`
is one that is never reached.  `substr` and `removePrefix` are `none` where the
call throws or is not defined.

* `findFrom` — the first position from which on a character meets a condition;
* `findFrom_append`, `findFrom_eq_none` — what it finds in a text that is known;
* `substr_findFrom` — the part of a text up to the first character of a kind;
* `lines_induction` — a text is one line, or a line, a line end and a shorter text.
-/
import Mathlib.Data.List.Basic
import Mathlib.Data.List.TakeWhile
import Mathlib.Data.Nat.Notation

universe u

namespace TextView

variable {α : Type u}

def findFrom (p : α → Bool) (s : List α) (pos : ℕ) : Option ℕ :=
  ((s.drop pos).findIdx? p).map (· + pos)

def substr (s : List α) (pos : ℕ) (count : Option ℕ) : Option (List α) :=
  if pos ≤ s.length then some ((s.drop pos).take (count.getD s.length)) else none

def removePrefix (s : List α) (n : ℕ) : Option (List α) :=
  if n ≤ s.length then some (s.drop n) else none

theorem removePrefix_length {s rest : List α} {n : ℕ} (hn : 0 < n)
    (h : removePrefix s n = some rest) : rest.length < s.length := by
  rw [removePrefix] at h
  split_ifs at h with hle
  cases h
  rw [List.length_drop]
  omega

/-! ### Searches -/

/-- The first character that meets the condition comes after some that do not. -/
theorem findFrom_append {p : α → Bool} {pre l : List α} {c : α} (rest : List α)
    (hl : ∀ x ∈ l, p x = false) (hc : p c = true) :
    findFrom p (pre ++ (l ++ c :: rest)) pre.length = some (pre.length + l.length) := by
  have hfind : (l ++ c :: rest).findIdx? p = some l.length := by
    rw [List.findIdx?_append, List.findIdx?_eq_none_iff.mpr hl, Option.none_or,
      List.findIdx?_cons, if_pos hc]
    simp
  rw [findFrom, List.drop_left, hfind, Option.map_some, Nat.add_comm]

/-- `findFrom_append` for a search from the start. -/
theorem findFrom_zero {p : α → Bool} {l : List α} {c : α} (rest : List α)
    (hl : ∀ x ∈ l, p x = false) (hc : p c = true) :
    findFrom p (l ++ c :: rest) 0 = some l.length := by
  simpa using @findFrom_append α p [] l c rest hl hc

theorem findFrom_append_eq_none {p : α → Bool} (pre : List α) {l : List α}
    (hl : ∀ x ∈ l, p x = false) : findFrom p (pre ++ l) pre.length = none := by
  rw [findFrom, List.drop_left, List.findIdx?_eq_none_iff.mpr hl]
  rfl

theorem findFrom_eq_none {p : α → Bool} {l : List α} (hl : ∀ x ∈ l, p x = false) :
    findFrom p l 0 = none :=
  findFrom_append_eq_none [] hl

/-- A search starts behind what holds nothing that it looks for. -/
theorem findFrom_skip {p : α → Bool} {pre : List α} (s : List α) (hpre : ∀ x ∈ pre, p x = false) :
    findFrom p (pre ++ s) 0 = findFrom p (pre ++ s) pre.length := by
  rw [findFrom, findFrom, List.drop_zero, List.drop_left, List.findIdx?_append,
    List.findIdx?_eq_none_iff.mpr hpre, Option.none_or, Option.map_map]
  rfl

/-- What is found is a position of the text. -/
theorem findFrom_lt {p : α → Bool} {s : List α} {pos e : ℕ} (h : findFrom p s pos = some e) :
    pos ≤ e ∧ e < s.length := by
  rw [findFrom, Option.map_eq_some_iff] at h
  obtain ⟨i, hi, rfl⟩ := h
  have hlt := (List.findIdx?_eq_some_iff_findIdx_eq.mp hi).1
  rw [List.length_drop] at hlt
  omega

/-- The characters up to the first one of a kind, or all that are left. -/
theorem substr_findFrom (p : α → Bool) {s : List α} {pos : ℕ} (h : pos ≤ s.length) :
    substr s pos ((findFrom p s pos).map (· - pos)) =
      some ((s.drop pos).takeWhile fun c => !p c) := by
  rw [substr, if_pos h, findFrom, List.takeWhile_eq_take_findIdx_not]
  simp only [Bool.not_not]
  cases hfind : (s.drop pos).findIdx? p with
  | none =>
    have hend := List.findIdx?_eq_none_iff_findIdx_eq.mp hfind
    rw [hend, List.take_length]
    exact congrArg some (List.take_of_length_le (by simp))
  | some i =>
    have hi := (List.findIdx?_eq_some_iff_findIdx_eq.mp hfind).2
    simp [hi]

/-! ### Lines -/

/-- Induction over the lines of a text. -/
theorem lines_induction {p : α → Bool} {motive : List α → Prop}
    (last : ∀ l, (∀ x ∈ l, p x = false) → motive l)
    (more : ∀ l c rest, (∀ x ∈ l, p x = false) → p c = true → motive rest →
      motive (l ++ c :: rest)) (s : List α) : motive s := by
  induction hn : s.length using Nat.strong_induction_on generalizing s with
  | _ n ih =>
    by_cases hend : ∀ x ∈ s, p x = false
    · exact last s hend
    · -- the first line end of the text
      obtain ⟨c, hfind⟩ : ∃ c, s.find? p = some c := by
        rw [← Option.isSome_iff_exists, List.find?_isSome]
        simpa using hend
      obtain ⟨hc, l, rest, rfl, hl⟩ := List.find?_eq_some_iff_append.mp hfind
      refine more l c rest (fun x hx => by simpa using hl x hx) hc (ih rest.length ?_ rest rfl)
      rw [← hn, List.length_append, List.length_cons]
      omega

/-- The first line. -/
theorem takeWhile_line {p : α → Bool} {l : List α} {c : α} (rest : List α)
    (hl : ∀ x ∈ l, p x = false) (hc : p c = true) :
    (l ++ c :: rest).takeWhile (fun x => !p x) = l := by
  rw [List.takeWhile_append_of_pos (fun x hx => by simp [hl x hx])]
  simp [hc]

/-- What follows the first line end. -/
theorem removePrefix_line (l : List α) (c : α) (rest : List α) :
    removePrefix (l ++ c :: rest) (l.length + 1) = some rest := by
  have hdrop : (l ++ c :: rest).drop (l.length + 1) = rest := by
    rw [← List.singleton_append, ← List.append_assoc]
    exact List.drop_left' (by simp)
  rw [removePrefix, if_pos (by simp), hdrop]

end TextView
