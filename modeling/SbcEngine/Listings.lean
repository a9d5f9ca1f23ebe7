/-
Sorted listings, read page by page.

A listing is sorted by what its reader chose.  Rows that are equal there are sorted by
their numbers, the highest first, so that the listing does not depend on the order in
which the rows are kept.

* `byKey` — the order of a listing;
* `listing_perm` — rows kept in another order have the same listing;
* `listing_sublist` — with more rows, the listing grows in between;
* `page`, `pages_flatten` — the pages of one listing;
* `Walked` — a row that a reader of page after page has seen, or will still see;
* `Walked.grow`, `Walked.read`, `Walked.shown` — the listing grows while it is read, and
  the reader stops at a page that is not full.

Design notes: pages are counted from 0.
-/
import Mathlib.Data.List.Sort
import SbcEngine.KeyedRows

namespace Listings

open KeyedRows (UniqueKeys eq_of_key)

variable {α : Type} {le : α → α → Bool} {number : α → ℕ}

/-! ### The order -/

variable (le number) in
/-- By key; among equal keys the highest number comes first. -/
def byKey (a b : α) : Bool := le a b && (!le b a || decide (number b ≤ number a))

variable (le number) in
def listing (rows : List α) : List α := rows.mergeSort (byKey le number)

theorem byKey_iff {a b : α} :
    byKey le number a b = true ↔ le a b = true ∧ (le b a = true → number b ≤ number a) := by
  rw [byKey, Bool.and_eq_true, Bool.or_eq_true, Bool.not_eq_true', decide_eq_true_eq]
  refine and_congr_right fun _ => ?_
  cases le b a <;> simp

/-- Rows that come before each other have the same number. -/
theorem number_eq_of_byKey {a b : α} (hab : byKey le number a b = true)
    (hba : byKey le number b a = true) : number a = number b := by
  obtain ⟨hle, hnumber⟩ := byKey_iff.mp hab
  obtain ⟨hle', hnumber'⟩ := byKey_iff.mp hba
  exact Nat.le_antisymm (hnumber' hle) (hnumber hle')

theorem mem_listing {rows : List α} {a : α} : a ∈ listing le number rows ↔ a ∈ rows :=
  List.mem_mergeSort

theorem listing_perm_self (rows : List α) : (listing le number rows).Perm rows :=
  List.mergeSort_perm _ _

section Sorted

variable (htrans : ∀ a b c, le a b = true → le b c = true → le a c = true)
  (htotal : ∀ a b, (le a b || le b a) = true)

include htrans in
theorem byKey_trans (a b c : α) (hab : byKey le number a b = true) (hbc : byKey le number b c = true) :
    byKey le number a c = true := by
  obtain ⟨hab, hnumber⟩ := byKey_iff.mp hab
  obtain ⟨hbc, hnumber'⟩ := byKey_iff.mp hbc
  refine byKey_iff.mpr ⟨htrans a b c hab hbc, fun hca => ?_⟩
  -- all three are equal
  have hba := htrans b c a hbc hca
  have hcb := htrans c a b hca hab
  exact (hnumber' hcb).trans (hnumber hba)

include htotal in
theorem byKey_total (a b : α) : (byKey le number a b || byKey le number b a) = true := by
  rw [Bool.or_eq_true, byKey_iff, byKey_iff]
  have hle := htotal a b
  rw [Bool.or_eq_true] at hle
  by_cases hab : le a b = true
  · by_cases hba : le b a = true
    · rcases Nat.le_total (number b) (number a) with h | h
      · exact .inl ⟨hab, fun _ => h⟩
      · exact .inr ⟨hba, fun _ => h⟩
    · exact .inl ⟨hab, fun h => absurd h hba⟩
  · exact .inr ⟨hle.resolve_left hab, fun h => absurd h hab⟩

include htrans htotal

theorem listing_sorted (rows : List α) :
    (listing le number rows).Pairwise fun a b => byKey le number a b = true :=
  List.pairwise_mergeSort (byKey_trans htrans) (byKey_total htotal) rows

/-- Sorted rows with different numbers are determined by what they are. -/
theorem eq_listing {rows l : List α} (hrows : UniqueKeys number rows) (hl : l.Perm rows)
    (hsorted : l.Pairwise fun a b => byKey le number a b = true) : l = listing le number rows := by
  refine List.Perm.eq_of_pairwise (fun a b ha hb hab hba => ?_) hsorted
    (listing_sorted htrans htotal rows) (hl.trans (listing_perm_self rows).symm)
  exact eq_of_key hrows (hl.mem_iff.mp ha) (mem_listing.mp hb) (number_eq_of_byKey hab hba)

/-- The order in which the rows are kept does not show. -/
theorem listing_perm {rows rows' : List α} (hrows : UniqueKeys number rows') (h : rows.Perm rows') :
    listing le number rows = listing le number rows' :=
  eq_listing htrans htotal hrows ((listing_perm_self rows).trans h)
    (listing_sorted htrans htotal rows)

/-- Rows that are added come in between. -/
theorem listing_sublist {rows rows' : List α} (hrows : UniqueKeys number rows)
    (hsub : rows ⊆ rows') : (listing le number rows).Sublist (listing le number rows') := by
  have hnodup : rows.Nodup := List.Pairwise.imp (fun hne heq => hne (congrArg number heq)) hrows
  have hsubperm : rows.Subperm (listing le number rows') :=
    (listing_perm_self rows').subperm_left.mpr (List.subperm_of_subset hnodup hsub)
  obtain ⟨l, hperm, hl⟩ := hsubperm
  rw [← eq_listing htrans htotal hrows hperm ((listing_sorted htrans htotal rows').sublist hl)]
  exact hl

end Sorted

/-! ### Pages -/

def page (size k : ℕ) (l : List α) : List α := (l.drop (k * size)).take size

theorem pages_flatten (size : ℕ) (l : List α) (n : ℕ) :
    (List.range n).flatMap (fun k => page size k l) = l.take (n * size) := by
  induction n with
  | zero => simp
  | succ n ih =>
    rw [List.range_succ, List.flatMap_append, ih, Nat.succ_mul, List.take_add]
    simp [page]

theorem page_map {β : Type} (f : α → β) (size k : ℕ) (l : List α) :
    page size k (l.map f) = (page size k l).map f := by
  rw [page, page, List.map_take, List.map_drop]

/-- Where a page is not full, nothing is behind it. -/
theorem drop_of_short {size k : ℕ} {l : List α} (h : (page size k l).length < size) :
    l.drop ((k + 1) * size) = [] := by
  rw [page, List.length_take, List.length_drop] at h
  rw [List.drop_eq_nil_iff, Nat.succ_mul]
  omega

/-- What is not on a page is behind it. -/
theorem mem_page_or_drop {size k : ℕ} {l : List α} {a : α} (h : a ∈ l.drop (k * size)) :
    a ∈ page size k l ∨ a ∈ l.drop ((k + 1) * size) := by
  rw [← List.take_append_drop size (l.drop (k * size)), List.mem_append, List.drop_drop] at h
  rw [Nat.succ_mul]
  exact h

/-! ### Reading on while the listing grows -/

/-- A row is on a page that was read, or behind all of them, which were full then. -/
def Walked (size : ℕ) (pages : List (List α)) (l : List α) (a : α) : Prop :=
  a ∈ pages.flatten ∨ a ∈ l.drop (pages.length * size) ∧ ∀ p ∈ pages, size ≤ p.length

namespace Walked

variable {size : ℕ} {pages : List (List α)} {l l' : List α} {a : α}

theorem start (h : a ∈ l) : Walked size [] l a := by
  refine .inr ⟨?_, fun p hp => by cases hp⟩
  rw [List.length_nil, Nat.zero_mul, List.drop_zero]
  exact h

theorem grow (h : Walked size pages l a) (hl : l.Sublist l') : Walked size pages l' a :=
  h.imp_right fun hbehind => ⟨(hl.drop _).subset hbehind.1, hbehind.2⟩

/-- The next page is read. -/
theorem read (h : Walked size pages l a) : Walked size (pages ++ [page size pages.length l]) l a := by
  rw [Walked, List.flatten_append, List.mem_append, List.flatten_singleton]
  rcases h with hread | ⟨hbehind, hfull⟩
  · exact .inl (.inl hread)
  · rcases mem_page_or_drop hbehind with hpage | hdrop
    · exact .inl (.inr hpage)
    · refine .inr ⟨?_, fun p hp => ?_⟩
      · rw [List.length_append]
        exact hdrop
      · rcases List.mem_append.mp hp with hp | hp
        · exact hfull p hp
        · rw [List.mem_singleton.mp hp]
          by_contra hshort
          rw [drop_of_short (Nat.lt_of_not_le hshort)] at hdrop
          cases hdrop

/-- At a page that is not full, nothing is left to see. -/
theorem shown (h : Walked size pages l a) (hshort : ∃ p ∈ pages, p.length < size) :
    a ∈ pages.flatten := by
  obtain ⟨p, hp, hlen⟩ := hshort
  refine h.resolve_right fun hbehind => ?_
  exact absurd (hbehind.2 p hp) (Nat.not_le_of_lt hlen)

end Walked

end Listings
