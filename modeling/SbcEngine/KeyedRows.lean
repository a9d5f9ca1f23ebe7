/-
Rows with a key.

A table whose rows have different keys is a partial map from keys to rows.  Statements
that insert, delete and change rows are updates of the map.

* `UniqueKeys`, `rowAt` — the constraint, and the map;
* `rowAt_eq_some_iff` — a row is at its key;
* `rowAt_concat`, `uniqueKeys_concat` — an insert;
* `rowAt_filter` — a delete;
* `rowAt_map` — rows that are changed, with their keys changed alike;
* `rowAt_change` — one row that is changed at its key;
* `find_eq_some_iff_least` — searches of rows in the order of their keys.

Design notes: keys are changed by an injective function on all keys, so that a row that
moves to a free key exchanges the two.
-/
import Mathlib.Data.List.Find
import Mathlib.Data.List.Nodup
import Mathlib.Logic.Function.Basic
import Mathlib.Order.Defs.LinearOrder

namespace KeyedRows

variable {R K : Type} (key : R → K)

/-- No two rows have the same key. -/
def UniqueKeys (rows : List R) : Prop := rows.Pairwise fun a b => key a ≠ key b

variable {key} {rows : List R}

theorem eq_of_key (h : UniqueKeys key rows) {a b : R} (ha : a ∈ rows) (hb : b ∈ rows)
    (heq : key a = key b) : a = b :=
  List.inj_on_of_nodup_map (List.pairwise_map.mpr h) ha hb heq

variable [DecidableEq K]

variable (key) in
/-- The row with a key. -/
def rowAt (rows : List R) (k : K) : Option R := rows.find? fun r => key r = k

theorem mem_of_rowAt {k : K} {r : R} (h : rowAt key rows k = some r) : r ∈ rows ∧ key r = k :=
  ⟨List.mem_of_find?_eq_some h, by simpa using List.find?_some h⟩

theorem rowAt_eq_none_iff {k : K} : rowAt key rows k = none ↔ ∀ r ∈ rows, key r ≠ k := by
  simp [rowAt]

theorem rowAt_eq_some_iff (h : UniqueKeys key rows) {k : K} {r : R} :
    rowAt key rows k = some r ↔ r ∈ rows ∧ key r = k := by
  refine ⟨mem_of_rowAt, ?_⟩
  rintro ⟨hr, hkey⟩
  cases hfound : rowAt key rows k with
  | none => exact absurd hkey (rowAt_eq_none_iff.mp hfound r hr)
  | some r' =>
    obtain ⟨hr', hkey'⟩ := mem_of_rowAt hfound
    exact congrArg some (eq_of_key h hr' hr (hkey'.trans hkey.symm))

theorem rowAt_self (h : UniqueKeys key rows) {r : R} (hr : r ∈ rows) :
    rowAt key rows (key r) = some r :=
  (rowAt_eq_some_iff h).mpr ⟨hr, rfl⟩

/-! ### Inserts and deletes -/

theorem uniqueKeys_concat {r : R} (h : UniqueKeys key rows) :
    UniqueKeys key (rows ++ [r]) ↔ rowAt key rows (key r) = none := by
  rw [rowAt_eq_none_iff, UniqueKeys, List.pairwise_append]
  refine ⟨fun h' a ha => h'.2.2 a ha r (List.mem_singleton.mpr rfl),
    fun h' => ⟨h, List.pairwise_singleton _ _, fun a ha b hb => ?_⟩⟩
  rw [List.mem_singleton.mp hb]
  exact h' a ha

theorem rowAt_concat {r : R} (hfree : rowAt key rows (key r) = none) :
    rowAt key (rows ++ [r]) = Function.update (rowAt key rows) (key r) (some r) := by
  funext k
  rw [rowAt, List.find?_append]
  by_cases hk : k = key r
  · rw [hk, Function.update_self]
    rw [rowAt] at hfree
    rw [hfree]
    simp
  · rw [Function.update_of_ne hk, rowAt]
    simp [Ne.symm hk]

theorem rowAt_filter (k : K) :
    rowAt key (rows.filter fun r => key r ≠ k) = Function.update (rowAt key rows) k none := by
  funext k'
  by_cases hk : k' = k
  · rw [hk, Function.update_self, rowAt_eq_none_iff]
    intro r hr
    simpa using (List.mem_filter.mp hr).2
  · rw [Function.update_of_ne hk, rowAt, rowAt, List.find?_filter]
    congr 1
    funext r
    by_cases hr : key r = k'
    · simp [hr, hk]
    · simp [hr]

/-! ### Changes -/

/-- The keys of changed rows are images of the keys before. -/
theorem rowAt_map {f : R → R} {g : K → K} (hg : Function.Injective g)
    (hkey : ∀ r ∈ rows, key (f r) = g (key r)) (k : K) :
    rowAt key (rows.map f) (g k) = (rowAt key rows k).map f := by
  rw [rowAt, rowAt, List.find?_map]
  congr 1
  refine List.find?_congr fun r hr => ?_
  rw [Function.comp_apply, hkey r hr]
  exact decide_eq_decide.mpr hg.eq_iff

omit [DecidableEq K] in
theorem uniqueKeys_map {f : R → R} {g : K → K} (hg : Function.Injective g)
    (hkey : ∀ r ∈ rows, key (f r) = g (key r)) (h : UniqueKeys key rows) :
    UniqueKeys key (rows.map f) := by
  refine List.pairwise_map.mpr (h.imp_of_mem fun ha hb hne => ?_)
  rw [hkey _ ha, hkey _ hb]
  exact hg.ne hne

omit [DecidableEq K] in
theorem eq_of_uniqueKeys_map {f : R → R} (h : UniqueKeys key (rows.map f)) {a b : R} (ha : a ∈ rows)
    (hb : b ∈ rows) (heq : key (f a) = key (f b)) : a = b := by
  rw [UniqueKeys, List.pairwise_map] at h
  exact List.inj_on_of_nodup_map (f := fun r => key (f r)) (List.pairwise_map.mpr h) ha hb heq

/-- The rows with a key are changed, and keep it. -/
theorem rowAt_change {f : R → R} {k : K} (hkey : ∀ r, key (f r) = key r) :
    rowAt key (rows.map fun r => if key r = k then f r else r) =
      Function.update (rowAt key rows) k ((rowAt key rows k).map f) := by
  funext k'
  have hkept : ∀ r ∈ rows, key (if key r = k then f r else r) = id (key r) := by
    intro r _
    split_ifs
    · exact hkey r
    · rfl
  have hmap := rowAt_map Function.injective_id hkept k'
  rw [id] at hmap
  rw [hmap]
  by_cases hk : k' = k
  · rw [hk, Function.update_self]
    refine Option.map_congr fun r hr => ?_
    rw [if_pos (mem_of_rowAt hr).2]
  · rw [Function.update_of_ne hk]
    cases hfound : rowAt key rows k' with
    | none => rfl
    | some r =>
      have hne : key r ≠ k := by
        rw [(mem_of_rowAt hfound).2]
        exact hk
      rw [Option.map_some, if_neg hne]

/-! ### Rows in the order of their keys -/

/-- The first row with a property is the one with the least key. -/
theorem find_eq_some_iff_least {L : Type} [LinearOrder L] {key : R → L}
    (h : rows.Pairwise fun a b => key a < key b) {p : R → Bool} {r : R} :
    rows.find? p = some r ↔ r ∈ rows ∧ p r = true ∧ ∀ r' ∈ rows, p r' = true → key r ≤ key r' := by
  induction rows with
  | nil => simp
  | cons first rest ih =>
    obtain ⟨hfirst, hrest⟩ := List.pairwise_cons.mp h
    by_cases hp : p first = true
    · rw [List.find?_cons_of_pos hp]
      constructor
      · rintro hr
        cases hr
        refine ⟨List.mem_cons_self, hp, fun r' hr' _ => ?_⟩
        rcases List.mem_cons.mp hr' with rfl | hr'
        · exact le_rfl
        · exact (hfirst r' hr').le
      · rintro ⟨hr, -, hleast⟩
        rcases List.mem_cons.mp hr with rfl | hr
        · rfl
        · exact absurd (hleast first List.mem_cons_self hp) (not_le.mpr (hfirst r hr))
    · rw [List.find?_cons_of_neg hp, ih hrest]
      constructor
      · rintro ⟨hr, hpr, hleast⟩
        refine ⟨List.mem_cons_of_mem _ hr, hpr, fun r' hr' hpr' => ?_⟩
        rcases List.mem_cons.mp hr' with rfl | hr'
        · exact absurd hpr' hp
        · exact hleast r' hr' hpr'
      · rintro ⟨hr, hpr, hleast⟩
        rcases List.mem_cons.mp hr with rfl | hr
        · exact absurd hpr hp
        · exact ⟨hr, hpr, fun r' hr' => hleast r' (List.mem_cons_of_mem _ hr')⟩

end KeyedRows
