/-
Runs of a deterministic system over a list of inputs.

A step may be impossible in a state (`none`); a run is a list of inputs, each
of which was possible where it came.  `Meets` restricts a run to inputs that
satisfy a condition in the state they are applied to.

* `run_keeps` — the invariant rule for runs whose inputs all meet a condition, and
  `run_invariant` for all runs;
* `run_prefixes_iff` — what every step that meets a condition keeps and every other
  step breaks;
* `run_total` — runs of a step that is always possible;
* `EachStep`, `EachSplit` — what holds at every step of a fold;
* `eachStep_iff` — two conditions that agree at every step of a run, as long as the
  first has been met, agree on runs;
* `foldl_related` — two folds whose steps keep a relation;
* `foldl_last` — what is seen of a state that only inputs of one kind change;
* `foldl_repeated`, `foldl_attempted` — inputs that come several times in a row, and
  inputs that are tried several times in a row;
* `traces_of_simulates` — a system whose steps are steps of another one has only runs
  that are runs of the other;
* `traces_concat`, `Traces.unique` — runs with the outputs, from their end.
-/
import Mathlib.Data.List.Basic
import Mathlib.Data.List.Forall2
import Mathlib.Data.List.Induction
import Mathlib.Data.List.Infix

universe u v

namespace Runs

variable {S : Type u} {I : Type v} (step : S → I → Option S)

/-- The state after the inputs, if each of them was possible. -/
def run : S → List I → Option S
  | s, [] => some s
  | s, i :: is => (step s i).bind fun s' => run s' is

/-- Every input meets `ok` in the state it is applied to. -/
def Meets (ok : S → I → Prop) : S → List I → Prop
  | _, [] => True
  | s, i :: is => ok s i ∧ ∀ s', step s i = some s' → Meets ok s' is

/-- What every step that meets `ok` keeps, a run whose steps all do keeps. -/
theorem run_keeps {P : S → Prop} {ok : S → I → Prop}
    (hstep : ∀ {s i s'}, P s → ok s i → step s i = some s' → P s') :
    ∀ {is : List I} {s s' : S}, P s → Meets step ok s is → run step s is = some s' → P s' := by
  intro is
  induction is with
  | nil =>
    intro s s' hs _ hrun
    cases hrun
    exact hs
  | cons i is ih =>
    intro s s' hs hok hrun
    obtain ⟨mid, hmid, hrest⟩ := Option.bind_eq_some_iff.mp hrun
    exact ih (hstep hs hok.1 hmid) (hok.2 mid hmid) hrest

instance decidableMeets (ok : S → I → Prop) [∀ s i, Decidable (ok s i)] :
    ∀ (s : S) (is : List I), Decidable (Meets step ok s is)
  | _, [] => .isTrue trivial
  | s, i :: is =>
    match hmid : step s i with
    | none => decidable_of_iff (ok s i) ⟨fun h => ⟨h, fun _ h' => by simp [hmid] at h'⟩, fun h => h.1⟩
    | some mid =>
      have := decidableMeets ok mid is
      decidable_of_iff (ok s i ∧ Meets step ok mid is)
        ⟨fun h => ⟨h.1, fun s' h' => by rw [← Option.some.inj (hmid.symm.trans h')]; exact h.2⟩,
          fun h => ⟨h.1, h.2 mid hmid⟩⟩

/-- A condition on the inputs alone. -/
theorem meets_of_forall {ok : I → Prop} {is : List I} (h : ∀ i ∈ is, ok i) (s : S) :
    Meets step (fun _ i => ok i) s is := by
  induction is generalizing s with
  | nil => trivial
  | cons i is ih =>
    exact ⟨h i List.mem_cons_self, fun s' _ => ih (fun j hj => h j (List.mem_cons_of_mem _ hj)) s'⟩

/-- What every step keeps, a run keeps. -/
theorem run_invariant {P : S → Prop} (hstep : ∀ {s i s'}, P s → step s i = some s' → P s')
    {is : List I} {s s' : S} (hs : P s) (hrun : run step s is = some s') : P s' :=
  run_keeps step (fun hs _ h => hstep hs h) hs
    (meets_of_forall step (fun _ _ => trivial) s) hrun

/-- If a step keeps `P` exactly when it meets `ok`, the runs all of whose states have `P`
are those whose steps all meet `ok`. -/
theorem run_prefixes_iff {P : S → Prop} {ok : S → I → Prop}
    (hstep : ∀ {s i s'}, P s → step s i = some s' → (P s' ↔ ok s i)) :
    ∀ {is : List I} {s s' : S}, P s → run step s is = some s' →
      ((∀ l t, l <+: is → run step s l = some t → P t) ↔ Meets step ok s is) := by
  intro is
  induction is with
  | nil =>
    intro s s' hs _
    refine ⟨fun _ => trivial, fun _ l t hl ht => ?_⟩
    rw [List.prefix_nil.mp hl] at ht
    cases ht
    exact hs
  | cons i is ih =>
    intro s s' hs hrun
    obtain ⟨mid, hmid, hrest⟩ := Option.bind_eq_some_iff.mp hrun
    constructor
    · intro h
      have hP : P mid := h [i] mid (List.prefix_append [i] is) (by simp [run, hmid])
      refine ⟨(hstep hs hmid).mp hP, fun t ht => ?_⟩
      obtain rfl : mid = t := Option.some.inj (hmid.symm.trans ht)
      refine (ih hP hrest).mp fun l u hl hu => h (i :: l) u (List.cons_prefix_cons.mpr ⟨rfl, hl⟩) ?_
      rw [run, hmid]
      exact hu
    · rintro ⟨hok, hmeets⟩ l t hl ht
      have hP : P mid := (hstep hs hmid).mpr hok
      cases l with
      | nil =>
        cases ht
        exact hs
      | cons j l =>
        obtain ⟨rfl, hrestPrefix⟩ := List.cons_prefix_cons.mp hl
        rw [run, hmid] at ht
        exact (ih hP hrest).mpr (hmeets mid hmid) l t hrestPrefix ht

/-- A step that is always possible makes a run a fold. -/
theorem run_total (f : S → I → S) (is : List I) (s : S) :
    run (fun s i => some (f s i)) s is = some (is.foldl f s) := by
  induction is generalizing s with
  | nil => rfl
  | cons i is ih => exact ih (f s i)

/-! ### Steps of a fold -/

variable (f : S → I → S)

/-- `P` holds of every input of the run and the state it is applied to. -/
def EachStep (P : S → I → Prop) (s : S) (is : List I) : Prop :=
  ∀ l i, l ++ [i] <+: is → P (l.foldl f s) i

variable {f} {P Q A : S → I → Prop} {s : S}

theorem eachStep_nil : EachStep f P s [] := by
  intro l i hl
  have hlength := hl.length_le
  simp at hlength

theorem eachStep_concat {is : List I} {i : I} :
    EachStep f P s (is ++ [i]) ↔ EachStep f P s is ∧ P (is.foldl f s) i := by
  constructor
  · intro h
    exact ⟨fun l i hl => h l i (hl.trans (List.prefix_append _ _)), h is i (List.prefix_refl _)⟩
  · rintro ⟨his, hi⟩ l j hl
    rcases List.prefix_concat_iff.mp hl with heq | hl
    · obtain ⟨rfl, hj⟩ := List.append_inj' heq rfl
      obtain rfl : j = i := List.head_eq_of_cons_eq hj
      exact hi
    · exact his l j hl

theorem eachStep_cons {is : List I} {i : I} :
    EachStep f P s (i :: is) ↔ P s i ∧ EachStep f P (f s i) is := by
  constructor
  · intro h
    refine ⟨h [] i (List.prefix_append [i] is), fun l j hl => ?_⟩
    exact h (i :: l) j (List.cons_prefix_cons.mpr ⟨rfl, hl⟩)
  · rintro ⟨hi, his⟩ l j hl
    cases l with
    | nil =>
      obtain ⟨rfl, -⟩ := List.cons_prefix_cons.mp hl
      exact hi
    | cons first l =>
      obtain ⟨rfl, hrest⟩ := List.cons_prefix_cons.mp hl
      exact his l j hrest

/-- What every step that meets a condition keeps, a run whose steps all do keeps. -/
theorem foldl_keeps {J : S → Prop} {is : List I} (hstep : ∀ s i, J s → P s i → J (f s i))
    (hs : J s) (hall : EachStep f P s is) : J (is.foldl f s) := by
  induction is using List.reverseRecOn with
  | nil => exact hs
  | append_singleton is i ih =>
    obtain ⟨his, hi⟩ := eachStep_concat.mp hall
    rw [List.foldl_append]
    exact hstep _ _ (ih his) hi

/-- If a step meets `Q` exactly when it meets `P`, as long as an invariant holds that
steps with `P` keep, then the runs that meet `Q` are those that meet `P`. -/
theorem eachStep_iff {J : S → Prop} {is : List I} (hs : J s) (hall : EachStep f A s is)
    (hgood : ∀ s i, J s → A s i → P s i → Q s i ∧ J (f s i))
    (hbad : ∀ s i, J s → A s i → ¬ P s i → ¬ Q s i) : EachStep f Q s is ↔ EachStep f P s is := by
  induction is using List.reverseRecOn with
  | nil => exact ⟨fun _ => eachStep_nil, fun _ => eachStep_nil⟩
  | append_singleton is i ih =>
    obtain ⟨hbefore, hi⟩ := eachStep_concat.mp hall
    rw [eachStep_concat, eachStep_concat, ih hbefore]
    refine and_congr_right fun his => ?_
    have hrun : J (is.foldl f s) := by
      refine foldl_keeps (P := fun s i => A s i ∧ P s i) (fun s i hJ h => (hgood s i hJ h.1 h.2).2) hs ?_
      exact fun l i hl => ⟨hbefore l i hl, his l i hl⟩
    constructor
    · intro hQ
      by_contra hP
      exact hbad _ _ hrun hi hP hQ
    · intro hP
      exact (hgood _ _ hrun hi hP).1

/-- Two systems side by side: what one step of each keeps between their states, when
the inputs are related and both meet their conditions, whole runs keep. -/
theorem foldl_related {T : Type*} {J : Type*} {g : T → J → T} {B : T → J → Prop} {R : S → T → Prop}
    {E : I → J → Prop} (hstep : ∀ s t i j, R s t → E i j → P s i → B t j → R (f s i) (g t j))
    {is : List I} {js : List J} (hE : List.Forall₂ E is js) {s : S} {t : T} (h : R s t)
    (hP : EachStep f P s is) (hB : EachStep g B t js) : R (is.foldl f s) (js.foldl g t) := by
  induction hE generalizing s t with
  | nil => exact h
  | cons hij hrest ih =>
    obtain ⟨hi, his⟩ := eachStep_cons.mp hP
    obtain ⟨hj, hjs⟩ := eachStep_cons.mp hB
    exact ih (hstep s t _ _ h hij hi hj) his hjs

/-! ### The last input of a kind -/

/-- If inputs of one kind set what is seen of a state and all others leave it, the last
input of the kind decides. -/
theorem foldl_last {O : Type*} (see : S → O) (p : I → Bool) (set : I → O)
    (hset : ∀ s i, p i = true → see (f s i) = set i)
    (hkeep : ∀ s i, p i = false → see (f s i) = see s) (is : List I) (s : S) :
    see (is.foldl f s) = ((is.filter p).getLast?.map set).getD (see s) := by
  induction is using List.reverseRecOn with
  | nil => rfl
  | append_singleton is i ih =>
    rw [List.foldl_append, List.foldl_cons, List.foldl_nil, List.filter_append]
    cases hi : p i with
    | true =>
      rw [hset _ _ hi, List.filter_cons_of_pos hi, List.filter_nil, List.getLast?_concat]
      rfl
    | false =>
      rw [hkeep _ _ hi, ih, List.filter_cons_of_neg (by simp [hi]), List.filter_nil,
        List.append_nil]

/-- The last input of a kind splits the list. -/
theorem last_split {p : I → Bool} {is : List I} {i : I} (h : (is.filter p).getLast? = some i) :
    ∃ before later, is = before ++ i :: later ∧ p i = true ∧ ∀ j ∈ later, p j = false := by
  rw [List.getLast?_filter, List.find?_eq_some_iff_append] at h
  obtain ⟨hi, front, back, his, hfront⟩ := h
  refine ⟨back.reverse, front.reverse, ?_, hi, fun j hj => ?_⟩
  · rw [← List.reverse_reverse is, his]
    simp
  · simpa using hfront j (List.mem_reverse.mp hj)

theorem last_of_split {p : I → Bool} {before later : List I} {i : I} (hi : p i = true)
    (hlater : ∀ j ∈ later, p j = false) :
    ((before ++ i :: later).filter p).getLast? = some i := by
  have hnil : later.filter p = [] := by
    rw [List.filter_eq_nil_iff]
    intro j hj
    simp [hlater j hj]
  rw [List.filter_append, List.filter_cons_of_pos hi, hnil, List.getLast?_concat]

/-! ### Repeated inputs -/

/-- Every input comes once, and then as many times again as it says. -/
def repeated (is : List (I × ℕ)) : List I :=
  is.flatMap fun x => List.replicate (x.2 + 1) x.1

/-- An input that has no further effect the second time has none after that. -/
theorem foldl_replicate (hidem : ∀ s i, f (f s i) i = f s i) (s : S) (i : I) (n : ℕ) :
    (List.replicate (n + 1) i).foldl f s = f s i := by
  induction n with
  | zero => rfl
  | succ n ih => rw [List.replicate_succ', List.foldl_append, ih, List.foldl_cons, List.foldl_nil, hidem]

theorem foldl_repeated (hidem : ∀ s i, f (f s i) i = f s i) (is : List (I × ℕ)) (s : S) :
    (repeated is).foldl f s = (is.map (·.1)).foldl f s := by
  induction is generalizing s with
  | nil => rfl
  | cons x is ih =>
    rw [repeated, List.flatMap_cons, List.foldl_append, foldl_replicate hidem]
    exact ih (f s x.1)

/-- Every input with the outcome of each of its attempts, in order. -/
def attempted (is : List (I × List Bool)) : List (I × Bool) :=
  is.flatMap fun x => x.2.map fun applied => (x.1, applied)

theorem attempted_concat (is : List (I × List Bool)) (i : I) (outcomes : List Bool) :
    attempted (is ++ [(i, outcomes)]) = attempted is ++ outcomes.map fun applied => (i, applied) := by
  simp [attempted]

variable (f) in
/-- An attempt that fails changes nothing. -/
def attempt (s : S) (x : I × Bool) : S := if x.2 then f s x.1 else s

/-- The attempts of one input: it is applied if one of them succeeds. -/
theorem foldl_attempts (hidem : ∀ s i, f (f s i) i = f s i) (s : S) (i : I) (outcomes : List Bool) :
    (outcomes.map fun applied => (i, applied)).foldl (attempt f) s =
      if outcomes.any id then f s i else s := by
  induction outcomes generalizing s with
  | nil => rfl
  | cons applied outcomes ih =>
    rw [List.map_cons, List.foldl_cons, ih]
    cases applied with
    | false => simp [attempt]
    | true => simp [attempt, hidem]

/-- Inputs that are tried several times in a row leave what those leave, once each, of
which an attempt succeeded. -/
theorem foldl_attempted (hidem : ∀ s i, f (f s i) i = f s i) (is : List (I × List Bool)) (s : S) :
    (attempted is).foldl (attempt f) s =
      ((is.filter fun x => x.2.any id).map (·.1)).foldl f s := by
  induction is generalizing s with
  | nil => rfl
  | cons x is ih =>
    rw [attempted, List.flatMap_cons, List.foldl_append, foldl_attempts hidem, List.filter_cons]
    split_ifs with h
    · exact ih (f s x.1)
    · exact ih s

/-! ### Refinement -/

section Refinement

variable {A : Type*} {O : Type*}

/-- A run of a system that is given by a relation, with the inputs and the outputs. -/
inductive Traces (spec : A → I → O → A → Prop) : A → List (I × O) → A → Prop
  | nil (a : A) : Traces spec a [] a
  | cons {a a' a'' : A} {i : I} {o : O} {t : List (I × O)} (hstep : spec a i o a')
      (hrest : Traces spec a' t a'') : Traces spec a ((i, o) :: t) a''

/-- The inputs of a run, each with the output the step gives. -/
def trace (step : S → I → S × O) : S → List I → List (I × O)
  | _, [] => []
  | s, i :: is => (i, (step s i).2) :: trace step (step s i).1 is

/-- If every step, seen through `abs`, is one the relation allows, as long as an
invariant holds that the steps keep, then runs are runs of the relation. -/
theorem traces_of_simulates {spec : A → I → O → A → Prop} {step : S → I → S × O} (abs : S → A)
    {J : S → Prop}
    (hstep : ∀ s i, J s → spec (abs s) i (step s i).2 (abs (step s i).1) ∧ J (step s i).1)
    (is : List I) {s : S} (hs : J s) :
    Traces spec (abs s) (trace step s is) (abs (is.foldl (fun s i => (step s i).1) s)) ∧
      J (is.foldl (fun s i => (step s i).1) s) := by
  induction is generalizing s with
  | nil => exact ⟨.nil _, hs⟩
  | cons i is ih =>
    obtain ⟨hi, hkept⟩ := hstep s i hs
    obtain ⟨hrest, hend⟩ := ih hkept
    exact ⟨.cons hi hrest, hend⟩

/-- The last step of a run. -/
theorem traces_concat {spec : A → I → O → A → Prop} {a a'' : A} {t : List (I × O)} {i : I} {o : O} :
    Traces spec a (t ++ [(i, o)]) a'' ↔ ∃ a', Traces spec a t a' ∧ spec a' i o a'' := by
  induction t generalizing a with
  | nil =>
    constructor
    · rintro (_ | ⟨hstep, _ | _⟩)
      exact ⟨a, .nil a, hstep⟩
    · rintro ⟨_, _ | _, hstep⟩
      exact .cons hstep (.nil _)
  | cons x t ih =>
    constructor
    · rintro (_ | ⟨hstep, hrest⟩)
      obtain ⟨mid, hmid, hlast⟩ := ih.mp hrest
      exact ⟨mid, .cons hstep hmid, hlast⟩
    · rintro ⟨mid, _ | ⟨hstep, hrest⟩, hlast⟩
      exact .cons hstep (ih.mpr ⟨mid, hrest, hlast⟩)

/-- A system that leaves no choice has one run of any inputs and outputs. -/
theorem Traces.unique {spec : A → I → O → A → Prop} {a a' a'' : A} {t : List (I × O)}
    (h : Traces spec a t a') (hspec : ∀ {a i o a' a''}, spec a i o a' → spec a i o a'' → a' = a'')
    (h' : Traces spec a t a'') : a' = a'' := by
  induction h with
  | nil =>
    cases h'
    rfl
  | cons hstep _ ih =>
    cases h' with
    | cons hstep' hrest =>
      obtain rfl := hspec hstep hstep'
      exact ih hrest

end Refinement

end Runs
