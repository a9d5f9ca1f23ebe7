/-
Loops over a container whose body can take out the node it is at.

A container is a list of nodes, in the order in which it is traversed.  A loop
holds a cursor on a node; using the cursor after its node was taken out is a
fault, and nothing is known of the loop from there on.  Nothing here depends on
what the nodes and the bodies are.

* `rangeRound` — the body runs, then the cursor moves on;
* `eagerRound` — the cursor moves on, then the body runs;
* `rangeFor_keeps`, `eagerFor_keeps` — what every body keeps, a loop keeps;
* `Orderly` — the body at a node can take out that node, and affects no other;
* `eagerFor_complete` — a loop that moves on first visits every node once;
* `rangeFor_complete_iff` — a loop that moves on last does so exactly when no
  body takes out its node.

Design notes: a loop makes as many rounds as there are nodes at the start.  That
these are enough is part of what is proved: the cursor is past the end.
-/
import Mathlib.Data.List.Nodup
import Mathlib.Logic.Function.Iterate
import Mathlib.Tactic.Common

universe u v

/-- A container with nodes `K`, held in states `W`, and the body of a loop over it. -/
structure Traversal (W : Type u) (K : Type v) where
  /-- The nodes, in the order of traversal. -/
  nodes : W → List K
  /-- The body at a node; the flag says whether it did anything. -/
  body : K → W → W × Bool

namespace Traversal

variable {W : Type u} {K : Type v}

/-- What a loop has done so far. -/
structure Progress (W : Type u) (K : Type v) where
  world : W
  /-- Where the loop is; nothing, past the end. -/
  cursor : Option K
  visited : List K
  /-- The nodes at which the body did something. -/
  acted : List K
  /-- The cursor was used after its node was taken out. -/
  fault : Bool

section Loops

variable [DecidableEq K] (T : Traversal W K)

/-- The node after `k`. -/
def successor (k : K) : List K → Option K
  | [] => none
  | a :: l => if a = k then l.head? else successor k l

def start (w : W) : Progress W K where
  world := w
  cursor := (T.nodes w).head?
  visited := []
  acted := []
  fault := false

def visit (k : K) (s : Progress W K) : Progress W K :=
  let r := T.body k s.world
  { s with
    world := r.1
    visited := s.visited ++ [k]
    acted := if r.2 then s.acted ++ [k] else s.acted }

/-- Use the cursor, which is at `k`. -/
def touch (k : K) (next : Progress W K → Progress W K) (s : Progress W K) : Progress W K :=
  if k ∈ T.nodes s.world then next s else { s with fault := true }

def advance (k : K) (s : Progress W K) : Progress W K :=
  T.touch k (fun s => { s with cursor := successor k (T.nodes s.world) }) s

/-- A round of a loop that moves on after the body. -/
def rangeRound (s : Progress W K) : Progress W K :=
  match s.cursor with
  | none => s
  | some k => if s.fault then s else T.touch k (fun s => T.advance k (T.visit k s)) s

/-- A round of a loop that moves on before the body. -/
def eagerRound (s : Progress W K) : Progress W K :=
  match s.cursor with
  | none => s
  | some k => if s.fault then s else T.touch k (fun s => T.visit k (T.advance k s)) s

def rangeFor (w : W) : Progress W K := T.rangeRound^[(T.nodes w).length] (T.start w)

def eagerFor (w : W) : Progress W K := T.eagerRound^[(T.nodes w).length] (T.start w)

/-- The loop is over, used its cursor properly, was at every node of `w` once and
acted on those that `acts` picks. -/
structure Complete (acts : K → W → Bool) (w : W) (s : Progress W K) : Prop where
  finished : s.cursor = none
  sound : s.fault = false
  visited : s.visited = T.nodes w
  acted : s.acted = (T.nodes w).filter (acts · w)

/-- In the states `I` the body at a node acts as `acts` says, takes the node out
when `drops` says so, and affects no other node. -/
structure Orderly (I : W → Prop) (acts drops : K → W → Bool) : Prop where
  keeps : ∀ {w k}, I w → k ∈ T.nodes w → I (T.body k w).1
  nodup : ∀ {w}, I w → (T.nodes w).Nodup
  nodes : ∀ {w k}, I w → k ∈ T.nodes w →
    T.nodes (T.body k w).1 = if drops k w then (T.nodes w).erase k else T.nodes w
  flag : ∀ {w k}, I w → k ∈ T.nodes w → (T.body k w).2 = acts k w
  frame : ∀ {w j k}, I w → k ∈ T.nodes w → j ∈ T.nodes w → j ≠ k →
    acts j (T.body k w).1 = acts j w ∧ drops j (T.body k w).1 = drops j w

end Loops

/-! ### Invariants -/

section Invariants

variable [DecidableEq K] {T : Traversal W K} {P : W → Prop}
  (hbody : ∀ w k, P w → P (T.body k w).1)
include hbody

theorem rangeRound_keeps {s : Progress W K} (h : P s.world) : P (T.rangeRound s).world := by
  rw [rangeRound]
  split
  · exact h
  · next k _ =>
    split
    · exact h
    · rw [touch]
      split
      · rw [advance, touch]
        split <;> exact hbody s.world k h
      · exact h

theorem eagerRound_keeps {s : Progress W K} (h : P s.world) : P (T.eagerRound s).world := by
  rw [eagerRound]
  split
  · exact h
  · next k _ =>
    split
    · exact h
    · rw [touch]
      split
      · rw [advance, touch]
        split <;> exact hbody s.world k h
      · exact h

/-- What the body keeps, the loops keep. -/
theorem rangeFor_keeps {w : W} (h : P w) : P (T.rangeFor w).world := by
  have hrounds : ∀ n (s : Progress W K), P s.world → P (T.rangeRound^[n] s).world := by
    intro n
    induction n with
    | zero => exact fun s hs => hs
    | succ n ih => exact fun s hs => ih _ (rangeRound_keeps hbody hs)
  exact hrounds _ _ h

theorem eagerFor_keeps {w : W} (h : P w) : P (T.eagerFor w).world := by
  have hrounds : ∀ n (s : Progress W K), P s.world → P (T.eagerRound^[n] s).world := by
    intro n
    induction n with
    | zero => exact fun s hs => hs
    | succ n ih => exact fun s hs => ih _ (eagerRound_keeps hbody hs)
  exact hrounds _ _ h

end Invariants

/-! ### One round -/

section Rounds

variable [DecidableEq K] {T : Traversal W K} {I : W → Prop} {acts drops : K → W → Bool}

theorem successor_append {before : List K} {k : K} (rest : List K) (h : k ∉ before) :
    successor k (before ++ k :: rest) = rest.head? := by
  induction before with
  | nil =>
    rw [List.nil_append, successor, if_pos rfl]
  | cons a before ih =>
    rw [List.mem_cons, not_or] at h
    rw [List.cons_append, successor, if_neg fun ha => h.1 ha.symm]
    exact ih h.2

/-- A loop that has done its work on `before` and has `rest` to go. -/
structure At (T : Traversal W K) (I : W → Prop) (rest : List K) (s : Progress W K) : Prop where
  inv : I s.world
  sound : s.fault = false
  cursor : s.cursor = rest.head?
  nodes : ∃ before, T.nodes s.world = before ++ rest

omit [DecidableEq K] in
theorem At.mem {k : K} {rest : List K} {s : Progress W K} (h : At T I (k :: rest) s) :
    k ∈ T.nodes s.world := by
  obtain ⟨before, hnodes⟩ := h.nodes
  rw [hnodes]
  simp

theorem At.head_not_mem (hT : T.Orderly I acts drops) {k : K} {rest : List K} {s : Progress W K}
    (h : At T I (k :: rest) s) : k ∉ rest := by
  obtain ⟨before, hnodes⟩ := h.nodes
  have hnodup := hT.nodup h.inv
  rw [hnodes] at hnodup
  exact (List.nodup_cons.mp hnodup.of_append_right).1

theorem At.successor (hT : T.Orderly I acts drops) {k : K} {rest : List K} {s : Progress W K}
    (h : At T I (k :: rest) s) : Traversal.successor k (T.nodes s.world) = rest.head? := by
  obtain ⟨before, hnodes⟩ := h.nodes
  have hnodup := hT.nodup h.inv
  rw [hnodes] at hnodup ⊢
  exact successor_append rest fun hk =>
    (List.disjoint_of_nodup_append hnodup) hk List.mem_cons_self

/-- After the body, what is still to come is as before. -/
theorem At.visit (hT : T.Orderly I acts drops) {k : K} {rest : List K} {s : Progress W K}
    (h : At T I (k :: rest) s) (c : Option K) (hc : c = rest.head?) :
    At T I rest (T.visit k { s with cursor := c }) where
  inv := hT.keeps h.inv h.mem
  sound := h.sound
  cursor := hc
  nodes := by
    obtain ⟨before, hnodes⟩ := h.nodes
    have hbody := hT.nodes h.inv h.mem
    have hnodup := hT.nodup h.inv
    rw [hnodes] at hbody hnodup
    have hk : k ∉ before := fun hk =>
      (List.disjoint_of_nodup_append hnodup) hk List.mem_cons_self
    split at hbody
    · refine ⟨before, hbody.trans ?_⟩
      rw [List.erase_append_right _ hk, List.erase_cons_head]
    · exact ⟨before ++ [k], by rw [List.append_assoc]; exact hbody⟩

/-- What the body does to the record of the loop. -/
theorem At.visit_acted (hT : T.Orderly I acts drops) {k : K} {rest : List K} {s : Progress W K}
    (h : At T I (k :: rest) s) (c : Option K) :
    (T.visit k { s with cursor := c }).acted ++
        rest.filter (acts · (T.visit k { s with cursor := c }).world) =
      s.acted ++ (k :: rest).filter (acts · s.world) := by
  have hrest : rest.filter (acts · (T.body k s.world).1) = rest.filter (acts · s.world) := by
    refine List.filter_congr fun j hj => (hT.frame h.inv h.mem ?_ ?_).1
    · obtain ⟨before, hnodes⟩ := h.nodes
      rw [hnodes]
      exact List.mem_append_right _ (List.mem_cons_of_mem _ hj)
    · rintro rfl
      exact h.head_not_mem hT hj
  show (if (T.body k s.world).2 then s.acted ++ [k] else s.acted) ++
    rest.filter (acts · (T.body k s.world).1) = _
  rw [hrest, hT.flag h.inv h.mem, List.filter_cons]
  split
  · rw [List.append_assoc]
    rfl
  · rfl

theorem At.drops_rest (hT : T.Orderly I acts drops) {k : K} {rest : List K} {s : Progress W K}
    (h : At T I (k :: rest) s) {j : K} (hj : j ∈ rest) :
    drops j (T.body k s.world).1 = drops j s.world := by
  refine (hT.frame h.inv h.mem ?_ ?_).2
  · obtain ⟨before, hnodes⟩ := h.nodes
    rw [hnodes]
    exact List.mem_append_right _ (List.mem_cons_of_mem _ hj)
  · rintro rfl
    exact h.head_not_mem hT hj

theorem At.eagerRound (hT : T.Orderly I acts drops) {k : K} {rest : List K} {s : Progress W K}
    (h : At T I (k :: rest) s) :
    T.eagerRound s = T.visit k { s with cursor := rest.head? } := by
  rw [Traversal.eagerRound, h.cursor, List.head?_cons]
  dsimp only
  rw [if_neg (by simp [h.sound]), touch, if_pos h.mem, advance, touch, if_pos h.mem,
    h.successor hT]

/-- A round of the other loop, when the node is still there after the body. -/
theorem At.rangeRound (hT : T.Orderly I acts drops) {k : K} {rest : List K} {s : Progress W K}
    (h : At T I (k :: rest) s) (hk : drops k s.world = false) :
    T.rangeRound s = T.visit k { s with cursor := rest.head? } := by
  have hnodes := hT.nodes h.inv h.mem
  rw [if_neg (by simp [hk])] at hnodes
  rw [Traversal.rangeRound, h.cursor, List.head?_cons]
  dsimp only
  rw [if_neg (by simp [h.sound]), touch, if_pos h.mem, advance, touch]
  show (if k ∈ T.nodes (T.body k s.world).1 then _ else _) = _
  rw [hnodes, if_pos h.mem]
  show ({ T.visit k s with cursor := Traversal.successor k (T.nodes (T.body k s.world).1) } :
    Progress W K) = _
  rw [hnodes, h.successor hT]
  rfl

/-- The node is gone when the cursor is to move on. -/
theorem At.rangeRound_fault (hT : T.Orderly I acts drops) {k : K} {rest : List K}
    {s : Progress W K} (h : At T I (k :: rest) s) (hk : drops k s.world = true) :
    (T.rangeRound s).fault = true := by
  have hnodes := hT.nodes h.inv h.mem
  rw [if_pos hk] at hnodes
  have hgone : k ∉ T.nodes (T.body k s.world).1 := by
    rw [hnodes]
    exact (hT.nodup h.inv).not_mem_erase
  rw [Traversal.rangeRound, h.cursor, List.head?_cons]
  dsimp only
  rw [if_neg (by simp [h.sound]), touch, if_pos h.mem, advance, touch]
  show Progress.fault (if k ∈ T.nodes (T.body k s.world).1 then _ else _) = true
  rw [if_neg hgone]

theorem rangeRound_stuck {s : Progress W K} (h : s.fault = true) (n : ℕ) :
    T.rangeRound^[n] s = s := by
  have hround : T.rangeRound s = s := by
    rw [Traversal.rangeRound]
    split
    · rfl
    · rw [if_pos h]
  exact Function.iterate_fixed hround n

end Rounds

/-! ### Whole loops -/

section Runs

variable [DecidableEq K] {T : Traversal W K} {I : W → Prop} {acts drops : K → W → Bool}
  (hT : T.Orderly I acts drops)
include hT

/-- What is left of a loop that moves on first. -/
theorem eagerRound_iterate {rest : List K} {s : Progress W K} (h : At T I rest s) :
    let r := T.eagerRound^[rest.length] s
    r.cursor = none ∧ r.fault = false ∧ r.visited = s.visited ++ rest ∧
      r.acted = s.acted ++ rest.filter (acts · s.world) := by
  induction rest generalizing s with
  | nil => exact ⟨h.cursor, h.sound, (List.append_nil _).symm, (List.append_nil _).symm⟩
  | cons k rest ih =>
    obtain ⟨hover, hsound, hvisited, hacted⟩ := ih (h.visit hT rest.head? rfl)
    rw [List.length_cons, Function.iterate_succ_apply, h.eagerRound hT]
    refine ⟨hover, hsound, hvisited.trans ?_, hacted.trans (h.visit_acted hT _)⟩
    exact List.append_assoc _ _ _

/-- What is left of a loop that moves on last. -/
theorem rangeRound_iterate {rest : List K} {s : Progress W K} (h : At T I rest s) :
    let r := T.rangeRound^[rest.length] s
    (r.fault = false ↔ ∀ k ∈ rest, drops k s.world = false) ∧
      (r.fault = false → r.cursor = none ∧ r.visited = s.visited ++ rest ∧
        r.acted = s.acted ++ rest.filter (acts · s.world)) := by
  induction rest generalizing s with
  | nil =>
    exact ⟨⟨fun _ _ hk => (List.not_mem_nil hk).elim, fun _ => h.sound⟩,
      fun _ => ⟨h.cursor, (List.append_nil _).symm, (List.append_nil _).symm⟩⟩
  | cons k rest ih =>
    rw [List.length_cons, Function.iterate_succ_apply]
    cases hk : drops k s.world with
    | true =>
      have hfault := h.rangeRound_fault hT hk
      -- the loop has lost its place, and no later round finds it
      rw [rangeRound_stuck hfault]
      refine ⟨⟨fun hsound => ?_, fun hall => ?_⟩, fun hsound => ?_⟩
      · rw [hfault] at hsound
        cases hsound
      · rw [hall k List.mem_cons_self] at hk
        cases hk
      · rw [hfault] at hsound
        cases hsound
    | false =>
      obtain ⟨hiff, hrun⟩ := ih (h.visit hT rest.head? rfl)
      rw [h.rangeRound hT hk]
      refine ⟨hiff.trans ?_, fun hsound => ?_⟩
      · rw [List.forall_mem_cons]
        constructor
        -- visiting one node does not change which of the others are dropped
        · exact fun hall => ⟨hk, fun j hj => (h.drops_rest hT hj).symm.trans (hall j hj)⟩
        · exact fun hall j hj => (h.drops_rest hT hj).trans (hall.2 j hj)
      · obtain ⟨hover, hvisited, hacted⟩ := hrun hsound
        exact ⟨hover, hvisited.trans (List.append_assoc _ _ _),
          hacted.trans (h.visit_acted hT _)⟩

omit [DecidableEq K] hT in
theorem start_at {w : W} (hw : I w) : At T I (T.nodes w) (T.start w) :=
  ⟨hw, rfl, rfl, [], rfl⟩

/-- A loop that moves on first visits every node, whatever the bodies take out. -/
theorem eagerFor_complete {w : W} (hw : I w) : T.Complete acts w (T.eagerFor w) := by
  obtain ⟨hover, hsound, hvisited, hacted⟩ := eagerRound_iterate hT (start_at hw)
  exact ⟨hover, hsound, hvisited, hacted⟩

/-- A loop that moves on last visits every node exactly when no body takes out the
node it is at. -/
theorem rangeFor_complete_iff {w : W} (hw : I w) :
    T.Complete acts w (T.rangeFor w) ↔ ∀ k ∈ T.nodes w, drops k w = false := by
  obtain ⟨hiff, hrun⟩ := rangeRound_iterate hT (start_at hw)
  constructor
  · exact fun h => hiff.mp h.sound
  · intro hall
    have hsound := hiff.mpr hall
    obtain ⟨hover, hvisited, hacted⟩ := hrun hsound
    exact ⟨hover, hsound, hvisited, hacted⟩

end Runs

end Traversal
