/-
The route table of the control plane.

Routes are created, changed, swapped and deleted by requests, each of them one
transaction, which also counts the table's version up.  The engine gets snapshots of
the table, and tells them apart by version.

* `RouteDb` — the two tables, with the constraint on priorities;
* `createRoute`, `updateRoute`, `swapRoute`, `deleteRoute` — the transactions;
* `getRouteSnapshot` — what the engine gets;
* `RouteDb.Valid` — what holds between requests;
* `Lawful` — what a request owes the table: a successful one counts the version up by
  one, a failed one changes nothing, a swap keeps priorities unique at every write;
* `requests_lawful` — every sequence of requests, failing at any statement.

Design notes: a rule that is inserted takes an id from a sequence, which is not
rolled back.  The reads of a snapshot see one state of the tables.
-/
import SbcEngine.Transactions
import SbcEngine.Runs
import Mathlib.Data.List.AList
import Mathlib.Data.List.Sort

namespace SbcEngine

open Transactions

/-! ### The tables -/

inductive RouteCodec where
  | g722
  | pcmu
  | pcma
  deriving DecidableEq, Repr

/-- A row of `route_rules`. -/
structure RouteRule where
  id : ℕ
  tableId : String
  priority : ℤ
  uri : String
  sipAddress : String
  port : ℤ
  codec : Option RouteCodec
  deriving DecidableEq, Repr

/-- `route_tables` has the versions; `nextId` is the sequence of the rules' ids. -/
structure RouteDb where
  tables : AList fun _ : String => ℤ
  rules : List RouteRule
  nextId : ℕ

def RouteRule.key (rule : RouteRule) : String × ℤ := (rule.tableId, rule.priority)

/-- `unique(table_id, priority)` -/
def UniquePriorities (rules : List RouteRule) : Prop :=
  rules.Pairwise fun a b => a.key ≠ b.key

instance (rules : List RouteRule) : Decidable (UniquePriorities rules) :=
  inferInstanceAs (Decidable (rules.Pairwise fun a b => a.key ≠ b.key))

inductive RouteError where
  | notFound (message : String)
  | conflict (message : String)
  | uniqueViolation
  | noRow
  | statementFailed
  deriving DecidableEq, Repr

/-! ### Requests -/

/-- The columns a request sets, as `routeBodySchema` admits them. -/
structure RouteColumns where
  uri : String
  sipAddress : String
  port : ℤ
  codec : Option RouteCodec
  uri_ne : uri ≠ ""
  sipAddress_ne : sipAddress ≠ ""
  port_range : 1 ≤ port ∧ port ≤ 65535

/-- `z.coerce.number().int().min(1)` -/
abbrev Priority := { priority : ℤ // 1 ≤ priority }

inductive RouteRequest where
  | create (priority : Priority) (columns : RouteColumns)
  | update (current : Priority) (priority : Priority) (columns : RouteColumns)
  | swap (current : Priority) (target : Priority) (columns : RouteColumns)
  | delete (priority : Priority)

structure SipRouteRule where
  uri : String
  sipAddress : String
  port : ℤ
  codec : Option RouteCodec
  deriving DecidableEq, Repr

def toRouteRule (rule : RouteRule) : SipRouteRule where
  uri := rule.uri
  sipAddress := rule.sipAddress
  port := rule.port
  codec := rule.codec

def defaultTableId : String := "default"

/-- A rule with the columns of a request. -/
def RouteRule.set (priority : ℤ) (columns : RouteColumns) (rule : RouteRule) : RouteRule :=
  { rule with
    priority := priority
    uri := columns.uri
    sipAddress := columns.sipAddress
    port := columns.port
    codec := columns.codec }

namespace RouteDb

/-- Writes on rules are checked against the constraint on priorities. -/
def writeRules {A : Type} (fails : ℕ → Option RouteError) (f : RouteDb → A × RouteDb) :
    Tx RouteDb RouteError A :=
  write fails (fun d => UniquePriorities d.rules) .uniqueViolation f

/-- Change the rules that meet a condition; the rows as they are then. -/
def updateWhere (p : RouteRule → Bool) (f : RouteRule → RouteRule) (d : RouteDb) :
    List RouteRule × RouteDb :=
  ((d.rules.filter p).map f, { d with rules := d.rules.map fun rule => if p rule then f rule else rule })

def setPriority (id : ℕ) (priority : ℤ) : RouteDb → List RouteRule × RouteDb :=
  updateWhere (fun rule => rule.id = id) fun rule => { rule with priority := priority }

def setColumns (id : ℕ) (priority : ℤ) (columns : RouteColumns) :
    RouteDb → List RouteRule × RouteDb :=
  updateWhere (fun rule => rule.id = id) (RouteRule.set priority columns)

section Transaction

variable (fails : ℕ → Option RouteError)

def getDefaultTable : Tx RouteDb RouteError String := do
  let table ← read fails fun d => d.tables.lookup defaultTableId
  match table with
  | none => throw (.notFound "Route table 'default' not found")
  | some _ => pure defaultTableId

/-- Count the version up; the row must be there. -/
def bumpTableVersion (tableId : String) : Tx RouteDb RouteError ℤ := do
  let row ← write fails (fun _ => true) .uniqueViolation fun d =>
    match d.tables.lookup tableId with
    | none => (none, d)
    | some version => (some (version + 1), { d with tables := d.tables.insert tableId (version + 1) })
  match row with
  | none => throw .noRow
  | some version => pure version

def createRoute (priority : Priority) (columns : RouteColumns) : Tx RouteDb RouteError SipRouteRule := do
  let tableId ← getDefaultTable fails
  let created ← writeRules fails fun d =>
    let row : RouteRule := ⟨d.nextId, tableId, priority.1, columns.uri, columns.sipAddress,
      columns.port, columns.codec⟩
    (row, { d with rules := d.rules ++ [row], nextId := d.nextId + 1 })
  let _ ← bumpTableVersion fails tableId
  pure (toRouteRule created)

def updateRoute (current priority : Priority) (columns : RouteColumns) :
    Tx RouteDb RouteError SipRouteRule := do
  let tableId ← getDefaultTable fails
  let rows ← writeRules fails (updateWhere (fun rule => rule.key = (tableId, current.1))
    (RouteRule.set priority.1 columns))
  match rows.head? with
  | none => throw (.notFound s!"Route with priority {current} not found")
  | some row => do
    let _ ← bumpTableVersion fails tableId
    pure (toRouteRule row)

/-- The target is parked on a priority no live row holds, then both rows move. -/
def swapRoute (current target : Priority) (columns : RouteColumns) :
    Tx RouteDb RouteError (Option SipRouteRule) := do
  let tableId ← getDefaultTable fails
  let rows ← read fails fun d =>
    (d.rules.filter fun rule =>
      rule.key = (tableId, current.1) ∨ rule.key = (tableId, target.1)).mergeSort fun a b => a.id ≤ b.id
  match rows.find? fun row => row.priority = current.1 with
  | none => throw (.notFound s!"Route with priority {current} not found")
  | some sourceRow =>
    match rows.find? fun row => row.priority = target.1 with
    | none => throw (.conflict s!"Route with priority {target} no longer exists")
    | some targetRow => do
      let _ ← writeRules fails (setPriority targetRow.id (-targetRow.id))
      let updatedSource ← writeRules fails (setColumns sourceRow.id target.1 columns)
      let _ ← writeRules fails (setPriority targetRow.id current.1)
      let _ ← bumpTableVersion fails tableId
      pure (updatedSource.head?.map toRouteRule)

def deleteRoute (priority : Priority) : Tx RouteDb RouteError Unit := do
  let tableId ← getDefaultTable fails
  let rows ← writeRules fails fun d =>
    (d.rules.filter fun rule => rule.key = (tableId, priority.1),
      { d with rules := d.rules.filter fun rule => rule.key ≠ (tableId, priority.1) })
  match rows.head? with
  | none => throw (.notFound s!"Route with priority {priority} not found")
  | some _ => do
    let _ ← bumpTableVersion fails tableId
    pure ()

def transaction : RouteRequest → Tx RouteDb RouteError (Option SipRouteRule)
  | .create priority columns => do
    let rule ← createRoute fails priority columns
    pure (some rule)
  | .update current priority columns => do
    let rule ← updateRoute fails current priority columns
    pure (some rule)
  | .swap current target columns => swapRoute fails current target columns
  | .delete priority => do
    deleteRoute fails priority
    pure none

end Transaction

/-- Everything is rolled back but the sequence of ids. -/
def rollback (d copy : RouteDb) : RouteDb := { d with nextId := copy.nextId }

/-- A request, and the statements of it that fail. -/
structure Attempt where
  request : RouteRequest
  fails : ℕ → Bool

/-- The answer, the tables after the request and the tables as each write left them. -/
def attempt (d : RouteDb) (a : Attempt) :
    Except RouteError (Option SipRouteRule) × RouteDb × List RouteDb :=
  commit rollback
    (transaction (fun n => if a.fails n then some .statementFailed else none) a.request) d

def serve (d : RouteDb) (a : Attempt) : RouteDb := (d.attempt a).2.1

def Succeeds (d : RouteDb) (a : Attempt) : Prop := (d.attempt a).1.isOk = true

instance (d : RouteDb) (a : Attempt) : Decidable (d.Succeeds a) :=
  inferInstanceAs (Decidable ((d.attempt a).1.isOk = true))

/-! ### Snapshots -/

structure SipRouteSnapshot where
  tableId : String
  version : ℤ
  routes : List (ℤ × SipRouteRule)
  deriving DecidableEq, Repr

def version (d : RouteDb) : Option ℤ := d.tables.lookup defaultTableId

/-- The routes by priority; both reads see the same state. -/
def getRouteSnapshot (d : RouteDb) : Except RouteError SipRouteSnapshot :=
  match d.version with
  | none => .error (.notFound "Route table 'default' not found")
  | some version =>
    let rules := (d.rules.filter fun rule => rule.tableId = defaultTableId).mergeSort
      fun a b => a.priority ≤ b.priority
    .ok ⟨defaultTableId, version, rules.map fun rule => (rule.priority, toRouteRule rule)⟩

/-! ### Between requests -/

/-- Between requests priorities are unique and positive, and ids are unique and come
from the sequence. -/
structure Valid (d : RouteDb) : Prop where
  unique : UniquePriorities d.rules
  positive : ∀ rule ∈ d.rules, 1 ≤ rule.priority
  ids : d.rules.Pairwise fun a b => a.id ≠ b.id
  issued : ∀ rule ∈ d.rules, 1 ≤ rule.id ∧ rule.id < d.nextId
  sequence : 1 ≤ d.nextId

/-- The rule at a priority is set to the columns of the request and moves to the
target, the rule there moves to the priority; every other rule stays. -/
def Swapped (d d' : RouteDb) (current target : ℤ) (columns : RouteColumns) : Prop :=
  ∃ source ∈ d.rules, source.key = (defaultTableId, current) ∧
    ∃ other ∈ d.rules, other.key = (defaultTableId, target) ∧
      d'.rules = d.rules.map fun rule =>
        if rule.id = source.id then rule.set target columns
        else if rule.id = other.id then { rule with priority := current }
        else rule

/-- What a request owes the tables. -/
structure Lawful (d : RouteDb) (a : Attempt) : Prop where
  unique : UniquePriorities (d.serve a).rules
  inBetween : ∀ current target columns, a.request = .swap current target columns →
    ∀ d' ∈ (d.attempt a).2.2, UniquePriorities d'.rules
  swapped : ∀ current target columns, a.request = .swap current target columns →
    d.Succeeds a → Swapped d (d.serve a) current.1 target.1 columns
  counted : d.Succeeds a → ∃ version, d.version = some version ∧
    (d.serve a).version = some (version + 1)
  failed : ¬ d.Succeeds a → (d.serve a).tables = d.tables ∧ (d.serve a).rules = d.rules

/-! ### The statements -/

section Statements

variable {fails : ℕ → Option RouteError} {d : RouteDb} {l : List RouteDb}
  {F : RouteError → RouteDb → List RouteDb → Prop}

theorem getDefaultTable_spec (hfail : ∀ e, F e d l) :
    Spec d l (getDefaultTable fails)
      (fun tableId d' l' => tableId = defaultTableId ∧ d = d' ∧ l = l' ∧ ∃ v, d.version = some v) F := by
  refine Spec.read_bind (fun _ e _ => hfail e) ?_
  cases hversion : d.tables.lookup defaultTableId with
  | none => exact Spec.throw (hfail _)
  | some v => exact Spec.pure ⟨rfl, rfl, rfl, v, hversion⟩

/-- The tables with the version of the default one counted up. -/
def bumped (d : RouteDb) (v : ℤ) : RouteDb :=
  { d with tables := d.tables.insert defaultTableId (v + 1) }

theorem bumpTableVersion_spec {v : ℤ} (hversion : d.version = some v) (hfail : ∀ e, F e d l) :
    Spec d l (bumpTableVersion fails defaultTableId)
      (fun _ d' l' => d' = d.bumped v ∧ l' = l ++ [d.bumped v]) F := by
  rw [version] at hversion
  refine Spec.write_bind (fun _ e _ => hfail e) (fun hviolation => by cases hviolation) fun _ => ?_
  rw [hversion]
  exact Spec.pure ⟨rfl, rfl⟩

/-- A write of rules at the head of a transaction. -/
theorem writeRules_bind {A B : Type} {f : RouteDb → A × RouteDb} {k : A → Tx RouteDb RouteError B}
    {Q : B → RouteDb → List RouteDb → Prop} (hfail : ∀ e, F e d l)
    (hviolation : ¬ UniquePriorities (f d).2.rules → F .uniqueViolation (f d).2 (l ++ [(f d).2]))
    (hok : UniquePriorities (f d).2.rules → Spec (f d).2 (l ++ [(f d).2]) (k (f d).1) Q F) :
    Spec d l (writeRules fails f >>= k) Q F :=
  Spec.write_bind (fun _ e _ => hfail e) (fun hnot => hviolation (of_decide_eq_false hnot))
    fun hkept => hok (of_decide_eq_true hkept)

end Statements

/-! ### Requests that do not swap -/

/-- The tables are as between requests, and the version is counted up. -/
structure Done (d d' : RouteDb) : Prop where
  valid : d'.Valid
  counted : ∃ v, d.version = some v ∧ d'.version = some (v + 1)

theorem bumped_done {d d' : RouteDb} {v : ℤ} (hd' : d'.Valid) (hversion : d.version = some v) :
    Done d (d'.bumped v) where
  valid := ⟨hd'.unique, hd'.positive, hd'.ids, hd'.issued, hd'.sequence⟩
  counted := by
    refine ⟨v, hversion, ?_⟩
    rw [version, bumped, AList.lookup_insert]

theorem Valid.map {d : RouteDb} (hd : d.Valid) {f : RouteRule → RouteRule}
    (hids : ∀ rule, (f rule).id = rule.id) (hpositive : ∀ rule ∈ d.rules, 1 ≤ (f rule).priority)
    (hunique : UniquePriorities (d.rules.map f)) : Valid { d with rules := d.rules.map f } where
  unique := hunique
  positive rule hrule := by
    obtain ⟨rule, hmem, rfl⟩ := List.mem_map.mp hrule
    exact hpositive rule hmem
  ids := by
    refine List.pairwise_map.mpr (hd.ids.imp fun hne => ?_)
    rw [hids, hids]
    exact hne
  issued rule hrule := by
    obtain ⟨rule, hmem, rfl⟩ := List.mem_map.mp hrule
    rw [hids]
    exact hd.issued rule hmem
  sequence := hd.sequence

section Plain

variable {fails : ℕ → Option RouteError} {d : RouteDb}

theorem createRoute_spec (hd : d.Valid) (priority : Priority) (columns : RouteColumns) :
    Spec d [] (createRoute fails priority columns) (fun _ d' _ => Done d d')
      (fun _ copy _ => d.nextId ≤ copy.nextId) := by
  refine Spec.bind (getDefaultTable_spec fun _ => Nat.le_refl _) ?_
  rintro _ _ _ ⟨rfl, rfl, rfl, v, hversion⟩
  refine writeRules_bind (fun _ => Nat.le_refl _) (fun _ => Nat.le_succ _) fun hunique => ?_
  refine Spec.bind (bumpTableVersion_spec (v := v) hversion fun _ => Nat.le_succ _) ?_
  rintro _ _ _ ⟨rfl, rfl⟩
  refine Spec.pure (bumped_done ?_ hversion)
  refine ⟨hunique, fun rule hrule => ?_, ?_, fun rule hrule => ?_, Nat.le_add_left _ _⟩
  · rcases List.mem_append.mp hrule with hold | hnew
    · exact hd.positive rule hold
    · rw [List.mem_singleton.mp hnew]
      exact priority.2
  · -- the new id comes after all others
    refine List.pairwise_append.mpr ⟨hd.ids, List.pairwise_singleton _ _, fun a ha b hb => ?_⟩
    rw [List.mem_singleton.mp hb]
    exact Nat.ne_of_lt (hd.issued a ha).2
  · rcases List.mem_append.mp hrule with hold | hnew
    · exact ⟨(hd.issued rule hold).1, Nat.lt_succ_of_lt (hd.issued rule hold).2⟩
    · rw [List.mem_singleton.mp hnew]
      exact ⟨hd.sequence, Nat.lt_succ_self _⟩

theorem updateRoute_spec (hd : d.Valid) (current priority : Priority) (columns : RouteColumns) :
    Spec d [] (updateRoute fails current priority columns) (fun _ d' _ => Done d d')
      (fun _ copy _ => d.nextId ≤ copy.nextId) := by
  refine Spec.bind (getDefaultTable_spec fun _ => Nat.le_refl _) ?_
  rintro _ _ _ ⟨rfl, rfl, rfl, v, hversion⟩
  refine writeRules_bind (fun _ => Nat.le_refl _) (fun _ => Nat.le_refl _) fun hunique => ?_
  cases (updateWhere _ _ d).1.head? with
  | none => exact Spec.throw (Nat.le_refl _)
  | some row =>
    refine Spec.bind (bumpTableVersion_spec (v := v) hversion fun _ => Nat.le_refl _) ?_
    rintro _ _ _ ⟨rfl, rfl⟩
    refine Spec.pure (bumped_done (hd.map ?_ ?_ hunique) hversion)
    · intro rule
      split_ifs
      · rfl
      · rfl
    · intro rule hrule
      split_ifs
      · exact priority.2
      · exact hd.positive rule hrule

theorem deleteRoute_spec (hd : d.Valid) (priority : Priority) :
    Spec d [] (deleteRoute fails priority) (fun _ d' _ => Done d d')
      (fun _ copy _ => d.nextId ≤ copy.nextId) := by
  refine Spec.bind (getDefaultTable_spec fun _ => Nat.le_refl _) ?_
  rintro _ _ _ ⟨rfl, rfl, rfl, v, hversion⟩
  refine writeRules_bind (fun _ => Nat.le_refl _) (fun _ => Nat.le_refl _) fun hunique => ?_
  dsimp only
  cases (d.rules.filter _).head? with
  | none => exact Spec.throw (Nat.le_refl _)
  | some row =>
    refine Spec.bind (bumpTableVersion_spec (v := v) hversion fun _ => Nat.le_refl _) ?_
    rintro _ _ _ ⟨rfl, rfl⟩
    refine Spec.pure (bumped_done ⟨hunique, ?_, hd.ids.filter _, ?_, hd.sequence⟩ hversion)
    · exact fun rule hrule => hd.positive rule (List.mem_of_mem_filter hrule)
    · exact fun rule hrule => hd.issued rule (List.mem_of_mem_filter hrule)

end Plain

/-! ### Swaps -/

section Swap

variable {d : RouteDb}

theorem mem_updateWhere {p : RouteRule → Bool} {f : RouteRule → RouteRule} {rule : RouteRule}
    (h : rule ∈ (updateWhere p f d).2.rules) :
    ∃ before ∈ d.rules, rule = if p before then f before else before := by
  obtain ⟨before, hmem, rfl⟩ := List.mem_map.mp h
  exact ⟨before, hmem, rfl⟩

/-- A rule can move to a priority that no other rule has. -/
theorem unique_updateWhere (hids : d.rules.Pairwise fun a b => a.id ≠ b.id)
    (hunique : UniquePriorities d.rules) {i : ℕ} {f : RouteRule → RouteRule}
    (hnew : ∀ a ∈ d.rules, a.id = i → ∀ b ∈ d.rules, b.id ≠ i → (f a).key ≠ b.key) :
    UniquePriorities (updateWhere (fun rule => rule.id = i) f d).2.rules := by
  refine List.pairwise_map.mpr ((hids.and hunique).imp_of_mem ?_)
  rintro a b ha hb ⟨hid, hkey⟩
  simp only [decide_eq_true_eq]
  by_cases hai : a.id = i
  · have hbi : b.id ≠ i := fun hbi => hid (hai.trans hbi.symm)
    rw [if_pos hai, if_neg hbi]
    exact hnew a ha hai b hb hbi
  · rw [if_neg hai]
    by_cases hbi : b.id = i
    · rw [if_pos hbi]
      exact (hnew b hb hbi a ha hai).symm
    · rw [if_neg hbi]
      exact hkey

theorem Valid.eq_of_id (hd : d.Valid) {a b : RouteRule} (ha : a ∈ d.rules) (hb : b ∈ d.rules)
    (h : a.id = b.id) : a = b :=
  List.inj_on_of_nodup_map (List.pairwise_map.mpr hd.ids) ha hb h

theorem Valid.eq_of_key (hd : d.Valid) {a b : RouteRule} (ha : a ∈ d.rules) (hb : b ∈ d.rules)
    (h : a.key = b.key) : a = b :=
  List.inj_on_of_nodup_map (List.pairwise_map.mpr hd.unique) ha hb h

variable (hd : d.Valid) {source target : RouteRule} (hsource : source ∈ d.rules)
  (htarget : target ∈ d.rules) {current goal : ℤ} (hcurrent : source.key = (defaultTableId, current))
  (hgoal : target.key = (defaultTableId, goal))

/-- The tables with the target parked. -/
def parked (d : RouteDb) (target : RouteRule) : RouteDb :=
  (setPriority target.id (-target.id) d).2

/-- The tables with the target parked and the source in its place. -/
def moved (d : RouteDb) (source target : RouteRule) (goal : ℤ) (columns : RouteColumns) : RouteDb :=
  (setColumns source.id goal columns (d.parked target)).2

/-- The tables after the three writes of a swap. -/
def swapped (d : RouteDb) (source target : RouteRule) (current goal : ℤ) (columns : RouteColumns) :
    RouteDb :=
  (setPriority target.id current (d.moved source target goal columns)).2

theorem ids_updateWhere (hids : d.rules.Pairwise fun a b => a.id ≠ b.id) {p : RouteRule → Bool}
    {f : RouteRule → RouteRule} (hf : ∀ rule, (f rule).id = rule.id) :
    (updateWhere p f d).2.rules.Pairwise fun a b => a.id ≠ b.id := by
  refine List.pairwise_map.mpr (hids.imp fun {a b} hne => ?_)
  have hsame : ∀ rule : RouteRule, (if p rule then f rule else rule).id = rule.id := by
    intro rule
    split_ifs
    · exact hf rule
    · rfl
  rw [hsame, hsame]
  exact hne

theorem mem_parked {b : RouteRule} (h : b ∈ (d.parked target).rules) :
    ∃ before ∈ d.rules, b.id = before.id ∧ b.tableId = before.tableId ∧
      (b.id = target.id ∧ b.priority = -target.id ∨ b.id ≠ target.id ∧ b = before) := by
  obtain ⟨before, hbefore, rfl⟩ := mem_updateWhere h
  refine ⟨before, hbefore, ?_⟩
  by_cases hid : before.id = target.id
  · rw [if_pos (decide_eq_true hid)]
    exact ⟨rfl, rfl, .inl ⟨hid, rfl⟩⟩
  · rw [if_neg (by simpa using hid)]
    exact ⟨rfl, rfl, .inr ⟨hid, rfl⟩⟩

theorem mem_moved {columns : RouteColumns} {b : RouteRule}
    (h : b ∈ (d.moved source target goal columns).rules) :
    ∃ before ∈ d.rules, b.id = before.id ∧ b.tableId = before.tableId ∧
      (b.id = source.id ∧ b.priority = goal ∨
        b.id ≠ source.id ∧ (b.id = target.id ∨ b.id ≠ target.id ∧ b = before)) := by
  obtain ⟨between, hbetween, rfl⟩ := mem_updateWhere h
  obtain ⟨before, hbefore, hid, htable, hcases⟩ := mem_parked hbetween
  refine ⟨before, hbefore, ?_⟩
  by_cases hsource : between.id = source.id
  · rw [if_pos (decide_eq_true hsource)]
    exact ⟨hid, htable, .inl ⟨hsource, rfl⟩⟩
  · rw [if_neg (by simpa using hsource)]
    exact ⟨hid, htable, .inr ⟨hsource, hcases.imp_left And.left⟩⟩

include hd

/-- No rule has a priority below one. -/
theorem parked_unique : UniquePriorities (d.parked target).rules := by
  refine unique_updateWhere hd.ids hd.unique fun a _ _ b hb _ hkey => ?_
  have hpriority : -(target.id : ℤ) = b.priority := congrArg Prod.snd hkey
  have hpositive := hd.positive b hb
  omega

theorem parked_ids : (d.parked target).rules.Pairwise fun a b => a.id ≠ b.id :=
  ids_updateWhere hd.ids fun _ => rfl

theorem moved_ids {columns : RouteColumns} :
    (d.moved source target goal columns).rules.Pairwise fun a b => a.id ≠ b.id :=
  ids_updateWhere (parked_ids hd) fun _ => rfl

include hsource htarget hcurrent hgoal

/-- The only rule with the target's priority is parked. -/
theorem moved_unique (hpositive : 1 ≤ goal) (columns : RouteColumns) :
    UniquePriorities (d.moved source target goal columns).rules := by
  refine unique_updateWhere (parked_ids hd) (parked_unique hd) fun a ha haid b hb _ hkey => ?_
  obtain ⟨asBefore, hasBefore, hsame, htable, -⟩ := mem_parked ha
  obtain rfl := hd.eq_of_id hasBefore hsource (hsame.symm.trans haid)
  obtain ⟨before, hbefore, -, -, ⟨-, hparked⟩ | ⟨hother, rfl⟩⟩ := mem_parked hb
  · have hpriority : goal = b.priority := congrArg Prod.snd hkey
    omega
  · -- such a rule is the target
    have hsameKey : b.key = target.key := by
      rw [hgoal, ← hkey, RouteRule.key]
      exact Prod.ext (htable.trans (congrArg Prod.fst hcurrent)) rfl
    exact hother (congrArg RouteRule.id (hd.eq_of_key hbefore htarget hsameKey))

/-- The only rule with the source's priority has moved. -/
theorem swapped_unique (columns : RouteColumns) (hmoved : UniquePriorities
    (d.moved source target goal columns).rules) :
    UniquePriorities (d.swapped source target current goal columns).rules := by
  refine unique_updateWhere (moved_ids hd) hmoved fun a ha haid b hb hbid hkey => ?_
  obtain ⟨asBefore, hasBefore, hsame, htable, -⟩ := mem_moved ha
  obtain rfl := hd.eq_of_id hasBefore htarget (hsame.symm.trans haid)
  obtain ⟨before, hbefore, hid, -, ⟨hmovedId, hpriority⟩ | ⟨hother, htargetId | ⟨-, rfl⟩⟩⟩ := mem_moved hb
  · -- the source is at the target's priority, which is another one
    have hgoals : current = goal := (congrArg Prod.snd hkey).trans hpriority
    have hsameKey : source.key = asBefore.key := by rw [hcurrent, hgoal, hgoals]
    rw [hd.eq_of_key hsource htarget hsameKey] at hmovedId
    exact hbid hmovedId
  · exact hbid htargetId
  · have hsameKey : b.key = source.key := by
      rw [hcurrent, ← hkey, RouteRule.key]
      exact Prod.ext (htable.trans (congrArg Prod.fst hgoal)) rfl
    exact hother (congrArg RouteRule.id (hd.eq_of_key hbefore hsource hsameKey))

/-- The three writes of a swap, taken together. -/
theorem swapped_rules (columns : RouteColumns) :
    (d.swapped source target current goal columns).rules = d.rules.map fun rule =>
      if rule.id = source.id then rule.set goal columns
      else if rule.id = target.id then { rule with priority := current }
      else rule := by
  have hrules : (d.swapped source target current goal columns).rules = d.rules.map fun rule =>
      let parked := if rule.id = target.id then { rule with priority := -(target.id : ℤ) } else rule
      let moved := if parked.id = source.id then parked.set goal columns else parked
      if moved.id = target.id then { moved with priority := current } else moved := by
    simp [swapped, moved, parked, setPriority, setColumns, updateWhere, Function.comp_def]
  rw [hrules]
  refine List.map_congr_left fun rule hrule => ?_
  dsimp only
  by_cases hs : rule.id = source.id
  · by_cases ht : rule.id = target.id
    · -- a rule that is swapped with itself stays where it is
      have hone : source = target := hd.eq_of_id hsource htarget (hs.symm.trans ht)
      have hgoals : current = goal := by
        rw [hone, hgoal] at hcurrent
        exact (congrArg Prod.snd hcurrent).symm
      have hids : target.id = source.id := by rw [hone]
      simp [hs, hids, RouteRule.set, hgoals]
    · have hids : source.id ≠ target.id := fun h => ht (hs.trans h)
      simp [hs, hids, RouteRule.set]
  · by_cases ht : rule.id = target.id
    · have hids : target.id ≠ source.id := fun h => hs (ht.trans h)
      simp [ht, hids]
    · simp [hs, ht]

end Swap

/-- The rule with a priority, among those a swap has read. -/
theorem mem_of_find {rules : List RouteRule} {current target priority : ℤ} {row : RouteRule}
    (h : ((rules.filter fun rule => rule.key = (defaultTableId, current) ∨
      rule.key = (defaultTableId, target)).mergeSort fun a b => a.id ≤ b.id).find?
        (fun row => row.priority = priority) = some row) :
    row ∈ rules ∧ row.key = (defaultTableId, priority) := by
  have hmem := List.mem_mergeSort.mp (List.mem_of_find?_eq_some h)
  obtain ⟨hrule, hkey⟩ := List.mem_filter.mp hmem
  have hpriority : row.priority = priority := by simpa using List.find?_some h
  refine ⟨hrule, Prod.ext ?_ hpriority⟩
  show row.key.1 = defaultTableId
  rcases of_decide_eq_true hkey with hkey | hkey
  · rw [hkey]
  · rw [hkey]

theorem swapRoute_spec {fails : ℕ → Option RouteError} {d : RouteDb} (hd : d.Valid)
    (current target : Priority) (columns : RouteColumns) :
    Spec d [] (swapRoute fails current target columns)
      (fun _ d' l => Done d d' ∧ Swapped d d' current.1 target.1 columns ∧
        ∀ x ∈ l, UniquePriorities x.rules)
      (fun _ copy l => d.nextId ≤ copy.nextId ∧ ∀ x ∈ l, UniquePriorities x.rules) := by
  have hnone : ∀ x ∈ ([] : List RouteDb), UniquePriorities x.rules := fun _ hx => by cases hx
  have hconcat : ∀ {l : List RouteDb} {x : RouteDb}, (∀ x ∈ l, UniquePriorities x.rules) →
      UniquePriorities x.rules → ∀ y ∈ l ++ [x], UniquePriorities y.rules := by
    intro l x hl hx y hy
    rcases List.mem_append.mp hy with hy | hy
    · exact hl y hy
    · rw [List.mem_singleton.mp hy]
      exact hx
  refine Spec.bind (getDefaultTable_spec fun _ => ⟨Nat.le_refl _, hnone⟩) ?_
  rintro _ _ _ ⟨rfl, rfl, rfl, v, hversion⟩
  refine Spec.read_bind (fun _ _ _ => ⟨Nat.le_refl _, hnone⟩) ?_
  split
  · exact Spec.throw ⟨Nat.le_refl _, hnone⟩
  rename_i source hfindSource
  split
  · exact Spec.throw ⟨Nat.le_refl _, hnone⟩
  rename_i other hfindOther
  obtain ⟨hsource, hcurrent⟩ := mem_of_find hfindSource
  obtain ⟨hother, hgoal⟩ := mem_of_find hfindOther
  -- each of the three writes leaves the priorities unique
  have hparked : UniquePriorities (d.parked other).rules := parked_unique hd
  have hmoved := moved_unique hd hsource hother hcurrent hgoal target.2 columns
  have hswapped := swapped_unique hd hsource hother hcurrent hgoal columns hmoved
  refine writeRules_bind (fun _ => ⟨Nat.le_refl _, hnone⟩) (fun hnot => absurd hparked hnot) fun _ => ?_
  refine writeRules_bind (fun _ => ⟨Nat.le_refl _, hconcat hnone hparked⟩)
    (fun hnot => absurd hmoved hnot) fun _ => ?_
  refine writeRules_bind (fun _ => ⟨Nat.le_refl _, hconcat (hconcat hnone hparked) hmoved⟩)
    (fun hnot => absurd hswapped hnot) fun _ => ?_
  have hwrites := hconcat (hconcat (hconcat hnone hparked) hmoved) hswapped
  refine Spec.bind (bumpTableVersion_spec (v := v) hversion fun _ => ⟨Nat.le_refl _, hwrites⟩) ?_
  rintro _ _ _ ⟨rfl, rfl⟩
  have hrules := swapped_rules hd hsource hother hcurrent hgoal columns
  have hvalid : (d.swapped source other current.1 target.1 columns).Valid := by
    rw [hrules] at hswapped
    have hdb : d.swapped source other current.1 target.1 columns =
        { d with rules := (d.swapped source other current.1 target.1 columns).rules } := rfl
    rw [hdb, hrules]
    refine hd.map (fun rule => ?_) (fun rule hrule => ?_) hswapped
    · split_ifs <;> rfl
    · split_ifs
      · exact target.2
      · exact current.2
      · exact hd.positive rule hrule
  exact Spec.pure ⟨bumped_done hvalid hversion,
    ⟨source, hsource, hcurrent, other, hother, hgoal, hrules⟩, hconcat hwrites hswapped⟩

/-! ### Sequences of requests -/

/-- What a specification says of an attempt. -/
theorem attempt_cases {d : RouteDb} {a : Attempt}
    {Q : Option SipRouteRule → RouteDb → List RouteDb → Prop}
    {F : RouteError → RouteDb → List RouteDb → Prop}
    (h : Spec d [] (transaction (fun n => if a.fails n then some .statementFailed else none) a.request)
      Q F) :
    (d.Succeeds a ∧ ∃ rule, Q rule (d.serve a) (d.attempt a).2.2) ∨
      (¬ d.Succeeds a ∧ ∃ e copy, F e copy (d.attempt a).2.2 ∧ d.serve a = rollback d copy) := by
  have hcommit := Spec.commit rollback h
  rw [Succeeds, serve, attempt]
  rcases hrun : commit rollback _ d with ⟨e | rule, d', l⟩
  · rw [hrun] at hcommit
    obtain ⟨copy, hfails, rfl⟩ := hcommit
    exact .inr ⟨Bool.false_ne_true, e, copy, hfails, rfl⟩
  · rw [hrun] at hcommit
    exact .inl ⟨rfl, rule, hcommit⟩

theorem Valid.rollback {d copy : RouteDb} (hd : d.Valid) (h : d.nextId ≤ copy.nextId) :
    (rollback d copy).Valid where
  unique := hd.unique
  positive := hd.positive
  ids := hd.ids
  issued rule hrule := ⟨(hd.issued rule hrule).1, Nat.lt_of_lt_of_le (hd.issued rule hrule).2 h⟩
  sequence := Nat.le_trans hd.sequence h

/-- Every request is `Done`, or rolled back; a swap keeps priorities unique on the
way. -/
theorem transaction_spec {fails : ℕ → Option RouteError} {d : RouteDb} (hd : d.Valid)
    (r : RouteRequest) :
    Spec d [] (transaction fails r)
      (fun _ d' l => Done d d' ∧ ∀ current target columns, r = .swap current target columns →
        Swapped d d' current.1 target.1 columns ∧ ∀ x ∈ l, UniquePriorities x.rules)
      (fun _ copy l => d.nextId ≤ copy.nextId ∧ ∀ current target columns,
        r = .swap current target columns → ∀ x ∈ l, UniquePriorities x.rules) := by
  cases r with
  | create priority columns =>
    refine Spec.imp (Spec.bind (createRoute_spec hd priority columns) fun _ _ _ h => Spec.pure h)
      (fun _ _ _ hdone => ⟨hdone, fun _ _ _ h => by cases h⟩)
      (fun _ _ _ hleft => ⟨hleft, fun _ _ _ h => by cases h⟩)
  | update current priority columns =>
    refine Spec.imp (Spec.bind (updateRoute_spec hd current priority columns)
      fun _ _ _ h => Spec.pure h)
      (fun _ _ _ hdone => ⟨hdone, fun _ _ _ h => by cases h⟩)
      (fun _ _ _ hleft => ⟨hleft, fun _ _ _ h => by cases h⟩)
  | delete priority =>
    refine Spec.imp (Spec.bind (deleteRoute_spec hd priority) fun _ _ _ h => Spec.pure h)
      (fun _ _ _ hdone => ⟨hdone, fun _ _ _ h => by cases h⟩)
      (fun _ _ _ hleft => ⟨hleft, fun _ _ _ h => by cases h⟩)
  | swap current target columns =>
    refine Spec.imp (swapRoute_spec hd current target columns) ?_ ?_
    · rintro _ d' l ⟨hdone, hswapped, hwrites⟩
      refine ⟨hdone, fun _ _ _ h => ?_⟩
      cases h
      exact ⟨hswapped, hwrites⟩
    · rintro _ copy l ⟨hleft, hwrites⟩
      exact ⟨hleft, fun _ _ _ _ => hwrites⟩

theorem serve_lawful {d : RouteDb} (hd : d.Valid) (a : Attempt) :
    Lawful d a ∧ (d.serve a).Valid := by
  rcases attempt_cases (transaction_spec hd a.request) with
    ⟨hok, _, hdone, hswap⟩ | ⟨hfail, _, copy, ⟨hleft, hwrites⟩, hserve⟩
  · refine ⟨⟨hdone.valid.unique, ?_, ?_, fun _ => hdone.counted, fun hnot => absurd hok hnot⟩,
      hdone.valid⟩
    · exact fun current target columns h => (hswap current target columns h).2
    · exact fun current target columns h _ => (hswap current target columns h).1
  · have hvalid : (d.serve a).Valid := by
      rw [hserve]
      exact hd.rollback hleft
    refine ⟨⟨hvalid.unique, hwrites, fun _ _ _ _ hok => absurd hok hfail,
      fun hok => absurd hok hfail, fun _ => ?_⟩, hvalid⟩
    rw [hserve]
    exact ⟨rfl, rfl⟩

/-- The version never goes down, and while it stays nothing changes. -/
theorem serve_version {d : RouteDb} (hd : d.Valid) (a : Attempt) :
    (∃ v, d.version = some v ∧ (d.serve a).version = some (v + 1)) ∨
      (d.serve a).tables = d.tables ∧ (d.serve a).rules = d.rules := by
  by_cases hok : d.Succeeds a
  · exact .inl ((serve_lawful hd a).1.counted hok)
  · exact .inr ((serve_lawful hd a).1.failed hok)

theorem valid_foldl {d : RouteDb} (hd : d.Valid) (as : List Attempt) : (as.foldl serve d).Valid := by
  induction as generalizing d with
  | nil => exact hd
  | cons a as ih => exact ih (serve_lawful hd a).2

/-- Over any number of requests the version goes up, or nothing changes. -/
theorem foldl_version {d : RouteDb} (hd : d.Valid) (as : List Attempt) :
    (∃ v v', d.version = some v ∧ (as.foldl serve d).version = some v' ∧ v < v') ∨
      (as.foldl serve d).tables = d.tables ∧ (as.foldl serve d).rules = d.rules := by
  induction as using List.reverseRecOn with
  | nil => exact .inr ⟨rfl, rfl⟩
  | append_singleton as a ih =>
    rw [List.foldl_append, List.foldl_cons, List.foldl_nil]
    have hversion : ∀ {x y : RouteDb}, x.tables = y.tables → x.version = y.version := fun h => by
      rw [version, h, version]
    rcases serve_version (valid_foldl hd as) a with ⟨v', hmid, hlast⟩ | ⟨htables, hrules⟩
    · refine .inl ?_
      rcases ih with ⟨v, w, hfirst, hw, hlt⟩ | ⟨htables, -⟩
      · rw [hw] at hmid
        obtain rfl := Option.some.inj hmid
        exact ⟨v, w + 1, hfirst, hlast, by omega⟩
      · rw [hversion htables] at hmid
        exact ⟨v', v' + 1, hmid, hlast, by omega⟩
    · rcases ih with ⟨v, w, hfirst, hw, hlt⟩ | ⟨htables', hrules'⟩
      · exact .inl ⟨v, w, hfirst, (hversion htables).trans hw, hlt⟩
      · exact .inr ⟨htables.trans htables', hrules.trans hrules'⟩

theorem version_of_snapshot {d : RouteDb} {s : SipRouteSnapshot} (h : d.getRouteSnapshot = .ok s) :
    d.version = some s.version := by
  rw [getRouteSnapshot] at h
  cases hversion : d.version with
  | none =>
    rw [hversion] at h
    cases h
  | some v =>
    rw [hversion] at h
    cases h
    rfl

/-- A later snapshot with the same version is the same. -/
theorem snapshot_later {d : RouteDb} (hd : d.Valid) (as : List Attempt) {s s' : SipRouteSnapshot}
    (hs : d.getRouteSnapshot = .ok s) (hs' : (as.foldl serve d).getRouteSnapshot = .ok s')
    (hsame : s.version = s'.version) : s = s' := by
  rcases foldl_version hd as with ⟨v, v', hv, hv', hlt⟩ | ⟨htables, hrules⟩
  · rw [version_of_snapshot hs] at hv
    rw [version_of_snapshot hs'] at hv'
    have hle := (Option.some.inj hv).symm.trans (hsame.trans (Option.some.inj hv'))
    omega
  · rw [getRouteSnapshot, version, htables, hrules] at hs'
    rw [getRouteSnapshot, version] at hs
    exact Except.ok.inj (hs.symm.trans hs')

/-- **The laws of the route table.**  For every sequence of requests, each of them
failing at any of its statements or at none: every request keeps priorities unique
and is counted once if it succeeds, changes nothing if it fails; a swap leaves
priorities unique at every write, the source edited at the target's priority, the
target (if it is another rule) at the source's with its columns as they were, and all
other rules as they were.  Snapshots between the requests that have the same version
have the same routes. -/
theorem requests_lawful {d : RouteDb} (hd : d.Valid) (as : List Attempt) :
    Runs.EachStep serve Lawful d as ∧
      ∀ p q s s', p <+: as → q <+: as → (p.foldl serve d).getRouteSnapshot = .ok s →
        (q.foldl serve d).getRouteSnapshot = .ok s' → s.version = s'.version →
          s.routes = s'.routes := by
  constructor
  · exact fun l a _ => (serve_lawful (valid_foldl hd l) a).1
  · intro p q s s' hp hq hs hs' hsame
    rcases List.prefix_or_prefix_of_prefix hp hq with ⟨rest, rfl⟩ | ⟨rest, rfl⟩
    · rw [List.foldl_append] at hs'
      rw [snapshot_later (valid_foldl hd p) rest hs hs' hsame]
    · rw [List.foldl_append] at hs
      rw [snapshot_later (valid_foldl hd q) rest hs' hs hsame.symm]

/-! ### A seeded table -/

/-- The tables as they are first filled. -/
def seed : RouteDb where
  tables := AList.insert defaultTableId 1 ∅
  rules := [⟨1, defaultTableId, 1, "sip:callee@sbc.local", "127.0.0.1", 5080, none⟩]
  nextId := 2

theorem seed_valid : seed.Valid where
  unique := by decide
  positive := by decide
  ids := by decide
  issued := by decide
  sequence := by decide

def otherColumns : RouteColumns :=
  ⟨"sip:other@sbc.local", "127.0.0.1", 5090, some .pcmu, by decide, by decide, by decide⟩

/-- A second rule, a swap that fails at its third write, and the same swap again. -/
def swapAgain : List Attempt :=
  [⟨.create ⟨2, by decide⟩ otherColumns, fun _ => false⟩,
    ⟨.swap ⟨1, by decide⟩ ⟨2, by decide⟩ otherColumns, fun n => n = 4⟩,
    ⟨.swap ⟨1, by decide⟩ ⟨2, by decide⟩ otherColumns, fun _ => false⟩]

theorem requests_lawful_swap_again :
    Runs.EachStep serve Lawful seed swapAgain :=
  (requests_lawful seed_valid swapAgain).1

/-- A swap of the only rule with itself succeeds; the rule at the target priority does
not keep its columns. -/
theorem swap_self_edits :
    let a : Attempt := ⟨.swap ⟨1, by decide⟩ ⟨1, by decide⟩ otherColumns, fun _ => false⟩
    seed.Succeeds a ∧
      (∃ target ∈ seed.rules, target.key = (defaultTableId, 1) ∧
        { target with priority := 1 } ∉ (seed.serve a).rules) ∧
      (seed.serve a).rules.map (fun rule => (rule.priority, rule.uri)) =
        [(1, "sip:other@sbc.local")] := by
  intro a
  exact ⟨by decide +kernel, ⟨_, List.mem_singleton.mpr rfl, rfl, by decide +kernel⟩,
    by decide +kernel⟩

end RouteDb

end SbcEngine
