/-
The route table as a plan.

For its users the table is a plan: a rule, or none, at every priority.  The engine looks
through a snapshot of it for the first rule that matches.

* `RoutePlan`, `RoutePlan.apply` — plans, and what a request makes of one;
* `RouteDb.plan` — the plan of a table;
* `RoutesStore` — the engine's snapshot, and its search;
* `Follows` — a request does to the table what it does to the plan;
* `findRoute_iff` — the engine finds the matching rule of the least priority;
* `requests_follow_plan` — every sequence of requests, failing at any statement, and
  every search in between.

Design notes: a swap is a move to a priority that is taken, so both are `exchange`.
-/
import SbcEngine.KeyedRows
import SbcEngine.RouteTable
import Mathlib.Logic.Equiv.Basic

namespace SbcEngine

open KeyedRows Transactions

/-! ### Plans -/

/-- The rule at every priority. -/
abbrev RoutePlan := ℤ → Option SipRouteRule

def RouteColumns.rule (columns : RouteColumns) : SipRouteRule where
  uri := columns.uri
  sipAddress := columns.sipAddress
  port := columns.port
  codec := columns.codec

namespace RoutePlan

/-- The rule moves to another priority, with new columns; what is there takes its place. -/
def exchange (current target : ℤ) (rule : SipRouteRule) (plan : RoutePlan) : RoutePlan :=
  Function.update (fun p => plan (Equiv.swap current target p)) target (some rule)

def apply (plan : RoutePlan) : RouteRequest → Except RouteError RoutePlan
  | .create priority columns =>
    if (plan priority.1).isSome then .error .uniqueViolation
    else .ok (Function.update plan priority.1 (some columns.rule))
  | .update current priority columns =>
    if plan current.1 = none then .error (.notFound s!"Route with priority {current} not found")
    else if priority.1 ≠ current.1 ∧ (plan priority.1).isSome then .error .uniqueViolation
    else .ok (plan.exchange current.1 priority.1 columns.rule)
  | .swap current target columns =>
    if plan current.1 = none then .error (.notFound s!"Route with priority {current} not found")
    else if plan target.1 = none then
      .error (.conflict s!"Route with priority {target} no longer exists")
    else .ok (plan.exchange current.1 target.1 columns.rule)
  | .delete priority =>
    if plan priority.1 = none then .error (.notFound s!"Route with priority {priority} not found")
    else .ok (Function.update plan priority.1 none)

/-- A rule is for a URI. -/
def Matches (requestUri : String) (rule : SipRouteRule) : Prop :=
  rule.uri = "*" ∨ rule.uri = requestUri

instance (requestUri : String) (rule : SipRouteRule) : Decidable (Matches requestUri rule) :=
  inferInstanceAs (Decidable (_ ∨ _))

/-- The matching rule of the least priority. -/
def Chooses (plan : RoutePlan) (requestUri : String) (rule : SipRouteRule) : Prop :=
  ∃ p, plan p = some rule ∧ Matches requestUri rule ∧
    ∀ p' rule', plan p' = some rule' → Matches requestUri rule' → p ≤ p'

end RoutePlan

/-- What a request that succeeds answers with. -/
def RouteRequest.answer : RouteRequest → Option SipRouteRule
  | .create _ columns => some columns.rule
  | .update _ _ columns => some columns.rule
  | .swap _ _ columns => some columns.rule
  | .delete _ => none

/-! ### The engine's search -/

/-- The current snapshot of the routes. -/
structure RoutesStore where
  snapshot : RouteDb.SipRouteSnapshot

namespace RoutesStore

/-- A JSON object, read into a `std::flat_map`. -/
def flatMap (entries : List (ℤ × SipRouteRule)) : List (ℤ × SipRouteRule) :=
  entries.mergeSort fun a b => a.1 ≤ b.1

def findRoute (s : RoutesStore) (requestUri : String) : Option SipRouteRule :=
  ((flatMap s.snapshot.routes).find? fun entry =>
    entry.2.uri = "*" || entry.2.uri = requestUri).map Prod.snd

end RoutesStore

namespace RouteDb

/-- The rules of the default table. -/
def plan (d : RouteDb) : RoutePlan :=
  fun p => (rowAt RouteRule.key d.rules (defaultTableId, p)).map toRouteRule

/-! ### Plans of changed tables -/

section Plans

variable {d : RouteDb}

theorem plan_eq_none_iff {p : ℤ} :
    d.plan p = none ↔ rowAt RouteRule.key d.rules (defaultTableId, p) = none :=
  Option.map_eq_none_iff

theorem plan_eq_some_iff (hd : d.Valid) {p : ℤ} {rule : SipRouteRule} :
    d.plan p = some rule ↔
      ∃ row ∈ d.rules, row.key = (defaultTableId, p) ∧ toRouteRule row = rule := by
  rw [plan, Option.map_eq_some_iff]
  simp only [rowAt_eq_some_iff hd.unique, and_assoc]

theorem key_set {rule : RouteRule} {tableId : String} {p : ℤ} (h : rule.key = (tableId, p))
    (priority : ℤ) (columns : RouteColumns) : (rule.set priority columns).key = (tableId, priority) :=
  Prod.ext (Prod.ext_iff.mp h).1 rfl

/-- A change at one key is a change at one priority. -/
theorem plan_update {d' : RouteDb} {p : ℤ} (row : Option RouteRule) {rule : Option SipRouteRule}
    (h : rowAt RouteRule.key d'.rules =
      Function.update (rowAt RouteRule.key d.rules) (defaultTableId, p) row)
    (hrule : row.map toRouteRule = rule) : d'.plan = Function.update d.plan p rule := by
  subst hrule
  funext p'
  rw [plan, h]
  by_cases hp : p' = p
  · rw [hp, Function.update_self, Function.update_self]
  · rw [Function.update_of_ne hp, Function.update_of_ne (by simpa using hp), plan]

/-- The plan, after a row was moved to another priority and what was there took its
place. -/
theorem plan_exchange (hd : d.Valid) {source : RouteRule} {current target : ℤ}
    (hsource : source ∈ d.rules) (hcurrent : source.key = (defaultTableId, current))
    {columns : RouteColumns} {f : RouteRule → RouteRule} (hf : f source = source.set target columns)
    (hcolumns : ∀ rule ∈ d.rules, rule.key ≠ (defaultTableId, current) →
      toRouteRule (f rule) = toRouteRule rule)
    (hkey : ∀ rule ∈ d.rules, (f rule).key =
      Equiv.swap (defaultTableId, current) (defaultTableId, target) rule.key) :
    plan { d with rules := d.rules.map f } = d.plan.exchange current target columns.rule := by
  have hrow : rowAt RouteRule.key d.rules (defaultTableId, current) = some source :=
    (rowAt_eq_some_iff hd.unique).mpr ⟨hsource, hcurrent⟩
  funext p
  set g := Equiv.swap (defaultTableId, current) (defaultTableId, target) with hg
  have hp : (defaultTableId, p) = g (g (defaultTableId, p)) := (Equiv.swap_apply_self _ _ _).symm
  have hswap : g (defaultTableId, p) = (defaultTableId, Equiv.swap current target p) := by
    rw [hg, Equiv.swap_apply_def, Equiv.swap_apply_def]
    split_ifs <;> simp_all
  rw [plan, RoutePlan.exchange]
  dsimp only
  rw [hp, rowAt_map g.injective hkey, hswap]
  by_cases htarget : p = target
  · rw [htarget, Equiv.swap_apply_right, hrow, Function.update_self]
    simp only [Option.map_some, hf]
    rfl
  · rw [Function.update_of_ne htarget, plan]
    cases hfound : rowAt RouteRule.key d.rules (defaultTableId, Equiv.swap current target p) with
    | none => rfl
    | some rule =>
      obtain ⟨hrule, hruleKey⟩ := mem_of_rowAt hfound
      have hne : rule.key ≠ (defaultTableId, current) := by
        rw [hruleKey]
        intro heq
        have hpriority : Equiv.swap current target p = current := (Prod.ext_iff.mp heq).2
        rw [Equiv.swap_apply_eq_iff, Equiv.swap_apply_left] at hpriority
        exact htarget hpriority
      simp only [Option.map_some, hcolumns rule hrule hne]

end Plans

/-! ### Statements, and where they fail -/

section Statements

variable {fails : ℕ → Option RouteError} {d : RouteDb} {l : List RouteDb}
  {F : RouteError → RouteDb → List RouteDb → Prop}

theorem getDefaultTable_found {v : ℤ} (hversion : d.version = some v)
    (hfail : ∀ n e, fails n = some e → F e d l) :
    Spec d l (getDefaultTable fails)
      (fun tableId d' l' => tableId = defaultTableId ∧ d = d' ∧ l = l') F := by
  refine Spec.read_bind hfail ?_
  rw [version] at hversion
  rw [hversion]
  exact Spec.pure ⟨rfl, rfl, rfl⟩

theorem bumpTableVersion_counted {v : ℤ} (hversion : d.version = some v)
    (hfail : ∀ n e, fails n = some e → F e d l) :
    Spec d l (bumpTableVersion fails defaultTableId) (fun _ d' _ => d' = d.bumped v) F := by
  rw [version] at hversion
  refine Spec.write_bind hfail (fun hviolation => by cases hviolation) fun _ => ?_
  rw [hversion]
  exact Spec.pure rfl

/-- A write of rules, with what makes it fail. -/
theorem writeRules_checked {A B : Type} {f : RouteDb → A × RouteDb} {k : A → Tx RouteDb RouteError B}
    {Q : B → RouteDb → List RouteDb → Prop} (hfail : ∀ n e, fails n = some e → F e d l)
    (hviolation : ¬ UniquePriorities (f d).2.rules → F .uniqueViolation (f d).2 (l ++ [(f d).2]))
    (hok : UniquePriorities (f d).2.rules → Spec (f d).2 (l ++ [(f d).2]) (k (f d).1) Q F) :
    Spec d l (writeRules fails f >>= k) Q F :=
  Spec.write_bind hfail (fun hnot => hviolation (of_decide_eq_false hnot))
    fun hkept => hok (of_decide_eq_true hkept)

end Statements

/-! ### Requests and plans -/

section Requests

variable {fails : ℕ → Option RouteError} {d : RouteDb} {v : ℤ}

/-- The request does to the table what it does to the plan, or fails as it does there,
or at one of its statements. -/
def Planned (fails : ℕ → Option RouteError) (d : RouteDb) (r : RouteRequest) : Prop :=
  Spec d [] (transaction fails r)
    (fun rule d' _ => d.plan.apply r = .ok d'.plan ∧ rule = r.answer)
    (fun e _ _ => (∃ n, fails n = some e) ∨ d.plan.apply r = .error e)

theorem createRoute_planned (hd : d.Valid) (hversion : d.version = some v) (priority : Priority)
    (columns : RouteColumns) : Planned fails d (.create priority columns) := by
  have hfail : ∀ n e, fails n = some e → (∃ n, fails n = some e) ∨
      d.plan.apply (.create priority columns) = .error e := fun n _ h => .inl ⟨n, h⟩
  have hrows : UniqueKeys RouteRule.key d.rules := hd.unique
  have hconcat := uniqueKeys_concat (r := ⟨d.nextId, defaultTableId, priority.1, columns.uri,
    columns.sipAddress, columns.port, columns.codec⟩) hrows
  refine Spec.bind (Spec.bind (getDefaultTable_found hversion hfail) ?_) fun _ _ _ h => Spec.pure h
  rintro _ _ _ ⟨rfl, rfl, rfl⟩
  refine writeRules_checked hfail (fun hnot => .inr ?_) fun hunique => ?_
  · rw [RoutePlan.apply, if_pos]
    rw [Option.isSome_iff_ne_none, Ne, plan_eq_none_iff]
    exact fun hfree => hnot (hconcat.mpr hfree)
  · have hfree := hconcat.mp hunique
    refine Spec.bind (bumpTableVersion_counted (v := v) hversion hfail) ?_
    rintro _ _ _ rfl
    refine Spec.pure ⟨?_, rfl⟩
    rw [RoutePlan.apply, if_neg (by rw [plan_eq_none_iff.mpr hfree]; simp)]
    refine congrArg Except.ok (Eq.symm ?_)
    exact plan_update _ (rowAt_concat hfree) rfl

theorem deleteRoute_planned (hd : d.Valid) (hversion : d.version = some v) (priority : Priority) :
    Planned fails d (.delete priority) := by
  have hfail : ∀ n e, fails n = some e → (∃ n, fails n = some e) ∨
      d.plan.apply (.delete priority) = .error e := fun n _ h => .inl ⟨n, h⟩
  refine Spec.bind (R := fun _ d' _ => d.plan.apply (.delete priority) = .ok d'.plan)
    (Spec.bind (getDefaultTable_found hversion hfail) ?_) fun _ _ _ h => Spec.pure ⟨h, rfl⟩
  rintro _ _ _ ⟨rfl, rfl, rfl⟩
  refine writeRules_checked hfail (fun hnot => absurd (hd.unique.filter _) hnot) fun _ => ?_
  dsimp only
  cases hrow : (d.rules.filter _).head? with
  | none =>
    refine Spec.throw (.inr ?_)
    rw [RoutePlan.apply, if_pos]
    rw [plan_eq_none_iff, rowAt_eq_none_iff]
    intro rule hrule hkey
    rw [List.head?_eq_none_iff, List.filter_eq_nil_iff] at hrow
    exact hrow rule hrule (decide_eq_true hkey)
  | some row =>
    refine Spec.bind (bumpTableVersion_counted (v := v) hversion hfail) ?_
    rintro _ _ _ rfl
    refine Spec.pure ?_
    obtain ⟨hrule, hkey⟩ := List.mem_filter.mp (List.mem_of_mem_head? hrow)
    rw [RoutePlan.apply, if_neg]
    · exact congrArg Except.ok (plan_update none (rowAt_filter _) rfl).symm
    · rw [plan_eq_none_iff, rowAt_eq_none_iff]
      exact fun hnone => hnone row hrule (of_decide_eq_true hkey)

theorem updateRoute_planned (hd : d.Valid) (hversion : d.version = some v)
    (current priority : Priority) (columns : RouteColumns) :
    Planned fails d (.update current priority columns) := by
  have hfail : ∀ n e, fails n = some e → (∃ n, fails n = some e) ∨
      d.plan.apply (.update current priority columns) = .error e := fun n _ h => .inl ⟨n, h⟩
  refine Spec.bind (R := fun rule d' _ =>
      d.plan.apply (.update current priority columns) = .ok d'.plan ∧ rule = columns.rule)
    (Spec.bind (getDefaultTable_found hversion hfail) ?_)
    fun _ _ _ h => Spec.pure ⟨h.1, congrArg some h.2⟩
  rintro _ _ _ ⟨rfl, rfl, rfl⟩
  cases hsource : rowAt RouteRule.key d.rules (defaultTableId, current.1) with
  | none =>
    -- nothing is changed, and nothing returned
    have hnone : d.plan current.1 = none := plan_eq_none_iff.mpr hsource
    rw [rowAt_eq_none_iff] at hsource
    have hrules : (updateWhere (fun rule => rule.key = (defaultTableId, current.1))
        (RouteRule.set priority.1 columns) d).2.rules = d.rules := by
      refine (List.map_congr_left fun rule hrule => ?_).trans (List.map_id _)
      rw [if_neg (by simpa using hsource rule hrule)]
      rfl
    refine writeRules_checked hfail (fun hnot => ?_) fun _ => ?_
    · rw [hrules] at hnot
      exact absurd hd.unique hnot
    · have hrows : (updateWhere (fun rule => rule.key = (defaultTableId, current.1))
          (RouteRule.set priority.1 columns) d).1 = [] := by
        rw [updateWhere, List.filter_eq_nil_iff.mpr fun rule hrule => by simpa using hsource rule hrule]
        rfl
      rw [hrows]
      refine Spec.throw (.inr ?_)
      rw [RoutePlan.apply, if_pos hnone]
  | some source =>
    obtain ⟨hmem, hcurrent⟩ := mem_of_rowAt hsource
    have hsome : ¬ d.plan current.1 = none := by
      rw [plan_eq_none_iff, hsource]
      exact Option.some_ne_none _
    set f : RouteRule → RouteRule := fun rule =>
      if rule.key = (defaultTableId, current.1) then rule.set priority.1 columns else rule with hf
    have hrules : (updateWhere (fun rule => rule.key = (defaultTableId, current.1))
        (RouteRule.set priority.1 columns) d).2.rules = d.rules.map f := by
      simp [updateWhere, hf]
    have hfsource : f source = source.set priority.1 columns := if_pos hcurrent
    have hfree : ¬ (priority.1 ≠ current.1 ∧ (d.plan priority.1).isSome) →
        ∀ rule ∈ d.rules, (f rule).key =
          Equiv.swap (defaultTableId, current.1) (defaultTableId, priority.1) rule.key := by
      intro hchecked rule hrule
      rw [hf]
      dsimp only
      by_cases hkey : rule.key = (defaultTableId, current.1)
      · rw [if_pos hkey, hkey, Equiv.swap_apply_left, key_set hkey]
      · rw [if_neg hkey, Equiv.swap_apply_of_ne_of_ne hkey fun htarget => hchecked ⟨?_, ?_⟩]
        · rintro heq
          rw [heq] at htarget
          exact hkey htarget
        · rw [plan, (rowAt_eq_some_iff hd.unique).mpr ⟨hrule, htarget⟩]
          rfl
    refine writeRules_checked hfail (fun hnot => .inr ?_) fun hunique => ?_
    · rw [hrules] at hnot
      rw [RoutePlan.apply, if_neg hsome, if_pos]
      by_contra hchecked
      exact hnot (uniqueKeys_map (Equiv.injective _) (hfree hchecked) hd.unique)
    · rw [hrules] at hunique
      have hchecked : ¬ (priority.1 ≠ current.1 ∧ (d.plan priority.1).isSome) := by
        rintro ⟨hne, hsomeTarget⟩
        obtain ⟨other, hother⟩ := Option.isSome_iff_exists.mp hsomeTarget
        obtain ⟨row, hrow, hrowKey, -⟩ := (plan_eq_some_iff hd).mp hother
        -- the row at the priority would have the key of the source
        have hrowKey' : row.key ≠ (defaultTableId, current.1) := by
          rw [hrowKey]
          simpa using hne
        have hsame : (f source).key = (f row).key := by
          rw [hfsource, hf]
          dsimp only
          rw [if_neg hrowKey', hrowKey, key_set hcurrent]
        rw [eq_of_uniqueKeys_map hunique hmem hrow hsame] at hcurrent
        exact hrowKey' hcurrent
      cases hrow : (updateWhere (fun rule => rule.key = (defaultTableId, current.1))
          (RouteRule.set priority.1 columns) d).1.head? with
      | none =>
        rw [updateWhere, List.head?_eq_none_iff, List.map_eq_nil_iff, List.filter_eq_nil_iff] at hrow
        exact absurd (decide_eq_true hcurrent) (hrow source hmem)
      | some row =>
        refine Spec.bind (bumpTableVersion_counted (v := v) hversion hfail) ?_
        rintro _ _ _ rfl
        obtain ⟨before, -, rfl⟩ := List.mem_map.mp (List.mem_of_mem_head? hrow)
        refine Spec.pure ⟨?_, rfl⟩
        rw [RoutePlan.apply, if_neg hsome, if_neg hchecked]
        refine congrArg Except.ok (Eq.symm ?_)
        rw [← plan_exchange hd hmem hcurrent hfsource ?_ (hfree hchecked)]
        · rw [← hrules]
          rfl
        · intro rule _ hkey
          rw [hf]
          dsimp only
          rw [if_neg hkey]

/-- What a swap reads has the rule of a priority that is asked for, if there is one. -/
theorem find_eq_none {current target p : ℤ} (hp : p = current ∨ p = target)
    (h : ((d.rules.filter fun rule => rule.key = (defaultTableId, current) ∨
      rule.key = (defaultTableId, target)).mergeSort fun a b => a.id ≤ b.id).find?
        (fun row => row.priority = p) = none) : d.plan p = none := by
  rw [plan_eq_none_iff, rowAt_eq_none_iff]
  intro rule hrule hkey
  rw [List.find?_eq_none] at h
  refine h rule (List.mem_mergeSort.mpr (List.mem_filter.mpr ⟨hrule, ?_⟩))
    (decide_eq_true (Prod.ext_iff.mp hkey).2)
  rcases hp with rfl | rfl
  · exact decide_eq_true (.inl hkey)
  · exact decide_eq_true (.inr hkey)

theorem plan_ne_none (hd : d.Valid) {row : RouteRule} {p : ℤ} (hrow : row ∈ d.rules)
    (hkey : row.key = (defaultTableId, p)) : ¬ d.plan p = none := by
  rw [plan_eq_none_iff, (rowAt_eq_some_iff hd.unique).mpr ⟨hrow, hkey⟩]
  exact Option.some_ne_none _

/-- The plan after the three writes of a swap. -/
theorem plan_swapped (hd : d.Valid) {source other : RouteRule} (hsource : source ∈ d.rules)
    (hother : other ∈ d.rules) {current target : ℤ}
    (hcurrent : source.key = (defaultTableId, current))
    (htarget : other.key = (defaultTableId, target)) (columns : RouteColumns) :
    (d.swapped source other current target columns).plan =
      d.plan.exchange current target columns.rule := by
  set f : RouteRule → RouteRule := fun rule =>
    if rule.id = source.id then rule.set target columns
    else if rule.id = other.id then { rule with priority := current }
    else rule with hf
  have hrules : (d.swapped source other current target columns).rules = d.rules.map f :=
    swapped_rules hd hsource hother hcurrent htarget columns
  rw [← plan_exchange hd hsource hcurrent (f := f) (if_pos rfl)]
  · rw [← hrules]
    rfl
  · intro rule hrule hne
    rw [hf]
    dsimp only
    split_ifs with hid
    · rw [hd.eq_of_id hrule hsource hid] at hne
      exact absurd hcurrent hne
    · rfl
    · rfl
  · intro rule hrule
    rw [hf]
    dsimp only
    split_ifs with hid hid'
    · obtain rfl := hd.eq_of_id hrule hsource hid
      rw [key_set hcurrent, hcurrent, Equiv.swap_apply_left]
    · obtain rfl := hd.eq_of_id hrule hother hid'
      rw [htarget, Equiv.swap_apply_right]
      exact Prod.ext (Prod.ext_iff.mp htarget).1 rfl
    · rw [Equiv.swap_apply_of_ne_of_ne]
      · exact fun h => hid (congrArg RouteRule.id (hd.eq_of_key hrule hsource (h.trans hcurrent.symm)))
      · exact fun h => hid' (congrArg RouteRule.id (hd.eq_of_key hrule hother (h.trans htarget.symm)))

theorem swapRoute_planned (hd : d.Valid) (hversion : d.version = some v)
    (current target : Priority) (columns : RouteColumns) :
    Planned fails d (.swap current target columns) := by
  have hfail : ∀ n e, fails n = some e → (∃ n, fails n = some e) ∨
      d.plan.apply (.swap current target columns) = .error e := fun n _ h => .inl ⟨n, h⟩
  refine Spec.bind (getDefaultTable_found hversion hfail) ?_
  rintro _ _ _ ⟨rfl, rfl, rfl⟩
  refine Spec.read_bind hfail ?_
  split
  · rename_i hfind
    refine Spec.throw (.inr ?_)
    rw [RoutePlan.apply, if_pos (find_eq_none (.inl rfl) hfind)]
  rename_i source hfindSource
  obtain ⟨hsource, hcurrent⟩ := mem_of_find hfindSource
  split
  · rename_i hfind
    refine Spec.throw (.inr ?_)
    rw [RoutePlan.apply, if_neg (plan_ne_none hd hsource hcurrent),
      if_pos (find_eq_none (.inr rfl) hfind)]
  rename_i other hfindOther
  obtain ⟨hother, hgoal⟩ := mem_of_find hfindOther
  have hmoved := moved_unique hd hsource hother hcurrent hgoal target.2 columns
  -- no write breaks the constraint
  refine writeRules_checked hfail (fun hnot => absurd (parked_unique hd) hnot) fun _ => ?_
  refine writeRules_checked hfail (fun hnot => absurd hmoved hnot) fun _ => ?_
  refine writeRules_checked hfail
    (fun hnot => absurd (swapped_unique hd hsource hother hcurrent hgoal columns hmoved) hnot)
    fun _ => ?_
  refine Spec.bind (bumpTableVersion_counted (v := v) hversion hfail) ?_
  rintro _ _ _ rfl
  refine Spec.pure ⟨?_, ?_⟩
  · rw [RoutePlan.apply, if_neg (plan_ne_none hd hsource hcurrent),
      if_neg (plan_ne_none hd hother hgoal)]
    exact congrArg Except.ok (plan_swapped hd hsource hother hcurrent hgoal columns).symm
  · cases hrow : (setColumns source.id target.1 columns (d.parked other)).1.head? with
    | none =>
      -- parking has not changed the source's id
      rw [setColumns, updateWhere, List.head?_eq_none_iff, List.map_eq_nil_iff,
        List.filter_eq_nil_iff] at hrow
      refine absurd ?_ (hrow _ (List.mem_map.mpr ⟨source, hsource, rfl⟩))
      split_ifs <;> simp
    | some row =>
      obtain ⟨before, -, rfl⟩ := List.mem_map.mp (List.mem_of_mem_head? hrow)
      rw [show (setColumns source.id target.1 columns (setPriority other.id (-other.id) d).2).1.head? =
        some (before.set target.1 columns) from hrow]
      rfl

theorem transaction_planned (hd : d.Valid) (hversion : d.version = some v) (r : RouteRequest) :
    Planned fails d r := by
  cases r with
  | create priority columns => exact createRoute_planned hd hversion priority columns
  | update current priority columns => exact updateRoute_planned hd hversion current priority columns
  | swap current target columns => exact swapRoute_planned hd hversion current target columns
  | delete priority => exact deleteRoute_planned hd hversion priority

end Requests

/-- A request answers as the plan says and leaves the table as the plan says, unless one
of its statements fails, which leaves the plan alone. -/
inductive Follows (d : RouteDb) (a : Attempt) : Prop
  | done (plan : RoutePlan) (h : d.plan.apply a.request = .ok plan)
      (answer : (d.attempt a).1 = .ok a.request.answer) (serves : (d.serve a).plan = plan)
  | refused (e : RouteError) (h : d.plan.apply a.request = .error e)
      (answer : (d.attempt a).1 = .error e) (serves : (d.serve a).plan = d.plan)
  | failed (n : ℕ) (h : a.fails n = true) (answer : (d.attempt a).1 = .error .statementFailed)
      (serves : (d.serve a).plan = d.plan)

theorem attempt_follows {d : RouteDb} {v : ℤ} (hd : d.Valid) (hversion : d.version = some v)
    (a : Attempt) : Follows d a := by
  have hcommit := Spec.commit rollback
    (show Planned (fun n => if a.fails n then some .statementFailed else none) d a.request from
      transaction_planned hd hversion a.request)
  rcases hrun : commit rollback _ d with ⟨e | rule, d', l⟩
  · rw [hrun] at hcommit
    obtain ⟨copy, hfails | hrefused, rfl⟩ := hcommit
    · obtain ⟨n, hn⟩ := hfails
      dsimp only at hn
      split_ifs at hn with hfail
      cases hn
      exact .failed n hfail (congrArg Prod.fst hrun) (congrArg (fun r => r.2.1.plan) hrun)
    · exact .refused e hrefused (congrArg Prod.fst hrun) (congrArg (fun r => r.2.1.plan) hrun)
  · rw [hrun] at hcommit
    obtain ⟨happly, rfl⟩ := hcommit
    exact .done _ happly (congrArg Prod.fst hrun) (congrArg (fun r => r.2.1.plan) hrun)

end RouteDb

/-! ### Searches and plans -/

/-- The snapshot has the rules of the plan. -/
structure RoutesStore.Shows (s : RoutesStore) (plan : RoutePlan) : Prop where
  unique : UniqueKeys Prod.fst s.snapshot.routes
  mem_iff : ∀ p rule, (p, rule) ∈ s.snapshot.routes ↔ plan p = some rule

namespace RoutesStore

variable {s : RoutesStore} {plan : RoutePlan}

/-- A snapshot of a table shows its plan. -/
theorem shows_snapshot {d : RouteDb} (hd : d.Valid) (h : d.getRouteSnapshot = .ok s.snapshot) :
    s.Shows d.plan := by
  have hroutes : s.snapshot.routes = (((d.rules.filter fun rule => rule.tableId = defaultTableId).mergeSort
      fun a b => a.priority ≤ b.priority).map fun rule => (rule.priority, toRouteRule rule)) := by
    rw [RouteDb.getRouteSnapshot] at h
    cases hversion : d.version with
    | none =>
      rw [hversion] at h
      cases h
    | some v =>
      rw [hversion] at h
      rw [← Except.ok.inj h]
  have hmem : ∀ rule, rule ∈ (d.rules.filter fun rule => rule.tableId = defaultTableId).mergeSort
      (fun a b => a.priority ≤ b.priority) ↔ rule ∈ d.rules ∧ rule.tableId = defaultTableId := by
    intro rule
    rw [List.mem_mergeSort, List.mem_filter, decide_eq_true_eq]
  constructor
  · rw [hroutes, UniqueKeys, List.pairwise_map]
    have hunique : (((d.rules.filter fun rule => rule.tableId = defaultTableId).mergeSort
        fun a b => a.priority ≤ b.priority)).Pairwise fun a b => a.key ≠ b.key :=
      (List.mergeSort_perm _ _).symm.pairwise (hd.unique.filter _) fun h => h.symm
    refine hunique.imp_of_mem fun {a b} ha hb hne hpriority => hne ?_
    exact Prod.ext (((hmem a).mp ha).2.trans ((hmem b).mp hb).2.symm) hpriority
  · intro p rule
    rw [hroutes, List.mem_map, RouteDb.plan_eq_some_iff hd]
    constructor
    · rintro ⟨row, hrow, heq⟩
      cases heq
      obtain ⟨hrule, htable⟩ := (hmem row).mp hrow
      exact ⟨row, hrule, Prod.ext htable rfl, rfl⟩
    · rintro ⟨row, hrow, hkey, rfl⟩
      obtain ⟨htable, hpriority⟩ := Prod.ext_iff.mp hkey
      exact ⟨row, (hmem row).mpr ⟨hrow, htable⟩, Prod.ext hpriority rfl⟩

theorem flatMap_sorted (hunique : UniqueKeys Prod.fst s.snapshot.routes) :
    (flatMap s.snapshot.routes).Pairwise fun a b => a.1 < b.1 := by
  have hsorted : (flatMap s.snapshot.routes).Pairwise fun a b => decide (a.1 ≤ b.1) = true :=
    List.pairwise_mergeSort (fun a b c hab hbc => by simp_all; omega)
      (fun a b => by simp; omega) _
  have hne : (flatMap s.snapshot.routes).Pairwise fun a b => a.1 ≠ b.1 :=
    (List.mergeSort_perm _ _).symm.pairwise hunique fun h => h.symm
  refine (hsorted.and hne).imp fun h => lt_of_le_of_ne (of_decide_eq_true h.1) h.2

/-- The engine finds the matching rule of the least priority. -/
theorem findRoute_iff (h : s.Shows plan) {requestUri : String} {rule : SipRouteRule} :
    s.findRoute requestUri = some rule ↔ plan.Chooses requestUri rule := by
  have hmatches : ∀ entry : ℤ × SipRouteRule,
      (entry.2.uri = "*" || entry.2.uri = requestUri : Bool) = true ↔
        RoutePlan.Matches requestUri entry.2 := by
    intro entry
    rw [Bool.or_eq_true, decide_eq_true_eq, decide_eq_true_eq, RoutePlan.Matches]
  rw [findRoute, Option.map_eq_some_iff]
  simp only [find_eq_some_iff_least (flatMap_sorted h.unique), hmatches]
  simp only [flatMap, List.mem_mergeSort]
  constructor
  · rintro ⟨⟨p, rule⟩, ⟨hmem, hmatch, hleast⟩, rfl⟩
    exact ⟨p, (h.mem_iff p rule).mp hmem, hmatch,
      fun p' rule' hp' hmatch' => hleast (p', rule') ((h.mem_iff p' rule').mpr hp') hmatch'⟩
  · rintro ⟨p, hp, hmatch, hleast⟩
    exact ⟨(p, rule), ⟨(h.mem_iff p rule).mpr hp, hmatch,
      fun entry hentry => hleast entry.1 entry.2 ((h.mem_iff _ _).mp hentry)⟩, rfl⟩

theorem findRoute_none_iff (h : s.Shows plan) {requestUri : String} :
    s.findRoute requestUri = none ↔
      ∀ p rule, plan p = some rule → ¬ RoutePlan.Matches requestUri rule := by
  rw [findRoute, Option.map_eq_none_iff, List.find?_eq_none]
  simp only [flatMap, List.mem_mergeSort, Prod.forall, h.mem_iff, RoutePlan.Matches,
    Bool.or_eq_true, decide_eq_true_eq]

end RoutesStore

namespace RouteDb

/-- **The route table is a plan.**  For every sequence of requests, each of them failing
at any of its statements or at none: a request answers what the plan of the table
says and makes of it what the plan says, with the same error where that refuses it, or
leaves it alone if a statement fails; and from a snapshot taken after any of them the
engine finds, for every URI, the matching rule of the least priority in the plan, and
none exactly if no rule matches. -/
theorem requests_follow_plan {d : RouteDb} (hd : d.Valid) (htable : d.version.isSome)
    (as : List Attempt) :
    Runs.EachStep serve Follows d as ∧
      ∀ p, p <+: as → ∃ snapshot, (p.foldl serve d).getRouteSnapshot = .ok snapshot ∧
        ∀ requestUri,
          (∀ rule, RoutesStore.findRoute ⟨snapshot⟩ requestUri = some rule ↔
            (p.foldl serve d).plan.Chooses requestUri rule) ∧
          (RoutesStore.findRoute ⟨snapshot⟩ requestUri = none ↔
            ∀ p' rule, (p.foldl serve d).plan p' = some rule → ¬ RoutePlan.Matches requestUri rule) := by
  have hversion : ∀ l : List Attempt, ∃ v, (l.foldl serve d).version = some v := by
    intro l
    obtain ⟨v, hv⟩ := Option.isSome_iff_exists.mp htable
    rcases foldl_version hd l with ⟨_, v', -, hv', -⟩ | ⟨htables, -⟩
    · exact ⟨v', hv'⟩
    · exact ⟨v, by rw [version, htables]; exact hv⟩
  constructor
  · intro l a _
    obtain ⟨v, hv⟩ := hversion l
    exact attempt_follows (valid_foldl hd l) hv a
  · intro p _
    obtain ⟨v, hv⟩ := hversion p
    obtain ⟨snapshot, hsnapshot⟩ : ∃ snapshot, (p.foldl serve d).getRouteSnapshot = .ok snapshot := by
      rw [getRouteSnapshot, hv]
      exact ⟨_, rfl⟩
    have hshows := RoutesStore.shows_snapshot (s := ⟨snapshot⟩) (valid_foldl hd p) hsnapshot
    exact ⟨snapshot, hsnapshot, fun requestUri =>
      ⟨fun rule => RoutesStore.findRoute_iff hshows, RoutesStore.findRoute_none_iff hshows⟩⟩

def nthPriority (n : ℕ) : Priority := ⟨n + 1, by omega⟩

/-- The second rule is moved to where the first is, in vain, and out of its way. -/
def movedAway : List Attempt :=
  [⟨.create (nthPriority 1) otherColumns, fun _ => false⟩,
    ⟨.update (nthPriority 1) (nthPriority 0) otherColumns, fun _ => false⟩,
    ⟨.update (nthPriority 1) (nthPriority 6) otherColumns, fun _ => false⟩]

theorem requests_follow_plan_moved_away :
    Runs.EachStep serve Follows seed movedAway ∧
      (movedAway.foldl serve seed).plan 7 = some otherColumns.rule :=
  ⟨(requests_follow_plan seed_valid (by decide) movedAway).1, by decide +kernel⟩

end RouteDb

end SbcEngine
