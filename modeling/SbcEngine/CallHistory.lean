/-
The history of calls, page by page.

The control plane lists the calls that have ended, in an order that the reader chooses,
and hands out one page of the list at a time.  Calls end while somebody reads on.

* `CallHistoryQuery` — a request that passed its checks;
* `getCallHistory` — one page, and how many calls there are;
* `CallsTable.Numbered` — the ids of the rows are different, and will be;
* `history_pages` — the pages of a table that does not change;
* `HistoryReader` — events and requests for the next page, in any order;
* `reading_misses_no_call` — somebody who reads up to a page that is not full has seen
  every call that had ended before the first page.

Design notes: how the database orders texts is a parameter.  Numbers are read by
JavaScript, which is one too.  No row is deleted while somebody reads.
-/
import Mathlib.Data.String.Basic
import SbcEngine.CallsTable
import SbcEngine.Listings

namespace SbcEngine

open KeyedRows (UniqueKeys)
open Listings (listing page byKey Walked)

/-! ### Requests -/

inductive SortField where
  | timestamp
  | caller
  | callee
  deriving DecidableEq, Repr

inductive SortDir where
  | asc
  | desc
  deriving DecidableEq, Repr

/-- The texts of the statuses. -/
def callStatusSchema (text : String) : Option CallTerminatedStatus :=
  if text = "Success" then some .success
  else if text = "Failed" then some .failed
  else if text = "No Route Available" then some .noRouteAvailable
  else if text = "Blocked" then some .blocked
  else none

def sortFieldSchema (text : String) : Option SortField :=
  if text = "timestamp" then some .timestamp
  else if text = "caller" then some .caller
  else if text = "callee" then some .callee
  else none

def sortDirSchema (text : String) : Option SortDir :=
  if text = "asc" then some .asc else if text = "desc" then some .desc else none

/-- The parameters of a request: `status` comes any number of times. -/
structure RawHistoryQuery where
  status : List String
  sortField : Option String
  sortDir : Option String
  page : Option String
  pageSize : Option String

structure CallHistoryQuery where
  status : List CallTerminatedStatus
  sortField : SortField
  sortDir : SortDir
  page : ℕ
  pageSize : ℕ
  page_pos : 1 ≤ page
  pageSize_pos : 1 ≤ pageSize
  pageSize_le : pageSize ≤ 100
  deriving DecidableEq

/-- `number` is `Number` of JavaScript where that is an integer. -/
def callHistoryQuerySchema (number : String → Option ℤ) (raw : RawHistoryQuery) :
    Option CallHistoryQuery := do
  let status ← raw.status.mapM callStatusSchema
  let sortField ← (raw.sortField.map sortFieldSchema).getD (some .timestamp)
  let sortDir ← (raw.sortDir.map sortDirSchema).getD (some .desc)
  let page ← (raw.page.map number).getD (some 1)
  let pageSize ← (raw.pageSize.map number).getD (some 10)
  if h : 1 ≤ page ∧ 1 ≤ pageSize ∧ pageSize ≤ 100 then
    some {
      status := status
      sortField := sortField
      sortDir := sortDir
      page := page.toNat
      pageSize := pageSize.toNat
      page_pos := by omega
      pageSize_pos := by omega
      pageSize_le := by omega }
  else none

namespace CallHistoryQuery

variable (q : CallHistoryQuery)

/-- The same request for the page after the first `k`. -/
def pageAfter (k : ℕ) : CallHistoryQuery :=
  { q with page := k + 1, page_pos := Nat.le_add_left 1 k }

end CallHistoryQuery

/-! ### One page -/

/-- A row of `calls` with its Call-ID. -/
abbrev CallEntry := (_ : String) × CallRow

structure HistoryRecord where
  id : ℕ
  sipCallId : String
  caller : String
  callee : String
  route : Option String
  codec : Option String
  status : Option CallTerminatedStatus
  timestamp : ℤ
  durationSeconds : Option ℤ
  failureReason : Option String
  deriving DecidableEq, Repr

def toHistoryRecord (sipCallId : String) (row : CallRow) : HistoryRecord where
  id := row.id
  sipCallId := sipCallId
  caller := row.caller
  callee := row.callee
  route := row.route
  codec := row.codec
  status := row.status
  timestamp := row.startedAt
  durationSeconds := row.durationSeconds
  failureReason := row.failureReason

/-- How the database orders texts. -/
structure Collation where
  le : String → String → Bool
  trans : ∀ a b c, le a b = true → le b c = true → le a c = true
  total : ∀ a b, (le a b || le b a) = true

/-- Ascending, in one of the `sortColumns`. -/
def SortField.le (C : Collation) : SortField → CallEntry → CallEntry → Bool
  | .timestamp, a, b => a.2.startedAt ≤ b.2.startedAt
  | .caller, a, b => C.le a.2.caller b.2.caller
  | .callee, a, b => C.le a.2.callee b.2.callee

namespace CallHistoryQuery

/-- The `WHERE` clause: the call has ended, with one of the statuses if there are any. -/
def selects (q : CallHistoryQuery) (e : CallEntry) : Bool :=
  e.2.endedAt.isSome && (q.status.isEmpty || e.2.status.any fun s => q.status.contains s)

/-- The `ORDER BY` clause, without the ids. -/
def le (C : Collation) (q : CallHistoryQuery) (a b : CallEntry) : Bool :=
  match q.sortDir with
  | .asc => q.sortField.le C a b
  | .desc => q.sortField.le C b a

/-- The calls that are asked for, in order. -/
def sorted (C : Collation) (q : CallHistoryQuery) (t : CallsTable) : List CallEntry :=
  listing (q.le C) (fun e => e.2.id) (t.rows.entries.filter q.selects)

end CallHistoryQuery

structure HistoryPage where
  rows : List HistoryRecord
  totalCount : ℕ
  deriving DecidableEq, Repr

/-- The page and the count are two queries, each with the table as it finds it. -/
def getCallHistory (C : Collation) (q : CallHistoryQuery) (atRows atCount : CallsTable) : HistoryPage where
  rows := (page q.pageSize (q.page - 1) (q.sorted C atRows)).map fun e => toHistoryRecord e.1 e.2
  totalCount := (atCount.rows.entries.filter q.selects).length

/-! ### The order -/

theorem rows_length (C : Collation) (q : CallHistoryQuery) (t t' : CallsTable) :
    (getCallHistory C q t t').rows.length =
      min q.pageSize ((t.rows.entries.filter q.selects).length - (q.page - 1) * q.pageSize) := by
  rw [getCallHistory, List.length_map, page, List.length_take, List.length_drop, CallHistoryQuery.sorted,
    (Listings.listing_perm_self _).length_eq]

namespace CallHistoryQuery

variable {C : Collation} {q : CallHistoryQuery}

theorem le_trans (a b c : CallEntry) (hab : q.le C a b = true) (hbc : q.le C b c = true) :
    q.le C a c = true := by
  have hfield : ∀ a b c, q.sortField.le C a b = true → q.sortField.le C b c = true →
      q.sortField.le C a c = true := by
    intro a b c
    cases q.sortField with
    | timestamp =>
      simp only [SortField.le, decide_eq_true_eq]
      exact Int.le_trans
    | caller => exact C.trans _ _ _
    | callee => exact C.trans _ _ _
  rw [CallHistoryQuery.le] at hab hbc ⊢
  cases hdir : q.sortDir with
  | asc =>
    rw [hdir] at hab hbc
    exact hfield a b c hab hbc
  | desc =>
    rw [hdir] at hab hbc
    exact hfield c b a hbc hab

theorem le_total (a b : CallEntry) : (q.le C a b || q.le C b a) = true := by
  have hfield : ∀ a b, (q.sortField.le C a b || q.sortField.le C b a) = true := by
    intro a b
    cases q.sortField with
    | timestamp =>
      simp only [SortField.le, Bool.or_eq_true, decide_eq_true_eq]
      exact Int.le_total _ _
    | caller => exact C.total _ _
    | callee => exact C.total _ _
  rw [CallHistoryQuery.le, CallHistoryQuery.le]
  cases q.sortDir with
  | asc => exact hfield a b
  | desc => exact hfield b a

end CallHistoryQuery

/-! ### Ids -/

namespace CallsTable

variable {t : CallsTable}

/-- The ids of the rows are different, and the sequence is past them. -/
structure Numbered (t : CallsTable) : Prop where
  below : ∀ e ∈ t.rows.entries, e.2.id < t.nextId
  unique : UniqueKeys (fun e : CallEntry => e.2.id) t.rows.entries

theorem empty_numbered : empty.Numbered where
  below e he := by cases he
  unique := List.Pairwise.nil

/-- A row that is changed keeps its id. -/
theorem Numbered.insert (h : t.Numbered) {k : String} {row row' : CallRow}
    (hrow : t.rows.lookup k = some row) (hid : row'.id = row.id) (n : ℕ) (hn : t.nextId ≤ n) :
    (CallsTable.mk (t.rows.insert k row') n).Numbered := by
  have hmem : ⟨k, row⟩ ∈ t.rows.entries := AList.mem_lookup_iff.mp hrow
  have hsub := List.kerase_sublist k t.rows.entries
  constructor
  · intro e he
    rw [AList.entries_insert] at he
    rcases List.mem_cons.mp he with rfl | he
    · exact (hid.trans_lt (h.below _ hmem)).trans_le hn
    · exact (h.below e (hsub.subset he)).trans_le hn
  · rw [AList.entries_insert]
    refine List.Pairwise.cons (fun e he heq => ?_) (h.unique.sublist hsub)
    -- the row with this id is the one that is gone
    have he' := KeyedRows.eq_of_key h.unique (hsub.subset he) hmem (heq.symm.trans hid)
    have hkeys := List.mem_map_of_mem (f := Sigma.fst) he
    rw [he'] at hkeys
    exact List.notMem_keys_kerase k t.rows.nodupKeys hkeys

theorem apply_numbered (h : t.Numbered) (event : CallReport) : (t.apply event).Numbered := by
  have hupdate : ∀ (k : String) (f : CallRow → CallRow), (∀ row, (f row).id = row.id) →
      (t.updateRow k f).Numbered := by
    intro k f hf
    rw [updateRow]
    cases hrow : t.rows.lookup k with
    | none => exact h
    | some row => exact h.insert hrow (hf row) _ (Nat.le_refl _)
  cases event with
  | started event =>
    rw [apply, applyCallStarted]
    cases hrow : t.rows.lookup event.sipCallId with
    | none =>
      have hnot : event.sipCallId ∉ t.rows := by
        rw [← AList.lookup_eq_none]
        exact hrow
      constructor
      · intro e he
        dsimp only at he
        rw [AList.entries_insert_of_notMem hnot] at he
        rcases List.mem_cons.mp he with rfl | he
        · exact Nat.lt_succ_self _
        · exact Nat.lt_succ_of_lt (h.below e he)
      · dsimp only
        rw [AList.entries_insert_of_notMem hnot]
        exact List.Pairwise.cons (fun e he heq => Nat.lt_irrefl _ (heq.trans_lt (h.below e he))) h.unique
    | some row =>
      refine h.insert hrow ?_ _ (Nat.le_succ _)
      rfl
  | updated event => exact hupdate _ _ fun row => rfl
  | terminated event => exact hupdate _ _ fun row => rfl

/-- A row that is there stays, with its id. -/
theorem lookup_apply {k : String} {row : CallRow} (hrow : t.rows.lookup k = some row)
    (event : CallReport) : ∃ row', (t.apply event).rows.lookup k = some row' ∧ row'.id = row.id := by
  have hinsert : ∀ (k' : String) (row₁ row₂ : CallRow), t.rows.lookup k' = some row₁ →
      row₂.id = row₁.id → ∃ row', (t.rows.insert k' row₂).lookup k = some row' ∧ row'.id = row.id := by
    intro k' row₁ row₂ hk' hid
    by_cases hk : k = k'
    · subst hk
      rw [hrow, Option.some_inj] at hk'
      subst hk'
      exact ⟨row₂, AList.lookup_insert _, hid⟩
    · exact ⟨row, (AList.lookup_insert_ne hk).trans hrow, rfl⟩
  have hupdate : ∀ (k' : String) (f : CallRow → CallRow), (∀ row, (f row).id = row.id) →
      ∃ row', (t.updateRow k' f).rows.lookup k = some row' ∧ row'.id = row.id := by
    intro k' f hf
    rw [updateRow]
    cases hk' : t.rows.lookup k' with
    | none => exact ⟨row, hrow, rfl⟩
    | some row₁ => exact hinsert k' row₁ _ hk' (hf row₁)
  cases event with
  | started event =>
    rw [apply, applyCallStarted]
    cases hk' : t.rows.lookup event.sipCallId with
    | none =>
      refine ⟨row, (AList.lookup_insert_ne ?_).trans hrow, rfl⟩
      rintro rfl
      rw [hrow] at hk'
      cases hk'
    | some row₁ => exact hinsert _ _ _ hk' rfl
  | updated event => exact hupdate _ _ fun row => rfl
  | terminated event => exact hupdate _ _ fun row => rfl

/-- A row whose record stays is the same row. -/
theorem lookup_apply_same {k : String} {row : CallRow} (hrow : t.rows.lookup k = some row)
    {event : CallReport} (hsame : (t.apply event).record k = t.record k) :
    (t.apply event).rows.lookup k = some row := by
  obtain ⟨row', hrow', hid⟩ := lookup_apply hrow event
  rw [record, record, hrow', hrow, Option.map_some, Option.map_some, Option.some_inj] at hsame
  rw [hrow']
  cases row
  cases row'
  dsimp only at hid hsame
  subst hid hsame
  rfl

theorem foldl_numbered (h : t.Numbered) (events : List CallReport) :
    (events.foldl CallsTable.apply t).Numbered := by
  induction events generalizing t with
  | nil => exact h
  | cons event events ih => exact ih (apply_numbered h event)

end CallsTable

/-! ### A table that does not change -/

/-- **The pages list the history.**  For every table, every order of texts and every
request: the pages 1, 2, … up to any that covers the count are, one after another, the
calls that ended with one of the statuses, each of them once, sorted by what was asked for
and by falling id among equals; the count is theirs, and a page does not depend on the
order in which the database keeps the rows. -/
theorem history_pages (C : Collation) (q : CallHistoryQuery) (t : CallsTable) (ht : t.Numbered) :
    ∃ calls : List CallEntry,
      calls.Perm (t.rows.entries.filter q.selects) ∧
      calls.Pairwise (fun a b => q.le C a b = true ∧ (q.le C b a = true → b.2.id ≤ a.2.id)) ∧
      (getCallHistory C q t t).totalCount = calls.length ∧
      (∀ n, calls.length ≤ n * q.pageSize →
        (List.range n).flatMap (fun k => (getCallHistory C (q.pageAfter k) t t).rows) =
          calls.map fun e => toHistoryRecord e.1 e.2) ∧
      ∀ t' : CallsTable, t'.rows.entries.Perm t.rows.entries →
        getCallHistory C q t' t' = getCallHistory C q t t := by
  have hunique : UniqueKeys (fun e : CallEntry => e.2.id) (t.rows.entries.filter q.selects) :=
    ht.unique.sublist List.filter_sublist
  refine ⟨q.sorted C t, Listings.listing_perm_self _, ?_, ?_, fun n hn => ?_, fun t' ht' => ?_⟩
  · refine (Listings.listing_sorted CallHistoryQuery.le_trans CallHistoryQuery.le_total _).imp ?_
    exact fun h => Listings.byKey_iff.mp h
  · exact (Listings.listing_perm_self _).length_eq.symm
  · calc (List.range n).flatMap (fun k => (getCallHistory C (q.pageAfter k) t t).rows)
        = ((List.range n).flatMap fun k => page q.pageSize k (q.sorted C t)).map
            fun e => toHistoryRecord e.1 e.2 := List.map_flatMap.symm
      _ = (q.sorted C t).map fun e => toHistoryRecord e.1 e.2 := by
          rw [Listings.pages_flatten, List.take_of_length_le hn]
  · have hfilter := ht'.filter q.selects
    have hsorted : q.sorted C t' = q.sorted C t :=
      Listings.listing_perm CallHistoryQuery.le_trans CallHistoryQuery.le_total hunique hfilter
    rw [getCallHistory, getCallHistory, hsorted, hfilter.length_eq]

/-- Texts by their characters. -/
def codePoints : Collation where
  le a b := decide (a ≤ b)
  trans a b c hab hbc := decide_eq_true ((of_decide_eq_true hab).trans (of_decide_eq_true hbc))
  total a b := by simpa using le_total a b

/-- The latest calls first, one on a page. -/
def oneByOne : CallHistoryQuery where
  status := []
  sortField := .timestamp
  sortDir := .desc
  page := 1
  pageSize := 1
  page_pos := Nat.le_refl 1
  pageSize_pos := Nat.le_refl 1
  pageSize_le := by decide

/-- Two calls that have ended. -/
def twoEnded : CallsTable :=
  ([.started ⟨"a84b4c76e66710", "sip:alice@sbc.local", "sip:bob@sbc.local", 0⟩,
    .terminated ⟨"a84b4c76e66710", .failed, some "486", 3000, none⟩,
    .started ⟨"f81d4fae7dec11", "sip:carol@sbc.local", "sip:dave@sbc.local", 5000⟩,
    .terminated ⟨"f81d4fae7dec11", .success, none, 9000, some 4⟩] : List CallReport).foldl
      CallsTable.apply .empty

theorem history_pages_two :
    ((List.range 2).flatMap fun k =>
        (getCallHistory codePoints (oneByOne.pageAfter k) twoEnded twoEnded).rows).map (·.sipCallId) =
      ["f81d4fae7dec11", "a84b4c76e66710"] := by
  have hnumbered : twoEnded.Numbered := CallsTable.foldl_numbered CallsTable.empty_numbered _
  obtain ⟨calls, hperm, hsorted, -, hpages, -⟩ :=
    history_pages codePoints oneByOne twoEnded hnumbered
  -- the table has the later call first
  have hentries : twoEnded.rows.entries.filter oneByOne.selects = twoEnded.rows.entries := by
    decide +kernel
  rw [hentries] at hperm
  have hlatest : calls = twoEnded.rows.entries := by
    refine hperm.eq_of_pairwise (fun a b ha hb hab hba => ?_) hsorted (by decide +kernel)
    exact KeyedRows.eq_of_key hnumbered.unique (hperm.mem_iff.mp ha) hb
      (Nat.le_antisymm (hba.2 hab.1) (hab.2 hba.1))
  rw [hpages 2 (by rw [hlatest]; decide +kernel), hlatest]
  decide +kernel

/-! ### Calls end while somebody reads -/

theorem Reuses.mono {events before : List CallReport} (hreuses : Reuses before)
    (h : before <+: events) : Reuses events := by
  obtain ⟨l, event, hl, hearlier⟩ := hreuses
  exact ⟨l, event, hl.trans h, hearlier⟩

/-- A control plane that applies reports, and somebody who reads page after page. -/
structure HistoryReader where
  table : CallsTable
  /-- The reports that were applied, less the repeats. -/
  reported : List CallReport
  pages : List (List HistoryRecord)

inductive ReaderEvent where
  | report (event : CallReport)
  /-- The last report comes again. -/
  | replay
  | read
  deriving DecidableEq, Repr

/-- All pages of the history. -/
def history (C : Collation) (q : CallHistoryQuery) (t : CallsTable) : List HistoryRecord :=
  (q.sorted C t).map fun e => toHistoryRecord e.1 e.2

/-- The Call-IDs of the starts are different. -/
theorem not_reuses {events : List CallReport} (h : (events.filterMap fun event =>
    match event with
    | .started event => some event.sipCallId
    | _ => none).Nodup) : ¬ Reuses events := by
  rintro ⟨before, start, ⟨rest, rfl⟩, earlier, hearlier, hid⟩
  rw [List.append_assoc, List.filterMap_append, List.nodup_append] at h
  refine h.2.2 _ (List.mem_filterMap.mpr ⟨_, hearlier, rfl⟩) _ (List.mem_filterMap.mpr
    ⟨_, List.mem_append_left _ (List.mem_singleton.mpr rfl), rfl⟩) hid

namespace HistoryReader

def initial : HistoryReader := { table := .empty, reported := [], pages := [] }

def step (C : Collation) (q : CallHistoryQuery) (x : HistoryReader) : ReaderEvent → HistoryReader
  | .report event => { x with table := x.table.apply event, reported := x.reported ++ [event] }
  | .replay =>
    match x.reported.getLast? with
    | none => x
    | some event => { x with table := x.table.apply event }
  | .read =>
    let answer := getCallHistory C (q.pageAfter x.pages.length) x.table x.table
    { x with pages := x.pages ++ [answer.rows] }

/-- The table is that of the reports. -/
structure Sound (x : HistoryReader) : Prop where
  numbered : x.table.Numbered
  record : x.table.record = (x.reported.foldl CallsTable.apply .empty).record

variable {C : Collation} {q : CallHistoryQuery} {x : HistoryReader}

theorem initial_sound : Sound initial where
  numbered := CallsTable.empty_numbered
  record := rfl

/-- A repeat leaves the records. -/
theorem Sound.replay (h : Sound x) {event : CallReport} (hlast : x.reported.getLast? = some event) :
    (x.table.apply event).record = x.table.record := by
  obtain ⟨l, hl⟩ := List.getLast?_eq_some_iff.mp hlast
  rw [CallsTable.record_apply, h.record, hl, List.foldl_append, List.foldl_cons, List.foldl_nil,
    CallsTable.record_apply, Records.apply_apply]

theorem step_sound (h : Sound x) (e : ReaderEvent) : Sound (x.step C q e) := by
  cases e with
  | report event =>
    refine ⟨CallsTable.apply_numbered h.numbered event, ?_⟩
    dsimp only [step]
    rw [List.foldl_append, List.foldl_cons, List.foldl_nil, CallsTable.record_apply, h.record,
      ← CallsTable.record_apply]
  | replay =>
    rw [step]
    split
    · exact h
    · next event hlast =>
      exact ⟨CallsTable.apply_numbered h.numbered event, (h.replay hlast).trans h.record⟩
  | read => exact ⟨h.numbered, h.record⟩

theorem step_reported (e : ReaderEvent) : x.reported <+: (x.step C q e).reported := by
  cases e with
  | report event => exact List.prefix_append _ _
  | replay =>
    rw [step]
    split <;> exact List.prefix_rfl
  | read => exact List.prefix_rfl

/-- Nothing is reported of a call that has ended. -/
theorem sipCallId_ne {events : List CallReport} {event : CallReport} {k : String} {c : ReportedCall}
    (horder : InOrder (events ++ [event])) (hfresh : ¬ Reuses (events ++ [event]))
    (hcall : latestCall k events = some c) (hend : c.terminated ≠ none) : event.sipCallId ≠ k := by
  rintro rfl
  have hadmissible := horder events event List.prefix_rfl
  cases event with
  | started start =>
    obtain ⟨hmem, hid⟩ := started_of_latestCall hcall
    exact hfresh ⟨events, start, List.prefix_rfl, c.started, hmem, hid⟩
  | updated event =>
    obtain ⟨c', hcall', hlive⟩ := hadmissible
    exact hend (by rw [← Option.some.inj (hcall'.symm.trans hcall)]; exact hlive)
  | terminated event =>
    obtain ⟨c', hcall', hlive⟩ := hadmissible
    exact hend (by rw [← Option.some.inj (hcall'.symm.trans hcall)]; exact hlive)

/-- The row of a call that has ended stays as it is. -/
theorem step_lookup (h : Sound x) (e : ReaderEvent) (horder : InOrder (x.step C q e).reported)
    (hfresh : ¬ Reuses (x.step C q e).reported) {k : String} {row : CallRow}
    (hrow : x.table.rows.lookup k = some row) (hend : row.endedAt ≠ none) :
    (x.step C q e).table.rows.lookup k = some row := by
  cases e with
  | report event =>
    refine CallsTable.lookup_apply_same hrow ?_
    have hlatest : x.table.record k = (latestCall k x.reported).map (·.record) := by
      rw [h.record]
      exact CallsTable.record_latest (fun hr => hfresh (hr.mono (step_reported _))) k
    rw [CallsTable.record, hrow, Option.map_some, eq_comm, Option.map_eq_some_iff] at hlatest
    obtain ⟨c, hcall, hc⟩ := hlatest
    have hne : event.sipCallId ≠ k := by
      refine sipCallId_ne horder hfresh hcall fun hlive => hend ?_
      have hended := congrArg CallRecord.endedAt hc
      rw [ReportedCall.record, hlive] at hended
      exact hended.symm
    rw [CallsTable.record_apply, Records.apply, Function.update_of_ne hne.symm]
  | replay =>
    rw [step]
    split
    · exact hrow
    · next event hlast => exact CallsTable.lookup_apply_same hrow (congrFun (h.replay hlast) k)
  | read => exact hrow

/-- The history grows in between. -/
theorem step_history (h : Sound x) (e : ReaderEvent) (horder : InOrder (x.step C q e).reported)
    (hfresh : ¬ Reuses (x.step C q e).reported) :
    (history C q x.table).Sublist (history C q (x.step C q e).table) := by
  refine List.Sublist.map _ (Listings.listing_sublist CallHistoryQuery.le_trans
    CallHistoryQuery.le_total (h.numbered.unique.sublist List.filter_sublist) ?_)
  rintro ⟨k, row⟩ he
  obtain ⟨hmem, hselects⟩ := List.mem_filter.mp he
  have hend : row.endedAt ≠ none := by
    rw [CallHistoryQuery.selects, Bool.and_eq_true, Option.isSome_iff_ne_none] at hselects
    exact hselects.1
  refine List.mem_filter.mpr ⟨?_, hselects⟩
  have hrow := step_lookup h e horder hfresh (AList.mem_lookup_iff.mpr hmem) hend
  exact AList.mem_lookup_iff.mp hrow

/-- A record of the history is on a page that was read, or on a later one. -/
theorem run_walked {r : HistoryRecord} (hx : Sound x) (hpages : x.pages = [])
    (hr : r ∈ history C q x.table) (es : List ReaderEvent)
    (horder : InOrder (es.foldl (step C q) x).reported)
    (hfresh : ¬ Reuses (es.foldl (step C q) x).reported) :
    Sound (es.foldl (step C q) x) ∧ Walked q.pageSize (es.foldl (step C q) x).pages
      (history C q (es.foldl (step C q) x).table) r := by
  induction es using List.reverseRecOn with
  | nil =>
    refine ⟨hx, ?_⟩
    rw [List.foldl_nil, hpages]
    exact Walked.start hr
  | append_singleton es e ih =>
    rw [List.foldl_append, List.foldl_cons, List.foldl_nil] at horder hfresh ⊢
    obtain ⟨hsound, hwalked⟩ := ih (horder.of_prefix (step_reported e))
      fun hr => hfresh (hr.mono (step_reported e))
    generalize es.foldl (step C q) x = y at *
    refine ⟨step_sound hsound e, ?_⟩
    have hgrows := hwalked.grow (step_history hsound e horder hfresh)
    cases e with
    | report event => exact hgrows
    | replay =>
      have hsame : (y.step C q .replay).pages = y.pages := by
        rw [step]
        split <;> rfl
      rw [hsame]
      exact hgrows
    | read =>
      have hread := hgrows.read
      rw [history, Listings.page_map] at hread
      exact hread

theorem run_sound (es : List ReaderEvent) : Sound (es.foldl (step C q) initial) := by
  induction es using List.reverseRecOn with
  | nil => exact initial_sound
  | append_singleton es e ih =>
    rw [List.foldl_append, List.foldl_cons, List.foldl_nil]
    exact step_sound ih e

theorem run_reported (es : List ReaderEvent) :
    x.reported <+: (es.foldl (step C q) x).reported := by
  induction es using List.reverseRecOn with
  | nil => exact List.prefix_rfl
  | append_singleton es e ih =>
    rw [List.foldl_append, List.foldl_cons, List.foldl_nil]
    exact ih.trans (step_reported e)

/-- A call that has ended is in the history. -/
theorem mem_history (h : Sound x) (hfresh : ¬ Reuses x.reported) {k : String} {c : ReportedCall}
    {event : CallTerminated} (hcall : latestCall k x.reported = some c)
    (hend : c.terminated = some event) (hstatus : q.status = [] ∨ event.status ∈ q.status) :
    ∃ id, toHistoryRecord k { c.record with id := id } ∈ history C q x.table := by
  have hrecord : x.table.record k = some c.record := by
    rw [h.record, CallsTable.record_latest hfresh, hcall]
    rfl
  obtain ⟨row, hrow, hc⟩ := Option.map_eq_some_iff.mp hrecord
  refine ⟨row.id, List.mem_map.mpr ⟨⟨k, row⟩, Listings.mem_listing.mpr (List.mem_filter.mpr
    ⟨AList.mem_lookup_iff.mp hrow, ?_⟩), ?_⟩⟩
  · rw [CallHistoryQuery.selects, hc]
    simp only [ReportedCall.record, hend, Option.map_some, Option.isSome_some, Bool.true_and,
      Option.any_some, Bool.or_eq_true, List.isEmpty_iff, List.contains_iff_mem]
    exact hstatus
  · rw [← hc]

/-- **Reading on misses no call.**  Calls start, change and end, reports come again, and
somebody reads one page after another: once a page is not full, every call that had ended
before the first page was on some page, with what was reported of it. -/
theorem reading_misses_no_call (C : Collation) (q : CallHistoryQuery) (before later : List ReaderEvent)
    (hbefore : (before.foldl (step C q) initial).pages = [])
    (horder : InOrder ((before ++ later).foldl (step C q) initial).reported)
    (hfresh : ¬ Reuses ((before ++ later).foldl (step C q) initial).reported)
    (hshort : ∃ p ∈ ((before ++ later).foldl (step C q) initial).pages, p.length < q.pageSize)
    (k : String) (c : ReportedCall) (event : CallTerminated)
    (hcall : latestCall k (before.foldl (step C q) initial).reported = some c)
    (hend : c.terminated = some event) (hstatus : q.status = [] ∨ event.status ∈ q.status) :
    ∃ id, toHistoryRecord k { c.record with id := id } ∈
      ((before ++ later).foldl (step C q) initial).pages.flatten := by
  rw [List.foldl_append] at horder hfresh hshort ⊢
  have hsound : Sound (before.foldl (step C q) initial) := run_sound before
  have hfresh' : ¬ Reuses (before.foldl (step C q) initial).reported :=
    fun hr => hfresh (hr.mono (run_reported later))
  obtain ⟨id, hr⟩ := mem_history hsound hfresh' hcall hend hstatus
  exact ⟨id, (run_walked hsound hbefore hr later horder hfresh).2.shown hshort⟩

/-- A call has ended; a later one ends after the first page was read, and its end is
reported again. -/
def endedMeanwhile : List ReaderEvent :=
  [.report (.started ⟨"a84b4c76e66710", "sip:alice@sbc.local", "sip:bob@sbc.local", 0⟩),
    .report (.terminated ⟨"a84b4c76e66710", .failed, some "486", 3000, none⟩)]

def readMeanwhile : List ReaderEvent :=
  [.read, .report (.started ⟨"f81d4fae7dec11", "sip:carol@sbc.local", "sip:dave@sbc.local", 5000⟩),
    .report (.terminated ⟨"f81d4fae7dec11", .success, none, 9000, some 4⟩), .replay, .read, .read]

theorem reading_misses_no_call_meanwhile :
    ∃ id, toHistoryRecord "a84b4c76e66710" { (ReportedCall.record
        ⟨⟨"a84b4c76e66710", "sip:alice@sbc.local", "sip:bob@sbc.local", 0⟩, [],
          some ⟨"a84b4c76e66710", .failed, some "486", 3000, none⟩⟩) with id := id } ∈
      ((endedMeanwhile ++ readMeanwhile).foldl (step codePoints oneByOne) initial).pages.flatten := by
  refine reading_misses_no_call codePoints oneByOne endedMeanwhile readMeanwhile rfl ?_ ?_
    ⟨_, List.mem_concat_self, ?_⟩ _ _ _ rfl rfl (.inl rfl)
  · exact (((inOrder_nil.concat (by decide)).concat (by decide)).concat (by decide)).concat (by decide)
  · exact not_reuses (by decide)
  · -- two calls have ended, and two pages were read
    rw [rows_length]
    decide +kernel

end HistoryReader

end SbcEngine
