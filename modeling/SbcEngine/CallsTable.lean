/-
The control plane's record of calls.

Engines report the start, the changes and the end of their calls.  The control plane
keeps one row for a Call-ID and updates it with each of the three events; an event
that was in flight when a connection dropped comes twice.

* `CallsTable` — the rows, by Call-ID, and the sequence of their ids;
* `applyCallStarted`, `applyCallUpdated`, `applyCallTerminated` — the handlers;
* `Records` — the table without ids, one step of which is one event;
* `replays_same` — events that come more than once leave the same records;
* `Faithful` — the rows are those of the latest calls;
* `rows_faithful_iff` — they are, throughout a stream, exactly when no Call-ID of the
  stream is used again.

Design notes: a start burns an id whether it inserts or not.  Times are readings of
the engine's clock, in milliseconds.  Log messages are left out.
-/
import SbcEngine.Runs
import Mathlib.Data.List.AList
import Mathlib.Data.List.Sort

namespace SbcEngine

/-! ### Events -/

structure CallStarted where
  sipCallId : String
  caller : String
  callee : String
  startedAt : ℤ
  deriving DecidableEq, Repr

structure CallUpdated where
  sipCallId : String
  route : Option String
  codec : Option String
  updatedAt : ℤ
  deriving DecidableEq, Repr

inductive CallTerminatedStatus where
  | success
  | failed
  | noRouteAvailable
  | blocked
  deriving DecidableEq, Repr

structure CallTerminated where
  sipCallId : String
  status : CallTerminatedStatus
  failureReason : Option String
  endedAt : ℤ
  durationSeconds : Option ℤ
  deriving DecidableEq, Repr

/-- What engines report of calls. -/
inductive CallReport where
  | started (event : CallStarted)
  | updated (event : CallUpdated)
  | terminated (event : CallTerminated)
  deriving DecidableEq, Repr

namespace CallReport

def sipCallId : CallReport → String
  | started event => event.sipCallId
  | updated event => event.sipCallId
  | terminated event => event.sipCallId

/-- The report says that a call starts or ends. -/
def isMark : CallReport → Bool
  | started _ => true
  | updated _ => false
  | terminated _ => true

end CallReport

/-! ### The table -/

/-- The columns of `calls`, less the ids. -/
structure CallRecord where
  caller : String
  callee : String
  route : Option String
  codec : Option String
  status : Option CallTerminatedStatus
  startedAt : ℤ
  answeredAt : Option ℤ
  endedAt : Option ℤ
  durationSeconds : Option ℤ
  failureReason : Option String
  deriving DecidableEq, Repr

structure CallRow extends CallRecord where
  id : ℕ
  deriving DecidableEq, Repr

/-- `sip_call_id` is unique: the rows are a map. -/
structure CallsTable where
  rows : AList fun _ : String => CallRow
  nextId : ℕ

namespace CallsTable

def empty : CallsTable := ⟨∅, 1⟩

/-- The row a start inserts. -/
def inserted (event : CallStarted) : CallRecord where
  caller := event.caller
  callee := event.callee
  route := none
  codec := none
  status := none
  startedAt := event.startedAt
  answeredAt := none
  endedAt := none
  durationSeconds := none
  failureReason := none

/-- Insert, or on a conflict set three columns. -/
def applyCallStarted (event : CallStarted) (t : CallsTable) : CallsTable :=
  match t.rows.lookup event.sipCallId with
  | none =>
    { rows := t.rows.insert event.sipCallId { inserted event with id := t.nextId }
      nextId := t.nextId + 1 }
  | some row =>
    { rows := t.rows.insert event.sipCallId
        { row with caller := event.caller, callee := event.callee, startedAt := event.startedAt }
      nextId := t.nextId + 1 }

/-- Update the row with a Call-ID, if there is one. -/
def updateRow (sipCallId : String) (f : CallRow → CallRow) (t : CallsTable) : CallsTable :=
  match t.rows.lookup sipCallId with
  | none => t
  | some row => { t with rows := t.rows.insert sipCallId (f row) }

/-- The first update is the answer; a route or codec that is absent stays. -/
def applyCallUpdated (event : CallUpdated) (t : CallsTable) : CallsTable :=
  t.updateRow event.sipCallId fun row =>
    { row with
      route := event.route <|> row.route
      codec := event.codec <|> row.codec
      answeredAt := row.answeredAt <|> some event.updatedAt }

def applyCallTerminated (event : CallTerminated) (t : CallsTable) : CallsTable :=
  t.updateRow event.sipCallId fun row =>
    { row with
      status := some event.status
      failureReason := event.failureReason
      endedAt := some event.endedAt
      durationSeconds := event.durationSeconds }

def apply (t : CallsTable) : CallReport → CallsTable
  | .started event => t.applyCallStarted event
  | .updated event => t.applyCallUpdated event
  | .terminated event => t.applyCallTerminated event

/-! ### Active calls -/

structure ActiveCall where
  id : ℕ
  sipCallId : String
  caller : String
  callee : String
  route : Option String
  codec : Option String
  startedAt : ℤ
  answeredAt : Option ℤ
  stale : Bool
  deriving DecidableEq, Repr

/-- Six hours, in milliseconds. -/
def staleAfterMs : ℤ := 6 * 60 * 60 * 1000

def toActiveCall (now : ℤ) (sipCallId : String) (row : CallRow) : ActiveCall where
  id := row.id
  sipCallId := sipCallId
  caller := row.caller
  callee := row.callee
  route := row.route
  codec := row.codec
  startedAt := row.startedAt
  answeredAt := row.answeredAt
  stale := now - row.startedAt > staleAfterMs

/-- The rows without an end, latest start first. -/
def getActiveCalls (now : ℤ) (t : CallsTable) : List ActiveCall :=
  ((t.rows.entries.filter fun e => e.2.endedAt.isNone).mergeSort
    fun e e' => e'.2.startedAt ≤ e.2.startedAt).map fun e => toActiveCall now e.1 e.2

/-- The row of a call, less its id. -/
def record (t : CallsTable) (sipCallId : String) : Option CallRecord :=
  (t.rows.lookup sipCallId).map (·.toCallRecord)

/-- The calls listed as active are those whose row has no end. -/
theorem mem_getActiveCalls {now : ℤ} {t : CallsTable} {sipCallId : String} :
    sipCallId ∈ (t.getActiveCalls now).map (·.sipCallId) ↔
      ∃ r, t.record sipCallId = some r ∧ r.endedAt = none := by
  simp only [getActiveCalls, List.map_map, List.mem_map, List.mem_mergeSort, List.mem_filter,
    Option.isNone_iff_eq_none, record, Option.map_eq_some_iff]
  constructor
  · rintro ⟨e, ⟨hmem, hend⟩, rfl⟩
    exact ⟨e.2.toCallRecord, ⟨e.2, AList.mem_lookup_iff.mpr hmem, rfl⟩, hend⟩
  · rintro ⟨r, ⟨row, hrow, rfl⟩, hend⟩
    exact ⟨⟨sipCallId, row⟩, ⟨AList.mem_lookup_iff.mp hrow, hend⟩, rfl⟩

end CallsTable

/-! ### Records -/

/-- What an event makes of the record of its call. -/
def CallRecord.after (event : CallReport) (r : Option CallRecord) : Option CallRecord :=
  match event with
  | .started event =>
    match r with
    | none => some (CallsTable.inserted event)
    | some r =>
      some { r with caller := event.caller, callee := event.callee, startedAt := event.startedAt }
  | .updated event => r.map fun r =>
    { r with
      route := event.route <|> r.route
      codec := event.codec <|> r.codec
      answeredAt := r.answeredAt <|> some event.updatedAt }
  | .terminated event => r.map fun r =>
    { r with
      status := some event.status
      failureReason := event.failureReason
      endedAt := some event.endedAt
      durationSeconds := event.durationSeconds }

/-- The table without its ids. -/
abbrev Records := String → Option CallRecord

def Records.apply (r : Records) (event : CallReport) : Records :=
  Function.update r event.sipCallId (CallRecord.after event (r event.sipCallId))

namespace CallsTable

variable (t : CallsTable)

theorem record_insert (rows : AList fun _ : String => CallRow) (n : ℕ) (sipCallId : String)
    (row : CallRow) :
    (CallsTable.mk (rows.insert sipCallId row) n).record =
      Function.update (CallsTable.mk rows n).record sipCallId (some row.toCallRecord) := by
  funext k
  by_cases hk : k = sipCallId
  · subst hk
    rw [Function.update_self, record, AList.lookup_insert]
    rfl
  · rw [Function.update_of_ne hk, record, AList.lookup_insert_ne hk]
    rfl

theorem record_updateRow (sipCallId : String) (f : CallRow → CallRow) :
    (t.updateRow sipCallId f).record =
      Function.update t.record sipCallId
        ((t.rows.lookup sipCallId).map fun row => (f row).toCallRecord) := by
  rw [updateRow]
  cases hrow : t.rows.lookup sipCallId with
  | none =>
    have hnone : t.record sipCallId = none := by rw [record, hrow]; rfl
    rw [Option.map_none, ← hnone, Function.update_eq_self]
  | some row => exact record_insert t.rows t.nextId sipCallId (f row)

/-- The handlers work on the records. -/
theorem record_apply (event : CallReport) : (t.apply event).record = Records.apply t.record event := by
  cases event with
  | started event =>
    rw [apply, applyCallStarted, Records.apply]
    cases hrow : t.rows.lookup event.sipCallId with
    | none =>
      have hnone : t.record event.sipCallId = none := by rw [record, hrow]; rfl
      exact (record_insert _ _ _ _).trans (by rw [CallReport.sipCallId, hnone]; rfl)
    | some row =>
      have hsome : t.record event.sipCallId = some row.toCallRecord := by rw [record, hrow]; rfl
      exact (record_insert _ _ _ _).trans (by rw [CallReport.sipCallId, hsome]; rfl)
  | updated event =>
    rw [apply, applyCallUpdated, record_updateRow, Records.apply, CallReport.sipCallId, record]
    cases t.rows.lookup event.sipCallId with
    | none => rfl
    | some row => rfl
  | terminated event =>
    rw [apply, applyCallTerminated, record_updateRow, Records.apply, CallReport.sipCallId, record]
    cases t.rows.lookup event.sipCallId with
    | none => rfl
    | some row => rfl

theorem record_foldl (events : List CallReport) :
    (events.foldl apply t).record = events.foldl Records.apply t.record :=
  (List.foldl_hom record fun t event => (record_apply t event).symm).symm

end CallsTable

/-! ### Replays -/

theorem CallRecord.after_after (event : CallReport) (r : Option CallRecord) :
    after event (after event r) = after event r := by
  cases r with
  | none => cases event <;> rfl
  | some r =>
    cases event with
    | started event => rfl
    | terminated event => rfl
    | updated event =>
      -- what the first copy gave, the second gives again; the answer stays
      simp only [after, Option.map_some, Option.some.injEq, CallRecord.mk.injEq, true_and, and_true]
      refine ⟨?_, ?_, ?_⟩
      · cases event.route <;> rfl
      · cases event.codec <;> rfl
      · cases r.answeredAt <;> rfl

theorem Records.apply_apply (r : Records) (event : CallReport) :
    Records.apply (Records.apply r event) event = Records.apply r event := by
  rw [Records.apply, Records.apply, Function.update_self, CallRecord.after_after,
    Function.update_idem]

/-- **Replays leave no trace.**  For every table and every sequence of events: the
events, each of them any number of times in a row, leave the records that the events
leave when each of them comes once. -/
theorem CallsTable.replays_same (t : CallsTable) (events : List (CallReport × ℕ)) :
    ((Runs.repeated events).foldl apply t).record = ((events.map (·.1)).foldl apply t).record := by
  rw [record_foldl, record_foldl]
  exact Runs.foldl_repeated Records.apply_apply events t.record

/-! ### The latest call -/

/-- What was reported of one call. -/
structure ReportedCall where
  started : CallStarted
  updates : List CallUpdated
  terminated : Option CallTerminated

namespace ReportedCall

/-- The row of a call: it says what was reported of the call, the first change being
the answer. -/
def record (c : ReportedCall) : CallRecord where
  caller := c.started.caller
  callee := c.started.callee
  route := (c.updates.filterMap (·.route)).getLast?
  codec := (c.updates.filterMap (·.codec)).getLast?
  status := c.terminated.map (·.status)
  startedAt := c.started.startedAt
  answeredAt := c.updates.head?.map (·.updatedAt)
  endedAt := c.terminated.map (·.endedAt)
  durationSeconds := c.terminated.bind (·.durationSeconds)
  failureReason := c.terminated.bind (·.failureReason)

/-- A report about the Call-ID of the latest call: a start begins another. -/
def note : Option ReportedCall → CallReport → Option ReportedCall
  | _, .started event => some ⟨event, [], none⟩
  | c, .updated event => c.map fun c => { c with updates := c.updates ++ [event] }
  | c, .terminated event => c.map fun c => { c with terminated := some event }

end ReportedCall

/-- The latest call with a Call-ID. -/
def latestCall (sipCallId : String) (events : List CallReport) : Option ReportedCall :=
  (events.filter fun event => event.sipCallId = sipCallId).foldl ReportedCall.note none

/-- The latest start or end of a call with a Call-ID. -/
def latestMark (sipCallId : String) (events : List CallReport) : Option CallReport :=
  (events.filter fun event => event.sipCallId = sipCallId ∧ event.isMark = true).getLast?

theorem latestCall_concat (sipCallId : String) (events : List CallReport) (event : CallReport) :
    latestCall sipCallId (events ++ [event]) =
      if event.sipCallId = sipCallId then ReportedCall.note (latestCall sipCallId events) event
      else latestCall sipCallId events := by
  rw [latestCall, List.filter_append, List.foldl_append]
  split_ifs with hid
  · rw [List.filter_cons_of_pos (by simpa using hid)]
    rfl
  · rw [List.filter_cons_of_neg (by simpa using hid)]
    rfl

theorem latestMark_concat (sipCallId : String) (events : List CallReport) (event : CallReport) :
    latestMark sipCallId (events ++ [event]) =
      if event.sipCallId = sipCallId ∧ event.isMark = true then some event
      else latestMark sipCallId events := by
  rw [latestMark, List.filter_append]
  split_ifs with hmark
  · rw [List.filter_cons_of_pos (by simpa using hmark), List.filter_nil, List.getLast?_concat]
  · rw [List.filter_cons_of_neg (by simpa using hmark), List.filter_nil, List.append_nil]
    rfl

/-! ### Streams -/

/-- A call with the Call-ID has started and not ended. -/
def Ongoing (events : List CallReport) (sipCallId : String) : Prop :=
  ∃ c, latestCall sipCallId events = some c ∧ c.terminated = none

/-- An engine starts no call with the Call-ID of a live one, and reports the changes
and the end of live calls. -/
def Admissible (events : List CallReport) : CallReport → Prop
  | .started event => ¬ Ongoing events event.sipCallId
  | .updated event => Ongoing events event.sipCallId
  | .terminated event => Ongoing events event.sipCallId

/-- The streams that engines emit. -/
def InOrder (events : List CallReport) : Prop :=
  ∀ before event, before ++ [event] <+: events → Admissible before event

/-- A call is started with the Call-ID of an earlier one. -/
def Reuses (events : List CallReport) : Prop :=
  ∃ before event, before ++ [.started event] <+: events ∧
    ∃ earlier, .started earlier ∈ before ∧ earlier.sipCallId = event.sipCallId

/-- A Call-ID is listed as active if and only if its latest mark is a start, and its
row is that of its latest call. -/
structure CallsTable.Faithful (t : CallsTable) (events : List CallReport) : Prop where
  active : ∀ now sipCallId, sipCallId ∈ (t.getActiveCalls now).map (·.sipCallId) ↔
    ∃ event, latestMark sipCallId events = some (.started event)
  record : ∀ sipCallId, t.record sipCallId = (latestCall sipCallId events).map (·.record)

theorem InOrder.of_prefix {events before : List CallReport} (h : InOrder events)
    (hbefore : before <+: events) : InOrder before :=
  fun l event hl => h l event (hl.trans hbefore)

theorem inOrder_nil : InOrder [] := by
  intro before event hbefore
  have hlength := hbefore.length_le
  simp at hlength

theorem InOrder.concat {events : List CallReport} {event : CallReport} (h : InOrder events)
    (hevent : Admissible events event) : InOrder (events ++ [event]) := by
  intro before last hbefore
  rcases List.prefix_concat_iff.mp hbefore with heq | hbefore
  · obtain ⟨rfl, hlast⟩ := List.append_inj' heq rfl
    rw [List.head_eq_of_cons_eq hlast]
    exact hevent
  · exact h before last hbefore

instance (events : List CallReport) (sipCallId : String) : Decidable (Ongoing events sipCallId) :=
  decidable_of_iff (((latestCall sipCallId events).any fun c => c.terminated.isNone) = true) <| by
    simp only [Option.any_eq_true, Option.isNone_iff_eq_none]
    rfl

instance (events : List CallReport) (event : CallReport) : Decidable (Admissible events event) :=
  match event with
  | .started event => inferInstanceAs (Decidable (¬ Ongoing events event.sipCallId))
  | .updated event => inferInstanceAs (Decidable (Ongoing events event.sipCallId))
  | .terminated event => inferInstanceAs (Decidable (Ongoing events event.sipCallId))

/-- The latest mark is a start exactly while the call is live. -/
theorem latestMark_started {events : List CallReport} (h : InOrder events) (sipCallId : String) :
    (∃ event, latestMark sipCallId events = some (.started event)) ↔ Ongoing events sipCallId := by
  induction events using List.reverseRecOn with
  | nil => exact ⟨fun ⟨_, hmark⟩ => (by cases hmark), fun ⟨_, hcall, _⟩ => (by cases hcall)⟩
  | append_singleton events event ih =>
    have ih := ih (h.of_prefix (List.prefix_append _ _))
    rw [Ongoing, latestMark_concat, latestCall_concat]
    by_cases hid : event.sipCallId = sipCallId
    · subst hid
      rw [if_pos rfl]
      cases event with
      | started event =>
        rw [if_pos ⟨rfl, rfl⟩]
        exact ⟨fun _ => ⟨_, rfl, rfl⟩, fun _ => ⟨event, rfl⟩⟩
      | updated event =>
        have hlive : Ongoing events event.sipCallId := h events _ (List.prefix_refl _)
        rw [if_neg (fun hmark => Bool.false_ne_true hmark.2)]
        refine ⟨fun _ => ?_, fun _ => ih.mpr hlive⟩
        obtain ⟨c, hcall, hend⟩ := hlive
        exact ⟨_, congrArg (ReportedCall.note · _) hcall, hend⟩
      | terminated event =>
        rw [if_pos ⟨rfl, rfl⟩]
        constructor
        · rintro ⟨_, hmark⟩
          cases hmark
        · rintro ⟨c, hcall, hend⟩
          obtain ⟨c', -, rfl⟩ := Option.map_eq_some_iff.mp hcall
          cases hend
    · rw [if_neg (fun hmark => hid hmark.1), if_neg hid]
      exact ih

/-- A call with a Call-ID was started with it. -/
theorem started_of_latestCall {events : List CallReport} {sipCallId : String} {c : ReportedCall}
    (h : latestCall sipCallId events = some c) :
    .started c.started ∈ events ∧ c.started.sipCallId = sipCallId := by
  induction events using List.reverseRecOn generalizing c with
  | nil => cases h
  | append_singleton events event ih =>
    rw [latestCall_concat] at h
    split_ifs at h with hid
    · cases event with
      | started event =>
        obtain rfl := Option.some.inj h
        exact ⟨List.mem_append_right _ (List.mem_singleton.mpr rfl), hid⟩
      | updated event =>
        obtain ⟨c', hcall, rfl⟩ := Option.map_eq_some_iff.mp h
        exact ⟨List.mem_append_left _ (ih hcall).1, (ih hcall).2⟩
      | terminated event =>
        obtain ⟨c', hcall, rfl⟩ := Option.map_eq_some_iff.mp h
        exact ⟨List.mem_append_left _ (ih hcall).1, (ih hcall).2⟩
    · exact ⟨List.mem_append_left _ (ih h).1, (ih h).2⟩

theorem latestCall_of_started {events : List CallReport} {event : CallStarted}
    (h : .started event ∈ events) : ∃ c, latestCall event.sipCallId events = some c := by
  induction events using List.reverseRecOn with
  | nil => cases h
  | append_singleton events last ih =>
    rw [latestCall_concat]
    rcases List.mem_append.mp h with hbefore | hlast
    · obtain ⟨c, hcall⟩ := ih hbefore
      rw [hcall]
      split_ifs
      · cases last with
        | started last => exact ⟨_, rfl⟩
        | updated last => exact ⟨_, rfl⟩
        | terminated last => exact ⟨_, rfl⟩
      · exact ⟨c, rfl⟩
    · obtain rfl := List.mem_singleton.mp hlast
      exact ⟨_, if_pos rfl⟩

/-- What was given last, after one more update. -/
theorem ReportedCall.lastGiven_concat {α : Type} (f : CallUpdated → Option α)
    (updates : List CallUpdated) (event : CallUpdated) :
    ((updates ++ [event]).filterMap f).getLast? = (f event <|> (updates.filterMap f).getLast?) := by
  rw [List.filterMap_append]
  cases hgiven : f event with
  | none => simp [hgiven]
  | some given => simp [hgiven]

/-- An event does to the row of the latest call what it says of the call, unless it
starts another. -/
theorem CallRecord.after_note (c : Option ReportedCall) (event : CallReport)
    (hfresh : ∀ start, event = .started start → c = none) :
    after event (c.map (·.record)) = (ReportedCall.note c event).map (·.record) := by
  cases event with
  | started event =>
    rw [hfresh event rfl]
    rfl
  | terminated event =>
    cases c with
    | none => rfl
    | some c => rfl
  | updated event =>
    cases c with
    | none => rfl
    | some c =>
      simp only [after, ReportedCall.note, ReportedCall.record, Option.map_some, Option.some.injEq,
        CallRecord.mk.injEq, true_and, and_true, ReportedCall.lastGiven_concat]
      cases c.updates <;> rfl

namespace CallsTable

/-- Where no Call-ID is used again, the rows are those of the latest calls. -/
theorem record_latest {events : List CallReport} (h : ¬ Reuses events) (sipCallId : String) :
    (events.foldl apply empty).record sipCallId = (latestCall sipCallId events).map (·.record) := by
  induction events using List.reverseRecOn with
  | nil => rfl
  | append_singleton events event ih =>
    have ih := ih fun ⟨before, start, hbefore, hearlier⟩ =>
      h ⟨before, start, hbefore.trans (List.prefix_append _ _), hearlier⟩
    rw [List.foldl_append, List.foldl_cons, List.foldl_nil, record_apply, latestCall_concat,
      Records.apply]
    by_cases hid : event.sipCallId = sipCallId
    · subst hid
      rw [Function.update_self, if_pos rfl, ih]
      refine CallRecord.after_note _ _ ?_
      rintro start rfl
      by_contra hcall
      obtain ⟨c, hc⟩ := Option.ne_none_iff_exists'.mp hcall
      obtain ⟨hmem, hstart⟩ := started_of_latestCall hc
      exact h ⟨events, start, List.prefix_refl _, c.started, hmem, hstart⟩
    · rw [Function.update_of_ne (Ne.symm hid), if_neg hid, ih]

/-- **When the rows are those of the latest calls.**  For every stream of reports that
engines emit: after every part of the stream a Call-ID is listed as active exactly
when its latest mark is a start, and its row is that of its latest call, if and only
if no call of the stream is started with the Call-ID of an earlier one. -/
theorem rows_faithful_iff {events : List CallReport} (h : InOrder events) :
    (∀ before, before <+: events → (before.foldl apply empty).Faithful before) ↔ ¬ Reuses events := by
  constructor
  · rintro hfaithful ⟨before, start, hbefore, earlier, hearlier, hid⟩
    obtain ⟨c, hcall⟩ := latestCall_of_started hearlier
    rw [hid] at hcall
    -- the earlier call has ended, and the start does not clear the end of its row
    cases hend : c.terminated with
    | none => exact h before _ hbefore ⟨c, hcall, hend⟩
    | some end_ =>
      have hrow := (hfaithful before ((List.prefix_append _ _).trans hbefore)).record start.sipCallId
      have hrow' := (hfaithful _ hbefore).record start.sipCallId
      rw [List.foldl_append, List.foldl_cons, List.foldl_nil, record_apply, Records.apply,
        CallReport.sipCallId, Function.update_self, hrow, hcall, latestCall_concat,
        if_pos (show (CallReport.started start).sipCallId = start.sipCallId from rfl)] at hrow'
      have hends := congrArg CallRecord.endedAt (Option.some.inj hrow')
      simp [ReportedCall.record, hend] at hends
  · intro hfresh before hbefore
    have hfresh' : ¬ Reuses before := by
      rintro ⟨l, start, hl, hearlier⟩
      exact hfresh ⟨l, start, hl.trans hbefore, hearlier⟩
    have hrow := record_latest hfresh'
    refine ⟨fun now sipCallId => ?_, hrow⟩
    rw [mem_getActiveCalls, latestMark_started (h.of_prefix hbefore), hrow]
    constructor
    · rintro ⟨r, hr, hend⟩
      obtain ⟨c, hcall, rfl⟩ := Option.map_eq_some_iff.mp hr
      exact ⟨c, hcall, Option.map_eq_none_iff.mp hend⟩
    · rintro ⟨c, hcall, hend⟩
      rw [hcall]
      exact ⟨c.record, rfl, Option.map_eq_none_iff.mpr hend⟩

/-- Two calls at once. -/
def twoCalls : List CallReport :=
  [.started ⟨"a84b4c76e66710", "sip:alice@sbc.local", "sip:bob@sbc.local", 0⟩,
    .started ⟨"f81d4fae7dec11", "sip:carol@sbc.local", "sip:dave@sbc.local", 500⟩,
    .updated ⟨"a84b4c76e66710", some "198.51.100.7:5060", some "PCMU", 2000⟩,
    .terminated ⟨"f81d4fae7dec11", .failed, some "486", 3000, none⟩,
    .updated ⟨"a84b4c76e66710", some "198.51.100.7:5060", some "PCMA", 9000⟩,
    .terminated ⟨"a84b4c76e66710", .success, none, 12000, some 10⟩]

theorem rows_faithful_two_calls :
    ((twoCalls.take 4).foldl apply empty).Faithful (twoCalls.take 4) ∧
      (twoCalls.foldl apply empty).Faithful twoCalls := by
  have horder : InOrder twoCalls :=
    (((((inOrder_nil.concat (by decide)).concat (by decide)).concat (by decide)).concat
      (by decide)).concat (by decide)).concat (by decide)
  have hfresh : ¬ Reuses twoCalls := by
    rintro ⟨before, start, hbefore, earlier, hearlier, hid⟩
    obtain ⟨rest, hrest⟩ := hbefore
    rw [List.append_assoc] at hrest
    -- the two starts of the stream have different Call-IDs
    have hnodup : (twoCalls.filterMap fun event =>
        match event with
        | .started event => some event.sipCallId
        | _ => none).Nodup := by decide
    rw [← hrest, List.filterMap_append, List.nodup_append] at hnodup
    refine hnodup.2.2 _ (List.mem_filterMap.mpr ⟨_, hearlier, rfl⟩) _
      (List.mem_filterMap.mpr ⟨_, List.mem_append_left _ (List.mem_singleton.mpr rfl), rfl⟩) hid
  have hrows := (rows_faithful_iff horder).mpr hfresh
  exact ⟨hrows _ (List.take_prefix _ _), hrows _ (List.prefix_refl _)⟩

/-- A call ends, and a later one has its Call-ID. -/
def reusedCallId : List CallReport :=
  [.started ⟨"a84b4c76e66710", "sip:alice@sbc.local", "sip:bob@sbc.local", 0⟩,
    .terminated ⟨"a84b4c76e66710", .failed, some "486", 3000, none⟩,
    .started ⟨"a84b4c76e66710", "sip:alice@sbc.local", "sip:bob@sbc.local", 60000⟩]

/-- The later call is up; it is not listed as active, and its row has the end, the
status and the failure of the earlier one. -/
theorem reused_call_not_active :
    InOrder reusedCallId ∧
      latestMark "a84b4c76e66710" reusedCallId =
        some (.started ⟨"a84b4c76e66710", "sip:alice@sbc.local", "sip:bob@sbc.local", 60000⟩) ∧
      (reusedCallId.foldl apply empty).getActiveCalls 61000 = [] ∧
      ((reusedCallId.foldl apply empty).record "a84b4c76e66710").map
          (fun r => (r.startedAt, r.endedAt, r.status, r.failureReason)) =
        some (60000, some 3000, some .failed, some "486") := by
  refine ⟨((inOrder_nil.concat (by decide)).concat (by decide)).concat (by decide), ?_⟩
  decide +kernel

end CallsTable

end SbcEngine
