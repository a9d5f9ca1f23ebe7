/-
The map of sessions and the objects behind it, over whole runs.

* `Registered` — every object is in the map under its Call-ID or retired, and
  nowhere twice;
* `SameTable` — steps that leave the map alone;
* `registered_settle`, `registered_processInvite`, … — what each operation of the
  manager keeps;
* `run_induct` — the rule for runs.

Design notes: the operations are settling a session that has changed, creating
one, and purging.  Everything `step` does is a sequence of these, so the rule asks
for each of them once.
-/
import Mathlib.Data.List.Lattice
import Mathlib.Data.List.Perm.Basic
import SbcEngine.CallManager

namespace SbcEngine

namespace CallManager

/-! ### The table -/

/-- The map names the objects that have not been retired. -/
structure Registered (m : CallManager) : Prop where
  keys : (m.sessions.map Prod.fst).Nodup
  nodup : (m.ids ++ m.retired).Nodup
  owned : ∀ id, m.objects id ≠ none ↔ id ∈ m.ids ∨ id ∈ m.retired
  named : ∀ e ∈ m.sessions, ∀ s, m.objects e.2 = some s → s.callId = e.1
  below : ∀ id, m.objects id ≠ none → id < m.nextSession

theorem registered_initial (hasModuleId : Bool) (rtpTimer : Option Bool) (maxHoldDuration : ℤ) :
    (initial hasModuleId rtpTimer maxHoldDuration).Registered where
  keys := List.nodup_nil
  nodup := List.nodup_nil
  owned id := ⟨fun h => (h rfl).elim, fun h => by rcases h with h | h <;> cases h⟩
  named e he := by cases he
  below id h := (h rfl).elim

/-- From `m` to `m'` no session was created, removed or renamed. -/
structure SameTable (m m' : CallManager) : Prop where
  sessions : m'.sessions = m.sessions
  retired : m'.retired = m.retired
  next : m'.nextSession = m.nextSession
  names : ∀ id, (m'.objects id).map CallSession.callId = (m.objects id).map CallSession.callId

theorem SameTable.refl (m : CallManager) : SameTable m m := ⟨rfl, rfl, rfl, fun _ => rfl⟩

theorem SameTable.trans {m₁ m₂ m₃ : CallManager} (h : SameTable m₁ m₂) (h' : SameTable m₂ m₃) :
    SameTable m₁ m₃ where
  sessions := h'.sessions.trans h.sessions
  retired := h'.retired.trans h.retired
  next := h'.next.trans h.next
  names id := (h'.names id).trans (h.names id)

theorem SameTable.ids {m m' : CallManager} (h : SameTable m m') : m'.ids = m.ids := by
  rw [CallManager.ids, h.sessions]
  rfl

theorem SameTable.objects_eq_none {m m' : CallManager} (h : SameTable m m') (id : ℕ) :
    m'.objects id = none ↔ m.objects id = none := by
  have hname := h.names id
  constructor
  · intro hnone
    rw [hnone] at hname
    exact Option.map_eq_none_iff.mp hname.symm
  · intro hnone
    rw [hnone] at hname
    exact Option.map_eq_none_iff.mp hname

theorem Registered.congr {m m' : CallManager} (hm : m.Registered) (h : SameTable m m') :
    m'.Registered where
  keys := by rw [h.sessions]; exact hm.keys
  nodup := by rw [h.ids, h.retired]; exact hm.nodup
  owned id := by
    rw [h.ids, h.retired, Ne, h.objects_eq_none]
    exact hm.owned id
  named := by
    intro e he s hs
    rw [h.sessions] at he
    have hname := h.names e.2
    rw [hs] at hname
    obtain ⟨s', hs', hcall⟩ := Option.map_eq_some_iff.mp hname.symm
    exact hcall.symm.trans (hm.named e he s' hs')
  below id hid := by
    rw [h.next]
    exact hm.below id fun hnone => hid ((h.objects_eq_none id).mpr hnone)

theorem sameTable_setObject (m : CallManager) {id : ℕ} {s : CallSession} (s' : CallSession)
    (hs : m.objects id = some s) (hcall : s'.callId = s.callId) :
    SameTable m (m.setObject id s') := by
  refine ⟨rfl, rfl, rfl, fun i => ?_⟩
  rw [setObject]
  dsimp only
  split
  · next hi =>
    rw [hi, hs]
    exact congrArg some hcall
  · rfl

theorem sameTable_setInv (m : CallManager) (id : ℕ) (leg : Leg) :
    SameTable m (m.setInv id leg) := by
  rw [setInv]
  split
  · exact .refl m
  · next s hs =>
    have hset := m.sameTable_setObject { s with
      handles := fun l => if l = leg then some m.nextHandle else s.handles l } hs rfl
    exact ⟨rfl, rfl, rfl, hset.names⟩

theorem sameTable_refresh (m : CallManager) {id : ℕ} {s : CallSession}
    (hs : m.objects id = some s) (after : LiveCall) : SameTable m (m.refresh id s after) := by
  have hset := m.sameTable_setObject { s with live := after } hs rfl
  rw [refresh]
  split
  · exact hset.trans (sameTable_setInv _ id .callee)
  · exact hset

theorem sameTable_noted (m : CallManager) {id : ℕ} {s : CallSession} (hs : m.objects id = some s)
    (after : LiveCall) (happenings : List Happening) (replacements : List PendingReplacement) :
    SameTable m (((m.refresh id s after).record happenings).enqueue replacements) :=
  (m.sameTable_refresh hs after).trans ⟨rfl, rfl, rfl, fun _ => rfl⟩

/-! ### Lookups by Call-ID -/

theorem Registered.findByCallId_iff {m : CallManager} (hm : m.Registered) {callId : String} {id : ℕ} :
    m.findByCallId callId = some id ↔ (callId, id) ∈ m.sessions := by
  rw [findByCallId, List.lookup_eq_some_iff]
  constructor
  · rintro ⟨before, after, hsessions, -⟩
    rw [hsessions]
    simp
  · intro hmem
    obtain ⟨before, after, hsessions⟩ := List.append_of_mem hmem
    refine ⟨before, after, hsessions, fun e he => ?_⟩
    have hkeys := hm.keys
    rw [hsessions, List.map_append, List.map_cons] at hkeys
    have hne : callId ≠ e.1 := by
      rintro rfl
      exact List.disjoint_of_nodup_append hkeys (List.mem_map_of_mem he) List.mem_cons_self
    exact bne_iff_ne.mpr hne

/-- The map has a session under its Call-ID, unless it was retired. -/
theorem Registered.mem_sessions {m : CallManager} (hm : m.Registered) {id : ℕ} {s : CallSession}
    (hs : m.objects id = some s) (hid : id ∈ m.ids) : (s.callId, id) ∈ m.sessions := by
  obtain ⟨e, he, rfl⟩ := List.mem_map.mp hid
  rw [hm.named e he s hs]
  exact he

theorem Registered.not_retired {m : CallManager} (hm : m.Registered) {id : ℕ} (hid : id ∈ m.ids) :
    id ∉ m.retired := fun h => List.disjoint_of_nodup_append hm.nodup hid h

/-! ### Removal -/

/-- Erasing the entry of a Call-ID erases its session from the order of iteration. -/
theorem Registered.filter_sessions {m : CallManager} (hm : m.Registered) {callId : String} {id : ℕ}
    (hmem : (callId, id) ∈ m.sessions) :
    (m.sessions.filter (·.1 ≠ callId)).map Prod.snd = m.ids.erase id := by
  obtain ⟨before, after, hsessions⟩ := List.append_of_mem hmem
  have hkeys := hm.keys
  have hids := hm.nodup.of_append_left
  rw [ids] at hids ⊢
  rw [hsessions, List.map_append, List.map_cons] at hkeys hids
  have hkeep : ∀ l : List (String × ℕ), callId ∉ l.map Prod.fst →
      l.filter (·.1 ≠ callId) = l := by
    intro l hl
    refine List.filter_eq_self.mpr fun e he => ?_
    have hne : e.1 ≠ callId := by
      rintro rfl
      exact hl (List.mem_map_of_mem he)
    exact decide_eq_true hne
  have hbefore : callId ∉ before.map Prod.fst := fun h =>
    List.disjoint_of_nodup_append hkeys h List.mem_cons_self
  have hafter : callId ∉ after.map Prod.fst := (List.nodup_cons.mp hkeys.of_append_right).1
  have hid : id ∉ before.map Prod.snd := fun h =>
    List.disjoint_of_nodup_append hids h List.mem_cons_self
  rw [hsessions, List.filter_append, hkeep before hbefore,
    List.filter_cons_of_neg (by simp), hkeep after hafter, List.map_append, List.map_append,
    List.map_cons, List.erase_append_right _ hid, List.erase_cons_head]

/-- What `schedule_remove` does to a session of the map. -/
theorem Registered.scheduleRemove_ids {m : CallManager} (hm : m.Registered) {callId : String} {id : ℕ}
    (hmem : (callId, id) ∈ m.sessions) :
    (m.scheduleRemove callId).ids = m.ids.erase id ∧
      (m.scheduleRemove callId).retired = m.retired ++ [id] := by
  rw [scheduleRemove, hm.findByCallId_iff.mpr hmem]
  exact ⟨hm.filter_sessions hmem, rfl⟩

theorem scheduleRemove_objects (callId : String) (m : CallManager) :
    (m.scheduleRemove callId).objects = m.objects := by
  rw [scheduleRemove]
  split <;> rfl

theorem scheduleRemove_sessions_subset (callId : String) (m : CallManager) :
    (m.scheduleRemove callId).sessions ⊆ m.sessions := by
  rw [scheduleRemove]
  split
  · exact fun _ h => h
  · exact List.filter_subset_self _

/-- A session changes places between the map and the retired ones. -/
theorem Registered.scheduleRemove {m : CallManager} (hm : m.Registered) (callId : String) :
    (m.scheduleRemove callId).Registered := by
  cases hfind : m.findByCallId callId with
  | none =>
    rw [CallManager.scheduleRemove, hfind]
    exact hm
  | some id =>
    have hmem := hm.findByCallId_iff.mp hfind
    obtain ⟨hids, hretired⟩ := hm.scheduleRemove_ids hmem
    have hperm : ((m.scheduleRemove callId).ids ++ (m.scheduleRemove callId).retired).Perm
        (m.ids ++ m.retired) := by
      rw [hids, hretired, ← List.append_assoc]
      refine (List.perm_append_singleton id _).trans ?_
      rw [← List.cons_append]
      have hid : id ∈ m.ids := List.mem_map_of_mem (f := Prod.snd) hmem
      exact (List.perm_cons_erase hid).symm.append_right m.retired
    have hobjects := scheduleRemove_objects callId m
    have hsubset := scheduleRemove_sessions_subset callId m
    refine ⟨?_, hperm.nodup_iff.mpr hm.nodup, fun i => ?_, fun e he s hs => ?_, fun i hi => ?_⟩
    · rw [CallManager.scheduleRemove, hfind]
      exact hm.keys.sublist (List.filter_sublist.map Prod.fst)
    · rw [hobjects, hm.owned i, ← List.mem_append, ← List.mem_append]
      exact hperm.mem_iff.symm
    · rw [hobjects] at hs
      exact hm.named e (hsubset he) s hs
    · rw [hobjects] at hi
      rw [CallManager.scheduleRemove, hfind]
      exact hm.below i hi

/-! ### The operations -/

theorem registered_settle {m : CallManager} (hm : m.Registered) {id : ℕ} {s : CallSession}
    (hs : m.objects id = some s) (after : LiveCall) : (m.settle id s after).Registered := by
  have hnoted := hm.congr (m.sameTable_noted hs after
    (if establishes s.live after then [.established id] else []) (queued id s.live after))
  rw [settle]
  split
  · exact hnoted.scheduleRemove s.callId
  · exact hnoted

/-- A session that has changed is the only one that has. -/
theorem refresh_objects (m : CallManager) (id : ℕ) (s : CallSession) (after : LiveCall) :
    ∃ handles, (m.refresh id s after).objects = fun i =>
      if i = id then some { s with live := after, handles := handles } else m.objects i := by
  have hobject : (m.setObject id { s with live := after }).objects id =
      some { s with live := after } := by
    rw [setObject]
    exact if_pos rfl
  rw [refresh]
  split
  · refine ⟨fun l => if l = .callee then some m.nextHandle else s.handles l, ?_⟩
    rw [setInv, hobject]
    funext i
    show (if i = id then _ else if i = id then _ else m.objects i) = _
    split <;> rfl
  · exact ⟨s.handles, rfl⟩

theorem settle_objects (m : CallManager) (id : ℕ) (s : CallSession) (after : LiveCall) :
    (m.settle id s after).objects = (m.refresh id s after).objects := by
  rw [settle]
  split
  · exact scheduleRemove_objects _ _
  · rfl

theorem settle_objects_of_ne (m : CallManager) {id : ℕ} (s : CallSession) (after : LiveCall) {i : ℕ}
    (hi : i ≠ id) : (m.settle id s after).objects i = m.objects i := by
  obtain ⟨handles, hobjects⟩ := m.refresh_objects id s after
  rw [settle_objects, hobjects]
  exact if_neg hi

/-- What settling a session leaves in the record, the queue and the map. -/
theorem settle_record (m : CallManager) (id : ℕ) (s : CallSession) (after : LiveCall) :
    (m.settle id s after).trace =
        m.trace ++ (if establishes s.live after then [.established id] else []) ∧
      (m.settle id s after).pendingReplacements =
        m.pendingReplacements ++ queued id s.live after ∧
      (m.settle id s after).nextSession = m.nextSession ∧
      (m.settle id s after).sessions ⊆ m.sessions := by
  have hrefresh : (m.refresh id s after).trace = m.trace ∧
      (m.refresh id s after).pendingReplacements = m.pendingReplacements ∧
      (m.refresh id s after).nextSession = m.nextSession ∧
      (m.refresh id s after).sessions = m.sessions := by
    rw [refresh, setInv]
    split
    · split <;> exact ⟨rfl, rfl, rfl, rfl⟩
    · exact ⟨rfl, rfl, rfl, rfl⟩
  obtain ⟨htrace, hpending, hnext, hsessions⟩ := hrefresh
  rw [← htrace, ← hpending, ← hnext, ← hsessions, settle]
  split
  · rw [scheduleRemove]
    split
    · exact ⟨rfl, rfl, rfl, fun _ h => h⟩
    · exact ⟨rfl, rfl, rfl, List.filter_subset_self _⟩
  · exact ⟨rfl, rfl, rfl, fun _ h => h⟩

/-- A session that has cleaned up is no longer visited. -/
theorem settle_ids {m : CallManager} (hm : m.Registered) {id : ℕ} {s : CallSession}
    (hs : m.objects id = some s) (hid : id ∈ m.ids) (after : LiveCall) :
    (m.settle id s after).ids = if removes s.live after then m.ids.erase id else m.ids := by
  have hsame := m.sameTable_noted hs after
    (if establishes s.live after then [.established id] else []) (queued id s.live after)
  rw [settle]
  split
  · have hmem := hm.mem_sessions hs hid
    rw [← hsame.sessions] at hmem
    rw [((hm.congr hsame).scheduleRemove_ids hmem).1, hsame.ids]
  · exact hsame.ids

theorem registered_purgeScheduled {m : CallManager} (hm : m.Registered) :
    m.purgeScheduled.Registered where
  keys := hm.keys
  nodup := by
    show (m.ids ++ []).Nodup
    rw [List.append_nil]
    exact hm.nodup.of_append_left
  owned id := by
    show (if id ∈ m.retired then none else m.objects id) ≠ none ↔ id ∈ m.ids ∨ id ∈ []
    split
    · next hid =>
      constructor
      · exact fun h => (h rfl).elim
      · rintro (h | h)
        · exact (hm.not_retired h hid).elim
        · cases h
    · next hid =>
      rw [hm.owned id]
      simp [hid]
  named e he s hs := by
    change (if e.2 ∈ m.retired then none else m.objects e.2) = some s at hs
    split at hs
    · cases hs
    · exact hm.named e he s hs
  below id hid := by
    change (if id ∈ m.retired then none else m.objects id) ≠ none at hid
    split at hid
    · exact (hid rfl).elim
    · exact hm.below id hid

theorem registered_createSession {m : CallManager} (hm : m.Registered) {s : CallSession}
    (hnew : m.findByCallId s.callId = none) : (m.createSession s).Registered := by
  have hfree : m.objects m.nextSession = none := by
    by_contra h
    exact Nat.lt_irrefl _ (hm.below _ h)
  have hids : (m.createSession s).ids = m.ids ++ [m.nextSession] := by
    rw [ids, createSession]
    dsimp only
    rw [List.map_append]
    rfl
  -- object numbers are not used twice
  have hunused : m.nextSession ∉ m.ids ++ m.retired := fun h =>
    (hm.owned _).mpr (List.mem_append.mp h) hfree
  refine ⟨?_, ?_, fun id => ?_, fun e he s' hs' => ?_, fun id hid => ?_⟩
  · show ((m.sessions ++ [(s.callId, m.nextSession)]).map Prod.fst).Nodup
    rw [List.map_append, List.nodup_append']
    refine ⟨hm.keys, List.nodup_singleton _, fun callId hcall hsingle => ?_⟩
    obtain rfl : callId = s.callId := List.mem_singleton.mp hsingle
    obtain ⟨e, he, hcall⟩ := List.mem_map.mp hcall
    -- the Call-ID would have been found
    have hmem : (s.callId, e.2) ∈ m.sessions := by
      rw [← hcall]
      exact he
    rw [hm.findByCallId_iff.mpr hmem] at hnew
    cases hnew
  · show ((m.createSession s).ids ++ m.retired).Nodup
    rw [hids, List.append_assoc]
    have hperm : (m.ids ++ ([m.nextSession] ++ m.retired)).Perm
        (m.nextSession :: (m.ids ++ m.retired)) := List.perm_middle
    refine hperm.nodup_iff.mpr ?_
    exact List.nodup_cons.mpr ⟨hunused, hm.nodup⟩
  · show (if id = m.nextSession then some s else m.objects id) ≠ none ↔
      id ∈ (m.createSession s).ids ∨ id ∈ m.retired
    rw [hids, List.mem_append, List.mem_singleton]
    split
    · next hid => simp [hid]
    · next hid =>
      rw [hm.owned id]
      simp [hid]
  · change (if e.2 = m.nextSession then some s else m.objects e.2) = some s' at hs'
    rcases List.mem_append.mp he with he | he
    · rw [if_neg] at hs'
      · exact hm.named e he s' hs'
      · rintro hid
        exact hunused (List.mem_append_left _ (hid ▸ List.mem_map_of_mem he))
    · obtain rfl := List.mem_singleton.mp he
      rw [if_pos rfl] at hs'
      cases hs'
      rfl
  · change (if id = m.nextSession then some s else m.objects id) ≠ none at hid
    show id < m.nextSession + 1
    split at hid
    · omega
    · have := hm.below id hid
      omega

/-- The manager when the setup machine hears of an INVITE. -/
def opened (invite : Invite) (target : Option (ℕ × ReplacementTarget)) (m : CallManager) :
    CallManager :=
  ((m.createSession (invitedSession m.hasModuleId invite target)).setInv m.nextSession
    .caller).record (target.toList.map fun t => .matched m.nextSession t.1)

/-- An INVITE that is served gets a session, and its setup machine runs. -/
theorem processInvite_created (m : CallManager) (invite : Invite)
    {target : Option (ℕ × ReplacementTarget)}
    (htarget : m.resolveReplacement invite.replaces = some target)
    (hok : (invite.callId = "" || (m.findByCallId invite.callId).isSome || !invite.accepted) =
      false) : ∃ s, s = { invitedSession m.hasModuleId invite target with
          handles := fun l => if l = .caller then some m.nextHandle else none } ∧
        (m.opened invite target).objects m.nextSession = some s ∧
        m.processInvite invite = (m.opened invite target).settle m.nextSession s
          (Reentry.invited s.pj invite.inv) := by
  have hcreated : (m.createSession (invitedSession m.hasModuleId invite target)).objects
      m.nextSession = some (invitedSession m.hasModuleId invite target) := by
    rw [createSession, setObject]
    exact if_pos rfl
  have hobject : (m.opened invite target).objects m.nextSession =
      some { invitedSession m.hasModuleId invite target with
        handles := fun l => if l = .caller then some m.nextHandle else none } := by
    rw [opened, setInv, hcreated]
    exact if_pos rfl
  refine ⟨_, rfl, hobject, ?_⟩
  rw [processInvite, htarget]
  dsimp only
  rw [if_neg (by rw [hok]; simp)]
  rw [opened] at hobject ⊢
  rw [hobject]

theorem processInvite_cases (m : CallManager) (invite : Invite) :
    m.processInvite invite = m ∨
      ∃ target s, m.resolveReplacement invite.replaces = some target ∧
        m.findByCallId invite.callId = none ∧
        s = { invitedSession m.hasModuleId invite target with
          handles := fun l => if l = .caller then some m.nextHandle else none } ∧
        (m.opened invite target).objects m.nextSession = some s ∧
        m.processInvite invite = (m.opened invite target).settle m.nextSession s
          (Reentry.invited s.pj invite.inv) := by
  cases htarget : m.resolveReplacement invite.replaces with
  | none =>
    left
    rw [processInvite, htarget]
  | some target =>
    cases hok : invite.callId = "" || (m.findByCallId invite.callId).isSome || !invite.accepted with
    | true =>
      left
      rw [processInvite, htarget]
      exact if_pos hok
    | false =>
      right
      obtain ⟨s, hs, hobject, hnew⟩ := m.processInvite_created invite htarget hok
      simp only [Bool.or_eq_false_iff, Option.isSome_eq_false_iff, Option.isNone_iff_eq_none] at hok
      exact ⟨target, s, rfl, hok.1.2, hs, hobject, hnew⟩

/-- The new session is the only change. -/
theorem opened_record (m : CallManager) (invite : Invite)
    (target : Option (ℕ × ReplacementTarget)) :
    (m.opened invite target).trace =
        m.trace ++ target.toList.map (fun t => .matched m.nextSession t.1) ∧
      (m.opened invite target).pendingReplacements = m.pendingReplacements ∧
      (m.opened invite target).nextSession = m.nextSession + 1 ∧
      (m.opened invite target).sessions = m.sessions ++ [(invite.callId, m.nextSession)] ∧
      ∀ i, i ≠ m.nextSession → (m.opened invite target).objects i = m.objects i := by
  have hcreated : (m.createSession (invitedSession m.hasModuleId invite target)).objects
      m.nextSession = some (invitedSession m.hasModuleId invite target) := if_pos rfl
  rw [opened, setInv, hcreated]
  refine ⟨rfl, rfl, rfl, rfl, fun i hi => ?_⟩
  show (if i = m.nextSession then _ else if i = m.nextSession then _ else m.objects i) = _
  rw [if_neg hi, if_neg hi]

/-- What `resolve_replacement` says of the session it has matched. -/
theorem resolveReplacement_object {m : CallManager} {replaces : Replaces} {id : ℕ}
    {target : ReplacementTarget} (h : m.resolveReplacement replaces = some (some (id, target))) :
    ∃ s, m.objects id = some s ∧ target.replacedSessionId = s.callId := by
  cases replaces with
  | absent => cases h
  | refused => cases h
  | verified dialog earlyOnly complete =>
    rw [resolveReplacement, Option.map_eq_some_iff] at h
    obtain ⟨_, hresolve, hsame⟩ := h
    obtain rfl := Option.some.inj hsame
    simp only [resolveDialog, Option.bind_eq_bind, Option.bind_eq_some_iff] at hresolve
    obtain ⟨i, -, s, hs, leg, -, _, -, inv, -, hresolve⟩ := hresolve
    split at hresolve
    · cases hresolve
    · cases hresolve
      exact ⟨s, hs, rfl⟩

theorem registered_processInvite {m : CallManager} (hm : m.Registered) (invite : Invite) :
    (m.processInvite invite).Registered := by
  rcases m.processInvite_cases invite with h | ⟨target, s, -, hnew, -, hobject, h⟩
  · rw [h]
    exact hm
  · rw [h]
    have hcreated := registered_createSession hm
      (s := invitedSession m.hasModuleId invite target) hnew
    have hopened : (m.opened invite target).Registered :=
      hcreated.congr ((sameTable_setInv _ _ _).trans ⟨rfl, rfl, rfl, fun _ => rfl⟩)
    exact registered_settle hopened hobject _

/-! ### Runs -/

section Runs

variable {inside : Pjsip → Reentry.Callback → Signal → LiveCall → LiveCall}

theorem deliverTo_keeps {P : CallManager → Prop} {cb : Reentry.Callback}
    (hsettle : ∀ m id s, P m → m.objects id = some s → P (m.settle id s (answerOf inside s cb)))
    {m : CallManager} (hm : P m) (id : ℕ) : P (m.deliverTo inside id cb) := by
  rw [deliverTo]
  split
  · exact hm
  · next s hs => exact hsettle m id s hm hs

/-- A scan settles sessions, and nothing else. -/
theorem scan_keeps {P : CallManager → Prop} (kind : Scan)
    (hsettle : ∀ m id s, P m → m.objects id = some s →
      P (m.settle id s (answerOf inside s kind.event)))
    (clock : Clock) {m : CallManager} (hm : P m) : P (m.scan inside clock kind).world := by
  have hbody : ∀ m id, P m → P ((traversal inside clock kind).body id m).1 := by
    intro m id hm
    rw [traversal]
    dsimp only
    split
    · exact hm
    · split
      · exact deliverTo_keeps hsettle hm id
      · exact hm
  cases kind with
  | holdTimeout => exact Traversal.eagerFor_keeps hbody hm
  | rtpInactivity => exact Traversal.rangeFor_keeps hbody hm
  | shutdown => exact Traversal.rangeFor_keeps hbody hm

/-- Every INVITE of a run meets a condition. -/
def Admitted (inside : Pjsip → Reentry.Callback → Signal → LiveCall → LiveCall)
    (G : CallManager → Invite → Prop) : CallManager → List Input → Prop
  | _, [] => True
  | m, i :: is => (∀ invite, i = .invite invite → G m invite) ∧
    (m.faulted = false → i.isShutdown = false → Admitted inside G (m.step inside i) is)

theorem admitted_of_forall {G : CallManager → Invite → Prop} (hG : ∀ m invite, G m invite)
    (m : CallManager) (is : List Input) : Admitted inside G m is := by
  induction is generalizing m with
  | nil => trivial
  | cons i is ih => exact ⟨fun invite _ => hG m invite, fun _ _ => ih _⟩

/-- The callbacks that the manager passes on without a purpose of its own. -/
def ordinary : Reentry.Callback → Prop
  | .replaced _ | .callError => False
  | _ => True

theorem ordinary_of_external {cb : Reentry.Callback} (h : external cb = true) : ordinary cb := by
  cases cb with
  | replaced => cases h
  | callError => cases h
  | timeout => cases h
  | _ => trivial

/-- The rule for runs whose INVITEs meet `G`: `I` holds between inputs, and `J` at
the end. -/
theorem run_induct {G : CallManager → Invite → Prop} {I J : CallManager → Prop}
    (hend : ∀ m, I m → J m)
    (hquiet : ∀ m timer faulted, I m → I { m with rtpTimer := timer, faulted := faulted })
    (hinvite : ∀ m invite, G m invite → I m → I (m.processInvite invite))
    (hsettle : ∀ m id s cb, ordinary cb → I m → m.objects id = some s →
      I (m.settle id s (answerOf inside s cb)))
    (hreplace : ∀ m, I m → I (m.processPendingReplacements inside))
    (hpurge : ∀ m, I m → I m.purgeScheduled)
    (hshutdown : ∀ m, I m → J (m.terminateEstablishedCalls inside))
    {m : CallManager} (hm : I m) {is : List Input} (hrun : Admitted inside G m is) :
    J (m.run inside is) := by
  have hscanned : ∀ m clock kind, ordinary kind.event → I m → I (m.scanned inside clock kind) := by
    intro m clock kind hkind hm
    exact hquiet _ _ _ (scan_keeps kind (fun m id s h hs => hsettle m id s _ hkind h hs) clock hm)
  have hstep : ∀ m i, i.isShutdown = false → (∀ invite, i = .invite invite → G m invite) → I m →
      I (m.step inside i) := by
    intro m i hi hG hm
    cases i with
    | invite invite => exact hinvite m invite (hG invite rfl) hm
    | callback inv cb =>
      show I (m.onCallback inside inv cb)
      rw [onCallback]
      split
      · exact hm
      · split
        · exact hm
        · split
          · next hcb =>
            exact deliverTo_keeps (fun m id s => hsettle m id s _ (ordinary_of_external hcb)) hm _
          · exact hm
    | rtpTimerTicked => exact hquiet m (m.rtpTimer.map fun _ => true) m.faulted hm
    | mediaEvents clock =>
      show I (m.processPendingMediaEvents inside clock)
      -- inactivity first, then holds, replacements and the retired sessions
      have hrtp : I (m.processPendingRtpInactivity inside clock) := by
        rw [processPendingRtpInactivity]
        split
        · exact hscanned _ clock .rtpInactivity trivial (hquiet m (some false) m.faulted hm)
        · exact hm
      rw [processPendingMediaEvents]
      dsimp only
      split
      · exact hrtp
      · refine hpurge _ (hreplace _ ?_)
        split
        · exact hscanned _ clock .holdTimeout trivial hrtp
        · exact hrtp
    | shutdown => cases hi
  induction is generalizing m with
  | nil => exact hend m hm
  | cons i is ih =>
    obtain ⟨hG, hrest⟩ := hrun
    rw [run]
    split
    · exact hend m hm
    · next hsound =>
      split
      · next hi =>
        cases i with
        | shutdown => exact hshutdown m hm
        | _ => cases hi
      · next hi =>
        have hi := Bool.eq_false_iff.mpr hi
        exact ih (hstep m i hi hG hm) (hrest (Bool.eq_false_iff.mpr hsound) hi)

/-- The same for an invariant that every settling of a session keeps. -/
theorem run_keeps {I : CallManager → Prop}
    (hquiet : ∀ m timer faulted, I m → I { m with rtpTimer := timer, faulted := faulted })
    (hnote : ∀ m pending trace, I m →
      I { m with pendingReplacements := pending, trace := trace })
    (hinvite : ∀ m invite, I m → I (m.processInvite invite))
    (hsettle : ∀ m id s after, I m → m.objects id = some s → I (m.settle id s after))
    (hpurge : ∀ m, I m → I m.purgeScheduled)
    {m : CallManager} (hm : I m) (is : List Input) : I (m.run inside is) := by
  refine run_induct (G := fun _ _ => True) (I := I) (J := I) (fun _ => id) hquiet
    (fun m invite _ => hinvite m invite) (fun m id s cb _ hm hs => hsettle m id s _ hm hs) ?_ hpurge ?_
    hm (admitted_of_forall (fun _ _ => trivial) m is)
  · intro m hm
    rw [processPendingReplacements]
    have hstart : I { m with pendingReplacements := [] } := hnote m [] m.trace hm
    -- the list is taken out first, so that nothing is replaced twice
    generalize { m with pendingReplacements := [] } = m₀ at hstart
    induction m.pendingReplacements generalizing m₀ with
    | nil => exact hstart
    | cons r rs ih =>
      refine ih (m₀.terminateReplacedSession inside r) ?_
      rw [terminateReplacedSession]
      split
      · exact hstart
      · split
        · exact hstart
        · split
          · refine deliverTo_keeps (fun m id s => hsettle m id s _) ?_ _
            exact hnote m₀ m₀.pendingReplacements _ hstart
          · exact hstart
  · intro m hm
    have hscan := @scan_keeps inside _ .shutdown (fun m id s => hsettle m id s _)
      { idle := fun _ => false, heldLong := fun _ => false } _ hm
    exact hquiet _ none _ (hquiet _ _ _ hscan)

/-- The map and the objects agree in every run. -/
theorem run_registered {m : CallManager} (hm : m.Registered) (is : List Input) :
    (m.run inside is).Registered :=
  run_keeps (fun _ _ _ h => h.congr ⟨rfl, rfl, rfl, fun _ => rfl⟩)
    (fun _ _ _ h => h.congr ⟨rfl, rfl, rfl, fun _ => rfl⟩)
    (fun _ invite h => registered_processInvite h invite)
    (fun _ _ _ after h hs => registered_settle h hs after)
    (fun _ h => registered_purgeScheduled h) hm is

end Runs

end CallManager

end SbcEngine
