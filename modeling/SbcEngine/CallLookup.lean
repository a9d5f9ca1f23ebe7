/-
Finding a session from an invite session or a dialog.

The slots in `mod_data` are claimed when a leg is attached and released when the
session object is destroyed; the map loses the session earlier than that.

* `Claimed` — a slot names the object whose leg it belongs to;
* `run_claimed` — over whole runs;
* `lookups_agree_iff` — when both ways of looking up find the same.

Design notes: both kinds of slots are written and cleared together, so one
invariant of a table of slots serves both.
-/
import SbcEngine.CallRegistry

namespace SbcEngine

namespace CallManager

/-! ### Slots -/

/-- A slot names the object one of whose legs it belongs to. -/
def Claims (m : CallManager) (data : ℕ → Option ℕ) : Prop :=
  ∀ handle id, data handle = some id ↔ ∃ s, m.objects id = some s ∧ s.holds handle = true

/-- The slots of a manager that uses them. -/
structure Claimed (m : CallManager) : Prop where
  hasModuleId : m.hasModuleId = true
  inv : m.Claims m.invData
  dialog : m.Claims m.dialogData
  fresh : ∀ id s handle, m.objects id = some s → s.holds handle = true → handle < m.nextHandle

theorem claimed_initial (rtpTimer : Option Bool) (maxHoldDuration : ℤ) :
    (initial true rtpTimer maxHoldDuration).Claimed where
  hasModuleId := rfl
  inv _ _ := ⟨fun h => (nomatch h), fun ⟨_, h, _⟩ => (nomatch h)⟩
  dialog _ _ := ⟨fun h => (nomatch h), fun ⟨_, h, _⟩ => (nomatch h)⟩
  fresh _ _ _ h := nomatch h

/-- The objects hold what they held. -/
theorem Claims.congr {m m' : CallManager} {data : ℕ → Option ℕ} (h : m.Claims data)
    (hholds : ∀ id handle, (∃ s, m'.objects id = some s ∧ s.holds handle = true) ↔
      ∃ s, m.objects id = some s ∧ s.holds handle = true) : m'.Claims data :=
  fun handle id => (h handle id).trans (hholds id handle).symm

theorem Claimed.congr {m m' : CallManager} (h : m.Claimed)
    (hholds : ∀ id handle, (∃ s, m'.objects id = some s ∧ s.holds handle = true) ↔
      ∃ s, m.objects id = some s ∧ s.holds handle = true)
    (hmodule : m'.hasModuleId = m.hasModuleId) (hinv : m'.invData = m.invData)
    (hdialog : m'.dialogData = m.dialogData) (hnext : m'.nextHandle = m.nextHandle) :
    m'.Claimed where
  hasModuleId := hmodule.trans h.hasModuleId
  inv := by rw [hinv]; exact h.inv.congr hholds
  dialog := by rw [hdialog]; exact h.dialog.congr hholds
  fresh id s handle hs hhandle := by
    obtain ⟨s', hs', hhandle'⟩ := (hholds id handle).mp ⟨s, hs, hhandle⟩
    rw [hnext]
    exact h.fresh id s' handle hs' hhandle'

/-- Replacing an object by one with the same legs. -/
theorem Claimed.setObject {m : CallManager} (h : m.Claimed) {id : ℕ} {s s' : CallSession}
    (hs : m.objects id = some s) (hhandles : s'.handles = s.handles) :
    (m.setObject id s').Claimed := by
  refine h.congr (fun i handle => ?_) rfl rfl rfl rfl
  have hholds : s'.holds handle = s.holds handle := by
    rw [CallSession.holds, CallSession.holds, hhandles]
  rw [CallManager.setObject]
  dsimp only
  split
  · next hi =>
    subst hi
    constructor
    · rintro ⟨t, ht, hhandle⟩
      cases ht
      exact ⟨s, hs, hholds ▸ hhandle⟩
    · rintro ⟨t, ht, hhandle⟩
      obtain rfl : s = t := Option.some.inj (hs.symm.trans ht)
      exact ⟨s', rfl, hholds.trans hhandle⟩
  · rfl

/-! ### Attaching a leg -/

/-- An object that gets a new leg. -/
def withLeg (leg : Leg) (handle : ℕ) (s : CallSession) : CallSession :=
  { s with handles := fun l => if l = leg then some handle else s.handles l }

theorem holds_withLeg {s : CallSession} {leg : Leg} (hleg : s.handles leg = none)
    (new handle : ℕ) :
    (withLeg leg new s).holds handle = true ↔ handle = new ∨ s.holds handle = true := by
  have hholds : ∀ s : CallSession, s.holds handle = true ↔
      s.handles .caller = some handle ∨ s.handles .callee = some handle := by
    intro s
    simp [CallSession.holds]
  rw [hholds, hholds]
  cases leg with
  | caller =>
    show some new = some handle ∨ s.handles .callee = some handle ↔ _
    rw [hleg, Option.some_inj]
    simp [eq_comm]
  | callee =>
    show s.handles .caller = some handle ∨ some new = some handle ↔ _
    rw [hleg, Option.some_inj]
    simp [eq_comm, or_comm]

/-- A leg that was not attached claims the slots of its new invite session. -/
theorem Claims.attach {m : CallManager} {data : ℕ → Option ℕ} (h : m.Claims data)
    (hfresh : ∀ id s handle, m.objects id = some s → s.holds handle = true → handle < m.nextHandle)
    {id : ℕ} {s : CallSession} (hs : m.objects id = some s) {leg : Leg} (hleg : s.handles leg = none)
    {m' : CallManager} (hobjects : ∀ i, m'.objects i =
      if i = id then some (withLeg leg m.nextHandle s) else m.objects i) :
    m'.Claims fun handle => if handle = m.nextHandle then some id else data handle := by
  intro handle i
  dsimp only
  rw [hobjects i]
  by_cases hhandle : handle = m.nextHandle
  · -- nobody else has the new invite session
    rw [if_pos hhandle]
    constructor
    · rintro hi
      obtain rfl := Option.some.inj hi
      exact ⟨_, if_pos rfl, (holds_withLeg hleg _ _).mpr (.inl hhandle)⟩
    · rintro ⟨t, ht, hholds⟩
      split at ht
      · next hi => rw [hi]
      · have hlt := hfresh i t handle ht hholds
        omega
  · rw [if_neg hhandle, h handle i]
    split
    · next hi =>
      subst hi
      constructor
      · rintro ⟨t, ht, hholds⟩
        obtain rfl : s = t := Option.some.inj (hs.symm.trans ht)
        exact ⟨_, rfl, (holds_withLeg hleg _ _).mpr (.inr hholds)⟩
      · rintro ⟨t, ht, hholds⟩
        cases ht
        exact ⟨s, hs, ((holds_withLeg hleg _ _).mp hholds).resolve_left hhandle⟩
    · rfl

theorem Claimed.setInv {m : CallManager} (h : m.Claimed) {id : ℕ} {s : CallSession}
    (hs : m.objects id = some s) {leg : Leg} (hleg : s.handles leg = none) :
    (m.setInv id leg).Claimed := by
  rw [CallManager.setInv, hs]
  dsimp only
  simp only [h.hasModuleId, if_true]
  refine ⟨h.hasModuleId, h.inv.attach h.fresh hs hleg fun _ => rfl,
    h.dialog.attach h.fresh hs hleg fun _ => rfl, fun i t handle ht hholds => ?_⟩
  change (if i = id then some (withLeg leg m.nextHandle s) else m.objects i) = some t at ht
  show handle < m.nextHandle + 1
  split at ht
  · cases ht
    rcases (holds_withLeg hleg _ _).mp hholds with hnew | hold
    · omega
    · have := h.fresh id s handle hs hold
      omega
  · have := h.fresh i t handle ht hholds
    omega

/-! ### The operations -/

theorem claimed_settle {m : CallManager} (h : m.Claimed) {id : ℕ} {s : CallSession}
    (hs : m.objects id = some s) (after : LiveCall) : (m.settle id s after).Claimed := by
  have hset : (m.setObject id { s with live := after }).Claimed := h.setObject hs rfl
  have hrefresh : (m.refresh id s after).Claimed := by
    rw [refresh]
    split
    · next hnew =>
      have hnone : s.handles .callee = none := by
        simp only [Bool.and_eq_true, Option.isNone_iff_eq_none] at hnew
        exact hnew.2
      exact hset.setInv (s := { s with live := after }) (if_pos rfl) hnone
    · exact hset
  rw [settle, scheduleRemove]
  split
  · split <;> exact hrefresh.congr (fun _ _ => Iff.rfl) rfl rfl rfl rfl
  · exact hrefresh.congr (fun _ _ => Iff.rfl) rfl rfl rfl rfl

theorem claimed_processInvite {m : CallManager} (hm : m.Registered) (h : m.Claimed)
    (invite : Invite) : (m.processInvite invite).Claimed := by
  rcases m.processInvite_cases invite with hsame | ⟨target, s, -, -, -, hobject, hnew⟩
  · rw [hsame]
    exact h
  · have hfree : m.objects m.nextSession = none := by
      by_contra hne
      exact Nat.lt_irrefl _ (hm.below _ hne)
    -- a session without legs claims nothing
    have hcreated : (m.createSession (invitedSession m.hasModuleId invite target)).Claimed := by
      refine h.congr (fun id handle => ?_) rfl rfl rfl rfl
      rw [createSession, setObject]
      dsimp only
      split
      · next hid =>
        rw [hid, hfree]
        constructor
        · rintro ⟨t, ht, hholds⟩
          cases ht
          cases hholds
        · rintro ⟨t, ht, -⟩
          cases ht
      · rfl
    have hstored : (m.createSession (invitedSession m.hasModuleId invite target)).objects
        m.nextSession = some (invitedSession m.hasModuleId invite target) := if_pos rfl
    have hattached : ((m.createSession (invitedSession m.hasModuleId invite target)).setInv
        m.nextSession .caller).Claimed := hcreated.setInv hstored rfl
    have hopened : (m.opened invite target).Claimed :=
      hattached.congr (fun _ _ => Iff.rfl) rfl rfl rfl rfl
    rw [hnew]
    exact claimed_settle hopened hobject _

/-- Destroying the retired objects releases their slots and no others. -/
theorem Claims.purge {m : CallManager} {data : ℕ → Option ℕ} (h : m.Claims data)
    {m' : CallManager} (hobjects : ∀ id, m'.objects id =
      if id ∈ m.retired then none else m.objects id) :
    m'.Claims fun handle =>
      if m.retired.any fun id => (m.objects id).any (·.holds handle) then none else data handle := by
  intro handle id
  dsimp only
  rw [hobjects id]
  -- a slot is released exactly when its owner is retired
  have hretired : (m.retired.any fun id => (m.objects id).any (·.holds handle)) = true ↔
      ∃ i ∈ m.retired, data handle = some i := by
    rw [List.any_eq_true]
    refine exists_congr fun i => and_congr_right fun _ => ?_
    rw [h handle i, Option.any_eq_true]
  by_cases hhandle : (m.retired.any fun id => (m.objects id).any (·.holds handle)) = true
  · obtain ⟨i, hi, hdata⟩ := hretired.mp hhandle
    rw [if_pos hhandle]
    constructor
    · exact fun hnone => by cases hnone
    · rintro ⟨s, hs, hholds⟩
      split at hs
      · cases hs
      · next hid =>
        have hsame := ((h handle id).mpr ⟨s, hs, hholds⟩).symm.trans hdata
        exact (hid (Option.some.inj hsame ▸ hi)).elim
  · rw [if_neg hhandle, h handle id]
    split
    · next hid =>
      constructor
      · exact fun hdata => (hhandle (hretired.mpr ⟨id, hid, (h handle id).mpr hdata⟩)).elim
      · rintro ⟨s, hs, -⟩
        cases hs
    · rfl

theorem claimed_purgeScheduled {m : CallManager} (h : m.Claimed) : m.purgeScheduled.Claimed := by
  rw [purgeScheduled]
  dsimp only
  simp only [h.hasModuleId, if_true]
  refine ⟨rfl, h.inv.purge fun _ => rfl, h.dialog.purge fun _ => rfl,
    fun id s handle hs hholds => ?_⟩
  change (if id ∈ m.retired then none else m.objects id) = some s at hs
  split at hs
  · cases hs
  · exact h.fresh id s handle hs hholds

/-! ### Runs -/

section Runs

variable (inside : Pjsip → Reentry.Callback → Signal → LiveCall → LiveCall)

/-- In every run the slots name the objects that have not been destroyed. -/
theorem run_claimed (rtpTimer : Option Bool) (maxHoldDuration : ℤ) (is : List Input) :
    ((initial true rtpTimer maxHoldDuration).run inside is).Registered ∧
      ((initial true rtpTimer maxHoldDuration).run inside is).Claimed :=
  run_keeps (I := fun m => m.Registered ∧ m.Claimed)
    (fun _ _ _ h => ⟨h.1.congr ⟨rfl, rfl, rfl, fun _ => rfl⟩,
      h.2.congr (fun _ _ => Iff.rfl) rfl rfl rfl rfl⟩)
    (fun _ _ _ h => ⟨h.1.congr ⟨rfl, rfl, rfl, fun _ => rfl⟩,
      h.2.congr (fun _ _ => Iff.rfl) rfl rfl rfl rfl⟩)
    (fun _ invite h => ⟨registered_processInvite h.1 invite, claimed_processInvite h.1 h.2 invite⟩)
    (fun _ _ _ after h hs => ⟨registered_settle h.1 hs after, claimed_settle h.2 hs after⟩)
    (fun _ h => ⟨registered_purgeScheduled h.1, claimed_purgeScheduled h.2⟩)
    ⟨registered_initial true rtpTimer maxHoldDuration,
      claimed_initial rtpTimer maxHoldDuration⟩ is

end Runs

/-! ### Lookups -/

/-- Some session that is waiting to be destroyed has a leg with this handle. -/
def RetiredHolds (m : CallManager) (handle : ℕ) : Prop :=
  ∃ id ∈ m.retired, ∃ s, m.objects id = some s ∧ s.holds handle = true

/-- The slot and the map find the same session, unless the slot is still held by a
retired one. -/
theorem Claims.eq_scan_iff {m : CallManager} (hm : m.Registered) {data : ℕ → Option ℕ}
    (h : m.Claims data) (handle : ℕ) :
    data handle = m.scanByHandle handle ↔ ¬ m.RetiredHolds handle := by
  have hscan : ∀ id, m.scanByHandle handle = some id → id ∈ m.ids ∧ data handle = some id := by
    intro id hid
    rw [scanByHandle] at hid
    have hholds := List.find?_some hid
    rw [Option.any_eq_true] at hholds
    exact ⟨List.mem_of_find?_eq_some hid, (h handle id).mpr hholds⟩
  constructor
  · rintro hsame ⟨id, hid, s, hs, hholds⟩
    have hdata := (h handle id).mpr ⟨s, hs, hholds⟩
    exact hm.not_retired (hscan id (hsame.symm.trans hdata)).1 hid
  · intro hretired
    cases hfind : m.scanByHandle handle with
    | some id => exact (hscan id hfind).2
    | none =>
      -- nobody in the map holds it, and nobody retired does
      cases hdata : data handle with
      | none => rfl
      | some id =>
        obtain ⟨s, hs, hholds⟩ := (h handle id).mp hdata
        have hne : m.objects id ≠ none := by
          rw [hs]
          exact Option.some_ne_none s
        rcases (hm.owned id).mp hne with hid | hid
        · have hnot := List.find?_eq_none.mp hfind id hid
          rw [hs] at hnot
          exact (hnot hholds).elim
        · exact (hretired ⟨id, hid, s, hs, hholds⟩).elim

/-- **When both lookups find the same.**  In every state of every run, the slot of an
invite session or of a dialog names what the scan of the map finds exactly when no
session that waits to be destroyed has it as a leg. -/
theorem lookups_agree_iff (inside : Pjsip → Reentry.Callback → Signal → LiveCall → LiveCall)
    (rtpTimer : Option Bool) (maxHoldDuration : ℤ) (is : List Input) (handle : ℕ) :
    let m := (initial true rtpTimer maxHoldDuration).run inside is
    let scanning := { m with hasModuleId := false }
    (m.findByInv handle = scanning.findByInv handle ↔ ¬ m.RetiredHolds handle) ∧
      (m.findByDialog handle = scanning.findByDialog handle ↔ ¬ m.RetiredHolds handle) := by
  intro m scanning
  obtain ⟨hm, h⟩ := run_claimed inside rtpTimer maxHoldDuration is
  change m.Registered at hm
  change m.Claimed at h
  have hinv : m.findByInv handle = m.invData handle := if_pos h.hasModuleId
  have hdialog : m.findByDialog handle = m.dialogData handle := if_pos h.hasModuleId
  rw [hinv, hdialog]
  exact ⟨h.inv.eq_scan_iff hm handle, h.dialog.eq_scan_iff hm handle⟩

/-- A callee that is busy. -/
def phoneBusy (callee : ℕ) : Input :=
  .callback callee fun leg =>
    .invStateChanged leg .disconnected 486 "Busy Here" { statusCode := 486, sdp := "" }

/-- A call that failed is still found by its slots, until it is purged. -/
theorem lookups_differ :
    let m := (initial true (some false) 0).run (engine 2)
      [phoneInvite "a" (Reentry.phonePjsip 100) .absent, phoneBusy 1]
    let scanning := { m with hasModuleId := false }
    m.ids = [] ∧ m.retired = [0] ∧ m.findByInv 0 = some 0 ∧ scanning.findByInv 0 = none ∧
      m.findByDialog 0 = some 0 ∧ scanning.findByDialog 0 = none := by
  decide +kernel

end CallManager

end SbcEngine
