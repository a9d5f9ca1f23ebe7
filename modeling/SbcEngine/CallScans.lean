/-
The scans that end calls, while the calls they end leave the map.

A call that is told to end may lose its legs before it is done with the event; it
then cleans up and its entry is erased in the middle of the loop.

* `scan_orderly` — the body of a scan affects the entry it is at;
* `scan_complete_iff` — which scans get through.

Design notes: which calls are erased is up to PJSIP, that is to the environment of
each session and to `inside`, and nothing is assumed of either.
-/
import SbcEngine.CallRegistry

namespace SbcEngine

namespace CallManager

open Reentry (phonePjsip)

section Scans

variable (inside : Pjsip → Reentry.Callback → Signal → LiveCall → LiveCall)

/-- A scan ends the session. -/
def ends (clock : Clock) (kind : Scan) (id : ℕ) (m : CallManager) : Bool :=
  (m.objects id).any fun s => qualifies m.maxHoldDuration clock kind id s.live

/-- A scan ends the session, which then cleans up at once. -/
def erases (clock : Clock) (kind : Scan) (id : ℕ) (m : CallManager) : Bool :=
  (m.objects id).any fun s => qualifies m.maxHoldDuration clock kind id s.live &&
    removes s.live (answerOf inside s kind.event)

theorem settle_maxHoldDuration (m : CallManager) (id : ℕ) (s : CallSession) (after : LiveCall) :
    (m.settle id s after).maxHoldDuration = m.maxHoldDuration := by
  have hrefresh : (m.refresh id s after).maxHoldDuration = m.maxHoldDuration := by
    rw [refresh, setInv]
    split
    · split <;> rfl
    · rfl
  rw [settle, scheduleRemove]
  split
  · split <;> exact hrefresh
  · exact hrefresh

theorem scan_orderly (clock : Clock) (kind : Scan) :
    (traversal inside clock kind).Orderly Registered (ends clock kind)
      (erases inside clock kind) := by
  -- the body either leaves the manager alone or settles the session it is at
  have hbody : ∀ m id, m.Registered → id ∈ m.ids → ∃ s, m.objects id = some s ∧
      (traversal inside clock kind).body id m =
        if qualifies m.maxHoldDuration clock kind id s.live
        then (m.settle id s (answerOf inside s kind.event), true) else (m, false) := by
    intro m id hm hid
    obtain ⟨s, hs⟩ := Option.ne_none_iff_exists'.mp ((hm.owned id).mpr (.inl hid))
    refine ⟨s, hs, ?_⟩
    rw [traversal]
    dsimp only
    rw [hs, deliverTo, hs]
  refine ⟨fun {m id} hm hid => ?_, fun hm => hm.nodup.of_append_left, fun {m id} hm hid => ?_,
    fun {m id} hm hid => ?_, fun {m j id} hm hid _ hne => ?_⟩
  · obtain ⟨s, hs, h⟩ := hbody m id hm hid
    rw [h]
    split
    · exact registered_settle hm hs _
    · exact hm
  · obtain ⟨s, hs, h⟩ := hbody m id hm hid
    rw [h, erases, hs]
    show ids _ = if (qualifies m.maxHoldDuration clock kind id s.live && _) then _ else _
    split
    · next hq =>
      rw [hq, Bool.true_and]
      exact settle_ids hm hs hid _
    · next hq =>
      rw [Bool.eq_false_iff.mpr hq, Bool.false_and]
      rfl
  · obtain ⟨s, hs, h⟩ := hbody m id hm hid
    rw [h, ends, hs]
    show _ = qualifies m.maxHoldDuration clock kind id s.live
    split
    · next hq => exact hq.symm
    · next hq => exact (Bool.eq_false_iff.mpr hq).symm
  · obtain ⟨s, hs, h⟩ := hbody m id hm hid
    rw [h]
    split
    · rw [ends, ends, erases, erases, settle_objects_of_ne m s _ hne, settle_maxHoldDuration]
      exact ⟨rfl, rfl⟩
    · exact ⟨rfl, rfl⟩

/-- **Which scans get through.**  A scan uses no iterator to an erased entry, visits
every entry once and tells every session that qualifies to end, once, exactly when
it is the one for hold timeouts or no session that it tells to end cleans up before
the event returns. -/
theorem scan_complete_iff (clock : Clock) (kind : Scan) {m : CallManager} (hm : m.Registered) :
    (traversal inside clock kind).Complete (ends clock kind) m (m.scan inside clock kind) ↔
      kind = .holdTimeout ∨ ∀ id ∈ m.ids, erases inside clock kind id m = false := by
  have hrange : kind ≠ .holdTimeout → ((traversal inside clock kind).Complete (ends clock kind) m
      ((traversal inside clock kind).rangeFor m) ↔
        kind = .holdTimeout ∨ ∀ id ∈ m.ids, erases inside clock kind id m = false) := by
    intro hkind
    rw [Traversal.rangeFor_complete_iff (scan_orderly inside clock kind) hm]
    exact ⟨.inr, fun h => h.resolve_left hkind⟩
  cases kind with
  | holdTimeout =>
    exact ⟨fun _ => .inl rfl,
      fun _ => Traversal.eagerFor_complete (scan_orderly inside clock .holdTimeout) hm⟩
  | rtpInactivity => exact hrange (fun h => by cases h)
  | shutdown => exact hrange (fun h => by cases h)

end Scans

/-- Two established calls; the requests of each go as `phonePjsip` says. -/
def twoCalls (j k : ℕ) : CallManager :=
  (initial true (some false) 0).run (engine 2)
    ([phoneInvite "a" (phonePjsip j) .absent] ++ phonesAnswer 0 1 ++
      [phoneInvite "b" (phonePjsip k) .absent] ++ phonesAnswer 2 3)

theorem twoCalls_registered (j k : ℕ) : (twoCalls j k).Registered :=
  run_registered (registered_initial true (some false) 0) _

/-- Calls whose legs do not go down at once are all ended. -/
theorem scan_complete_quiet :
    (twoCalls 100 100).ids = [0, 1] ∧
      (traversal (engine 2) lateClock .rtpInactivity).Complete (ends lateClock .rtpInactivity)
        (twoCalls 100 100) ((twoCalls 100 100).scan (engine 2) lateClock .rtpInactivity) := by
  have hcalls : (twoCalls 100 100).ids = [0, 1] ∧ ∀ id ∈ (twoCalls 100 100).ids,
      erases (engine 2) lateClock .rtpInactivity id (twoCalls 100 100) = false := by
    decide +kernel
  exact ⟨hcalls.1, (scan_complete_iff (engine 2) lateClock .rtpInactivity
    (twoCalls_registered 100 100)).mpr (.inr hcalls.2)⟩

/-- The first call loses its callee while it is ended for inactivity.  Its entry is
erased, the loop moves on from it, and the second call is never reached. -/
theorem scan_faults :
    (twoCalls 4 100).Registered ∧ (twoCalls 4 100).ids = [0, 1] ∧
      ((twoCalls 4 100).scan (engine 2) lateClock .rtpInactivity).fault = true ∧
      ((twoCalls 4 100).scan (engine 2) lateClock .rtpInactivity).visited = [0] ∧
      ¬ (traversal (engine 2) lateClock .rtpInactivity).Complete (ends lateClock .rtpInactivity)
        (twoCalls 4 100) ((twoCalls 4 100).scan (engine 2) lateClock .rtpInactivity) := by
  have hcalls : (twoCalls 4 100).ids = [0, 1] ∧
      ((twoCalls 4 100).scan (engine 2) lateClock .rtpInactivity).fault = true ∧
      ((twoCalls 4 100).scan (engine 2) lateClock .rtpInactivity).visited = [0] := by
    decide +kernel
  refine ⟨twoCalls_registered 4 100, hcalls.1, hcalls.2.1, hcalls.2.2, fun h => ?_⟩
  rw [h.sound] at hcalls
  cases hcalls.2.1

end CallManager

end SbcEngine
