/-
What is said to whoever asked for a transfer.

A NOTIFY says how the transfer goes, and one of them says that it is over.  The
handler keeps no record of what it has said; it stops because the subscription is
gone or the result was delivered.

* `Wordless` — a step that says nothing about a transfer;
* `Spoken` — nothing was said after the last word about a REFER, and nothing can be;
* `transfer_reported_once` — every run: a transfer completes once and can still end, and
  is said to be over once if the outbound subscription does not end inside a NOTIFY;
* `transfer_reported_twice` — a run in which it does.

Design notes: the end of a leg can stop a transfer but says nothing about it, so
most of the dialog machine is wordless whatever state it is in.  What is left is
the handler itself, with the reports inside its own messages.
-/
import SbcEngine.EarlyDialog

namespace SbcEngine

namespace Reentry

open Dialog

/-! ### Steps that say nothing -/

/-- No REFER waits in the queue. -/
def Simple (x : LiveCall) : Prop := ∀ e ∈ x.queue, ∀ leg, e ≠ .referReceived leg

/-- Nothing is said because of the report. -/
def Mute : Signal → Prop
  | .subTerminated .outbound _ => False
  | _ => True

/-- On the way to `y` nothing was said about a transfer; it can have ended. -/
structure Wordless (x y : LiveCall) : Prop where
  simple : Simple y
  notifies : y.refer.notifies = x.refer.notifies
  refers : y.refer.refers = x.refer.refers
  inbound : y.refer.inboundSub = true → x.refer.inboundSub = true
  delivered : x.refer.resultDelivered = true → y.refer.resultDelivered = true

theorem Wordless.refl {x : LiveCall} (hx : Simple x) : Wordless x x := ⟨hx, rfl, rfl, id, id⟩

theorem Wordless.trans {x y z : LiveCall} (h : Wordless x y) (h' : Wordless y z) : Wordless x z where
  simple := h'.simple
  notifies := h'.notifies.trans h.notifies
  refers := h'.refers.trans h.refers
  inbound := h.inbound ∘ h'.inbound
  delivered := h'.delivered ∘ h.delivered

/-- What such a step relies on when something is reported inside it. -/
def Mutes (sig : Signal → LiveCall → LiveCall) : Prop :=
  ∀ s {x}, Mute s → Simple x → Wordless x (sig s x)

theorem Simple.published {x : LiveCall} (hx : Simple x) (outcome : ExchangeOutcome) :
    Simple (x.publish outcome) := by
  rw [LiveCall.publish]
  split
  · exact hx
  · intro e he leg
    rcases List.mem_append.mp he with h | h
    · exact hx e h leg
    · rw [List.mem_singleton.mp h]
      exact fun h => by cases h

section Wordless

variable (pj : Pjsip) {sig : Signal → LiveCall → LiveCall} (hsig : Mutes sig)
include hsig

theorem reported_wordless (leg : Leg) (before : Core) {x : LiveCall} (hx : Simple x) :
    Wordless x (reported pj sig leg before x) := by
  rw [reported]
  split
  · exact hsig _ trivial hx
  · exact .refl hx

theorem endSession_wordless (leg : Leg) (code : ℤ) {x : LiveCall} (hx : Simple x) :
    Wordless x (endSession pj sig leg code x) := by
  have hsent : Wordless x (x.setCore (Inv.endSession pj.env leg code x.core)) :=
    ⟨hx, rfl, rfl, id, id⟩
  exact hsent.trans (reported_wordless pj hsig leg x.core hsent.simple)

theorem terminateCall_wordless (reason : TerminationReason) {x : LiveCall} (hx : Simple x) :
    Wordless x (terminateCall pj sig reason x) := by
  have hend : Wordless x (reportEnd pj reason x) := ⟨hx, rfl, rfl, id, id⟩
  have hcaller := hend.trans (endSession_wordless pj hsig .caller 408 hend.simple)
  exact hcaller.trans (endSession_wordless pj hsig .callee 408 hcaller.simple)

/-- Every action but taking up a REFER. -/
theorem perform_wordless {a : DialogSm.Action} (ha : ∀ leg, a ≠ .handleRefer leg) {x : LiveCall}
    (hx : Simple x) : Wordless x (perform pj sig a x) := by
  -- only `handleRefer` speaks to whoever asked for the transfer
  have hpublish : ∀ {y : LiveCall} outcome, Wordless x y → Wordless x (y.publish outcome) := by
    intro y outcome hy
    refine ⟨hy.simple.published outcome, ?_, ?_, ?_, ?_⟩
    · rw [LiveCall.publish]; split <;> exact hy.notifies
    · rw [LiveCall.publish]; split <;> exact hy.refers
    · rw [LiveCall.publish]; split <;> exact hy.inbound
    · rw [LiveCall.publish]; split <;> exact hy.delivered
  have hresponded : ∀ leg c, Wordless x (reported pj sig leg x.core (x.withContext c)) := by
    intro leg c
    have hc : Wordless x (x.withContext c) := ⟨hx, rfl, rfl, id, id⟩
    exact hc.trans (reported_wordless pj hsig leg x.core hc.simple)
  cases a with
  | handleBye leg => exact endSession_wordless pj hsig (other leg) 200 hx
  | handleReinvite sdp leg => exact hpublish _ (hresponded leg _)
  | handleReinviteCollision leg => exact hresponded leg _
  | handleUpdate sdp leg => exact hpublish _ ⟨hx, rfl, rfl, id, id⟩
  | handleUpdateCollision leg => exact .refl hx
  | handleRefer leg => exact (ha leg rfl).elim
  | handleReferBusy leg => exact ⟨hx, rfl, rfl, id, id⟩
  | handleReferCompleted outcome => exact ⟨hx, rfl, rfl, id, id⟩
  | terminate reason => exact terminateCall_wordless pj hsig reason hx
  | handleCallEnded =>
    refine ⟨fun e he leg => ?_, rfl, rfl, id, id⟩
    rcases List.mem_append.mp he with h | h
    · exact hx e h leg
    · rw [List.mem_singleton.mp h]
      exact fun h => by cases h
  | handleCleanup => exact ⟨hx, rfl, rfl, id, id⟩
  | nothing => exact .refl hx

omit hsig in
/-- Only a REFER is taken up as one. -/
theorem row_not_refer {st st' : State} {e : Event} {a : DialogSm.Action}
    (he : ∀ leg, e ≠ .referReceived leg) (hrow : DialogSm.row st e = some (st', a)) :
    ∀ leg, a ≠ .handleRefer leg := by
  rintro leg rfl
  cases e with
  | referReceived l => exact he l rfl
  | exchangeFinished outcome => cases st <;> cases outcome <;> cases hrow
  | _ => cases st <;> cases hrow

theorem dispatch_wordless {e : Event} (he : ∀ leg, e ≠ .referReceived leg) {x : LiveCall}
    (hx : Simple x) : Wordless x (dispatch pj sig e x).1 := by
  cases hrow : DialogSm.row x.dialog e with
  | none =>
    rw [dispatch_of_none hrow]
    exact .refl hx
  | some r =>
    obtain ⟨st, a⟩ := r
    rw [dispatch_of_row hrow]
    exact { perform_wordless pj hsig (row_not_refer he hrow) (x := { x with dialog := st }) hx with }

/-- Serving the queue says nothing. -/
theorem serve_wordless {x : LiveCall} {e : Event} {q : List Event} (hq : x.queue = e :: q)
    (hx : Simple x) : Wordless x (dispatch pj sig e x).1.pop := by
  have he : ∀ leg, e ≠ .referReceived leg := hx e (by rw [hq]; exact List.mem_cons_self)
  have hdispatch := dispatch_wordless pj hsig he hx
  exact { hdispatch with simple := fun e' he' => hdispatch.simple e' (List.mem_of_mem_tail he') }

theorem process_wordless {e : Event} (he : ∀ leg, e ≠ .referReceived leg) {x : LiveCall}
    (hx : Simple x) : Wordless x (process pj sig e x).1 := by
  refine (machine pj).process_keeps (I := fun y => Wordless x y) (fun y e' q hq hy => ?_)
    (dispatch_wordless pj hsig he hx)
  exact hy.trans (serve_wordless pj hsig hq hy.simple)

theorem finish_wordless (outcome : ReferOutcome) {x : LiveCall} (hx : Simple x) :
    Wordless x (finish (process pj sig) outcome x) := by
  rw [finish]
  split
  · exact .refl hx
  · have hdelivered : Wordless x { x with refer := { x.refer with resultDelivered := true } } :=
      ⟨hx, rfl, rfl, id, fun _ => rfl⟩
    exact hdelivered.trans (process_wordless pj hsig (fun _ h => by cases h) hx)

variable (htame : Tame sig)
include htame

omit hsig in
theorem stopSubscriptions_wordless {x : LiveCall} (hx : Simple x) :
    Wordless x (stopSubscriptions pj sig x) ∧
      (stopSubscriptions pj sig x).refer.inboundSub = false := by
  obtain ⟨tick, h⟩ := stopSubscriptions_eq pj htame x
  rw [h]
  exact ⟨⟨hx, rfl, rfl, (fun h => by cases h), id⟩, rfl⟩

/-- A leg is gone. -/
theorem handleDisconnect_wordless (leg : Leg) {x : LiveCall} (hx : Simple x) :
    Wordless x (handleDisconnect pj sig (process pj sig) leg x) := by
  rw [handleDisconnect]
  split
  · exact process_wordless pj hsig (fun _ h => by cases h) hx
  · exact process_wordless pj hsig (fun _ h => by cases h) hx
  · exact process_wordless pj hsig (fun _ h => by cases h) hx
  · split
    · have hstop := (stopSubscriptions_wordless pj htame hx).1
      have habort := hstop.trans (finish_wordless pj hsig .failed hstop.simple)
      exact habort.trans (process_wordless pj hsig (fun _ h => by cases h) habort.simple)
    · exact .refl hx
  · exact process_wordless pj hsig (fun _ h => by cases h) hx
  · exact .refl hx

theorem invStateChanged_wordless (leg : Leg) (state : InvState) (cause : ℤ) (causeText : String)
    (rdata : RxData) {x : LiveCall} (hx : Simple x) :
    Wordless x (invStateChanged pj sig (process pj sig) leg state cause causeText rdata x) := by
  rw [invStateChanged]
  split
  · exact .refl hx
  · have hset : ∀ c, Wordless x (x.setCore c) := fun c => ⟨hx, rfl, rfl, id, id⟩
    dsimp only
    rw [onInvStateChanged]
    split
    · split
      · refine Wordless.trans (y := x.setCore _) (hset _)
          (handleDisconnect_wordless pj hsig htame leg ?_)
        exact hx
      · exact hset _
    · split
      · exact hset _
      · exact ⟨hx, rfl, rfl, id, id⟩

/-- Only the end of the outbound subscription makes the handler speak. -/
theorem handle_mutes : Mutes (handle pj sig (process pj sig)) := by
  intro s x hs hx
  cases s with
  | legDropped leg cause causeText =>
    exact invStateChanged_wordless pj hsig htame leg .disconnected cause causeText _ hx
  | subTerminated sub response =>
    cases sub with
    | inbound =>
      show Wordless x (subscriptionChanged pj sig (process pj sig) .inbound response x)
      rw [subscriptionChanged]
      split
      · exact .refl hx
      · exact ⟨hx, rfl, rfl, (fun h => by cases h), id⟩
    | outbound => exact hs.elim

end Wordless

/-! ### What was said -/

/-- No NOTIFY follows the last one for the same REFER. -/
def Ordered (ns : List Notify) : Prop :=
  ns.Pairwise fun a b => a.terminated = true → b.refer ≠ a.refer

/-- The REFER that is being carried out was said to be over. -/
def SaidOver (r : ReferHandler) : Prop := ∃ a ∈ r.notifies, a.terminated = true ∧ a.refer = r.refers

/-- What was said is in order.  Nothing more will be said about a REFER that is over:
the subscription is gone or, with `delivered`, the result was delivered. -/
structure Spoken (delivered : Bool) (r : ReferHandler) : Prop where
  ordered : Ordered r.notifies
  bounded : ∀ a ∈ r.notifies, a.refer ≤ r.refers
  closed : SaidOver r → r.inboundSub = false ∨ delivered = true ∧ r.resultDelivered = true

theorem Spoken.wordless {b : Bool} {x y : LiveCall} (hx : Spoken b x.refer) (h : Wordless x y) :
    Spoken b y.refer where
  ordered := by rw [h.notifies]; exact hx.ordered
  bounded := by rw [h.notifies, h.refers]; exact hx.bounded
  closed hover := by
    rw [SaidOver, h.notifies, h.refers] at hover
    rcases hx.closed hover with hin | ⟨hb, hdelivered⟩
    · refine .inl (Bool.eq_false_iff.mpr fun htrue => ?_)
      cases hin.symm.trans (h.inbound htrue)
    · exact .inr ⟨hb, h.delivered hdelivered⟩

theorem Spoken.weaken {r : ReferHandler} (h : Spoken false r) (b : Bool) : Spoken b r where
  ordered := h.ordered
  bounded := h.bounded
  closed hover := by
    rcases h.closed hover with hin | ⟨hb, -⟩
    · exact .inl hin
    · cases hb

/-- As long as no result was delivered. -/
theorem Spoken.strengthen {b : Bool} {r : ReferHandler} (h : Spoken b r)
    (hdelivered : r.resultDelivered = false) : Spoken false r where
  ordered := h.ordered
  bounded := h.bounded
  closed hover := by
    rcases h.closed hover with hin | ⟨-, htrue⟩
    · exact .inl hin
    · cases hdelivered.symm.trans htrue

/-- Another NOTIFY, about a REFER that is not over. -/
theorem Spoken.said {r : ReferHandler} (h : Spoken false r) (hnot : ¬ SaidOver r) (n : Notify)
    (hn : n.refer = r.refers) :
    Ordered (r.notifies ++ [n]) ∧ ∀ a ∈ r.notifies ++ [n], a.refer ≤ r.refers := by
  constructor
  · refine List.pairwise_append.mpr ⟨h.ordered, List.pairwise_singleton _ _, ?_⟩
    intro a ha b hb hterminated hsame
    rw [List.mem_singleton.mp hb, hn] at hsame
    exact hnot ⟨a, ha, hterminated, hsame.symm⟩
  · intro a ha
    rcases List.mem_append.mp ha with ha | ha
    · exact h.bounded a ha
    · have hlast : a.refer = r.refers := by rw [List.mem_singleton.mp ha, hn]
      exact Nat.le_of_eq hlast

/-- A new REFER: nothing was said about it. -/
theorem Spoken.taken {b : Bool} {r : ReferHandler} (h : Spoken b r) :
    ¬ SaidOver { r with refers := r.refers + 1 } := by
  rintro ⟨a, ha, -, hrefer⟩
  have hle := h.bounded a ha
  change a.refer = r.refers + 1 at hrefer
  omega

/-- Before anything is said about a REFER it does not matter who is subscribed. -/
theorem Spoken.congr {b : Bool} {r r' : ReferHandler} (h : Spoken b r) (hnot : ¬ SaidOver r')
    (hnotifies : r'.notifies = r.notifies) (hrefers : r.refers ≤ r'.refers) : Spoken false r' where
  ordered := by rw [hnotifies]; exact h.ordered
  bounded := by
    rw [hnotifies]
    exact fun a ha => Nat.le_trans (h.bounded a ha) hrefers
  closed hover := (hnot hover).elim

section Speaking

variable (pj : Pjsip) {sig : Signal → LiveCall → LiveCall} (hmutes : Mutes sig) (htame : Tame sig)
  (hinside : ∀ k, ∀ s ∈ pj.onNotify k, Mute s)
include hmutes hinside

theorem sent_wordless {x : LiveCall} (hx : Simple x) :
    Wordless x (send pj sig pj.onNotify x).1 := by
  have hfold : ∀ ss : List Signal, (∀ s ∈ ss, Mute s) → ∀ {y}, Wordless x y →
      Wordless x (ss.foldl (fun x s => sig s x) y) := by
    intro ss
    induction ss with
    | nil => exact fun _ _ hy => hy
    | cons s ss ih =>
      intro hss y hy
      obtain ⟨hs, hrest⟩ := List.forall_mem_cons.mp hss
      exact ih hrest (hy.trans (hmutes s hs hy.simple))
  exact hfold _ (hinside _) ⟨hx, rfl, rfl, id, id⟩

/-- A NOTIFY about a REFER that is not over. -/
theorem notifyInbound_spoken (terminated : Bool) (code : ℤ) {x : LiveCall} (hx : Simple x)
    (hspoken : Spoken false x.refer) :
    Simple (notifyInbound pj sig terminated code x).1 ∧
      Ordered (notifyInbound pj sig terminated code x).1.refer.notifies ∧
      (∀ a ∈ (notifyInbound pj sig terminated code x).1.refer.notifies,
        a.refer ≤ (notifyInbound pj sig terminated code x).1.refer.refers) ∧
      (terminated = false ∨ (notifyInbound pj sig terminated code x).2 = false →
        Spoken false (notifyInbound pj sig terminated code x).1.refer) := by
  have hword : ∀ {y}, Wordless x y → Simple y ∧ Ordered y.refer.notifies ∧
      (∀ a ∈ y.refer.notifies, a.refer ≤ y.refer.refers) ∧
      (terminated = false ∨ false = false → Spoken false y.refer) := by
    intro y hy
    have hy' := hspoken.wordless hy
    exact ⟨hy.simple, hy'.ordered, hy'.bounded, fun _ => hy'⟩
  have hask : Wordless x (ask pj x).1 := ⟨hx, rfl, rfl, id, id⟩
  have hsent := hask.trans (sent_wordless pj hmutes hinside hask.simple)
  rw [notifyInbound]
  split
  · exact hword (.refl hx)
  · next hin =>
    -- whoever asked is still subscribed, so the transfer was not said to be over
    have hnot : ¬ SaidOver x.refer := by
      intro hover
      rcases hspoken.closed hover with hfalse | ⟨hb, -⟩
      · rw [hfalse] at hin
        exact hin rfl
      · cases hb
    dsimp only
    split
    · exact hword hask
    · split
      · have hy := hspoken.wordless hsent
        have hnot' : ¬ SaidOver (send pj sig pj.onNotify (ask pj x).1).1.refer := by
          rw [SaidOver, hsent.notifies, hsent.refers]
          exact hnot
        obtain ⟨hordered, hbounded⟩ := hy.said hnot'
          { refer := (send pj sig pj.onNotify (ask pj x).1).1.refer.refers
            terminated := terminated, statusCode := code } rfl
        refine ⟨hsent.simple, hordered, hbounded, fun hactive => ⟨hordered, hbounded, ?_⟩⟩
        replace hactive : terminated = false := hactive.resolve_right fun h => by cases h
        rintro ⟨a, ha, hterminated, hrefer⟩
        rcases List.mem_append.mp ha with ha | ha
        · exact (hnot' ⟨a, ha, hterminated, hrefer⟩).elim
        · rw [List.mem_singleton.mp ha] at hterminated
          cases hactive.symm.trans hterminated
      · exact hword hsent

include htame

/-- The last word, and the end of both subscriptions. -/
theorem failAfterAccept_spoken (code : ℤ) {x : LiveCall} (hx : Simple x)
    (hspoken : Spoken false x.refer) :
    Simple (failAfterAccept pj sig code x) ∧ Spoken false (failAfterAccept pj sig code x).refer := by
  obtain ⟨hsimple, hordered, hbounded, -⟩ :=
    notifyInbound_spoken pj hmutes hinside true code hx hspoken
  obtain ⟨hstop, hin⟩ := stopSubscriptions_wordless pj htame hsimple
  refine ⟨hstop.simple, ⟨?_, ?_, fun _ => .inl hin⟩⟩
  · rw [failAfterAccept, hstop.notifies]
    exact hordered
  · rw [failAfterAccept, hstop.notifies, hstop.refers]
    exact hbounded

/-- A subscription has ended. -/
theorem subscriptionChanged_spoken (sub : Subscription) (response : Option ℤ) {b : Bool}
    {x : LiveCall} (hx : Simple x) (hspoken : Spoken b x.refer) :
    Simple (subscriptionChanged pj sig (process pj sig) sub response x) ∧
      Spoken b (subscriptionChanged pj sig (process pj sig) sub response x).refer := by
  rw [subscriptionChanged]
  split
  · exact ⟨hx, hspoken⟩
  · cases sub with
    | inbound => exact ⟨hx, { hspoken with closed := fun _ => .inl rfl }⟩
    | outbound =>
      have hdetached : Spoken b (x.setSub .outbound false).refer :=
        { hspoken with closed := hspoken.closed }
      dsimp only
      split
      · exact ⟨hx, hdetached⟩
      · next hdelivered =>
        obtain ⟨hsimple, hfailed⟩ := failAfterAccept_spoken pj hmutes htame hinside
          ((response.filter (300 ≤ ·)).getD 503) (x := x.setSub .outbound false) hx
          (hdetached.strengthen (Bool.eq_false_iff.mpr hdelivered))
        have hfinish := finish_wordless pj hmutes .failed hsimple
        exact ⟨hfinish.simple, (hfailed.wordless hfinish).weaken b⟩

omit htame hinside in
/-- Once the result is delivered nothing more is said. -/
theorem finish_spoken (outcome : ReferOutcome) {x : LiveCall} (hx : Simple x)
    (hordered : Ordered x.refer.notifies) (hbounded : ∀ a ∈ x.refer.notifies, a.refer ≤ x.refer.refers) :
    Simple (finish (process pj sig) outcome x) ∧
      Spoken true (finish (process pj sig) outcome x).refer := by
  rw [finish]
  split
  · next hdelivered => exact ⟨hx, hordered, hbounded, fun _ => .inr ⟨rfl, hdelivered⟩⟩
  · have hprocess := process_wordless pj hmutes (e := .referCompleted outcome) (fun _ h => by cases h)
      (x := { x with refer := { x.refer with resultDelivered := true } }) hx
    refine ⟨hprocess.simple, Spoken.wordless ?_ hprocess⟩
    exact ⟨hordered, hbounded, fun _ => .inr ⟨rfl, rfl⟩⟩

/-- A NOTIFY from the other side. -/
theorem notificationReceived_spoken (status : Option ℤ) {x : LiveCall} (hx : Simple x)
    (hspoken : Spoken true x.refer) :
    Simple (notificationReceived pj sig (process pj sig) status x).1 ∧
      Spoken true (notificationReceived pj sig (process pj sig) status x).1.refer := by
  have hfailed : ∀ code {y}, Simple y → Spoken false y.refer →
      Simple (finish (process pj sig) .failed (failAfterAccept pj sig code y)) ∧
        Spoken true (finish (process pj sig) .failed (failAfterAccept pj sig code y)).refer := by
    intro code y hy hsaid
    obtain ⟨hsimple, hover⟩ := failAfterAccept_spoken pj hmutes htame hinside code hy hsaid
    have hfinish := finish_wordless pj hmutes .failed hsimple
    exact ⟨hfinish.simple, (hover.wordless hfinish).weaken true⟩
  rw [notificationReceived]
  split
  · exact ⟨hx, hspoken⟩
  · split
    · exact ⟨hx, hspoken⟩
    · next code _ =>
      split
      · exact ⟨hx, hspoken⟩
      · next hdelivered =>
        -- no final result was delivered yet, so there is room for one
        have hstrong := hspoken.strengthen (Bool.eq_false_iff.mpr hdelivered)
        split
        · exact hfailed code hx hstrong
        · dsimp only
          generalize hp : (if x.refer.inboundSub = true
            then notifyInbound pj sig (200 ≤ code) code x else (x, true)) = p
          have hnotified : Simple p.1 ∧ Ordered p.1.refer.notifies ∧
              (∀ a ∈ p.1.refer.notifies, a.refer ≤ p.1.refer.refers) ∧
              (decide (200 ≤ code) = false ∨ p.2 = false → Spoken false p.1.refer) := by
            rw [← hp]
            split
            · exact notifyInbound_spoken pj hmutes hinside _ code hx hstrong
            · exact ⟨hx, hstrong.ordered, hstrong.bounded, fun _ => hstrong⟩
          obtain ⟨hsimple, hordered, hbounded, hactive⟩ := hnotified
          split
          · next hrefused => exact hfailed 503 hsimple (hactive (.inr (by simpa using hrefused)))
          · split
            · exact finish_spoken pj hmutes .succeeded hsimple hordered hbounded
            · next hcode => exact ⟨hsimple, (hactive (.inl (by simpa using hcode))).weaken true⟩

/-! ### Taking up a REFER -/

variable (hspeaks : ∀ s {b : Bool} {x : LiveCall}, Simple x → Spoken b x.refer →
  Simple (sig s x) ∧ Spoken b (sig s x).refer)
include hspeaks

omit hmutes hinside htame in
theorem sent_spoken (inside : ℕ → List Signal) {b : Bool} {x : LiveCall} (hx : Simple x)
    (hspoken : Spoken b x.refer) :
    Simple (send pj sig inside x).1 ∧ Spoken b (send pj sig inside x).1.refer := by
  have hfold : ∀ ss : List Signal, ∀ {y}, Simple y → Spoken b y.refer →
      Simple (ss.foldl (fun x s => sig s x) y) ∧
        Spoken b (ss.foldl (fun x s => sig s x) y).refer := by
    intro ss
    induction ss with
    | nil => exact fun hy hsaid => ⟨hy, hsaid⟩
    | cons s ss ih =>
      intro y hy hsaid
      obtain ⟨hs, hsaid'⟩ := hspeaks s hy hsaid
      exact ih hs hsaid'
  exact hfold _ (y := x.setCore { x.core with tick := x.core.tick + 1 }) hx hspoken

/-- An accepted REFER is forwarded. -/
theorem forward_spoken {x : LiveCall} (hx : Simple x) (hspoken : Spoken false x.refer) :
    Simple (forward pj sig x).1 ∧ Spoken false (forward pj sig x).1.refer := by
  have hbuilt : ∀ p, p = (if x.refer.outboundSub = true then ask pj x else (x, false)) →
      Simple p.1 ∧ Spoken false p.1.refer := by
    rintro p rfl
    split
    · exact ⟨hx, hspoken⟩
    · exact ⟨hx, hspoken⟩
  obtain ⟨hsimple, hsaid⟩ := hbuilt _ rfl
  rw [forward]
  generalize (if x.refer.outboundSub = true then ask pj x else (x, false)) = p at hsimple hsaid ⊢
  have hsent : Simple (if p.2 = true then send pj sig pj.onSend p.1 else p).1 ∧
      Spoken false (if p.2 = true then send pj sig pj.onSend p.1 else p).1.refer := by
    split
    · exact sent_spoken pj hspeaks pj.onSend hsimple hsaid
    · exact ⟨hsimple, hsaid⟩
  generalize (if p.2 = true then send pj sig pj.onSend p.1 else p) = q at hsent ⊢
  split
  · exact hsent
  · exact failAfterAccept_spoken pj hmutes htame hinside 503 hsent.1 hsent.2

theorem accept_spoken {x : LiveCall} (hx : Simple x) (hspoken : Spoken false x.refer) :
    Simple (accept pj sig x).1 ∧ Spoken false (accept pj sig x).1.refer := by
  obtain ⟨hsimple, hsaid⟩ := sent_spoken pj hspeaks pj.onSend (x := x.respondRefer 202) hx
    { hspoken with closed := hspoken.closed }
  rw [accept]
  dsimp only
  split
  · have hstop := (stopSubscriptions_wordless pj htame hsimple).1
    exact ⟨hstop.simple, hsaid.wordless hstop⟩
  · obtain ⟨hsimple', -, -, hactive⟩ := notifyInbound_spoken pj hmutes hinside false 100 hsimple hsaid
    have hsaid' := hactive (.inl rfl)
    split
    · exact failAfterAccept_spoken pj hmutes htame hinside 503 hsimple' hsaid'
    · exact forward_spoken pj hmutes htame hinside hspeaks hsimple' hsaid'

theorem start_spoken (leg : Leg) {b : Bool} {x : LiveCall} (hx : Simple x)
    (hspoken : Spoken b x.refer) (hnot : ¬ SaidOver x.refer) :
    Simple (start pj sig leg x).1 ∧ Spoken false (start pj sig leg x).1.refer := by
  have hsame : ∀ r : ReferHandler, r.notifies = x.refer.notifies → r.refers = x.refer.refers →
      Spoken false r := by
    intro r hnotifies hrefers
    refine hspoken.congr ?_ hnotifies (Nat.le_of_eq hrefers.symm)
    rw [SaidOver, hnotifies, hrefers]
    exact hnot
  rw [start]
  split
  · exact ⟨hx, hsame _ rfl rfl⟩
  · dsimp only
    split
    · exact ⟨hx, hsame _ rfl rfl⟩
    · rw [subscribe]
      dsimp only
      split
      · exact ⟨hx, hsame _ rfl rfl⟩
      · split
        · refine ⟨(stopSubscriptions_wordless pj htame ?_).1.simple,
            Spoken.wordless ?_ (stopSubscriptions_wordless pj htame ?_).1⟩
          · exact hx
          · exact hsame _ rfl rfl
          · exact hx
        · refine accept_spoken pj hmutes htame hinside hspeaks ?_ ?_
          · exact hx
          · exact hsame _ rfl rfl

/-- A REFER, with everything it sets off. -/
theorem referReceived_spoken (leg : Leg) {x : LiveCall} (hx : Simple x)
    (hspoken : Spoken true x.refer) :
    Simple (process pj sig (.referReceived leg) x).1 ∧
      Spoken true (process pj sig (.referReceived leg) x).1.refer := by
  have hdispatch : Simple (dispatch pj sig (.referReceived leg) x).1 ∧
      Spoken true (dispatch pj sig (.referReceived leg) x).1.refer := by
    -- while something else is going on the REFER is refused, and nothing is notified
    have hbusy : DialogSm.row x.dialog (.referReceived leg) =
          some (x.dialog, .handleReferBusy leg) →
        Simple (dispatch pj sig (.referReceived leg) x).1 ∧
          Spoken true (dispatch pj sig (.referReceived leg) x).1.refer := by
      intro hrow
      rw [dispatch_of_row hrow]
      exact ⟨hx, { hspoken with closed := hspoken.closed }⟩
    cases hst : x.dialog with
    | active =>
      have hrow : DialogSm.row x.dialog (.referReceived leg) =
          some (.referring, .handleRefer leg) := by
        rw [hst]
        rfl
      obtain ⟨hsimple, hsaid⟩ := start_spoken pj hmutes htame hinside hspeaks leg (b := false)
        (x := { x with
          dialog := .referring
          refer := { x.refer with refers := x.refer.refers + 1 } }) hx
        (hspoken.congr hspoken.taken rfl (Nat.le_succ _)) hspoken.taken
      rw [dispatch_of_row hrow]
      show Simple (handleRefer pj sig leg { x with dialog := .referring }) ∧
        Spoken true (handleRefer pj sig leg { x with dialog := .referring }).refer
      rw [handleRefer]
      dsimp only
      split
      · exact ⟨hsimple, hsaid.weaken true⟩
      · refine ⟨fun e he l => ?_, hsaid.weaken true⟩
        rcases List.mem_append.mp he with h | h
        · exact hsimple e h l
        · rw [List.mem_singleton.mp h]
          exact fun h => by cases h
    | reinviting => exact hbusy (by rw [hst]; rfl)
    | referring => exact hbusy (by rw [hst]; rfl)
    | _ =>
      rw [dispatch_of_none (by rw [hst]; rfl)]
      exact ⟨hx, hspoken⟩
  refine (machine pj).process_keeps (I := fun y => Simple y ∧ Spoken true y.refer)
    (fun y e q hq hy => ?_) hdispatch
  have hserve := serve_wordless pj hmutes hq hy.1
  exact ⟨hserve.simple, hy.2.wordless hserve⟩

/-! ### Callbacks -/

theorem deliverWith_spoken {x : LiveCall} (hx : Simple x) (hspoken : Spoken true x.refer)
    (cb : Callback) :
    Simple (deliverWith pj sig x cb) ∧ Spoken true (deliverWith pj sig x cb).refer := by
  -- all but three callbacks notify nobody
  have hword : ∀ {y}, Wordless x y → Simple y ∧ Spoken true y.refer := fun hy =>
    ⟨hy.simple, hspoken.wordless hy⟩
  have hprocess : ∀ {e}, (∀ leg, e ≠ .referReceived leg) → Wordless x (process pj sig e x).1 :=
    fun he => process_wordless pj hmutes he hx
  have hsetup : ∀ e, Wordless x (setupEvent pj e x) := fun _ => ⟨hx, rfl, rfl, id, id⟩
  have hreject : ∀ leg code {y}, Wordless x y → Wordless x (rejectReinvite pj sig leg code y) := by
    intro leg code y hy
    have hsent : Wordless y (y.setCore (Inv.answerRequest pj.env true leg code none y.core).1) :=
      ⟨hy.simple, rfl, rfl, id, id⟩
    exact hy.trans (hsent.trans (reported_wordless pj hmutes leg y.core hsent.simple))
  cases cb with
  | invStateChanged leg state cause causeText rdata =>
    exact hword (invStateChanged_wordless pj hmutes htame leg state cause causeText rdata hx)
  | rxReinvite leg offer =>
    refine hword ?_
    show Wordless x (onRxReinvite pj sig leg offer x)
    rw [onRxReinvite]
    split
    · exact hreject leg 481 (.refl hx)
    · have hpending : Wordless x (setPendingReinvite true x) := ⟨hx, rfl, rfl, id, id⟩
      have hanswer := hpending.trans (process_wordless pj hmutes
        (e := .reinviteReceived (MessageRouter.offerText pj.env offer) leg)
        (fun _ h => by cases h) hpending.simple)
      have hdone := hanswer.trans (z := setPendingReinvite false _)
        ⟨hanswer.simple, rfl, rfl, id, id⟩
      dsimp only
      split
      · exact hreject leg 500 hdone
      · exact hdone
  | rxOffer method leg offer =>
    refine hword ?_
    show Wordless x (onRxOffer pj sig method leg offer x)
    rw [onRxOffer]
    split
    · exact .refl hx
    · split
      · exact .refl hx
      · have hanswer := hprocess
          (e := .updateReceived (MessageRouter.offerText pj.env offer) leg) fun _ h => by cases h
        dsimp only
        split
        · exact hanswer.trans ⟨hanswer.simple, rfl, rfl, id, id⟩
        · exact hanswer
  | invMediaUpdate leg activeRemote =>
    refine hword ?_
    show Wordless x (onInvMediaUpdate pj sig leg activeRemote x)
    rw [onInvMediaUpdate]
    split
    · have hack : Wordless x
          (x.withContext (ReinviteHandler.applyAck pj.env leg activeRemote x.context).1) :=
        ⟨hx, rfl, rfl, id, id⟩
      exact hack.trans (process_wordless pj hmutes (fun _ h => by cases h) hack.simple)
    · exact .refl hx
  | rxRefer leg request =>
    show Simple (onRxRefer pj sig leg request x) ∧ Spoken true (onRxRefer pj sig leg request x).refer
    rw [onRxRefer]
    split
    · exact ⟨hx, { hspoken with closed := hspoken.closed }⟩
    · obtain ⟨hsimple, hsaid⟩ := referReceived_spoken pj hmutes htame hinside hspeaks leg
        (x := setPendingRefer (some request) x) hx { hspoken with closed := hspoken.closed }
      dsimp only
      split
      · exact ⟨hsimple, { hsaid with closed := hsaid.closed }⟩
      · exact ⟨hsimple, { hsaid with closed := hsaid.closed }⟩
  | rxNotify status => exact notificationReceived_spoken pj hmutes htame hinside status hx hspoken
  | subTerminated sub response =>
    exact subscriptionChanged_spoken pj hmutes htame hinside sub response hx hspoken
  | replaced matchedDialogIsUac =>
    refine hword ?_
    show Wordless x (terminateReplacedSession pj sig matchedDialogIsUac x)
    rw [terminateReplacedSession]
    split
    · split
      · exact hsetup _
      · exact .refl hx
    · split
      · exact hprocess fun _ h => by cases h
      · exact .refl hx
  | timeout reason =>
    refine hword ?_
    show Wordless x (processTimeout pj sig reason x)
    rw [processTimeout]
    split
    · exact hprocess fun _ h => by cases h
    · exact .refl hx
  | callError =>
    refine hword ?_
    show Wordless x (terminateEstablishedCall pj sig x)
    rw [terminateEstablishedCall]
    split
    · exact hprocess fun _ h => by cases h
    · exact .refl hx

end Speaking

/-- Reports of every depth. -/
theorem interrupt_speaks (pj : Pjsip) (hinside : ∀ k, ∀ s ∈ pj.onNotify k, Mute s) (n : ℕ) :
    Mutes ((machine pj).interrupt n) ∧ ∀ s {b : Bool} {x : LiveCall}, Simple x → Spoken b x.refer →
      Simple ((machine pj).interrupt n s x) ∧ Spoken b ((machine pj).interrupt n s x).refer := by
  induction n with
  | zero => exact ⟨fun _ _ _ hx => .refl hx, fun _ _ _ hx hspoken => ⟨hx, hspoken⟩⟩
  | succ n ih =>
    have htame := interrupt_tame pj n
    refine ⟨handle_mutes pj ih.1 htame, fun s b x hx hspoken => ?_⟩
    cases s with
    | legDropped leg cause causeText =>
      have hword := handle_mutes pj ih.1 htame (.legDropped leg cause causeText) trivial hx
      exact ⟨hword.simple, hspoken.wordless hword⟩
    | subTerminated sub response =>
      exact subscriptionChanged_spoken pj ih.1 htame hinside sub response hx hspoken

theorem deliver_spoken (pj : Pjsip) (hinside : ∀ k, ∀ s ∈ pj.onNotify k, Mute s) (n : ℕ)
    {x : LiveCall} (hx : Simple x ∧ Spoken true x.refer) (cb : Callback) :
    Simple (deliver pj n x cb) ∧ Spoken true (deliver pj n x cb).refer := by
  have hreports : ∀ m, Simple (deliverWith pj ((machine pj).interrupt m) x cb) ∧
      Spoken true (deliverWith pj ((machine pj).interrupt m) x cb).refer := by
    intro m
    obtain ⟨hmutes, hspeaks⟩ := interrupt_speaks pj hinside m
    exact deliverWith_spoken pj hmutes (interrupt_tame pj m) hinside hspeaks hx.1 hx.2 cb
  cases cb with
  | callError => exact hreports 0
  | _ => exact hreports n

/-! ### Runs -/

/-- A transfer completes once, and one that is waited for can still end. -/
structure Completes (x : LiveCall) : Prop where
  completed : x.refer.completions.Nodup
  pending : x.dialog = .referring → x.refer.resultDelivered = false ∧ x.refer.outboundSub = true

/-- What a call promises about its transfers between callbacks. -/
structure Transferred (x : LiveCall) : Prop extends Completes x where
  ordered : Ordered x.refer.notifies

/-- **A transfer ends once**, in every run, **and is said to be over once**, in every run
in which PJSIP does not report the end of the outbound subscription from inside a
NOTIFY. -/
theorem transfer_reported_once (pj : Pjsip) (n : ℕ) (inv : InvSession) (cbs : List Callback) :
    let x := afterCallbacks pj n (invited pj inv) cbs
    x.setup = .established → Completes x ∧
      ((∀ k response, .subTerminated .outbound response ∉ pj.onNotify k) → Transferred x) := by
  intro x hest
  have hx : Between x := afterCallbacks_between pj n inv cbs hest
  have hcompletes : Completes x := ⟨hx.nodup, fun hst => ⟨hx.pending (.inl hst), hx.bound hst⟩⟩
  refine ⟨hcompletes, fun hinside => ⟨hcompletes, ?_⟩⟩
  have hmute : ∀ k, ∀ s ∈ pj.onNotify k, Mute s := by
    intro k s hs
    cases s with
    | legDropped leg cause causeText => trivial
    | subTerminated sub response =>
      cases sub with
      | inbound => trivial
      | outbound => exact (hinside k response hs).elim
  have hspoken : Simple x ∧ Spoken true x.refer :=
    afterCallbacks_induct pj n (x := invited pj inv) (G := fun _ _ => True)
      (I := fun x => Simple x ∧ Spoken true x.refer) (fun _ => id) (fun _ cb _ _ hx => deliver_spoken pj hmute n hx cb)
      (fun _ _ hx => deliver_spoken pj hmute n hx .callError)
      ⟨(fun e he => by cases he), .nil, (fun a ha => by cases ha),
        fun ⟨a, ha, _⟩ => by cases ha⟩
      (along_of_forall pj n _ _ fun _ _ _ => trivial)
  exact hspoken.2.ordered

/-- The phones of `phoneEnv`.  The end of the outbound subscription is reported from
inside the NOTIFY that is the `k`-th request. -/
def transferPjsip (k : ℕ) : Pjsip :=
  { phonePjsip 100 with
    onNotify := fun t => if t = k then [.subTerminated .outbound none] else [] }

/-- The caller asks for a transfer that succeeds. -/
def phoneTransferred : List Callback := phoneAnswered ++
  [.rxRefer .caller { referTo := .ok "sip:carol@10.0.0.3", repeatedReferredBy := false,
                      maxForwardsExhausted := false },
   .rxNotify (some 200)]

/-- Nothing is reported inside a NOTIFY. -/
theorem transfer_reported_once_quiet :
    let x := afterCallbacks (phonePjsip 100) 2 (invited (phonePjsip 100) phoneInv) phoneTransferred
    x.refer.notifies.length = 2 ∧ Transferred x := by
  have hstates :
      let x := afterCallbacks (phonePjsip 100) 2 (invited (phonePjsip 100) phoneInv)
        phoneTransferred
      x.refer.notifies.length = 2 ∧ x.setup = .established := by
    decide +kernel
  refine ⟨hstates.1, (transfer_reported_once (phonePjsip 100) 2 phoneInv phoneTransferred
    hstates.2).2 fun k response hmem => ?_⟩
  cases hmem

/-- The outbound subscription ends while its result is being passed on: the transfer
is said to have failed, then to have succeeded. -/
theorem transfer_reported_twice :
    let x := afterCallbacks (transferPjsip 12) 2 (invited (transferPjsip 12) phoneInv)
      phoneTransferred
    x.setup = .established ∧ ¬ Transferred x := by
  have hsaid :
      let x := afterCallbacks (transferPjsip 12) 2 (invited (transferPjsip 12) phoneInv)
        phoneTransferred
      x.setup = .established ∧ x.refer.notifies =
        [{ refer := 1, terminated := false, statusCode := 100 },
         { refer := 1, terminated := true, statusCode := 503 },
         { refer := 1, terminated := true, statusCode := 200 }] := by
    decide +kernel
  refine ⟨hsaid.1, fun htransferred => ?_⟩
  have hordered := htransferred.ordered
  rw [hsaid.2, Ordered] at hordered
  revert hordered
  decide

end Reentry

end SbcEngine
