/-
How many hops a request has left.

A request with a Max-Forwards of zero goes no further: `create_call` and the REFER handler
look at it before anything is created.  What goes on carries a value of its own, which
`send_outbound_invite` and `start` compute from the header of the request they handle, the
one through `current_rdata_`, the other through `pending_request_`; a request without the
header counts as one with 70.  Both functions subtract in unsigned arithmetic, and rely on
the check for it not to wrap around.

* `setMaxForwards`, `requireReplaces`, `stampInvite`, `stampRefer` — the messages that go on;
* `forwarded` — the INVITEs that leave the engine for one that came in;
* `forwarded_eq` — each is stamped while the request it answers is still there;
* `Hop` — an INVITE that was sent arrives again;
* `hops_counted` — zero is refused, everything else counts down, and a chain of INVITEs
  ends.

Design notes: what PJSIP builds is a parameter, of which only the number of its Max-Forwards
headers matters.  A request is handled by some engine in some state at each hop, so a chain
may lead through one instance or through many.
-/
import SbcEngine.ReplacesTags
import SbcEngine.RequestRouting
import SbcEngine.SentInvites

namespace SbcEngine

namespace MaxForwards

open SipRequestActions

/-! ### Headers -/

/-- The content of a Replaces header the engine adds. -/
structure ReplacesHdr where
  callId : String
  toTag : String
  fromTag : String
  earlyOnly : Bool
  deriving DecidableEq, Repr

/-- A header of a message PJSIP has built. -/
inductive SipHdr where
  | maxForwards (value : UInt32)
  | require (values : List String)
  | replaces (hdr : ReplacesHdr)
  | other (name value : String)
  deriving DecidableEq, Repr

/-- The values of the Max-Forwards headers. -/
def maxForwardsOf (hdrs : List SipHdr) : List UInt32 :=
  hdrs.filterMap fun
    | .maxForwards value => some value
    | _ => none

/-- `PJSIP_MAX_FORWARDS_VALUE` -/
def kMaxForwardsValue : UInt32 := 70

/-- The hops a request has left, given its header. -/
def hops (maxFwd : Option UInt32) : UInt32 := maxFwd.getD kMaxForwardsValue

/-- Change the first Max-Forwards header, or add one. -/
def setMaxForwards (value : UInt32) : List SipHdr → List SipHdr
  | [] => [.maxForwards value]
  | .maxForwards _ :: rest => .maxForwards value :: rest
  | hdr :: rest => hdr :: setMaxForwards value rest

/-! ### The INVITE -/

/-- `PJSIP_GENERIC_ARRAY_MAX_COUNT` -/
def kGenericArrayMaxCount : ℕ := 32

def isReplacesTag (value : String) : Bool :=
  ExtractUtils.asciiIequals value.toList ExtractUtils.kReplacesName

/-- A Require header lists the extension already. -/
def requiresReplaces (hdrs : List SipHdr) : Bool :=
  hdrs.any fun
    | .require values => values.any isReplacesTag
    | _ => false

/-- Add it to the first Require header with room, or to one of its own. -/
def addRequire : List SipHdr → List SipHdr
  | [] => [.require ["Replaces"]]
  | .require values :: rest =>
    if values.length < kGenericArrayMaxCount then .require (values ++ ["Replaces"]) :: rest
    else .require values :: addRequire rest
  | hdr :: rest => hdr :: addRequire rest

def requireReplaces (hdrs : List SipHdr) : List SipHdr :=
  if requiresReplaces hdrs then hdrs else addRequire hdrs

/-- The value for the outbound INVITE.  `rdata` is what `current_rdata_` points to: the
Max-Forwards header of that request, if it has one. -/
def outboundMaxFwd (rdata : Option (Option UInt32)) : UInt32 :=
  let inbound :=
    match rdata with
    | some (some value) => value
    | _ => kMaxForwardsValue
  if 0 < inbound then inbound - 1 else 0

/-- What `send_outbound_invite` makes of the message PJSIP has built. -/
def stampInvite (rdata : Option (Option UInt32)) (replacement : Option ReplacesHdr)
    (built : List SipHdr) : List SipHdr :=
  let stamped := setMaxForwards (outboundMaxFwd rdata) built
  match replacement with
  | none => stamped
  -- a peer without the extension has to refuse
  | some hdr => requireReplaces stamped ++ [.replaces hdr]

/-! ### The REFER -/

/-- A REFER as the handler reads it. -/
structure Refer where
  /-- The translated target, or the status to refuse with. -/
  referTo : Except ℤ String
  referredBy : List String
  maxFwd : Option UInt32

/-- What the checks before the subscriptions see of it. -/
def Refer.request (refer : Refer) : ReferRequest where
  referTo := refer.referTo
  repeatedReferredBy := 1 < refer.referredBy.length
  maxForwardsExhausted := refer.maxFwd = some 0

/-- What `start` makes of the message PJSIP has built; `pending_request_` is set until it
returns. -/
def stampRefer (refer : Refer) (built : List SipHdr) : List SipHdr :=
  setMaxForwards (hops refer.maxFwd - 1)
    (built ++ refer.referredBy.head?.toList.map (.other "Referred-By"))

/-! ### What becomes of the headers -/

/-- The message has one Max-Forwards header, and its value is one less. -/
def CountsDown (maxFwd : Option UInt32) (msg : List SipHdr) : Prop :=
  ∃ value, maxForwardsOf msg = [value] ∧ value.toNat + 1 = (hops maxFwd).toNat

theorem maxForwardsOf_cons (hdr : SipHdr) (hdrs : List SipHdr) :
    maxForwardsOf (hdr :: hdrs) = maxForwardsOf [hdr] ++ maxForwardsOf hdrs :=
  List.filterMap_append (l := [hdr])

theorem maxForwardsOf_append (hdrs hdrs' : List SipHdr) :
    maxForwardsOf (hdrs ++ hdrs') = maxForwardsOf hdrs ++ maxForwardsOf hdrs' :=
  List.filterMap_append

theorem maxForwardsOf_set (value : UInt32) (hdrs : List SipHdr) :
    maxForwardsOf (setMaxForwards value hdrs) = value :: (maxForwardsOf hdrs).tail := by
  induction hdrs with
  | nil => rfl
  | cons hdr hdrs ih =>
    cases hdr with
    | maxForwards _ => rfl
    | require values => exact ih
    | replaces hdr => exact ih
    | other name text => exact ih

theorem maxForwardsOf_addRequire (hdrs : List SipHdr) :
    maxForwardsOf (addRequire hdrs) = maxForwardsOf hdrs := by
  induction hdrs with
  | nil => rfl
  | cons hdr hdrs ih =>
    cases hdr with
    | require values =>
      rw [addRequire]
      split
      · rfl
      · exact ih
    | maxForwards value =>
      rw [addRequire, maxForwardsOf_cons, ih, ← maxForwardsOf_cons]
      simp
    | replaces hdr => exact ih
    | other name text => exact ih

theorem maxForwardsOf_requireReplaces (hdrs : List SipHdr) :
    maxForwardsOf (requireReplaces hdrs) = maxForwardsOf hdrs := by
  rw [requireReplaces]
  split
  · rfl
  · exact maxForwardsOf_addRequire hdrs

/-- The headers for a replacement leave it alone. -/
theorem maxForwardsOf_stampInvite (rdata : Option (Option UInt32))
    (replacement : Option ReplacesHdr) (built : List SipHdr) :
    maxForwardsOf (stampInvite rdata replacement built) =
      outboundMaxFwd rdata :: (maxForwardsOf built).tail := by
  cases replacement with
  | none => exact maxForwardsOf_set _ built
  | some hdr =>
    rw [stampInvite, maxForwardsOf_append, maxForwardsOf_requireReplaces, maxForwardsOf_set]
    exact List.append_nil _

theorem tail_eq_nil {values : List UInt32} (h : values.length ≤ 1) : values.tail = [] := by
  cases values with
  | nil => rfl
  | cons v vs => exact List.length_eq_zero_iff.mp (by simpa using h)

/-- What passes the check does not wrap around. -/
theorem sub_one_toNat {maxFwd : Option UInt32} (h : maxFwd ≠ some 0) :
    (hops maxFwd - 1).toNat + 1 = (hops maxFwd).toNat := by
  have hne : hops maxFwd ≠ 0 := by
    cases maxFwd with
    | none => decide
    | some value => exact fun hzero => h (congrArg some hzero)
  have hpos : (hops maxFwd).toNat ≠ 0 := fun hzero => hne (UInt32.toNat_inj.mp hzero)
  have hle : (1 : UInt32) ≤ hops maxFwd := UInt32.le_iff_toNat_le.mpr (Nat.one_le_iff_ne_zero.mpr hpos)
  rw [UInt32.toNat_sub_of_le _ _ hle]
  show (hops maxFwd).toNat - 1 + 1 = _
  omega

theorem outboundMaxFwd_some {maxFwd : Option UInt32} (h : maxFwd ≠ some 0) :
    outboundMaxFwd (some maxFwd) = hops maxFwd - 1 := by
  cases maxFwd with
  | none => decide
  | some value => exact if_pos (UInt32.pos_iff_ne_zero.mpr fun hzero => h (congrArg some hzero))

theorem stampInvite_countsDown {maxFwd : Option UInt32} (h : maxFwd ≠ some 0)
    (replacement : Option ReplacesHdr) {built : List SipHdr}
    (hbuilt : (maxForwardsOf built).length ≤ 1) :
    CountsDown maxFwd (stampInvite (some maxFwd) replacement built) := by
  refine ⟨hops maxFwd - 1, ?_, sub_one_toNat h⟩
  rw [maxForwardsOf_stampInvite, outboundMaxFwd_some h, tail_eq_nil hbuilt]

theorem stampRefer_countsDown {refer : Refer} (h : refer.maxFwd ≠ some 0) {built : List SipHdr}
    (hbuilt : (maxForwardsOf built).length ≤ 1) :
    CountsDown refer.maxFwd (stampRefer refer built) := by
  refine ⟨hops refer.maxFwd - 1, ?_, sub_one_toNat h⟩
  have hreferredBy : ∀ value? : Option String,
      maxForwardsOf (value?.toList.map (.other "Referred-By")) = [] := by
    rintro (_ | _) <;> rfl
  rw [stampRefer, maxForwardsOf_set, maxForwardsOf_append, hreferredBy, List.append_nil,
    tail_eq_nil hbuilt]

/-! ### The INVITEs of a call -/

/-- What goes into the INVITEs of a call: the header of the request the call was created
for, the target it replaces, and what PJSIP builds. -/
structure InviteParts where
  maxFwd : Option UInt32
  replacement : Option ReplacesHdr
  built : InvCall → List SipHdr

/-- PJSIP puts at most one Max-Forwards header into a request. -/
def InviteParts.Sound (parts : InviteParts) : Prop :=
  ∀ call, (maxForwardsOf (parts.built call)).length ≤ 1

/-- `current_rdata_` of a call. -/
def InviteParts.currentRdata (parts : InviteParts) (x : LiveCall) : Option (Option UInt32) :=
  if x.session.hasRdata then some parts.maxFwd else none

section Sending

variable (parts : InviteParts) (pj : Pjsip) (n : ℕ)

/-- The INVITEs a call sends on its way from `x` to `y`. -/
def sentBetween (x y : LiveCall) : List (List SipHdr) :=
  ((invitesOf y.core.log).drop (invitesOf x.core.log).length).map fun call =>
    stampInvite (parts.currentRdata x) parts.replacement (parts.built call)

/-- The INVITEs of a run of callbacks; none is delivered after the shutdown. -/
def sentAlong : LiveCall → List Reentry.Callback → List (List SipHdr)
  | _, [] => []
  | x, .callError :: _ => sentBetween parts x (Reentry.deliver pj n x .callError)
  | x, cb :: cbs =>
    sentBetween parts x (Reentry.deliver pj n x cb) ++ sentAlong (Reentry.deliver pj n x cb) cbs

/-- The INVITEs that leave for one that has come in, when it is dispatched and in the
callbacks after that. -/
def forwarded (inv : InvSession) (cbs : List Reentry.Callback) : List (List SipHdr) :=
  sentBetween parts (CallManager.created inv) (Reentry.invited pj inv) ++
    sentAlong parts pj n (Reentry.invited pj inv) cbs

theorem sentBetween_of_same {x y : LiveCall} (h : x.core.SameInvites y.core) :
    sentBetween parts x y = [] := by
  have hsame : invitesOf y.core.log = invitesOf x.core.log := h
  rw [sentBetween, hsame, List.drop_length]
  rfl

theorem sentAlong_settled {L : List InvCall} {x : LiveCall}
    (h : Reentry.Holds (SetupActions.Settled L) x) (cbs : List Reentry.Callback) :
    sentAlong parts pj n x cbs = [] := by
  have hstep : ∀ {x : LiveCall} (cb : Reentry.Callback),
      Reentry.Holds (SetupActions.Settled L) x →
      Reentry.Holds (SetupActions.Settled L) (Reentry.deliver pj n x cb) ∧
        sentBetween parts x (Reentry.deliver pj n x cb) = [] := by
    intro x cb hx
    have hnext := Reentry.deliver_holds (Reentry.settled_rule pj.env L) n hx cb
    exact ⟨hnext, sentBetween_of_same parts (hnext.quiet.invites.trans hx.quiet.invites.symm)⟩
  induction cbs generalizing x with
  | nil => rfl
  | cons cb cbs ih =>
    obtain ⟨hnext, hnone⟩ := hstep cb h
    cases cb with
    | callError => exact hnone
    | _ =>
      rw [sentAlong, hnone, ih hnext]
      · rfl
      · simp

/-- All INVITEs of a call are stamped from the request it was created for. -/
theorem forwarded_eq (inv : InvSession) (cbs : List Reentry.Callback) :
    forwarded parts pj n inv cbs = (invitesOf (Reentry.invited pj inv).core.log).map fun call =>
      stampInvite (some parts.maxFwd) parts.replacement (parts.built call) := by
  obtain ⟨L, -, hsettled⟩ := SetupActions.invited_settled pj.env inv
  rw [forwarded, sentAlong_settled parts pj n (x := Reentry.invited pj inv) hsettled, List.append_nil]
  rfl

theorem forwarded_countsDown (hparts : parts.Sound) (h : parts.maxFwd ≠ some 0)
    (inv : InvSession) (cbs : List Reentry.Callback) :
    (forwarded parts pj n inv cbs).length ≤ 1 ∧
      ∀ msg ∈ forwarded parts pj n inv cbs, CountsDown parts.maxFwd msg := by
  rw [forwarded_eq]
  refine ⟨?_, ?_⟩
  · rw [List.length_map]
    exact (Reentry.run_invites pj n inv cbs).1
  · intro msg hmsg
    obtain ⟨call, -, rfl⟩ := List.mem_map.mp hmsg
    exact stampInvite_countsDown h _ (hparts call)

end Sending

/-! ### Refusals -/

/-- `create_call` gets to look at the hops: no earlier check has refused the request, and
it is not taken for a retransmission. -/
def Examined (req : RxRequest) (m : CallManager) : Prop :=
  MessageRouter.Resolvable req m ∧ req.callId ≠ "" ∧ m.findByCallId req.callId = none ∧
    req.inviteVerified = true

/-- An INVITE without hops creates no session. -/
theorem createCall_exhausted (responds : Bool) {req : RxRequest} (m : CallManager)
    (h : req.maxForwards = some 0) : (createCall responds req m).2 = none := by
  rw [createCall]
  split
  · rfl
  · split_ifs <;> rfl

theorem createCall_examined (responds : Bool) {req : RxRequest} {m : CallManager}
    (h : req.maxForwards = some 0) (hexamined : Examined req m) :
    createCall responds req m = (respondStateless responds 483, none) := by
  obtain ⟨hresolvable, hcallId, hnew, hverified⟩ := hexamined
  obtain ⟨target, htarget⟩ := (MessageRouter.resolvable_iff req m).mp hresolvable
  rw [createCall, htarget]
  dsimp only
  rw [if_neg hcallId, if_neg (by simp [hnew]), if_neg (by simp [hverified]), if_pos h]

/-- `start` gets to look at the hops. -/
def ReferExamined (pj : Pjsip) (x : LiveCall) (refer : Refer) : Prop :=
  (x.refer.inboundSub || x.refer.outboundSub) = false ∧ pj.hasModuleId = true ∧
    refer.referTo.isOk = true ∧ refer.referredBy.length ≤ 1

theorem refusal_exhausted (pj : Pjsip) (leg : Leg) {x : LiveCall} {refer : Refer}
    (hpending : x.refer.pendingRequest = some refer.request) (h : refer.maxFwd = some 0) :
    ∃ code, Reentry.refusal pj leg x = some code ∧ (ReferExamined pj x refer → code = 483) := by
  rw [Reentry.refusal]
  by_cases hmodule : pj.hasModuleId = true
  · rw [if_neg (by simp [hmodule]), hpending]
    dsimp only [Refer.request]
    cases hreferTo : refer.referTo with
    | error code =>
      refine ⟨code, rfl, ?_⟩
      rintro ⟨-, -, hok, -⟩
      rw [hreferTo] at hok
      cases hok
    | ok target =>
      by_cases hrepeated : 1 < refer.referredBy.length
      · refine ⟨400, by simp [hrepeated], ?_⟩
        rintro ⟨-, -, -, hone⟩
        omega
      · exact ⟨483, by simp [hrepeated, h], fun _ => rfl⟩
  · refine ⟨500, if_pos (by simpa using hmodule), ?_⟩
    rintro ⟨-, hex, -⟩
    exact absurd hex hmodule

/-- A REFER without hops is refused: PJSIP is asked for nothing. -/
theorem start_exhausted (pj : Pjsip) (sig : Signal → LiveCall → LiveCall) (leg : Leg)
    {x : LiveCall} {refer : Refer} (hpending : x.refer.pendingRequest = some refer.request)
    (h : refer.maxFwd = some 0) :
    ∃ code, (Reentry.start pj sig leg x).2 = false ∧
      (Reentry.start pj sig leg x).1.core = x.core ∧
      (Reentry.start pj sig leg x).1.refer.responses = x.refer.responses ++ [code] ∧
      (ReferExamined pj x refer → code = 483) := by
  rw [Reentry.start]
  split
  · next hbusy =>
    refine ⟨491, rfl, rfl, rfl, ?_⟩
    rintro ⟨hfree, -⟩
    rw [hfree] at hbusy
    cases hbusy
  · obtain ⟨code, hcode, hexamined⟩ := refusal_exhausted pj leg
      (x := { x with refer := { x.refer with resultDelivered := false } }) hpending h
    dsimp only
    rw [hcode]
    exact ⟨code, rfl, rfl, rfl, hexamined⟩

/-! ### Chains -/

/-- PJSIP reads the header of a message that has one. -/
def Arrives (msg : List SipHdr) (req : RxRequest) : Prop :=
  ∀ value, maxForwardsOf msg = [value] → req.maxForwards = some value

/-- An instance of the engine takes `req` on, and an INVITE it sends for it arrives as
`next`. -/
inductive Hop (req next : RxRequest) : Prop
  | forwarded {responds : Bool} {responses : List ℤ} {m m' : CallManager} {session : CallSession}
      {parts : InviteParts} {n : ℕ} {cbs : List Reentry.Callback} {msg : List SipHdr}
      (hcall : createCall responds req m = (responses, some m'))
      (hsession : m'.objects m.nextSession = some session)
      (hmaxFwd : parts.maxFwd = req.maxForwards) (hparts : parts.Sound)
      (hsent : msg ∈ forwarded parts session.pj n req.inv cbs) (harrives : Arrives msg next)

theorem Hop.hops_lt {req next : RxRequest} (h : Hop req next) :
    (hops next.maxForwards).toNat < (hops req.maxForwards).toNat := by
  cases h with
  | @forwarded responds _ m _ _ parts n cbs msg hcall _ hmaxFwd hparts hsent harrives =>
    have hleft : parts.maxFwd ≠ some 0 := by
      intro hzero
      have hnone := createCall_exhausted responds m (hmaxFwd ▸ hzero)
      rw [hcall] at hnone
      cases hnone
    obtain ⟨value, hvalue, hless⟩ :=
      (forwarded_countsDown parts _ n hparts hleft req.inv cbs).2 msg hsent
    rw [harrives value hvalue, ← hmaxFwd, ← hless]
    exact Nat.lt_succ_self _

/-- A chain along which a rank decreases is no longer than the rank of its head. -/
theorem chain_length_le {α : Type*} {r : α → α → Prop} {rank : α → ℕ}
    (hr : ∀ a b, r a b → rank b < rank a) (a : α) (l : List α) (h : (a :: l).IsChain r) :
    l.length ≤ rank a := by
  induction l generalizing a with
  | nil => exact Nat.zero_le _
  | cons b l ih =>
    obtain ⟨hab, hl⟩ := List.isChain_cons_cons.mp h
    exact (Nat.succ_le_succ (ih b hl)).trans (hr a b hab)

/-- **Hops run out.**  An INVITE or a REFER with a Max-Forwards of zero is refused and
nothing is sent on, with 483 if the check for it is reached.  Of any other INVITE at most
one goes on, in any run of its call; it has one Max-Forwards header, with a value one less,
and so has a REFER that goes on.  A chain of INVITEs, each of which arrived after an
engine had sent it on for the one before, has at most one more than the first has hops. -/
theorem hops_counted :
    (∀ responds req m, req.maxForwards = some 0 → (createCall responds req m).2 = none ∧
      (Examined req m → createCall responds req m = (respondStateless responds 483, none))) ∧
    (∀ responds req m, (createCall responds req m).2.isSome → ∀ (parts : InviteParts) pj n cbs,
      parts.maxFwd = req.maxForwards → parts.Sound →
        (forwarded parts pj n req.inv cbs).length ≤ 1 ∧
        ∀ msg ∈ forwarded parts pj n req.inv cbs, CountsDown req.maxForwards msg) ∧
    (∀ pj sig leg x (refer : Refer), x.refer.pendingRequest = some refer.request →
      refer.maxFwd = some 0 → ∃ code, (Reentry.start pj sig leg x).2 = false ∧
        (Reentry.start pj sig leg x).1.core = x.core ∧
        (Reentry.start pj sig leg x).1.refer.responses = x.refer.responses ++ [code] ∧
        (ReferExamined pj x refer → code = 483)) ∧
    (∀ pj leg x (refer : Refer) built, x.refer.pendingRequest = some refer.request →
      Reentry.refusal pj leg x = none → (maxForwardsOf built).length ≤ 1 →
        CountsDown refer.maxFwd (stampRefer refer built)) ∧
    ∀ req reqs, (req :: reqs).IsChain Hop →
      (req :: reqs).length ≤ (hops req.maxForwards).toNat + 1 := by
  refine ⟨?_, ?_, ?_, ?_, ?_⟩
  · intro responds req m h
    exact ⟨createCall_exhausted responds m h, createCall_examined responds h⟩
  · intro responds req m hcall parts pj n cbs hmaxFwd hparts
    rw [← hmaxFwd]
    refine forwarded_countsDown parts pj n hparts ?_ req.inv cbs
    intro hzero
    rw [createCall_exhausted responds m (hmaxFwd ▸ hzero)] at hcall
    cases hcall
  · intro pj sig leg x refer
    exact start_exhausted pj sig leg
  · intro pj leg x refer built hpending haccepted
    refine stampRefer_countsDown ?_
    intro hzero
    obtain ⟨code, hcode, -⟩ := refusal_exhausted pj leg hpending hzero
    rw [haccepted] at hcode
    cases hcode
  · intro req reqs h
    have hlt : ∀ a b : RxRequest, Hop a b →
        (hops b.maxForwards).toNat < (hops a.maxForwards).toNat := fun _ _ => Hop.hops_lt
    exact Nat.succ_le_succ (chain_length_le hlt req reqs h)

/-! ### Phones -/

/-- An engine without calls. -/
def idleManager : CallManager := CallManager.initial true none 0

/-- The INVITE of a phone, with so many hops left. -/
def phoneInvite (callId : String) (maxFwd : Option UInt32) : RxRequest :=
  { MessageRouter.phoneRequest "INVITE" callId with maxForwards := maxFwd }

/-- PJSIP puts no Max-Forwards header into the INVITE. -/
def phoneParts (maxFwd : Option UInt32) : InviteParts where
  maxFwd := maxFwd
  replacement := none
  built _ := [.other "Contact" "sip:engine"]

theorem phoneParts_sound (maxFwd : Option UInt32) : (phoneParts maxFwd).Sound :=
  fun _ => Nat.zero_le 1

/-- An INVITE without the header goes on with 69, and arrives at another engine. -/
theorem phone_hop : Hop (phoneInvite "a" none) (phoneInvite "b" (some 69)) := by
  have hcall : createCall true (phoneInvite "a" none) idleManager =
      ([], some (idleManager.opened (inviteOf (phoneInvite "a" none)) none)) := rfl
  have hsent : [.other "Contact" "sip:engine", .maxForwards 69] ∈
      forwarded (phoneParts none) (Reentry.phonePjsip 100) 1 phoneInv [] := by
    decide +kernel
  refine .forwarded hcall rfl rfl (phoneParts_sound none) hsent ?_
  intro value hvalue
  have h69 : (69 : UInt32) = value := List.head_eq_of_cons_eq hvalue
  exact congrArg some h69

/-- A call with a REFER that has no hops left. -/
def exhaustedRefer (busy : Bool) : LiveCall :=
  { Reentry.invited (Reentry.phonePjsip 100) phoneInv with
    refer := { ReferHandler.idle with
      inboundSub := busy
      pendingRequest := some
        ({ referTo := .ok "sip:b@example.org", referredBy := [], maxFwd := some 0 } : Refer).request } }

/-- The largest value is passed on as one less, zero is refused, and the two INVITEs of
`phone_hop` are within the bound. -/
theorem hops_counted_phones :
    (∀ msg ∈ forwarded (phoneParts (some 4294967295)) (Reentry.phonePjsip 100) 1 phoneInv [],
      CountsDown (some 4294967295) msg) ∧
    createCall true (phoneInvite "a" (some 0)) idleManager = ([483], none) ∧
    (Reentry.start (Reentry.phonePjsip 100) (fun _ x => x) .caller (exhaustedRefer false)).2 = false ∧
    [phoneInvite "a" none, phoneInvite "b" (some 69)].length ≤ 71 := by
  obtain ⟨hrefused, hforwarded, hrefer, -, hchain⟩ := hops_counted
  refine ⟨?_, ?_, ?_, ?_⟩
  · exact (hforwarded true (phoneInvite "a" (some 4294967295)) idleManager rfl _ _ 1 [] rfl
      (phoneParts_sound _)).2
  · exact (hrefused true (phoneInvite "a" (some 0)) idleManager rfl).2
      ⟨by simp [MessageRouter.Resolvable, phoneInvite, MessageRouter.phoneRequest],
        by decide, rfl, rfl⟩
  · obtain ⟨_, hstart, -⟩ := hrefer (Reentry.phonePjsip 100) (fun _ x => x) .caller
      (exhaustedRefer false) _ rfl rfl
    exact hstart
  · exact hchain _ [phoneInvite "b" (some 69)] (by simpa using phone_hop)

/-- **Zero hops, and another response.**  An INVITE whose Replaces header has not one tag of
each kind is refused for that, and a REFER in the middle of a transfer for the transfer. -/
theorem exhausted_refused_otherwise :
    let untagged := { phoneInvite "a" (some 0) with
      replaces := some { singleDialogTags := false, earlyOnly := false } }
    untagged.maxForwards = some 0 ∧ createCall true untagged idleManager = ([400], none) ∧
      (Reentry.start (Reentry.phonePjsip 100) (fun _ x => x) .caller
        (exhaustedRefer true)).1.refer.responses = [491] :=
  ⟨rfl, rfl, rfl⟩

end MaxForwards

end SbcEngine
