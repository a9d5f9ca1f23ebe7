/-
The relay loop of the media bridge.

Each direction of a call is a loop of its own: receive a packet on one leg, send
it on the other, receive again.  Everything runs on one executor, as tasks that
the SIP thread posts (`Task`) and completions of the operations the loop has
started; which comes when is not up to the bridge.

* `listen`, `sendCompletion`, `processPacket` — the places a direction goes on
  from;
* `armPendingLegs` — the two places it is started from;
* `Turns` — what one task or completion can do to a direction;
* `Looping` — how the flags and the operations of a direction fit together;
* `relay_loop` — over every run: at most one operation a direction, exactly one
  while it is armed, no receive after `close`, and no direction left unarmed.

Design notes: an operation is listed from the call that starts it until its
completion is taken from the executor, so a completion that was posted at once
(a receive on a closed socket) counts as outstanding.  A packet is its payload
type, marker and payload; the sequence numbers and timestamps a transcoded
stream writes are not part of the loop.
-/
import SbcEngine.CallSession
import SbcEngine.Runs

namespace SbcEngine

/-- Identifies a socket of the bridge, and the direction that receives on it. -/
inductive RelayLeg where
  | legA
  | legB
  deriving DecidableEq, Repr

def RelayLeg.opposite : RelayLeg → RelayLeg
  | .legA => .legB
  | .legB => .legA

inductive RelayOp where
  | receive
  | send
  deriving DecidableEq, Repr

inductive ErrorCode where
  | operationAborted
  | fixedBufferTooSmall
  | other (value : ℤ)
  deriving DecidableEq, Repr

structure RtpPacket where
  payloadType : UInt8
  marker : Bool
  payload : List UInt8
  deriving DecidableEq, Repr

/-! ### Telephone events -/

inductive DtmfRelayOutcome where
  | notDtmf
  | dropUnmapped
  | relay (payloadType : UInt8)
  deriving DecidableEq, Repr

def relayDtmfPt (pkt : RtpPacket) (srcDtmfPt dstDtmfPt : Option UInt8) : DtmfRelayOutcome :=
  match srcDtmfPt with
  | none => .notDtmf
  | some src =>
    if pkt.payloadType ≠ src then .notDtmf
    else
      match dstDtmfPt with
      | none => .dropUnmapped
      | some dst => .relay dst

/-- The packet is rewritten in place. -/
def DtmfRelayOutcome.rewrite (pkt : RtpPacket) : DtmfRelayOutcome → RtpPacket
  | .relay payloadType => { pkt with payloadType := payloadType }
  | _ => pkt

namespace RelayLoop

/-! ### The state -/

/-- What the loop takes from its libraries; `T` is the state of a transcoder. -/
structure Lib (T : Type) where
  /-- The text is an IP address. -/
  makeAddress : String → Bool
  /-- One payload that was received on a leg, encoded for the other one. -/
  transcode : RelayLeg → List UInt8 → T → T × Option (List UInt8)

structure TranscodeSession (T : Type) where
  transcoder : T
  /-- The audio payload type of the stream towards a leg. -/
  audioPayloadType : RelayLeg → UInt8

/-- The buffers the operations of the loop work in. -/
inductive Buffer where
  /-- `rx_buffer_` of a leg's receiver. -/
  | rx (leg : RelayLeg)
  /-- `send_buffer_` of the stream for packets that came in on a leg. -/
  | stream (src : RelayLeg)
  deriving DecidableEq, Repr

/-- An asynchronous operation of the direction that receives on `src`. -/
inductive Operation where
  | receive (src : RelayLeg)
  /-- The packet is sent from the buffer it was received in. -/
  | sendRaw (src : RelayLeg) (pkt : RtpPacket) (dst : Option RtpEndpoint)
  | sendStream (src : RelayLeg) (pkt : RtpPacket) (dst : Option RtpEndpoint)
  deriving DecidableEq, Repr

def Operation.buffer : Operation → Buffer
  | .receive src => .rx src
  | .sendRaw src _ _ => .rx src
  | .sendStream src _ _ => .stream src

def Operation.isSend : Operation → Bool
  | .receive _ => false
  | _ => true

structure Impl (T : Type) where
  dest : RelayLeg → Option RtpEndpoint
  flow : RelayLeg → LegFlow
  dtmfPt : RelayLeg → Option UInt8
  transcodeSession : Option (TranscodeSession T)
  closing : Bool
  loopStarted : Bool
  rxArmed : RelayLeg → Bool
  /-- The operations of each direction that have not completed. -/
  inFlight : RelayLeg → List Operation
  /-- How many receives each direction has started. -/
  receives : RelayLeg → ℕ
  /-- What the error handler was called with, if there is one. -/
  errors : List (RelayLeg × RelayOp × ErrorCode)

variable {T : Type}

/-- A bridge whose loop has not been started, with any remote addresses, codecs
and flows. -/
structure Impl.Unstarted (b : Impl T) : Prop where
  closing : b.closing = false
  loopStarted : b.loopStarted = false
  rxArmed : ∀ src, b.rxArmed src = false
  inFlight : ∀ src, b.inFlight src = []

namespace Impl

/-! ### The loop -/

def relayAllowed (src : RelayLeg) (b : Impl T) : Bool :=
  (b.flow src).canSend && (b.flow src.opposite).canReceive

def report (leg : RelayLeg) (operation : RelayOp) (err : ErrorCode) (b : Impl T) : Impl T :=
  { b with errors := b.errors ++ [(leg, operation, err)] }

/-- Start an operation of the direction that receives on `src`. -/
def begin (src : RelayLeg) (operation : Operation) (b : Impl T) : Impl T :=
  { b with inFlight := fun l => if l = src then b.inFlight l ++ [operation] else b.inFlight l }

/-- `async_receive_pkt`, with the loop's handler. -/
def listen (src : RelayLeg) (b : Impl T) : Impl T :=
  { b.begin src (.receive src) with
    receives := fun l => if l = src then b.receives l + 1 else b.receives l }

/-- The completion handler of every send. -/
def sendCompletion (src : RelayLeg) (sendErr : Option ErrorCode) (b : Impl T) : Impl T :=
  if b.closing then b
  else
    match sendErr with
    | none => b.listen src
    | some .operationAborted => b
    | some err => (b.report src.opposite .send err).listen src

/-- `send_as`: a payload that does not fit fails at once, inside the call. -/
def sendAs (src : RelayLeg) (payloadType : UInt8) (payload : List UInt8) (marker : Bool)
    (dst : Option RtpEndpoint) (b : Impl T) : Impl T :=
  -- kFixedRtpHeaderSize and kMaxRtpPacketSize
  if payload.length + 12 > 1500 then b.sendCompletion src (some .fixedBufferTooSmall)
  else
    let pkt := { payloadType := payloadType, marker := marker, payload := payload }
    b.begin src (.sendStream src pkt dst)

/-- Relay a packet, or drop it and receive the next one. -/
def processPacket (L : Lib T) (src : RelayLeg) (pkt : RtpPacket) (b : Impl T) : Impl T :=
  if b.relayAllowed src then
    let dtmf := relayDtmfPt pkt (b.dtmfPt src) (b.dtmfPt src.opposite)
    let pkt := dtmf.rewrite pkt
    -- the loop holds the destination by reference, so a later one counts
    let dst := b.dest src.opposite
    if dtmf = .dropUnmapped then b.listen src
    else
      match b.transcodeSession with
      | none => b.begin src (.sendRaw src pkt dst)
      | some session =>
        match dtmf with
        | .relay payloadType => b.sendAs src payloadType pkt.payload pkt.marker dst
        | _ =>
          let r := L.transcode src pkt.payload session.transcoder
          let b := { b with transcodeSession := some { session with transcoder := r.1 } }
          match r.2 with
          | none => b.listen src
          | some encoded => b.sendAs src (session.audioPayloadType src.opposite) encoded false dst
  else b.listen src

/-- The completion handler of every receive. -/
def received (L : Lib T) (src : RelayLeg) (result : Except ErrorCode RtpPacket) (b : Impl T) :
    Impl T :=
  if b.closing then b
  else
    match result with
    | .error .operationAborted => b
    | .error err => (b.report src .receive err).listen src
    | .ok pkt => b.processPacket L src pkt

/-- Arm one direction, if its destination is known and it is not armed. -/
def armLeg (src : RelayLeg) (b : Impl T) : Impl T :=
  if !b.rxArmed src && (b.dest src.opposite).isSome then
    { b with rxArmed := fun l => if l = src then true else b.rxArmed l }.listen src
  else b

def armPendingLegs (b : Impl T) : Impl T :=
  if !b.loopStarted || b.closing then b else (b.armLeg .legA).armLeg .legB

end Impl

/-! ### Tasks and completions -/

/-- A posted task, or the completion of an operation. -/
inductive Task (T : Type) where
  | startBridgeLoop
  | retargetRemoteLeg (leg : RelayLeg) (addr : String) (port : ℕ)
  | configureLegs (session : Option (TranscodeSession T)) (dtmfPt : RelayLeg → Option UInt8)
  | setLegMediaFlow (leg : RelayLeg) (flow : LegFlow)
  | close
  | received (src : RelayLeg) (result : Except ErrorCode RtpPacket)
  | sent (src : RelayLeg) (err : Option ErrorCode)

/-- The operation a completion is of is no longer outstanding. -/
def Impl.complete (src : RelayLeg) (operation : Operation) (b : Impl T) : Impl T :=
  { b with inFlight := fun l => if l = src then (b.inFlight l).erase operation else b.inFlight l }

/-- The executor runs one task; a completion needs an operation it is of. -/
def step (L : Lib T) (b : Impl T) : Task T → Option (Impl T)
  | .startBridgeLoop =>
    some (if b.loopStarted || b.closing then b else { b with loopStarted := true }.armPendingLegs)
  | .retargetRemoteLeg leg addr port =>
    -- `make_address` throws, before anything is assigned
    some (if L.makeAddress addr then
      { b with dest := fun l => if l = leg then some { ip := addr, port := port } else b.dest l
        }.armPendingLegs
      else b)
  | .configureLegs session dtmfPt =>
    some { b with dtmfPt := dtmfPt, transcodeSession := session }
  | .setLegMediaFlow leg flow =>
    some { b with flow := fun l => if l = leg then flow else b.flow l }
  | .close => some { b with closing := true }
  | .received src result =>
    if .receive src ∈ b.inFlight src then
      some ((b.complete src (.receive src)).received L src result)
    else none
  | .sent src err =>
    match (b.inFlight src).find? (·.isSend) with
    | some operation => some ((b.complete src operation).sendCompletion src err)
    | none => none

/-! ### What one turn of the loop does -/

/-- From `b` to `b'` nothing about the loop changed. -/
structure SameLoop (b b' : Impl T) : Prop where
  inFlight : b'.inFlight = b.inFlight
  receives : b'.receives = b.receives
  closing : b'.closing = b.closing
  loopStarted : b'.loopStarted = b.loopStarted
  rxArmed : b'.rxArmed = b.rxArmed
  dest : b'.dest = b.dest

namespace Impl

/-- From `b` to `b'` the direction that receives on `src` has started one
operation, in a buffer of its own, and nothing else about the loop changed. -/
structure Continues (src : RelayLeg) (b b' : Impl T) : Prop where
  inFlight : ∃ op : Operation, (op.buffer = .rx src ∨ op.buffer = .stream src) ∧
    b'.inFlight = fun l => if l = src then b.inFlight l ++ [op] else b.inFlight l
  closing : b'.closing = b.closing
  loopStarted : b'.loopStarted = b.loopStarted
  rxArmed : b'.rxArmed = b.rxArmed
  dest : b'.dest = b.dest

theorem begin_continues {src : RelayLeg} {op : Operation}
    (hop : op.buffer = .rx src ∨ op.buffer = .stream src) (b : Impl T) :
    Continues src b (b.begin src op) :=
  ⟨⟨op, hop, rfl⟩, rfl, rfl, rfl, rfl⟩

theorem listen_continues (src : RelayLeg) (b : Impl T) : Continues src b (b.listen src) :=
  ⟨⟨.receive src, .inl rfl, rfl⟩, rfl, rfl, rfl, rfl⟩

/-- Errors are reported on the side. -/
theorem report_listen_continues (src leg : RelayLeg) (operation : RelayOp) (err : ErrorCode)
    (b : Impl T) : Continues src b ((b.report leg operation err).listen src) :=
  ⟨⟨.receive src, .inl rfl, rfl⟩, rfl, rfl, rfl, rfl⟩

/-- A direction goes on after a send, unless the bridge closes or the send was
aborted. -/
theorem sendCompletion_cases (src : RelayLeg) (sendErr : Option ErrorCode) (b : Impl T) :
    ((b.closing = true ∨ sendErr = some .operationAborted) ∧ b.sendCompletion src sendErr = b) ∨
      (b.closing = false ∧ Continues src b (b.sendCompletion src sendErr)) := by
  cases hclosing : b.closing with
  | true => exact .inl ⟨.inl rfl, by simp [sendCompletion, hclosing]⟩
  | false =>
    unfold sendCompletion
    rw [hclosing, if_neg Bool.false_ne_true]
    split
    · exact .inr ⟨rfl, listen_continues src b⟩
    · exact .inl ⟨.inr rfl, rfl⟩
    · next err _ => exact .inr ⟨rfl, report_listen_continues src src.opposite .send err b⟩

theorem sendAs_continues {src : RelayLeg} (payloadType : UInt8) (payload : List UInt8)
    (marker : Bool) (dst : Option RtpEndpoint) {b : Impl T} (h : b.closing = false) :
    Continues src b (b.sendAs src payloadType payload marker dst) := by
  rw [sendAs]
  split
  · -- the callback runs at once, and receives again
    rcases sendCompletion_cases src (some .fixedBufferTooSmall) b with ⟨habs, -⟩ | ⟨-, hgo⟩
    · simp [h] at habs
    · exact hgo
  · exact begin_continues (.inr rfl) b

theorem Continues.of_same {src : RelayLeg} {b c b' : Impl T} (hgo : Continues src c b')
    (h : SameLoop b c) : Continues src b b' where
  inFlight := h.inFlight ▸ hgo.inFlight
  closing := hgo.closing.trans h.closing
  loopStarted := hgo.loopStarted.trans h.loopStarted
  rxArmed := hgo.rxArmed.trans h.rxArmed
  dest := hgo.dest.trans h.dest

/-- Every path of a packet ends in one operation. -/
theorem processPacket_continues (L : Lib T) (src : RelayLeg) (pkt : RtpPacket) {b : Impl T}
    (h : b.closing = false) : Continues src b (b.processPacket L src pkt) := by
  rw [processPacket]
  split
  · dsimp only
    split
    · exact listen_continues src b
    · split
      · exact begin_continues (.inl rfl) b
      · split
        · exact sendAs_continues _ _ _ _ h
        · -- a transcoder that has done its work is no part of the loop
          split
          · exact Continues.of_same (listen_continues src _) ⟨rfl, rfl, rfl, rfl, rfl, rfl⟩
          · refine Continues.of_same (sendAs_continues _ _ _ _ ?_) ⟨rfl, rfl, rfl, rfl, rfl, rfl⟩
            exact h
  · exact listen_continues src b

/-- A direction goes on after a receive under the same conditions. -/
theorem received_cases (L : Lib T) (src : RelayLeg) (result : Except ErrorCode RtpPacket)
    (b : Impl T) :
    ((b.closing = true ∨ result = .error .operationAborted) ∧ b.received L src result = b) ∨
      (b.closing = false ∧ Continues src b (b.received L src result)) := by
  cases hclosing : b.closing with
  | true => exact .inl ⟨.inl rfl, by simp [received, hclosing]⟩
  | false =>
    unfold received
    rw [hclosing, if_neg Bool.false_ne_true]
    split
    · exact .inl ⟨.inr rfl, rfl⟩
    · next err _ => exact .inr ⟨rfl, report_listen_continues src src .receive err b⟩
    · next pkt => exact .inr ⟨rfl, processPacket_continues L src pkt hclosing⟩

end Impl

/-- The completion of an operation of this direction says that it was aborted. -/
def Aborts (src : RelayLeg) : Task T → Prop
  | .received l result => l = src ∧ result = .error .operationAborted
  | .sent l err => l = src ∧ err = some .operationAborted
  | _ => False

/-- What a task or completion can do to the loop. -/
inductive Turns (b : Impl T) : Task T → Impl T → Prop
  /-- Codecs and flows, and tasks that come too late or throw. -/
  | same {e : Task T} {b' : Impl T} (h : SameLoop b b') (hclose : e ≠ .close)
      (hstart : e = .startBridgeLoop → b.loopStarted = true ∨ b.closing = true) : Turns b e b'
  | closed : Turns b .close { b with closing := true }
  | started (hopen : b.closing = false) :
      Turns b .startBridgeLoop { b with loopStarted := true }.armPendingLegs
  | retargeted (leg : RelayLeg) (endpoint : RtpEndpoint) :
      Turns b (.retargetRemoteLeg leg endpoint.ip endpoint.port)
        { b with dest := fun l => if l = leg then some endpoint else b.dest l }.armPendingLegs
  /-- A direction ends. -/
  | stopped {e : Task T} (src : RelayLeg) (op : Operation) (hop : op ∈ b.inFlight src)
      (hstop : b.closing = true ∨ Aborts src e) (hclose : e ≠ .close) (hstart : e ≠ .startBridgeLoop) :
      Turns b e (b.complete src op)
  /-- A direction goes on. -/
  | continued {e : Task T} {b' : Impl T} (src : RelayLeg) (op : Operation)
      (hop : op ∈ b.inFlight src) (hopen : b.closing = false)
      (hgo : Impl.Continues src (b.complete src op) b') (hclose : e ≠ .close)
      (hstart : e ≠ .startBridgeLoop) : Turns b e b'

theorem step_turns (L : Lib T) {b b' : Impl T} {e : Task T} (h : step L b e = some b') :
    Turns b e b' := by
  have hrefl : SameLoop b b := ⟨rfl, rfl, rfl, rfl, rfl, rfl⟩
  cases e with
  | startBridgeLoop =>
    cases h
    split
    · next hlate => exact .same hrefl (by simp) fun _ => by simpa using hlate
    · next hnow =>
      simp only [Bool.or_eq_true, not_or, Bool.not_eq_true] at hnow
      exact .started hnow.2
  | retargetRemoteLeg leg addr port =>
    cases h
    split
    · exact .retargeted leg { ip := addr, port := port }
    · exact .same hrefl (by simp) (by simp)
  | configureLegs session dtmfPt =>
    cases h
    exact .same ⟨rfl, rfl, rfl, rfl, rfl, rfl⟩ (by simp) (by simp)
  | setLegMediaFlow leg flow =>
    cases h
    exact .same ⟨rfl, rfl, rfl, rfl, rfl, rfl⟩ (by simp) (by simp)
  | close =>
    cases h
    exact .closed
  | received src result =>
    simp only [step] at h
    split at h
    · next hop =>
      cases h
      rcases Impl.received_cases L src result (b.complete src (.receive src)) with
        ⟨hstop, hsame⟩ | ⟨hopen, hgo⟩
      · rw [hsame]
        exact .stopped src _ hop (hstop.imp_right fun hr => ⟨rfl, hr⟩) (by simp) (by simp)
      · exact .continued src _ hop hopen hgo (by simp) (by simp)
    · cases h
  | sent src err =>
    simp only [step] at h
    split at h
    · next op hfind =>
      have hop := List.mem_of_find?_eq_some hfind
      cases h
      rcases Impl.sendCompletion_cases src err (b.complete src op) with ⟨hstop, hsame⟩ | ⟨hopen, hgo⟩
      · rw [hsame]
        exact .stopped src op hop (hstop.imp_right fun hr => ⟨rfl, hr⟩) (by simp) (by simp)
      · exact .continued src op hop hopen hgo (by simp) (by simp)
    · cases h

/-! ### Arming -/

namespace Impl

theorem armLeg_spec (src : RelayLeg) (b : Impl T) :
    (b.armLeg src).closing = b.closing ∧ (b.armLeg src).loopStarted = b.loopStarted ∧
      (b.armLeg src).dest = b.dest ∧
      (∀ l, (b.armLeg src).rxArmed l =
        (b.rxArmed l || decide (l = src) && (b.dest src.opposite).isSome)) ∧
      ∀ l, (b.armLeg src).inFlight l = b.inFlight l ++
        if decide (l = src) && (!b.rxArmed l && (b.dest l.opposite).isSome) then [.receive l] else [] := by
  rw [armLeg]
  split
  · next hpending =>
    refine ⟨rfl, rfl, rfl, fun l => ?_, fun l => ?_⟩
    · by_cases hl : l = src
      · simp_all [listen, begin]
      · simp [listen, begin, hl]
    · by_cases hl : l = src
      · subst hl
        simp [listen, begin, hpending]
      · simp [listen, begin, hl]
  · next hnot =>
    refine ⟨rfl, rfl, rfl, fun l => ?_, fun l => ?_⟩
    · by_cases hl : l = src
      · subst hl
        cases harmed : b.rxArmed l <;> simp_all
      · simp [hl]
    · by_cases hl : l = src
      · subst hl
        simp [hnot]
      · simp [hl]

/-- Both directions are armed whose destination is known. -/
theorem armPendingLegs_spec {b : Impl T} (hstarted : b.loopStarted = true)
    (hopen : b.closing = false) :
    b.armPendingLegs.closing = false ∧ b.armPendingLegs.loopStarted = true ∧
      b.armPendingLegs.dest = b.dest ∧
      (∀ l, b.armPendingLegs.rxArmed l = (b.rxArmed l || (b.dest l.opposite).isSome)) ∧
      ∀ l, b.armPendingLegs.inFlight l = b.inFlight l ++
        if !b.rxArmed l && (b.dest l.opposite).isSome then [.receive l] else [] := by
  obtain ⟨hclosingA, hstartedA, hdestA, harmedA, hflightA⟩ := armLeg_spec .legA b
  obtain ⟨hclosingB, hstartedB, hdestB, harmedB, hflightB⟩ := armLeg_spec .legB (b.armLeg .legA)
  rw [armPendingLegs, if_neg (by simp [hstarted, hopen])]
  refine ⟨?_, ?_, hdestB.trans hdestA, fun l => ?_, fun l => ?_⟩
  · rw [hclosingB, hclosingA, hopen]
  · rw [hstartedB, hstartedA, hstarted]
  · rw [harmedB, harmedA, hdestA]
    cases l <;> simp
  · rw [hflightB, hflightA, harmedA, hdestA]
    cases l <;> simp

theorem armPendingLegs_late {b : Impl T} (h : b.loopStarted = false ∨ b.closing = true) :
    b.armPendingLegs = b := by
  rw [armPendingLegs, if_pos (by rcases h with h | h <;> simp [h])]

end Impl

/-! ### The invariant -/

/-- How the operations of a direction and the flags fit together. -/
structure Looping (b : Impl T) (src : RelayLeg) : Prop where
  one : (b.inFlight src).length ≤ 1
  own : ∀ op ∈ b.inFlight src, op.buffer = .rx src ∨ op.buffer = .stream src
  unarmed : b.rxArmed src = false → b.inFlight src = []
  unstarted : b.loopStarted = false → b.rxArmed src = false

/-- A direction whose destination is known is armed while the loop runs. -/
def Armed (b : Impl T) (src : RelayLeg) : Prop :=
  b.loopStarted = true → b.closing = false → (b.dest src.opposite).isSome = true →
    b.rxArmed src = true

theorem Looping.congr {b b' : Impl T} {src : RelayLeg} (h : Looping b src)
    (hflight : b'.inFlight src = b.inFlight src) (harmed : b'.rxArmed src = b.rxArmed src)
    (hstarted : b'.loopStarted = false → b.loopStarted = false) : Looping b' src where
  one := hflight ▸ h.one
  own := hflight ▸ h.own
  unarmed := by rw [hflight, harmed]; exact h.unarmed
  unstarted hs := by rw [harmed]; exact h.unstarted (hstarted hs)

/-- The only operation of a direction has completed. -/
theorem Looping.complete_inFlight {b : Impl T} {src : RelayLeg} (h : Looping b src) {op : Operation}
    (hop : op ∈ b.inFlight src) (l : RelayLeg) :
    (b.complete src op).inFlight l = if l = src then [] else b.inFlight l := by
  rw [Impl.complete]
  split
  · next hl =>
    subst hl
    have hlength := h.one
    obtain ⟨first, hfirst⟩ := List.length_eq_one_iff.mp
      (le_antisymm hlength (List.length_pos_of_mem hop))
    rw [hfirst, List.mem_singleton] at hop
    simp [hfirst, hop]
  · next hl => exact if_neg hl

theorem armPendingLegs_looping {b : Impl T} {src : RelayLeg} (h : Looping b src) :
    Looping b.armPendingLegs src ∧ Armed b.armPendingLegs src := by
  by_cases hlate : b.loopStarted = false ∨ b.closing = true
  · rw [Impl.armPendingLegs_late hlate]
    refine ⟨h, fun hstarted hopen _ => ?_⟩
    rcases hlate with hl | hl
    · rw [hl] at hstarted
      cases hstarted
    · rw [hl] at hopen
      cases hopen
  · simp only [not_or, Bool.not_eq_false, Bool.not_eq_true] at hlate
    obtain ⟨-, hstarted, hdest, harmed, hflight⟩ := Impl.armPendingLegs_spec hlate.1 hlate.2
    constructor
    · cases ha : b.rxArmed src with
      | true =>
        refine h.congr ?_ ?_ (by simp [hstarted])
        · simp [hflight, ha]
        · simp [harmed, ha]
      | false =>
        have hnone := h.unarmed ha
        refine ⟨?_, ?_, ?_, by simp [hstarted]⟩
        · rw [hflight, hnone]
          split <;> simp
        · intro op hop
          rw [hflight, hnone] at hop
          split at hop
          · rw [List.nil_append, List.mem_singleton] at hop
            rw [hop]
            exact .inl rfl
          · simp at hop
        · intro hunarmed
          rw [harmed, ha, Bool.false_or] at hunarmed
          rw [hflight, hnone, hunarmed]
          simp
    · intro _ _ hknown
      rw [hdest] at hknown
      rw [harmed, hknown, Bool.or_true]

/-! ### One turn -/

section Turn

variable {b b' : Impl T} {e : Task T} {src : RelayLeg}

theorem Turns.closing_iff (h : Turns b e b') :
    b'.closing = true ↔ b.closing = true ∨ e = .close := by
  have harm : ∀ c : Impl T, c.armPendingLegs.closing = c.closing := by
    intro c
    rw [Impl.armPendingLegs]
    split
    · rfl
    · rw [(Impl.armLeg_spec .legB _).1, (Impl.armLeg_spec .legA c).1]
  cases h with
  | same hsame hclose => simp [hsame.closing, hclose]
  | closed => simp
  | started => simp [harm]
  | retargeted => simp [harm]
  | stopped l op hop hstop hclose => simp [Impl.complete, hclose]
  | continued l op hop hopen hgo hclose => simp [hgo.closing, Impl.complete, hclose]

theorem Turns.loopStarted (h : Turns b e b') (hopen : b.closing = false)
    (hstart : b.loopStarted = true ∨ e = .startBridgeLoop) : b'.loopStarted = true := by
  cases h with
  | same hsame hclose hlate =>
    rw [hsame.loopStarted]
    rcases hstart with hs | hs
    · exact hs
    · exact (hlate hs).resolve_right (by simp [hopen])
  | closed => simpa using hstart
  | started => exact (Impl.armPendingLegs_spec (b := { b with loopStarted := true }) rfl hopen).2.1
  | retargeted leg endpoint =>
    have hs : b.loopStarted = true := by simpa using hstart
    exact (Impl.armPendingLegs_spec (b := { b with
      dest := fun l => if l = leg then some endpoint else b.dest l }) hs hopen).2.1
  | stopped l op hop hstop hclose hne => exact hstart.resolve_right hne
  | continued l op hop hopen' hgo hclose hne =>
    rw [hgo.loopStarted]
    exact hstart.resolve_right hne

/-- The operations of a direction after a completion that let it go on. -/
theorem Impl.Continues.inFlight_eq {l : RelayLeg} {op : Operation} (h : Looping b l)
    (hop : op ∈ b.inFlight l) (hgo : Impl.Continues l (b.complete l op) b') :
    ∃ next : Operation, (next.buffer = .rx l ∨ next.buffer = .stream l) ∧
      ∀ m, b'.inFlight m = if m = l then [next] else b.inFlight m := by
  obtain ⟨next, hnext, hflight⟩ := hgo.inFlight
  refine ⟨next, hnext, fun m => ?_⟩
  rw [hflight]
  dsimp only
  split
  · next hm => rw [h.complete_inFlight hop, if_pos hm, List.nil_append]
  · next hm => rw [h.complete_inFlight hop, if_neg hm]

theorem Turns.looping (h : Turns b e b') (hb : ∀ l, Looping b l) (ha : ∀ l, Armed b l) :
    ∀ l, Looping b' l ∧ Armed b' l := by
  intro src
  have hl := hb src
  cases h with
  | same hsame =>
    refine ⟨hl.congr (by rw [hsame.inFlight]) (by rw [hsame.rxArmed])
      (by rw [hsame.loopStarted]; exact id), ?_⟩
    rw [Armed, hsame.loopStarted, hsame.closing, hsame.dest, hsame.rxArmed]
    exact ha src
  | closed => exact ⟨hl.congr rfl rfl id, fun _ hopen => absurd hopen (by simp)⟩
  | started => exact armPendingLegs_looping (hl.congr rfl rfl (by simp))
  | retargeted => exact armPendingLegs_looping (hl.congr rfl rfl id)
  | stopped l op hop =>
    have hflight := (hb l).complete_inFlight hop src
    refine ⟨⟨?_, ?_, ?_, hl.unstarted⟩, ha src⟩
    · rw [hflight]
      split
      · simp
      · exact hl.one
    · rw [hflight]
      split
      · simp
      · exact hl.own
    · intro hunarmed
      rw [hflight]
      split
      · rfl
      · exact hl.unarmed hunarmed
  | continued l op hop hopen hgo =>
    obtain ⟨next, hnext, hflight⟩ := hgo.inFlight_eq (hb l) hop
    refine ⟨⟨?_, ?_, ?_, ?_⟩, ?_⟩
    · rw [hflight]
      split
      · simp
      · exact hl.one
    · rw [hflight]
      split
      · next hsrc =>
        subst hsrc
        simpa using hnext
      · exact hl.own
    · intro hunarmed
      rw [hgo.rxArmed] at hunarmed
      have hnone := hl.unarmed hunarmed
      rw [hflight, if_neg, hnone]
      -- a direction that is not armed has nothing to complete
      rintro rfl
      rw [hnone] at hop
      cases hop
    · rw [hgo.loopStarted, hgo.rxArmed]
      exact hl.unstarted
    · rw [Armed, hgo.loopStarted, hgo.closing, hgo.dest, hgo.rxArmed]
      exact ha src

/-- An armed direction keeps its operation, unless the bridge closes or the
operation is aborted. -/
theorem Turns.active (h : Turns b e b') (hb : ∀ l, Looping b l) (hopen : b.closing = false)
    (hactive : b.rxArmed src = true → (b.inFlight src).length = 1) (hclose : e ≠ .close)
    (habort : ¬ Aborts src e) : b'.rxArmed src = true → (b'.inFlight src).length = 1 := by
  -- arming starts the first operation
  have harm : ∀ c : Impl T, c.inFlight = b.inFlight → c.rxArmed = b.rxArmed →
      c.armPendingLegs.rxArmed src = true → (c.armPendingLegs.inFlight src).length = 1 := by
    intro c hflight hrx harmed
    by_cases hlate : c.loopStarted = false ∨ c.closing = true
    · rw [Impl.armPendingLegs_late hlate] at harmed ⊢
      rw [hflight]
      exact hactive (hrx ▸ harmed)
    · simp only [not_or, Bool.not_eq_false, Bool.not_eq_true] at hlate
      obtain ⟨-, -, -, harmed', hflight'⟩ := Impl.armPendingLegs_spec hlate.1 hlate.2
      rw [harmed', hrx] at harmed
      rw [hflight', hrx, hflight]
      cases ha : b.rxArmed src with
      | true => simpa using hactive ha
      | false =>
        rw [ha, Bool.false_or] at harmed
        simp [(hb src).unarmed ha, harmed]
  cases h with
  | same hsame => rwa [hsame.rxArmed, hsame.inFlight]
  | closed => exact absurd rfl hclose
  | started => exact harm _ rfl rfl
  | retargeted => exact harm _ rfl rfl
  | stopped l op hop hstop =>
    -- it is the other direction that ends
    have hl : src ≠ l := by
      rintro rfl
      rcases hstop with hstop | hstop
      · rw [hopen] at hstop
        cases hstop
      · exact habort hstop
    intro harmed
    rw [(hb l).complete_inFlight hop, if_neg hl]
    exact hactive harmed
  | continued l op hop hopen' hgo =>
    obtain ⟨next, -, hflight⟩ := hgo.inFlight_eq (hb l) hop
    intro harmed
    rw [hflight]
    split
    · rfl
    · rw [hgo.rxArmed] at harmed
      exact hactive harmed

/-- A closing bridge starts no receive. -/
theorem Turns.receives (h : Turns b e b') (hclosing : b.closing = true) :
    b'.receives = b.receives := by
  cases h with
  | same hsame => exact hsame.receives
  | closed => rfl
  | started hopen => simp [hclosing] at hopen
  | retargeted =>
    rw [Impl.armPendingLegs_late]
    exact .inr hclosing
  | stopped => rfl
  | continued l op hop hopen => simp [hclosing] at hopen

end Turn

/-! ### Runs -/

/-- How many outstanding operations work in a buffer. -/
def Impl.users (buffer : Buffer) (b : Impl T) : ℕ :=
  (b.inFlight .legA ++ b.inFlight .legB).countP (·.buffer = buffer)

/-- The two directions share no buffer. -/
theorem users_le_one {b : Impl T} (h : ∀ l, Looping b l) (buffer : Buffer) : b.users buffer ≤ 1 := by
  have hown : ∀ l, buffer ≠ .rx l → buffer ≠ .stream l →
      (b.inFlight l).countP (·.buffer = buffer) = 0 := by
    intro l hrx hstream
    rw [List.countP_eq_zero]
    intro op hop
    rcases (h l).own op hop with hbuf | hbuf
    · simpa [hbuf] using hrx.symm
    · simpa [hbuf] using hstream.symm
  have hone : ∀ l, (b.inFlight l).countP (·.buffer = buffer) ≤ 1 :=
    fun l => List.countP_le_length.trans (h l).one
  rw [Impl.users, List.countP_append]
  by_cases hA : buffer = .rx .legA ∨ buffer = .stream .legA
  · have hB := hown .legB (by rcases hA with h | h <;> simp [h]) (by rcases hA with h | h <;> simp [h])
    have := hone .legA
    omega
  · simp only [not_or] at hA
    have := hown .legA hA.1 hA.2
    have := hone .legB
    omega

section Run

variable (L : Lib T) {b b' : Impl T} {ts : List (Task T)}

theorem run_closing (hrun : Runs.run (step L) b ts = some b') :
    b'.closing = true ↔ b.closing = true ∨ .close ∈ ts := by
  induction ts generalizing b with
  | nil =>
    cases hrun
    simp
  | cons t ts ih =>
    obtain ⟨mid, hmid, hrest⟩ := Option.bind_eq_some_iff.mp hrun
    rw [ih hrest, (step_turns L hmid).closing_iff, List.mem_cons, or_assoc, eq_comm (a := t)]

theorem run_loopStarted (hopen : b.closing = false) (hclose : .close ∉ ts)
    (hstart : b.loopStarted = true ∨ .startBridgeLoop ∈ ts)
    (hrun : Runs.run (step L) b ts = some b') : b'.loopStarted = true := by
  induction ts generalizing b with
  | nil =>
    cases hrun
    simpa using hstart
  | cons t ts ih =>
    obtain ⟨mid, hmid, hrest⟩ := Option.bind_eq_some_iff.mp hrun
    rw [List.mem_cons, not_or] at hclose
    have hturn := step_turns L hmid
    refine ih ?_ hclose.2 ?_ hrest
    · rw [Bool.eq_false_iff, ne_eq, hturn.closing_iff]
      simp [hopen, Ne.symm hclose.1]
    · rw [List.mem_cons, ← or_assoc] at hstart
      rcases hstart with hstart | hstart
      · exact .inl (hturn.loopStarted hopen (hstart.imp_right Eq.symm))
      · exact .inr hstart

theorem run_looping (h : b.Unstarted) (hrun : Runs.run (step L) b ts = some b') :
    (∀ l, Looping b' l) ∧ ∀ l, Armed b' l := by
  refine Runs.run_invariant (step L) (P := fun b => (∀ l, Looping b l) ∧ ∀ l, Armed b l) ?_ ?_ hrun
  · intro b e b' hb hstep
    have hnext := (step_turns L hstep).looping hb.1 hb.2
    exact ⟨fun l => (hnext l).1, fun l => (hnext l).2⟩
  · refine ⟨fun l => ⟨?_, ?_, fun _ => h.inFlight l, fun _ => h.rxArmed l⟩, fun l hstarted => ?_⟩
    · simp [h.inFlight l]
    · simp [h.inFlight l]
    · rw [h.loopStarted] at hstarted
      cases hstarted

/-- While neither direction's operation is aborted and the bridge is open. -/
theorem run_active {src : RelayLeg} (h : b.Unstarted) (hclose : .close ∉ ts)
    (habort : ∀ t ∈ ts, ¬ Aborts src t) (hrun : Runs.run (step L) b ts = some b') :
    b'.rxArmed src = true → (b'.inFlight src).length = 1 := by
  have hstart := run_looping L h (show Runs.run (step L) b [] = some b from rfl)
  have hmeets : Runs.Meets (step L) (fun _ t => t ≠ .close ∧ ¬ Aborts src t) b ts :=
    Runs.meets_of_forall (step L) (fun t ht => ⟨fun heq => hclose (heq ▸ ht), habort t ht⟩) b
  refine (Runs.run_keeps (step L) (P := fun b => ((∀ l, Looping b l) ∧ ∀ l, Armed b l) ∧
    b.closing = false ∧ (b.rxArmed src = true → (b.inFlight src).length = 1)) ?_
    ⟨hstart, h.closing, ?_⟩ hmeets hrun).2.2
  · rintro b t b' ⟨hb, hopen, hactive⟩ ⟨hne, hnot⟩ hstep
    have hturn := step_turns L hstep
    have hnext := hturn.looping hb.1 hb.2
    refine ⟨⟨fun l => (hnext l).1, fun l => (hnext l).2⟩, ?_,
      hturn.active hb.1 hopen hactive hne hnot⟩
    rw [Bool.eq_false_iff, ne_eq, hturn.closing_iff]
    simp [hopen, hne]
  · intro harmed
    rw [h.rxArmed] at harmed
    cases harmed

theorem run_receives (hclosing : b.closing = true) (hrun : Runs.run (step L) b ts = some b') :
    b'.receives = b.receives := by
  refine (Runs.run_invariant (step L) (P := fun c => c.closing = true ∧ c.receives = b.receives)
    ?_ ⟨hclosing, rfl⟩ hrun).2
  rintro c t c' ⟨hc, hsame⟩ hstep
  have hturn := step_turns L hstep
  exact ⟨hturn.closing_iff.mpr (.inl hc), (hturn.receives hc).trans hsame⟩

end Run

/-- **The relay loop.**  For every order of tasks and completions, from a bridge
whose loop has not been started:

* a direction has at most one operation outstanding, and a buffer is used by at
  most one of all of them;
* an armed direction has one, if `close` has not run and none of its operations
  was aborted;
* after `close` no receive is started;
* once the loop has been started and until `close` has run, a direction whose
  destination is known is armed. -/
theorem relay_loop (L : Lib T) {b₀ b : Impl T} {ts : List (Task T)} (h₀ : b₀.Unstarted)
    (hrun : Runs.run (step L) b₀ ts = some b) :
    (∀ src, (b.inFlight src).length ≤ 1) ∧ (∀ buffer, b.users buffer ≤ 1) ∧
    (∀ src, b.rxArmed src = true → .close ∉ ts → (∀ t ∈ ts, ¬ Aborts src t) →
      (b.inFlight src).length = 1) ∧
    (.close ∈ ts → ∀ ts' b', Runs.run (step L) b ts' = some b' → b'.receives = b.receives) ∧
    (.startBridgeLoop ∈ ts → .close ∉ ts → ∀ src, (b.dest src.opposite).isSome = true →
      b.rxArmed src = true) := by
  obtain ⟨hlooping, harmed⟩ := run_looping L h₀ hrun
  refine ⟨fun src => (hlooping src).one, users_le_one hlooping, ?_, ?_, ?_⟩
  · intro src hrx hclose habort
    exact run_active L h₀ hclose habort hrun hrx
  · intro hclose ts' b' hrun'
    exact run_receives L ((run_closing L hrun).mpr (.inr hclose)) hrun'
  · intro hstart hclose src hknown
    refine harmed src (run_loopStarted L h₀.closing hclose (.inr hstart) hrun) ?_ hknown
    rw [Bool.eq_false_iff, ne_eq, run_closing L hrun]
    simp [h₀.closing, hclose]

/-! ### A bridge that learns an address late

The caller's address is known, the callee's is not. -/

def plainLib : Lib Unit where
  makeAddress addr := addr = "10.0.0.2"
  transcode _ _ t := (t, none)

def callerOnly : Impl Unit where
  dest leg := if leg = .legA then some { ip := "10.0.0.1", port := 4000 } else none
  flow _ := { canSend := true, canReceive := true }
  dtmfPt _ := none
  transcodeSession := none
  closing := false
  loopStarted := false
  rxArmed _ := false
  inFlight _ := []
  receives _ := 0
  errors := []

theorem callerOnly_unstarted : callerOnly.Unstarted := ⟨rfl, rfl, fun _ => rfl, fun _ => rfl⟩

/-- One packet of the caller, after the callee's address came. -/
def lateAddress : List (Task Unit) :=
  [.startBridgeLoop, .retargetRemoteLeg .legB "10.0.0.2" 4002,
    .received .legA (.ok { payloadType := 0, marker := false, payload := [] }), .sent .legA none]

theorem relay_loop_late_address : ∃ b, Runs.run (step plainLib) callerOnly lateAddress = some b ∧
    (b.inFlight .legA).length = 1 := by
  refine ⟨_, rfl, ?_⟩
  refine (relay_loop plainLib callerOnly_unstarted
    (show Runs.run (step plainLib) callerOnly lateAddress = some _ from rfl)).2.2.1 .legA rfl ?_ ?_
  · simp [lateAddress]
  · simp [lateAddress, Aborts]

/-- The callee's address comes after `close`: the loop has been started, the
destination is known and the direction is not armed. -/
theorem retargeted_after_close : callerOnly.Unstarted ∧
    ∃ b, Runs.run (step plainLib) callerOnly
        [.startBridgeLoop, .close, .retargetRemoteLeg .legB "10.0.0.2" 4002] = some b ∧
      b.loopStarted = true ∧ (b.dest RelayLeg.legA.opposite).isSome = true ∧
      b.rxArmed .legA = false :=
  ⟨callerOnly_unstarted, _, rfl, rfl, rfl, rfl⟩

end RelayLoop

end SbcEngine
