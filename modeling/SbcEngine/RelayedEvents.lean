/-
The timestamps of telephone events on a transcoded direction.

A receiver tells events by their RTP timestamps.  The packets of a transcoded direction
get theirs from a clock of its own, which audio moves and events do not.

* `TranscodeSession.init`, `processPacket` — one packet through the transcoding branch;
* `audioTicks` — the time of the audio in a packet, by its size;
* `after_timestamp` — the clock of a direction after any packets;
* `events_kept_iff` — relayed events keep their identity exactly when there is audio
  between the packets of two events and none between those of one.

Design notes: the packets of both directions are taken in the order of arrival, since
they share the codecs.  Of these it is assumed that they make a whole frame of every
whole frame, as G.711 and G.722 do.
-/
import SbcEngine.TranscodedRtpStream

namespace SbcEngine

namespace Transcoding

/-- A packet as it was received. -/
structure SourcePacket extends RtpPacket where
  timestamp : UInt32

/-- A packet that came in on a leg; `allowed` is the gate of that direction. -/
structure Arrival where
  src : RelayLeg
  allowed : Bool
  pkt : SourcePacket

structure TranscodeSession (C R : Type) where
  transcoder : AudioTranscoder C R
  /-- The stream for what comes in on a leg. -/
  stream : RelayLeg → TranscodedRtpStream

variable {C R : Type}

/-- `TranscodeSession::open`, with the random ssrcs and counters of the two streams. -/
def TranscodeSession.init (L : Lib C R) (legAAudio legBAudio : SupportedCodec)
    (random : RelayLeg → UInt32 × UInt16 × UInt32) : Option (TranscodeSession C R) :=
  (AudioTranscoder.init L legAAudio legBAudio (kMaxRtpPacketSize - kFixedRtpHeaderSize)).map
    fun transcoder =>
      { transcoder := transcoder
        stream := fun src =>
          let audio := match src with
            | .legA => legBAudio
            | .legB => legAAudio
          { audioPayloadType := UInt8.ofNat audio.payloadType
            ssrc := (random src).1
            sequenceNumber := (random src).2.1
            timestamp := (random src).2.2 } }

def TranscodeSession.setStream (x : TranscodeSession C R) (src : RelayLeg) (s : TranscodedRtpStream) :
    TranscodeSession C R :=
  { x with stream := fun l => if l = src then s else x.stream l }

/-- The transcoded branch of `process_packet`: the packet that is sent, if one is. -/
def processPacket (L : Lib C R) (dtmfPt : RelayLeg → Option UInt8) (x : TranscodeSession C R)
    (a : Arrival) : TranscodeSession C R × Option SentPacket :=
  if !a.allowed then (x, none)
  else
    match relayDtmfPt a.pkt.toRtpPacket (dtmfPt a.src) (dtmfPt a.src.opposite) with
    | .dropUnmapped => (x, none)
    | .relay payloadType =>
      let r := (x.stream a.src).sendDtmf payloadType a.pkt.payload a.pkt.marker
      (x.setStream a.src r.1, r.2.toOption)
    | .notDtmf =>
      match x.transcoder.transcodeLeg L a.src a.pkt.payload with
      -- does not happen once the transcoder is open: `transcodeLeg_opened`
      | .error _ => (x, none)
      | .ok (transcoder, none) => ({ x with transcoder := transcoder }, none)
      | .ok (transcoder, some audio) =>
        let r := (x.stream a.src).sendAudio audio.encoded audio.timestampDelta
        ({ x with transcoder := transcoder }.setStream a.src r.1, r.2.toOption)

/-- The session after some packets. -/
def after (L : Lib C R) (dtmfPt : RelayLeg → Option UInt8) (x : TranscodeSession C R)
    (arrivals : List Arrival) : TranscodeSession C R :=
  arrivals.foldl (fun x a => (processPacket L dtmfPt x a).1) x

/-- The packet is a telephone event that is relayed on the direction from `src`. -/
def RelaysEvent (dtmfPt : RelayLeg → Option UInt8) (src : RelayLeg) (a : Arrival) : Prop :=
  a.src = src ∧ a.allowed = true ∧ Fits a.pkt.payload ∧
    ∃ payloadType,
      relayDtmfPt a.pkt.toRtpPacket (dtmfPt src) (dtmfPt src.opposite) = .relay payloadType

/-- The ticks of the audio a packet brings the direction from `src`: those of its frames,
if the gate is open, it is no telephone event, and its payload is whole frames that fit a
packet. -/
def audioTicks (params : RelayLeg → CodecParam) (infos : RelayLeg → SupportedCodec)
    (dtmfPt : RelayLeg → Option UInt8) (src : RelayLeg) (a : Arrival) : ℕ :=
  let frame := (params src).encodedFrameBytes
  if a.src = src ∧ a.allowed = true ∧ dtmfPt src ≠ some a.pkt.payloadType ∧
      a.pkt.payload.length % frame = 0 ∧
      a.pkt.payload.length ≤ kMaxRtpPacketSize - kFixedRtpHeaderSize then
    a.pkt.payload.length / frame * (params src.opposite).frameTimeMs *
      (infos src.opposite).rtpClockRate / 1000
  else 0

/-! ### The clock of a direction -/

section

variable (L : Lib C R) (params : RelayLeg → CodecParam) (infos : RelayLeg → SupportedCodec)
  (dtmfPt : RelayLeg → Option UInt8) (src : RelayLeg)

@[simp] theorem setStream_self (x : TranscodeSession C R) (s : TranscodedRtpStream) :
    (x.setStream src s).stream src = s := if_pos rfl

theorem setStream_other {x : TranscodeSession C R} {l : RelayLeg} (h : src ≠ l)
    (s : TranscodedRtpStream) : (x.setStream l s).stream src = x.stream src := if_neg h

theorem sendAs_timestamp (payloadType : UInt8) (payload : List UInt8) (marker : Bool)
    (s : TranscodedRtpStream) : (s.sendAs payloadType payload marker).1.timestamp = s.timestamp := by
  rw [TranscodedRtpStream.sendAs]
  split_ifs <;> rfl

/-- A packet leaves the stream of the other direction alone. -/
theorem processPacket_other {x : TranscodeSession C R} {a : Arrival} (h : src ≠ a.src) :
    (processPacket L dtmfPt x a).1.stream src = x.stream src := by
  rw [processPacket]
  split
  · rfl
  · split
    · rfl
    · exact setStream_other src h _
    · split
      · rfl
      · rfl
      · exact setStream_other src h _

/-- The transcoder of a session is as opened, and its codecs are steady. -/
structure Running (x : TranscodeSession C R) : Prop where
  opened : Opened params infos x.transcoder
  ready : x.transcoder.Ready L (kMaxRtpPacketSize - kFixedRtpHeaderSize)

/-- What the transcoder does with a packet that is let through and is no event. -/
theorem Running.transcodes {x : TranscodeSession C R} (h : Running L params infos x) {a : Arrival}
    (hallowed : a.allowed = true) (hevent : dtmfPt a.src ≠ some a.pkt.payloadType) :
    ∃ transcoder audio, x.transcoder.transcodeLeg L a.src a.pkt.payload = .ok (transcoder, audio) ∧
      Running L params infos { x with transcoder := transcoder } ∧
      (audio.elim 0 fun audio => audio.timestampDelta.toNat) =
        audioTicks params infos dtmfPt a.src a % 2 ^ 32 := by
  obtain ⟨⟨transcoder, audio⟩, hrun, hopened, hconverts, hready⟩ :=
    transcodeLeg_opened h.opened a.src a.pkt.payload
  obtain ⟨hready, hsome⟩ := hready _ h.ready
  refine ⟨transcoder, audio, hrun, ⟨hopened, hready⟩, ?_⟩
  have hfits : ∀ m, a.pkt.payload.length % (params a.src).encodedFrameBytes = 0 →
      (a.pkt.payload.length / (params a.src).encodedFrameBytes ≤
        m / (params a.src).encodedFrameBytes ↔ a.pkt.payload.length ≤ m) := by
    intro m hwhole
    rw [Nat.le_div_iff_mul_le (Nat.pos_of_ne_zero (h.opened.frame a.src)),
      Nat.div_mul_cancel (Nat.dvd_of_mod_eq_zero hwhole)]
  rw [audioTicks]
  cases audio with
  | none =>
    -- an empty payload, too, brings no ticks
    by_cases hnil : a.pkt.payload = []
    · simp [hnil]
    · have hnot : ¬Convertible (params a.src) _ a.pkt.payload := hsome.not.mp (by simp)
      rw [if_neg]
      · rfl
      · rintro ⟨-, -, -, hwhole, hlength⟩
        exact hnot ⟨hnil, hwhole, (hfits _ hwhole).mpr hlength⟩
  | some audio =>
    obtain ⟨-, hwhole, hfew⟩ := hsome.mp rfl
    rw [if_pos ⟨rfl, hallowed, hevent, hwhole, (hfits _ hwhole).mp hfew⟩]
    show audio.timestampDelta.toNat = _
    rw [(hconverts audio rfl).2, UInt32.toNat_ofNat']

theorem notDtmf_iff {pkt : RtpPacket} {pt pt' : Option UInt8} :
    relayDtmfPt pkt pt pt' = .notDtmf ↔ pt ≠ some pkt.payloadType := by
  cases pt with
  | none => simp [relayDtmfPt]
  | some pt =>
    by_cases h : pkt.payloadType = pt
    · cases pt' <;> simp [relayDtmfPt, h]
    · simp [relayDtmfPt, h, Ne.symm h]

theorem Running.processPacket {x : TranscodeSession C R} (h : Running L params infos x) (a : Arrival) :
    Running L params infos (processPacket L dtmfPt x a).1 := by
  rw [Transcoding.processPacket]
  split_ifs with hallowed
  · exact h
  · cases houtcome : relayDtmfPt a.pkt.toRtpPacket (dtmfPt a.src) (dtmfPt a.src.opposite) with
    | dropUnmapped => exact h
    | relay payloadType => exact ⟨h.opened, h.ready⟩
    | notDtmf =>
      obtain ⟨transcoder, audio, hrun, hrunning, -⟩ :=
        h.transcodes L params infos dtmfPt (by simpa using hallowed) (notDtmf_iff.mp houtcome)
      simp only [hrun]
      cases audio with
      | none => exact hrunning
      | some audio => exact ⟨hrunning.opened, hrunning.ready⟩

/-- One packet moves the clock of its direction by its audio. -/
theorem processPacket_timestamp {x : TranscodeSession C R} (h : Running L params infos x)
    (a : Arrival) :
    ((processPacket L dtmfPt x a).1.stream src).timestamp.toNat =
      ((x.stream src).timestamp.toNat + audioTicks params infos dtmfPt src a) % 2 ^ 32 := by
  by_cases hsrc : a.src = src
  · subst hsrc
    cases hallowed : a.allowed with
    | false =>
      rw [audioTicks, if_neg (by simp [hallowed])]
      simp [processPacket, hallowed]
    | true =>
      by_cases hevent : dtmfPt a.src = some a.pkt.payloadType
      · rw [audioTicks, if_neg fun h => h.2.2.1 hevent]
        cases houtcome : relayDtmfPt a.pkt.toRtpPacket (dtmfPt a.src) (dtmfPt a.src.opposite) with
        | notDtmf => exact absurd hevent (notDtmf_iff.mp houtcome)
        | dropUnmapped => simp [processPacket, hallowed, houtcome]
        | relay payloadType =>
          simp [processPacket, hallowed, houtcome, TranscodedRtpStream.sendDtmf, sendAs_timestamp]
      · obtain ⟨transcoder, audio, hrun, -, hticks⟩ :=
          h.transcodes L params infos dtmfPt hallowed hevent
        rw [← Nat.add_mod_mod, ← hticks]
        cases audio with
        | none => simp [processPacket, hallowed, notDtmf_iff.mpr hevent, hrun]
        | some audio =>
          -- the clock moves before the packet is built
          simp [processPacket, hallowed, notDtmf_iff.mpr hevent, hrun,
            TranscodedRtpStream.sendAudio, sendAs_timestamp]
  · rw [processPacket_other L dtmfPt src (Ne.symm hsrc), audioTicks, if_neg fun h => hsrc h.1]
    exact (Nat.mod_eq_of_lt (x.stream src).timestamp.toNat_lt).symm

/-- **The clock of a direction** is moved by the audio that came in on it, and nothing
else. -/
theorem after_timestamp {x : TranscodeSession C R} (h : Running L params infos x)
    (arrivals : List Arrival) :
    Running L params infos (after L dtmfPt x arrivals) ∧
      ((after L dtmfPt x arrivals).stream src).timestamp.toNat =
        ((x.stream src).timestamp.toNat +
          (arrivals.map (audioTicks params infos dtmfPt src)).sum) % 2 ^ 32 := by
  induction arrivals generalizing x with
  | nil => exact ⟨h, (Nat.mod_eq_of_lt (x.stream src).timestamp.toNat_lt).symm⟩
  | cons a arrivals ih =>
    have hfirst := processPacket_timestamp L params infos dtmfPt src h a
    obtain ⟨hlast, hrest⟩ := ih (h.processPacket L params infos dtmfPt a)
    refine ⟨hlast, ?_⟩
    show ((after L dtmfPt (processPacket L dtmfPt x a).1 arrivals).stream src).timestamp.toNat = _
    rw [List.map_cons, List.sum_cons]
    omega

theorem after_append (x : TranscodeSession C R) (l₁ l₂ : List Arrival) :
    after L dtmfPt x (l₁ ++ l₂) = after L dtmfPt (after L dtmfPt x l₁) l₂ := List.foldl_append ..

/-! ### Events -/

variable {L dtmfPt src}

/-- A relayed event carries the time of the clock, and leaves it alone. -/
theorem processPacket_event {x : TranscodeSession C R} {a : Arrival}
    (h : RelaysEvent dtmfPt src a) :
    (∃ pkt, (processPacket L dtmfPt x a).2 = some pkt ∧ pkt.timestamp = (x.stream src).timestamp) ∧
      ((processPacket L dtmfPt x a).1.stream src).timestamp = (x.stream src).timestamp := by
  obtain ⟨rfl, hallowed, hfits, payloadType, houtcome⟩ := h
  have hsend := sendAs_fits hfits payloadType a.pkt.marker (x.stream a.src)
  simp [processPacket, hallowed, houtcome, TranscodedRtpStream.sendDtmf, hsend, Except.toOption,
    TranscodedRtpStream.packet]

variable (L dtmfPt src)

/-- Two events of a run carry the same timestamp where they come out exactly when they did
where they came in. -/
def KeepsEvents (x : TranscodeSession C R) (arrivals : List Arrival) : Prop :=
  ∀ l₁ p l₂ q l₃, arrivals = l₁ ++ p :: (l₂ ++ q :: l₃) →
    RelaysEvent dtmfPt src p → RelaysEvent dtmfPt src q →
    ∀ pkt ∈ (processPacket L dtmfPt (after L dtmfPt x l₁) p).2,
    ∀ pkt' ∈ (processPacket L dtmfPt (after L dtmfPt x (l₁ ++ p :: l₂)) q).2,
      (pkt.timestamp = pkt'.timestamp ↔ p.pkt.timestamp = q.pkt.timestamp)

/-- The audio between two packets of one event takes no time, and that between packets of
two events does, modulo the range of the clock. -/
def EventsApart (arrivals : List Arrival) : Prop :=
  ∀ l₁ p l₂ q l₃, arrivals = l₁ ++ p :: (l₂ ++ q :: l₃) →
    RelaysEvent dtmfPt src p → RelaysEvent dtmfPt src q →
      (2 ^ 32 ∣ (l₂.map (audioTicks params infos dtmfPt src)).sum ↔ p.pkt.timestamp = q.pkt.timestamp)

/-- **The identity of relayed events.**  In every run of a session that was opened with
steady codecs of one frame time, events keep their identity exactly when the audio between
them tells them apart. -/
theorem events_kept_iff {legAAudio legBAudio : SupportedCodec}
    {random : RelayLeg → UInt32 × UInt16 × UInt32} {x : TranscodeSession C R}
    (hinit : TranscodeSession.init L legAAudio legBAudio random = some x)
    (htime : (x.transcoder.codec .legA).param.frameTimeMs =
      (x.transcoder.codec .legB).param.frameTimeMs)
    (hsteady : ∀ leg, (x.transcoder.codec leg).Steady L) (arrivals : List Arrival) :
    KeepsEvents L dtmfPt src x arrivals ↔
      EventsApart (fun leg => (x.transcoder.codec leg).param) x.transcoder.codecInfo dtmfPt src
        arrivals := by
  have hrunning : Running L (fun leg => (x.transcoder.codec leg).param) x.transcoder.codecInfo x := by
    obtain ⟨transcoder, hopen, rfl⟩ := Option.map_eq_some_iff.mp hinit
    exact ⟨init_opened hopen htime, init_ready hopen hsteady⟩
  refine forall_congr' fun l₁ => forall_congr' fun p => forall_congr' fun l₂ =>
    forall_congr' fun q => forall_congr' fun l₃ => forall_congr' fun _ =>
    forall_congr' fun hp => forall_congr' fun hq => ?_
  obtain ⟨⟨pkt, hpkt, hfirst⟩, hclock⟩ := processPacket_event (L := L) (x := after L dtmfPt x l₁) hp
  obtain ⟨⟨pkt', hpkt', hsecond⟩, -⟩ :=
    processPacket_event (L := L) (x := after L dtmfPt x (l₁ ++ p :: l₂)) hq
  have hsplit : after L dtmfPt x (l₁ ++ p :: l₂) =
      after L dtmfPt (processPacket L dtmfPt (after L dtmfPt x l₁) p).1 l₂ := by
    rw [after_append]
    rfl
  have hmid := (after_timestamp L _ _ dtmfPt src hrunning l₁).1.processPacket L _ _ dtmfPt p
  have hlater := (after_timestamp L _ _ dtmfPt src hmid l₂).2
  rw [← hsplit, hclock, ← hfirst, ← hsecond] at hlater
  have hsmall := pkt.timestamp.toNat_lt
  have hsame : pkt.timestamp = pkt'.timestamp ↔
      2 ^ 32 ∣ (l₂.map (audioTicks (fun leg => (x.transcoder.codec leg).param)
        x.transcoder.codecInfo dtmfPt src)).sum := by
    rw [← UInt32.toNat_inj]
    omega
  simp only [hpkt, hpkt', Option.mem_def, Option.some.injEq, forall_eq', hsame]

/-- G.722 on leg A, PCMU on leg B, both streams from zero. -/
def phoneSession : TranscodeSession Unit Unit :=
  (TranscodeSession.init phoneCodecs g722 pcmu fun _ => (1, 0, 0)).get rfl

/-- A packet of the telephone event that started at a time. -/
def digitAt (timestamp : UInt32) : Arrival where
  src := .legA
  allowed := true
  pkt := { payloadType := 101, marker := false, payload := [1, 10, 0, 160], timestamp := timestamp }

/-- A packet with one frame of audio. -/
def audioAt (timestamp : UInt32) : Arrival where
  src := .legA
  allowed := true
  pkt := { payloadType := 9, marker := false, payload := .replicate 80 0, timestamp := timestamp }

theorem digitAt_relaysEvent (timestamp : UInt32) :
    RelaysEvent (fun _ => some 101) .legA (digitAt timestamp) :=
  ⟨rfl, rfl, show 4 + 12 ≤ 1500 by decide, 101, rfl⟩

theorem phoneCodecs_steady (s : CodecSession Unit) : s.Steady phoneCodecs :=
  ⟨fun _ => True, trivial, fun _ _ _ _ => ⟨(), _, rfl, trivial, List.length_replicate⟩,
    fun _ _ _ _ => ⟨(), _, rfl, trivial, List.length_replicate⟩⟩

theorem audioAt_not_relaysEvent (timestamp : UInt32) :
    ¬RelaysEvent (fun _ => some 101) .legA (audioAt timestamp) := by
  rintro ⟨-, -, -, payloadType, houtcome⟩
  cases houtcome

/-- Two digits with a frame of audio between them stay two. -/
theorem events_kept_phone :
    KeepsEvents phoneCodecs (fun _ => some 101) .legA phoneSession
      [digitAt 1000, audioAt 1080, digitAt 2000] := by
  refine (events_kept_iff phoneCodecs (fun _ => some 101) .legA (Option.some_get _).symm rfl
    (fun _ => phoneCodecs_steady _) _).mpr ?_
  intro l₁ p l₂ q l₃ harrivals hp hq
  have hlength := congrArg List.length harrivals
  rcases l₁ with _ | ⟨a, _ | ⟨b, l₁⟩⟩
  · obtain ⟨rfl, hrest⟩ := List.cons.inj harrivals
    rcases l₂ with _ | ⟨c, _ | ⟨d, l₂⟩⟩
    · obtain ⟨rfl, -⟩ := List.cons.inj hrest
      exact absurd hq (audioAt_not_relaysEvent 1080)
    · -- the two digits, 80 ticks apart
      obtain ⟨rfl, hlast⟩ := List.cons.inj hrest
      obtain ⟨rfl, -⟩ := List.cons.inj hlast
      decide +kernel
    · simp at hlength
  · obtain ⟨-, hrest⟩ := List.cons.inj harrivals
    obtain ⟨rfl, -⟩ := List.cons.inj hrest
    exact absurd hp (audioAt_not_relaysEvent 1080)
  · simp at hlength
    omega

/-- Two digits with no audio between them become one event, and a digit with audio while
it is sent becomes two. -/
theorem digits_confused :
    ¬KeepsEvents phoneCodecs (fun _ => some 101) .legA phoneSession [digitAt 1000, digitAt 2000] ∧
      ¬KeepsEvents phoneCodecs (fun _ => some 101) .legA phoneSession
        [digitAt 1000, audioAt 1080, digitAt 1000] := by
  constructor
  · intro h
    have hdigits := h [] (digitAt 1000) [] (digitAt 2000) [] rfl (digitAt_relaysEvent 1000)
      (digitAt_relaysEvent 2000) _ rfl _ rfl
    exact absurd (hdigits.mp rfl) (by decide)
  · intro h
    have hdigit := h [] (digitAt 1000) [audioAt 1080] (digitAt 1000) [] rfl
      (digitAt_relaysEvent 1000) (digitAt_relaysEvent 1000) _ rfl _ rfl
    exact absurd (hdigit.mpr rfl) (by decide +kernel)

end

end Transcoding

end SbcEngine
