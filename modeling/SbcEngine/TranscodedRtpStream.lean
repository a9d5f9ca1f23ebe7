/-
The synthesized RTP stream of one transcoded direction.

The packets that go out have an identity of their own: a sequence number that counts
them, and a timestamp that only audio moves.

* `TranscodedRtpStream.sendAudio`, `sendDtmf` — the two sends, which share a buffer of
  fixed size;
* `sendAll_timeline` — the counters of every packet of a run;
* `transcoding_exact` — that, with the sizes of everything that is transcoded.
-/
import Mathlib.Algebra.GroupWithZero.Nat
import SbcEngine.AudioTranscoder

namespace SbcEngine

namespace Transcoding

def kMaxRtpPacketSize : ℕ := 1500

def kFixedRtpHeaderSize : ℕ := 12

/-- A packet on the wire. -/
structure SentPacket where
  payloadType : UInt8
  marker : Bool
  sequenceNumber : UInt16
  timestamp : UInt32
  ssrc : UInt32
  payload : List UInt8
  deriving DecidableEq, Repr

structure TranscodedRtpStream where
  audioPayloadType : UInt8
  ssrc : UInt32
  sequenceNumber : UInt16
  timestamp : UInt32

namespace TranscodedRtpStream

/-- The packet a send builds.  The payload type has seven bits; the last byte written is
cleared before the payload is copied, which for an empty payload is one of the ssrc. -/
def packet (payloadType : UInt8) (payload : List UInt8) (marker : Bool) (s : TranscodedRtpStream) :
    SentPacket where
  payloadType := payloadType &&& 0x7F
  marker := marker
  sequenceNumber := s.sequenceNumber
  timestamp := s.timestamp
  ssrc := if payload = [] then s.ssrc &&& 0xFFFFFF00 else s.ssrc
  payload := payload

/-- `send_as`. -/
def sendAs (payloadType : UInt8) (payload : List UInt8) (marker : Bool) (s : TranscodedRtpStream) :
    TranscodedRtpStream × Except ErrorCode SentPacket :=
  if payload.length + kFixedRtpHeaderSize > kMaxRtpPacketSize then
    (s, .error .fixedBufferTooSmall)
  else
    ({ s with sequenceNumber := s.sequenceNumber + 1 }, .ok (s.packet payloadType payload marker))

def sendAudio (encoded : List UInt8) (timestampDelta : UInt32) (s : TranscodedRtpStream) :
    TranscodedRtpStream × Except ErrorCode SentPacket :=
  let s := { s with timestamp := s.timestamp + timestampDelta }
  s.sendAs s.audioPayloadType encoded false

def sendDtmf (dtmfPayloadType : UInt8) (payload : List UInt8) (marker : Bool)
    (s : TranscodedRtpStream) : TranscodedRtpStream × Except ErrorCode SentPacket :=
  s.sendAs dtmfPayloadType payload marker

end TranscodedRtpStream

/-- The payload fits the send buffer behind a header. -/
def Fits (payload : List UInt8) : Prop := payload.length + kFixedRtpHeaderSize ≤ kMaxRtpPacketSize

instance (payload : List UInt8) : Decidable (Fits payload) := inferInstanceAs (Decidable (_ ≤ _))

theorem sendAs_fits {payload : List UInt8} (h : Fits payload) (payloadType : UInt8) (marker : Bool)
    (s : TranscodedRtpStream) :
    s.sendAs payloadType payload marker =
      ({ s with sequenceNumber := s.sequenceNumber + 1 },
        .ok (s.packet payloadType payload marker)) :=
  if_neg (Nat.not_lt.mpr h)

/-! ### Runs of sends -/

/-- A call of one of the two sends; audio is some frames of the destination's codec. -/
inductive Send where
  | audio (encoded : List UInt8) (numFrames : ℕ)
  | dtmf (payloadType : UInt8) (payload : List UInt8) (marker : Bool)

def Send.payload : Send → List UInt8
  | .audio encoded _ => encoded
  | .dtmf _ payload _ => payload

section

variable (dst : CodecParam) (dstInfo : SupportedCodec)

/-- How far a send moves the RTP clock. -/
def Send.ticks : Send → ℕ
  | .audio _ numFrames => numFrames * dst.frameTimeMs * dstInfo.rtpClockRate / 1000
  | .dtmf _ _ _ => 0

def TranscodedRtpStream.send (s : TranscodedRtpStream) :
    Send → TranscodedRtpStream × Except ErrorCode SentPacket
  | .audio encoded numFrames =>
    s.sendAudio encoded (UInt32.ofNat (timestampTicks dst dstInfo numFrames))
  | .dtmf payloadType payload marker => s.sendDtmf payloadType payload marker

/-- The packets a run of sends emits. -/
def TranscodedRtpStream.sendAll (s : TranscodedRtpStream) : List Send → List SentPacket
  | [] => []
  | send :: sends =>
    let r := s.send dst dstInfo send
    match r.2 with
    | .ok pkt => pkt :: r.1.sendAll sends
    | .error _ => r.1.sendAll sends

/-- One send whose packet fits. -/
theorem send_fits {send : Send} (h : Fits send.payload) (s : TranscodedRtpStream) :
    ∃ pkt, (s.send dst dstInfo send).2 = .ok pkt ∧ pkt.sequenceNumber = s.sequenceNumber ∧
      pkt.timestamp = s.timestamp + UInt32.ofNat (send.ticks dst dstInfo) ∧
      (s.send dst dstInfo send).1.sequenceNumber = s.sequenceNumber + 1 ∧
      (s.send dst dstInfo send).1.timestamp = pkt.timestamp := by
  cases send with
  | audio encoded numFrames =>
    have hsend := sendAs_fits h s.audioPayloadType false
      { s with timestamp := s.timestamp + UInt32.ofNat (timestampTicks dst dstInfo numFrames) }
    exact ⟨_, congrArg Prod.snd hsend, rfl, rfl, congrArg (fun r => r.1.sequenceNumber) hsend,
      congrArg (fun r => r.1.timestamp) hsend⟩
  | dtmf payloadType payload marker =>
    have hsend := sendAs_fits h payloadType marker s
    exact ⟨_, congrArg Prod.snd hsend, rfl, (UInt32.add_zero _).symm,
      congrArg (fun r => r.1.sequenceNumber) hsend, congrArg (fun r => r.1.timestamp) hsend⟩

/-- **The timeline of a stream.**  Every packet has the next sequence number, and the
time of all audio up to and including it. -/
theorem sendAll_timeline (s : TranscodedRtpStream) {sends : List Send}
    (hfits : ∀ send ∈ sends, Fits send.payload) :
    (s.sendAll dst dstInfo sends).length = sends.length ∧
    ∀ k pkt, (s.sendAll dst dstInfo sends)[k]? = some pkt →
      pkt.sequenceNumber.toNat = (s.sequenceNumber.toNat + k) % 2 ^ 16 ∧
      pkt.timestamp.toNat =
        (s.timestamp.toNat + ((sends.take (k + 1)).map (Send.ticks dst dstInfo)).sum) % 2 ^ 32 := by
  induction sends generalizing s with
  | nil => exact ⟨rfl, fun k pkt h => by simp [TranscodedRtpStream.sendAll] at h⟩
  | cons send sends ih =>
    obtain ⟨first, hfirst, hseq, htime, hnextSeq, hnextTime⟩ :=
      send_fits dst dstInfo (hfits send List.mem_cons_self) s
    obtain ⟨hlength, hrest⟩ := ih (s.send dst dstInfo send).1
      fun x hx => hfits x (List.mem_cons_of_mem _ hx)
    have hfirstTime : first.timestamp.toNat =
        (s.timestamp.toNat + send.ticks dst dstInfo) % 2 ^ 32 := by
      rw [htime, UInt32.toNat_add, UInt32.toNat_ofNat', Nat.add_mod_mod]
    rw [TranscodedRtpStream.sendAll]
    simp only [hfirst]
    refine ⟨by simp [hlength], fun k pkt hpkt => ?_⟩
    cases k with
    | zero =>
      obtain rfl : first = pkt := by simpa using hpkt
      rw [hseq, hfirstTime]
      simp
    | succ k =>
      obtain ⟨hpktSeq, hpktTime⟩ := hrest k pkt (by simpa using hpkt)
      rw [hnextSeq, UInt16.toNat_add] at hpktSeq
      rw [hnextTime, hfirstTime] at hpktTime
      rw [List.take_succ_cons, List.map_cons, List.sum_cons]
      refine ⟨?_, ?_⟩
      · simp at hpktSeq ⊢
        omega
      · omega

end

/-! ### A transcoded call -/

/-- **Sizes and counters of a transcoded call.**  With codecs of one frame time, every
payload in either direction is transcoded to nothing or to one frame for each of its
frames, through views inside their buffers; and the packets of a run of sends are
numbered one after the other and carry the time of the audio up to them. -/
theorem transcoding_exact {C R : Type} {L : Lib C R} {codecA codecB : SupportedCodec}
    {maxPayloadBytes : ℕ} {t : AudioTranscoder C R}
    (hinit : AudioTranscoder.init L codecA codecB maxPayloadBytes = some t)
    (htime : (t.codec .legA).param.frameTimeMs = (t.codec .legB).param.frameTimeMs) :
    (∀ calls, ∃ t' results, t.transcodeAll L calls = .ok (t', results) ∧
      List.Forall₂ (fun call audio => ∀ a ∈ audio, Converts (t.codec call.1).param
        (t.codec call.1.opposite).param (t.codecInfo call.1.opposite) call.2 a) calls results) ∧
    (∀ (leg : RelayLeg) (s : TranscodedRtpStream) (sends : List Send),
      (∀ send ∈ sends, Fits send.payload) →
      let dst := (t.codec leg.opposite).param
      let dstInfo := t.codecInfo leg.opposite
      (s.sendAll dst dstInfo sends).length = sends.length ∧
      ∀ k pkt, (s.sendAll dst dstInfo sends)[k]? = some pkt →
        pkt.sequenceNumber.toNat = (s.sequenceNumber.toNat + k) % 2 ^ 16 ∧
        pkt.timestamp.toNat =
          (s.timestamp.toNat + ((sends.take (k + 1)).map (Send.ticks dst dstInfo)).sum) % 2 ^ 32) := by
  constructor
  · intro calls
    obtain ⟨⟨t', results⟩, hrun, -, hresults⟩ := transcodeAll_opened calls (init_opened hinit htime)
    exact ⟨t', results, hrun, hresults⟩
  · intro leg s sends hfits
    exact sendAll_timeline _ _ s hfits

/-- Two codecs that pass silence on: G.722 on one leg, PCMU on the other. -/
def phoneCodecs : Lib Unit Unit where
  openCodec payloadType :=
    some ⟨(), { clockRate := if payloadType = 9 then 16000 else 8000, frameTimeMs := 10, avgBps := 64000 }⟩
  createPool := true
  createResample _ _ _ := some ()
  decode _ _ room := ((), some (.replicate room 0))
  encode _ _ room := ((), some (.replicate room 0))
  resampleRun _ frame := ((), frame)

def g722 : SupportedCodec := ⟨"G722", 9, 16000, 8000⟩

def pcmu : SupportedCodec := ⟨"PCMU", 0, 8000, 8000⟩

/-- A transcoder for packets that fit the send buffer. -/
def phoneTranscoder : AudioTranscoder Unit Unit :=
  (AudioTranscoder.init phoneCodecs g722 pcmu (kMaxRtpPacketSize - kFixedRtpHeaderSize)).get rfl

theorem phoneTranscoder_init :
    AudioTranscoder.init phoneCodecs g722 pcmu (kMaxRtpPacketSize - kFixedRtpHeaderSize) =
      some phoneTranscoder := (Option.some_get _).symm

/-- A stream at its last sequence number. -/
def phoneStream : TranscodedRtpStream where
  audioPayloadType := 0
  ssrc := 1
  sequenceNumber := 65535
  timestamp := 0

/-- Two frames of audio, a packet of a digit, and one frame of audio. -/
def phoneSends : List Send :=
  [.audio (.replicate 160 0) 2, .dtmf 101 [1, 10, 0, 160] true, .audio (.replicate 80 0) 1]

/-- A packet of two frames of G.722 becomes two frames of PCMU, over 160 ticks; and a run
of sends towards the leg that has PCMU. -/
theorem transcoding_exact_phone :
    (∃ t' audio,
      phoneTranscoder.transcodeAll phoneCodecs [(.legA, .replicate 160 0)] = .ok (t', [some audio]) ∧
      audio.encoded.length = 160 ∧ audio.timestampDelta = 160) ∧
    (phoneStream.sendAll (phoneTranscoder.codec .legB).param (phoneTranscoder.codecInfo .legB)
        phoneSends).map (fun pkt => (pkt.sequenceNumber.toNat, pkt.timestamp.toNat)) =
      [(65535, 160), (0, 160), (1, 240)] := by
  obtain ⟨hcalls, hsends⟩ := transcoding_exact phoneTranscoder_init rfl
  constructor
  · obtain ⟨t', results, hrun, hresults⟩ := hcalls [(.legA, .replicate 160 0)]
    have hsome : (phoneTranscoder.transcodeAll phoneCodecs
        [(.legA, .replicate 160 0)]).toOption.map (fun r => r.2.map Option.isSome) = some [true] := by
      decide +kernel
    rw [hrun] at hsome
    obtain ⟨audio, rfl⟩ : ∃ audio, results = [some audio] := by
      match results, hsome with
      | [some audio], _ => exact ⟨audio, rfl⟩
    obtain ⟨hlength, hticks⟩ := (List.forall₂_cons.mp hresults).1 audio rfl
    refine ⟨t', audio, hrun, ?_, ?_⟩
    · rw [hlength]
      decide +kernel
    · rw [hticks]
      decide +kernel
  · obtain ⟨hlength, hpackets⟩ := hsends .legA phoneStream phoneSends (by decide +kernel)
    obtain ⟨first, digit, last, hpkts⟩ := List.length_eq_three.mp hlength
    change phoneStream.sendAll (phoneTranscoder.codec .legB).param (phoneTranscoder.codecInfo .legB)
      phoneSends = _ at hpkts
    have hcounters := fun k pkt h => hpackets k pkt (hpkts ▸ h)
    obtain ⟨hseq, htime⟩ := hcounters 0 first rfl
    obtain ⟨hseq', htime'⟩ := hcounters 1 digit rfl
    obtain ⟨hseq'', htime''⟩ := hcounters 2 last rfl
    rw [hpkts, List.map_cons, List.map_cons, List.map_singleton, hseq, htime, hseq', htime', hseq'',
      htime'']
    decide +kernel

end Transcoding

end SbcEngine
