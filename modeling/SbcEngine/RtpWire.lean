/-
RTP packets from buffer to buffer.

A transcoded stream writes every packet into the same buffer, over the one before it; a
direction that is passed through sends what it received, with at most its payload type
rewritten, and with the marker set where the new payload type does not fit seven bits.

* `PacketView.ofSpan` and the setters — the view a packet is built through;
* `WireStream.sendAs` — a send, down to the bytes of the datagram;
* `sendAs_bytes` — one send writes the packet of the abstract stream;
* `sends_received` — in every run of sends, what the other side parses are the packets
  of the abstract stream;
* `forward` — a packet that is passed through;
* `forward_received` — what the other side parses is the packet, relabelled if it is a
  telephone event.

Design notes: a span aliases its buffer, so what is written to it is put back in front
of the rest.
-/
import SbcEngine.RtpFormat
import SbcEngine.TranscodedRtpStream

namespace SbcEngine

namespace Rtp

open BigEndian
open Spans (Fault overwrite)
open Transcoding (SentPacket TranscodedRtpStream Send Fits kMaxRtpPacketSize kFixedRtpHeaderSize)

/-! ### Building a packet -/

namespace PacketView

/-- A view of a span, whose version bits it writes. -/
def ofSpan (span : List UInt8) : PacketView where
  buffer :=
    if span.length < kFixedRTPSize then span
    else span.modify 0 fun b => (b &&& 0b00111111) ||| 0b10000000
  csrc := []
  extensionOffset := kFixedRTPSize
  payloadOffset := kFixedRTPSize
  payloadSize := 0
  packetSize := kFixedRTPSize
  fields := {
    timestamp := 0
    ssrc := 0
    sequenceNumber := 0
    csrcCount := 0
    payloadType := 0
    isExtended := false
    isMarked := false }
  extensionHeader := { id := 0, length := 0 }
  paddingBytes := 0

def setMarker (mark : Bool) (v : PacketView) : PacketView :=
  { v with
    fields := { v.fields with isMarked := mark }
    buffer := v.buffer.modify 1 fun b =>
      (b &&& 0b01111111) ||| (((if mark then (1 : UInt8) else 0) <<< (7 : UInt8)) &&& 0b10000000) }

/-- The bits above the seventh are not masked off. -/
def setPayloadType (payloadType : UInt8) (v : PacketView) : PacketView :=
  { v with
    fields := { v.fields with payloadType := payloadType }
    buffer := v.buffer.modify 1 fun b => (b &&& 0b10000000) ||| payloadType }

def setSequenceNumber (sequenceNumber : UInt16) (v : PacketView) : PacketView :=
  { v with
    fields := { v.fields with sequenceNumber := sequenceNumber }
    buffer := overwrite v.buffer 2 (bigEndian16 sequenceNumber) }

def setTimestamp (timestamp : UInt32) (v : PacketView) : PacketView :=
  { v with
    fields := { v.fields with timestamp := timestamp }
    buffer := overwrite v.buffer 4 (bigEndian32 timestamp) }

def setSsrc (ssrc : UInt32) (v : PacketView) : PacketView :=
  { v with
    fields := { v.fields with ssrc := ssrc }
    buffer := overwrite v.buffer 8 (bigEndian32 ssrc) }

/-- The byte at the new end is the padding's, also when there is no padding. -/
def setPayloadSize (size : ℕ) (v : PacketView) : Except Result PacketView :=
  if v.payloadOffset + size + v.paddingBytes.toNat > v.buffer.length then .error .bufferTooSmall
  else
    let packetSize := narrow (v.payloadOffset + size + v.paddingBytes.toNat : ℕ)
    .ok { v with
      payloadSize := size
      packetSize := packetSize
      buffer := v.buffer.set (packetSize - 1) v.paddingBytes }

/-- `std::ranges::copy(payload, pkt.payload().begin())` -/
def copyPayload (payload : List UInt8) (v : PacketView) : PacketView :=
  { v with buffer := overwrite v.buffer v.payloadOffset payload }

end PacketView

/-! ### A stream -/

/-- A transcoded stream and the buffer of its sends. -/
structure WireStream extends TranscodedRtpStream where
  sendBuffer : List UInt8

namespace WireStream

/-- Right after the constructor. -/
def new (s : TranscodedRtpStream) : WireStream :=
  { s with sendBuffer := List.replicate kMaxRtpPacketSize 0 }

/-- `send_as`: the datagram that is sent, or what the callback is given. -/
def sendAs (payloadType : UInt8) (payload : List UInt8) (marker : Bool) (s : WireStream) :
    WireStream × Except ErrorCode (List UInt8) :=
  let packetSize := payload.length + kFixedRtpHeaderSize
  if packetSize > s.sendBuffer.length then (s, .error .fixedBufferTooSmall)
  else
    let pkt := PacketView.ofSpan (s.sendBuffer.take packetSize)
    let pkt := ((((pkt.setTimestamp s.timestamp).setPayloadType payloadType).setSsrc
      s.ssrc).setSequenceNumber s.sequenceNumber).setMarker marker
    let sent := pkt.setPayloadSize (narrow payload.length)
    let written := (sent.toOption.map (PacketView.copyPayload payload)).getD pkt
    ({ s with
        sequenceNumber := s.sequenceNumber + 1
        sendBuffer := written.buffer ++ s.sendBuffer.drop packetSize },
      match sent with
      | .error _ => .error (.other 3)
      | .ok _ => .ok written.buffer)

def sendAudio (encoded : List UInt8) (timestampDelta : UInt32) (s : WireStream) :
    WireStream × Except ErrorCode (List UInt8) :=
  let s := { s with timestamp := s.timestamp + timestampDelta }
  s.sendAs s.audioPayloadType encoded false

def sendDtmf (dtmfPayloadType : UInt8) (payload : List UInt8) (marker : Bool) (s : WireStream) :
    WireStream × Except ErrorCode (List UInt8) :=
  s.sendAs dtmfPayloadType payload marker

def send (dst : Transcoding.CodecParam) (dstInfo : SupportedCodec) (s : WireStream) :
    Send → WireStream × Except ErrorCode (List UInt8)
  | .audio encoded numFrames =>
    s.sendAudio encoded (UInt32.ofNat (Transcoding.timestampTicks dst dstInfo numFrames))
  | .dtmf payloadType payload marker => s.sendDtmf payloadType payload marker

/-- The datagrams a run of sends emits. -/
def sendAll (dst : Transcoding.CodecParam) (dstInfo : SupportedCodec) (s : WireStream) :
    List Send → List (List UInt8)
  | [] => []
  | send :: sends =>
    let r := s.send dst dstInfo send
    match r.2 with
    | .ok datagram => datagram :: r.1.sendAll dst dstInfo sends
    | .error _ => r.1.sendAll dst dstInfo sends

end WireStream

/-! ### One send -/

/-- The first byte of a buffer that held packets only, with the version written over it. -/
theorem version_byte {b : UInt8} (h : b = 0 ∨ b = 0b10000000) :
    (b &&& 0b00111111) ||| 0b10000000 = 0b10000000 := by
  rcases h with rfl | rfl <;> rfl

/-- The second byte, after its two setters. -/
theorem second_byte (b payloadType : UInt8) (mark : Bool) :
    ((((b &&& 0b10000000) ||| payloadType) &&& 0b01111111) |||
        (((if mark then (1 : UInt8) else 0) <<< (7 : UInt8)) &&& 0b10000000)) =
      UInt8.ofNat ((if mark then 128 else 0) + (payloadType &&& 0x7F).toNat) := by
  have htop : ∀ n < 256, UInt8.ofNat n &&& 0b10000000 = 0 ∨
      UInt8.ofNat n &&& 0b10000000 = 0b10000000 := by decide +kernel
  have hall : ∀ n < 256, ∀ top ∈ [(0 : UInt8), 0b10000000], ∀ m ∈ [true, false],
      (((top ||| UInt8.ofNat n) &&& 0b01111111) |||
        (((if m then (1 : UInt8) else 0) <<< (7 : UInt8)) &&& 0b10000000)) =
      UInt8.ofNat ((if m then 128 else 0) + (UInt8.ofNat n &&& 0x7F).toNat) := by
    decide +kernel
  have hb := htop b.toNat b.toNat_lt
  rw [UInt8.ofNat_toNat] at hb
  have hpt := hall payloadType.toNat payloadType.toNat_lt (b &&& 0b10000000)
    (by simpa [or_comm] using hb) mark (by cases mark <;> simp)
  rwa [UInt8.ofNat_toNat] at hpt

/-- The last byte of a synchronization source, cleared. -/
theorem bigEndian32_cleared (ssrc : UInt32) :
    bigEndian32 (ssrc &&& 0xFFFFFF00) = (bigEndian32 ssrc).set 3 0 := by
  have hlow : ssrc &&& (0xFFFFFF00 &&& 0xFF) = 0 := by
    rw [show (0xFFFFFF00 &&& 0xFF : UInt32) = 0 from rfl, UInt32.and_zero]
  simp only [bigEndian32, UInt32.and_assoc, List.set_cons_succ, List.set_cons_zero, hlow]
  rfl

/-- The packet a send builds, as a packet of the format. -/
def plain (pkt : SentPacket) (h : pkt.payloadType.toNat < 128) : Packet where
  marker := pkt.marker
  payloadType := pkt.payloadType
  sequenceNumber := pkt.sequenceNumber
  timestamp := pkt.timestamp
  ssrc := pkt.ssrc
  csrc := []
  extension := none
  payload := pkt.payload
  padding := []
  payloadType_lt := h
  csrc_le := Nat.zero_le _
  padding_last h := absurd rfl h

theorem encode_plain (pkt : SentPacket) (h : pkt.payloadType.toNat < 128) :
    (plain pkt h).encode =
      0b10000000 :: UInt8.ofNat ((if pkt.marker then 128 else 0) + pkt.payloadType.toNat) ::
        (bigEndian16 pkt.sequenceNumber ++ (bigEndian32 pkt.timestamp ++ (bigEndian32 pkt.ssrc ++
          pkt.payload))) := by
  rw [Packet.encode, Packet.encodeHeader, Packet.encodeExtension]
  simp only [plain, List.flatMap_nil, List.append_nil, Option.map_none, Option.getD_none,
    List.nil_append, List.cons_append, List.append_assoc]
  rfl

theorem packet_payloadType (payloadType : UInt8) (payload : List UInt8) (marker : Bool)
    (s : TranscodedRtpStream) :
    (s.packet payloadType payload marker).payloadType.toNat < 128 := by
  have h := (bits payloadType).2.2.2.2.2
  rw [show (s.packet payloadType payload marker).payloadType = payloadType &&& 0b01111111 from rfl, h]
  exact Nat.mod_lt _ (by decide)

/-- A buffer that has held packets of the stream only. -/
def Clean (sendBuffer : List UInt8) : Prop :=
  sendBuffer.length = kMaxRtpPacketSize ∧
    (sendBuffer.getD 0 0 = 0 ∨ sendBuffer.getD 0 0 = 0b10000000)

/-- A buffer that is long enough for a header. -/
theorem exists_header (span : List UInt8) (h : 12 ≤ span.length) :
    ∃ b₀ b₁ b₂ b₃ b₄ b₅ b₆ b₇ b₈ b₉ b₁₀ b₁₁ rest,
      span = b₀ :: b₁ :: b₂ :: b₃ :: b₄ :: b₅ :: b₆ :: b₇ :: b₈ :: b₉ :: b₁₀ :: b₁₁ :: rest := by
  rcases span with _ | ⟨b₀, _ | ⟨b₁, _ | ⟨b₂, _ | ⟨b₃, _ | ⟨b₄, _ | ⟨b₅, _ | ⟨b₆, _ | ⟨b₇, _ |
    ⟨b₈, _ | ⟨b₉, _ | ⟨b₁₀, _ | ⟨b₁₁, rest⟩⟩⟩⟩⟩⟩⟩⟩⟩⟩⟩⟩
  case cons.cons.cons.cons.cons.cons.cons.cons.cons.cons.cons.cons =>
    exact ⟨_, _, _, _, _, _, _, _, _, _, _, _, _, rfl⟩
  all_goals exact absurd h (by simp)

/-- The byte of the padding, and then the payload, behind the fixed header. -/
theorem overwrite_payload (b₀ b₁ : UInt8) (sequenceNumber : UInt16) (timestamp ssrc : UInt32)
    {rest payload : List UInt8} (h : rest.length = payload.length) :
    overwrite ((b₀ :: b₁ :: (bigEndian16 sequenceNumber ++ (bigEndian32 timestamp ++
        (bigEndian32 ssrc ++ rest)))).set (payload.length + 12 - 1) 0) 12 payload =
      b₀ :: b₁ :: (bigEndian16 sequenceNumber ++ (bigEndian32 timestamp ++
        (bigEndian32 (if payload = [] then ssrc &&& 0xFFFFFF00 else ssrc) ++ payload))) := by
  rcases payload with _ | ⟨first, payload⟩
  · -- the byte is the last one of the header
    obtain rfl := List.length_eq_zero_iff.mp h
    rw [if_pos rfl, bigEndian32_cleared]
    rfl
  · obtain ⟨first', rest, rfl⟩ : ∃ first' rest', rest = first' :: rest' :=
      List.exists_cons_of_length_eq_add_one h
    have hlength : rest.length = payload.length := by simpa using h
    rw [if_neg (List.cons_ne_nil _ _), show (first :: payload).length + 12 - 1 = payload.length + 12
      from rfl, overwrite, Nat.add_comm 12]
    change b₀ :: b₁ :: (bigEndian16 sequenceNumber ++ (bigEndian32 timestamp ++
      (bigEndian32 ssrc ++ (first :: payload ++
        ((first' :: rest).set payload.length 0).drop (first :: payload).length)))) = _
    rw [List.drop_eq_nil_of_le (by simp [hlength]), List.append_nil]

/-- The bytes of a packet that is built over others. -/
theorem built {span : List UInt8} {payload : List UInt8}
    (hspan : span.length = payload.length + 12) (hsmall : payload.length + 12 < 65536)
    (hclean : span.getD 0 0 = 0 ∨ span.getD 0 0 = 0b10000000) (payloadType : UInt8) (marker : Bool)
    (s : TranscodedRtpStream) :
    ∃ v, ((((((PacketView.ofSpan span).setTimestamp s.timestamp).setPayloadType payloadType).setSsrc
        s.ssrc).setSequenceNumber s.sequenceNumber).setMarker marker).setPayloadSize
          (narrow payload.length) = .ok v ∧
      (v.copyPayload payload).buffer =
        (plain (s.packet payloadType payload marker)
          (packet_payloadType payloadType payload marker s)).encode := by
  obtain ⟨b₀, b₁, b₂, b₃, b₄, b₅, b₆, b₇, b₈, b₉, b₁₀, b₁₁, rest, rfl⟩ :=
    exists_header span (by omega)
  have hrest : rest.length = payload.length := by simpa using hspan
  have hversion := version_byte (b := b₀) (by simpa using hclean)
  have hsecond := second_byte b₁ payloadType marker
  set header : PacketView := (((((PacketView.ofSpan _).setTimestamp s.timestamp).setPayloadType
    payloadType).setSsrc s.ssrc).setSequenceNumber s.sequenceNumber).setMarker marker with hheader
  have hbuffer : header.buffer = 0b10000000 ::
      UInt8.ofNat ((if marker then 128 else 0) + (payloadType &&& 0x7F).toNat) ::
        (bigEndian16 s.sequenceNumber ++ (bigEndian32 s.timestamp ++ (bigEndian32 s.ssrc ++ rest))) := by
    have hofSpan : (PacketView.ofSpan (b₀ :: b₁ :: b₂ :: b₃ :: b₄ :: b₅ :: b₆ :: b₇ :: b₈ :: b₉ ::
        b₁₀ :: b₁₁ :: rest)).buffer = 0b10000000 :: b₁ :: b₂ :: b₃ :: b₄ :: b₅ :: b₆ :: b₇ :: b₈ ::
          b₉ :: b₁₀ :: b₁₁ :: rest := by
      have hlong : ¬ (b₀ :: b₁ :: b₂ :: b₃ :: b₄ :: b₅ :: b₆ :: b₇ :: b₈ :: b₉ :: b₁₀ :: b₁₁ ::
          rest).length < kFixedRTPSize := by
        rw [hspan, kFixedRTPSize]
        omega
      simp only [PacketView.ofSpan, if_neg hlong]
      exact congrArg (List.cons · _) hversion
    rw [← hsecond]
    simp only [hheader, PacketView.setTimestamp, PacketView.setPayloadType, PacketView.setSsrc,
      PacketView.setSequenceNumber, PacketView.setMarker, hofSpan]
    rfl
  have hlength : header.buffer.length = payload.length + 12 := by
    rw [hbuffer]
    simp only [List.length_cons, List.length_append, bigEndian16_length, bigEndian32_length, hrest]
    omega
  have hoffset : header.payloadOffset = 12 := rfl
  have hpadding : header.paddingBytes = 0 := rfl
  have hsize : narrow payload.length = payload.length := narrow_of_lt (by omega)
  have hpacketSize : narrow ((12 + payload.length + (0 : UInt8).toNat : ℕ) : ℤ) =
      payload.length + 12 := by
    change narrow ((12 + payload.length : ℕ) : ℤ) = _
    rw [Nat.add_comm, narrow_of_lt hsmall]
  refine ⟨_, if_neg ?_, ?_⟩
  · rw [hoffset, hpadding, hsize, hlength]
    simp
    omega
  · simp only [PacketView.copyPayload, hoffset, hpadding, hsize, hpacketSize, encode_plain]
    rw [hbuffer]
    change overwrite (List.set _ (payload.length + 12 - 1) 0) 12 payload = 0b10000000 ::
      UInt8.ofNat ((if marker then 128 else 0) + (payloadType &&& 0x7F).toNat) ::
        (bigEndian16 s.sequenceNumber ++ (bigEndian32 s.timestamp ++
          (bigEndian32 (if payload = [] then s.ssrc &&& 0xFFFFFF00 else s.ssrc) ++ payload)))
    exact overwrite_payload _ _ _ _ s.ssrc hrest

theorem length_encode_plain (pkt : SentPacket) (h : pkt.payloadType.toNat < 128) :
    (plain pkt h).encode.length = pkt.payload.length + 12 := by
  rw [Packet.length_encode]
  simp only [plain, Packet.encodeExtension, Option.map_none, Option.getD_none, List.length_nil]
  omega

/-- The datagram is the packet, and fits a receive buffer. -/
def Carries (datagram : List UInt8) (pkt : SentPacket) : Prop :=
  Fits pkt.payload ∧ ∃ h, datagram = (plain pkt h).encode

/-- A send writes the packet of the abstract stream, or fails as it does. -/
theorem sendAs_bytes {s : WireStream} (hclean : Clean s.sendBuffer) (payloadType : UInt8)
    (payload : List UInt8) (marker : Bool) :
    Clean (s.sendAs payloadType payload marker).1.sendBuffer ∧
      (s.sendAs payloadType payload marker).1.toTranscodedRtpStream =
        (s.toTranscodedRtpStream.sendAs payloadType payload marker).1 ∧
      ((∃ datagram pkt, (s.sendAs payloadType payload marker).2 = .ok datagram ∧
          (s.toTranscodedRtpStream.sendAs payloadType payload marker).2 = .ok pkt ∧
          Carries datagram pkt) ∨
        ∃ err, (s.sendAs payloadType payload marker).2 = .error err ∧
          (s.toTranscodedRtpStream.sendAs payloadType payload marker).2 = .error err) := by
  obtain ⟨hlength, hfirst⟩ := hclean
  by_cases hfits : Fits payload
  · have habstract := Transcoding.sendAs_fits hfits payloadType marker s.toTranscodedRtpStream
    have hfits' : payload.length + 12 ≤ 1500 := hfits
    have hbuffer : s.sendBuffer.length = 1500 := hlength
    have hspan : (s.sendBuffer.take (payload.length + 12)).length = payload.length + 12 := by
      rw [List.length_take]
      omega
    have hfirst' : (s.sendBuffer.take (payload.length + 12)).getD 0 0 = s.sendBuffer.getD 0 0 := by
      rcases s.sendBuffer with _ | ⟨b, rest⟩ <;> rfl
    obtain ⟨v, hv, hwritten⟩ := built hspan (by omega) (by rw [hfirst']; exact hfirst) payloadType
      marker s.toTranscodedRtpStream
    have hwire : s.sendAs payloadType payload marker =
        ({ s with
            sequenceNumber := s.sequenceNumber + 1
            sendBuffer := (v.copyPayload payload).buffer ++ s.sendBuffer.drop (payload.length + 12) },
          .ok (v.copyPayload payload).buffer) := by
      have hsmall : ¬ payload.length + kFixedRtpHeaderSize > s.sendBuffer.length := by
        rw [hbuffer, kFixedRtpHeaderSize]
        omega
      rw [WireStream.sendAs, if_neg hsmall]
      simp only [kFixedRtpHeaderSize, hv]
      rfl
    rw [hwire, habstract]
    refine ⟨⟨?_, .inr ?_⟩, rfl, .inl ⟨_, _, rfl, rfl, hfits, _, hwritten⟩⟩
    · rw [List.length_append, hwritten, length_encode_plain, List.length_drop, hbuffer,
        show (s.toTranscodedRtpStream.packet payloadType payload marker).payload = payload from rfl,
        kMaxRtpPacketSize]
      omega
    · rw [hwritten, encode_plain]
      rfl
  · have hlarge : payload.length + kFixedRtpHeaderSize > kMaxRtpPacketSize := Nat.lt_of_not_le hfits
    have habstract : s.toTranscodedRtpStream.sendAs payloadType payload marker =
        (s.toTranscodedRtpStream, .error .fixedBufferTooSmall) := if_pos hlarge
    have hwire : s.sendAs payloadType payload marker = (s, .error .fixedBufferTooSmall) :=
      if_pos (by rw [hlength]; exact hlarge)
    rw [hwire, habstract]
    exact ⟨⟨hlength, hfirst⟩, rfl, .inr ⟨_, rfl, rfl⟩⟩

theorem send_bytes (dst : Transcoding.CodecParam) (dstInfo : SupportedCodec) {s : WireStream}
    (hclean : Clean s.sendBuffer) (send : Send) :
    Clean (s.send dst dstInfo send).1.sendBuffer ∧
      (s.send dst dstInfo send).1.toTranscodedRtpStream =
        (s.toTranscodedRtpStream.send dst dstInfo send).1 ∧
      ((∃ datagram pkt, (s.send dst dstInfo send).2 = .ok datagram ∧
          (s.toTranscodedRtpStream.send dst dstInfo send).2 = .ok pkt ∧ Carries datagram pkt) ∨
        ∃ err, (s.send dst dstInfo send).2 = .error err ∧
          (s.toTranscodedRtpStream.send dst dstInfo send).2 = .error err) := by
  cases send with
  | audio encoded numFrames =>
    exact sendAs_bytes (s := { s with
      timestamp := s.timestamp + UInt32.ofNat (Transcoding.timestampTicks dst dstInfo numFrames) })
      hclean s.audioPayloadType encoded false
  | dtmf payloadType payload marker => exact sendAs_bytes hclean payloadType payload marker

/-- The datagrams of a run are the packets of the abstract stream. -/
theorem sendAll_bytes (dst : Transcoding.CodecParam) (dstInfo : SupportedCodec) (sends : List Send)
    {s : WireStream} (hclean : Clean s.sendBuffer) :
    List.Forall₂ Carries (s.sendAll dst dstInfo sends)
      (s.toTranscodedRtpStream.sendAll dst dstInfo sends) := by
  induction sends generalizing s with
  | nil => exact .nil
  | cons send sends ih =>
    obtain ⟨hclean', hstream, hresult⟩ := send_bytes dst dstInfo hclean send
    have hrest := ih hclean'
    rw [hstream] at hrest
    rw [WireStream.sendAll, TranscodedRtpStream.sendAll]
    rcases hresult with ⟨datagram, pkt, hok, hok', hcarries⟩ | ⟨err, herr, herr'⟩
    · simp only [hok, hok']
      exact .cons hcarries hrest
    · simp only [herr, herr']
      exact hrest

/-- Whatever the receive buffer has behind the datagram, parsing it shows the packet. -/
def Received (datagram : List UInt8) (pkt : SentPacket) : Prop :=
  ∃ h, ∀ stale, ∃ v, PacketView.parse (datagram ++ stale) datagram.length = .ok v ∧
    v.Shows (plain pkt h)

/-- **What is sent is received.**  For every stream and every run of sends, of any
payloads: the other side parses the datagrams, in order, to the packets of the abstract
stream, which are those whose payload fits. -/
theorem sends_received (dst : Transcoding.CodecParam) (dstInfo : SupportedCodec)
    (s : TranscodedRtpStream) (sends : List Send) :
    List.Forall₂ Received ((WireStream.new s).sendAll dst dstInfo sends)
      (s.sendAll dst dstInfo sends) := by
  have hclean : Clean (WireStream.new s).sendBuffer := by
    refine ⟨List.length_replicate, .inl ?_⟩
    rfl
  refine (sendAll_bytes dst dstInfo sends hclean).imp fun datagram pkt hcarries => ?_
  obtain ⟨hfits, h, rfl⟩ := hcarries
  have hfits' : pkt.payload.length + 12 ≤ 1500 := hfits
  exact ⟨h, fun stale => parse_encode (plain pkt h) stale (by rw [length_encode_plain]; omega)⟩

/-! ### A packet that is passed through -/

/-- What the relay loop asks a view for. -/
def PacketView.received (v : PacketView) : RtpPacket where
  payloadType := v.fields.payloadType
  marker := v.fields.isMarked
  payload := v.payload.toOption.getD []

/-- What a direction without a transcoder sends of a packet, if anything: the bytes it
was received in, whose payload type `relay_dtmf_pt` rewrites in place. -/
def forward (srcDtmfPt dstDtmfPt : Option UInt8) (v : PacketView) : Option (List UInt8) :=
  match relayDtmfPt v.received srcDtmfPt dstDtmfPt with
  | .notDtmf => some (v.buffer.take v.packetSize)
  | .dropUnmapped => none
  | .relay payloadType =>
    let v := if payloadType ≠ v.fields.payloadType then v.setPayloadType payloadType else v
    some (v.buffer.take v.packetSize)

/-- The packet under another payload type, and nothing else changed, where that has seven
bits.  The setter does not mask: of a payload type from 128 on the eighth bit sets the
marker, and the others are the payload type. -/
def Packet.relabel (payloadType : UInt8) (p : Packet) : Packet :=
  if h : payloadType.toNat < 128 then
    { p with payloadType := payloadType, payloadType_lt := h }
  else
    { p with
      marker := true
      payloadType := payloadType &&& 0b01111111
      payloadType_lt := by
        rw [(bits payloadType).2.2.2.2.2]
        exact Nat.mod_lt _ (by decide) }

/-- The packet of the abstract relay, if the packet is not dropped. -/
def relayed (srcDtmfPt dstDtmfPt : Option UInt8) (p : Packet) : Option Packet :=
  if srcDtmfPt = some p.payloadType then dstDtmfPt.map p.relabel else some p

theorem Packet.relabel_self (p : Packet) : p.relabel p.payloadType = p := dif_pos p.payloadType_lt

theorem Packet.length_encode_relabel (payloadType : UInt8) (p : Packet) :
    (p.relabel payloadType).encode.length = p.encode.length := by
  rw [Packet.length_encode, Packet.length_encode, Packet.relabel]
  split_ifs <;> rfl

/-- The second byte, after the setter of the payload type alone. -/
theorem relabel_byte (p : Packet) (payloadType : UInt8) :
    (p.secondByte &&& 0b10000000) ||| payloadType = (p.relabel payloadType).secondByte := by
  have hlow : ∀ n < 128, UInt8.ofNat n &&& 0b10000000 = 0 ∧
      UInt8.ofNat (128 + n) &&& 0b10000000 = 0b10000000 := by decide +kernel
  have htop : p.secondByte &&& 0b10000000 = if p.marker then 0b10000000 else 0 := by
    have hpt := hlow p.payloadType.toNat p.payloadType_lt
    rw [Packet.secondByte]
    cases p.marker with
    | false => simpa using hpt.1
    | true => simpa using hpt.2
  have hseven : ∀ n < 128, ∀ m ∈ [true, false],
      (if m then (0b10000000 : UInt8) else 0) ||| UInt8.ofNat n =
        UInt8.ofNat ((if m then 128 else 0) + n) := by decide +kernel
  have hrest : ∀ n < 256, 128 ≤ n → ∀ m ∈ [true, false],
      (if m then (0b10000000 : UInt8) else 0) ||| UInt8.ofNat n =
        UInt8.ofNat (128 + (UInt8.ofNat n &&& 0b01111111).toNat) := by decide +kernel
  have hmarker : p.marker ∈ [true, false] := by cases p.marker <;> simp
  by_cases h : payloadType.toNat < 128
  · have hor := hseven payloadType.toNat h p.marker hmarker
    rw [UInt8.ofNat_toNat] at hor
    rw [htop, Packet.relabel, dif_pos h]
    exact hor
  · have hor := hrest payloadType.toNat payloadType.toNat_lt (by omega) p.marker hmarker
    rw [UInt8.ofNat_toNat] at hor
    rw [htop, Packet.relabel, dif_neg h]
    exact hor

/-- The setter writes the packet under its new payload type. -/
theorem modify_encode (p : Packet) (payloadType : UInt8) (stale : List UInt8) :
    (p.encode ++ stale).modify 1 (fun b => (b &&& 0b10000000) ||| payloadType) =
      (p.relabel payloadType).encode ++ stale := by
  change p.firstByte :: ((p.secondByte &&& 0b10000000) ||| payloadType) :: _ = _
  rw [relabel_byte, Packet.relabel]
  split_ifs <;> rfl

theorem PacketView.packetSize_of_parse {buffer : List UInt8} {n : ℕ} {v : PacketView}
    (h : PacketView.parse buffer n = .ok v) : v.buffer = buffer ∧ v.packetSize = narrow n := by
  simp only [PacketView.parse, PacketView.parseExtension] at h
  split_ifs at h <;> cases h <;> exact ⟨rfl, rfl⟩

/-- **A packet that is passed through arrives whole.**  Whatever packet is received and
whatever the receive buffer has behind it: it is dropped if it is a telephone event that
the other leg has no payload type for; else the other side parses, from what is sent, the
packet of the abstract relay: the same headers, extension, payload and padding, a telephone
event under the payload type of the other leg, and with its marker set if that is 128 or
more. -/
theorem forward_received (srcDtmfPt dstDtmfPt : Option UInt8) (p : Packet) (stale : List UInt8)
    (hsize : p.encode.length < 65536) :
    ∃ v, PacketView.parse (p.encode ++ stale) p.encode.length = .ok v ∧
      forward srcDtmfPt dstDtmfPt v = (relayed srcDtmfPt dstDtmfPt p).map Packet.encode ∧
      ∀ q ∈ relayed srcDtmfPt dstDtmfPt p, ∀ behind, ∃ w,
        PacketView.parse (q.encode ++ behind) q.encode.length = .ok w ∧ w.Shows q := by
  obtain ⟨v, hv, hshows⟩ := parse_encode p stale hsize
  obtain ⟨hbuffer, hpacketSize⟩ := PacketView.packetSize_of_parse hv
  rw [narrow_of_lt hsize] at hpacketSize
  have hpt : v.fields.payloadType = p.payloadType := by
    rw [hshows.fields]
    rfl
  have htake : v.buffer.take v.packetSize = p.encode := by
    rw [hbuffer, hpacketSize, List.take_left]
  refine ⟨v, hv, ?_, ?_⟩
  · rw [forward, relayed]
    rcases srcDtmfPt with _ | src
    · simp [relayDtmfPt, htake]
    simp only [relayDtmfPt, PacketView.received, hpt, Option.some.injEq, ne_eq]
    by_cases hsrc : p.payloadType = src
    · rw [if_neg (by simpa using hsrc), if_pos hsrc.symm]
      rcases dstDtmfPt with _ | dst
      · rfl
      by_cases hdst : dst = p.payloadType
      · simp only [hdst, not_true_eq_false, if_false, htake, Option.map_some, p.relabel_self]
      · simp only [hdst, not_false_eq_true, if_true, PacketView.setPayloadType, hbuffer,
          modify_encode, Option.map_some]
        rw [hpacketSize, ← p.length_encode_relabel dst, List.take_left]
    · rw [if_pos (by simpa using hsrc), if_neg (fun h => hsrc h.symm)]
      simp [htake]
  · intro q hq behind
    have hlength : q.encode.length = p.encode.length := by
      rw [relayed] at hq
      split_ifs at hq with hsrc
      · obtain ⟨dst, _, rfl⟩ := Option.map_eq_some_iff.mp hq
        exact p.length_encode_relabel dst
      · cases hq
        rfl
    exact parse_encode q behind (by omega)

/-- A telephone event, with a header extension and padding. -/
def telephoneEvent : Packet where
  marker := true
  payloadType := 101
  sequenceNumber := 7
  timestamp := 1600
  ssrc := 0x1234
  csrc := [0x5678]
  extension := some ⟨0xBEDE, [1, 2, 3, 4], 1, by decide, rfl⟩
  payload := [5, 10, 0, 160]
  padding := [0, 0, 0, 4]
  payloadType_lt := by decide
  csrc_le := by decide
  padding_last _ := ⟨[0, 0, 0], 4, rfl, rfl⟩

theorem forward_received_telephone_event :
    ∃ v, PacketView.parse (telephoneEvent.encode ++ [0]) telephoneEvent.encode.length = .ok v ∧
      forward (some 101) (some 96) v = some (telephoneEvent.relabel 96).encode := by
  obtain ⟨v, hv, hforward, -⟩ :=
    forward_received (some 101) (some 96) telephoneEvent [0] (by decide)
  exact ⟨v, hv, hforward⟩

end Rtp

end SbcEngine
