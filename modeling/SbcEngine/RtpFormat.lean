/-
RTP packets as bytes.

A received datagram is parsed in place: the view keeps offsets and sizes of sixteen bits
into the receive buffer, whose bytes behind the datagram are those of earlier ones.

* `PacketView.parse` — the parser, with its checks in the order they are made;
* `Packet`, `Packet.encode` — a packet and its bytes, headers, extension and padding
  included;
* `Shows` — a view that has the fields and the payload of a packet;
* `parse_encode` — every packet is accepted, and shown;
* `accepted_cases` — what else is accepted: padding that reaches into the headers, whose
  payload leaves the buffer, and extensions whose length wraps.

Design notes: `buffer` is what the span points to and everything behind it.  Sizes are
natural numbers that are narrowed where the source narrows them.
-/
import SbcEngine.BigEndian
import SbcEngine.Spans

namespace SbcEngine

namespace Rtp

open BigEndian
open Spans (Fault subspan)

/-! ### The parser -/

inductive Result where
  | bufferTooSmall
  | parseBufferOverflow
  | parseExtensionOverflow
  | invalidRtpHeader
  deriving DecidableEq, Repr

structure FixedHeader where
  timestamp : UInt32
  ssrc : UInt32
  sequenceNumber : UInt16
  csrcCount : UInt8
  payloadType : UInt8
  isExtended : Bool
  isMarked : Bool
  deriving DecidableEq, Repr

structure ExtensionHeader where
  id : UInt16
  length : UInt16
  deriving DecidableEq, Repr

namespace ExtensionHeader

def dataSizeBytes (h : ExtensionHeader) : ℕ := h.length.toNat * 4

def sizeBytes (h : ExtensionHeader) : ℕ := 4 + h.dataSizeBytes

end ExtensionHeader

/-- `RtpPacketView`. -/
structure PacketView where
  buffer : List UInt8
  csrc : List UInt32
  extensionOffset : ℕ
  payloadOffset : ℕ
  payloadSize : ℕ
  packetSize : ℕ
  fields : FixedHeader
  extensionHeader : ExtensionHeader
  paddingBytes : UInt8
  deriving DecidableEq, Repr

def kFixedRTPSize : ℕ := 12

def kCsrcIdsize : ℕ := 4

/-- `narrow_cast<std::uint16_t>` -/
def narrow (n : ℤ) : ℕ := (n % 65536).toNat

namespace PacketView

def calculatePayloadSize (v : PacketView) : PacketView :=
  { v with payloadSize := narrow (v.packetSize - v.payloadOffset - v.paddingBytes.toNat) }

/-- The four bytes of the extension's header are read before any check. -/
def parseExtension (v : PacketView) : Except Result PacketView :=
  let v := { v with extensionOffset := v.payloadOffset }
  let v := { v with extensionHeader := {
    id := readBigEndian16 (v.buffer.drop v.extensionOffset)
    length := readBigEndian16 (v.buffer.drop (v.extensionOffset + 2)) } }
  let v := { v with
    payloadOffset := narrow (v.extensionOffset + v.extensionHeader.sizeBytes) }
  if v.payloadOffset > v.packetSize then .error .parseExtensionOverflow
  else .ok v.calculatePayloadSize

/-- The bits and bytes before the payload, for a packet whose size and version are fine. -/
def header (buffer : List UInt8) (packetSize : ℕ) (padding : UInt8) : PacketView :=
  let csrcCount := buffer.getD 0 0 &&& 0b00001111
  { buffer := buffer
    csrc := readWords csrcCount.toNat (buffer.drop kFixedRTPSize)
    extensionOffset := kFixedRTPSize
    payloadOffset := kFixedRTPSize + csrcCount.toNat * kCsrcIdsize
    payloadSize := 0
    packetSize := packetSize
    fields := {
      timestamp := readBigEndian32 (buffer.drop 4)
      ssrc := readBigEndian32 (buffer.drop 8)
      sequenceNumber := readBigEndian16 (buffer.drop 2)
      csrcCount := csrcCount
      payloadType := buffer.getD 1 0 &&& 0b01111111
      isExtended := (buffer.getD 0 0 &&& 0b00010000) >>> 4 ≠ 0
      isMarked := buffer.getD 1 0 >>> 7 ≠ 0 }
    extensionHeader := { id := 0, length := 0 }
    paddingBytes := padding }

/-- `parse(bytes_received)`.  The padding is checked against the fixed header only. -/
def parse (buffer : List UInt8) (bytesReceived : ℕ) : Except Result PacketView :=
  let packetSize := narrow bytesReceived
  if packetSize < kFixedRTPSize then .error .bufferTooSmall
  else if (buffer.getD 0 0 &&& 0b11000000) >>> 6 ≠ 2 then .error .invalidRtpHeader
  else
    let isPadded : Bool := (buffer.getD 0 0 &&& 0b00100000) >>> 5 ≠ 0
    let padding := if isPadded then buffer.getD (packetSize - 1) 0 else 0
    if isPadded ∧ padding = 0 then .error .invalidRtpHeader
    else if isPadded ∧ packetSize < padding.toNat + kFixedRTPSize then .error .parseBufferOverflow
    else
      let v := header buffer packetSize padding
      if v.payloadOffset > packetSize then .error .parseBufferOverflow
      else if v.fields.isExtended then v.parseExtension
      else .ok v.calculatePayloadSize

def getExtensionHeader (v : PacketView) : Option ExtensionHeader :=
  if v.fields.isExtended then some v.extensionHeader else none

/-- The view of the payload; nothing but its size says where it ends. -/
def payload (v : PacketView) : Except Fault (List UInt8) :=
  subspan v.buffer v.payloadOffset v.payloadSize

def extensionData (v : PacketView) : Except Fault (List UInt8) :=
  if v.fields.isExtended then
    subspan v.buffer (v.extensionOffset + 4) v.extensionHeader.dataSizeBytes
  else .ok []

/-- What the headers take, as they say. -/
def headerSize (v : PacketView) : ℕ :=
  kFixedRTPSize + v.fields.csrcCount.toNat * kCsrcIdsize +
    (v.getExtensionHeader.map ExtensionHeader.sizeBytes).getD 0

end PacketView

/-! ### The format -/

/-- A header extension: an id, and a whole number of words. -/
structure Extension where
  id : UInt16
  data : List UInt8
  words : ∃ n < 2 ^ 16, data.length = n * 4

structure Packet where
  marker : Bool
  payloadType : UInt8
  sequenceNumber : UInt16
  timestamp : UInt32
  ssrc : UInt32
  csrc : List UInt32
  extension : Option Extension
  payload : List UInt8
  padding : List UInt8
  payloadType_lt : payloadType.toNat < 128
  csrc_le : csrc.length ≤ 15
  /-- The last byte of the padding counts it. -/
  padding_last : padding ≠ [] → ∃ rest n, padding = rest ++ [n] ∧ n.toNat = padding.length

namespace Extension

def header (e : Extension) : ExtensionHeader where
  id := e.id
  length := UInt16.ofNat (e.data.length / 4)

def encode (e : Extension) : List UInt8 :=
  bigEndian16 e.header.id ++ bigEndian16 e.header.length ++ e.data

theorem dataSizeBytes_header (e : Extension) : e.header.dataSizeBytes = e.data.length := by
  obtain ⟨n, hn, hlength⟩ := e.words
  rw [ExtensionHeader.dataSizeBytes, header, hlength, Nat.mul_div_cancel n (by decide),
    UInt16.toNat_ofNat', Nat.mod_eq_of_lt hn]

theorem length_encode (e : Extension) : e.encode.length = e.header.sizeBytes := by
  rw [ExtensionHeader.sizeBytes, dataSizeBytes_header, encode, List.length_append,
    List.length_append, bigEndian16_length, bigEndian16_length]

theorem drop_encode (e : Extension) (rest : List UInt8) :
    (e.encode ++ rest).drop 4 = e.data ++ rest := by
  have hfour : (bigEndian16 e.header.id ++ bigEndian16 e.header.length).length = 4 := by
    rw [List.length_append, bigEndian16_length, bigEndian16_length]
  rw [encode, List.append_assoc, List.drop_left' hfour]

end Extension

namespace Packet

/-- Version 2, padding, extension and the number of contributing sources. -/
def firstByte (p : Packet) : UInt8 :=
  UInt8.ofNat (128 + (if p.padding = [] then 0 else 32) +
    (if p.extension.isSome then 16 else 0) + p.csrc.length)

def secondByte (p : Packet) : UInt8 :=
  UInt8.ofNat ((if p.marker then 128 else 0) + p.payloadType.toNat)

/-- The fixed header and the contributing sources. -/
def encodeHeader (p : Packet) : List UInt8 :=
  p.firstByte :: p.secondByte :: (bigEndian16 p.sequenceNumber ++ (bigEndian32 p.timestamp ++
    (bigEndian32 p.ssrc ++ p.csrc.flatMap bigEndian32)))

def encodeExtension (p : Packet) : List UInt8 := (p.extension.map Extension.encode).getD []

def encode (p : Packet) : List UInt8 :=
  p.encodeHeader ++ (p.encodeExtension ++ (p.payload ++ p.padding))

def fields (p : Packet) : FixedHeader where
  timestamp := p.timestamp
  ssrc := p.ssrc
  sequenceNumber := p.sequenceNumber
  csrcCount := UInt8.ofNat p.csrc.length
  payloadType := p.payloadType
  isExtended := p.extension.isSome
  isMarked := p.marker

end Packet

/-- A view has the fields and the parts of a packet. -/
structure PacketView.Shows (v : PacketView) (p : Packet) : Prop where
  fields : v.fields = p.fields
  csrc : v.csrc = p.csrc
  extensionHeader : v.getExtensionHeader = p.extension.map Extension.header
  extensionData : v.extensionData = .ok ((p.extension.map Extension.data).getD [])
  payload : v.payload = .ok p.payload
  paddingBytes : v.paddingBytes.toNat = p.padding.length

/-! ### Bits -/

/-- The fields of the first byte, and of the second. -/
theorem bits (b : UInt8) :
    ((b &&& 0b11000000) >>> 6 = 2 ↔ b.toNat / 64 = 2) ∧
      ((b &&& 0b00100000) >>> 5 ≠ 0 ↔ b.toNat / 32 % 2 = 1) ∧
      ((b &&& 0b00010000) >>> 4 ≠ 0 ↔ b.toNat / 16 % 2 = 1) ∧
      (b &&& 0b00001111).toNat = b.toNat % 16 ∧ (b >>> 7 ≠ 0 ↔ b.toNat / 128 = 1) ∧
      (b &&& 0b01111111).toNat = b.toNat % 128 := by
  have hall : ∀ n < 256,
      ((UInt8.ofNat n &&& 0b11000000) >>> 6 = 2 ↔ n / 64 = 2) ∧
      ((UInt8.ofNat n &&& 0b00100000) >>> 5 ≠ 0 ↔ n / 32 % 2 = 1) ∧
      ((UInt8.ofNat n &&& 0b00010000) >>> 4 ≠ 0 ↔ n / 16 % 2 = 1) ∧
      (UInt8.ofNat n &&& 0b00001111).toNat = n % 16 ∧
      (UInt8.ofNat n >>> 7 ≠ 0 ↔ n / 128 = 1) ∧
      (UInt8.ofNat n &&& 0b01111111).toNat = n % 128 := by
    decide +kernel
  have hb := hall b.toNat b.toNat_lt
  rwa [UInt8.ofNat_toNat] at hb

theorem narrow_of_lt {n : ℕ} (h : n < 65536) : narrow n = n := by
  rw [narrow]
  omega

namespace Packet

variable (p : Packet)

theorem toNat_firstByte :
    p.firstByte.toNat = 128 + (if p.padding = [] then 0 else 32) +
      (if p.extension.isSome then 16 else 0) + p.csrc.length := by
  have hcsrc := p.csrc_le
  rw [firstByte, UInt8.toNat_ofNat', Nat.mod_eq_of_lt]
  split_ifs <;> omega

theorem toNat_secondByte :
    p.secondByte.toNat = (if p.marker then 128 else 0) + p.payloadType.toNat := by
  have hpt := p.payloadType_lt
  rw [secondByte, UInt8.toNat_ofNat', Nat.mod_eq_of_lt]
  split_ifs <;> omega

theorem length_encodeHeader : p.encodeHeader.length = 12 + p.csrc.length * 4 := by
  simp only [encodeHeader, List.length_cons, List.length_append, bigEndian16_length,
    bigEndian32_length, length_words]
  omega

theorem length_encode :
    p.encode.length = 12 + p.csrc.length * 4 + p.encodeExtension.length + p.payload.length +
      p.padding.length := by
  rw [encode, List.length_append, length_encodeHeader, List.length_append, List.length_append]
  omega

theorem encode_append (stale : List UInt8) :
    p.encode ++ stale =
      p.encodeHeader ++ (p.encodeExtension ++ (p.payload ++ (p.padding ++ stale))) := by
  simp only [encode, List.append_assoc]

/-- What follows the fixed header and the contributing sources. -/
theorem drop_encode (stale : List UInt8) :
    (p.encode ++ stale).drop (12 + p.csrc.length * 4) =
      p.encodeExtension ++ (p.payload ++ (p.padding ++ stale)) := by
  rw [encode_append, List.drop_left' p.length_encodeHeader]

/-- The last byte of a padded packet. -/
theorem last_encode (stale : List UInt8) (h : p.padding ≠ []) :
    ((p.encode ++ stale).getD (p.encode.length - 1) 0).toNat = p.padding.length := by
  obtain ⟨rest, n, hpadding, hn⟩ := p.padding_last h
  have hsplit : p.encode = (p.encodeHeader ++ (p.encodeExtension ++ (p.payload ++ rest))) ++ [n] := by
    rw [encode, hpadding]
    simp only [List.append_assoc]
  rw [← hn, hsplit, List.length_append, List.length_singleton, Nat.add_sub_cancel, List.append_assoc]
  simp

theorem csrcCount_encode :
    (p.firstByte &&& 0b00001111) = UInt8.ofNat p.csrc.length := by
  have hcsrc := p.csrc_le
  rw [← UInt8.toNat_inj, (bits p.firstByte).2.2.2.1, toNat_firstByte, UInt8.toNat_ofNat',
    Nat.mod_eq_of_lt (b := 2 ^ 8) (by omega)]
  split_ifs <;> omega

/-- The bits and bytes before the extension are those of the packet. -/
theorem header_encode (stale : List UInt8) (n : ℕ) (padding : UInt8) :
    PacketView.header (p.encode ++ stale) n padding =
      { buffer := p.encode ++ stale
        csrc := p.csrc
        extensionOffset := 12
        payloadOffset := 12 + p.csrc.length * 4
        payloadSize := 0
        packetSize := n
        fields := p.fields
        extensionHeader := { id := 0, length := 0 }
        paddingBytes := padding } := by
  have hcsrc := p.csrc_le
  have hpt := p.payloadType_lt
  have hcount : (p.firstByte &&& 0b00001111).toNat = p.csrc.length := by
    rw [csrcCount_encode, UInt8.toNat_ofNat', Nat.mod_eq_of_lt (by omega)]
  have hzero : (p.encode ++ stale).getD 0 0 = p.firstByte := rfl
  have hone : (p.encode ++ stale).getD 1 0 = p.secondByte := rfl
  have hdrop : ∀ k l, p.encodeHeader.drop k = l →
      k ≤ p.encodeHeader.length → (p.encode ++ stale).drop k =
        l ++ (p.encodeExtension ++ (p.payload ++ (p.padding ++ stale))) := by
    rintro k l rfl hk
    rw [encode_append, List.drop_append_of_le_length hk]
  have hlength := p.length_encodeHeader
  have htwo := hdrop 2 _ rfl (by omega)
  have hfour := hdrop 4 _ rfl (by omega)
  have height := hdrop 8 _ rfl (by omega)
  have htwelve := hdrop 12 _ rfl (by omega)
  simp only [encodeHeader, List.drop_succ_cons, List.drop_zero, bigEndian16, bigEndian32,
    List.cons_append, List.nil_append] at htwo hfour height htwelve
  rw [PacketView.header, hzero, hone, hcount]
  simp only [kFixedRTPSize, kCsrcIdsize, htwelve, fields, PacketView.mk.injEq, true_and, and_true,
    FixedHeader.mk.injEq]
  refine ⟨readWords_words p.csrc _, ?_, ?_, ?_, csrcCount_encode p, ?_, ?_, ?_⟩
  · rw [hfour]
    exact read_bigEndian32 p.timestamp _
  · rw [height]
    exact read_bigEndian32 p.ssrc _
  · rw [htwo]
    exact read_bigEndian16 p.sequenceNumber _
  · rw [← UInt8.toNat_inj, (bits p.secondByte).2.2.2.2.2, toNat_secondByte]
    split_ifs <;> omega
  · have hext := (bits p.firstByte).2.2.1
    rw [toNat_firstByte] at hext
    cases hcase : p.extension.isSome with
    | false =>
      rw [decide_eq_false_iff_not, hext]
      split_ifs <;> simp_all <;> omega
    | true =>
      rw [decide_eq_true_iff, hext]
      split_ifs <;> simp_all <;> omega
  · have hmark := (bits p.secondByte).2.2.2.2.1
    rw [toNat_secondByte] at hmark
    cases hcase : p.marker with
    | false =>
      rw [decide_eq_false_iff_not, hmark, hcase]
      simp
      omega
    | true =>
      rw [decide_eq_true_iff, hmark, hcase]
      simp
      omega

/-- The payload is where the headers end. -/
theorem subspan_payload (stale : List UInt8) :
    subspan (p.encode ++ stale) (12 + p.csrc.length * 4 + p.encodeExtension.length)
      p.payload.length = .ok p.payload := by
  have hlength := p.length_encode
  rw [subspan, if_pos (by rw [List.length_append]; omega), ← List.drop_drop, drop_encode,
    List.drop_left, List.take_left]

/-- The payload's size is what the headers and the padding leave. -/
theorem narrow_payload {padding : UInt8} (h : p.encode.length < 65536)
    (hpadding : padding.toNat = p.padding.length) :
    narrow (p.encode.length - (12 + p.csrc.length * 4 + p.encodeExtension.length : ℕ) -
      padding.toNat) = p.payload.length := by
  have hlength := p.length_encode
  rw [← narrow_of_lt (n := p.payload.length) (by omega)]
  congr 1
  omega

end Packet

/-! ### Packets are accepted -/

namespace PacketView

theorem header_extension {buffer : List UInt8} {n : ℕ} {padding : UInt8} :
    (header buffer n padding).fields.isExtended = true ↔ (buffer.getD 0 0).toNat / 16 % 2 = 1 := by
  rw [← (bits (buffer.getD 0 0)).2.2.1, header, decide_eq_true_iff]

/-- The checks that every datagram goes through, and what comes after them. -/
theorem parse_eq {buffer : List UInt8} {n : ℕ} (hn : n < 65536) :
    parse buffer n =
      let padding := if (buffer.getD 0 0).toNat / 32 % 2 = 1 then buffer.getD (n - 1) 0 else 0
      let v := header buffer n padding
      if n < 12 then .error .bufferTooSmall
      else if (buffer.getD 0 0).toNat / 64 ≠ 2 then .error .invalidRtpHeader
      else if (buffer.getD 0 0).toNat / 32 % 2 = 1 ∧ padding = 0 then .error .invalidRtpHeader
      else if (buffer.getD 0 0).toNat / 32 % 2 = 1 ∧ n < padding.toNat + 12 then
        .error .parseBufferOverflow
      else if v.payloadOffset > n then .error .parseBufferOverflow
      else if v.fields.isExtended then v.parseExtension
      else .ok v.calculatePayloadSize := by
  have hversion := (bits (buffer.getD 0 0)).1
  have hpadded := (bits (buffer.getD 0 0)).2.1
  simp only [parse, narrow_of_lt hn, ne_eq, hversion, decide_eq_true_eq, kFixedRTPSize]
  simp only [ne_eq] at hpadded
  simp only [hpadded]

end PacketView

/-- **Packets are accepted.**  A datagram that is a packet is accepted whatever the
receive buffer has behind it, and the view shows the packet. -/
theorem parse_encode (p : Packet) (stale : List UInt8) (h : p.encode.length < 65536) :
    ∃ v, PacketView.parse (p.encode ++ stale) p.encode.length = .ok v ∧ v.Shows p := by
  have hlength := p.length_encode
  have hcsrc := p.csrc_le
  have hfirst := p.toNat_firstByte
  have hzero : (p.encode ++ stale).getD 0 0 = p.firstByte := rfl
  have hversion : p.firstByte.toNat / 64 = 2 := by
    rw [hfirst]
    split_ifs <;> omega
  have hpadded : p.firstByte.toNat / 32 % 2 = 1 ↔ p.padding ≠ [] := by
    rw [hfirst]
    split_ifs with h₁ h₂ h₂ <;> simp [h₁] <;> omega
  set padding := if p.firstByte.toNat / 32 % 2 = 1 then
    (p.encode ++ stale).getD (p.encode.length - 1) 0 else 0 with hpadding
  have hbytes : padding.toNat = p.padding.length := by
    rw [hpadding]
    split_ifs with hpad
    · exact p.last_encode stale (hpadded.mp hpad)
    · have hnil : p.padding = [] := by
        by_contra hne
        exact hpad (hpadded.mpr hne)
      rw [hnil]
      rfl
  have hchecked : ¬ (p.firstByte.toNat / 32 % 2 = 1 ∧ padding = 0) := by
    rintro ⟨hpad, heq⟩
    rw [heq] at hbytes
    exact hpadded.mp hpad (List.length_eq_zero_iff.mp hbytes.symm)
  rw [PacketView.parse_eq h]
  simp only [hzero]
  rw [← hpadding, if_neg (by omega), if_neg (by simpa using hversion), if_neg hchecked,
    if_neg (by rw [hbytes]; omega), p.header_encode, if_neg (by simp only; omega)]
  cases hext : p.extension with
  | none =>
    have hnil : p.encodeExtension = [] := by rw [Packet.encodeExtension, hext]; rfl
    have hpayload := p.subspan_payload stale
    have hsize := p.narrow_payload h hbytes
    rw [hnil, List.length_nil, Nat.add_zero] at hpayload hsize
    have hplain : p.fields.isExtended = false := by rw [Packet.fields, hext]; rfl
    simp only [hplain, Bool.false_eq_true, if_false]
    refine ⟨_, rfl, rfl, rfl, ?_, ?_, ?_, hbytes⟩
    · simp [PacketView.calculatePayloadSize, PacketView.getExtensionHeader, hplain, hext]
    · simp [PacketView.calculatePayloadSize, PacketView.extensionData, hplain, hext]
    · simp only [PacketView.payload, PacketView.calculatePayloadSize]
      rw [show narrow _ = p.payload.length from hsize]
      exact hpayload
  | some e =>
    have henc : p.encodeExtension = e.encode := by rw [Packet.encodeExtension, hext]; rfl
    have hpayload := p.subspan_payload stale
    have hsize := p.narrow_payload h hbytes
    have hdrop := p.drop_encode stale
    rw [henc] at hpayload hsize hdrop hlength
    have hextended : p.fields.isExtended = true := by rw [Packet.fields, hext]; rfl
    have hid : readBigEndian16 ((p.encode ++ stale).drop (12 + p.csrc.length * 4)) = e.header.id := by
      rw [hdrop, Extension.encode, List.append_assoc, List.append_assoc]
      exact read_bigEndian16 e.header.id _
    have hlen : readBigEndian16 ((p.encode ++ stale).drop (12 + p.csrc.length * 4 + 2)) =
        e.header.length := by
      rw [← List.drop_drop, hdrop, Extension.encode, List.append_assoc, List.append_assoc,
        List.drop_left' (bigEndian16_length _)]
      exact read_bigEndian16 e.header.length _
    have hsizeBytes := e.length_encode
    have hoffset : narrow ((12 + p.csrc.length * 4 : ℕ) + (e.header.sizeBytes : ℕ)) =
        12 + p.csrc.length * 4 + e.encode.length := by
      rw [← hsizeBytes, ← Int.natCast_add, narrow_of_lt (by omega)]
    simp only [hextended, if_true, PacketView.parseExtension, hid, hlen]
    rw [show ({ id := e.header.id, length := e.header.length } : ExtensionHeader) = e.header from rfl,
      show narrow _ = _ from hoffset, if_neg (by omega)]
    refine ⟨_, rfl, rfl, rfl, ?_, ?_, ?_, hbytes⟩
    · simp [PacketView.calculatePayloadSize, PacketView.getExtensionHeader, hextended, hext]
    · simp only [PacketView.calculatePayloadSize, PacketView.extensionData, hextended, if_true, hext,
        Option.map_some, Option.getD_some]
      rw [ExtensionHeader.sizeBytes] at hsizeBytes
      change subspan _ _ e.header.dataSizeBytes = _
      rw [subspan, if_pos (by rw [List.length_append]; omega), ← List.drop_drop, hdrop, e.drop_encode,
        e.dataSizeBytes_header, List.take_left]
    · simp only [PacketView.payload, PacketView.calculatePayloadSize]
      rw [show narrow _ = p.payload.length from hsize]
      exact hpayload

/-! ### What is accepted -/

/-- Everything a view that was accepted says of the datagram. -/
structure PacketView.Accepted (v : PacketView) (buffer : List UInt8) (n : ℕ) : Prop where
  size : 12 ≤ n
  version : (buffer.getD 0 0).toNat / 64 = 2
  padding : v.paddingBytes =
    if (buffer.getD 0 0).toNat / 32 % 2 = 1 then buffer.getD (n - 1) 0 else 0
  padded : (buffer.getD 0 0).toNat / 32 % 2 = 1 → v.paddingBytes ≠ 0
  fields : v.fields = (PacketView.header buffer n v.paddingBytes).fields
  csrc : v.csrc = readWords (buffer.getD 0 0 &&& 0b00001111).toNat (buffer.drop 12)
  fits : 12 + (buffer.getD 0 0).toNat % 16 * 4 ≤ n
  extensionHeader : v.getExtensionHeader =
    if (buffer.getD 0 0).toNat / 16 % 2 = 1 then
      some ⟨readBigEndian16 (buffer.drop (12 + (buffer.getD 0 0).toNat % 16 * 4)),
        readBigEndian16 (buffer.drop (12 + (buffer.getD 0 0).toNat % 16 * 4 + 2))⟩
    else none
  view : v.buffer = buffer
  payloadOffset : v.payloadOffset = narrow v.headerSize
  payloadOffset_le : v.payloadOffset ≤ n
  payloadSize : v.payloadSize = narrow (n - v.payloadOffset - v.paddingBytes.toNat)

namespace PacketView

theorem parse_accepted {buffer : List UInt8} {n : ℕ} (hn : n < 65536) {v : PacketView}
    (h : parse buffer n = .ok v) : v.Accepted buffer n := by
  have hcount := (bits (buffer.getD 0 0)).2.2.2.1
  rw [parse_eq hn] at h
  dsimp only at h
  generalize hpadding : (if (buffer.getD 0 0).toNat / 32 % 2 = 1 then buffer.getD (n - 1) 0 else 0) =
    padding at h
  have hoffset : (header buffer n padding).payloadOffset =
      12 + (buffer.getD 0 0).toNat % 16 * 4 := by
    simp only [header, kFixedRTPSize, kCsrcIdsize, hcount]
  have hfieldCount : (header buffer n padding).fields.csrcCount.toNat =
      (buffer.getD 0 0).toNat % 16 := hcount
  split_ifs at h with hsize hversion hzero hover hcsrc hext
  · -- the extension's header follows the contributing sources
    simp only [parseExtension] at h
    split_ifs at h with hfits
    cases h
    refine ⟨by omega, by omega, hpadding.symm, ?_, rfl, rfl, by omega, ?_, rfl, ?_,
      Nat.le_of_not_lt hfits, rfl⟩
    · exact fun hpad hzero' => hzero ⟨hpad, hzero'⟩
    · rw [if_pos (header_extension.mp hext), ← hoffset]
      simp only [getExtensionHeader, calculatePayloadSize, hext, if_true]
      rfl
    · simp only [headerSize, getExtensionHeader, calculatePayloadSize, hext, if_true,
        Option.map_some, Option.getD_some, hoffset, hfieldCount, kFixedRTPSize, kCsrcIdsize,
        Int.natCast_add]
  · cases h
    have hplain := Bool.eq_false_iff.mpr hext
    have hheaderSize : (header buffer n padding).calculatePayloadSize.headerSize =
        (header buffer n padding).payloadOffset := by
      simp only [headerSize, getExtensionHeader, calculatePayloadSize, hplain, Bool.false_eq_true,
        if_false, Option.map_none, Option.getD_none, Nat.add_zero, hoffset, hfieldCount,
        kFixedRTPSize, kCsrcIdsize]
    refine ⟨by omega, by omega, hpadding.symm, ?_, rfl, rfl, by omega, ?_, rfl, ?_, ?_, rfl⟩
    · exact fun hpad hzero' => hzero ⟨hpad, hzero'⟩
    · rw [if_neg fun h' => hext (header_extension.mpr h')]
      simp only [getExtensionHeader, calculatePayloadSize, hplain, Bool.false_eq_true, if_false]
    · rw [hheaderSize, narrow_of_lt (by omega)]
      rfl
    · change (header buffer n padding).payloadOffset ≤ n
      omega

namespace Accepted

variable {buffer : List UInt8} {n : ℕ} {v : PacketView}

theorem csrcCount (h : v.Accepted buffer n) :
    v.fields.csrcCount.toNat = (buffer.getD 0 0).toNat % 16 := by
  rw [h.fields]
  exact (bits (buffer.getD 0 0)).2.2.2.1

/-- The extension, if its header and its data are in the buffer. -/
theorem exists_extension (h : v.Accepted buffer n) (hsize : v.headerSize ≤ buffer.length) :
    ∃ e : Option Extension, e.isSome = decide ((buffer.getD 0 0).toNat / 16 % 2 = 1) ∧
      (e.map Extension.encode).getD [] =
        (buffer.drop (12 + (buffer.getD 0 0).toNat % 16 * 4)).take
          (v.headerSize - (12 + (buffer.getD 0 0).toNat % 16 * 4)) := by
  have hheader := h.extensionHeader
  rw [headerSize, h.csrcCount] at hsize ⊢
  by_cases hbit : (buffer.getD 0 0).toNat / 16 % 2 = 1
  · rw [if_pos hbit] at hheader
    rw [hheader] at hsize ⊢
    set start := 12 + (buffer.getD 0 0).toNat % 16 * 4 with hstart
    set length := readBigEndian16 (buffer.drop (start + 2)) with hlength
    simp only [Option.map_some, Option.getD_some, ExtensionHeader.sizeBytes,
      ExtensionHeader.dataSizeBytes, kFixedRTPSize, kCsrcIdsize, ← hstart] at hsize ⊢
    have hdata : ((buffer.drop (start + 4)).take (length.toNat * 4)).length = length.toNat * 4 := by
      rw [List.length_take, List.length_drop]
      omega
    refine ⟨some ⟨readBigEndian16 (buffer.drop start), (buffer.drop (start + 4)).take
      (length.toNat * 4), length.toNat, length.toNat_lt, hdata⟩, by simpa using hbit, ?_⟩
    rw [Option.map_some, Option.getD_some, Extension.encode, Extension.header]
    dsimp only
    have hid := bigEndian16_read (buffer.drop start) (by rw [List.length_drop]; omega)
    have hlen := bigEndian16_read (buffer.drop (start + 2))
      (by rw [List.length_drop]; omega)
    rw [← hlength] at hlen
    clear_value start
    rw [hdata, Nat.mul_div_cancel _ (by decide), UInt16.ofNat_toNat, hid, hlen, Nat.add_sub_cancel_left,
      ← List.drop_drop, ← List.drop_drop, ← List.take_add, ← List.take_add]
  · rw [if_neg hbit] at hheader
    rw [hheader]
    refine ⟨none, by simpa using hbit, ?_⟩
    simp [kFixedRTPSize, kCsrcIdsize]

/-- The padding, if it is in the buffer. -/
theorem exists_padding (h : v.Accepted buffer n) (hn : n ≤ buffer.length)
    (hsize : v.paddingBytes.toNat ≤ n) :
    ((buffer.take n).drop (n - v.paddingBytes.toNat)).length = v.paddingBytes.toNat ∧
      (v.paddingBytes.toNat ≠ 0 ↔ (buffer.getD 0 0).toNat / 32 % 2 = 1) ∧
      (v.paddingBytes.toNat ≠ 0 → (buffer.take n).drop (n - v.paddingBytes.toNat) =
        (buffer.take (n - 1)).drop (n - v.paddingBytes.toNat) ++ [v.paddingBytes]) := by
  have hbit : v.paddingBytes.toNat ≠ 0 ↔ (buffer.getD 0 0).toNat / 32 % 2 = 1 := by
    constructor
    · intro hne
      by_contra hbit
      rw [h.padding, if_neg hbit] at hne
      exact hne rfl
    · intro hbit hzero
      exact h.padded hbit (UInt8.toNat_inj.mp hzero)
  refine ⟨?_, hbit, fun hne => ?_⟩
  · rw [List.length_drop, List.length_take]
    omega
  · have hlast := h.padding
    rw [if_pos (hbit.mp hne)] at hlast
    have hsize' := h.size
    have hn' : n - 1 < buffer.length := by omega
    have htake : buffer.take n = buffer.take (n - 1) ++ [v.paddingBytes] := by
      have hsucc := List.take_add_one (l := buffer) (i := n - 1)
      rw [show n - 1 + 1 = n by omega, List.getElem?_eq_getElem hn', Option.toList_some] at hsucc
      rw [hlast, ← List.getElem_eq_getD (h := hn'), hsucc]
    rw [htake, List.drop_append_of_le_length]
    rw [List.length_take]
    omega

/-- An accepted view without overlaps shows the bytes of a packet. -/
theorem exists_packet (h : v.Accepted buffer n) (hn : n ≤ buffer.length)
    (hregular : v.headerSize + v.paddingBytes.toNat ≤ n) : ∃ p : Packet, p.encode = buffer.take n := by
  have hsize := h.size
  have hversion := h.version
  have hzero := (buffer.getD 0 0).toNat_lt
  have hone := (buffer.getD 1 0).toNat_lt
  obtain ⟨e, hsome, hextension⟩ := h.exists_extension (by omega)
  obtain ⟨hpadLength, hpadBit, hpadLast⟩ := h.exists_padding hn (by omega)
  have hstart : 12 + (buffer.getD 0 0).toNat % 16 * 4 ≤ v.headerSize := by
    rw [headerSize, h.csrcCount, kFixedRTPSize, kCsrcIdsize]
    exact Nat.le_add_right _ _
  have hcsrcLength : v.csrc.length = (buffer.getD 0 0).toNat % 16 := by
    rw [h.csrc, readWords_length, (bits (buffer.getD 0 0)).2.2.2.1]
  have hpayloadType : v.fields.payloadType.toNat = (buffer.getD 1 0).toNat % 128 := by
    rw [h.fields]
    exact (bits (buffer.getD 1 0)).2.2.2.2.2
  have hmarker : v.fields.isMarked = true ↔ (buffer.getD 1 0).toNat / 128 = 1 := by
    rw [h.fields, ← (bits (buffer.getD 1 0)).2.2.2.2.1, header, decide_eq_true_iff]
  let p : Packet :=
    { marker := v.fields.isMarked
      payloadType := v.fields.payloadType
      sequenceNumber := v.fields.sequenceNumber
      timestamp := v.fields.timestamp
      ssrc := v.fields.ssrc
      csrc := v.csrc
      extension := e
      payload := (buffer.drop v.headerSize).take (n - v.headerSize - v.paddingBytes.toNat)
      padding := (buffer.take n).drop (n - v.paddingBytes.toNat)
      payloadType_lt := by omega
      csrc_le := by omega
      padding_last := fun hne => by
        have hpos : v.paddingBytes.toNat ≠ 0 := by
          rw [← hpadLength]
          exact fun h => hne (List.length_eq_zero_iff.mp h)
        exact ⟨_, _, hpadLast hpos, hpadLength.symm⟩ }
  have hfirst : p.firstByte = buffer.getD 0 0 := by
    have hpadding : p.padding = [] ↔ ¬ (buffer.getD 0 0).toNat / 32 % 2 = 1 := by
      rw [← hpadBit, ← hpadLength, not_not, List.length_eq_zero_iff]
    have hcount : p.csrc.length = (buffer.getD 0 0).toNat % 16 := hcsrcLength
    have hext : p.extension.isSome = true ↔ (buffer.getD 0 0).toNat / 16 % 2 = 1 := by
      rw [show p.extension.isSome = _ from hsome, decide_eq_true_iff]
    rw [← UInt8.toNat_inj, p.toNat_firstByte, hcount]
    simp only [hpadding, hext]
    split_ifs <;> omega
  have hsecond : p.secondByte = buffer.getD 1 0 := by
    have hpt : p.payloadType.toNat = (buffer.getD 1 0).toNat % 128 := hpayloadType
    have hmark : p.marker = true ↔ (buffer.getD 1 0).toNat / 128 = 1 := hmarker
    rw [← UInt8.toNat_inj, p.toNat_secondByte, hpt]
    simp only [hmark]
    split_ifs <;> omega
  have hheader : p.encodeHeader = buffer.take (12 + (buffer.getD 0 0).toNat % 16 * 4) := by
    have hseq := bigEndian16_read (buffer.drop 2) (by rw [List.length_drop]; omega)
    have htime := bigEndian32_read (buffer.drop 4) (by rw [List.length_drop]; omega)
    have hssrc := bigEndian32_read (buffer.drop 8) (by rw [List.length_drop]; omega)
    have hcsrc := words_readWords (n := (buffer.getD 0 0).toNat % 16) (buffer.drop 12)
      (by have := h.fits; rw [List.length_drop]; omega)
    have htwo : buffer.take 2 = [p.firstByte, p.secondByte] := by
      rw [hfirst, hsecond]
      rcases buffer with _ | ⟨b₀, _ | ⟨b₁, rest⟩⟩
      · simp at hn; omega
      · simp at hn; omega
      · rfl
    have hsplit : buffer.take (12 + (buffer.getD 0 0).toNat % 16 * 4) =
        buffer.take 2 ++ ((buffer.drop 2).take 2 ++ ((buffer.drop 4).take 4 ++
          ((buffer.drop 8).take 4 ++ (buffer.drop 12).take (4 * ((buffer.getD 0 0).toNat % 16))))) := by
      rw [Nat.mul_comm, ← List.append_assoc, ← List.take_add, ← List.append_assoc, ← List.take_add,
        ← List.append_assoc, ← List.take_add, ← List.take_add]
    have hfields := h.fields
    rw [hsplit, htwo, ← hseq, ← htime, ← hssrc, ← hcsrc, Packet.encodeHeader]
    simp only [p, hfields, h.csrc, header, (bits (buffer.getD 0 0)).2.2.2.1, List.cons_append,
      List.nil_append]
  refine ⟨p, ?_⟩
  rw [Packet.encode, hheader, Packet.encodeExtension]
  change _ ++ ((e.map Extension.encode).getD [] ++ ((buffer.drop v.headerSize).take _ ++
    (buffer.take n).drop _)) = _
  rw [hextension, ← List.append_assoc, ← List.take_add, Nat.add_sub_cancel' hstart,
    ← List.append_assoc, ← List.take_add,
    show v.headerSize + (n - v.headerSize - v.paddingBytes.toNat) = n - v.paddingBytes.toNat by omega]
  have htake : buffer.take (n - v.paddingBytes.toNat) =
      (buffer.take n).take (n - v.paddingBytes.toNat) := by
    rw [List.take_take, Nat.min_eq_left (Nat.sub_le _ _)]
  rw [htake, List.take_append_drop]

end Accepted

end PacketView

/-- A packet that fills the datagram is what the view shows. -/
theorem parse_packet {buffer : List UInt8} {n : ℕ} (hn : n ≤ buffer.length) (hsmall : n < 65536)
    {p : Packet} (hp : p.encode = buffer.take n) :
    ∃ v, PacketView.parse buffer n = .ok v ∧ v.Shows p := by
  have hlength : p.encode.length = n := by
    rw [hp, List.length_take]
    omega
  obtain ⟨v, hv, hshows⟩ := parse_encode p (buffer.drop n) (by omega)
  rw [hlength, hp, List.take_append_drop] at hv
  exact ⟨v, hv, hshows⟩

/-- **What a receiver accepts**, in a buffer that sixteen bits can index with room for the
longest padding, as they can the source's 1500 bytes.  A datagram that is a packet is
accepted, and the view shows it.  What is accepted is a packet, unless the padding it says
it has reaches into the headers, and then the view of the payload leaves the buffer, or
unless the headers it says it has are longer than sixteen bits can say, and then the
payload begins within them. -/
theorem accepted_cases {buffer : List UInt8} {n : ℕ} (hbuffer : buffer.length + 255 < 65536)
    (hn : n ≤ buffer.length) :
    (∀ p : Packet, p.encode = buffer.take n →
      ∃ v, PacketView.parse buffer n = .ok v ∧ v.Shows p) ∧
    ∀ v, PacketView.parse buffer n = .ok v →
      (∃ p : Packet, p.encode = buffer.take n ∧ v.Shows p) ∨
      (v.headerSize ≤ n ∧ n < v.headerSize + v.paddingBytes.toNat ∧
        v.payload = .error .outOfBounds) ∨
      (65536 ≤ v.headerSize ∧ v.payloadOffset < v.headerSize) := by
  refine ⟨fun p hp => parse_packet hn (by omega) hp, fun v hv => ?_⟩
  have haccepted := PacketView.parse_accepted (by omega) hv
  have hpad := v.paddingBytes.toNat_lt
  have hoffset := haccepted.payloadOffset
  have hle := haccepted.payloadOffset_le
  rcases Nat.lt_or_ge v.headerSize 65536 with hsmall | hlarge
  · rw [narrow_of_lt hsmall] at hoffset
    rcases Nat.lt_or_ge n (v.headerSize + v.paddingBytes.toNat) with hover | hregular
    · -- the size of the payload is negative
      refine .inr (.inl ⟨by omega, hover, ?_⟩)
      have hsize : buffer.length < v.payloadSize := by
        rw [haccepted.payloadSize, hoffset, narrow]
        omega
      rw [PacketView.payload, subspan, haccepted.view, if_neg (by omega)]
    · obtain ⟨p, hp⟩ := haccepted.exists_packet hn hregular
      obtain ⟨v', hv', hshows⟩ := parse_packet hn (by omega) hp
      obtain rfl : v' = v := Except.ok.inj (hv'.symm.trans hv)
      exact .inl ⟨p, hp, hshows⟩
  · refine .inr (.inr ⟨hlarge, ?_⟩)
    omega

/-- Fifteen contributing sources and nothing else, sixty bytes of which are said to be
padding. -/
def overlong : List UInt8 := [0b10101111, 0] ++ List.replicate 69 0 ++ [60]

/-- It is accepted. -/
theorem accepted_cases_overlong :
    (PacketView.parse overlong 72).toOption.map PacketView.payload = some (.error .outOfBounds) ∧
    ∀ v, PacketView.parse overlong 72 = .ok v →
      (∃ p : Packet, p.encode = overlong.take 72 ∧ v.Shows p) ∨
      (v.headerSize ≤ 72 ∧ 72 < v.headerSize + v.paddingBytes.toNat ∧
        v.payload = .error .outOfBounds) ∨
      (65536 ≤ v.headerSize ∧ v.payloadOffset < v.headerSize) := by
  refine ⟨by decide +kernel, (accepted_cases ?_ ?_).2⟩
  · decide
  · decide

end Rtp

end SbcEngine
