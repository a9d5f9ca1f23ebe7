/-
Session descriptions: what the engine reads from them and how it rewrites them.

The functions are those of the source's `Sdp` namespace, over a description
that has been parsed.  PJMEDIA itself (the parser, the printer, the readers of
single attributes) is a parameter, `SdpLib`, as is what counts as a usable
address for the relay.

* `isValidSdp`, `extractRtpEndpoint`, `restrictAudioCodecs`,
  `rewriteConnectionAndPort`, `setAudioDirection`, `pickAnswerCodec`;
* `pickAnswerCodec_some` — the codec picked is supported and was offered;
* `extractActiveAudioCodec_negotiated` — when the codec read back from an offer
  that was restricted, given a direction and anchored is the one it was
  restricted to.

Design notes: most functions work on the first audio line with a nonzero port.
`modifyActiveAudio` changes that line in place and is what the three writers
share.
-/
import Mathlib.Data.Int.Notation
import Mathlib.Data.PNat.Notation
import SbcEngine.SupportedCodecs

namespace SbcEngine

structure SdpConn where
  netType : String
  addrType : String
  addr : String
  deriving DecidableEq, Repr

structure SdpAttr where
  name : String
  value : String
  deriving DecidableEq, Repr

structure SdpMedia where
  media : String
  port : ℕ
  transport : String
  fmts : List String
  conn : Option SdpConn
  attrs : List SdpAttr
  deriving DecidableEq, Repr

structure SdpSession where
  conn : Option SdpConn
  attrs : List SdpAttr
  media : List SdpMedia
  deriving DecidableEq, Repr

structure SdpRtpmap where
  pt : String
  encName : String
  clockRate : ℕ
  deriving DecidableEq, Repr

/-- The parts of PJMEDIA, PJLIB and Asio the engine relies on. -/
structure SdpLib where
  /-- `pjmedia_sdp_parse` -/
  parse : String → Option SdpSession
  /-- `pjmedia_sdp_print` into the serializer's buffer; `none` on overflow. -/
  print : SdpSession → Option String
  /-- `pjmedia_sdp_attr_get_rtpmap` -/
  getRtpmap : SdpAttr → Option SdpRtpmap
  /-- `pjmedia_sdp_attr_get_fmtp`: the format it is about. -/
  getFmtp : SdpAttr → Option String
  /-- `PJMEDIA_MAX_SDP_ATTR` -/
  maxAttr : ℕ
  /-- The text is an IPv6 address and all its bits are zero. -/
  isUnspecified6 : String → Bool
  /-- `boost::asio::ip::make_address` accepts the text. -/
  makeAddress : String → Bool

/-- The address and port an endpoint expects media at. -/
structure RtpEndpoint where
  ip : String
  port : ℕ
  deriving DecidableEq, Repr

inductive MediaDirection where
  | sendRecv
  | sendOnly
  | recvOnly
  | inactive
  deriving DecidableEq, Repr

/-- A negotiated audio codec. -/
structure AudioCodecInfo where
  payloadType : ℕ
  name : String
  clockRate : ℕ
  deriving DecidableEq, Repr

namespace Sdp

/-! ### Names -/

/-- ASCII case-insensitive comparison. -/
def namesEqualCi (lhs rhs : String) : Bool :=
  lhs.toList.map Char.toLower = rhs.toList.map Char.toLower

theorem namesEqualCi_refl (s : String) : namesEqualCi s s = true := by simp [namesEqualCi]

theorem namesEqualCi_trans {s t u : String} (hst : namesEqualCi s t = true)
    (htu : namesEqualCi t u = true) : namesEqualCi s u = true := by
  simp only [namesEqualCi, decide_eq_true_eq] at hst htu ⊢
  exact hst.trans htu

def isDirectionName (name : String) : Bool :=
  ["inactive", "sendonly", "recvonly", "sendrecv"].any (namesEqualCi name)

def directionName : MediaDirection → String
  | .sendRecv => "sendrecv"
  | .sendOnly => "sendonly"
  | .recvOnly => "recvonly"
  | .inactive => "inactive"

/-! ### Validity -/

def isAudio (m : SdpMedia) : Bool := namesEqualCi m.media "audio"

def isSupportedTransport (m : SdpMedia) : Bool :=
  namesEqualCi m.transport "RTP/AVP" || namesEqualCi m.transport "RTP/AVPF"

def hasValidDirection (attrs : List SdpAttr) : Bool :=
  attrs.countP (fun attr => isDirectionName attr.name) ≤ 1

/-- The name of the attribute on a line that starts with `a=`. -/
def attrLineName (line : List Char) : String :=
  String.ofList ((line.drop 2).takeWhile fun c => c ≠ ':' && c ≠ ' ' && c ≠ '\t')

/-- At most one direction among the lines before the first media line; `seen`
says whether there has been one already. -/
def sessionDirectionOk (seen : Bool) : List (List Char) → Bool
  | [] => true
  | line :: lines =>
    if ['m', '='].isPrefixOf line then true
    else if ['a', '='].isPrefixOf line && isDirectionName (attrLineName line) then
      if seen then false else sessionDirectionOk true lines
    else sessionDirectionOk seen lines

def hasValidSessionDirection (sdp : String) : Bool :=
  sessionDirectionOk false (sdp.toList.splitOnP fun c => c = '\r' || c = '\n')

def hasValidMedia (sdp : SdpSession) : Bool :=
  !sdp.media.isEmpty && hasValidDirection sdp.attrs &&
    sdp.media.all fun m =>
      (!isAudio m || hasValidDirection m.attrs) &&
        (m.port = 0 || (!m.fmts.isEmpty && isSupportedTransport m))

/-- `Sdp::parse`: the empty text has no description. -/
def parse (L : SdpLib) (sdp : String) : Option SdpSession :=
  if sdp = "" then none else L.parse sdp

/-- `Sdp::serialize`: empty when the text does not fit the buffer. -/
def serialize (L : SdpLib) (sdp : SdpSession) : String := (L.print sdp).getD ""

def isValidSdp (L : SdpLib) (sdp : String) : Bool :=
  hasValidSessionDirection sdp && (parse L sdp).any hasValidMedia

/-! ### Reading -/

/-- The line the engine relays: the first audio line that is not declined. -/
def isActiveAudio (m : SdpMedia) : Bool := isAudio m && m.port ≠ 0

def findActiveAudioMedia (sdp : SdpSession) : Option SdpMedia := sdp.media.find? isActiveAudio

def extractRtpEndpoint (sdp : SdpSession) : RtpEndpoint :=
  match findActiveAudioMedia sdp with
  | none => { ip := "", port := 0 }
  | some m => { ip := ((m.conn.or sdp.conn).map (·.addr)).getD "", port := m.port }

/-- `pj_strtoul`: the leading digits. -/
def strtoul (s : String) : ℕ :=
  (s.toList.takeWhile Char.isDigit).foldl (fun n c => n * 10 + (c.toNat - '0'.toNat)) 0

/-- Names of the static payload types. -/
def audioPtToString (payloadType : ℕ) : String :=
  match payloadType with
  | 0 => "PCMU"
  | 3 => "GSM"
  | 4 => "G723"
  | 5 => "DVI (8000 hz)"
  | 6 => "DVI (16000 hz)"
  | 7 => "LPC"
  | 8 => "PCMA"
  | 9 => "G722"
  | 10 => "L16 (dual channel)"
  | 11 => "L16 (single channel)"
  | 12 => "QCELP"
  | 13 => "CN"
  | 14 => "MPA"
  | 15 => "G729"
  | 16 => "DVI4 (11020 hz)"
  | 17 => "DVI (22050 hz)"
  | 18 => "G729"
  | _ => ""

def isRtpmap (attr : SdpAttr) : Bool := namesEqualCi attr.name "rtpmap"

def isFmtp (attr : SdpAttr) : Bool := !isRtpmap attr && namesEqualCi attr.name "fmtp"

/-- The readable rtpmap attributes of a media line. -/
def rtpmaps (L : SdpLib) (m : SdpMedia) : List SdpRtpmap :=
  (m.attrs.filter isRtpmap).filterMap L.getRtpmap

def findRtpmap (L : SdpLib) (m : SdpMedia) (payloadType : String) : Option SdpRtpmap :=
  (rtpmaps L m).find? (·.pt = payloadType)

def makeCodecInfo (L : SdpLib) (m : SdpMedia) (payloadType : String) : AudioCodecInfo :=
  let pt := strtoul payloadType % 256
  match findRtpmap L m payloadType with
  | some rtpmap => { payloadType := pt, name := rtpmap.encName, clockRate := rtpmap.clockRate }
  | none => { payloadType := pt, name := audioPtToString pt, clockRate := 0 }

def extractActiveAudioCodec (L : SdpLib) (sdp : SdpSession) : Option AudioCodecInfo :=
  (findActiveAudioMedia sdp).bind fun m => m.fmts.head?.map (makeCodecInfo L m)

def extractAllAudioCodecs (L : SdpLib) (sdp : SdpSession) : List AudioCodecInfo :=
  match findActiveAudioMedia sdp with
  | none => []
  | some m => m.fmts.map (makeCodecInfo L m)

/-- The payload type of the first format named telephone-event. -/
def extractTelephoneEventPt (L : SdpLib) (sdp : SdpSession) : Option ℕ :=
  ((extractAllAudioCodecs L sdp).find? fun codec =>
    namesEqualCi codec.name "telephone-event").map (·.payloadType)

/-- The payload type of the first rtpmap that says telephone-event. -/
def findTelephoneEventPt (L : SdpLib) (m : SdpMedia) : Option String :=
  ((rtpmaps L m).find? fun rtpmap => namesEqualCi rtpmap.encName "telephone-event").map (·.pt)

def findMediaDirection (attrs : List SdpAttr) : Option MediaDirection :=
  [MediaDirection.inactive, .sendOnly, .recvOnly, .sendRecv].find? fun direction =>
    attrs.any (·.name = directionName direction)

def isHoldAddress (L : SdpLib) (address : String) : Bool :=
  address = "0.0.0.0" || (!address.toList.contains '\x00' && L.isUnspecified6 address)

def extractAudioDirection (L : SdpLib) (sdp : SdpSession) (endpoint : RtpEndpoint) :
    MediaDirection :=
  if isHoldAddress L endpoint.ip then .inactive
  else
    match findActiveAudioMedia sdp with
    | none => .sendRecv
    | some m => ((findMediaDirection m.attrs).or (findMediaDirection sdp.attrs)).getD .sendRecv

def answerDirection : MediaDirection → MediaDirection
  | .sendRecv => .sendRecv
  | .sendOnly => .recvOnly
  | .recvOnly => .sendOnly
  | .inactive => .inactive

def canSend (direction : MediaDirection) : Bool :=
  direction = .sendRecv || direction = .sendOnly

def canReceive (direction : MediaDirection) : Bool :=
  direction = .sendRecv || direction = .recvOnly

/-! ### Choosing a codec -/

def offers (offered : List AudioCodecInfo) (name : String) : Bool :=
  offered.any fun codec => namesEqualCi codec.name name

/-- The other leg's codec if it is supported and offered, else the first
supported codec that is offered. -/
def pickAnswerCodec (preferred : Option AudioCodecInfo) (offered : List AudioCodecInfo) :
    Option SupportedCodec :=
  (preferred.bind fun codec =>
    supportedCodecs.find? fun supported =>
      namesEqualCi supported.name codec.name && offers offered supported.name).or
    (supportedCodecs.find? fun supported => offers offered supported.name)

/-! ### Rewriting -/

/-- Change the first element that satisfies `p`. -/
def modifyFirst {α : Type} (p : α → Bool) (f : α → α) : List α → List α
  | [] => []
  | x :: xs => if p x then f x :: xs else x :: modifyFirst p f xs

/-- Change the active audio line. -/
def modifyActiveAudio (f : SdpMedia → SdpMedia) (sdp : SdpSession) : SdpSession :=
  { sdp with media := modifyFirst isActiveAudio f sdp.media }

def setConnAddr (relayIp : String) : SdpConn :=
  { netType := "IN", addrType := "IP4", addr := relayIp }

/-- Anchor one media line, declined or not. -/
def rewriteMedia (relayIp : String) (relayPort : ℕ) (m : SdpMedia) : SdpMedia :=
  { m with port := relayPort, conn := m.conn.map fun _ => setConnAddr relayIp }

def rewriteConnectionAndPort (relayIp : String) (relayPort : ℕ) (sdp : SdpSession) : SdpSession :=
  { sdp with
    conn := sdp.conn.map fun _ => setConnAddr relayIp
    media := sdp.media.map (rewriteMedia relayIp relayPort) }

/-- An rtpmap or fmtp of a format that is no longer there; those of the kept
telephone-event format stay. -/
def isStale (L : SdpLib) (dtmfPt : Option String) (attr : SdpAttr) : Bool :=
  (isRtpmap attr && !dtmfPt.any fun pt => (L.getRtpmap attr).any (·.pt = pt)) ||
    (isFmtp attr && !dtmfPt.any fun pt => L.getFmtp attr = some pt)

def restrictMedia (L : SdpLib) (allowed : List SupportedCodec) (m : SdpMedia) : SdpMedia :=
  let dtmfPt := findTelephoneEventPt L m
  { m with
    attrs := m.attrs.filter fun attr => !isStale L dtmfPt attr
    fmts := allowed.map (fun codec => toString codec.payloadType) ++ dtmfPt.toList }

def restrictAudioCodecs (L : SdpLib) (allowed : List SupportedCodec) (sdp : SdpSession) :
    SdpSession :=
  modifyActiveAudio (restrictMedia L allowed) sdp

/-- The attributes without any direction. -/
def clearDirection (attrs : List SdpAttr) : List SdpAttr :=
  attrs.filter fun attr => !(["sendrecv", "sendonly", "recvonly", "inactive"].contains attr.name)

def setMediaDirection (direction : MediaDirection) (m : SdpMedia) : SdpMedia :=
  { m with attrs := clearDirection m.attrs ++ [{ name := directionName direction, value := "" }] }

/-- `none` when there is no active audio line, or no room for the attribute. -/
def setAudioDirection (L : SdpLib) (direction : MediaDirection) (sdp : SdpSession) :
    Option SdpSession :=
  (findActiveAudioMedia sdp).bind fun m =>
    if (clearDirection m.attrs).length < L.maxAttr then
      some (modifyActiveAudio (setMediaDirection direction) sdp)
    else none

/-! ### What the rewriting keeps -/

theorem find?_modifyFirst {α : Type} {p : α → Bool} {f : α → α} (hf : ∀ x, p x → p (f x))
    (xs : List α) : (modifyFirst p f xs).find? p = (xs.find? p).map f := by
  induction xs with
  | nil => rfl
  | cons x xs ih =>
    rw [modifyFirst]
    by_cases hx : p x = true
    · rw [if_pos hx, List.find?_cons_of_pos (hf x hx), List.find?_cons_of_pos hx]
      rfl
    · rw [if_neg hx, List.find?_cons_of_neg hx, List.find?_cons_of_neg hx, ih]

theorem find?_modifyFirst_implied {α : Type} {p q : α → Bool} {f : α → α}
    (hpq : ∀ x, p x → q x) (hq : ∀ x, q (f x) = q x) (xs : List α) :
    (modifyFirst p f xs).find? q = (xs.find? q).map fun x => if p x then f x else x := by
  induction xs with
  | nil => rfl
  | cons x xs ih =>
    rw [modifyFirst]
    by_cases hp : p x = true
    · have hqx : q x = true := hpq x hp
      rw [if_pos hp, List.find?_cons_of_pos (by rw [hq, hqx]), List.find?_cons_of_pos hqx,
        Option.map_some, if_pos hp]
    · rw [if_neg hp]
      by_cases hqx : q x = true
      · rw [List.find?_cons_of_pos hqx, List.find?_cons_of_pos hqx, Option.map_some, if_neg hp]
      · rw [List.find?_cons_of_neg hqx, List.find?_cons_of_neg hqx, ih]

theorem findActiveAudioMedia_modify {f : SdpMedia → SdpMedia}
    (hf : ∀ m, isActiveAudio (f m) = isActiveAudio m) (sdp : SdpSession) :
    findActiveAudioMedia (modifyActiveAudio f sdp) = (findActiveAudioMedia sdp).map f :=
  find?_modifyFirst (fun m hm => by rw [hf, hm]) sdp.media

theorem isActiveAudio_restrictMedia (L : SdpLib) (allowed : List SupportedCodec) (m : SdpMedia) :
    isActiveAudio (restrictMedia L allowed m) = isActiveAudio m := rfl

/-- An address is that of an active audio line. -/
theorem extractRtpEndpoint_active {sdp : SdpSession} (h : (extractRtpEndpoint sdp).ip ≠ "") :
    ∃ m, findActiveAudioMedia sdp = some m ∧ (extractRtpEndpoint sdp).port = m.port ∧
      m.port ≠ 0 := by
  rw [extractRtpEndpoint] at h ⊢
  cases hm : findActiveAudioMedia sdp with
  | none => simp [hm] at h
  | some m =>
    have hactive := List.find?_some hm
    simp only [isActiveAudio, Bool.and_eq_true, decide_eq_true_eq] at hactive
    exact ⟨m, rfl, rfl, hactive.2⟩

/-- After anchoring, every audio line is active. -/
theorem findActiveAudioMedia_rewrite (relayIp : String) {relayPort : ℕ} (h : relayPort ≠ 0)
    (sdp : SdpSession) :
    findActiveAudioMedia (rewriteConnectionAndPort relayIp relayPort sdp) =
      (sdp.media.find? isAudio).map (rewriteMedia relayIp relayPort) := by
  have hactive : isActiveAudio ∘ rewriteMedia relayIp relayPort = isAudio := by
    funext m
    simp [isActiveAudio, isAudio, rewriteMedia, h]
  rw [findActiveAudioMedia, rewriteConnectionAndPort, List.find?_map, hactive]

/-! ### The codec that is picked -/

theorem pickAnswerCodec_some {preferred : Option AudioCodecInfo} {offered : List AudioCodecInfo}
    {codec : SupportedCodec} (h : pickAnswerCodec preferred offered = some codec) :
    codec ∈ supportedCodecs ∧ offers offered codec.name = true := by
  rw [pickAnswerCodec, Option.or_eq_some_iff] at h
  rcases h with h | ⟨-, h⟩
  · obtain ⟨info, -, hfind⟩ := Option.bind_eq_some_iff.mp h
    have hoffer := List.find?_some hfind
    simp only [Bool.and_eq_true] at hoffer
    exact ⟨List.mem_of_find?_eq_some hfind, hoffer.2⟩
  · have hoffer := List.find?_some h
    exact ⟨List.mem_of_find?_eq_some h, hoffer⟩

/-- A supported codec that is offered makes the choice succeed, whatever is
preferred. -/
theorem pickAnswerCodec_isSome (preferred : Option AudioCodecInfo) {offered : List AudioCodecInfo}
    {codec : SupportedCodec} (hmem : codec ∈ supportedCodecs)
    (h : offers offered codec.name = true) : (pickAnswerCodec preferred offered).isSome := by
  rw [pickAnswerCodec, Option.isSome_or, Bool.or_eq_true]
  right
  exact List.find?_isSome.mpr ⟨codec, hmem, h⟩

/-! ### The codec that is read back -/

/-- A restriction keeps exactly the rtpmaps of the telephone-event format. -/
theorem rtpmaps_restrictMedia (L : SdpLib) (allowed : List SupportedCodec) (m : SdpMedia) :
    rtpmaps L (restrictMedia L allowed m) =
      (rtpmaps L m).filter fun rtpmap => findTelephoneEventPt L m = some rtpmap.pt := by
  simp only [rtpmaps, restrictMedia, List.filter_filter, List.filterMap_filter,
    List.filter_filterMap]
  congr 1
  funext attr
  cases hattr : isRtpmap attr with
  | false => simp
  | true =>
    have hstale : isStale L (findTelephoneEventPt L m) attr =
        !(findTelephoneEventPt L m).any fun pt => (L.getRtpmap attr).any (·.pt = pt) := by
      simp [isStale, isFmtp, hattr]
    rw [hstale]
    cases L.getRtpmap attr with
    | none => simp
    | some rtpmap =>
      cases findTelephoneEventPt L m with
      | none => simp
      | some pt =>
        by_cases hpt : rtpmap.pt = pt
        · simp [hpt, Option.filter]
        · simp [hpt, Ne.symm hpt, Option.filter]

/-- Neither a direction that goes nor the one that comes is an rtpmap. -/
theorem rtpmaps_setMediaDirection (L : SdpLib) (direction : MediaDirection) (m : SdpMedia) :
    rtpmaps L (setMediaDirection direction m) = rtpmaps L m := by
  have hdir : ∀ attr, isRtpmap attr = true →
      ["sendrecv", "sendonly", "recvonly", "inactive"].contains attr.name = false := by
    intro attr hattr
    by_contra hin
    simp only [Bool.not_eq_false, List.contains_eq_mem, List.mem_cons, List.not_mem_nil, or_false,
      decide_eq_true_eq] at hin
    rcases hin with h | h | h | h <;> simp [isRtpmap, h, namesEqualCi] at hattr
  have hnew : isRtpmap { name := directionName direction, value := "" } = false := by
    cases direction <;> decide
  simp only [rtpmaps, setMediaDirection, clearDirection, List.filter_append, List.filter_cons, hnew,
    Bool.false_eq_true, if_false, List.filter_nil, List.append_nil, List.filter_filter]
  refine congrArg (List.filterMap L.getRtpmap) (List.filter_congr fun attr _ => ?_)
  cases hattr : isRtpmap attr with
  | false => rfl
  | true =>
    rw [hdir attr hattr]
    rfl

theorem findRtpmap_restrictMedia (L : SdpLib) (allowed : List SupportedCodec) (m : SdpMedia)
    (pt : String) :
    findRtpmap L (restrictMedia L allowed m) pt =
      if findTelephoneEventPt L m = some pt then findRtpmap L m pt else none := by
  rw [findRtpmap, rtpmaps_restrictMedia, List.find?_filter, findRtpmap]
  split
  · next hpt =>
    refine congrArg (fun p => (rtpmaps L m).find? p) ?_
    funext rtpmap
    rw [hpt]
    by_cases h : rtpmap.pt = pt <;> simp [h, eq_comm]
  · next hpt =>
    rw [List.find?_eq_none]
    intro rtpmap _ hboth
    simp only [decide_eq_true_eq] at hboth
    exact hpt (hboth.2 ▸ hboth.1)

theorem findRtpmap_restricted (L : SdpLib) (allowed : List SupportedCodec)
    (direction : MediaDirection) (m : SdpMedia) (pt : String) :
    findRtpmap L (setMediaDirection direction (restrictMedia L allowed m)) pt =
      if findTelephoneEventPt L m = some pt then findRtpmap L m pt else none := by
  rw [← findRtpmap_restrictMedia L allowed m pt, findRtpmap, rtpmaps_setMediaDirection, findRtpmap]

/-- A static payload type without an rtpmap reads back as the codec's name. -/
theorem audioPtToString_supported {codec : SupportedCodec} (h : codec ∈ supportedCodecs) :
    audioPtToString (strtoul (toString codec.payloadType) % 256) = codec.name := by
  simp only [supportedCodecs, List.mem_cons, List.not_mem_nil, or_false] at h
  rcases h with rfl | rfl | rfl <;> decide

/-- The name at the head of the first audio line of an answer, as the offer has
it.  A declined line is revived with its own formats; in the active line the
codec's payload type keeps an rtpmap only if telephone events use it too. -/
def ReadsBackIn (L : SdpLib) (chosen : SupportedCodec) (m : SdpMedia) : Prop :=
  if m.port = 0 then
    m.fmts.head?.any (fun fmt => namesEqualCi chosen.name (makeCodecInfo L m fmt).name) = true
  else
    findTelephoneEventPt L m = some (toString chosen.payloadType) →
      (findRtpmap L m (toString chosen.payloadType)).any
        (fun rtpmap => namesEqualCi chosen.name rtpmap.encName) = true

/-- The answer to an offer, restricted to one codec, is read back as that codec. -/
def ReadsBack (L : SdpLib) (chosen : SupportedCodec) (sdp : SdpSession) : Prop :=
  ∀ m, sdp.media.find? isAudio = some m → ReadsBackIn L chosen m

/-- The head of the active line, restricted to one supported codec. -/
theorem makeCodecInfo_restricted (L : SdpLib) {chosen : SupportedCodec}
    (hmem : chosen ∈ supportedCodecs) (direction : MediaDirection) {m : SdpMedia}
    (hport : m.port ≠ 0) (h : ReadsBackIn L chosen m) :
    namesEqualCi chosen.name (makeCodecInfo L (setMediaDirection direction
      (restrictMedia L [chosen] m)) (toString chosen.payloadType)).name = true := by
  rw [ReadsBackIn, if_neg hport] at h
  simp only [makeCodecInfo, findRtpmap_restricted]
  by_cases hpt : findTelephoneEventPt L m = some (toString chosen.payloadType)
  · have hname := h hpt
    rw [if_pos hpt]
    cases hfind : findRtpmap L m (toString chosen.payloadType) with
    | none =>
      rw [hfind] at hname
      cases hname
    | some rtpmap =>
      rw [hfind] at hname
      exact hname
  · rw [if_neg hpt]
    dsimp only
    rw [audioPtToString_supported hmem]
    exact namesEqualCi_refl _

theorem isAudio_of_isActiveAudio {m : SdpMedia} (h : isActiveAudio m = true) : isAudio m = true := by
  rw [isActiveAudio, Bool.and_eq_true] at h
  exact h.1

/-- An anchored answer is read at the first audio line of the offer, be it
declined or not. -/
theorem extractActiveAudioCodec_anchored (L : SdpLib) (chosen : SupportedCodec)
    (direction : MediaDirection) (relayIp : String) {relayPort : ℕ} (hport : relayPort ≠ 0)
    (sdp : SdpSession) :
    extractActiveAudioCodec L (rewriteConnectionAndPort relayIp relayPort
      (modifyActiveAudio (setMediaDirection direction) (restrictAudioCodecs L [chosen] sdp))) =
        (sdp.media.find? isAudio).bind fun m =>
          if m.port = 0 then m.fmts.head?.map (makeCodecInfo L m)
          else some (makeCodecInfo L (setMediaDirection direction (restrictMedia L [chosen] m))
            (toString chosen.payloadType)) := by
  have hdirected : ∀ (f : SdpMedia → SdpMedia), (∀ m, isAudio (f m) = isAudio m) →
      ∀ sdp : SdpSession, (modifyActiveAudio f sdp).media.find? isAudio =
        (sdp.media.find? isAudio).map fun m => if isActiveAudio m then f m else m :=
    fun f hf sdp => find?_modifyFirst_implied (fun _ => isAudio_of_isActiveAudio) hf sdp.media
  rw [extractActiveAudioCodec, findActiveAudioMedia_rewrite relayIp hport, restrictAudioCodecs,
    hdirected (setMediaDirection direction) (fun _ => rfl),
    hdirected (restrictMedia L [chosen]) (fun _ => rfl)]
  cases hm : sdp.media.find? isAudio with
  | none => rfl
  | some m =>
    have haudio : isAudio m = true := List.find?_some hm
    simp only [Option.map_some, Option.bind_some]
    by_cases hdeclined : m.port = 0
    -- restriction and direction go to the first active stream, the port to all of them
    · have hidle : isActiveAudio m = false := by simp [isActiveAudio, hdeclined]
      simp only [hidle, Bool.false_eq_true, if_false, if_pos hdeclined]
      rfl
    · have hon : isActiveAudio m = true := by simp [isActiveAudio, haudio, hdeclined]
      rw [if_pos hon, isActiveAudio_restrictMedia, if_pos hon, if_neg hdeclined]
      rfl

/-- **The codec that is read back.**  An offer restricted to one supported
codec, given a direction and anchored at the relay is read back as that codec,
when its first audio line is. -/
theorem extractActiveAudioCodec_negotiated (L : SdpLib) {chosen : SupportedCodec}
    (hmem : chosen ∈ supportedCodecs) (direction : MediaDirection) (relayIp : String)
    {relayPort : ℕ} (hport : relayPort ≠ 0) {sdp : SdpSession}
    (hactive : (findActiveAudioMedia sdp).isSome) (h : ReadsBack L chosen sdp) :
    (extractActiveAudioCodec L (rewriteConnectionAndPort relayIp relayPort
      (modifyActiveAudio (setMediaDirection direction)
        (restrictAudioCodecs L [chosen] sdp)))).any
          (fun codec => namesEqualCi chosen.name codec.name) = true := by
  obtain ⟨m, hm⟩ : ∃ m, sdp.media.find? isAudio = some m := by
    obtain ⟨m, hfind⟩ := Option.isSome_iff_exists.mp hactive
    refine Option.isSome_iff_exists.mp (List.find?_isSome.mpr ⟨m, List.mem_of_find?_eq_some hfind, ?_⟩)
    exact isAudio_of_isActiveAudio (List.find?_some hfind)
  have hread := h m hm
  rw [extractActiveAudioCodec_anchored L chosen direction relayIp hport, hm, Option.bind_some]
  split
  · next hdeclined =>
    rw [ReadsBackIn, if_pos hdeclined] at hread
    rw [Option.any_map]
    exact hread
  · next hdeclined => exact makeCodecInfo_restricted L hmem direction hdeclined hread

end Sdp

end SbcEngine
