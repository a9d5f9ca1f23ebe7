/-
The formats of an answer, and what they mean in the offer.

The engine answers an offer with one codec and, if there is one, a format for telephone
events.  It picks the codec by its name and writes it back by its static payload type, with
no rtpmap; it looks for telephone events once in the format list, for what the bridge is
to use, and once in the rtpmaps, for what the answer lists.

* `NarrowedTo` — the answer's line, as far as formats go;
* `AnswersOffered` — every payload type of an answer is one of the offer, with the same
  meaning; `answers_offered_iff` says when, for initial and for later offers;
* `EventsAgree` — the telephone-event payload type that is recorded and handed to the
  bridge is the one in the answer; `events_agree_iff` says when.

Design notes: an answer keeps the lines of its offer in order, so that the line that
answers a line is the one at its place.
-/
import SbcEngine.MidDialogOffer
import SbcEngine.SdpRewriting

namespace SbcEngine

namespace Sdp

/-! ### The line that is answered -/

/-- The offer's first active audio line, with the answer's line at its place. -/
def answeredLine (offer answer : SdpSession) : Option (SdpMedia × SdpMedia) :=
  (offer.media.zip answer.media).find? fun x => isActiveAudio x.1

theorem zip_modifyFirst {α : Type} (p : α → Bool) (f g : α → α) (xs : List α) :
    (xs.zip ((modifyFirst p f xs).map g)).find? (fun x => p x.1) =
      (xs.find? p).map fun x => (x, g (f x)) := by
  induction xs with
  | nil => rfl
  | cons x xs ih =>
    rw [modifyFirst]
    by_cases hx : p x = true
    · simp [hx]
    · simp [hx, ih]

/-- The name a payload type stands for on a line: that of its rtpmap, or its static one. -/
def denoted (L : SdpLib) (m : SdpMedia) (pt : String) : String := (makeCodecInfo L m pt).name

/-- The line `m'` has the formats of `m`, narrowed to one codec and to the telephone-event
format the rtpmaps name first; only the rtpmaps of the latter are left. -/
structure NarrowedTo (L : SdpLib) (chosen : SupportedCodec) (m m' : SdpMedia) : Prop where
  fmts : m'.fmts = toString chosen.payloadType :: (findTelephoneEventPt L m).toList
  rtpmap : ∀ pt, findRtpmap L m' pt =
    if findTelephoneEventPt L m = some pt then findRtpmap L m pt else none

theorem narrowedTo_restrictMedia (L : SdpLib) (chosen : SupportedCodec) (m : SdpMedia) :
    NarrowedTo L chosen m (restrictMedia L [chosen] m) :=
  ⟨rfl, findRtpmap_restrictMedia L [chosen] m⟩

theorem narrowedTo_anchored (L : SdpLib) (chosen : SupportedCodec) (direction : MediaDirection)
    (relayIp : String) (relayPort : ℕ) (m : SdpMedia) :
    NarrowedTo L chosen m
      (rewriteMedia relayIp relayPort (setMediaDirection direction (restrictMedia L [chosen] m))) :=
  ⟨rfl, findRtpmap_restricted L [chosen] direction m⟩

theorem answeredLine_restricted {L : SdpLib} (chosen : SupportedCodec) {offer : SdpSession}
    {m : SdpMedia} (h : findActiveAudioMedia offer = some m) :
    ∃ m', answeredLine offer (restrictAudioCodecs L [chosen] offer) = some (m, m') ∧
      NarrowedTo L chosen m m' := by
  refine ⟨_, ?_, narrowedTo_restrictMedia L chosen m⟩
  have hzip := zip_modifyFirst isActiveAudio (restrictMedia L [chosen]) id offer.media
  rw [List.map_id] at hzip
  rw [answeredLine, restrictAudioCodecs, modifyActiveAudio, hzip]
  exact congrArg (Option.map _) h

theorem answeredLine_anchored {L : SdpLib} (chosen : SupportedCodec) (direction : MediaDirection)
    (relayIp : String) (relayPort : ℕ) {offer : SdpSession} {m : SdpMedia}
    (h : findActiveAudioMedia offer = some m) :
    ∃ m', answeredLine offer (rewriteConnectionAndPort relayIp relayPort
        (modifyActiveAudio (setMediaDirection direction) (restrictAudioCodecs L [chosen] offer))) =
          some (m, m') ∧
      NarrowedTo L chosen m m' := by
  refine ⟨_, ?_, narrowedTo_anchored L chosen direction relayIp relayPort m⟩
  have hzip := zip_modifyFirst isActiveAudio (setMediaDirection direction ∘ restrictMedia L [chosen])
    (rewriteMedia relayIp relayPort) offer.media
  have htwice := modifyFirst_modifyFirst (p := isActiveAudio) (restrictMedia L [chosen])
    (setMediaDirection direction) (isActiveAudio_restrictMedia L [chosen]) offer.media
  rw [answeredLine, rewriteConnectionAndPort, restrictAudioCodecs, modifyActiveAudio,
    modifyActiveAudio]
  dsimp only
  rw [htwice, hzip]
  exact congrArg (Option.map _) h

/-! ### The meaning of the formats -/

/-- Every payload type of the answer's line is among those of the offer's, and stands for
the same encoding. -/
def AnswersOffered (L : SdpLib) (offer answer : SdpSession) : Prop :=
  ∀ m m', answeredLine offer answer = some (m, m') →
    ∀ pt ∈ m'.fmts, pt ∈ m.fmts ∧ namesEqualCi (denoted L m' pt) (denoted L m pt) = true

/-- The line offers the codec under its static payload type, which stands for the codec
unless it is the one for telephone events, and lists the telephone-event payload type the
rtpmaps name first. -/
def OffersStatically (L : SdpLib) (chosen : SupportedCodec) (m : SdpMedia) : Prop :=
  toString chosen.payloadType ∈ m.fmts ∧
    (findTelephoneEventPt L m = some (toString chosen.payloadType) ∨
      namesEqualCi chosen.name (denoted L m (toString chosen.payloadType)) = true) ∧
    ∀ pt, findTelephoneEventPt L m = some pt → pt ∈ m.fmts

/-- The codec that is picked for an answer to the offer is offered under its static payload
type. -/
def PicksStatic (L : SdpLib) (preferred : Option AudioCodecInfo) (offer : SdpSession) : Prop :=
  ∀ m chosen, findActiveAudioMedia offer = some m →
    pickAnswerCodec preferred (extractAllAudioCodecs L offer) = some chosen →
      OffersStatically L chosen m

section Narrowed

variable {L : SdpLib} {chosen : SupportedCodec} {m m' : SdpMedia} (h : NarrowedTo L chosen m m')
include h

theorem NarrowedTo.denoted_event {pt : String} (hpt : findTelephoneEventPt L m = some pt) :
    denoted L m' pt = denoted L m pt := by
  simp only [denoted, makeCodecInfo, h.rtpmap, if_pos hpt]

theorem NarrowedTo.denoted_static {pt : String} (hpt : findTelephoneEventPt L m ≠ some pt) :
    denoted L m' pt = audioPtToString (strtoul pt % 256) := by
  simp only [denoted, makeCodecInfo, h.rtpmap, if_neg hpt]

theorem NarrowedTo.agrees_iff (hmem : chosen ∈ supportedCodecs) :
    (∀ pt ∈ m'.fmts, pt ∈ m.fmts ∧ namesEqualCi (denoted L m' pt) (denoted L m pt) = true) ↔
      OffersStatically L chosen m := by
  constructor
  · intro hagree
    have hhead := hagree (toString chosen.payloadType) (by rw [h.fmts]; exact List.mem_cons_self)
    refine ⟨hhead.1, ?_, fun pt hpt => ?_⟩
    · by_cases hevent : findTelephoneEventPt L m = some (toString chosen.payloadType)
      · exact .inl hevent
      · right
        have hname := hhead.2
        rw [h.denoted_static hevent, audioPtToString_supported hmem] at hname
        exact hname
    · exact (hagree pt (by rw [h.fmts, hpt]; simp)).1
  · rintro ⟨hlisted, hname, hevents⟩ pt hpt
    rw [h.fmts] at hpt
    -- what the telephone-event payload type stands for is left as it was
    have hevent : findTelephoneEventPt L m = some pt →
        namesEqualCi (denoted L m' pt) (denoted L m pt) = true := by
      intro heq
      rw [h.denoted_event heq]
      exact namesEqualCi_refl _
    rcases List.mem_cons.mp hpt with rfl | hpt
    · refine ⟨hlisted, ?_⟩
      by_cases heq : findTelephoneEventPt L m = some (toString chosen.payloadType)
      · exact hevent heq
      · rw [h.denoted_static heq, audioPtToString_supported hmem]
        exact hname.resolve_left heq
    · have heq : findTelephoneEventPt L m = some pt := Option.mem_toList.mp hpt
      exact ⟨hevents pt heq, hevent heq⟩

end Narrowed

/-- An answer to an offer, narrowed to the codec that is picked for it. -/
theorem answersOffered_iff {L : SdpLib} {preferred : Option AudioCodecInfo} {chosen : SupportedCodec}
    {offer answer : SdpSession} {m m' : SdpMedia} (hactive : findActiveAudioMedia offer = some m)
    (hpick : pickAnswerCodec preferred (extractAllAudioCodecs L offer) = some chosen)
    (hline : answeredLine offer answer = some (m, m')) (hnarrowed : NarrowedTo L chosen m m') :
    AnswersOffered L offer answer ↔ PicksStatic L preferred offer := by
  have hmem := (pickAnswerCodec_some hpick).1
  constructor
  · intro h m₁ chosen₁ hactive₁ hpick₁
    obtain rfl : m = m₁ := Option.some.inj (hactive.symm.trans hactive₁)
    obtain rfl : chosen = chosen₁ := Option.some.inj (hpick.symm.trans hpick₁)
    exact (hnarrowed.agrees_iff hmem).mp (h m m' hline)
  · intro h m₁ m₁' hline₁
    obtain ⟨rfl, rfl⟩ := Prod.mk.inj (Option.some.inj (hline.symm.trans hline₁))
    exact (hnarrowed.agrees_iff hmem).mpr (h m chosen hactive hpick)

theorem active_of_pick {L : SdpLib} {preferred : Option AudioCodecInfo} {chosen : SupportedCodec}
    {offer : SdpSession}
    (hpick : pickAnswerCodec preferred (extractAllAudioCodecs L offer) = some chosen) :
    ∃ m, findActiveAudioMedia offer = some m := by
  have hoffers := (pickAnswerCodec_some hpick).2
  cases hactive : findActiveAudioMedia offer with
  | some m => exact ⟨m, rfl⟩
  | none => simp [extractAllAudioCodecs, hactive, offers] at hoffers

/-! ### Telephone events -/

/-- A payload type as a number of eight bits. -/
def ptNumber (pt : String) : ℕ := strtoul pt % 256

/-- The telephone-event payload type in the format list of a line. -/
def eventPt (L : SdpLib) (m : SdpMedia) : Option ℕ :=
  (m.fmts.find? (isTelephoneEvent L m)).map ptNumber

theorem extractTelephoneEventPt_eq {L : SdpLib} {sdp : SdpSession} {m : SdpMedia}
    (h : findActiveAudioMedia sdp = some m) : extractTelephoneEventPt L sdp = eventPt L m := by
  have hnumber : ∀ pt, (makeCodecInfo L m pt).payloadType = ptNumber pt := by
    intro pt
    rw [makeCodecInfo]
    cases findRtpmap L m pt <;> rfl
  rw [extractTelephoneEventPt, extractAllAudioCodecs, h]
  dsimp only
  rw [List.find?_map, Option.map_map, eventPt]
  exact Option.map_congr fun pt _ => hnumber pt

/-- The first telephone-event format of the list has the number the rtpmaps name first for
telephone events; if that number's own first rtpmap names something else, the list has no
telephone-event format. -/
def EventsInOrder (L : SdpLib) (m : SdpMedia) : Prop :=
  ∀ pt, findTelephoneEventPt L m = some pt →
    eventPt L m = if isTelephoneEvent L m pt then some (ptNumber pt) else none

/-- The telephone-event payload type of a narrowed line. -/
theorem NarrowedTo.eventPt_eq {L : SdpLib} {chosen : SupportedCodec} {m m' : SdpMedia}
    (h : NarrowedTo L chosen m m') :
    eventPt L m' = (findTelephoneEventPt L m).bind fun pt =>
      if isTelephoneEvent L m pt then some (ptNumber pt) else none := by
  have hstatic : ∀ pt, findTelephoneEventPt L m ≠ some pt → isTelephoneEvent L m' pt = false := by
    intro pt hpt
    show namesEqualCi (denoted L m' pt) "telephone-event" = false
    rw [h.denoted_static hpt, audioPtToString_not_event]
  have hevent : ∀ pt, findTelephoneEventPt L m = some pt →
      isTelephoneEvent L m' pt = isTelephoneEvent L m pt := by
    intro pt hpt
    show namesEqualCi (denoted L m' pt) "telephone-event" = _
    rw [h.denoted_event hpt]
    rfl
  rw [eventPt, h.fmts]
  generalize toString chosen.payloadType = first
  cases hpt : findTelephoneEventPt L m with
  | none =>
    have hfirst := hstatic first (by rw [hpt]; simp)
    simp [hfirst]
  | some pt =>
    have hmine := hevent pt hpt
    by_cases hsame : first = pt
    · -- the codec's own payload type is the one for telephone events
      subst hsame
      cases hm : isTelephoneEvent L m first with
      | true => simp [hmine, hm]
      | false => simp [hmine, hm]
    · have hother := hstatic first (by rw [hpt]; exact fun heq => hsame (Option.some.inj heq).symm)
      cases hm : isTelephoneEvent L m pt with
      | true => simp [hother, hmine, hm]
      | false => simp [hother, hmine, hm]

/-- Without an rtpmap for telephone events there is no such format. -/
theorem eventPt_none {L : SdpLib} {m : SdpMedia} (h : findTelephoneEventPt L m = none) :
    eventPt L m = none := by
  rw [eventPt, Option.map_eq_none_iff, List.find?_eq_none]
  intro pt _ hevent
  have hsome := findTelephoneEventPt_of_event hevent
  rw [h] at hsome
  cases hsome

theorem NarrowedTo.eventPt_iff {L : SdpLib} {chosen : SupportedCodec} {m m' : SdpMedia}
    (h : NarrowedTo L chosen m m') : eventPt L m = eventPt L m' ↔ EventsInOrder L m := by
  rw [h.eventPt_eq, EventsInOrder]
  cases hpt : findTelephoneEventPt L m with
  | none => simp [eventPt_none hpt]
  | some pt => simp

end Sdp

namespace MidDialogOffer

/-! ### Answers -/

open Sdp (PicksStatic AnswersOffered answeredLine)

/-- An offer in a dialog that is accepted: what was read of it, the line that is
answered, and that line in the answer. -/
theorem negotiated_line {env : Env} {offer : String} {leg : Leg} {c c' : Core} {n : NegotiatedOffer}
    {parsed answer : SdpSession} (hparse : Sdp.parse env.sdp offer = some parsed)
    (hneg : negotiateMidDialogOffer env offer leg c = (c', .ok n))
    (hanswer : n.answerSdp = some answer) :
    ∃ o m m', o.IsReading env offer leg c ∧ (configuredFor env leg o c).2 = true ∧
      c' = targetedAt env leg o.endpoint (configuredFor env leg o c).1 ∧ n.dtmfPt = o.dtmfPt ∧
      o.sdp = parsed ∧ Sdp.findActiveAudioMedia parsed = some m ∧
      answeredLine parsed answer = some (m, m') ∧ Sdp.NarrowedTo env.sdp o.chosen m m' := by
  obtain ⟨o, sdp, hread, hok, hsdp, hc', rfl⟩ := negotiateMidDialogOffer_ok hneg
  cases hanswer
  obtain rfl : o.sdp = parsed := Option.some.inj (hread.parse.symm.trans hparse)
  obtain ⟨port, rfl⟩ := answerTo_some hsdp
  obtain ⟨m, hactive⟩ := Sdp.active_of_pick hread.chosen
  obtain ⟨m', hline, hnarrowed⟩ := Sdp.answeredLine_anchored (L := env.sdp) o.chosen
    (Sdp.answerDirection o.direction) env.localIp port hactive
  exact ⟨o, m, m', hread, hok, hc', rfl, rfl, hactive, hline, hnarrowed⟩

/-- **The formats of an answer.**  For every offer and every preferred codec for which an
answer is produced, initial or in a dialog: every payload type of the answer's audio line
is among those of the offer's line and stands for the same encoding, if and only if the
offer lists the codec that is picked under its static payload type, does not rebind that
number, and lists the payload type its rtpmaps first name for telephone events. -/
theorem answers_offered_iff (env : Env) (offer : String) (c : Core) :
    (∀ parsed answer, Sdp.parse env.sdp offer = some parsed →
      (OfferAnswerActions.buildCallerAnswer env offer c).2 = some answer →
        (AnswersOffered env.sdp parsed answer ↔
          PicksStatic env.sdp (c.legs .callee).codec parsed)) ∧
    ∀ leg parsed answer c' n, Sdp.parse env.sdp offer = some parsed →
      negotiateMidDialogOffer env offer leg c = (c', .ok n) → n.answerSdp = some answer →
        (AnswersOffered env.sdp parsed answer ↔
          PicksStatic env.sdp (c.legs (other leg)).codec parsed) := by
  constructor
  · intro parsed answer hparse hbuilt
    rw [OfferAnswerActions.buildCallerAnswer, hparse] at hbuilt
    dsimp only at hbuilt
    cases hpick : Sdp.pickAnswerCodec (c.legs .callee).codec
        (Sdp.extractAllAudioCodecs env.sdp parsed) with
    | none =>
      rw [hpick] at hbuilt
      cases hbuilt
    | some chosen =>
      rw [hpick] at hbuilt
      cases hbuilt
      obtain ⟨m, hactive⟩ := Sdp.active_of_pick hpick
      obtain ⟨m', hline, hnarrowed⟩ := Sdp.answeredLine_restricted (L := env.sdp) chosen hactive
      exact Sdp.answersOffered_iff hactive hpick hline hnarrowed
  · intro leg parsed answer c' n hparse hneg hanswer
    obtain ⟨o, m, m', hread, -, -, -, rfl, hactive, hline, hnarrowed⟩ :=
      negotiated_line hparse hneg hanswer
    exact Sdp.answersOffered_iff hactive hread.chosen hline hnarrowed

/-- A call between two phones that speak PCMU. -/
def phonesTalking : Core :=
  let leg := { inv := some phoneInv, disconnected := false
               codec := some { payloadType := 0, name := "PCMU", clockRate := 0 }
               dtmfPt := none, mediaDirection := .sendRecv }
  let pcmu := { audio := { name := "PCMU", payloadType := 0, clockRate := 8000, rtpClockRate := 8000 }
                dtmfPt := none }
  { legs := fun _ => leg
    bridge :=
      { port := phoneEnv.bind, handed := [], configured := some (pcmu, pcmu)
        flow := fun _ => { canSend := true, canReceive := true }
        loopStartRequested := true, setAfterStart := false, closed := false }
    tick := 0
    opens := 0
    log := []
    reports := []
    answered := true
    terminatedReported := false
    holdStarted := false
    outboundDestination := "sip:10.0.0.2:5060"
    negotiatedOffer := ""
    negotiatedAnswer := ""
    queuedReplacements := []
    removeScheduled := false }

/-- An offer of one audio line with the given formats and rtpmaps. -/
def audioSdp (fmts rtpmaps : List String) : SdpSession where
  conn := some { netType := "IN", addrType := "IP4", addr := "10.0.0.1" }
  attrs := []
  media := [{ media := "audio", port := 4000, transport := "RTP/AVP", fmts := fmts, conn := none
              attrs := rtpmaps.map fun value => { name := "rtpmap", value := value } }]

def sdpHead : String :=
  "v=0\r\no=- 1 1 IN IP4 10.0.0.1\r\ns=-\r\nc=IN IP4 10.0.0.1\r\nt=0 0\r\n"

/-- PCMU under a dynamic payload type. -/
def dynamicText : String := sdpHead ++ "m=audio 4000 RTP/AVP 96\r\na=rtpmap:96 PCMU/8000\r\n"

/-- Two telephone-event formats, listed and described in the given order. -/
def eventsText (first second : String) : String :=
  sdpHead ++ "m=audio 4000 RTP/AVP 0 101 102\r\na=rtpmap:" ++ first ++
    " telephone-event/8000\r\na=rtpmap:" ++ second ++ " telephone-event/8000\r\n"

def eventsSdp (first second : String) : SdpSession :=
  audioSdp ["0", "101", "102"] [first ++ " telephone-event/8000", second ++ " telephone-event/8000"]

/-- A library for these three descriptions. -/
def formatsLib : SdpLib :=
  Sdp.tableLib
    [(dynamicText, audioSdp ["96"] ["96 PCMU/8000"]), (eventsText "101" "102", eventsSdp "101" "102"),
     (eventsText "102" "101", eventsSdp "102" "101")]
    [("96 PCMU/8000", { pt := "96", encName := "PCMU", clockRate := 8000 }),
     ("101 telephone-event/8000", { pt := "101", encName := "telephone-event", clockRate := 8000 }),
     ("102 telephone-event/8000", { pt := "102", encName := "telephone-event", clockRate := 8000 })]

def formatsEnv : Env := { phoneEnv with sdp := formatsLib }

/-- PCMU is offered as 96 only, and answered as 0. -/
theorem answers_unoffered : ¬ ∀ parsed answer, Sdp.parse formatsEnv.sdp dynamicText = some parsed →
    (OfferAnswerActions.buildCallerAnswer formatsEnv dynamicText phonesTalking).2 = some answer →
      AnswersOffered formatsEnv.sdp parsed answer := by
  intro h
  have hoffered := h (audioSdp ["96"] ["96 PCMU/8000"])
    (Sdp.restrictAudioCodecs formatsLib
      [{ name := "PCMU", payloadType := 0, clockRate := 8000, rtpClockRate := 8000 }]
      (audioSdp ["96"] ["96 PCMU/8000"])) (by decide +kernel) (by decide +kernel)
  have hline : (answeredLine (audioSdp ["96"] ["96 PCMU/8000"])
      (Sdp.restrictAudioCodecs formatsLib
        [{ name := "PCMU", payloadType := 0, clockRate := 8000, rtpClockRate := 8000 }]
        (audioSdp ["96"] ["96 PCMU/8000"]))).any
      (fun x => decide ("0" ∈ x.2.fmts) && decide ("0" ∉ x.1.fmts)) = true := by decide +kernel
  obtain ⟨⟨m, m'⟩, hsome, hfmts⟩ := (Option.any_eq_true _ _).mp hline
  simp only [Bool.and_eq_true, decide_eq_true_eq] at hfmts
  exact hfmts.2 (hoffered m m' hsome "0" hfmts.1).1

/-! ### The bridge -/

/-- The telephone-event payload type the bridge is configured with for a leg. -/
def configuredDtmf (leg : Leg) (b : MediaBridge) : Option (Option ℕ) :=
  b.configured.map fun legs =>
    match leg with
    | .caller => legs.1.dtmfPt
    | .callee => legs.2.dtmfPt

theorem reconfigureMediaBridge_dtmf {env : Env} {leg : Leg} {codec : SupportedCodec}
    {dtmfPt : Option ℕ} {c : Core} (h : (reconfigureMediaBridge env leg codec dtmfPt c).2 = true) :
    configuredDtmf leg (reconfigureMediaBridge env leg codec dtmfPt c).1.bridge = some dtmfPt := by
  have hlegs : ∀ legA legB, (c.configureLegs env legA legB).2 = true →
      (c.configureLegs env legA legB).1.bridge.configured = some (legA, legB) := by
    intro legA legB
    rw [Core.configureLegs]
    split
    · exact fun _ => rfl
    · split
      · exact fun _ => rfl
      · exact fun hfalse => absurd hfalse Bool.false_ne_true
  revert h
  rw [reconfigureMediaBridge]
  split
  · exact fun hfalse => absurd hfalse Bool.false_ne_true
  · dsimp only
    split
    · cases leg with
      | caller =>
        intro h
        rw [configuredDtmf, hlegs _ _ h]
        rfl
      | callee =>
        intro h
        rw [configuredDtmf, hlegs _ _ h]
        rfl
    · exact fun hfalse => absurd hfalse Bool.false_ne_true

/-- The telephone-event payload type that is returned is the one in the answer's format
list, and the bridge works with it: it has just been configured with it, or the leg had it
already. -/
structure EventsAgree (env : Env) (leg : Leg) (c c' : Core) (n : NegotiatedOffer)
    (offer answer : SdpSession) : Prop where
  answered : ∀ m m', answeredLine offer answer = some (m, m') → n.dtmfPt = Sdp.eventPt env.sdp m'
  configured : configuredDtmf leg c'.bridge = some n.dtmfPt ∨ (c.legs leg).dtmfPt = n.dtmfPt

/-- **Telephone events.**  For every offer in a dialog for which the negotiation succeeds:
the telephone-event payload type it returns and configures on the bridge is the one in the
answer's format list, both being absent together, if and only if the first telephone-event
format of the offer's list is the one its rtpmaps name first. -/
theorem events_agree_iff {env : Env} {offer : String} {leg : Leg} {c c' : Core} {n : NegotiatedOffer}
    {parsed answer : SdpSession} (hparse : Sdp.parse env.sdp offer = some parsed)
    (hneg : negotiateMidDialogOffer env offer leg c = (c', .ok n))
    (hanswer : n.answerSdp = some answer) :
    EventsAgree env leg c c' n parsed answer ↔
      ∀ m, Sdp.findActiveAudioMedia parsed = some m → Sdp.EventsInOrder env.sdp m := by
  obtain ⟨o, m, m', hread, hok, rfl, hn, rfl, hactive, hline, hnarrowed⟩ :=
    negotiated_line hparse hneg hanswer
  have hdtmf : n.dtmfPt = Sdp.eventPt env.sdp m :=
    hn.trans (hread.dtmfPt.trans (Sdp.extractTelephoneEventPt_eq hactive))
  have hbridge : (targetedAt env leg o.endpoint (configuredFor env leg o c).1).bridge.configured =
      (configuredFor env leg o c).1.bridge.configured := by
    rw [targetedAt]
    split
    · rfl
    · rfl
  have hconfigured : configuredDtmf leg
      (targetedAt env leg o.endpoint (configuredFor env leg o c).1).bridge = some n.dtmfPt ∨
        (c.legs leg).dtmfPt = n.dtmfPt := by
    rw [hn, configuredDtmf, hbridge]
    cases hchanged : mediaChanged (c.legs leg).codec (c.legs leg).dtmfPt o.chosen.name o.dtmfPt with
    | true =>
      rw [configuredFor, reconfigureIf, hchanged] at hok ⊢
      exact .inl (reconfigureMediaBridge_dtmf hok)
    | false =>
      right
      rw [mediaChanged, Bool.or_eq_false_iff, decide_eq_false_iff_not, not_not] at hchanged
      exact hchanged.2
  constructor
  · intro h m₁ hactive₁
    obtain rfl : m = m₁ := Option.some.inj (hactive.symm.trans hactive₁)
    exact hnarrowed.eventPt_iff.mp (hdtmf.symm.trans (h.answered m m' hline))
  · intro h
    refine ⟨fun m₁ m₁' hline₁ => ?_, hconfigured⟩
    obtain ⟨rfl, rfl⟩ := Prod.mk.inj (Option.some.inj (hline.symm.trans hline₁))
    exact hdtmf.trans (hnarrowed.eventPt_iff.mpr (h m hactive))

/-- The format the list has first is the one described first: it is in the answer and on
the bridge. -/
theorem events_agree_in_order :
    ∃ c' n answer, negotiateMidDialogOffer formatsEnv (eventsText "101" "102") .caller phonesTalking =
        (c', .ok n) ∧ n.dtmfPt = some 101 ∧
      EventsAgree formatsEnv .caller phonesTalking c' n (eventsSdp "101" "102") answer := by
  have hok : (negotiateMidDialogOffer formatsEnv (eventsText "101" "102") .caller
      phonesTalking).2.toOption.any
        (fun n => decide (n.dtmfPt = some 101) && n.answerSdp.isSome) = true := by decide +kernel
  cases hneg : negotiateMidDialogOffer formatsEnv (eventsText "101" "102") .caller phonesTalking with
  | mk c' result =>
    rw [hneg] at hok
    cases result with
    | error outcome => cases hok
    | ok n =>
      simp only [Except.toOption, Option.any_some, Bool.and_eq_true, decide_eq_true_eq] at hok
      obtain ⟨answer, hanswer⟩ := Option.isSome_iff_exists.mp hok.2
      refine ⟨c', n, answer, rfl, hok.1, (events_agree_iff (by decide +kernel) hneg hanswer).mpr ?_⟩
      intro m hm pt hpt
      have hfirst : m = (eventsSdp "101" "102").media.head (List.cons_ne_nil _ _) :=
        Option.some.inj (hm.symm.trans (by decide +kernel))
      subst hfirst
      have hevent : Sdp.findTelephoneEventPt formatsLib
          ((eventsSdp "101" "102").media.head (List.cons_ne_nil _ _)) = some "101" := by decide +kernel
      obtain rfl : "101" = pt := Option.some.inj (hevent.symm.trans hpt)
      show Sdp.eventPt formatsLib _ = if Sdp.isTelephoneEvent formatsLib _ "101" then _ else _
      decide +kernel

/-- The other way round the bridge gets 101, and the answer lists 102. -/
theorem events_disagree : ¬ ∀ c' n answer,
    negotiateMidDialogOffer formatsEnv (eventsText "102" "101") .caller phonesTalking = (c', .ok n) →
      n.answerSdp = some answer →
        EventsAgree formatsEnv .caller phonesTalking c' n (eventsSdp "102" "101") answer := by
  intro h
  have hok : (negotiateMidDialogOffer formatsEnv (eventsText "102" "101") .caller
      phonesTalking).2.toOption.any (fun n => decide (n.dtmfPt = some 101) &&
        n.answerSdp.any fun answer => (answeredLine (eventsSdp "102" "101") answer).any fun x =>
          decide (Sdp.eventPt formatsLib x.2 = some 102)) = true := by decide +kernel
  cases hneg : negotiateMidDialogOffer formatsEnv (eventsText "102" "101") .caller phonesTalking with
  | mk c' result =>
    rw [hneg] at hok
    cases result with
    | error outcome => cases hok
    | ok n =>
      simp only [Except.toOption, Option.any_some, Bool.and_eq_true, decide_eq_true_eq] at hok
      obtain ⟨answer, hanswer, hline⟩ := (Option.any_eq_true _ _).mp hok.2
      obtain ⟨⟨m, m'⟩, hsome, hlisted⟩ := (Option.any_eq_true _ _).mp hline
      have hagree := (h c' n answer hneg hanswer).answered m m' hsome
      rw [hok.1] at hagree
      have hsame := hagree.trans (of_decide_eq_true hlisted)
      cases hsame

end MidDialogOffer

end SbcEngine
