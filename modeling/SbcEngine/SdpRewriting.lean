/-
The laws of the two functions that rewrite a session description.

`rewriteConnectionAndPort` anchors media at the relay, `restrictAudioCodecs` narrows the
codecs of the line the engine relays.  Both are meant to leave alone what they are not
about: declined lines, other lines, other attributes.

* `Anchors` — what anchoring owes a description, `rewrite_anchors_iff` for which ones it
  does it: those without a declined line;
* `restrictMedia_restrictMedia` — restricting twice is restricting once;
* `Restricts` — what a restriction owes a description, `restrict_restricts_iff` for which
  ones it does it.

Design notes: whether a format is one for telephone events is read as the engine reads it
elsewhere, off the first rtpmap of the format.  The restriction looks for the first rtpmap
that says telephone-event, whether or not its number is in the format list.
-/
import SbcEngine.Sdp
import Mathlib.Data.PNat.Basic

namespace SbcEngine

namespace Sdp

/-! ### Anchoring -/

/-- A line anchored at the relay: a declined one stays declined. -/
def anchoredMedia (relayIp : String) (relayPort : ℕ) (m : SdpMedia) : SdpMedia :=
  { m with
    port := if m.port = 0 then 0 else relayPort
    conn := m.conn.map fun _ => setConnAddr relayIp }

/-- Every connection line is set to the relay, every line that is not declined has the
relay port, nothing else has changed; so the first active audio line is where it was. -/
structure Anchors (relayIp : String) (relayPort : ℕ) (sdp sdp' : SdpSession) : Prop where
  conn : sdp'.conn = sdp.conn.map fun _ => setConnAddr relayIp
  attrs : sdp'.attrs = sdp.attrs
  media : sdp'.media = sdp.media.map (anchoredMedia relayIp relayPort)
  sameLine : sdp'.media.findIdx isActiveAudio = sdp.media.findIdx isActiveAudio

theorem isActiveAudio_anchored (relayIp : String) {relayPort : ℕ} (hport : relayPort ≠ 0)
    (m : SdpMedia) : isActiveAudio (anchoredMedia relayIp relayPort m) = isActiveAudio m := by
  have haudio : isAudio (anchoredMedia relayIp relayPort m) = isAudio m := rfl
  rw [isActiveAudio, isActiveAudio, haudio, anchoredMedia]
  by_cases hdeclined : m.port = 0
  · simp [hdeclined]
  · simp [hdeclined, hport]

theorem rewriteMedia_eq_anchored_iff (relayIp : String) {relayPort : ℕ} (hport : relayPort ≠ 0)
    (m : SdpMedia) :
    rewriteMedia relayIp relayPort m = anchoredMedia relayIp relayPort m ↔ m.port ≠ 0 := by
  rw [rewriteMedia, anchoredMedia]
  constructor
  · intro heq hdeclined
    have hports : relayPort = if m.port = 0 then 0 else relayPort := congrArg SdpMedia.port heq
    rw [if_pos hdeclined] at hports
    exact hport hports
  · intro hactive
    rw [if_neg hactive]

/-- **Anchoring.**  For every description, relay address and port: declined lines stay
declined, all other lines get the relay port, all connection lines the relay address,
nothing else changes and the first active audio line is the same, if and only if no line
is declined. -/
theorem rewrite_anchors_iff (relayIp : String) (relayPort : ℕ+) (sdp : SdpSession) :
    Anchors relayIp relayPort sdp (rewriteConnectionAndPort relayIp relayPort sdp) ↔
      ∀ m ∈ sdp.media, m.port ≠ 0 := by
  have hport : (relayPort : ℕ) ≠ 0 := relayPort.ne_zero
  constructor
  · intro h m hm
    exact (rewriteMedia_eq_anchored_iff relayIp hport m).mp (List.map_inj_left.mp h.media m hm)
  · intro hactive
    have hmedia : (rewriteConnectionAndPort relayIp relayPort sdp).media =
        sdp.media.map (anchoredMedia relayIp relayPort) :=
      List.map_congr_left fun m hm =>
        (rewriteMedia_eq_anchored_iff relayIp hport m).mpr (hactive m hm)
    refine ⟨rfl, rfl, hmedia, ?_⟩
    rw [hmedia, List.findIdx_map]
    exact congrArg (fun p => sdp.media.findIdx p)
      (funext fun m => isActiveAudio_anchored relayIp hport m)

/-- A declined line before the active one. -/
def declinedFirst : SdpSession where
  conn := some { netType := "IN", addrType := "IP4", addr := "10.0.0.1" }
  attrs := []
  media :=
    [{ media := "audio", port := 0, transport := "RTP/AVP", fmts := ["8"], conn := none, attrs := [] },
     { media := "audio", port := 4000, transport := "RTP/AVP", fmts := ["0"], conn := none, attrs := [] }]

/-- The declined line comes out with the relay port, and is the first active one. -/
theorem rewrite_revives_declined : ¬ Anchors "10.0.0.9" 20000 declinedFirst
    (rewriteConnectionAndPort "10.0.0.9" 20000 declinedFirst) := by
  intro h
  exact absurd h.sameLine (by decide)

/-! ### Restricting -/

/-- The format is one for telephone events, by its first rtpmap. -/
def isTelephoneEvent (L : SdpLib) (m : SdpMedia) (fmt : String) : Bool :=
  namesEqualCi (makeCodecInfo L m fmt).name "telephone-event"

/-- The telephone-event formats of a line's format list. -/
def telephoneEvents (L : SdpLib) (m : SdpMedia) : List String := m.fmts.filter (isTelephoneEvent L m)

/-- An attribute that is about no format, or about the format that is kept. -/
def survives (L : SdpLib) (kept : Option String) (attr : SdpAttr) : Bool :=
  if isRtpmap attr then kept.any fun fmt => (L.getRtpmap attr).any (·.pt = fmt)
  else if isFmtp attr then kept.any fun fmt => L.getFmtp attr = some fmt
  else true

/-- The line `m'` is `m` with the allowed payload types, followed by one of its
telephone-event formats if it has any, and without the attributes of all other formats. -/
def RestrictsMedia (L : SdpLib) (allowed : List SupportedCodec) (m m' : SdpMedia) : Prop :=
  ∃ kept : Option String, (kept = none ↔ telephoneEvents L m = []) ∧
    (∀ fmt, kept = some fmt → fmt ∈ telephoneEvents L m) ∧
    m' = { m with
      fmts := allowed.map (fun codec => toString codec.payloadType) ++ kept.toList
      attrs := m.attrs.filter (survives L kept) }

/-- What restricting the codecs of a description does: the first active audio line is
restricted, everything else stays, and a second time changes nothing. -/
structure Restricts (L : SdpLib) (allowed : List SupportedCodec) (restrict : SdpSession → SdpSession)
    (sdp : SdpSession) : Prop where
  conn : (restrict sdp).conn = sdp.conn
  attrs : (restrict sdp).attrs = sdp.attrs
  media : (∀ m ∈ sdp.media, isActiveAudio m = false) ∧ (restrict sdp).media = sdp.media ∨
    ∃ before m later m', sdp.media = before ++ m :: later ∧
      (∀ x ∈ before, isActiveAudio x = false) ∧ isActiveAudio m = true ∧
      (restrict sdp).media = before ++ m' :: later ∧ RestrictsMedia L allowed m m'
  twice : restrict (restrict sdp) = restrict sdp

theorem modifyFirst_eq_self {α : Type} {p : α → Bool} {f : α → α} {xs : List α}
    (h : ∀ x ∈ xs, p x = true → f x = x) : modifyFirst p f xs = xs := by
  induction xs with
  | nil => rfl
  | cons x xs ih =>
    rw [modifyFirst]
    split_ifs with hx
    · rw [h x List.mem_cons_self hx]
    · rw [ih fun y hy => h y (List.mem_cons_of_mem x hy)]

theorem modifyFirst_append {α : Type} {p : α → Bool} (f : α → α) {before : List α}
    (hbefore : ∀ x ∈ before, p x = false) {x : α} (hx : p x = true) (later : List α) :
    modifyFirst p f (before ++ x :: later) = before ++ f x :: later := by
  induction before with
  | nil => exact if_pos hx
  | cons y ys ih =>
    have hy : ¬ p y = true := by
      rw [hbefore y List.mem_cons_self]
      exact Bool.false_ne_true
    rw [List.cons_append, modifyFirst, if_neg hy, ih fun z hz => hbefore z (List.mem_cons_of_mem y hz)]
    rfl

/-- Changing the first element a second time changes it twice. -/
theorem modifyFirst_modifyFirst {α : Type} {p : α → Bool} (f g : α → α) (hf : ∀ x, p (f x) = p x)
    (xs : List α) : modifyFirst p g (modifyFirst p f xs) = modifyFirst p (g ∘ f) xs := by
  induction xs with
  | nil => rfl
  | cons x xs ih =>
    by_cases hx : p x = true
    · rw [modifyFirst, if_pos hx, modifyFirst, if_pos ((hf x).trans hx), modifyFirst, if_pos hx]
      rfl
    · rw [modifyFirst, if_neg hx, modifyFirst, if_neg hx, modifyFirst, if_neg hx, ih]

theorem survives_eq (L : SdpLib) (kept : Option String) (attr : SdpAttr) :
    survives L kept attr = !isStale L kept attr := by
  rw [survives, isStale, isFmtp]
  cases isRtpmap attr with
  | true => simp
  | false => cases namesEqualCi attr.name "fmtp" <;> simp

/-- The telephone-event format that is kept is found again. -/
theorem findTelephoneEventPt_restrictMedia (L : SdpLib) (allowed : List SupportedCodec)
    (m : SdpMedia) : findTelephoneEventPt L (restrictMedia L allowed m) = findTelephoneEventPt L m := by
  rw [findTelephoneEventPt, rtpmaps_restrictMedia, List.find?_filter]
  cases hfind : (rtpmaps L m).find? fun rtpmap => namesEqualCi rtpmap.encName "telephone-event" with
  | none =>
    have hnone : findTelephoneEventPt L m = none := by rw [findTelephoneEventPt, hfind]; rfl
    simp [hnone]
  | some found =>
    have hsome : findTelephoneEventPt L m = some found.pt := by rw [findTelephoneEventPt, hfind]; rfl
    obtain ⟨hname, before, later, hsplit, hbefore⟩ := List.find?_eq_some_iff_append.mp hfind
    rw [hsome, Option.map_eq_some_iff]
    refine ⟨found, List.find?_eq_some_iff_append.mpr ⟨by simp [hname], before, later, hsplit, ?_⟩, rfl⟩
    intro rtpmap hmem
    have hother := hbefore rtpmap hmem
    simp only [Bool.not_eq_true'] at hother
    simp [hother]

theorem restrictMedia_restrictMedia (L : SdpLib) (allowed : List SupportedCodec) (m : SdpMedia) :
    restrictMedia L allowed (restrictMedia L allowed m) = restrictMedia L allowed m := by
  have hpt := findTelephoneEventPt_restrictMedia L allowed m
  rw [restrictMedia, hpt, restrictMedia]
  simp only [List.filter_filter, Bool.and_self]

/-- **Restricting twice.**  The second time changes nothing. -/
theorem restrictAudioCodecs_twice (L : SdpLib) (allowed : List SupportedCodec) (sdp : SdpSession) :
    restrictAudioCodecs L allowed (restrictAudioCodecs L allowed sdp) =
      restrictAudioCodecs L allowed sdp := by
  simp only [restrictAudioCodecs, modifyActiveAudio]
  rw [modifyFirst_modifyFirst _ _ (isActiveAudio_restrictMedia L allowed)]
  have hcomp : restrictMedia L allowed ∘ restrictMedia L allowed = restrictMedia L allowed :=
    funext (restrictMedia_restrictMedia L allowed)
  rw [hcomp]

/-- No static payload type is called telephone-event. -/
theorem audioPtToString_not_event (payloadType : ℕ) :
    namesEqualCi (audioPtToString payloadType) "telephone-event" = false := by
  unfold audioPtToString
  split <;> decide

/-- A telephone-event format has an rtpmap that says so. -/
theorem findTelephoneEventPt_of_event {L : SdpLib} {m : SdpMedia} {fmt : String}
    (h : isTelephoneEvent L m fmt = true) : (findTelephoneEventPt L m).isSome := by
  rw [isTelephoneEvent, makeCodecInfo] at h
  cases hfind : findRtpmap L m fmt with
  | none =>
    rw [hfind] at h
    dsimp only at h
    rw [audioPtToString_not_event] at h
    cases h
  | some rtpmap =>
    rw [hfind] at h
    rw [findTelephoneEventPt, Option.isSome_map, List.find?_isSome]
    exact ⟨rtpmap, List.mem_of_find?_eq_some hfind, h⟩

/-- The first rtpmap that says telephone-event is about one of the line's telephone-event
formats. -/
def TelephoneEventListed (L : SdpLib) (m : SdpMedia) : Prop :=
  ∀ fmt, findTelephoneEventPt L m = some fmt → fmt ∈ m.fmts ∧ isTelephoneEvent L m fmt = true

theorem restrictMedia_restricts_iff (L : SdpLib) (allowed : List SupportedCodec) (m : SdpMedia) :
    RestrictsMedia L allowed m (restrictMedia L allowed m) ↔ TelephoneEventListed L m := by
  constructor
  · rintro ⟨kept, hnone, hkept, heq⟩ fmt hfmt
    have hfmts : kept.toList = [fmt] := by
      have hlists := congrArg SdpMedia.fmts heq
      rw [restrictMedia, hfmt] at hlists
      exact (List.append_cancel_left hlists).symm
    have hsome : kept = some fmt := by
      cases kept with
      | none => cases hfmts
      | some fmt' => exact congrArg some (List.head_eq_of_cons_eq hfmts)
    exact List.mem_filter.mp (hkept fmt hsome)
  · intro hlisted
    refine ⟨findTelephoneEventPt L m, ?_, ?_, ?_⟩
    · constructor
      · intro hnone
        refine List.filter_eq_nil_iff.mpr fun fmt _ hevent => ?_
        have hsome := findTelephoneEventPt_of_event hevent
        rw [hnone] at hsome
        cases hsome
      · intro hnil
        by_contra hne
        obtain ⟨fmt, hfmt⟩ := Option.ne_none_iff_exists'.mp hne
        have hmem : fmt ∈ telephoneEvents L m := List.mem_filter.mpr (hlisted fmt hfmt)
        rw [hnil] at hmem
        cases hmem
    · intro fmt hfmt
      exact List.mem_filter.mpr (hlisted fmt hfmt)
    · rw [restrictMedia]
      congr 1
      exact List.filter_congr fun attr _ => (survives_eq L _ attr).symm

/-- The line that is restricted is the first active audio line. -/
theorem restricts_iff_listed {L : SdpLib} (allowed : List SupportedCodec) {sdp : SdpSession}
    {m : SdpMedia} (hfind : findActiveAudioMedia sdp = some m) :
    Restricts L allowed (restrictAudioCodecs L allowed) sdp ↔ TelephoneEventListed L m := by
  obtain ⟨hactive, before, later, hsplit, hbefore⟩ := List.find?_eq_some_iff_append.mp hfind
  have hidle : ∀ x ∈ before, isActiveAudio x = false := by
    intro x hx
    simpa using hbefore x hx
  have hmedia : (restrictAudioCodecs L allowed sdp).media =
      before ++ restrictMedia L allowed m :: later := by
    show modifyFirst isActiveAudio _ sdp.media = _
    rw [hsplit]
    exact modifyFirst_append _ hidle hactive later
  rw [← restrictMedia_restricts_iff L allowed m]
  constructor
  · intro h
    rcases h.media with ⟨hnone, -⟩ | ⟨before', m₁, later', m', hsplit', hidle', hactive', hmedia', hm'⟩
    · have hno := hnone m (by rw [hsplit]; simp)
      rw [hactive] at hno
      cases hno
    · -- the first active line is the one that was found
      have hfirst : findActiveAudioMedia sdp = some m₁ := by
        refine List.find?_eq_some_iff_append.mpr ⟨hactive', before', later', hsplit', ?_⟩
        intro x hx
        rw [hidle' x hx]
        rfl
      obtain rfl : m = m₁ := Option.some.inj (hfind.symm.trans hfirst)
      have hmodified := modifyFirst_append (restrictMedia L allowed) hidle' hactive' later'
      rw [← hsplit'] at hmodified
      have htails := List.append_cancel_left (hmodified.symm.trans hmedia')
      rw [List.head_eq_of_cons_eq htails]
      exact hm'
  · intro h
    exact ⟨rfl, rfl, .inr ⟨before, m, later, _, hsplit, hidle, hactive, hmedia, h⟩,
      restrictAudioCodecs_twice L allowed sdp⟩

/-- **Restricting.**  For every description and every list of allowed codecs: the format
list of the first active audio line becomes the allowed payload types, followed by one of
its telephone-event formats if and only if it has one, exactly that format's attributes
survive, everything else stays and a second time changes nothing, if and only if the first
rtpmap of the line that says telephone-event, if any, is about a telephone-event format of
its format list. -/
theorem restrict_restricts_iff (L : SdpLib) (allowed : List SupportedCodec) (sdp : SdpSession) :
    Restricts L allowed (restrictAudioCodecs L allowed) sdp ↔
      ∀ m, findActiveAudioMedia sdp = some m → TelephoneEventListed L m := by
  cases hfind : findActiveAudioMedia sdp with
  | none =>
    have hidle : ∀ m ∈ sdp.media, isActiveAudio m = false := by
      intro m hm
      exact Bool.eq_false_iff.mpr (List.find?_eq_none.mp hfind m hm)
    have hsame : (restrictAudioCodecs L allowed sdp).media = sdp.media :=
      modifyFirst_eq_self fun m hm hactive => absurd hactive (by rw [hidle m hm]; exact Bool.false_ne_true)
    refine iff_of_true ⟨rfl, rfl, .inl ⟨hidle, hsame⟩, restrictAudioCodecs_twice L allowed sdp⟩ ?_
    intro m hm
    cases hm
  | some m =>
    rw [restricts_iff_listed allowed hfind]
    constructor
    · intro h m' hm'
      exact Option.some.inj hm' ▸ h
    · intro h
      exact h m rfl

/-- A library that reads the given texts and the given values of rtpmap attributes. -/
def tableLib (texts : List (String × SdpSession)) (maps : List (String × SdpRtpmap)) : SdpLib where
  parse text := (texts.find? fun e => e.1 = text).map (·.2)
  print sdp := (texts.find? fun e => e.2 = sdp).map (·.1)
  getRtpmap attr := (maps.find? fun e => e.1 = attr.value).map (·.2)
  getFmtp attr := some (String.ofList (attr.value.toList.takeWhile fun c => c ≠ ' '))
  maxAttr := 68
  isUnspecified6 _ := false
  makeAddress _ := true

/-- A line that offers PCMU and has an rtpmap for a number it does not list. -/
def unlistedEvents : SdpSession where
  conn := some { netType := "IN", addrType := "IP4", addr := "10.0.0.1" }
  attrs := []
  media :=
    [{ media := "audio", port := 4000, transport := "RTP/AVP", fmts := ["0"], conn := none
       attrs := [{ name := "rtpmap", value := "101 telephone-event/8000" }] }]

def eventMaps : List (String × SdpRtpmap) :=
  [("101 telephone-event/8000", { pt := "101", encName := "telephone-event", clockRate := 8000 })]

/-- The number that was never listed is advertised. -/
theorem restrict_advertises_unlisted :
    ¬ Restricts (tableLib [] eventMaps) [{ name := "PCMU", payloadType := 0, clockRate := 8000, rtpClockRate := 8000 }]
      (restrictAudioCodecs (tableLib [] eventMaps)
        [{ name := "PCMU", payloadType := 0, clockRate := 8000, rtpClockRate := 8000 }]) unlistedEvents := by
  rw [restricts_iff_listed _ (m := unlistedEvents.media.head (List.cons_ne_nil _ _)) (by decide)]
  intro h
  exact absurd (h "101" (by decide)).1 (by decide)

end Sdp

end SbcEngine
