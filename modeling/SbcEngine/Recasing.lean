/-
Descriptions that differ in the letter case of their encoding names.

RTP encoding names are case-insensitive.  A description that spells the names of
its rtpmaps in another case says the same, and everything the engine reads from
it should be the same but for the spelling of a name.

* `RecasedSdp`, `RecasedText` — two descriptions, parsed and as texts, that differ
  only so;
* `RecasedInfo` — two codecs read from such descriptions;
* `RecasedSdp.telephoneEventPt`, `pickAnswerCodec_recased` and the others — what the
  engine reads and chooses is the same;
* `RecasedSdp.restrict`, `.setDirection`, `.rewrite` — what it writes differs only so;
* `Spelled`, `SameCodec` — names in the engine's own spelling, which its case-sensitive
  lookup finds;
* `answerSpelled_restrict`, `answerSpelled_anchored` — the answers the engine makes of an
  offer name the codec so, but for two corners.

Design notes: the relation is on what PJMEDIA makes of a text.  The check for a
second direction reads the lines of the text itself, so that it agrees is part of
the relation.
-/
import Mathlib.Data.List.Find
import Mathlib.Data.List.Forall2
import SbcEngine.Sdp

namespace SbcEngine

/-! ### Lists and options that are related -/

theorem forall₂_find? {α β : Type} {R : α → β → Prop} {p : α → Bool} {q : β → Bool}
    (hpq : ∀ a b, R a b → p a = q b) {l : List α} {l' : List β} (h : List.Forall₂ R l l') :
    Option.Rel R (l.find? p) (l'.find? q) := by
  induction h with
  | nil => exact .none
  | cons hab hrest ih =>
    rw [List.find?_cons, List.find?_cons, hpq _ _ hab]
    split
    · exact .some hab
    · exact ih

theorem forall₂_any_eq {α β : Type} {R : α → β → Prop} {p : α → Bool} {q : β → Bool}
    (hpq : ∀ a b, R a b → p a = q b) {l : List α} {l' : List β} (h : List.Forall₂ R l l') :
    l.any p = l'.any q := by
  induction h with
  | nil => rfl
  | cons hab hrest ih => rw [List.any_cons, List.any_cons, hpq _ _ hab, ih]

theorem forall₂_map_eq {α β γ : Type} {R : α → β → Prop} {f : α → γ} {g : β → γ}
    (hfg : ∀ a b, R a b → f a = g b) {l : List α} {l' : List β} (h : List.Forall₂ R l l') :
    l.map f = l'.map g := by
  induction h with
  | nil => rfl
  | cons hab hrest ih => rw [List.map_cons, List.map_cons, hfg _ _ hab, ih]

theorem optionRel_map_eq {α β γ : Type} {R : α → β → Prop} {f : α → γ} {g : β → γ}
    (hfg : ∀ a b, R a b → f a = g b) {x : Option α} {y : Option β} (h : Option.Rel R x y) :
    x.map f = y.map g := by
  cases h with
  | none => rfl
  | some hab => rw [Option.map_some, Option.map_some, hfg _ _ hab]

theorem optionRel_any_eq {α β : Type} {R : α → β → Prop} {p : α → Bool} {q : β → Bool}
    (hpq : ∀ a b, R a b → p a = q b) {x : Option α} {y : Option β} (h : Option.Rel R x y) :
    x.any p = y.any q := by
  cases h with
  | none => rfl
  | some hab => exact hpq _ _ hab

theorem optionRel_imp {α β : Type} {R S : α → β → Prop} (hRS : ∀ a b, R a b → S a b)
    {x : Option α} {y : Option β} (h : Option.Rel R x y) : Option.Rel S x y := by
  cases h with
  | none => exact .none
  | some hab => exact .some (hRS _ _ hab)

/-- Two related options are empty or not at once. -/
theorem optionRel_elim {α β : Type} {R : α → β → Prop} {x : Option α} {y : Option β}
    (h : Option.Rel R x y) :
    (x = none ∧ y = none) ∨ ∃ a b, x = some a ∧ y = some b ∧ R a b := by
  cases h with
  | none => exact .inl ⟨rfl, rfl⟩
  | some hab => exact .inr ⟨_, _, rfl, rfl, hab⟩

/-- Two options that are there or not at once. -/
theorem isSome_elim {α β : Type} {x : Option α} {y : Option β} (h : x.isSome = y.isSome) :
    (x = none ∧ y = none) ∨ ∃ a b, x = some a ∧ y = some b := by
  cases x with
  | none => exact .inl ⟨rfl, Option.isNone_iff_eq_none.mp (by rw [← Option.not_isSome, ← h]; rfl)⟩
  | some a =>
    obtain ⟨b, hb⟩ := Option.isSome_iff_exists.mp h.symm
    exact .inr ⟨a, b, rfl, hb⟩

theorem optionRel_bind {α β γ δ : Type} {R : α → β → Prop} {S : γ → δ → Prop}
    {f : α → Option γ} {g : β → Option δ} (hfg : ∀ a b, R a b → Option.Rel S (f a) (g b))
    {x : Option α} {y : Option β} (h : Option.Rel R x y) : Option.Rel S (x.bind f) (y.bind g) := by
  cases h with
  | none => exact .none
  | some hab => exact hfg _ _ hab

namespace Sdp

/-! ### Descriptions -/

theorem namesEqualCi_congr {s s' : String} (h : namesEqualCi s s' = true) (t : String) :
    namesEqualCi s t = namesEqualCi s' t := by
  simp only [namesEqualCi, decide_eq_true_eq] at h ⊢
  rw [h]

structure RecasedRtpmap (r r' : SdpRtpmap) : Prop where
  pt : r.pt = r'.pt
  clockRate : r.clockRate = r'.clockRate
  encName : namesEqualCi r.encName r'.encName = true

/-- The same attribute, or an rtpmap with its encoding name spelled otherwise. -/
def RecasedAttr (L : SdpLib) (a a' : SdpAttr) : Prop :=
  a = a' ∨ a.name = a'.name ∧ isRtpmap a = true ∧
    Option.Rel RecasedRtpmap (L.getRtpmap a) (L.getRtpmap a')

structure RecasedMedia (L : SdpLib) (m m' : SdpMedia) : Prop where
  media : m.media = m'.media
  port : m.port = m'.port
  transport : m.transport = m'.transport
  fmts : m.fmts = m'.fmts
  conn : m.conn = m'.conn
  attrs : List.Forall₂ (RecasedAttr L) m.attrs m'.attrs

structure RecasedSdp (L : SdpLib) (s s' : SdpSession) : Prop where
  conn : s.conn = s'.conn
  attrs : List.Forall₂ (RecasedAttr L) s.attrs s'.attrs
  media : List.Forall₂ (RecasedMedia L) s.media s'.media

structure RecasedText (L : SdpLib) (t t' : String) : Prop where
  empty : t = "" ↔ t' = ""
  sessionDirection : hasValidSessionDirection t = hasValidSessionDirection t'
  parse : Option.Rel (RecasedSdp L) (L.parse t) (L.parse t')

/-- The codecs two such descriptions name. -/
structure RecasedInfo (a a' : AudioCodecInfo) : Prop where
  payloadType : a.payloadType = a'.payloadType
  clockRate : a.clockRate = a'.clockRate
  name : namesEqualCi a.name a'.name = true

theorem RecasedRtpmap.refl (r : SdpRtpmap) : RecasedRtpmap r r := ⟨rfl, rfl, namesEqualCi_refl _⟩

theorem RecasedMedia.refl (L : SdpLib) (m : SdpMedia) : RecasedMedia L m m :=
  ⟨rfl, rfl, rfl, rfl, rfl, List.forall₂_same.mpr fun _ _ => .inl rfl⟩

theorem RecasedSdp.refl (L : SdpLib) (s : SdpSession) : RecasedSdp L s s :=
  ⟨rfl, List.forall₂_same.mpr fun _ _ => .inl rfl,
    List.forall₂_same.mpr fun m _ => .refl L m⟩

theorem RecasedText.refl (L : SdpLib) (t : String) : RecasedText L t t := by
  refine ⟨Iff.rfl, rfl, ?_⟩
  cases L.parse t with
  | none => exact .none
  | some s => exact .some (.refl L s)

section Reading

variable {L : SdpLib}

/-! ### Attributes -/

theorem RecasedAttr.name {a a' : SdpAttr} (h : RecasedAttr L a a') : a.name = a'.name := by
  rcases h with rfl | ⟨hname, -⟩
  · rfl
  · exact hname

theorem RecasedAttr.isRtpmap {a a' : SdpAttr} (h : RecasedAttr L a a') : isRtpmap a = isRtpmap a' := by
  rw [Sdp.isRtpmap, Sdp.isRtpmap, h.name]

theorem RecasedAttr.getRtpmap {a a' : SdpAttr} (h : RecasedAttr L a a') :
    Option.Rel RecasedRtpmap (L.getRtpmap a) (L.getRtpmap a') := by
  rcases h with rfl | ⟨-, -, hget⟩
  · cases L.getRtpmap a with
    | none => exact .none
    | some r => exact .some (.refl r)
  · exact hget

/-- What is decided by the names of the attributes. -/
theorem attrs_names {attrs attrs' : List SdpAttr} (h : List.Forall₂ (RecasedAttr L) attrs attrs') :
    attrs.map (·.name) = attrs'.map (·.name) :=
  forall₂_map_eq (fun _ _ hab => hab.name) h

theorem hasValidDirection_recased {attrs attrs' : List SdpAttr}
    (h : List.Forall₂ (RecasedAttr L) attrs attrs') :
    hasValidDirection attrs = hasValidDirection attrs' := by
  have hnames : ∀ l : List SdpAttr, l.countP (fun attr => isDirectionName attr.name) =
      (l.map (·.name)).countP isDirectionName := by
    intro l
    rw [List.countP_map]
    rfl
  rw [hasValidDirection, hasValidDirection, hnames, hnames, attrs_names h]

theorem findMediaDirection_recased {attrs attrs' : List SdpAttr}
    (h : List.Forall₂ (RecasedAttr L) attrs attrs') :
    findMediaDirection attrs = findMediaDirection attrs' := by
  have hany : ∀ direction, attrs.any (·.name = directionName direction) =
      attrs'.any (·.name = directionName direction) :=
    fun direction => forall₂_any_eq (fun a b hab => by rw [hab.name]) h
  rw [findMediaDirection, findMediaDirection]
  simp only [hany]

/-! ### Media lines -/

namespace RecasedMedia

variable {m m' : SdpMedia}

theorem isAudio (h : RecasedMedia L m m') : isAudio m = isAudio m' := by
  rw [Sdp.isAudio, Sdp.isAudio, h.media]

theorem isActiveAudio (h : RecasedMedia L m m') : isActiveAudio m = isActiveAudio m' := by
  rw [Sdp.isActiveAudio, Sdp.isActiveAudio, h.isAudio, h.port]

theorem rtpmaps (h : RecasedMedia L m m') :
    List.Forall₂ RecasedRtpmap (rtpmaps L m) (rtpmaps L m') := by
  have hfilter : List.Forall₂ (RecasedAttr L) (m.attrs.filter Sdp.isRtpmap)
      (m'.attrs.filter Sdp.isRtpmap) :=
    List.rel_filter (fun a b hab => iff_of_eq (congrArg (· = true) hab.isRtpmap)) h.attrs
  exact List.rel_filterMap (fun a b hab => hab.getRtpmap) hfilter

theorem makeCodecInfo (h : RecasedMedia L m m') (payloadType : String) :
    RecasedInfo (makeCodecInfo L m payloadType) (makeCodecInfo L m' payloadType) := by
  have hfind : Option.Rel RecasedRtpmap (findRtpmap L m payloadType) (findRtpmap L m' payloadType) :=
    forall₂_find? (fun a b hab => by rw [hab.pt]) h.rtpmaps
  rw [Sdp.makeCodecInfo, Sdp.makeCodecInfo]
  rcases optionRel_elim hfind with ⟨hr, hr'⟩ | ⟨r, r', hr, hr', hrec⟩
  · rw [hr, hr']
    exact ⟨rfl, rfl, namesEqualCi_refl _⟩
  · rw [hr, hr']
    exact ⟨rfl, hrec.clockRate, hrec.encName⟩

theorem findTelephoneEventPt (h : RecasedMedia L m m') :
    findTelephoneEventPt L m = findTelephoneEventPt L m' := by
  refine optionRel_map_eq (fun a b hab => RecasedRtpmap.pt hab) (forall₂_find? ?_ h.rtpmaps)
  exact fun a b hab => namesEqualCi_congr hab.encName _

end RecasedMedia

/-! ### What is read -/

namespace RecasedSdp

variable {s s' : SdpSession}

theorem activeAudio (h : RecasedSdp L s s') :
    Option.Rel (RecasedMedia L) (findActiveAudioMedia s) (findActiveAudioMedia s') :=
  forall₂_find? (fun _ _ hm => hm.isActiveAudio) h.media

theorem hasValidMedia (h : RecasedSdp L s s') : hasValidMedia s = hasValidMedia s' := by
  have hempty : s.media.isEmpty = s'.media.isEmpty := by
    rw [Bool.eq_iff_iff, List.isEmpty_iff_length_eq_zero, List.isEmpty_iff_length_eq_zero,
      h.media.length_eq]
  have hall : s.media.all (fun m => (!Sdp.isAudio m || hasValidDirection m.attrs) &&
        (m.port = 0 || (!m.fmts.isEmpty && isSupportedTransport m))) =
      s'.media.all fun m => (!Sdp.isAudio m || hasValidDirection m.attrs) &&
        (m.port = 0 || (!m.fmts.isEmpty && isSupportedTransport m)) := by
    rw [List.all_eq_not_any_not, List.all_eq_not_any_not]
    congr 1
    refine forall₂_any_eq (fun a b hab => ?_) h.media
    rw [hab.isAudio, hasValidDirection_recased hab.attrs, hab.port, hab.fmts, isSupportedTransport,
      isSupportedTransport, hab.transport]
  rw [Sdp.hasValidMedia, Sdp.hasValidMedia, hempty, hasValidDirection_recased h.attrs, hall]

theorem rtpEndpoint (h : RecasedSdp L s s') : extractRtpEndpoint s = extractRtpEndpoint s' := by
  rw [extractRtpEndpoint, extractRtpEndpoint]
  rcases optionRel_elim h.activeAudio with ⟨hm, hm'⟩ | ⟨m, m', hm, hm', hrec⟩
  · rw [hm, hm']
  · simp only [hm, hm', hrec.conn, hrec.port, h.conn]

theorem audioDirection (h : RecasedSdp L s s') (endpoint : RtpEndpoint) :
    extractAudioDirection L s endpoint = extractAudioDirection L s' endpoint := by
  rw [extractAudioDirection, extractAudioDirection]
  rcases optionRel_elim h.activeAudio with ⟨hm, hm'⟩ | ⟨m, m', hm, hm', hrec⟩
  · rw [hm, hm']
  · simp only [hm, hm', findMediaDirection_recased hrec.attrs, findMediaDirection_recased h.attrs]

theorem activeCodec (h : RecasedSdp L s s') :
    Option.Rel RecasedInfo (extractActiveAudioCodec L s) (extractActiveAudioCodec L s') := by
  refine optionRel_bind (fun m m' hm => ?_) h.activeAudio
  rw [← hm.fmts]
  cases m.fmts.head? with
  | none => exact .none
  | some fmt => exact .some (hm.makeCodecInfo fmt)

theorem allCodecs (h : RecasedSdp L s s') :
    List.Forall₂ RecasedInfo (extractAllAudioCodecs L s) (extractAllAudioCodecs L s') := by
  rw [extractAllAudioCodecs, extractAllAudioCodecs]
  rcases optionRel_elim h.activeAudio with ⟨hm, hm'⟩ | ⟨m, m', hm, hm', hrec⟩
  · rw [hm, hm']
    exact .nil
  · simp only [hm, hm', ← hrec.fmts]
    rw [List.forall₂_map_left_iff, List.forall₂_map_right_iff]
    exact List.forall₂_same.mpr fun fmt _ => hrec.makeCodecInfo fmt

theorem telephoneEventPt (h : RecasedSdp L s s') :
    extractTelephoneEventPt L s = extractTelephoneEventPt L s' := by
  refine optionRel_map_eq (fun a b hab => RecasedInfo.payloadType hab) (forall₂_find? ?_ h.allCodecs)
  exact fun a b hab => namesEqualCi_congr hab.name _

end RecasedSdp

theorem RecasedText.parsed {t t' : String} (h : RecasedText L t t') :
    Option.Rel (RecasedSdp L) (Sdp.parse L t) (Sdp.parse L t') := by
  by_cases ht : t = ""
  · rw [Sdp.parse, Sdp.parse, if_pos ht, if_pos (h.empty.mp ht)]
    exact .none
  · rw [Sdp.parse, Sdp.parse, if_neg ht, if_neg (mt h.empty.mpr ht)]
    exact h.parse

theorem RecasedText.isValidSdp {t t' : String} (h : RecasedText L t t') :
    isValidSdp L t = isValidSdp L t' := by
  have hany : (Sdp.parse L t).any hasValidMedia = (Sdp.parse L t').any hasValidMedia :=
    optionRel_any_eq (fun _ _ hrec => hrec.hasValidMedia) h.parsed
  rw [Sdp.isValidSdp, Sdp.isValidSdp, h.sessionDirection, hany]

theorem offers_recased {offered offered' : List AudioCodecInfo}
    (h : List.Forall₂ RecasedInfo offered offered') (name : String) :
    offers offered name = offers offered' name :=
  forall₂_any_eq (fun _ _ hab => namesEqualCi_congr hab.name name) h

/-- The choice of a codec compares names in any case. -/
theorem pickAnswerCodec_recased {preferred preferred' : Option AudioCodecInfo}
    {offered offered' : List AudioCodecInfo} (hpreferred : Option.Rel RecasedInfo preferred preferred')
    (hoffered : List.Forall₂ RecasedInfo offered offered') :
    pickAnswerCodec preferred offered = pickAnswerCodec preferred' offered' := by
  have hoffers : offers offered = offers offered' := funext (offers_recased hoffered)
  rw [pickAnswerCodec, pickAnswerCodec, hoffers]
  rcases optionRel_elim hpreferred with ⟨hp, hp'⟩ | ⟨a, a', hp, hp', hrec⟩
  · rw [hp, hp']
  · have hname : ∀ supported : SupportedCodec,
        namesEqualCi supported.name a.name = namesEqualCi supported.name a'.name := by
      intro supported
      have hlower := hrec.name
      simp only [namesEqualCi, decide_eq_true_eq] at hlower
      simp only [namesEqualCi, hlower]
    simp only [hp, hp', Option.bind_some, hname]

end Reading

/-! ### What is written -/

section Writing

variable {L : SdpLib}

theorem forall₂_modifyFirst {α β : Type} {R : α → β → Prop} {p : α → Bool} {q : β → Bool}
    {f : α → α} {g : β → β} (hpq : ∀ a b, R a b → p a = q b) (hfg : ∀ a b, R a b → R (f a) (g b))
    {l : List α} {l' : List β} (h : List.Forall₂ R l l') :
    List.Forall₂ R (modifyFirst p f l) (modifyFirst q g l') := by
  induction h with
  | nil => exact .nil
  | cons hab hrest ih =>
    rw [modifyFirst, modifyFirst, hpq _ _ hab]
    split
    · exact .cons (hfg _ _ hab) hrest
    · exact .cons hab ih

theorem RecasedAttr.isStale {a a' : SdpAttr} (h : RecasedAttr L a a') (dtmfPt : Option String) :
    isStale L dtmfPt a = isStale L dtmfPt a' := by
  rcases h with rfl | ⟨hname, hrtpmap, hget⟩
  · rfl
  · have hrtpmap' : Sdp.isRtpmap a' = true := by
      rw [Sdp.isRtpmap, ← hname]
      exact hrtpmap
    have hany : ∀ pt, (L.getRtpmap a).any (·.pt = pt) = (L.getRtpmap a').any (·.pt = pt) := by
      intro pt
      exact optionRel_any_eq (fun _ _ hrec => by rw [hrec.pt]) hget
    -- an rtpmap is no fmtp, so its value is not read as one
    simp only [Sdp.isStale, isFmtp, hrtpmap, hrtpmap', hany, Bool.not_true, Bool.false_and]

theorem RecasedMedia.restrict {m m' : SdpMedia} (h : RecasedMedia L m m')
    (allowed : List SupportedCodec) :
    RecasedMedia L (restrictMedia L allowed m) (restrictMedia L allowed m') where
  media := h.media
  port := h.port
  transport := h.transport
  fmts := by
    rw [restrictMedia, restrictMedia, h.findTelephoneEventPt]
  conn := h.conn
  attrs := by
    rw [restrictMedia, restrictMedia, h.findTelephoneEventPt]
    refine List.rel_filter (fun a b hab => ?_) h.attrs
    show (!isStale L _ a) = true ↔ (!isStale L _ b) = true
    rw [hab.isStale]

theorem clearDirection_recased {attrs attrs' : List SdpAttr}
    (h : List.Forall₂ (RecasedAttr L) attrs attrs') :
    List.Forall₂ (RecasedAttr L) (clearDirection attrs) (clearDirection attrs') := by
  refine List.rel_filter (fun a b hab => ?_) h
  show (!(["sendrecv", "sendonly", "recvonly", "inactive"].contains a.name)) = true ↔
    (!(["sendrecv", "sendonly", "recvonly", "inactive"].contains b.name)) = true
  rw [hab.name]

theorem RecasedMedia.setDirection {m m' : SdpMedia} (h : RecasedMedia L m m')
    (direction : MediaDirection) :
    RecasedMedia L (setMediaDirection direction m) (setMediaDirection direction m') where
  media := h.media
  port := h.port
  transport := h.transport
  fmts := h.fmts
  conn := h.conn
  attrs := List.rel_append (clearDirection_recased h.attrs) (.cons (.inl rfl) .nil)

namespace RecasedSdp

variable {s s' : SdpSession}

theorem modifyActive (h : RecasedSdp L s s') {f : SdpMedia → SdpMedia}
    (hf : ∀ m m', RecasedMedia L m m' → RecasedMedia L (f m) (f m')) :
    RecasedSdp L (modifyActiveAudio f s) (modifyActiveAudio f s') where
  conn := h.conn
  attrs := h.attrs
  media := forall₂_modifyFirst (fun _ _ hm => hm.isActiveAudio) hf h.media

theorem restrict (h : RecasedSdp L s s') (allowed : List SupportedCodec) :
    RecasedSdp L (restrictAudioCodecs L allowed s) (restrictAudioCodecs L allowed s') :=
  h.modifyActive fun _ _ hm => hm.restrict allowed

theorem setDirection (h : RecasedSdp L s s') (direction : MediaDirection) :
    Option.Rel (RecasedSdp L) (setAudioDirection L direction s) (setAudioDirection L direction s') := by
  refine optionRel_bind (fun m m' hm => ?_) h.activeAudio
  rw [(clearDirection_recased hm.attrs).length_eq]
  split
  · exact .some (h.modifyActive fun _ _ hm => hm.setDirection direction)
  · exact .none

theorem rewrite (h : RecasedSdp L s s') (relayIp : String) (relayPort : ℕ) :
    RecasedSdp L (rewriteConnectionAndPort relayIp relayPort s)
      (rewriteConnectionAndPort relayIp relayPort s') where
  conn := by
    rw [rewriteConnectionAndPort, rewriteConnectionAndPort, h.conn]
  attrs := h.attrs
  media := by
    refine List.rel_map (fun m m' hm => ?_) h.media
    exact ⟨hm.media, rfl, hm.transport, hm.fmts, by rw [rewriteMedia, rewriteMedia, hm.conn], hm.attrs⟩

end RecasedSdp

end Writing

/-! ### The spelling of the engine -/

/-- A name that is that of a supported codec, in any case, is written as the
engine writes it. -/
def Spelled (name : String) : Prop :=
  ∀ codec ∈ supportedCodecs, namesEqualCi name codec.name = true → name = codec.name

instance (name : String) : Decidable (Spelled name) :=
  inferInstanceAs (Decidable (∀ codec ∈ supportedCodecs, _))

/-- One codec read from two descriptions, spelled as the engine does in both. -/
structure SameCodec (a a' : AudioCodecInfo) : Prop extends RecasedInfo a a' where
  spelled : Spelled a.name
  spelled' : Spelled a'.name

theorem SameCodec.name_eq_iff {a a' : AudioCodecInfo} (h : SameCodec a a') {codec : SupportedCodec}
    (hmem : codec ∈ supportedCodecs) : a.name = codec.name ↔ a'.name = codec.name := by
  constructor
  · intro hname
    refine h.spelled' codec hmem ?_
    rw [← namesEqualCi_congr h.name, hname]
    exact namesEqualCi_refl _
  · intro hname
    refine h.spelled codec hmem ?_
    rw [namesEqualCi_congr h.name, hname]
    exact namesEqualCi_refl _

/-- The case-sensitive lookup finds the same codec for both. -/
theorem SameCodec.findSupported {a a' : AudioCodecInfo} (h : SameCodec a a') :
    findSupportedCodecByName a.name = findSupportedCodecByName a'.name := by
  refine List.find?_congr fun codec hmem => ?_
  rw [decide_eq_decide, eq_comm, h.name_eq_iff hmem, eq_comm]

theorem spelled_supported {codec : SupportedCodec} (hmem : codec ∈ supportedCodecs) :
    Spelled codec.name := by
  simp only [supportedCodecs, List.mem_cons, List.not_mem_nil, or_false] at hmem
  rcases hmem with rfl | rfl | rfl <;> decide

section Spelling

variable {L : SdpLib}

/-- The codec a description names first is spelled as the engine does. -/
def AnswerSpelled (L : SdpLib) (sdp : SdpSession) : Prop :=
  ∀ codec, extractActiveAudioCodec L sdp = some codec → Spelled codec.name

/-- Where telephone events use the payload type of a supported codec, the rtpmap of
that payload type is kept and read.  Its name is spelled as the engine does. -/
def EventsSpelled (L : SdpLib) (sdp : SdpSession) : Prop :=
  ∀ m chosen, findActiveAudioMedia sdp = some m → chosen ∈ supportedCodecs →
    findTelephoneEventPt L m = some (toString chosen.payloadType) →
    Spelled (makeCodecInfo L m (toString chosen.payloadType)).name

/-- A declined line before all others is revived and read.  Its first name is spelled
as the engine does. -/
def DeclinedSpelled (L : SdpLib) (sdp : SdpSession) : Prop :=
  ∀ m fmt, sdp.media.find? isAudio = some m → m.port = 0 → m.fmts.head? = some fmt →
    Spelled (makeCodecInfo L m fmt).name

theorem RecasedSdp.sameCodec {s s' : SdpSession} (h : RecasedSdp L s s') (hs : AnswerSpelled L s)
    (hs' : AnswerSpelled L s') :
    Option.Rel SameCodec (extractActiveAudioCodec L s) (extractActiveAudioCodec L s') := by
  rcases optionRel_elim h.activeCodec with ⟨ha, ha'⟩ | ⟨a, a', ha, ha', hrec⟩
  · rw [ha, ha']
    exact .none
  · rw [ha, ha']
    exact .some { hrec with spelled := hs a ha, spelled' := hs' a' ha' }

/-- The head of a line that was restricted to one codec, with a direction or not. -/
theorem spelled_restricted {chosen : SupportedCodec} (hmem : chosen ∈ supportedCodecs)
    {m m' : SdpMedia} (hm' : ∀ pt, findRtpmap L m' pt = findRtpmap L (restrictMedia L [chosen] m) pt)
    (h : findTelephoneEventPt L m = some (toString chosen.payloadType) →
      Spelled (makeCodecInfo L m (toString chosen.payloadType)).name) :
    Spelled (makeCodecInfo L m' (toString chosen.payloadType)).name := by
  rw [makeCodecInfo, hm', findRtpmap_restrictMedia]
  by_cases hpt : findTelephoneEventPt L m = some (toString chosen.payloadType)
  · rw [if_pos hpt]
    exact h hpt
  · rw [if_neg hpt]
    show Spelled (audioPtToString _)
    rw [audioPtToString_supported hmem]
    exact spelled_supported hmem

theorem answerSpelled_restrict {sdp : SdpSession} (h : EventsSpelled L sdp) {chosen : SupportedCodec}
    (hmem : chosen ∈ supportedCodecs) : AnswerSpelled L (restrictAudioCodecs L [chosen] sdp) := by
  intro codec hcodec
  rw [extractActiveAudioCodec, restrictAudioCodecs,
    findActiveAudioMedia_modify (isActiveAudio_restrictMedia L [chosen])] at hcodec
  cases hm : findActiveAudioMedia sdp with
  | none => simp [hm] at hcodec
  | some m =>
    rw [hm] at hcodec
    cases hcodec
    exact spelled_restricted hmem (fun _ => rfl) (h m chosen hm hmem)

/-- The answer to an offer in the dialog. -/
theorem answerSpelled_anchored {sdp : SdpSession} (hevents : EventsSpelled L sdp)
    (hdeclined : DeclinedSpelled L sdp) {chosen : SupportedCodec} (hmem : chosen ∈ supportedCodecs)
    (direction : MediaDirection) (relayIp : String) {relayPort : ℕ} (hport : relayPort ≠ 0) :
    AnswerSpelled L (rewriteConnectionAndPort relayIp relayPort
      (modifyActiveAudio (setMediaDirection direction) (restrictAudioCodecs L [chosen] sdp))) := by
  intro codec hcodec
  rw [extractActiveAudioCodec_anchored L chosen direction relayIp hport] at hcodec
  obtain ⟨m, hm, hcodec⟩ := Option.bind_eq_some_iff.mp hcodec
  split at hcodec
  · next hzero =>
    obtain ⟨fmt, hfmt, rfl⟩ := Option.map_eq_some_iff.mp hcodec
    exact hdeclined m fmt hm hzero hfmt
  · next hzero =>
    cases hcodec
    -- the first audio line is the active one
    have hactive : findActiveAudioMedia sdp = some m := by
      have hon : isActiveAudio m = true := by
        simp [isActiveAudio, show isAudio m = true from List.find?_some hm, hzero]
      obtain ⟨before, after, hmedia, hbefore⟩ := (List.find?_eq_some_iff_append.mp hm).2
      refine List.find?_eq_some_iff_append.mpr ⟨hon, before, after, hmedia, fun n hn => ?_⟩
      have hidle := hbefore n hn
      simp only [Bool.not_eq_true'] at hidle
      simp [isActiveAudio, hidle]
    refine spelled_restricted hmem (fun pt => ?_) (hevents m chosen hactive hmem)
    rw [findRtpmap, rtpmaps_setMediaDirection, findRtpmap]

end Spelling

end Sdp

end SbcEngine
