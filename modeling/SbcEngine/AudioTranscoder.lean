/-
Transcoding the audio of one RTP packet.

The payload is decoded, resampled when the two clocks differ, and encoded, each in a
loop over frames, through buffers whose sizes were fixed when the codecs were opened.

* `AudioTranscoder.init` — `AudioTranscoder::open`;
* `transcode` — the three loops, on checked views;
* `transcode_yields` — with PCM frames of one size, or a resampler, no view leaves its
  buffer, and a result has one frame for each frame of the payload;
* `Opened`, `transcodeLeg_opened` — what opening establishes and every packet keeps.

Design notes: sizes are natural numbers; `sizes_fit` says when the source's products
stay below 2⁶⁴.  A codec that reports a number of bytes is one that writes them.
-/
import Mathlib.Tactic.Common
import SbcEngine.RelayLoop
import SbcEngine.Spans
import SbcEngine.SupportedCodecs

namespace SbcEngine

namespace Transcoding

open Spans

/-! ### Codec sessions -/

structure CodecParam where
  clockRate : ℕ
  frameTimeMs : ℕ
  avgBps : ℕ
  deriving DecidableEq, Repr

def CodecParam.pcmFrameSamples (p : CodecParam) : ℕ := p.clockRate * p.frameTimeMs / 1000

def CodecParam.encodedFrameBytes (p : CodecParam) : ℕ := p.avgBps * p.frameTimeMs / 8000

/-- The size of a PCM frame, at two bytes a sample. -/
def CodecParam.pcmFrameBytes (p : CodecParam) : ℕ := p.pcmFrameSamples * 2

/-- A codec that is open, in any state. -/
structure CodecSession (C : Type) where
  codec : C
  param : CodecParam

/-- What PJMEDIA does: `C` is the state of a codec, `R` that of a resampler.  `encode` and
`decode` are given a frame and the room for the result, and write what they report. -/
structure Lib (C R : Type) where
  openCodec : ℕ → Option (CodecSession C)
  createPool : Bool
  /-- From the two clock rates and the samples of a source frame. -/
  createResample : ℕ → ℕ → ℕ → Option R
  decode : C → List UInt8 → ℕ → C × Option (List UInt8)
  encode : C → List UInt8 → ℕ → C × Option (List UInt8)
  /-- One source frame in, one destination frame out. -/
  resampleRun : R → List UInt8 → R × List UInt8

/-! ### The transcoder -/

/-- The buffers of one direction. -/
structure Direction where
  decodedPcm : List UInt8
  resampledPcm : List UInt8
  encoded : List UInt8

structure AudioTranscoder (C R : Type) where
  codec : RelayLeg → CodecSession C
  codecInfo : RelayLeg → SupportedCodec
  /-- The resampler for what comes in on a leg, if there is one. -/
  resample : RelayLeg → Option R
  /-- The buffers for what comes in on a leg. -/
  scratch : RelayLeg → Direction

structure TranscodedAudio where
  encoded : List UInt8
  timestampDelta : UInt32
  deriving DecidableEq, Repr

variable {C R : Type}

/-- The resamplers of both directions, when the clock rates differ. -/
def openResamplers (L : Lib C R) (a b : CodecParam) : Option (RelayLeg → Option R) :=
  if a.clockRate = b.clockRate then some fun _ => none
  else if L.createPool then do
    let aToB ← L.createResample a.clockRate b.clockRate a.pcmFrameSamples
    let bToA ← L.createResample b.clockRate a.clockRate b.pcmFrameSamples
    some fun
      | .legA => some aToB
      | .legB => some bToA
  else none

/-- The buffers for payloads of up to `maxPayloadBytes` bytes. -/
def sizeBuffers (src dst : CodecParam) (resamples : Bool) (maxPayloadBytes : ℕ) : Direction :=
  let maxFrames := maxPayloadBytes / src.encodedFrameBytes
  { decodedPcm := .replicate (maxFrames * src.pcmFrameSamples * 2) 0
    resampledPcm := if resamples then .replicate (maxFrames * dst.pcmFrameSamples * 2) 0 else []
    encoded := .replicate (maxFrames * dst.encodedFrameBytes) 0 }

/-- `AudioTranscoder::open`. -/
def AudioTranscoder.init (L : Lib C R) (codecA codecB : SupportedCodec) (maxPayloadBytes : ℕ) :
    Option (AudioTranscoder C R) := do
  let a ← L.openCodec codecA.payloadType
  let b ← L.openCodec codecB.payloadType
  if a.param.encodedFrameBytes = 0 ∨ b.param.encodedFrameBytes = 0 then none
  else
    let resample ← openResamplers L a.param b.param
    some
      { codec := fun
          | .legA => a
          | .legB => b
        codecInfo := fun
          | .legA => codecA
          | .legB => codecB
        resample := resample
        scratch := fun
          | .legA => sizeBuffers a.param b.param (resample .legA).isSome maxPayloadBytes
          | .legB => sizeBuffers b.param a.param (resample .legA).isSome maxPayloadBytes }

/-- The objects one direction works on. -/
structure Pipeline (C R : Type) where
  src : CodecSession C
  dst : CodecSession C
  resample : Option R
  scratch : Direction

/-- The decoding loop. -/
def decodeFrames (L : Lib C R) (p : Pipeline C R) (payload : List UInt8) (numFrames : ℕ) :
    Except Fault (Pipeline C R × Bool) := do
  let (codec, decodedPcm, ok) ← convertFrames L.decode p.src.param.encodedFrameBytes
    p.src.param.pcmFrameBytes payload numFrames 0 p.src.codec p.scratch.decodedPcm
  pure ({ p with
    src := { p.src with codec := codec }, scratch := { p.scratch with decodedPcm := decodedPcm } }, ok)

/-- The resampling loop; the result is the PCM to encode, if there is room for it. -/
def resampleFrames (L : Lib C R) (p : Pipeline C R) (pcm : List UInt8) (numFrames : ℕ) :
    Except Fault (Pipeline C R × Option (List UInt8)) :=
  let dstPcmBytes := p.dst.param.pcmFrameBytes
  match p.resample with
  | none => pure (p, some pcm)
  | some resample =>
    if p.scratch.resampledPcm.length < numFrames * dstPcmBytes then pure (p, none)
    else do
      -- a run writes one whole destination frame
      let run := fun r frame room =>
        ((L.resampleRun r frame).1, some ((L.resampleRun r frame).2.takeD room 0))
      let (resample, resampledPcm, _) ← convertFrames run p.src.param.pcmFrameBytes dstPcmBytes pcm
        numFrames 0 resample p.scratch.resampledPcm
      let view ← subspan resampledPcm 0 (numFrames * dstPcmBytes)
      pure ({ p with
        resample := some resample, scratch := { p.scratch with resampledPcm := resampledPcm } },
        some view)

/-- The encoding loop. -/
def encodeFrames (L : Lib C R) (p : Pipeline C R) (pcm : List UInt8) (numFrames : ℕ) :
    Except Fault (Pipeline C R × Bool) := do
  let (codec, encoded, ok) ← convertFrames L.encode p.dst.param.pcmFrameBytes
    p.dst.param.encodedFrameBytes pcm numFrames 0 p.dst.codec p.scratch.encoded
  pure ({ p with
    dst := { p.dst with codec := codec }, scratch := { p.scratch with encoded := encoded } }, ok)

/-- The ticks of the destination's RTP clock in some frames. -/
def timestampTicks (dst : CodecParam) (dstInfo : SupportedCodec) (numFrames : ℕ) : ℕ :=
  numFrames * dst.frameTimeMs * dstInfo.rtpClockRate / 1000

/-- `transcode`: nothing, or one encoded frame for each frame of the payload. -/
def transcode (L : Lib C R) (dstInfo : SupportedCodec) (p : Pipeline C R) (payload : List UInt8) :
    Except Fault (Pipeline C R × Option TranscodedAudio) :=
  let srcFrameBytes := p.src.param.encodedFrameBytes
  if payload = [] then pure (p, none)
  else if srcFrameBytes = 0 then .error .divisionByZero
  else if payload.length % srcFrameBytes ≠ 0 then pure (p, none)
  else
    let numFrames := payload.length / srcFrameBytes
    let srcPcmBytes := p.src.param.pcmFrameBytes
    if p.scratch.decodedPcm.length < numFrames * srcPcmBytes then pure (p, none)
    else do
      let (p, ok) ← decodeFrames L p payload numFrames
      if !ok then pure (p, none)
      else
        let pcm ← subspan p.scratch.decodedPcm 0 (numFrames * srcPcmBytes)
        match ← resampleFrames L p pcm numFrames with
        | (p, none) => pure (p, none)
        | (p, some pcm) =>
          let dstFrameBytes := p.dst.param.encodedFrameBytes
          if p.scratch.encoded.length < numFrames * dstFrameBytes then pure (p, none)
          else
            let (p, ok) ← encodeFrames L p pcm numFrames
            if !ok then pure (p, none)
            else
              let encoded ← subspan p.scratch.encoded 0 (numFrames * dstFrameBytes)
              let ticks := timestampTicks p.dst.param dstInfo numFrames
              pure (p, some { encoded := encoded, timestampDelta := UInt32.ofNat ticks })

/-- The objects for what comes in on a leg. -/
def AudioTranscoder.pipeline (t : AudioTranscoder C R) (leg : RelayLeg) : Pipeline C R where
  src := t.codec leg
  dst := t.codec leg.opposite
  resample := t.resample leg
  scratch := t.scratch leg

/-- The objects after a packet. -/
def AudioTranscoder.store (t : AudioTranscoder C R) (leg : RelayLeg) (p : Pipeline C R) :
    AudioTranscoder C R where
  codec l := if l = leg then p.src else p.dst
  codecInfo := t.codecInfo
  resample l := if l = leg then p.resample else t.resample l
  scratch l := if l = leg then p.scratch else t.scratch l

/-- `transcode_a_to_b` and `transcode_b_to_a`, by the leg the payload came in on. -/
def AudioTranscoder.transcodeLeg (L : Lib C R) (t : AudioTranscoder C R) (leg : RelayLeg)
    (payload : List UInt8) : Except Fault (AudioTranscoder C R × Option TranscodedAudio) := do
  let (p, audio) ← transcode L (t.codecInfo leg.opposite) (t.pipeline leg) payload
  pure (t.store leg p, audio)

/-! ### No view leaves its buffer -/

/-- The codec makes a whole frame of every whole frame, now and from then on. -/
def CodecSession.Steady (L : Lib C R) (s : CodecSession C) : Prop :=
  ∃ states : C → Prop, states s.codec ∧
    Converting L.decode s.param.encodedFrameBytes s.param.pcmFrameBytes states ∧
    Converting L.encode s.param.pcmFrameBytes s.param.encodedFrameBytes states

/-- The sizes of everything are the same, and a steady codec is still steady. -/
structure Kept (L : Lib C R) (p p' : Pipeline C R) : Prop where
  src : p'.src.param = p.src.param
  dst : p'.dst.param = p.dst.param
  resample : p'.resample.isSome = p.resample.isSome
  decodedPcm : p'.scratch.decodedPcm.length = p.scratch.decodedPcm.length
  resampledPcm : p'.scratch.resampledPcm.length = p.scratch.resampledPcm.length
  encoded : p'.scratch.encoded.length = p.scratch.encoded.length
  srcSteady : p.src.Steady L → p'.src.Steady L
  dstSteady : p.dst.Steady L → p'.dst.Steady L

theorem Kept.refl (L : Lib C R) (p : Pipeline C R) : Kept L p p := ⟨rfl, rfl, rfl, rfl, rfl, rfl, id, id⟩

theorem Kept.trans {L : Lib C R} {p p' p'' : Pipeline C R} (h : Kept L p p') (h' : Kept L p' p'') :
    Kept L p p'' where
  src := h'.src.trans h.src
  dst := h'.dst.trans h.dst
  resample := h'.resample.trans h.resample
  decodedPcm := h'.decodedPcm.trans h.decodedPcm
  resampledPcm := h'.resampledPcm.trans h.resampledPcm
  encoded := h'.encoded.trans h.encoded
  srcSteady hs := h'.srcSteady (h.srcSteady hs)
  dstSteady hs := h'.dstSteady (h.dstSteady hs)

/-- Steady codecs, and buffers for some number of frames. -/
structure Pipeline.Ready (L : Lib C R) (maxFrames : ℕ) (p : Pipeline C R) : Prop where
  frame : p.dst.param.encodedFrameBytes ≠ 0
  src : p.src.Steady L
  dst : p.dst.Steady L
  decodedPcm : p.scratch.decodedPcm.length = maxFrames * p.src.param.pcmFrameBytes
  resampledPcm : p.resample.isSome →
    p.scratch.resampledPcm.length = maxFrames * p.dst.param.pcmFrameBytes
  encoded : p.scratch.encoded.length = maxFrames * p.dst.param.encodedFrameBytes

theorem Kept.ready {L : Lib C R} {p p' : Pipeline C R} (h : Kept L p p') {maxFrames : ℕ}
    (hp : p.Ready L maxFrames) : p'.Ready L maxFrames where
  frame := by
    rw [h.dst]
    exact hp.frame
  src := h.srcSteady hp.src
  dst := h.dstSteady hp.dst
  decodedPcm := by rw [h.decodedPcm, hp.decodedPcm, h.src]
  resampledPcm hsome := by rw [h.resampledPcm, hp.resampledPcm (h.resample ▸ hsome), h.dst]
  encoded := by rw [h.encoded, hp.encoded, h.dst]

theorem decodeFrames_yields {L : Lib C R} {p : Pipeline C R} {payload : List UInt8} {numFrames : ℕ}
    (hin : numFrames * p.src.param.encodedFrameBytes ≤ payload.length)
    (hout : numFrames * p.src.param.pcmFrameBytes ≤ p.scratch.decodedPcm.length) :
    Yields (decodeFrames L p payload numFrames) fun r =>
      Kept L p r.1 ∧ (p.src.Steady L → r.2 = true) := by
  refine Yields.bind (convertFrames_yields (by rwa [Nat.zero_add]) (by rwa [Nat.zero_add])) ?_
  rintro ⟨codec, decodedPcm, ok⟩ ⟨hlen, hconverted⟩
  refine Yields.pure ⟨⟨rfl, rfl, rfl, hlen, rfl, rfl, ?_, id⟩, ?_⟩
  · rintro ⟨states, hs, hdecode, hencode⟩
    exact ⟨states, (hconverted states hdecode hs).1, hdecode, hencode⟩
  · rintro ⟨states, hs, hdecode, -⟩
    exact (hconverted states hdecode hs).2

/-- The PCM to encode has destination frames, resampled or not. -/
theorem resampleFrames_yields {L : Lib C R} {p : Pipeline C R} {pcm : List UInt8} {numFrames : ℕ}
    (hpcm : pcm.length = numFrames * p.src.param.pcmFrameBytes)
    (hsame : p.resample = none → p.src.param.pcmFrameBytes = p.dst.param.pcmFrameBytes) :
    Yields (resampleFrames L p pcm numFrames) fun r =>
      Kept L p r.1 ∧ (∀ view ∈ r.2, view.length = numFrames * p.dst.param.pcmFrameBytes) ∧
        ∀ maxFrames, p.Ready L maxFrames → r.2 = none → maxFrames < numFrames := by
  rw [resampleFrames]
  cases hresample : p.resample with
  | none =>
    refine Yields.pure ⟨.refl L p, ?_, by simp⟩
    rintro _ ⟨⟩
    rw [hpcm, hsame hresample]
  | some resample =>
    simp only
    split_ifs with hroom
    · refine Yields.pure ⟨.refl L p, by simp, fun maxFrames hready _ => ?_⟩
      rw [hready.resampledPcm (by simp [hresample])] at hroom
      exact Nat.lt_of_mul_lt_mul_right hroom
    · refine Yields.bind (convertFrames_yields (by rw [Nat.zero_add, hpcm])
        (by rw [Nat.zero_add]; omega)) ?_
      rintro ⟨resample', resampledPcm, ok⟩ ⟨hlen, -⟩
      have hview : 0 + numFrames * p.dst.param.pcmFrameBytes ≤ resampledPcm.length := by
        rw [show resampledPcm.length = p.scratch.resampledPcm.length from hlen]
        omega
      refine Yields.bind (subspan_yields hview) fun view hview => ?_
      refine Yields.pure ⟨⟨rfl, rfl, by simp [hresample], rfl, hlen, rfl, id, id⟩, ?_, by simp⟩
      rintro _ ⟨⟩
      exact hview

theorem encodeFrames_yields {L : Lib C R} {p : Pipeline C R} {pcm : List UInt8} {numFrames : ℕ}
    (hin : numFrames * p.dst.param.pcmFrameBytes ≤ pcm.length)
    (hout : numFrames * p.dst.param.encodedFrameBytes ≤ p.scratch.encoded.length) :
    Yields (encodeFrames L p pcm numFrames) fun r =>
      Kept L p r.1 ∧ (p.dst.Steady L → r.2 = true) := by
  refine Yields.bind (convertFrames_yields (by rwa [Nat.zero_add]) (by rwa [Nat.zero_add])) ?_
  rintro ⟨codec, encoded, ok⟩ ⟨hlen, hconverted⟩
  refine Yields.pure ⟨⟨rfl, rfl, rfl, rfl, rfl, hlen, id, ?_⟩, ?_⟩
  · rintro ⟨states, hs, hdecode, hencode⟩
    exact ⟨states, (hconverted states hencode hs).1, hdecode, hencode⟩
  · rintro ⟨states, hs, -, hencode⟩
    exact (hconverted states hencode hs).2

/-- What a payload may be turned into: one frame for each of its frames, over the time
that these take. -/
def Converts (src dst : CodecParam) (dstInfo : SupportedCodec) (payload : List UInt8)
    (audio : TranscodedAudio) : Prop :=
  audio.encoded.length = payload.length / src.encodedFrameBytes * dst.encodedFrameBytes ∧
    audio.timestampDelta = UInt32.ofNat
      (payload.length / src.encodedFrameBytes * dst.frameTimeMs * dstInfo.rtpClockRate / 1000)

/-- The payload is whole frames, at least one and no more than there is room for. -/
def Convertible (src : CodecParam) (maxFrames : ℕ) (payload : List UInt8) : Prop :=
  payload ≠ [] ∧ payload.length % src.encodedFrameBytes = 0 ∧
    payload.length / src.encodedFrameBytes ≤ maxFrames

/-- What a packet leaves, and what comes of it. -/
structure Transcoded (L : Lib C R) (dstInfo : SupportedCodec) (payload : List UInt8)
    (p p' : Pipeline C R) (audio : Option TranscodedAudio) : Prop where
  kept : Kept L p p'
  converts : ∀ a ∈ audio, Converts p.src.param p.dst.param dstInfo payload a
  isSome_iff : ∀ maxFrames, p.Ready L maxFrames →
    (audio.isSome ↔ Convertible p.src.param maxFrames payload)

theorem dropped_yields {L : Lib C R} {dstInfo : SupportedCodec} {payload : List UInt8}
    {p p' : Pipeline C R} (hkept : Kept L p p')
    (hnot : ∀ maxFrames, p.Ready L maxFrames → ¬Convertible p.src.param maxFrames payload) :
    Yields (pure (p', none) : Except Fault (Pipeline C R × Option TranscodedAudio)) fun r =>
      Transcoded L dstInfo payload p r.1 r.2 :=
  Yields.pure ⟨hkept, by simp, fun m hm => ⟨by simp, fun h => absurd h (hnot m hm)⟩⟩

/-- **No view leaves its buffer**, and what comes out has one frame for each frame that
went in.  With steady codecs it comes out whenever there is room for it. -/
theorem transcode_yields {L : Lib C R} {dstInfo : SupportedCodec} {p : Pipeline C R}
    (payload : List UInt8) (hframe : p.src.param.encodedFrameBytes ≠ 0)
    (hsame : p.resample = none → p.src.param.pcmFrameBytes = p.dst.param.pcmFrameBytes) :
    Yields (transcode L dstInfo p payload) fun r => Transcoded L dstInfo payload p r.1 r.2 := by
  simp only [transcode, if_neg hframe]
  split_ifs with hnil hmod hroom
  · exact dropped_yields (.refl L p) fun _ _ h => h.1 hnil
  · exact dropped_yields (.refl L p) fun _ _ h => hmod h.2.1
  · refine dropped_yields (.refl L p) fun m hm h => ?_
    rw [hm.decodedPcm] at hroom
    exact Nat.not_lt.mpr h.2.2 (Nat.lt_of_mul_lt_mul_right hroom)
  · have hread : payload.length / p.src.param.encodedFrameBytes * p.src.param.encodedFrameBytes ≤
        payload.length := Nat.div_mul_le_self _ _
    refine Yields.bind (decodeFrames_yields hread (by omega)) ?_
    rintro ⟨p₁, ok⟩ ⟨hkept₁, hok₁⟩
    cases ok with
    | false => exact dropped_yields hkept₁ fun m hm _ => absurd (hok₁ hm.src) (by simp)
    | true =>
      have hpcm : 0 + payload.length / p.src.param.encodedFrameBytes * p.src.param.pcmFrameBytes ≤
          p₁.scratch.decodedPcm.length := by
        rw [hkept₁.decodedPcm]
        omega
      refine Yields.bind (subspan_yields hpcm) fun pcm hlen => ?_
      have hsame₁ : p₁.resample = none →
          p₁.src.param.pcmFrameBytes = p₁.dst.param.pcmFrameBytes := by
        intro h
        rw [hkept₁.src, hkept₁.dst]
        refine hsame (Option.not_isSome_iff_eq_none.mp ?_)
        rw [← hkept₁.resample, h]
        simp
      refine Yields.bind (resampleFrames_yields (by rw [hlen, hkept₁.src]) hsame₁) ?_
      rintro ⟨p₂, _ | view⟩ ⟨hkept₂, hview, hroom₂⟩
      · refine dropped_yields (hkept₁.trans hkept₂) fun m hm h => ?_
        exact Nat.not_lt.mpr h.2.2 (hroom₂ m (hkept₁.ready hm) rfl)
      · have hkept := hkept₁.trans hkept₂
        simp only
        split_ifs with hencoded
        · refine dropped_yields hkept fun m hm h => ?_
          rw [(hkept.ready hm).encoded] at hencoded
          exact Nat.not_lt.mpr h.2.2 (Nat.lt_of_mul_lt_mul_right hencoded)
        · refine Yields.bind (encodeFrames_yields ?_ (by omega)) ?_
          · rw [hview view rfl, hkept₂.dst]
          · rintro ⟨p₃, ok⟩ ⟨hkept₃, hok₃⟩
            cases ok with
            | false =>
              exact dropped_yields (hkept.trans hkept₃) fun m hm _ =>
                absurd (hok₃ (hkept.ready hm).dst) (by simp)
            | true =>
              have hend : 0 + payload.length / p.src.param.encodedFrameBytes *
                  p₂.dst.param.encodedFrameBytes ≤ p₃.scratch.encoded.length := by
                rw [hkept₃.encoded]
                omega
              refine Yields.bind (subspan_yields hend) fun encoded hlength => ?_
              refine Yields.pure ⟨hkept.trans hkept₃, ?_, fun m hm => ?_⟩
              · rintro _ ⟨⟩
                refine ⟨?_, ?_⟩
                · rw [hlength, hkept.dst]
                · rw [(hkept.trans hkept₃).dst]
                  rfl
              · -- the room for the encoded frames is what bounds their number
                rw [(hkept.ready hm).encoded, Nat.not_lt] at hencoded
                have hfew := Nat.le_of_mul_le_mul_right hencoded
                  (Nat.pos_of_ne_zero (hkept.ready hm).frame)
                exact ⟨fun _ => ⟨hnil, not_not.mp hmod, hfew⟩, fun _ => rfl⟩

/-! ### A transcoder that is open -/

/-- What opening establishes, for codecs of the given parameters. -/
structure Opened (params : RelayLeg → CodecParam) (infos : RelayLeg → SupportedCodec)
    (t : AudioTranscoder C R) : Prop where
  param_eq : ∀ leg, (t.codec leg).param = params leg
  info_eq : t.codecInfo = infos
  /-- A session that was opened has a frame to send. -/
  frame : ∀ leg, (params leg).encodedFrameBytes ≠ 0
  /-- Without a resampler the PCM of one codec is that of the other. -/
  same : ∀ leg, t.resample leg = none →
    (params leg).pcmFrameBytes = (params leg.opposite).pcmFrameBytes

theorem openResamplers_none {L : Lib C R} {a b : CodecParam} {resample : RelayLeg → Option R}
    (h : openResamplers L a b = some resample) {leg : RelayLeg} (hnone : resample leg = none) :
    a.clockRate = b.clockRate := by
  rw [openResamplers] at h
  split_ifs at h with hclock hpool
  · exact hclock
  · obtain ⟨aToB, -, h⟩ := Option.bind_eq_some_iff.mp h
    obtain ⟨bToA, -, h⟩ := Option.bind_eq_some_iff.mp h
    obtain rfl := Option.some.inj h
    cases leg <;> cases hnone

/-- Opening, with codecs of one frame time. -/
theorem init_opened {L : Lib C R} {codecA codecB : SupportedCodec} {maxPayloadBytes : ℕ}
    {t : AudioTranscoder C R} (h : AudioTranscoder.init L codecA codecB maxPayloadBytes = some t)
    (htime : (t.codec .legA).param.frameTimeMs = (t.codec .legB).param.frameTimeMs) :
    Opened (fun leg => (t.codec leg).param) t.codecInfo t := by
  obtain ⟨a, -, h⟩ := Option.bind_eq_some_iff.mp h
  obtain ⟨b, -, h⟩ := Option.bind_eq_some_iff.mp h
  split_ifs at h with hframes
  obtain ⟨resample, hresample, h⟩ := Option.bind_eq_some_iff.mp h
  obtain rfl := Option.some.inj h
  rw [not_or] at hframes
  have hpcm : ∀ leg, resample leg = none → a.param.pcmFrameBytes = b.param.pcmFrameBytes := by
    intro leg hnone
    rw [CodecParam.pcmFrameBytes, CodecParam.pcmFrameBytes, CodecParam.pcmFrameSamples,
      CodecParam.pcmFrameSamples, openResamplers_none hresample hnone, htime]
  refine ⟨fun _ => rfl, rfl, fun leg => ?_, fun leg hnone => ?_⟩
  · cases leg
    · exact hframes.1
    · exact hframes.2
  · cases leg
    · exact hpcm _ hnone
    · exact (hpcm _ hnone).symm

/-- Steady codecs, and buffers for payloads of up to `maxPayloadBytes` bytes. -/
def AudioTranscoder.Ready (L : Lib C R) (maxPayloadBytes : ℕ) (t : AudioTranscoder C R) : Prop :=
  ∀ leg, (t.pipeline leg).Ready L (maxPayloadBytes / (t.codec leg).param.encodedFrameBytes)

/-- Opening, with steady codecs. -/
theorem init_ready {L : Lib C R} {codecA codecB : SupportedCodec} {maxPayloadBytes : ℕ}
    {t : AudioTranscoder C R} (h : AudioTranscoder.init L codecA codecB maxPayloadBytes = some t)
    (hsteady : ∀ leg, (t.codec leg).Steady L) : t.Ready L maxPayloadBytes := by
  obtain ⟨a, -, h⟩ := Option.bind_eq_some_iff.mp h
  obtain ⟨b, -, h⟩ := Option.bind_eq_some_iff.mp h
  split_ifs at h with hframes
  obtain ⟨resample, hresample, h⟩ := Option.bind_eq_some_iff.mp h
  obtain rfl := Option.some.inj h
  rw [not_or] at hframes
  -- one direction has a resampler when the other has
  have hboth : (resample .legB).isSome = (resample .legA).isSome := by
    rw [openResamplers] at hresample
    split_ifs at hresample with hclock hpool
    · obtain rfl := Option.some.inj hresample
      rfl
    · obtain ⟨aToB, -, hresample⟩ := Option.bind_eq_some_iff.mp hresample
      obtain ⟨bToA, -, hresample⟩ := Option.bind_eq_some_iff.mp hresample
      obtain rfl := Option.some.inj hresample
      rfl
  have hbuffers : ∀ (src dst : CodecParam) (resamples : Bool),
      (sizeBuffers src dst resamples maxPayloadBytes).decodedPcm.length =
          maxPayloadBytes / src.encodedFrameBytes * src.pcmFrameBytes ∧
        (resamples = true → (sizeBuffers src dst resamples maxPayloadBytes).resampledPcm.length =
          maxPayloadBytes / src.encodedFrameBytes * dst.pcmFrameBytes) ∧
        (sizeBuffers src dst resamples maxPayloadBytes).encoded.length =
          maxPayloadBytes / src.encodedFrameBytes * dst.encodedFrameBytes := by
    intro src dst resamples
    refine ⟨?_, fun hresamples => ?_, List.length_replicate⟩
    · rw [CodecParam.pcmFrameBytes, ← Nat.mul_assoc]
      exact List.length_replicate
    · rw [sizeBuffers, if_pos hresamples, CodecParam.pcmFrameBytes, ← Nat.mul_assoc]
      exact List.length_replicate
  intro leg
  cases leg with
  | legA =>
    obtain ⟨hdecoded, hresampled, hencoded⟩ := hbuffers a.param b.param (resample .legA).isSome
    exact ⟨hframes.2, hsteady .legA, hsteady .legB, hdecoded, hresampled, hencoded⟩
  | legB =>
    obtain ⟨hdecoded, hresampled, hencoded⟩ := hbuffers b.param a.param (resample .legA).isSome
    exact ⟨hframes.1, hsteady .legB, hsteady .legA, hdecoded, fun h => hresampled (hboth ▸ h), hencoded⟩

/-- A packet leaves both directions ready. -/
theorem AudioTranscoder.Ready.store {L : Lib C R} {maxPayloadBytes : ℕ} {t : AudioTranscoder C R}
    {leg : RelayLeg} {p : Pipeline C R} (h : t.Ready L maxPayloadBytes)
    (hkept : Kept L (t.pipeline leg) p) : (t.store leg p).Ready L maxPayloadBytes := by
  have hopposite : leg.opposite ≠ leg ∧ leg.opposite.opposite = leg := by
    cases leg <;> exact ⟨by decide, rfl⟩
  intro l
  by_cases hl : l = leg
  · subst hl
    have hself : (t.store l p).pipeline l = p := by
      simp [pipeline, AudioTranscoder.store, hopposite.1]
    have hcodec : (t.store l p).codec l = p.src := if_pos rfl
    rw [hself, hcodec, hkept.src]
    exact hkept.ready (h l)
  · obtain rfl : l = leg.opposite := by cases l <;> cases leg <;> simp_all [RelayLeg.opposite]
    -- the other direction has the two codecs the other way round
    have hback : (t.store leg p).pipeline leg.opposite =
        { t.pipeline leg.opposite with src := p.dst, dst := p.src } := by
      simp [pipeline, AudioTranscoder.store, hopposite]
    have hcodec : (t.store leg p).codec leg.opposite = p.dst := if_neg hl
    have hsrc : (t.pipeline leg.opposite).src.param = p.dst.param := hkept.dst.symm
    have hdst : (t.pipeline leg.opposite).dst.param = p.src.param := by
      rw [hkept.src]
      exact congrArg (fun l => (t.codec l).param) hopposite.2
    obtain ⟨hframe, -, -, hdecoded, hresampled, hencoded⟩ := h leg.opposite
    rw [hdst] at hframe hresampled hencoded
    rw [hsrc] at hdecoded
    rw [hback, hcodec, hkept.dst]
    exact ⟨hframe, hkept.dstSteady (h leg).dst, hkept.srcSteady (h leg).src, hdecoded, hresampled,
      hencoded⟩

section Run

variable {params : RelayLeg → CodecParam} {infos : RelayLeg → SupportedCodec}

/-- One packet, in either direction. -/
theorem transcodeLeg_opened {L : Lib C R} {t : AudioTranscoder C R} (h : Opened params infos t)
    (leg : RelayLeg) (payload : List UInt8) :
    Yields (t.transcodeLeg L leg payload) fun r =>
      Opened params infos r.1 ∧
        (∀ audio ∈ r.2, Converts (params leg) (params leg.opposite) (infos leg.opposite) payload audio) ∧
        ∀ maxPayloadBytes, t.Ready L maxPayloadBytes → r.1.Ready L maxPayloadBytes ∧
          (r.2.isSome ↔
            Convertible (params leg) (maxPayloadBytes / (params leg).encodedFrameBytes) payload) := by
  have hsrc : (t.pipeline leg).src.param = params leg := h.param_eq leg
  have hdst : (t.pipeline leg).dst.param = params leg.opposite := h.param_eq leg.opposite
  have hframe : (t.pipeline leg).src.param.encodedFrameBytes ≠ 0 := by
    rw [hsrc]
    exact h.frame leg
  have hsame : (t.pipeline leg).resample = none → (t.pipeline leg).src.param.pcmFrameBytes =
      (t.pipeline leg).dst.param.pcmFrameBytes := by
    rw [hsrc, hdst]
    exact h.same leg
  refine Yields.bind (transcode_yields payload hframe hsame) ?_
  rintro ⟨p, audio⟩ ⟨hkept, haudio, hsome⟩
  refine Yields.pure ⟨⟨fun l => ?_, h.info_eq, h.frame, fun l hnone => ?_⟩, ?_, fun m hm => ⟨?_, ?_⟩⟩
  · by_cases hl : l = leg
    · subst hl
      simpa [AudioTranscoder.store, hsrc] using hkept.src
    · obtain rfl : l = leg.opposite := by cases l <;> cases leg <;> simp_all [RelayLeg.opposite]
      simpa [AudioTranscoder.store, hl, hdst] using hkept.dst
  · by_cases hl : l = leg
    · subst hl
      refine h.same l (Option.not_isSome_iff_eq_none.mp ?_)
      have hresample := hkept.resample
      rw [show p.resample = none by simpa [AudioTranscoder.store] using hnone] at hresample
      rw [show t.resample l = (t.pipeline l).resample from rfl, ← hresample]
      simp
    · exact h.same l (by simpa [AudioTranscoder.store, hl] using hnone)
  · rw [hsrc, hdst, h.info_eq] at haudio
    exact haudio
  · exact hm.store hkept
  · rw [← hsrc]
    exact hsome _ (hm leg)

/-- Packets one after the other. -/
def AudioTranscoder.transcodeAll (L : Lib C R) (t : AudioTranscoder C R) :
    List (RelayLeg × List UInt8) → Except Fault (AudioTranscoder C R × List (Option TranscodedAudio))
  | [] => pure (t, [])
  | call :: calls => do
    let (t, audio) ← t.transcodeLeg L call.1 call.2
    let (t, rest) ← AudioTranscoder.transcodeAll L t calls
    pure (t, audio :: rest)

theorem transcodeAll_opened {L : Lib C R} (calls : List (RelayLeg × List UInt8))
    {t : AudioTranscoder C R} (h : Opened params infos t) :
    Yields (t.transcodeAll L calls) fun r =>
      Opened params infos r.1 ∧
        List.Forall₂ (fun call audio => ∀ a ∈ audio, Converts (params call.1)
          (params call.1.opposite) (infos call.1.opposite) call.2 a) calls r.2 := by
  induction calls generalizing t with
  | nil => exact Yields.pure ⟨h, .nil⟩
  | cons call calls ih =>
    refine Yields.bind (transcodeLeg_opened h call.1 call.2) ?_
    rintro ⟨t, audio⟩ ⟨hopened, haudio, -⟩
    refine Yields.bind (ih hopened) ?_
    rintro ⟨t, rest⟩ ⟨hopened, hrest⟩
    exact Yields.pure ⟨hopened, .cons haudio hrest⟩

end Run

/-- With the widths of the source's types, and as many frames as an RTP packet can have,
no product leaves the 64 bits of a `size_t`. -/
theorem sizes_fit {p : CodecParam} {info : SupportedCodec} {numFrames : ℕ}
    (hclock : p.clockRate * p.frameTimeMs < 2 ^ 32) (hbps : p.avgBps * p.frameTimeMs < 2 ^ 32)
    (htime : p.frameTimeMs < 2 ^ 16) (hrtp : info.rtpClockRate < 2 ^ 32)
    (hframes : numFrames < 2 ^ 16) :
    numFrames * p.pcmFrameBytes < 2 ^ 64 ∧ numFrames * p.encodedFrameBytes < 2 ^ 64 ∧
      numFrames * p.frameTimeMs * info.rtpClockRate < 2 ^ 64 := by
  have hpcm : p.pcmFrameBytes < 2 ^ 33 := by
    rw [CodecParam.pcmFrameBytes, CodecParam.pcmFrameSamples]
    omega
  have hencoded : p.encodedFrameBytes < 2 ^ 33 := by
    rw [CodecParam.encodedFrameBytes]
    omega
  have hsmall : ∀ size < 2 ^ 33, numFrames * size < 2 ^ 64 := by
    intro size hsize
    have hmul := Nat.mul_lt_mul'' hframes hsize
    omega
  refine ⟨hsmall _ hpcm, hsmall _ hencoded, ?_⟩
  have hticks := Nat.mul_lt_mul'' (Nat.mul_lt_mul'' hframes htime) hrtp
  omega

end Transcoding

end SbcEngine
