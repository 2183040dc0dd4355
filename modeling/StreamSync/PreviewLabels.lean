import StreamSync.PreviewArrivals
import StreamSync.PreviewReuse

namespace StreamSync

open Run

/-- The frame that the scheduler found for a slot, as the slot selects it. -/
def selectedOf (found : SwitcherSingleClientTargetTimeSelectedFrame) : SwitcherJitterBufferSelectedFrame :=
  ⟨found.frame, found.targetTimestamp, found.adjustedCaptureTimestamp, found.deltaFromTargetMicros⟩

namespace TimedSwitcherH264DecodeRuntime

variable {δ : Type} {pictures : DecoderPictures} {decode : H264DecodeRuntime δ}
  {timed : TimedSwitcherH264DecodeRuntime δ} {input : SwitcherH264DecodeInput}

/-- A picture that is cached when a decode call has drained is the call's result. -/
theorem decodeForPurpose_cached {decoded : SwitcherDecodedFrame}
    (h : (timed.drainTargeted input).decodedCache.lookup (timed.cacheKey input) = some decoded)
    (purpose : TwoRealPreviewLoopDecodePurpose) (turn : ContinuousTurn) :
    timed.decodeForPurpose pictures decode input purpose turn =
      (.decoded decoded, timed.drainTargeted input) := by
  have hkey : (timed.drainTargeted input).cacheKey input = timed.cacheKey input := by
    unfold cacheKey overridden
    rw [outputOverride_drainTargeted]
  unfold decodeForPurpose beforeOneShot
  dsimp only
  rw [hkey, h]

end TimedSwitcherH264DecodeRuntime

theorem reuseProgramFrame_renderable {slot : RenderSlot} (h : slot.renderableFrame.isSome = true)
    (selection : SwitcherProgramSelection) (decoded : SwitcherDecodedFrame) :
    reuseProgramFrameForOperatorPreviewSlot selection decoded slot = slot := by
  unfold reuseProgramFrameForOperatorPreviewSlot
  split
  next placement frame selected consumed =>
    have hdecoded : frame.decoded.isSome = true := h
    obtain ⟨picture, hpicture⟩ := Option.isSome_iff_exists.mp hdecoded
    rw [if_neg (by simp [hpicture])]
  next => cases h
  next => rfl

theorem retainSnapshot_renderable {slot : RenderSlot} (h : slot.renderableFrame.isSome = true)
    (snapshot : Option SwitcherFourViewDisplayedSlot) : retainSnapshot snapshot slot = slot := by
  unfold retainSnapshot
  split
  next => rfl
  next => rw [if_pos h]

section Loop

variable {δ : Type} (pictures : DecoderPictures) (decode : H264DecodeRuntime δ)
  (config : TwoRealPreviewLoopConfig) (policy : SwitcherFourViewQuadLayoutPolicy)

/-- A slot that renders a new frame, whose picture was cached at the start of the tick, shows that picture. -/
def ShowsOwnPicture (state : TwoRealPreviewLoopState δ) (tick : TwoRealPreviewLoopTick) : Prop :=
  ∀ index placement frame selected consumed,
    (previewLoopStep pictures decode config policy state tick).2.preview.connection.slots index =
        .useUpdatedFrame placement frame selected consumed →
      ∀ decoded,
        state.timed.decodedCache.lookup (state.timed.cacheKey (selectedDecodeInput selected)) = some decoded →
          frame.decoded = some decoded

/-- A slot that selects the frame it shows already remembers the picture that is cached for it. -/
def RemembersOwnPicture (state : TwoRealPreviewLoopState δ) (tick : TwoRealPreviewLoopTick) : Prop :=
  ∀ index found, tick.scheduler index = .selected found →
    ∀ old ∈ state.previousSlots index, displayedSlotMatchesSelected old (selectedOf found) = true →
      ∀ decoded, state.timed.decodedCache.lookup
          (state.timed.cacheKey (selectedDecodeInput (selectedOf found))) = some decoded →
        old.decoded = some decoded

/-- The decode runtime when the call of a slot looks into the cache. -/
def lookupRuntime (state : TwoRealPreviewLoopState δ) (tick : TwoRealPreviewLoopTick) (index : Fin 4) :
    TimedSwitcherH264DecodeRuntime δ :=
  (state.slotsRuntime pictures decode config tick index).advance pictures (tick.slotTurns index).threads

/-- The pictures that come from the continuous decoder in a tick until the call of a slot looks into the
cache. -/
def arrivedPictures (state : TwoRealPreviewLoopState δ) (tick : TwoRealPreviewLoopTick) (index : Fin 4)
    (input : SwitcherH264DecodeInput) : List TwoRealContinuousDecodeOutput :=
  TimedSwitcherH264DecodeRuntime.arrivedSince state.timed
    ((lookupRuntime pictures decode config state tick index).drainTargeted input)

/-- Where a slot selects another frame than it shows, the pictures that arrive until then neither replace the
picture that is cached for it at the start of the tick nor push it out. -/
def KeepsSelectedPicture (state : TwoRealPreviewLoopState δ) (tick : TwoRealPreviewLoopTick) : Prop :=
  ∀ index found, tick.scheduler index = .selected found →
    (∀ old ∈ state.previousSlots index, displayedSlotMatchesSelected old (selectedOf found) = false) →
      let input := selectedDecodeInput (selectedOf found)
      ∀ decoded, state.timed.decodedCache.lookup (state.timed.cacheKey input) = some decoded →
        KeepsPicture state.timed.keyOrder (arrivedPictures pictures decode config state tick index input)
          (state.timed.cacheKey input) decoded

section Tick

variable {pictures decode config policy} {state : TwoRealPreviewLoopState δ} {tick : TwoRealPreviewLoopTick}
  {index : Fin 4}

/-- Neither the reuse of the program's picture nor the retention touches a slot that has a picture. -/
theorem previewSlot_of_renderable
    (h : (state.preComposition pictures decode config tick index).renderableFrame.isSome = true) :
    state.previewSlot pictures decode config tick index =
      state.preComposition pictures decode config tick index := by
  have hreused : state.reusedSlot pictures decode config tick index =
      state.preComposition pictures decode config tick index := by
    unfold TwoRealPreviewLoopState.reusedSlot
    dsimp only
    split
    next =>
      split
      next => exact reuseProgramFrame_renderable h _ _
      next => rfl
    next => rfl
  unfold TwoRealPreviewLoopState.previewSlot
  dsimp only
  rw [hreused]
  split
  next => exact retainSnapshot_renderable h _
  next => rfl

/-- A slot that selects the frame it shows keeps its picture. -/
theorem preComposition_matching {found : SwitcherSingleClientTargetTimeSelectedFrame}
    (hfound : tick.scheduler index = .selected found) {old : SwitcherFourViewDisplayedSlot}
    (hold : state.previousSlots index = some old)
    (hmatches : displayedSlotMatchesSelected old (selectedOf found) = true) :
    ∃ placement frame consumed, state.preComposition pictures decode config tick index =
      .useUpdatedFrame placement frame (selectedOf found) consumed ∧ frame.decoded = old.decoded := by
  obtain ⟨-, -, hdecoded, -⟩ := displayedSlotMatchesSelected_iff.mp hmatches
  have hfilter : (state.previousSlots index).filter
      (fun frame => displayedSlotMatchesSelected frame (selectedOf found)) = some old := by
    rw [hold, Option.filter_some, if_pos hmatches]
  unfold TwoRealPreviewLoopState.preComposition TwoRealPreviewLoopState.connectSlot
    TwoRealPreviewLoopState.slotInstruction
  rw [hfound]
  unfold decodeRenderInstructionForSlot displayDecisionForSlot
  dsimp only
  unfold selectedOf at hfilter ⊢
  rw [hfilter]
  dsimp only [quadCompositionInstructionForDecision]
  rw [connectSlotWithRuntime_kept]
  · exact ⟨_, _, _, rfl, rfl⟩
  · exact hdecoded

/-- A slot that selects another frame shows what its decode call returns. -/
theorem preComposition_other {found : SwitcherSingleClientTargetTimeSelectedFrame}
    (hfound : tick.scheduler index = .selected found)
    (hother : ∀ old ∈ state.previousSlots index, displayedSlotMatchesSelected old (selectedOf found) = false) :
    ∃ placement frame consumed, state.preComposition pictures decode config tick index =
      decodedSlot placement frame (selectedOf found) consumed
        ((lookupRuntime pictures decode config state tick index).decodeForPurpose pictures decode
          (selectedDecodeInput (selectedOf found)) .previewFallback (tick.slotTurns index).turn).1 := by
  have hfilter : (state.previousSlots index).filter
      (fun frame => displayedSlotMatchesSelected frame (selectedOf found)) = none :=
    Option.filter_eq_none_iff.mpr fun old hold => by
      rw [hother old hold]
      exact Bool.false_ne_true
  unfold TwoRealPreviewLoopState.preComposition TwoRealPreviewLoopState.connectSlot
    TwoRealPreviewLoopState.slotInstruction
  rw [hfound]
  unfold decodeRenderInstructionForSlot displayDecisionForSlot
  dsimp only
  unfold selectedOf at hfilter ⊢
  rw [hfilter]
  dsimp only [quadCompositionInstructionForDecision]
  rw [connectSlotWithRuntime_decode _ _ _ _ _ rfl]
  exact ⟨_, _, _, rfl⟩

/-- The call of a slot finds the picture that the arriving ones left alone. -/
theorem lookupRuntime_finds {stored : Finset TwoRealPreviewLoopDecodeCacheKey}
    (hsound : DecodeCacheSound pictures stored state.timed) {input : SwitcherH264DecodeInput}
    {decoded : SwitcherDecodedFrame}
    (hlookup : state.timed.decodedCache.lookup (state.timed.cacheKey input) = some decoded)
    (hkeeps : KeepsPicture state.timed.keyOrder (arrivedPictures pictures decode config state tick index input)
      (state.timed.cacheKey input) decoded) :
    let timed := lookupRuntime pictures decode config state tick index
    (timed.drainTargeted input).decodedCache.lookup (timed.cacheKey input) = some decoded := by
  intro timed
  have hkept := TimedSwitcherH264DecodeRuntime.keptByCalls_soundSince pictures state.timed
  have hturn := hkept.advance _ (tick.slotTurns index).threads
    (@TwoRealPreviewLoopState.kept_slotsRuntime _ _ decode config _ tick _ hkept
      (TimedSwitcherH264DecodeRuntime.soundSince_refl hsound) index)
  obtain ⟨hkey, hfind⟩ := (hkept.toKept.drainTargeted hturn input).lookup hlookup hkeeps
  have hsame : timed.cacheKey input = state.timed.cacheKey input := by
    rw [← hkey]
    unfold TimedSwitcherH264DecodeRuntime.cacheKey TimedSwitcherH264DecodeRuntime.overridden
    rw [TimedSwitcherH264DecodeRuntime.outputOverride_drainTargeted]
    rfl
  rw [hsame]
  exact hfind

theorem showsOwnPicture_iff {stored : Finset TwoRealPreviewLoopDecodeCacheKey}
    (hsound : DecodeCacheSound pictures stored state.timed)
    (hcached : KeepsSelectedPicture pictures decode config state tick) :
    ShowsOwnPicture pictures decode config policy state tick ↔ RemembersOwnPicture state tick := by
  constructor
  · intro hshows index found hfound old hold hmatches decoded hlookup
    obtain ⟨placement, frame, consumed, hslot, hframe⟩ :=
      @preComposition_matching δ pictures decode config state tick index found hfound old hold hmatches
    obtain ⟨-, -, hdecoded, -⟩ := displayedSlotMatchesSelected_iff.mp hmatches
    have hpreview := previewSlot_of_renderable (by
      rw [hslot]
      show frame.decoded.isSome = true
      rw [hframe]
      exact hdecoded)
    have hshown := hshows index placement frame (selectedOf found) consumed (hpreview.trans hslot) decoded hlookup
    exact hframe.symm.trans hshown
  · intro hremembers index placement frame selected consumed hslot decoded hlookup
    have hremembered := remembersSlot_previewSlot pictures decode config state tick index
    rw [show state.previewSlot pictures decode config tick index = _ from hslot] at hremembered
    obtain ⟨-, -, ⟨found, hfound, hframe⟩, hkept⟩ := hremembered
    have hinput : selectedDecodeInput selected = selectedDecodeInput (selectedOf found) := by
      unfold selectedDecodeInput selectedSourceIdentity selectedOf
      rw [hframe]
    have hsame : ∀ old, displayedSlotMatchesSelected old selected =
        displayedSlotMatchesSelected old (selectedOf found) := by
      intro old
      unfold displayedSlotMatchesSelected selectedOf
      rw [hframe]
    rw [hinput] at hlookup
    by_cases hmatching : ∃ old ∈ state.previousSlots index,
      displayedSlotMatchesSelected old (selectedOf found) = true
    · obtain ⟨old, hold, hmatches⟩ := hmatching
      rw [hkept old hold ((hsame old).trans hmatches)]
      exact hremembers index found hfound old hold hmatches decoded hlookup
    · have hother : ∀ old ∈ state.previousSlots index,
          displayedSlotMatchesSelected old (selectedOf found) = false := fun old hold =>
        Bool.eq_false_of_not_eq_true fun hmatches => hmatching ⟨old, hold, hmatches⟩
      have hfind := lookupRuntime_finds hsound hlookup (hcached index found hfound hother decoded hlookup)
      obtain ⟨placement', frame', consumed', hcall⟩ :=
        @preComposition_other δ pictures decode config state tick index found hfound hother
      rw [TimedSwitcherH264DecodeRuntime.decodeForPurpose_cached hfind] at hcall
      have hpreview := (previewSlot_of_renderable (by rw [hcall]; rfl)).trans hcall
      cases hslot.symm.trans hpreview
      rfl

/-- A tick keeps the decode runtime sound. -/
theorem previewLoopStep_sound (h : ∃ stored, DecodeCacheSound pictures stored state.timed) :
    ∃ stored, DecodeCacheSound pictures stored
      (previewLoopStep pictures decode config policy state tick).1.timed := by
  obtain ⟨stored, hsound⟩ := h
  have hkept := TimedSwitcherH264DecodeRuntime.keptByCalls_soundSince pictures state.timed
  have hafter : TimedSwitcherH264DecodeRuntime.SoundSince pictures state.timed
      (state.next pictures decode config tick policy).1.timed :=
    TwoRealPreviewLoopState.kept_next hkept (TimedSwitcherH264DecodeRuntime.soundSince_refl hsound) policy
  exact hafter.1

end Tick

/-- In every run in which the pictures of newly selected frames are left alone until they are looked up, the
slots show their own pictures in every tick exactly when no slot selects its frame again while it remembers
another picture for it than the cached one. -/
theorem preview_shows_own_picture_iff (inner : δ) (ticks : List TwoRealPreviewLoopTick)
    (hcached : Along (previewLoopStep pictures decode config policy)
      (KeepsSelectedPicture pictures decode config) (.start config inner) ticks) :
    Along (previewLoopStep pictures decode config policy) (ShowsOwnPicture pictures decode config policy)
        (.start config inner) ticks ↔
      Along (previewLoopStep pictures decode config policy) RemembersOwnPicture (.start config inner) ticks := by
  have hstart : ∃ stored, DecodeCacheSound pictures stored (TwoRealPreviewLoopState.start config inner).timed :=
    ⟨∅, decodeCacheSound_new pictures ∅ inner _ _ _ _⟩
  constructor
  · intro hshows
    refine (hcached.and hshows).always (I := fun state => ∃ stored, DecodeCacheSound pictures stored state.timed)
      ?_ hstart
    rintro state tick ⟨stored, hsound⟩ ⟨hkeeps, hshown⟩
    exact ⟨(showsOwnPicture_iff hsound hkeeps).mp hshown, previewLoopStep_sound ⟨stored, hsound⟩⟩
  · intro hremembers
    refine (hcached.and hremembers).always
      (I := fun state => ∃ stored, DecodeCacheSound pictures stored state.timed) ?_ hstart
    rintro state tick ⟨stored, hsound⟩ ⟨hkeeps, hremembered⟩
    exact ⟨(showsOwnPicture_iff hsound hkeeps).mpr hremembered, previewLoopStep_sound ⟨stored, hsound⟩⟩

end Loop

/-- The first camera's stream goes through the continuous decoder, at its own size. -/
def continuousCamera : TwoRealPreviewLoopConfig :=
  { twoCameras with
    continuousStreamDecoderEnabled := true
    continuousDecoderOutputPipelineExperimentMode := .noScaleBgra
    programOutputWindowEnabled := false }

/-- A key frame with its parameter sets. -/
def startupFrame (frameId : UInt64) : SwitcherSingleViewSelectedEncodedFrame :=
  ⟨"camera-0", "run-0", frameId, 0, 0, 0, true, 1, 1, 60, .h264, 15,
    [0, 0, 0, 1, 103, 0, 0, 0, 1, 104, 0, 0, 0, 1, 101]⟩

def emitsIndex : DecoderPictures := fun length index => Vector.replicate length (UInt8.ofNat index)

/-- One input goes through the decoder and its one pixel comes out. -/
def onePixelDecoded : List ThreadStep :=
  [.writerReceives, .writerPushes, .writerWrites, .writerReturns, .processReceives, .processEmits,
    .readerReads 4, .readerPops, .readerSends]

/-- What the first camera's slot selects. -/
def startupSelected (frameId : UInt64) : SwitcherSingleClientTargetTimeSelectedFrame :=
  ⟨startupFrame frameId, 0, 0, 0, false⟩

/-- The frame is fed, decoded and drained, and then the slot selects it. -/
def fedTick (frameId : UInt64) : TwoRealPreviewLoopTick :=
  { tickWith (.selected (startupSelected frameId)) (handoffNothing "camera-1" "run-1") with
    fed := [(startupFrame frameId, ⟨.spawned, [], onePixelDecoded⟩)] }

section FedTick

variable {state : TwoRealPreviewLoopState Unit} {frameId : UInt64}

theorem keepsSelectedPicture_fedTick
    (h : let input := selectedDecodeInput (selectedOf (startupSelected frameId))
      let arrived := arrivedPictures emitsIndex decodesBlack continuousCamera state (fedTick frameId) 0 input
      state.timed.cacheKey input ∈ state.timed.decodedCache →
        state.timed.cacheKey input ∉ arrived.map outputKey ∧
          state.timed.cacheKey input ∉ droppedKeys state.timed.keyOrder arrived) :
    KeepsSelectedPicture emitsIndex decodesBlack continuousCamera state (fedTick frameId) := by
  intro index found hfound _ input decoded hlookup
  match index with
  | 0 =>
    cases hfound
    obtain ⟨harrived, hdropped⟩ := h (AList.lookup_isSome.mp (by rw [hlookup]; rfl))
    refine ⟨fun output houtput hkey => ?_, hdropped⟩
    exact absurd (hkey ▸ List.mem_map_of_mem houtput) harrived
  | 1 => cases hfound
  | 2 => cases hfound
  | 3 => cases hfound

theorem remembersOwnPicture_fedTick
    (h : ∀ old ∈ state.previousSlots 0,
      displayedSlotMatchesSelected old (selectedOf (startupSelected frameId)) = true →
        ∀ decoded ∈ state.timed.decodedCache.lookup
            (state.timed.cacheKey (selectedDecodeInput (selectedOf (startupSelected frameId)))),
          old.decoded = some decoded) :
    RemembersOwnPicture state (fedTick frameId) := by
  intro index found hfound
  match index with
  | 0 =>
    cases hfound
    exact h
  | 1 => cases hfound
  | 2 => cases hfound
  | 3 => cases hfound

end FedTick

/-- The slot goes on to the second frame, back to the first one, and stays. -/
theorem preview_shows_own_picture_back :
    Along (previewLoopStep emitsIndex decodesBlack continuousCamera .default)
        (ShowsOwnPicture emitsIndex decodesBlack continuousCamera .default) (.start continuousCamera ())
        [fedTick 1, fedTick 2, fedTick 1, fedTick 1] ∧
      ((run (previewLoopStep emitsIndex decodesBlack continuousCamera .default) (.start continuousCamera ())
        [fedTick 1, fedTick 2]).1.previewSlot emitsIndex decodesBlack continuousCamera (fedTick 1)
        0).renderableFrame = some ⟨1, 1, .bgra8, [0, 0, 0, 0]⟩ := by
  refine ⟨(preview_shows_own_picture_iff emitsIndex decodesBlack continuousCamera .default ()
    [fedTick 1, fedTick 2, fedTick 1, fedTick 1] ⟨keepsSelectedPicture_fedTick ?_,
      keepsSelectedPicture_fedTick ?_, keepsSelectedPicture_fedTick ?_, keepsSelectedPicture_fedTick ?_,
      trivial⟩).mpr
    ⟨remembersOwnPicture_fedTick ?_, remembersOwnPicture_fedTick ?_, remembersOwnPicture_fedTick ?_,
      remembersOwnPicture_fedTick ?_, trivial⟩, ?_⟩
  all_goals decide +kernel

/-- The slot selects the second frame; before that, the frame that is given is fed. -/
def laggingTick (fed : List (SwitcherSingleViewSelectedEncodedFrame × ContinuousTurn)) :
    TwoRealPreviewLoopTick :=
  { tickWith (.selected ⟨startupFrame 2, 0, 0, 0, false⟩) (handoffNothing "camera-1" "run-1") with fed }

/-- The slot is given the first frame's picture, and the second frame's picture is decoded then. -/
def laggingTicks : List TwoRealPreviewLoopTick :=
  [laggingTick [(startupFrame 1, ⟨.spawned, [], onePixelDecoded⟩)],
    laggingTick [(startupFrame 2, ⟨.spawned, onePixelDecoded, []⟩)]]

def afterLaggingTicks : TwoRealPreviewLoopState Unit :=
  (run (previewLoopStep emitsIndex decodesBlack continuousCamera .default) (.start continuousCamera ())
    laggingTicks).1

/-- The slot shows another picture than the one that is there for its frame. -/
def showsOtherThan : (SwitcherJitterBufferSelectedFrame → Option SwitcherDecodedFrame) → RenderSlot → Bool
  | lookup, .useUpdatedFrame _ frame selected _ =>
    (lookup selected).any fun decoded => frame.decoded ≠ some decoded
  | _, _ => false

/-- The first frame's picture stays in the slot under the second frame's name, though the second frame's
picture is there. -/
theorem preview_shows_lagging_picture :
    ¬(∀ (pictures : DecoderPictures) (decode : H264DecodeRuntime Unit) (config : TwoRealPreviewLoopConfig)
      (policy : SwitcherFourViewQuadLayoutPolicy) (inner : Unit) (ticks : List TwoRealPreviewLoopTick),
      Along (previewLoopStep pictures decode config policy)
        (ShowsOwnPicture pictures decode config policy) (.start config inner) ticks) := by
  intro h
  obtain ⟨-, -, hshows, -⟩ := h emitsIndex decodesBlack continuousCamera .default ()
    (laggingTicks ++ [laggingTick []])
  have hstale : showsOtherThan
      (fun selected => afterLaggingTicks.timed.decodedCache.lookup
        (afterLaggingTicks.timed.cacheKey (selectedDecodeInput selected)))
      (afterLaggingTicks.previewSlot emitsIndex decodesBlack continuousCamera (laggingTick []) 0) = true := by
    decide +kernel
  have hshown : ∀ placement frame selected consumed,
      afterLaggingTicks.previewSlot emitsIndex decodesBlack continuousCamera (laggingTick []) 0 =
          .useUpdatedFrame placement frame selected consumed →
        ∀ decoded, afterLaggingTicks.timed.decodedCache.lookup
            (afterLaggingTicks.timed.cacheKey (selectedDecodeInput selected)) = some decoded →
          frame.decoded = some decoded := hshows 0
  generalize afterLaggingTicks.previewSlot emitsIndex decodesBlack continuousCamera (laggingTick []) 0 =
    slot at hstale hshown
  cases slot with
  | useUpdatedFrame placement frame selected consumed =>
    obtain ⟨decoded, hlookup, hdiffers⟩ := (Option.any_eq_true _ _).mp hstale
    exact of_decide_eq_true hdiffers (hshown placement frame selected consumed rfl decoded hlookup)
  | _ => cases hstale

end StreamSync
