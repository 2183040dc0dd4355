import StreamSync.DecodeCacheBound
import StreamSync.FeedTurns

namespace StreamSync

open Run ServerVideoFrameQueueState

section

variable {δ : Type} {pictures : DecoderPictures} {decode : H264DecodeRuntime δ}
  {outputOverride : TwoRealPreviewLoopDecodeOutputOverride} {source : TwoRealContinuousDecodeSource}
  {total demanded : List UInt64} {consumed : List ServerQueuedVideoFrame}
  {timed : TimedSwitcherH264DecodeRuntime δ} {world : HandoffWorld}

/-- A run as it stands between two actions; `total` are all ids of the source stored so far, and `demanded`
those that the slot demanded. -/
structure FeedStateSound (outputOverride : TwoRealPreviewLoopDecodeOutputOverride)
    (source : TwoRealContinuousDecodeSource) (total demanded : List UInt64) (state : ContinuousFeedState δ) :
    Prop where
  queue : QueueInOrder source total state.queue
  decoder : state.timed.outputOverride = outputOverride ∧ ∀ runtime ∈ state.timed.continuousSlot0,
    EnqueuedInOrder outputOverride source total demanded state.queue state.consumed runtime
  selected : ∀ frame ∈ state.selected, frame.clientId = source.clientId → frame.runId = source.runId →
    frame.frameId ∈ total

/-- Where a demand of a frame of the source comes to the decoder and is taken, the frame is newer than all
that were enqueued. -/
def DemandKeepsOrder (pictures : DecoderPictures) (source : TwoRealContinuousDecodeSource)
    (timed : TimedSwitcherH264DecodeRuntime δ) (frame : SwitcherSingleViewSelectedEncodedFrame)
    (turn : ContinuousTurn) : Prop :=
  let input := TimedSwitcherH264DecodeRuntime.feedInput frame
  frame.clientId = source.clientId → frame.runId = source.runId →
    (timed.drainTargeted input).decodedCache.lookup (timed.cacheKey input) = none →
      ∀ runtime ∈ (timed.drainTargeted input).continuousSlot0,
        TakesFrame timed.outputOverride (runtime.advance pictures turn.beforeEnqueue) frame turn.spawn →
          NewerThanEnqueued timed.outputOverride source runtime frame.frameId

/-- A run, and the ids of the frames of the source that the slot has demanded in it. -/
structure DemandedFeed (δ : Type) where
  state : ContinuousFeedState δ
  demanded : List UInt64

/-- What an action demands of the source. -/
def ContinuousFeedState.demands (source : TwoRealContinuousDecodeSource) (state : ContinuousFeedState δ) :
    ContinuousFeedAction → List UInt64
  | .demand _ _ => (state.selected.toList.filter fun frame =>
      frame.clientId = source.clientId ∧ frame.runId = source.runId).map (·.frameId)
  | _ => []

def demandedFeedStep (pictures : DecoderPictures) (decode : H264DecodeRuntime δ)
    (source : TwoRealContinuousDecodeSource) (feed : DemandedFeed δ) (action : ContinuousFeedAction) :
    DemandedFeed δ × List ContinuousFeedTurn :=
  let next := continuousFeedStep pictures decode source feed.state action
  (⟨next.1, feed.demanded ++ feed.state.demands source action⟩, next.2)

/-- What an action has to keep to. -/
def KeepsFeedOrder (pictures : DecoderPictures) (source : TwoRealContinuousDecodeSource)
    (feed : DemandedFeed δ) : ContinuousFeedAction → Prop
  | .feed targetTimestamp requests turns =>
    TurnsKeepOrder pictures source targetTimestamp feed.demanded continuousFeedMaxFramesPerAttempt turns
      feed.state.timed (.start feed.state.queue requests 0)
  | .demand _ turn => ∀ frame ∈ feed.state.selected, DemandKeepsOrder pictures source feed.state.timed frame turn
  | _ => True

instance (pictures : DecoderPictures) (source : TwoRealContinuousDecodeSource)
    (timed : TimedSwitcherH264DecodeRuntime δ) (frame : SwitcherSingleViewSelectedEncodedFrame)
    (turn : ContinuousTurn) : Decidable (DemandKeepsOrder pictures source timed frame turn) := by
  delta DemandKeepsOrder
  infer_instance

instance (pictures : DecoderPictures) (source : TwoRealContinuousDecodeSource) (feed : DemandedFeed δ) :
    (action : ContinuousFeedAction) → Decidable (KeepsFeedOrder pictures source feed action)
  | .feed _ _ _ => inferInstanceAs (Decidable (TurnsKeepOrder ..))
  | .demand _ turn => inferInstanceAs (Decidable (∀ frame ∈ feed.state.selected,
      DemandKeepsOrder pictures source feed.state.timed frame turn))
  | .store _ | .thread _ | .select .. | .latestProgramFrame .. | .suppress .. =>
    inferInstanceAs (Decidable True)

variable {state : ContinuousFeedState δ}

theorem FeedStateSound.start (h : FeedStateSound outputOverride source total demanded state)
    (requests : List HandoffTurn) :
    FeedSound outputOverride source (total ++ storedIds source (requests.flatMap HandoffTurn.stores)) demanded
      state.consumed state.timed (.start state.queue requests 0) :=
  ⟨total, ⟨rfl, h.queue⟩, h.decoder.1, h.decoder.2⟩

theorem EnqueuedInOrder.mono {seen seen' : List UInt64} {queue : ServerVideoFrameQueueState}
    {runtime : TwoRealContinuousDecodeRuntime}
    (h : EnqueuedInOrder outputOverride source seen demanded queue consumed runtime) (hsub : seen ⊆ seen') :
    EnqueuedInOrder outputOverride source seen' demanded queue consumed runtime :=
  h.server hsub fun _ hqueued => .inl hqueued

theorem FeedSound.finish (h : FeedSound outputOverride source total demanded consumed timed world)
    {selected : Option SwitcherSingleViewSelectedEncodedFrame}
    (hselected : ∀ frame ∈ selected, frame.clientId = source.clientId → frame.runId = source.runId →
      frame.frameId ∈ total) :
    FeedStateSound outputOverride source total demanded ⟨timed, world.queue, selected, consumed⟩ := by
  obtain ⟨seen, hserver, hoverride, hruntime⟩ := h
  have hsub : seen ⊆ total := by
    rw [← hserver.pending]
    exact List.subset_append_left _ _
  exact ⟨hserver.queue.mono hsub, ⟨hoverride, fun runtime hslot => (hruntime runtime hslot).mono hsub⟩, hselected⟩

theorem FeedStateSound.mono (h : FeedStateSound outputOverride source total demanded state) {total' : List UInt64}
    (hsub : total ⊆ total') : FeedStateSound outputOverride source total' demanded state :=
  ⟨h.queue.mono hsub, ⟨h.decoder.1, fun runtime hslot => (h.decoder.2 runtime hslot).mono hsub⟩,
    fun frame hframe hclient hrun => hsub (h.selected frame hframe hclient hrun)⟩

theorem FeedStateSound.store (h : FeedStateSound outputOverride source total demanded state) (call : StoreCall)
    (hincreasing : (total ++ storedIds source [call]).Pairwise (· < ·)) :
    FeedStateSound outputOverride source (total ++ storedIds source [call]) demanded
      { state with queue := (storeFrame state.queue call.input call.queuedAt call.policy).1 } := by
  obtain ⟨hqueue, hnew⟩ := h.queue.storeAll [call] hincreasing
  refine ⟨hqueue, ⟨h.decoder.1, fun runtime hslot => ?_⟩, ?_⟩
  · exact (h.decoder.2 runtime hslot).server (List.subset_append_left _ _) hnew
  · exact (h.mono (List.subset_append_left _ _)).selected

theorem FeedStateSound.feed (h : FeedStateSound outputOverride source total demanded state)
    {targetTimestamp : TimestampMicros} {requests : List HandoffTurn} {turns : List ContinuousTurn}
    (hincreasing : (total ++ storedIds source (requests.flatMap HandoffTurn.stores)).Pairwise (· < ·))
    (hkeeps : KeepsFeedOrder pictures source ⟨state, demanded⟩ (.feed targetTimestamp requests turns)) :
    FeedStateSound outputOverride source (total ++ storedIds source (requests.flatMap HandoffTurn.stores)) demanded
      (continuousFeedStep pictures decode source state (.feed targetTimestamp requests turns)).1 := by
  have hselected := (h.mono (List.subset_append_left _ (storedIds source
    (requests.flatMap HandoffTurn.stores)))).selected
  have hstart := h.start requests
  rw [← List.append_nil state.consumed] at hstart
  unfold continuousFeedStep
  dsimp only
  unfold runSlot0ContinuousBoundedFeed
  split
  next => exact hstart.finish hselected
  next =>
    have hturns := feedTurns_sound state.consumed continuousFeedMaxFramesPerAttempt hstart hincreasing hkeeps
    exact hturns.finish hselected

theorem FeedStateSound.select (h : FeedStateSound outputOverride source total demanded state)
    (input : SwitcherSingleClientTargetTimeSourceInput) (clockOffsetMicros : Option Int64)
    (requests : List HandoffTurn)
    (hincreasing : (total ++ storedIds source (requests.flatMap HandoffTurn.stores)).Pairwise (· < ·)) :
    FeedStateSound outputOverride source (total ++ storedIds source (requests.flatMap HandoffTurn.stores)) demanded
      (continuousFeedStep pictures decode source state (.select input clockOffsetMicros requests)).1 := by
  have hselected := (h.mono (List.subset_append_left _ (storedIds source
    (requests.flatMap HandoffTurn.stores)))).selected
  obtain ⟨before, hbefore, last, hworld, hanswer⟩ :=
    selectAnswered_spec input clockOffsetMicros (.start state.queue requests 0)
  have hsound : FeedSound outputOverride source (total ++ storedIds source (requests.flatMap HandoffTurn.stores))
      demanded state.consumed state.timed before := by
    rcases hbefore with rfl | ⟨first, rfl⟩
    · exact h.start requests
    · exact (h.start requests).request hincreasing first
  have hafter := hsound.request hincreasing last
  rw [← hworld] at hafter
  unfold continuousFeedStep
  dsimp only
  split
  next selected hresult =>
    refine hafter.finish fun frame hframe hclient hrun => ?_
    cases hframe
    obtain ⟨mode, len, hread⟩ := hanswer selected hresult
    exact hsound.answered hincreasing hread hclient hrun
  next => exact hafter.finish hselected

theorem FeedStateSound.demand (h : FeedStateSound outputOverride source total demanded state)
    {purpose : TwoRealPreviewLoopDecodePurpose} {turn : ContinuousTurn}
    (hkeeps : KeepsFeedOrder pictures source ⟨state, demanded⟩ (.demand purpose turn)) :
    FeedStateSound outputOverride source total (demanded ++ state.demands source (.demand purpose turn))
      (continuousFeedStep pictures decode source state (.demand purpose turn)).1 := by
  unfold continuousFeedStep
  dsimp only
  split
  next frame hselected =>
    obtain ⟨hoverride, hslot⟩ := state.timed.decodeForPurpose_decoder pictures decode
      (TimedSwitcherH264DecodeRuntime.feedInput frame) purpose turn
    have hdrained := (kept_enqueuedInOrder (δ := δ) pictures outputOverride source total demanded state.queue
      state.consumed).drainTargeted h.decoder (TimedSwitcherH264DecodeRuntime.feedInput frame)
    have hsub : demanded ⊆ demanded ++ state.demands source (.demand purpose turn) :=
      List.subset_append_left _ _
    refine ⟨h.queue, ⟨hoverride.trans h.decoder.1, fun runtime' hruntime' => ?_⟩, h.selected⟩
    rcases hslot with hsame | ⟨hmiss, runtime, hruntime, hmatches, hasked⟩
    · rw [hsame] at hruntime'
      exact (hdrained.2 runtime' hruntime').demand hsub
    · have hold := (hdrained.2 runtime hruntime).demand hsub
      have hscope : (frame.clientId = runtime.source.clientId && frame.runId = runtime.source.runId) = true :=
        hmatches
      rw [hold.ofSource, Bool.and_eq_true, decide_eq_true_eq, decide_eq_true_eq] at hscope
      obtain ⟨hclient, hrun⟩ := hscope
      have hdemanded : frame.frameId ∈ state.demands source (.demand purpose turn) := by
        simp [ContinuousFeedState.demands, hselected, hclient, hrun]
      have hnewer := hkeeps frame hselected hclient hrun hmiss runtime hruntime
      rw [h.decoder.1] at hnewer
      rw [hasked] at hruntime'
      exact hold.enqueueAndDrain pictures hdrained.1 (h.selected frame hselected hclient hrun) hnewer
        (.inl (List.mem_append_right _ hdemanded)) hclient hrun runtime' hruntime'
  next hnone =>
    have hnothing : state.demands source (.demand purpose turn) = [] := by
      simp [ContinuousFeedState.demands, hnone]
    rw [hnothing, List.append_nil]
    exact h

theorem FeedStateSound.moreDemanded (h : FeedStateSound outputOverride source total demanded state)
    (more : List UInt64) : FeedStateSound outputOverride source total (demanded ++ more) state :=
  ⟨h.queue, ⟨h.decoder.1, fun runtime hslot => (h.decoder.2 runtime hslot).demand (List.subset_append_left _ _)⟩,
    h.selected⟩

theorem demandedFeedStep_sound {feed : DemandedFeed δ}
    (h : FeedStateSound outputOverride source total feed.demanded feed.state) {action : ContinuousFeedAction}
    (hincreasing : (total ++ storedIds source action.stores).Pairwise (· < ·))
    (hkeeps : KeepsFeedOrder pictures source feed action) :
    FeedStateSound outputOverride source (total ++ storedIds source action.stores)
      (demandedFeedStep pictures decode source feed action).1.demanded
      (demandedFeedStep pictures decode source feed action).1.state := by
  have hnil : total ++ storedIds source [] = total := List.append_nil total
  have hkept := kept_enqueuedInOrder (δ := δ) pictures outputOverride source total feed.demanded
    feed.state.queue feed.state.consumed
  unfold demandedFeedStep
  cases action with
  | store call => exact (h.store call hincreasing).moreDemanded _
  | feed targetTimestamp requests turns =>
    have hfed : FeedStateSound outputOverride source (total ++ storedIds source (requests.flatMap HandoffTurn.stores))
        feed.demanded
        (continuousFeedStep pictures decode source feed.state (.feed targetTimestamp requests turns)).1 :=
      h.feed hincreasing hkeeps
    exact hfed.moreDemanded _
  | select input clockOffsetMicros requests =>
    exact (h.select input clockOffsetMicros requests hincreasing).moreDemanded _
  | demand purpose turn =>
    unfold ContinuousFeedAction.stores
    rw [hnil]
    exact h.demand hkeeps
  | thread step =>
    unfold ContinuousFeedAction.stores
    rw [hnil]
    have hadvanced : FeedStateSound outputOverride source total feed.demanded
        (continuousFeedStep pictures decode source feed.state (.thread step)).1 :=
      ⟨h.queue, hkept.advance feed.state.timed [step] h.decoder, h.selected⟩
    exact hadvanced.moreDemanded _
  | latestProgramFrame clientId selectedRunId =>
    unfold ContinuousFeedAction.stores
    rw [hnil]
    have hdrained : FeedStateSound outputOverride source total feed.demanded
        (continuousFeedStep pictures decode source feed.state (.latestProgramFrame clientId selectedRunId)).1 :=
      ⟨h.queue, hkept.latestProgramFrame h.decoder clientId selectedRunId, h.selected⟩
    exact hdrained.moreDemanded _
  | suppress decodes programSourcePreview refresh budget =>
    unfold ContinuousFeedAction.stores
    rw [hnil]
    have hsuppressed : FeedStateSound outputOverride source total feed.demanded
        (continuousFeedStep pictures decode source feed.state
          (.suppress decodes programSourcePreview refresh budget)).1 :=
      ⟨h.queue, h.decoder, h.selected⟩
    exact hsuppressed.moreDemanded _

/-- The preview loop before its first tick, and a server that has nothing yet. -/
def ContinuousFeedState.start (inner : δ) (outputOverride : TwoRealPreviewLoopDecodeOutputOverride)
    (source : TwoRealContinuousDecodeSource) (config : TwoRealContinuousDecodeConfig)
    (suppression : Option TwoRealProgramFirstDecodeSuppressionConfig) : ContinuousFeedState δ where
  timed := .new inner outputOverride (some source) config suppression
  queue := .empty
  selected := none
  consumed := []

theorem feedStateSound_start (inner : δ) (outputOverride : TwoRealPreviewLoopDecodeOutputOverride)
    (source : TwoRealContinuousDecodeSource) (config : TwoRealContinuousDecodeConfig)
    (suppression : Option TwoRealProgramFirstDecodeSuppressionConfig) :
    FeedStateSound outputOverride source [] []
      (ContinuousFeedState.start inner outputOverride source config suppression) := by
  refine ⟨queueInOrder_empty source, ⟨rfl, fun runtime hslot => ?_⟩, nofun⟩
  cases hslot
  refine ⟨rfl, List.Pairwise.nil, nofun, fun frameId hkey => ?_, fun queued hqueued => ?_,
    fun queued hqueued => ?_⟩
  · exact absurd hkey (Finset.notMem_empty _)
  · have hnone := (queueInOrder_empty source).queued queued hqueued
    cases hnone
  · exact absurd hqueued List.not_mem_nil

theorem FeedStateSound.feedsInOrder {state : ContinuousFeedState δ}
    (h : FeedStateSound outputOverride source total demanded state) : FeedsInOrder source state := by
  obtain ⟨-, ⟨hoverride, hruntime⟩, -⟩ := h
  refine ⟨fun runtime hslot => (hruntime runtime hslot).order, fun runtime hslot queued hqueued => ?_⟩
  rw [hoverride]
  exact (hruntime runtime hslot).consumed queued hqueued

/-- The run goes as it does without the demanded ids. -/
theorem run_demandedFeed (feed : DemandedFeed δ) (actions : List ContinuousFeedAction) :
    (run (demandedFeedStep pictures decode source) feed actions).1.state =
      (run (continuousFeedStep pictures decode source) feed.state actions).1 := by
  induction actions generalizing feed with
  | nil => rfl
  | cons action actions ih =>
    rw [run_cons, run_cons]
    exact ih _

/-- Where the server stores the frames of the source in order, no demand puts a frame in behind a newer one,
the feeder none behind a newer demanded one, and it consumes what it previewed, the decoder gets the frames in
order and misses none that was consumed. -/
theorem continuousFeed_inOrder (pictures : DecoderPictures) (decode : H264DecodeRuntime δ) (inner : δ)
    (outputOverride : TwoRealPreviewLoopDecodeOutputOverride) (source : TwoRealContinuousDecodeSource)
    (config : TwoRealContinuousDecodeConfig)
    (suppression : Option TwoRealProgramFirstDecodeSuppressionConfig) (actions : List ContinuousFeedAction)
    (hincreasing : (storedIds source (actions.flatMap ContinuousFeedAction.stores)).Pairwise (· < ·))
    (hkeeps : Along (demandedFeedStep pictures decode source) (KeepsFeedOrder pictures source)
      ⟨ContinuousFeedState.start inner outputOverride source config suppression, []⟩ actions) :
    FeedsInOrder source (run (continuousFeedStep pictures decode source)
      (ContinuousFeedState.start inner outputOverride source config suppression) actions).1 := by
  have hsound : FeedStateSound outputOverride source
      (storedIds source (actions.flatMap ContinuousFeedAction.stores))
      (run (demandedFeedStep pictures decode source)
        ⟨ContinuousFeedState.start inner outputOverride source config suppression, []⟩ actions).1.demanded
      (run (demandedFeedStep pictures decode source)
        ⟨ContinuousFeedState.start inner outputOverride source config suppression, []⟩ actions).1.state := by
    induction actions using List.reverseRecOn with
    | nil => exact feedStateSound_start inner outputOverride source config suppression
    | append_singleton actions action ih =>
      rw [List.flatMap_append, List.flatMap_singleton, storedIds_append] at hincreasing ⊢
      rw [along_concat] at hkeeps
      have hbefore := ih (List.pairwise_append.mp hincreasing).1 hkeeps.1
      rw [run_concat]
      exact demandedFeedStep_sound hbefore hincreasing hkeeps.2
  rw [run_demandedFeed] at hsound
  exact hsound.feedsInOrder

end

/-- A keyframe of the source with its parameter sets. -/
def sourceFrame (frameId : UInt64) : ServerVideoFrameHandlerInput :=
  let source : PacketSource := ⟨.v4 0x7F000001 5000⟩
  { registeredPacket := {
      source
      authenticatedSender := ⟨"client-0", source, "run-0", 1, none⟩
      frame := {
        messageType := .videoFrame, protocolVersion := 1, clientId := "client-0", runId := "run-0", frameId
        captureTimestamp := 100, sendTimestamp := 100, isKeyframe := true
        metadataReserved := Vector.replicate 3 0, width := 1, height := 1, fpsNominal := 30
        codec := .h264, payloadSize := 12, payload := keyPayload } }
    payloadLen := 12 }

def storeSourceFrame (maxFramesPerClient : Nat) (frameId : UInt64) : StoreCall :=
  ⟨sourceFrame frameId, 100, ⟨maxFramesPerClient⟩⟩

def feedStart : ContinuousFeedState Unit :=
  .start () ⟨1, 1, "quad_view_tile"⟩ ⟨"client-0", "run-0"⟩ ⟨false, none, .default⟩ none

/-- The scheduler asks for the latest of two frames before the feeder gets to the first. -/
def latestBeforeFeed : List ContinuousFeedAction :=
  [.store (storeSourceFrame 8 1), .store (storeSourceFrame 8 2),
    .select ⟨"client-0", "run-0", 200, .previewLatestIfAtOrBefore⟩ none [], .demand .previewFallback noTurn,
    .feed 200 [] []]

/-- The server drops the previewed frame for a newer one before the consume request. -/
def evictedBeforeConsume : List ContinuousFeedAction :=
  [.store (storeSourceFrame 1 1), .feed 200 [⟨[], .served⟩, ⟨[storeSourceFrame 1 2], .served⟩] []]

/-- Neither the order nor the losslessness holds of every run. -/
theorem continuousFeed_outOfOrder :
    (¬∀ actions : List ContinuousFeedAction,
        (storedIds ⟨"client-0", "run-0"⟩ (actions.flatMap ContinuousFeedAction.stores)).Pairwise (· < ·) →
          ∀ runtime ∈ (run (continuousFeedStep emitsZeros decodesBlack ⟨"client-0", "run-0"⟩) feedStart
            actions).1.timed.continuousSlot0,
            (runtime.accepted.map fun input => input.metadata.frameId).Pairwise (· < ·)) ∧
      ¬∀ actions : List ContinuousFeedAction,
        (storedIds ⟨"client-0", "run-0"⟩ (actions.flatMap ContinuousFeedAction.stores)).Pairwise (· < ·) →
          let state := (run (continuousFeedStep emitsZeros decodesBlack ⟨"client-0", "run-0"⟩) feedStart
            actions).1
          ∀ runtime ∈ state.timed.continuousSlot0, ∀ queued ∈ state.consumed,
            sourceKey state.timed.outputOverride ⟨"client-0", "run-0"⟩ queued.frame.frameId ∈
              runtime.enqueuedKeys := by
  constructor
  · intro h
    have hids := h latestBeforeFeed (by decide +kernel)
    have hrun : ∃ runtime ∈ (run (continuousFeedStep emitsZeros decodesBlack ⟨"client-0", "run-0"⟩) feedStart
        latestBeforeFeed).1.timed.continuousSlot0,
        ¬(runtime.accepted.map fun input => input.metadata.frameId).Pairwise (· < ·) := by
      decide +kernel
    obtain ⟨runtime, hslot, hnot⟩ := hrun
    exact hnot (hids runtime hslot)
  · intro h
    have hlossless := h evictedBeforeConsume (by decide +kernel)
    revert hlossless
    decide +kernel

/-- The feeder and the slot put frames in by turns; the second frame leaves the queue before anyone asks for
it, and the third and the fourth after the slot has demanded them. -/
def feedsAndDemands : List ContinuousFeedAction :=
  let latest : List ContinuousFeedAction :=
    [.select ⟨"client-0", "run-0", 200, .previewLatestIfAtOrBefore⟩ none [], .demand .previewFallback noTurn]
  [.store (storeSourceFrame 2 1), .feed 200 [] [], .store (storeSourceFrame 2 2), .store (storeSourceFrame 2 3)] ++
    latest ++ [.store (storeSourceFrame 2 4), .feed 200 [] []] ++ latest ++
      [.store (storeSourceFrame 2 5), .store (storeSourceFrame 2 6), .feed 200 [] []]

theorem continuousFeed_inOrder_feedsAndDemands :
    let state := (run (continuousFeedStep emitsZeros decodesBlack ⟨"client-0", "run-0"⟩) feedStart
      feedsAndDemands).1
    FeedsInOrder ⟨"client-0", "run-0"⟩ state ∧
      state.timed.continuousSlot0.map (fun runtime => runtime.accepted.map fun input => input.metadata.frameId) =
        some [1, 3, 4, 5, 6] ∧
      state.consumed.map (fun queued => queued.frame.frameId) = [1, 5, 6] :=
  ⟨continuousFeed_inOrder emitsZeros decodesBlack () ⟨1, 1, "quad_view_tile"⟩ ⟨"client-0", "run-0"⟩
      ⟨false, none, .default⟩ none feedsAndDemands (by decide +kernel) (by decide +kernel),
    by decide +kernel, by decide +kernel⟩

end StreamSync
