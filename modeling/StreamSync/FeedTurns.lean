import StreamSync.FeedOrder

namespace StreamSync

open Run ServerVideoFrameQueueState

section

variable {δ : Type} {pictures : DecoderPictures} {decode : H264DecodeRuntime δ}
  {outputOverride : TwoRealPreviewLoopDecodeOutputOverride} {source : TwoRealContinuousDecodeSource}
  {total demanded : List UInt64} {consumed : List ServerQueuedVideoFrame}
  {timed : TimedSwitcherH264DecodeRuntime δ} {world : HandoffWorld}

/-- The decode runtime and the server between two requests of an action; `total` are all ids of the source
that the server has stored by the end of the action, and `demanded` those that the slot has demanded. -/
def FeedSound (outputOverride : TwoRealPreviewLoopDecodeOutputOverride) (source : TwoRealContinuousDecodeSource)
    (total demanded : List UInt64) (consumed : List ServerQueuedVideoFrame)
    (timed : TimedSwitcherH264DecodeRuntime δ) (world : HandoffWorld) : Prop :=
  ∃ seen, ServerInOrder source total seen world ∧ timed.outputOverride = outputOverride ∧
    ∀ runtime ∈ timed.continuousSlot0, EnqueuedInOrder outputOverride source seen demanded world.queue consumed runtime

/-- Whatever a request is for, the server stores in order and at most loses frames. -/
theorem FeedSound.request (h : FeedSound outputOverride source total demanded consumed timed world)
    (hincreasing : total.Pairwise (· < ·)) (input : SwitcherQueuedFrameHandoffInput) :
    FeedSound outputOverride source total demanded consumed timed (world.request input).2 := by
  obtain ⟨seen, hserver, hoverride, hruntime⟩ := h
  obtain ⟨hpending, hqueue, hnew⟩ := hserver.turn hincreasing
  obtain ⟨htrims, hturns⟩ := request_trims world input
  refine ⟨seen ++ storedIds source world.turn.stores, ⟨?_, hqueue.trims htrims⟩, hoverride,
    fun runtime hslot => ?_⟩
  · rw [hturns]
    exact hpending
  · have hsub := htrims.sourceQueue source
    exact (hruntime runtime hslot).server (List.subset_append_left _ _)
      fun queued hqueued => hnew queued (hsub.subset hqueued)

theorem FeedSound.consume (h : FeedSound outputOverride source total demanded consumed timed world)
    {taken : ServerQueuedVideoFrame}
    (htaken : ∀ runtime ∈ timed.continuousSlot0,
      sourceKey outputOverride source taken.frame.frameId ∈ runtime.enqueuedKeys) :
    FeedSound outputOverride source total demanded (consumed ++ [taken]) timed world := by
  obtain ⟨seen, hserver, hoverride, hruntime⟩ := h
  refine ⟨seen, hserver, hoverride, fun runtime hslot => ?_⟩
  have hold := hruntime runtime hslot
  refine ⟨hold.ofSource, hold.order, hold.accepted, hold.known, hold.fresh, fun queued hqueued => ?_⟩
  rcases List.mem_append.mp hqueued with hmem | hmem
  · exact hold.consumed queued hmem
  · rw [List.mem_singleton.mp hmem]
    exact htaken runtime hslot

/-- A frame that the feeder enqueues has its key among the enqueued ones. -/
theorem feed_enqueued {frame : SwitcherSingleViewSelectedEncodedFrame} {turn : ContinuousTurn}
    (h : (timed.feedSlot0ContinuousFrame pictures frame turn).2 = .enqueued)
    (hclient : frame.clientId = source.clientId) (hrun : frame.runId = source.runId) :
    ∀ runtime ∈ (timed.feedSlot0ContinuousFrame pictures frame turn).1.continuousSlot0,
      sourceKey timed.outputOverride source frame.frameId ∈ runtime.enqueuedKeys := by
  unfold TimedSwitcherH264DecodeRuntime.feedSlot0ContinuousFrame at h ⊢
  split at h
  next => cases h
  next runtime hslot =>
    split at h
    next hmatches =>
      rw [if_pos hmatches]
      intro runtime' hruntime'
      cases hruntime'
      have heffect := (runtime.advance pictures turn.beforeEnqueue).enqueueInput_effect timed.outputOverride
        (TimedSwitcherH264DecodeRuntime.feedInput frame) turn.spawn
      rcases heffect with ⟨hresult, -⟩ | ⟨-, -, henqueues⟩
      · exact absurd h hresult
      · have hadvanced := TwoRealContinuousDecodeRuntime.nothingEnqueued_advance pictures
          ((runtime.advance pictures turn.beforeEnqueue).enqueueInput timed.outputOverride
            (TimedSwitcherH264DecodeRuntime.feedInput frame) turn.spawn).1 turn.beforeDrain
        have hdrained := TwoRealContinuousDecodeRuntime.nothingEnqueued_drainOutputs
          (((runtime.advance pictures turn.beforeEnqueue).enqueueInput timed.outputOverride
            (TimedSwitcherH264DecodeRuntime.feedInput frame) turn.spawn).1.advance pictures turn.beforeDrain)
          timed.decodedCache
        rw [decodeCacheKey_feedInput hclient hrun] at henqueues
        have hkey : sourceKey timed.outputOverride source frame.frameId ∈
            ((runtime.advance pictures turn.beforeEnqueue).enqueueInput timed.outputOverride
              (TimedSwitcherH264DecodeRuntime.feedInput frame) turn.spawn).1.enqueuedKeys := by
          rw [henqueues.enqueuedKeys]
          exact Finset.mem_insert_self _ _
        rw [← hadvanced.enqueuedKeys, ← hdrained.enqueuedKeys] at hkey
        exact hkey
    next => cases h

theorem scope_oldestFrame {queue : ServerVideoFrameQueueState} (h : Keyed queue) {queued : ServerQueuedVideoFrame}
    (holdest : oldestFrame queue source.clientId source.runId = some queued) :
    queued.frame.clientId = source.clientId ∧ queued.frame.runId = source.runId := by
  have hmem : queued ∈ queue.framesForClientRun source.clientId source.runId :=
    List.mem_of_mem_head? holdest
  obtain ⟨hclient, hrun⟩ := List.mem_filter.mp hmem
  exact ⟨h source.clientId queued hclient, of_decide_eq_true hrun⟩

/-- What the feeder enqueues, the decoder took. -/
theorem feed_takes {frame : SwitcherSingleViewSelectedEncodedFrame} {turn : ContinuousTurn}
    (h : (timed.feedSlot0ContinuousFrame pictures frame turn).2 = .enqueued) :
    ∃ runtime ∈ timed.continuousSlot0,
      TakesFrame timed.outputOverride (runtime.advance pictures turn.beforeEnqueue) frame turn.spawn := by
  unfold TimedSwitcherH264DecodeRuntime.feedSlot0ContinuousFrame at h
  split at h
  next => cases h
  next runtime hslot =>
    split at h
    next hmatches =>
      have hscope : (frame.clientId = runtime.source.clientId && frame.runId = runtime.source.runId) = true :=
        hmatches
      rw [Bool.and_eq_true, decide_eq_true_eq, decide_eq_true_eq] at hscope
      have htakes : ((runtime.advance pictures turn.beforeEnqueue).enqueueInput timed.outputOverride
          (TimedSwitcherH264DecodeRuntime.feedInput frame) turn.spawn).2 = .enqueued ↔
            TakesFrame timed.outputOverride (runtime.advance pictures turn.beforeEnqueue) frame turn.spawn :=
        enqueueInput_takes_iff hscope.1 hscope.2
      exact ⟨runtime, hslot, htakes.mp h⟩
    next => cases h

/-- The server answers the preview of a turn, and the frame is due. -/
structure OffersFrame (source : TwoRealContinuousDecodeSource) (targetTimestamp : TimestampMicros)
    (world : HandoffWorld) (queued : ServerQueuedVideoFrame) : Prop where
  served : world.turn.fate = .served
  named : (isBlank source.clientId || isBlank source.runId) = false
  due : queued.frame.captureTimestamp ≤ targetTimestamp

/-- Where the decoder takes the frame that a turn of the feeder offers, no frame that was demanded and
enqueued is newer, and a consume request that reaches the server finds that frame as the oldest one of the
source, or none. -/
def TurnKeepsOrder (pictures : DecoderPictures) (source : TwoRealContinuousDecodeSource)
    (targetTimestamp : TimestampMicros) (demanded : List UInt64) (turn : ContinuousTurn)
    (timed : TimedSwitcherH264DecodeRuntime δ) (world : HandoffWorld) : Prop :=
  ∀ queued ∈ oldestFrame world.queueAtRequest source.clientId source.runId,
    OffersFrame source targetTimestamp world queued → ∀ runtime ∈ timed.continuousSlot0,
      TakesFrame timed.outputOverride (runtime.advance pictures turn.beforeEnqueue) (.ofQueued queued)
          turn.spawn →
        (∀ frameId ∈ demanded, sourceKey timed.outputOverride source frameId ∈ runtime.enqueuedKeys →
          frameId < queued.frame.frameId) ∧
        (world.afterPreview.turn.fate.reachesServer = true →
          ∀ taken ∈ oldestFrame world.afterPreview.queueAtRequest source.clientId source.runId, taken = queued)

/-- The same of every turn of an attempt. -/
def TurnsKeepOrder (pictures : DecoderPictures) (source : TwoRealContinuousDecodeSource)
    (targetTimestamp : TimestampMicros) (demanded : List UInt64) :
    Nat → List ContinuousTurn → TimedSwitcherH264DecodeRuntime δ → HandoffWorld → Prop
  | 0, _, _, _ => True
  | n + 1, turns, timed, world =>
    let turn := turns.headD ⟨.spawned, [], []⟩
    let next := feedTurn pictures source targetTimestamp turn timed world
    TurnKeepsOrder pictures source targetTimestamp demanded turn timed world ∧
      (next.1.goesOn = true →
        TurnsKeepOrder pictures source targetTimestamp demanded n turns.tail next.2.1 next.2.2)

instance (source : TwoRealContinuousDecodeSource) (targetTimestamp : TimestampMicros) (world : HandoffWorld)
    (queued : ServerQueuedVideoFrame) : Decidable (OffersFrame source targetTimestamp world queued) :=
  decidable_of_iff (world.turn.fate = .served ∧ (isBlank source.clientId || isBlank source.runId) = false ∧
      queued.frame.captureTimestamp ≤ targetTimestamp)
    ⟨fun ⟨hserved, hnamed, hdue⟩ => ⟨hserved, hnamed, hdue⟩, fun h => ⟨h.served, h.named, h.due⟩⟩

instance (pictures : DecoderPictures) (source : TwoRealContinuousDecodeSource)
    (targetTimestamp : TimestampMicros) (demanded : List UInt64) (turn : ContinuousTurn)
    (timed : TimedSwitcherH264DecodeRuntime δ) (world : HandoffWorld) :
    Decidable (TurnKeepsOrder pictures source targetTimestamp demanded turn timed world) := by
  delta TurnKeepsOrder
  -- not over all the ids of a `UInt64`
  have hdemanded (queued : ServerQueuedVideoFrame) (runtime : TwoRealContinuousDecodeRuntime) :
      Decidable (∀ frameId ∈ demanded, sourceKey timed.outputOverride source frameId ∈ runtime.enqueuedKeys →
        frameId < queued.frame.frameId) := List.decidableBAll _ demanded
  infer_instance

instance turnsKeepOrderDecidable (pictures : DecoderPictures) (source : TwoRealContinuousDecodeSource)
    (targetTimestamp : TimestampMicros) (demanded : List UInt64) :
    (n : Nat) → (turns : List ContinuousTurn) → (timed : TimedSwitcherH264DecodeRuntime δ) →
      (world : HandoffWorld) →
        Decidable (TurnsKeepOrder pictures source targetTimestamp demanded n turns timed world)
  | 0, _, _, _ => .isTrue trivial
  | n + 1, turns, timed, world =>
    have := turnsKeepOrderDecidable pictures source targetTimestamp demanded n turns.tail
      (feedTurn pictures source targetTimestamp (turns.headD ⟨.spawned, [], []⟩) timed world).2.1
      (feedTurn pictures source targetTimestamp (turns.headD ⟨.spawned, [], []⟩) timed world).2.2
    instDecidableAnd

/-- The oldest frame of the server goes to the decoder in order. -/
theorem FeedSound.feedOldest (h : FeedSound outputOverride source total demanded consumed timed world)
    (pictures : DecoderPictures) {queued : ServerQueuedVideoFrame}
    (holdest : oldestFrame world.queue source.clientId source.runId = some queued) {turn : ContinuousTurn}
    (hnewer : ∀ runtime ∈ timed.continuousSlot0,
      TakesFrame outputOverride (runtime.advance pictures turn.beforeEnqueue) (.ofQueued queued) turn.spawn →
        ∀ frameId ∈ demanded, sourceKey outputOverride source frameId ∈ runtime.enqueuedKeys →
          frameId < queued.frame.frameId) :
    FeedSound outputOverride source total demanded consumed
        (timed.feedSlot0ContinuousFrame pictures (.ofQueued queued) turn).1 world ∧
      ((timed.feedSlot0ContinuousFrame pictures (.ofQueued queued) turn).2 = .enqueued →
        ∀ runtime ∈ (timed.feedSlot0ContinuousFrame pictures (.ofQueued queued) turn).1.continuousSlot0,
          sourceKey outputOverride source queued.frame.frameId ∈ runtime.enqueuedKeys) := by
  obtain ⟨seen, hserver, hoverride, hruntime⟩ := h
  obtain ⟨hclient, hrun⟩ := scope_oldestFrame hserver.queue.keyed holdest
  obtain ⟨hmem, hfirst⟩ := hserver.queue.oldest holdest
  constructor
  · refine ⟨seen, hserver, ?_⟩
    unfold TimedSwitcherH264DecodeRuntime.feedSlot0ContinuousFrame
    split
    next => exact ⟨hoverride, hruntime⟩
    next runtime hslot =>
      split
      next =>
        have hold := hruntime runtime hslot
        refine ⟨hoverride, hold.enqueueAndDrain pictures hoverride (hserver.queue.queued queued hmem)
          (fun htakes frameId hkey => ?_) (.inr hfirst) hclient hrun⟩
        -- a frame that is taken was not enqueued, so all enqueued ones are older or were demanded
        have hnot : sourceKey outputOverride source queued.frame.frameId ∉ runtime.enqueuedKeys := by
          rw [← hold.ofSource]
          exact fun hkey' => htakes.accepts (.inl hkey')
        rcases hold.fresh queued hmem hnot frameId hkey with holder | hdemanded
        · exact holder
        · exact hnewer runtime hslot htakes frameId hdemanded hkey
      next => exact ⟨hoverride, hruntime⟩
  · intro henqueued
    have hkeys := feed_enqueued henqueued hclient hrun
    rw [hoverride] at hkeys
    exact hkeys

theorem recordContinuousFeedEnqueueResult_eq_ok {result : TwoRealContinuousDecodeEnqueueResult}
    (h : recordContinuousFeedEnqueueResult result = .ok ()) : result = .enqueued := by
  cases result <;> first | rfl | cases h

theorem consumeFed_snd (source : TwoRealContinuousDecodeSource) (frame : SwitcherSingleViewSelectedEncodedFrame)
    (world : HandoffWorld) :
    (consumeFed source frame world).2 =
      (world.request ⟨source.clientId, source.runId, .consumeOldest⟩).2 := by
  unfold consumeFed
  dsimp only
  split <;> rfl

theorem feedPreviewed_sound {base : List ServerQueuedVideoFrame}
    (h : FeedSound outputOverride source total demanded (base ++ world.removed) timed world)
    (hincreasing : total.Pairwise (· < ·)) {queued : ServerQueuedVideoFrame} {turn : ContinuousTurn}
    (holdest : oldestFrame world.queue source.clientId source.runId = some queued)
    (hkeeps : ∀ runtime ∈ timed.continuousSlot0,
      TakesFrame timed.outputOverride (runtime.advance pictures turn.beforeEnqueue) (.ofQueued queued)
          turn.spawn →
        (∀ frameId ∈ demanded, sourceKey timed.outputOverride source frameId ∈ runtime.enqueuedKeys →
          frameId < queued.frame.frameId) ∧
        (world.turn.fate.reachesServer = true →
          ∀ taken ∈ oldestFrame world.queueAtRequest source.clientId source.runId, taken = queued)) :
    let next := feedPreviewed pictures source (.ofQueued queued) turn timed world
    FeedSound outputOverride source total demanded (base ++ next.2.2.removed) next.2.1 next.2.2 := by
  have hoverride : timed.outputOverride = outputOverride := h.choose_spec.2.1
  have hnewer : ∀ runtime ∈ timed.continuousSlot0,
      TakesFrame outputOverride (runtime.advance pictures turn.beforeEnqueue) (.ofQueued queued) turn.spawn →
        ∀ frameId ∈ demanded, sourceKey outputOverride source frameId ∈ runtime.enqueuedKeys →
          frameId < queued.frame.frameId := fun runtime hslot htakes =>
    hoverride ▸ (hkeeps runtime hslot (hoverride.symm ▸ htakes)).1
  obtain ⟨hfed, hkey⟩ := h.feedOldest pictures holdest hnewer
  unfold feedPreviewed
  dsimp only
  split
  next => exact hfed
  next hrecorded =>
    have henqueued := recordContinuousFeedEnqueueResult_eq_ok hrecorded
    rw [consumeFed_snd]
    have hrequested := hfed.request hincreasing ⟨source.clientId, source.runId, .consumeOldest⟩
    rcases (request_consumeOldest world source.clientId source.runId).2 with
      hsame | ⟨hreached, taken, htaken, hremoved⟩
    · rw [hsame]
      exact hrequested
    · rw [hremoved, ← List.append_assoc]
      obtain ⟨runtime, hslot, htakes⟩ := feed_takes henqueued
      obtain rfl := (hkeeps runtime hslot htakes).2 hreached taken htaken
      exact hrequested.consume (hkey henqueued)

/-- A turn of the feed loop. -/
theorem feedTurn_sound {base : List ServerQueuedVideoFrame} {targetTimestamp : TimestampMicros}
    {turn : ContinuousTurn}
    (h : FeedSound outputOverride source total demanded (base ++ world.removed) timed world)
    (hincreasing : total.Pairwise (· < ·))
    (hkeeps : TurnKeepsOrder pictures source targetTimestamp demanded turn timed world) :
    let next := feedTurn pictures source targetTimestamp turn timed world
    FeedSound outputOverride source total demanded (base ++ next.2.2.removed) next.2.1 next.2.2 := by
  obtain ⟨hworld, hframe⟩ := request_previewOldest world source.clientId source.runId
  have hpreviewed := h.request hincreasing ⟨source.clientId, source.runId, .previewOldest⟩
  unfold feedTurn
  dsimp only
  rw [hworld] at hpreviewed ⊢
  split
  next frame mode len hanswer =>
    obtain ⟨hserved, hnamed, queued, holdest, rfl⟩ := hframe frame mode len hanswer
    split
    next => exact hpreviewed
    next hnot =>
      have hdue : queued.frame.captureTimestamp ≤ targetTimestamp := UInt64.not_lt.mp hnot
      exact feedPreviewed_sound hpreviewed hincreasing holdest (hkeeps queued holdest ⟨hserved, hnamed, hdue⟩)
  next => exact hpreviewed
  next => exact hpreviewed

theorem feedTurns_sound (base : List ServerQueuedVideoFrame) {targetTimestamp : TimestampMicros} (n : Nat)
    {turns : List ContinuousTurn}
    (h : FeedSound outputOverride source total demanded (base ++ world.removed) timed world)
    (hincreasing : total.Pairwise (· < ·))
    (hkeeps : TurnsKeepOrder pictures source targetTimestamp demanded n turns timed world) :
    let next := feedTurns pictures source targetTimestamp n turns timed world
    FeedSound outputOverride source total demanded (base ++ next.2.2.removed) next.2.1 next.2.2 := by
  induction n generalizing turns timed world with
  | zero => exact h
  | succ n ih =>
    obtain ⟨hfirst, hlater⟩ := hkeeps
    have hturn := feedTurn_sound h hincreasing hfirst
    unfold feedTurns
    dsimp only at hturn hlater ⊢
    generalize feedTurn pictures source targetTimestamp (turns.headD ⟨.spawned, [], []⟩) timed world = next
      at hturn hlater ⊢
    obtain ⟨came, timed', world'⟩ := next
    cases came with
    | consumed frame => exact ih hturn (hlater rfl)
    | _ => exact hturn

/-- What a request answers with is in the queue of the client and run it names, or retained. -/
theorem request_frameRead {input : SwitcherQueuedFrameHandoffInput}
    {frame : SwitcherSingleViewSelectedEncodedFrame} {mode : SwitcherSingleClientQueueSourceMode} {len : Nat}
    (h : (world.request input).1 = .frameRead frame mode len) :
    ∃ queued, frame = .ofQueued queued ∧
      (queued ∈ world.queueAtRequest.framesForClientRun input.clientId input.runId ∨
        ∃ key : String, world.queueAtRequest.retainedKeyframeByClientRun[key]? = some queued) := by
  obtain ⟨taken, -, hexchange⟩ := request_exchange world input
  rw [h] at hexchange
  generalize (world.request input).2.queue = queue', world.turn.fate = fate at hexchange
  generalize hanswer : SwitcherQueuedFrameHandoffResult.frameRead frame mode len = answer at hexchange
  cases hexchange with
  | notReceived error => cases hanswer
  | blankScope _ error => cases hanswer
  | notAnswered _ error => cases hanswer
  | answered _ =>
    let readInput : ServerVideoFrameQueueReadInput := ⟨input.clientId, input.runId, input.mode.queueReadMode⟩
    unfold readQueueSource at hanswer
    split at hanswer
    next state queued _ remaining _ _ _ hread =>
      cases hanswer
      have hframe : (selectFrame world.queueAtRequest readInput).2.1 = some queued := by
        rw [← read_frame?, hread]
        rfl
      refine ⟨queued, rfl, ?_⟩
      by_cases hmode : input.mode.queueReadMode = .inspectLatestDecodable
      · have hmodes : readInput = ⟨input.clientId, input.runId, .inspectLatestDecodable⟩ := by rw [← hmode]
        rw [hmodes] at hframe
        unfold selectFrame at hframe
        dsimp only at hframe
        split at hframe
        next resident hresident =>
          cases hframe
          exact .inl (List.mem_filter.mp (List.mem_of_getLast? hresident)).1
        next =>
          split at hframe
          next retained hretained =>
            cases hframe
            exact .inr ⟨_, hretained⟩
          next => cases hframe
      · have hfound : (world.queueAtRequest.read readInput).2.frame? = some queued := by
          rw [hread]
          rfl
        exact .inl (selectFrame_mem_run hmode hfound)
    next => cases hanswer

/-- What the scheduler gets of the source was stored. -/
theorem FeedSound.answered (h : FeedSound outputOverride source total demanded consumed timed world)
    (hincreasing : total.Pairwise (· < ·)) {input : SwitcherQueuedFrameHandoffInput}
    {frame : SwitcherSingleViewSelectedEncodedFrame} {mode : SwitcherSingleClientQueueSourceMode} {len : Nat}
    (hanswer : (world.request input).1 = .frameRead frame mode len)
    (hclient : frame.clientId = source.clientId) (hrun : frame.runId = source.runId) :
    frame.frameId ∈ total := by
  obtain ⟨seen, hserver, -, -⟩ := h
  obtain ⟨hpending, hqueue, -⟩ := hserver.turn hincreasing
  obtain ⟨queued, rfl, hplace⟩ := request_frameRead hanswer
  have hseen : queued.frame.frameId ∈ seen ++ storedIds source world.turn.stores := by
    rcases hplace with hqueued | ⟨key, hretained⟩
    · obtain ⟨hmem, -⟩ := List.mem_filter.mp hqueued
      have hinput := hqueue.keyed input.clientId queued hmem
      refine hqueue.queued queued (List.mem_filter.mpr ⟨?_, decide_eq_true hrun⟩)
      have hsame : input.clientId = source.clientId := hinput.symm.trans hclient
      rw [← hsame]
      exact hmem
    · exact hqueue.retained key queued hretained (Prod.ext hclient hrun)
  rw [← hpending]
  exact List.mem_append_left _ hseen

open SwitcherSingleClientTargetTimeHandoffSourceBoundary in
theorem readAtOrBefore_answering (sourceMode : SwitcherSingleClientQueueSourceMode) (taken : Bool)
    (input : SwitcherSingleClientTargetTimeSourceInput) (clockOffsetMicros : Option Int64) (world : HandoffWorld) :
    readAtOrBefore sourceMode taken answeringHandoff input clockOffsetMicros world =
      .ok (handoffConsumerResultForCandidate
          (consumerResult (world.request ⟨input.clientId, input.runId, sourceMode⟩).1) input.targetTimestamp
          input.mode taken clockOffsetMicros,
        (world.request ⟨input.clientId, input.runId, sourceMode⟩).2) := rfl

open SwitcherSingleClientTargetTimeHandoffSourceBoundary in
theorem selectAnswered_consume (clientId : ClientId) (runId : RunId) (targetTimestamp : TimestampMicros)
    (clockOffsetMicros : Option Int64) (world : HandoffWorld) :
    let preview := world.request ⟨clientId, runId, .previewOldest⟩
    let consume := preview.2.request ⟨clientId, runId, .consumeOldest⟩
    selectAnswered ⟨clientId, runId, targetTimestamp, .consumeOldestAtOrBefore⟩ clockOffsetMicros world =
      match handoffConsumerResultForCandidate (consumerResult preview.1) targetTimestamp
          .consumeOldestAtOrBefore false clockOffsetMicros with
      | .selected _ => (handoffConsumerResultForCandidate (consumerResult consume.1) targetTimestamp
          .consumeOldestAtOrBefore true clockOffsetMicros, consume.2)
      | result => (result, preview.2) := by
  unfold selectAnswered selectFromHandoffWithClockOffset consumeOldestAtOrBefore
  dsimp only
  rw [Effect.bind_of_ok (readAtOrBefore_answering .previewOldest false _ clockOffsetMicros world)]
  dsimp only
  generalize handoffConsumerResultForCandidate (consumerResult (world.request
    ⟨clientId, runId, .previewOldest⟩).1) targetTimestamp .consumeOldestAtOrBefore false
    clockOffsetMicros = result
  cases result <;> rfl

open SwitcherSingleClientTargetTimeHandoffSourceBoundary in
/-- A selection is one request, or two where it consumes; what it selects is the answer to the last. -/
theorem selectAnswered_spec (input : SwitcherSingleClientTargetTimeSourceInput)
    (clockOffsetMicros : Option Int64) (world : HandoffWorld) :
    ∃ before, (before = world ∨ ∃ first, before = (world.request first).2) ∧
      ∃ last, (selectAnswered input clockOffsetMicros world).2 = (before.request last).2 ∧
        ∀ selected, (selectAnswered input clockOffsetMicros world).1 = .selected selected →
          ∃ mode len, (before.request last).1 = .frameRead selected.frame mode len := by
  obtain ⟨clientId, runId, targetTimestamp, mode⟩ := input
  cases mode with
  | previewOldestIfAtOrBefore =>
    exact ⟨world, .inl rfl, ⟨clientId, runId, .previewOldest⟩, rfl, fun _ h => selected_of_consumerResult h⟩
  | previewLatestIfAtOrBefore =>
    exact ⟨world, .inl rfl, ⟨clientId, runId, .previewLatest⟩, rfl, fun _ h => selected_of_consumerResult h⟩
  | previewLatestDecodableIfAtOrBefore =>
    exact ⟨world, .inl rfl, ⟨clientId, runId, .previewLatestDecodable⟩, rfl,
      fun _ h => selected_of_consumerResult h⟩
  | consumeOldestAtOrBefore =>
    rw [selectAnswered_consume]
    split
    next =>
      exact ⟨_, .inr ⟨⟨clientId, runId, .previewOldest⟩, rfl⟩, ⟨clientId, runId, .consumeOldest⟩, rfl,
        fun _ h => selected_of_consumerResult h⟩
    next hpreview =>
      exact ⟨world, .inl rfl, ⟨clientId, runId, .previewOldest⟩, rfl,
        fun selected h => absurd h (hpreview selected)⟩

end

end StreamSync
