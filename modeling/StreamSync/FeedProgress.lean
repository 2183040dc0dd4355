import StreamSync.FeedRuns

namespace StreamSync

open Run ServerVideoFrameQueueState

section

variable {δ : Type} {pictures : DecoderPictures} {decode : H264DecodeRuntime δ}
  {outputOverride : TwoRealPreviewLoopDecodeOutputOverride} {source : TwoRealContinuousDecodeSource}
  {timed : TimedSwitcherH264DecodeRuntime δ} {world : HandoffWorld}
  {runtime : TwoRealContinuousDecodeRuntime} {queued : ServerQueuedVideoFrame}

/-- A feed attempt finds an enabled decoder with room in its input, and is answered with an oldest frame
at or before the target. -/
structure AttemptReaches (source : TwoRealContinuousDecodeSource) (state : ContinuousFeedState δ)
    (targetTimestamp : TimestampMicros) (requests : List HandoffTurn)
    (runtime : TwoRealContinuousDecodeRuntime) (queued : ServerQueuedVideoFrame) : Prop where
  slot : state.timed.continuousSlot0 = some runtime
  enabled : runtime.runtimeDisabled = false
  room : ∀ session ∈ runtime.session, session.inputQueue.length < continuousDecodeQueueBound
  named : (isBlank source.clientId || isBlank source.runId) = false
  answered : ∀ request ∈ requests, request.fate = .served
  oldest : oldestFrame (HandoffWorld.start state.queue requests 0).queueAtRequest source.clientId
    source.runId = some queued
  due : queued.frame.captureTimestamp ≤ targetTimestamp

/-- The attempt enqueues nothing of the frame and consumes nothing. -/
def LeavesHead (pictures : DecoderPictures) (decode : H264DecodeRuntime δ)
    (source : TwoRealContinuousDecodeSource) (state : ContinuousFeedState δ)
    (targetTimestamp : TimestampMicros) (requests : List HandoffTurn) (turns : List ContinuousTurn)
    (queued : ServerQueuedVideoFrame) : Prop :=
  let next := (continuousFeedStep pictures decode source state (.feed targetTimestamp requests turns)).1
  let key := sourceKey state.timed.outputOverride source queued.frame.frameId
  next.consumed = state.consumed ∧
    ∀ runtime ∈ state.timed.continuousSlot0, ∀ runtime' ∈ next.timed.continuousSlot0,
      key ∈ runtime'.enqueuedKeys → key ∈ runtime.enqueuedKeys

theorem length_inputQueue_of_move {pictures : DecoderPictures} {session session' : TwoRealContinuousDecodeSession}
    (hmove : TwoRealContinuousDecodeSession.ThreadMove pictures session session') :
    session'.inputQueue.length ≤ session.inputQueue.length := by
  cases hmove with
  | receives hwriter hqueue =>
    rw [hqueue, List.length_cons]
    exact Nat.le_succ _
  | stops => exact Nat.zero_le _
  | _ => exact Nat.le_refl _

/-- The threads only take from the input queue. -/
theorem length_inputQueue_advance (pictures : DecoderPictures) (session : TwoRealContinuousDecodeSession)
    (steps : List ThreadStep) :
    (session.advance pictures steps).inputQueue.length ≤ session.inputQueue.length :=
  TwoRealContinuousDecodeSession.advance_keeps
    (P := fun later => later.inputQueue.length ≤ session.inputQueue.length)
    (fun _ _ hmove hlater => (length_inputQueue_of_move hmove).trans hlater) (Nat.le_refl _) steps

/-- A preview that the server answers shows the oldest frame. -/
theorem request_previewOldest_served {clientId : ClientId} {runId : RunId} (hserved : world.turn.fate = .served)
    (hnamed : (isBlank clientId || isBlank runId) = false)
    (holdest : oldestFrame world.queueAtRequest clientId runId = some queued) :
    ∃ len, world.request ⟨clientId, runId, .previewOldest⟩ =
      (.frameRead (.ofQueued queued) .previewOldest len, world.afterPreview) := by
  refine ⟨world.queueAtRequest.clientQueueLen clientId, Prod.ext ?_ ?_⟩
  · unfold HandoffWorld.request
    rw [hserved]
    dsimp only
    rw [if_neg (by rw [SwitcherQueuedFrameHandoffInput.hasBlankScope, hnamed]; decide),
      readQueueSource_previewOldest, holdest]
    rfl
  · exact (request_previewOldest world clientId runId).1

/-- A turn that is answered offers the oldest frame to the decoder. -/
theorem feedTurn_answered {targetTimestamp : TimestampMicros} (hserved : world.turn.fate = .served)
    (hnamed : (isBlank source.clientId || isBlank source.runId) = false)
    (holdest : oldestFrame world.queueAtRequest source.clientId source.runId = some queued)
    (hdue : queued.frame.captureTimestamp ≤ targetTimestamp) (turn : ContinuousTurn) :
    feedTurn pictures source targetTimestamp turn timed world =
      feedPreviewed pictures source (.ofQueued queued) turn timed world.afterPreview := by
  obtain ⟨len, hanswer⟩ := request_previewOldest_served hserved hnamed holdest
  have hnot : ¬targetTimestamp < queued.frame.captureTimestamp := UInt64.not_lt.mpr hdue
  unfold feedTurn
  rw [hanswer]
  exact if_neg hnot

theorem feedPreviewed_refused (source : TwoRealContinuousDecodeSource) (world : HandoffWorld)
    {frame : SwitcherSingleViewSelectedEncodedFrame} {turn : ContinuousTurn}
    (h : (timed.feedSlot0ContinuousFrame pictures frame turn).2 ≠ .enqueued) :
    ∃ reason, feedPreviewed pictures source frame turn timed world =
      (.skipped reason, (timed.feedSlot0ContinuousFrame pictures frame turn).1, world) := by
  unfold feedPreviewed
  dsimp only
  split
  next reason _ => exact ⟨reason, rfl⟩
  next hrecorded => exact absurd (recordContinuousFeedEnqueueResult_eq_ok hrecorded) h

/-- What survives every call of the decode runtime and every request survives the feed loop. -/
theorem feedTurns_kept (source : TwoRealContinuousDecodeSource)
    {P : TimedSwitcherH264DecodeRuntime δ → Prop} {W : HandoffWorld → Prop}
    (hkept : TimedSwitcherH264DecodeRuntime.Kept pictures (fun _ => True) P)
    (hrequest : ∀ world input, W world → W (world.request input).2) (targetTimestamp : TimestampMicros)
    (n : Nat) (turns : List ContinuousTurn) (hP : P timed) (hW : W world) :
    let next := feedTurns pictures source targetTimestamp n turns timed world
    P next.2.1 ∧ W next.2.2 := by
  induction n generalizing turns timed world with
  | zero => exact ⟨hP, hW⟩
  | succ n ih =>
    have hturn : P (feedTurn pictures source targetTimestamp (turns.headD ⟨.spawned, [], []⟩) timed world).2.1 ∧
        W (feedTurn pictures source targetTimestamp (turns.headD ⟨.spawned, [], []⟩) timed world).2.2 := by
      have hpreview := hrequest world ⟨source.clientId, source.runId, .previewOldest⟩ hW
      unfold feedTurn
      dsimp only
      split
      next frame _ _ _ =>
        split
        next => exact ⟨hP, hpreview⟩
        next =>
          have hfed : P (timed.feedSlot0ContinuousFrame pictures frame (turns.headD ⟨.spawned, [], []⟩)).1 :=
            hkept.feed hP trivial _
          unfold feedPreviewed
          dsimp only
          split
          next => exact ⟨hfed, hpreview⟩
          next =>
            rw [consumeFed_snd]
            exact ⟨hfed, hrequest _ _ hpreview⟩
      next => exact ⟨hP, hpreview⟩
      next => exact ⟨hP, hpreview⟩
    unfold feedTurns
    dsimp only
    generalize feedTurn pictures source targetTimestamp (turns.headD ⟨.spawned, [], []⟩) timed world = next
      at hturn ⊢
    obtain ⟨came, timed', world'⟩ := next
    cases came with
    | consumed frame => exact ih _ hturn.1 hturn.2
    | _ => exact hturn

/-- The server's queues are by client, and the decoder is the one of the source. -/
structure FeedScoped (outputOverride : TwoRealPreviewLoopDecodeOutputOverride)
    (source : TwoRealContinuousDecodeSource) (state : ContinuousFeedState δ) : Prop where
  queue : Keyed state.queue
  decoder : state.timed.outputOverride = outputOverride ∧
    ∀ runtime ∈ state.timed.continuousSlot0, runtime.source = source

theorem kept_ofSource (pictures : DecoderPictures) (outputOverride : TwoRealPreviewLoopDecodeOutputOverride)
    (source : TwoRealContinuousDecodeSource) :
    TimedSwitcherH264DecodeRuntime.Kept (δ := δ) pictures (fun _ => True) fun timed =>
      timed.outputOverride = outputOverride ∧ ∀ runtime ∈ timed.continuousSlot0, runtime.source = source :=
  kept_of_runtime pictures outputOverride (fun _ _ hnothing h => hnothing.source.trans h)
    fun _ _ _ _ _ henqueues h => henqueues.source.trans h

theorem Keyed.request (h : Keyed world.queue) (input : SwitcherQueuedFrameHandoffInput) :
    Keyed (world.request input).2.queue := by
  have hstored : Keyed world.queueAtRequest := h.storeAll world.turn.stores
  exact hstored.trims (request_trims world input).1

theorem continuousFeedStep_scoped {state : ContinuousFeedState δ} (h : FeedScoped outputOverride source state)
    (action : ContinuousFeedAction) :
    FeedScoped outputOverride source (continuousFeedStep pictures decode source state action).1 := by
  have hkept := kept_ofSource (δ := δ) pictures outputOverride source
  cases action with
  | store call => exact ⟨h.queue.storeFrame call, h.decoder⟩
  | thread step => exact ⟨h.queue, hkept.advance state.timed [step] h.decoder⟩
  | feed targetTimestamp requests turns =>
    unfold continuousFeedStep runSlot0ContinuousBoundedFeed
    dsimp only
    split
    next => exact ⟨h.queue, h.decoder⟩
    next =>
      have hstart : Keyed (HandoffWorld.start state.queue requests 0).queue := h.queue
      have hturns := feedTurns_kept source (W := fun world => Keyed world.queue) hkept
        (fun _ input hkeyed => hkeyed.request input) targetTimestamp continuousFeedMaxFramesPerAttempt
        turns h.decoder hstart
      exact ⟨hturns.2, hturns.1⟩
  | select input clockOffsetMicros requests =>
    obtain ⟨before, hbefore, last, hworld, -⟩ :=
      selectAnswered_spec input clockOffsetMicros (.start state.queue requests 0)
    have hstart : Keyed (HandoffWorld.start state.queue requests 0).queue := h.queue
    have hkeyed : Keyed before.queue := by
      rcases hbefore with rfl | ⟨first, rfl⟩
      · exact hstart
      · exact hstart.request first
    have hafter := hkeyed.request last
    rw [← hworld] at hafter
    unfold continuousFeedStep
    dsimp only
    split <;> exact ⟨hafter, h.decoder⟩
  | demand purpose turn =>
    unfold continuousFeedStep
    dsimp only
    split
    next frame _ =>
      refine ⟨h.queue, hkept.decodeForPurpose h.decoder decode trivial purpose turn fun _ hbefore => ?_⟩
      unfold TimedSwitcherH264DecodeRuntime.afterOneShot
      split <;> exact hbefore
    next => exact h
  | latestProgramFrame clientId selectedRunId =>
    exact ⟨h.queue, hkept.latestProgramFrame h.decoder clientId selectedRunId⟩
  | suppress decode programSourcePreview refresh budget => exact ⟨h.queue, h.decoder⟩

theorem run_scoped (pictures : DecoderPictures) (decode : H264DecodeRuntime δ)
    (outputOverride : TwoRealPreviewLoopDecodeOutputOverride) (source : TwoRealContinuousDecodeSource)
    (inner : δ) (config : TwoRealContinuousDecodeConfig)
    (suppression : Option TwoRealProgramFirstDecodeSuppressionConfig) (actions : List ContinuousFeedAction) :
    FeedScoped outputOverride source (run (continuousFeedStep pictures decode source)
      (ContinuousFeedState.start inner outputOverride source config suppression) actions).1 := by
  induction actions using List.reverseRecOn with
  | nil =>
    refine ⟨(queueInOrder_empty source).keyed, rfl, fun runtime hslot => ?_⟩
    cases hslot
    rfl
  | append_singleton actions action ih =>
    rw [run_concat]
    exact continuousFeedStep_scoped ih action

section Attempt

variable {state : ContinuousFeedState δ} {targetTimestamp : TimestampMicros} {requests : List HandoffTurn}

theorem AttemptReaches.served (h : AttemptReaches source state targetTimestamp requests runtime queued) :
    (HandoffWorld.start state.queue requests 0).turn.fate = .served := by
  unfold HandoffWorld.turn HandoffWorld.start nextTurn
  cases requests with
  | nil => rfl
  | cons request later => exact h.answered request List.mem_cons_self

theorem AttemptReaches.firstTurn (h : AttemptReaches source state targetTimestamp requests runtime queued)
    (turn : ContinuousTurn) :
    feedTurn pictures source targetTimestamp turn state.timed (HandoffWorld.start state.queue requests 0) =
      feedPreviewed pictures source (.ofQueued queued) turn state.timed
        (HandoffWorld.start state.queue requests 0).afterPreview :=
  feedTurn_answered h.served h.named h.oldest h.due turn

/-- The decoder is offered the oldest frame, and takes it or not. -/
theorem AttemptReaches.offered (h : AttemptReaches source state targetTimestamp requests runtime queued)
    (hscoped : FeedScoped outputOverride source state) (turn : ContinuousTurn) :
    (state.timed.feedSlot0ContinuousFrame pictures (.ofQueued queued) turn).2 = .enqueued ↔
      ¬RefusesFrame outputOverride (runtime.advance pictures turn.beforeEnqueue) (.ofQueued queued)
        turn.spawn := by
  have hkeyed : Keyed (HandoffWorld.start state.queue requests 0).queueAtRequest := hscoped.queue.storeAll _
  obtain ⟨hclient, hrun⟩ := scope_oldestFrame hkeyed h.oldest
  obtain ⟨hoverride, hsource⟩ := hscoped.decoder
  have hruntime := hsource runtime h.slot
  have hmatches : runtime.matchesSource
      (TimedSwitcherH264DecodeRuntime.feedInput (.ofQueued queued)) = true := by
    show (decide (queued.frame.clientId = runtime.source.clientId) &&
      decide (queued.frame.runId = runtime.source.runId)) = true
    rw [hclient, hrun, hruntime]
    simp
  have hroom : ∀ session ∈ (runtime.advance pictures turn.beforeEnqueue).session,
      session.inputQueue.length < continuousDecodeQueueBound := by
    intro session hsession
    obtain ⟨before, hbefore, rfl⟩ := Option.map_eq_some_iff.mp hsession
    have hle := length_inputQueue_advance pictures before turn.beforeEnqueue
    have hlt := h.room before hbefore
    omega
  have henabled : (runtime.advance pictures turn.beforeEnqueue).runtimeDisabled = false := h.enabled
  rw [← enqueueInput_feed_iff henabled hroom (hclient.trans (congrArg _ hruntime.symm))
    (hrun.trans (congrArg _ hruntime.symm))]
  unfold TimedSwitcherH264DecodeRuntime.feedSlot0ContinuousFrame
  rw [h.slot]
  dsimp only
  rw [if_pos hmatches, ← hoverride]
  rfl

end Attempt

theorem feedTurns_skipped {targetTimestamp : TimestampMicros} {turns : List ContinuousTurn}
    {reason : TwoRealContinuousFeedSkipReason} {timed' : TimedSwitcherH264DecodeRuntime δ}
    {world' : HandoffWorld} (n : Nat)
    (h : feedTurn pictures source targetTimestamp (turns.headD ⟨.spawned, [], []⟩) timed world =
      (.skipped reason, timed', world')) :
    feedTurns pictures source targetTimestamp (n + 1) turns timed world =
      ([.skipped reason], timed', world') := by
  unfold feedTurns
  rw [h]

/-- What the first turn brings about stays, if it survives every call. -/
theorem feedTurns_afterFirst {P : TimedSwitcherH264DecodeRuntime δ → Prop}
    (hkept : TimedSwitcherH264DecodeRuntime.Kept pictures (fun _ => True) P)
    {targetTimestamp : TimestampMicros} {turns : List ContinuousTurn} (n : Nat)
    (h : P (feedTurn pictures source targetTimestamp (turns.headD ⟨.spawned, [], []⟩) timed world).2.1) :
    P (feedTurns pictures source targetTimestamp (n + 1) turns timed world).2.1 := by
  unfold feedTurns
  dsimp only
  generalize feedTurn pictures source targetTimestamp (turns.headD ⟨.spawned, [], []⟩) timed world = first
    at h ⊢
  obtain ⟨came, timed', world'⟩ := first
  cases came with
  | consumed frame =>
    have hlater : P (feedTurns pictures source targetTimestamp n turns.tail timed' world').2.1 ∧ True :=
      feedTurns_kept source (W := fun _ => True) hkept (fun _ _ _ => trivial) targetTimestamp n _ h trivial
    exact hlater.1
  | _ => exact h

theorem feedPreviewed_timed (frame : SwitcherSingleViewSelectedEncodedFrame) (turn : ContinuousTurn) :
    (feedPreviewed pictures source frame turn timed world).2.1 =
      (timed.feedSlot0ContinuousFrame pictures frame turn).1 := by
  unfold feedPreviewed
  dsimp only
  split <;> rfl

theorem kept_enqueued (pictures : DecoderPictures) (outputOverride : TwoRealPreviewLoopDecodeOutputOverride)
    (key : TwoRealPreviewLoopDecodeCacheKey) :
    TimedSwitcherH264DecodeRuntime.Kept (δ := δ) pictures (fun _ => True) fun timed =>
      timed.outputOverride = outputOverride ∧ ∀ runtime ∈ timed.continuousSlot0, key ∈ runtime.enqueuedKeys := by
  refine kept_of_runtime pictures outputOverride (fun _ _ hnothing h => ?_) fun _ _ _ _ _ henqueues h => ?_
  · rw [hnothing.enqueuedKeys]
    exact h
  · rw [henqueues.enqueuedKeys]
    exact Finset.mem_insert_of_mem h

theorem kept_continuous (pictures : DecoderPictures) :
    TimedSwitcherH264DecodeRuntime.Kept (δ := δ) pictures (fun _ => True)
      fun timed => timed.continuousSlot0.isSome = true where
  advance timed steps h := by
    rw [TimedSwitcherH264DecodeRuntime.advance, Option.isSome_map]
    exact h
  enqueue _ _ _ _ _ _ _ := rfl
  drain _ _ _ _ := rfl
  budget _ _ h := h

section Attempt

variable {state : ContinuousFeedState δ} {targetTimestamp : TimestampMicros} {requests : List HandoffTurn}

/-- A frame that the decoder does not take leaves the enqueued keys as they were. -/
theorem feed_notEnqueued {frame : SwitcherSingleViewSelectedEncodedFrame} {turn : ContinuousTurn}
    (hslot : timed.continuousSlot0 = some runtime)
    (h : (timed.feedSlot0ContinuousFrame pictures frame turn).2 ≠ .enqueued) :
    ∀ runtime' ∈ (timed.feedSlot0ContinuousFrame pictures frame turn).1.continuousSlot0,
      runtime'.enqueuedKeys = runtime.enqueuedKeys := by
  unfold TimedSwitcherH264DecodeRuntime.feedSlot0ContinuousFrame at h ⊢
  rw [hslot] at h ⊢
  dsimp only at h ⊢
  split at h
  next hmatches =>
    rw [if_pos hmatches]
    intro runtime' hruntime'
    cases hruntime'
    rcases (runtime.advance pictures turn.beforeEnqueue).enqueueInput_effect timed.outputOverride
      (TimedSwitcherH264DecodeRuntime.feedInput frame) turn.spawn with ⟨-, hnothing⟩ | ⟨hresult, -⟩
    · have hbefore := TwoRealContinuousDecodeRuntime.nothingEnqueued_advance pictures runtime turn.beforeEnqueue
      have hafter := TwoRealContinuousDecodeRuntime.nothingEnqueued_advance pictures
        ((runtime.advance pictures turn.beforeEnqueue).enqueueInput timed.outputOverride
          (TimedSwitcherH264DecodeRuntime.feedInput frame) turn.spawn).1 turn.beforeDrain
      have hdrained := TwoRealContinuousDecodeRuntime.nothingEnqueued_drainOutputs
        (((runtime.advance pictures turn.beforeEnqueue).enqueueInput timed.outputOverride
          (TimedSwitcherH264DecodeRuntime.feedInput frame) turn.spawn).1.advance pictures turn.beforeDrain)
        timed.decodedCache
      exact (((hbefore.trans hnothing).trans hafter).trans hdrained).enqueuedKeys
    · exact absurd hresult h
  next hmatches =>
    rw [if_neg hmatches, hslot]
    intro runtime' hruntime'
    cases hruntime'
    rfl

/-- A frame that the decoder refuses ends the attempt. -/
theorem AttemptReaches.leaves (h : AttemptReaches source state targetTimestamp requests runtime queued)
    (hscoped : FeedScoped outputOverride source state) (turns : List ContinuousTurn)
    (hrefuses : RefusesFrame outputOverride
      (runtime.advance pictures (turns.headD ⟨.spawned, [], []⟩).beforeEnqueue) (.ofQueued queued)
      (turns.headD ⟨.spawned, [], []⟩).spawn) :
    LeavesHead pictures decode source state targetTimestamp requests turns queued := by
  have hresult : (state.timed.feedSlot0ContinuousFrame pictures (.ofQueued queued)
      (turns.headD ⟨.spawned, [], []⟩)).2 ≠ .enqueued := fun htaken =>
    (h.offered hscoped (turns.headD ⟨.spawned, [], []⟩)).mp htaken hrefuses
  obtain ⟨reason, hskipped⟩ := feedPreviewed_refused source
    (HandoffWorld.start state.queue requests 0).afterPreview hresult
  rw [← h.firstTurn] at hskipped
  have hrun : runSlot0ContinuousBoundedFeed pictures source targetTimestamp turns state.timed
      (.start state.queue requests 0) = ([.skipped reason], (state.timed.feedSlot0ContinuousFrame pictures
        (.ofQueued queued) (turns.headD ⟨.spawned, [], []⟩)).1,
          (HandoffWorld.start state.queue requests 0).afterPreview) := by
    unfold runSlot0ContinuousBoundedFeed
    rw [h.slot]
    exact feedTurns_skipped 1 hskipped
  have hkeys := feed_notEnqueued h.slot hresult
  unfold LeavesHead continuousFeedStep
  dsimp only
  rw [hrun, h.slot]
  refine ⟨List.append_nil _, fun before hbefore after hafter hkey => ?_⟩
  cases hbefore
  rwa [hkeys after hafter] at hkey

/-- A frame that the decoder takes is among the enqueued ones from then on, and was not before. -/
theorem AttemptReaches.takes (h : AttemptReaches source state targetTimestamp requests runtime queued)
    (hscoped : FeedScoped outputOverride source state) (turns : List ContinuousTurn)
    (htakes : ¬RefusesFrame outputOverride
      (runtime.advance pictures (turns.headD ⟨.spawned, [], []⟩).beforeEnqueue) (.ofQueued queued)
      (turns.headD ⟨.spawned, [], []⟩).spawn) :
    ¬LeavesHead pictures decode source state targetTimestamp requests turns queued := by
  have hkeyed : Keyed (HandoffWorld.start state.queue requests 0).queueAtRequest := hscoped.queue.storeAll _
  obtain ⟨hclient, hrun⟩ := scope_oldestFrame hkeyed h.oldest
  obtain ⟨hoverride, hsource⟩ := hscoped.decoder
  have hfresh : sourceKey outputOverride source queued.frame.frameId ∉ runtime.enqueuedKeys := by
    rw [← hsource runtime h.slot]
    exact fun hkey => htakes (.inl hkey)
  have hresult := (h.offered hscoped (turns.headD ⟨.spawned, [], []⟩)).mpr htakes
  have hkeys := feed_enqueued hresult hclient hrun
  have hfed : (feedTurn pictures source targetTimestamp (turns.headD ⟨.spawned, [], []⟩) state.timed
      (HandoffWorld.start state.queue requests 0)).2.1 =
        (state.timed.feedSlot0ContinuousFrame pictures (.ofQueued queued)
          (turns.headD ⟨.spawned, [], []⟩)).1 := by
    rw [h.firstTurn, feedPreviewed_timed]
  have hruns : runSlot0ContinuousBoundedFeed pictures source targetTimestamp turns state.timed
      (.start state.queue requests 0) =
        feedTurns pictures source targetTimestamp (1 + 1) turns state.timed (.start state.queue requests 0) := by
    unfold runSlot0ContinuousBoundedFeed
    rw [h.slot]
    rfl
  have hstays := feedTurns_afterFirst (kept_enqueued pictures outputOverride
    (sourceKey outputOverride source queued.frame.frameId)) 1 (by
      rw [hfed]
      rw [hoverride] at hkeys
      exact ⟨((kept_ofSource pictures outputOverride source).feed hscoped.decoder trivial _).1, hkeys⟩)
  have hthere := feedTurns_afterFirst (kept_continuous pictures) 1 (by
    rw [hfed]
    exact (kept_continuous pictures).feed (by rw [h.slot]; rfl) trivial _)
  obtain ⟨after, hafter⟩ := Option.isSome_iff_exists.mp hthere
  rw [← hruns] at hstays hafter
  intro hleaves
  have hkey := hstays.2 after hafter
  rw [← hoverride] at hkey hfresh
  exact hfresh (hleaves.2 runtime h.slot after hafter hkey)

end Attempt

/-- In every state that the preview loop and the server can come to, a feed attempt leaves its frame at the
head of the queue exactly when the decoder refuses it. -/
theorem continuousFeed_leavesHead_iff (pictures : DecoderPictures) (decode : H264DecodeRuntime δ) (inner : δ)
    (outputOverride : TwoRealPreviewLoopDecodeOutputOverride) (source : TwoRealContinuousDecodeSource)
    (config : TwoRealContinuousDecodeConfig)
    (suppression : Option TwoRealProgramFirstDecodeSuppressionConfig) (actions : List ContinuousFeedAction)
    (targetTimestamp : TimestampMicros) (requests : List HandoffTurn) (turns : List ContinuousTurn)
    (runtime : TwoRealContinuousDecodeRuntime) (queued : ServerQueuedVideoFrame)
    (h : AttemptReaches source (run (continuousFeedStep pictures decode source)
      (ContinuousFeedState.start inner outputOverride source config suppression) actions).1 targetTimestamp
        requests runtime queued) :
    let turn := turns.headD ⟨.spawned, [], []⟩
    LeavesHead pictures decode source (run (continuousFeedStep pictures decode source)
        (ContinuousFeedState.start inner outputOverride source config suppression) actions).1 targetTimestamp
          requests turns queued ↔
      RefusesFrame outputOverride (runtime.advance pictures turn.beforeEnqueue) (.ofQueued queued)
        turn.spawn := by
  have hscoped := run_scoped pictures decode outputOverride source inner config suppression actions
  intro turn
  refine ⟨fun hleaves => ?_, fun hrefuses => h.leaves hscoped turns hrefuses⟩
  by_contra htakes
  exact h.takes hscoped turns htakes hleaves

end

/-- The slot demands the frame that the scheduler previewed, before the feeder gets to it. -/
def demandBeforeFeed : List ContinuousFeedAction :=
  [.store (storeSourceFrame 8 1), .select ⟨"client-0", "run-0", 200, .previewOldestIfAtOrBefore⟩ none [],
    .demand .previewFallback noTurn]

/-- The continuous decoder after that. -/
def demandedDecoder : TwoRealContinuousDecodeRuntime :=
  ((run (continuousFeedStep emitsZeros decodesBlack ⟨"client-0", "run-0"⟩) feedStart
    demandBeforeFeed).1.timed.continuousSlot0).getD
      (.new ⟨"client-0", "run-0"⟩ ⟨1, 1, "quad_view_tile"⟩ ⟨false, none, .default⟩)

theorem demandedDecoder_slot :
    (run (continuousFeedStep emitsZeros decodesBlack ⟨"client-0", "run-0"⟩) feedStart
      demandBeforeFeed).1.timed.continuousSlot0 = some demandedDecoder := by
  obtain ⟨runtime, hslot⟩ : ∃ runtime, (run (continuousFeedStep emitsZeros decodesBlack ⟨"client-0", "run-0"⟩)
      feedStart demandBeforeFeed).1.timed.continuousSlot0 = some runtime :=
    Option.isSome_iff_exists.mp (by decide +kernel)
  rw [demandedDecoder, hslot]
  rfl

/-- The decoder takes a frame that was only stored, and refuses the one that the slot has demanded. -/
theorem continuousFeed_leavesHead_iff_demanded :
    ¬LeavesHead emitsZeros decodesBlack ⟨"client-0", "run-0"⟩ (run (continuousFeedStep emitsZeros decodesBlack
        ⟨"client-0", "run-0"⟩) feedStart [.store (storeSourceFrame 8 1)]).1 200 [] []
          (storeSourceFrame 8 1).queued ∧
      LeavesHead emitsZeros decodesBlack ⟨"client-0", "run-0"⟩ (run (continuousFeedStep emitsZeros decodesBlack
        ⟨"client-0", "run-0"⟩) feedStart demandBeforeFeed).1 200 [] [] (storeSourceFrame 8 1).queued := by
  constructor
  · have hiff := continuousFeed_leavesHead_iff emitsZeros decodesBlack () ⟨1, 1, "quad_view_tile"⟩
      ⟨"client-0", "run-0"⟩ ⟨false, none, .default⟩ none [.store (storeSourceFrame 8 1)] 200 [] []
      (.new ⟨"client-0", "run-0"⟩ ⟨1, 1, "quad_view_tile"⟩ ⟨false, none, .default⟩)
      (storeSourceFrame 8 1).queued
      ⟨rfl, rfl, fun session hsession => absurd hsession (Option.not_mem_none session), by decide +kernel, nofun,
        by decide +kernel, by decide +kernel⟩
    exact fun hleaves => absurd (hiff.mp hleaves) (by decide +kernel)
  · have hiff := continuousFeed_leavesHead_iff emitsZeros decodesBlack () ⟨1, 1, "quad_view_tile"⟩
      ⟨"client-0", "run-0"⟩ ⟨false, none, .default⟩ none demandBeforeFeed 200 [] [] demandedDecoder
      (storeSourceFrame 8 1).queued
      ⟨demandedDecoder_slot, by decide +kernel, by decide +kernel, by decide +kernel, nofun, by decide +kernel,
        by decide +kernel⟩
    exact hiff.mpr (by decide +kernel)

/-- A frame that the slot demanded first stays at the head of the queue. -/
theorem continuousFeed_leavesDemanded :
    ¬∀ (actions : List ContinuousFeedAction) (targetTimestamp : TimestampMicros) (requests : List HandoffTurn)
        (turns : List ContinuousTurn) (runtime : TwoRealContinuousDecodeRuntime)
        (queued : ServerQueuedVideoFrame),
        AttemptReaches ⟨"client-0", "run-0"⟩ (run (continuousFeedStep emitsZeros decodesBlack
            ⟨"client-0", "run-0"⟩) feedStart actions).1 targetTimestamp requests runtime queued →
          ¬LeavesHead emitsZeros decodesBlack ⟨"client-0", "run-0"⟩ (run (continuousFeedStep emitsZeros
            decodesBlack ⟨"client-0", "run-0"⟩) feedStart actions).1 targetTimestamp requests turns queued := by
  intro h
  have hreaches : AttemptReaches ⟨"client-0", "run-0"⟩ (run (continuousFeedStep emitsZeros decodesBlack
      ⟨"client-0", "run-0"⟩) feedStart demandBeforeFeed).1 200 [] demandedDecoder (storeSourceFrame 8 1).queued :=
    ⟨demandedDecoder_slot, by decide +kernel, by decide +kernel, by decide +kernel, nofun, by decide +kernel,
      by decide +kernel⟩
  have hscoped := run_scoped emitsZeros decodesBlack ⟨1, 1, "quad_view_tile"⟩ ⟨"client-0", "run-0"⟩ ()
    ⟨false, none, .default⟩ none demandBeforeFeed
  exact h _ _ _ _ _ _ hreaches (hreaches.leaves hscoped [] (by decide +kernel))

end StreamSync
