import StreamSync.DecoderIntake
import StreamSync.FeedServerOrder
import StreamSync.Lib.Run

namespace StreamSync

open Run ServerVideoFrameQueueState

/-- The decode runtime, the server's queue, the frame that the preview scheduler selected last, and the
frames that the feeder's consume requests took. -/
structure ContinuousFeedState (δ : Type) where
  timed : TimedSwitcherH264DecodeRuntime δ
  queue : ServerVideoFrameQueueState
  selected : Option SwitcherSingleViewSelectedEncodedFrame
  consumed : List ServerQueuedVideoFrame

inductive ContinuousFeedAction where
  | store (call : StoreCall)
  | thread (step : ThreadStep)
  | feed (targetTimestamp : TimestampMicros) (requests : List HandoffTurn) (turns : List ContinuousTurn)
  | select (input : SwitcherSingleClientTargetTimeSourceInput) (clockOffsetMicros : Option Int64)
      (requests : List HandoffTurn)
  | demand (purpose : TwoRealPreviewLoopDecodePurpose) (turn : ContinuousTurn)
  | latestProgramFrame (clientId : ClientId) (selectedRunId : Option RunId)
  | suppress (decode programSourcePreview refresh : Bool) (budget : UInt32)

/-- What the server is given to store while the action lasts. -/
def ContinuousFeedAction.stores : ContinuousFeedAction → List StoreCall
  | .store call => [call]
  | .feed _ requests _ | .select _ _ requests => requests.flatMap HandoffTurn.stores
  | _ => []

/-- `select_from_handoff_with_clock_offset`, over the handoff of the loop. -/
def selectAnswered (input : SwitcherSingleClientTargetTimeSourceInput) (clockOffsetMicros : Option Int64)
    (world : HandoffWorld) : SwitcherSingleClientTargetTimeHandoffSourceResult × HandoffWorld :=
  match SwitcherSingleClientTargetTimeHandoffSourceBoundary.selectFromHandoffWithClockOffset
      answeringHandoff input clockOffsetMicros world with
  | .ok answer => answer
  | .error error => nomatch error

section

variable {δ : Type}

def continuousFeedStep (pictures : DecoderPictures) (decode : H264DecodeRuntime δ)
    (source : TwoRealContinuousDecodeSource) (state : ContinuousFeedState δ) :
    ContinuousFeedAction → ContinuousFeedState δ × List ContinuousFeedTurn
  | .store call =>
    ({ state with queue := (storeFrame state.queue call.input call.queuedAt call.policy).1 }, [])
  | .thread step => ({ state with timed := state.timed.advance pictures [step] }, [])
  | .feed targetTimestamp requests turns =>
    let (came, timed, world) := runSlot0ContinuousBoundedFeed pictures source targetTimestamp turns
      state.timed (.start state.queue requests 0)
    ({ state with timed, queue := world.queue, consumed := state.consumed ++ world.removed }, came)
  | .select input clockOffsetMicros requests =>
    let (result, world) := selectAnswered input clockOffsetMicros (.start state.queue requests 0)
    match result with
    | .selected selected => ({ state with queue := world.queue, selected := some selected.frame }, [])
    | _ => ({ state with queue := world.queue }, [])
  | .demand purpose turn =>
    match state.selected with
    | some frame =>
      let (_, timed) := state.timed.decodeForPurpose pictures decode
        (TimedSwitcherH264DecodeRuntime.feedInput frame) purpose turn
      ({ state with timed }, [])
    | none => (state, [])
  | .latestProgramFrame clientId selectedRunId =>
    ({ state with timed := (state.timed.latestContinuousProgramFrame clientId selectedRunId).2 }, [])
  | .suppress decode programSourcePreview refresh budget =>
    ({ state with
       timed := ((state.timed.setProgramFirstDecodeSuppressionActive
         decode).setProgramFirstProgramSourcePreviewSuppressionActive
           programSourcePreview).setOperatorPreviewDecodeRefreshBudget refresh budget }, [])

/-- The access units in the decoder's input are in order of their frame ids, and every frame that the
feeder consumed was enqueued. -/
structure FeedsInOrder (source : TwoRealContinuousDecodeSource) (state : ContinuousFeedState δ) : Prop where
  inOrder : ∀ runtime ∈ state.timed.continuousSlot0,
    (runtime.accepted.map fun input => input.metadata.frameId).Pairwise (· < ·)
  lossless : ∀ runtime ∈ state.timed.continuousSlot0, ∀ queued ∈ state.consumed,
    sourceKey state.timed.outputOverride source queued.frame.frameId ∈ runtime.enqueuedKeys

/-- The keys of one source among those that were ever enqueued are in order, and what the server still has
of it is newer than all of them but the demanded ones, unless it was enqueued itself. -/
structure EnqueuedInOrder (outputOverride : TwoRealPreviewLoopDecodeOutputOverride)
    (source : TwoRealContinuousDecodeSource) (seen demanded : List UInt64) (queue : ServerVideoFrameQueueState)
    (consumed : List ServerQueuedVideoFrame) (runtime : TwoRealContinuousDecodeRuntime) : Prop where
  ofSource : runtime.source = source
  order : (runtime.accepted.map fun input => input.metadata.frameId).Pairwise (· < ·)
  accepted : ∀ input ∈ runtime.accepted,
    sourceKey outputOverride source input.metadata.frameId ∈ runtime.enqueuedKeys
  known : ∀ frameId, sourceKey outputOverride source frameId ∈ runtime.enqueuedKeys → frameId ∈ seen
  fresh : ∀ queued ∈ sourceQueue source queue,
    sourceKey outputOverride source queued.frame.frameId ∉ runtime.enqueuedKeys →
      ∀ frameId, sourceKey outputOverride source frameId ∈ runtime.enqueuedKeys →
        frameId < queued.frame.frameId ∨ frameId ∈ demanded
  consumed : ∀ queued ∈ consumed,
    sourceKey outputOverride source queued.frame.frameId ∈ runtime.enqueuedKeys

variable {outputOverride : TwoRealPreviewLoopDecodeOutputOverride} {source : TwoRealContinuousDecodeSource}
  {seen seen' demanded demanded' : List UInt64} {queue queue' : ServerVideoFrameQueueState}
  {consumed : List ServerQueuedVideoFrame} {runtime runtime' : TwoRealContinuousDecodeRuntime}

theorem EnqueuedInOrder.nothingEnqueued
    (h : EnqueuedInOrder outputOverride source seen demanded queue consumed runtime)
    (hnothing : runtime.NothingEnqueued runtime') :
    EnqueuedInOrder outputOverride source seen demanded queue consumed runtime' := by
  obtain ⟨hsource, hkeys, haccepted⟩ := hnothing
  refine ⟨hsource.trans h.ofSource, h.order.sublist (haccepted.map _), ?_, ?_, ?_, ?_⟩
  · rw [hkeys]
    exact fun input hinput => h.accepted input (haccepted.subset hinput)
  · rw [hkeys]
    exact h.known
  · rw [hkeys]
    exact h.fresh
  · rw [hkeys]
    exact h.consumed

/-- A frame that is newer than all before it goes to the end of the order, if it was demanded or the server
has no older one. -/
theorem EnqueuedInOrder.enqueues (h : EnqueuedInOrder outputOverride source seen demanded queue consumed runtime)
    {frame : SwitcherSingleViewSelectedEncodedFrame} (hseen : frame.frameId ∈ seen)
    (hnewer : NewerThanEnqueued outputOverride source runtime frame.frameId)
    (hfirst : frame.frameId ∈ demanded ∨ ∀ queued ∈ sourceQueue source queue,
      queued.frame.frameId = frame.frameId ∨ frame.frameId < queued.frame.frameId)
    (henqueues : runtime.Enqueues (TimedSwitcherH264DecodeRuntime.feedInput frame)
      (sourceKey outputOverride source frame.frameId) runtime') :
    EnqueuedInOrder outputOverride source seen demanded queue consumed runtime' := by
  obtain ⟨hsource, -, hkeys, identity, hidentity, haccepted⟩ := henqueues
  have hid : frame.frameId = identity.frameId :=
    congrArg SwitcherH264DecodeSourceIdentity.frameId (Option.some.inj hidentity)
  rw [← hid] at haccepted
  have hmem : ∀ frameId, sourceKey outputOverride source frameId ∈ runtime'.enqueuedKeys ↔
      frameId = frame.frameId ∨ sourceKey outputOverride source frameId ∈ runtime.enqueuedKeys := by
    intro frameId
    rw [hkeys, Finset.mem_insert]
    exact or_congr_left ⟨sourceKey_inj, fun heq => by rw [heq]⟩
  refine ⟨hsource.trans h.ofSource, List.Pairwise.sublist (haccepted.map _) ?_, fun input hinput => ?_,
    fun frameId hkey => ?_, fun queued hqueued hkey frameId hkey' => ?_, fun queued hqueued => ?_⟩
  · rw [List.map_append, List.pairwise_append]
    refine ⟨h.order, List.pairwise_singleton _ _, ?_⟩
    intro enqueued hold id hnew
    obtain ⟨input, hinput, rfl⟩ := List.mem_map.mp hold
    rw [List.map_singleton, List.mem_singleton] at hnew
    rw [hnew]
    exact hnewer _ (h.accepted input hinput)
  · rw [hmem]
    rcases List.mem_append.mp (haccepted.subset hinput) with hold | hnew
    · exact .inr (h.accepted input hold)
    · rw [List.mem_singleton.mp hnew]
      exact .inl rfl
  · rcases (hmem frameId).mp hkey with rfl | hold
    · exact hseen
    · exact h.known frameId hold
  · rw [hmem, not_or] at hkey
    rcases (hmem frameId).mp hkey' with rfl | hold
    · rcases hfirst with hdemanded | holdest
      · exact .inr hdemanded
      · exact .inl ((holdest queued hqueued).resolve_left hkey.1)
    · exact h.fresh queued hqueued hkey.2 frameId hold
  · exact (hmem _).mpr (.inr (h.consumed queued hqueued))

/-- The server goes on: what it has of the source is old, or newer than all it had seen. -/
theorem EnqueuedInOrder.server (h : EnqueuedInOrder outputOverride source seen demanded queue consumed runtime)
    (hseen : seen ⊆ seen') (hqueue : ∀ queued ∈ sourceQueue source queue',
      queued ∈ sourceQueue source queue ∨ ∀ id ∈ seen, id < queued.frame.frameId) :
    EnqueuedInOrder outputOverride source seen' demanded queue' consumed runtime := by
  refine ⟨h.ofSource, h.order, h.accepted, fun frameId hkey => hseen (h.known frameId hkey),
    fun queued hqueued hkey frameId hkey' => ?_, h.consumed⟩
  rcases hqueue queued hqueued with hold | hnew
  · exact h.fresh queued hold hkey frameId hkey'
  · exact .inl (hnew frameId (h.known frameId hkey'))

theorem EnqueuedInOrder.demand (h : EnqueuedInOrder outputOverride source seen demanded queue consumed runtime)
    (hsub : demanded ⊆ demanded') :
    EnqueuedInOrder outputOverride source seen demanded' queue consumed runtime :=
  ⟨h.ofSource, h.order, h.accepted, h.known,
    fun queued hqueued hkey frameId hkey' =>
      (h.fresh queued hqueued hkey frameId hkey').imp_right fun hmem => hsub hmem,
    h.consumed⟩

/-- Nothing that the server has of the source is older than the oldest frame. -/
theorem QueueInOrder.oldest (h : QueueInOrder source seen queue) {queued : ServerQueuedVideoFrame}
    (holdest : oldestFrame queue source.clientId source.runId = some queued) :
    queued ∈ sourceQueue source queue ∧ ∀ other ∈ sourceQueue source queue,
      other.frame.frameId = queued.frame.frameId ∨ queued.frame.frameId < other.frame.frameId := by
  obtain ⟨later, hlater⟩ : ∃ later, sourceQueue source queue = queued :: later :=
    List.head?_eq_some_iff.mp holdest
  have hsorted := h.sorted
  rw [hlater] at hsorted ⊢
  refine ⟨List.mem_cons_self, fun other hother => ?_⟩
  rcases List.mem_cons.mp hother with rfl | hother
  · exact .inl rfl
  · exact .inr ((List.pairwise_cons.mp hsorted).1 other hother)

open TimedSwitcherH264DecodeRuntime in
/-- A property of the continuous runtime that survives what enqueues nothing, and what enqueues an admitted
input, survives every call. -/
theorem kept_of_runtime {Admits : SwitcherH264DecodeInput → Prop} {Q : TwoRealContinuousDecodeRuntime → Prop}
    (pictures : DecoderPictures) (outputOverride : TwoRealPreviewLoopDecodeOutputOverride)
    (hnothing : ∀ runtime runtime' : TwoRealContinuousDecodeRuntime, runtime.NothingEnqueued runtime' →
      Q runtime → Q runtime')
    (henqueues : ∀ (runtime runtime' : TwoRealContinuousDecodeRuntime) (input : SwitcherH264DecodeInput),
      Admits input → runtime.matchesSource input = true →
        runtime.Enqueues input (decodeCacheKey (applyOutputOverride outputOverride input)) runtime' →
          Q runtime → Q runtime') :
    Kept (δ := δ) pictures Admits fun timed =>
      timed.outputOverride = outputOverride ∧ ∀ runtime ∈ timed.continuousSlot0, Q runtime where
  advance timed steps h := by
    refine ⟨h.1, fun runtime hslot => ?_⟩
    obtain ⟨before, hbefore, rfl⟩ := Option.map_eq_some_iff.mp hslot
    exact hnothing _ _ (TwoRealContinuousDecodeRuntime.nothingEnqueued_advance pictures before steps)
      (h.2 before hbefore)
  enqueue timed runtime input spawn hinput h hslot := by
    refine ⟨h.1, fun runtime' hslot' => ?_⟩
    cases hslot'
    rcases runtime.enqueueInput_effect timed.outputOverride input spawn with ⟨-, heffect⟩ | ⟨-, hsource, heffect⟩
    · exact hnothing _ _ heffect (h.2 runtime hslot)
    · rw [h.1] at heffect ⊢
      exact henqueues _ _ input hinput hsource heffect (h.2 runtime hslot)
  drain timed runtime h hslot := by
    refine ⟨h.1, fun runtime' hslot' => ?_⟩
    cases hslot'
    exact hnothing _ _ (TwoRealContinuousDecodeRuntime.nothingEnqueued_drainOutputs runtime timed.decodedCache)
      (h.2 runtime hslot)
  budget timed remaining h := h

/-- One call that hands a frame to the decoder keeps the order, if the frame is newer than all before it
wherever the decoder takes it. -/
theorem EnqueuedInOrder.enqueueAndDrain
    (h : EnqueuedInOrder outputOverride source seen demanded queue consumed runtime)
    (pictures : DecoderPictures) {timed : TimedSwitcherH264DecodeRuntime δ}
    (hoverride : timed.outputOverride = outputOverride) {frame : SwitcherSingleViewSelectedEncodedFrame}
    {turn : ContinuousTurn} (hseen : frame.frameId ∈ seen)
    (hnewer : TakesFrame outputOverride (runtime.advance pictures turn.beforeEnqueue) frame turn.spawn →
      NewerThanEnqueued outputOverride source runtime frame.frameId)
    (hfirst : frame.frameId ∈ demanded ∨ ∀ queued ∈ sourceQueue source queue,
      queued.frame.frameId = frame.frameId ∨ frame.frameId < queued.frame.frameId)
    (hclient : frame.clientId = source.clientId) (hrun : frame.runId = source.runId) :
    ∀ runtime' ∈ (timed.enqueueAndDrain pictures runtime (TimedSwitcherH264DecodeRuntime.feedInput frame)
        turn).1.continuousSlot0,
      EnqueuedInOrder outputOverride source seen demanded queue consumed runtime' := by
  intro runtime' hruntime'
  cases hruntime'
  have hadvanced := h.nothingEnqueued
    (TwoRealContinuousDecodeRuntime.nothingEnqueued_advance pictures runtime turn.beforeEnqueue)
  have htakes : ((runtime.advance pictures turn.beforeEnqueue).enqueueInput outputOverride
      (TimedSwitcherH264DecodeRuntime.feedInput frame) turn.spawn).2 = .enqueued ↔
        TakesFrame outputOverride (runtime.advance pictures turn.beforeEnqueue) frame turn.spawn :=
    enqueueInput_takes_iff
    (hclient.trans (congrArg TwoRealContinuousDecodeSource.clientId hadvanced.ofSource.symm))
    (hrun.trans (congrArg TwoRealContinuousDecodeSource.runId hadvanced.ofSource.symm))
  have heffect := (runtime.advance pictures turn.beforeEnqueue).enqueueInput_effect outputOverride
    (TimedSwitcherH264DecodeRuntime.feedInput frame) turn.spawn
  have hsent : EnqueuedInOrder outputOverride source seen demanded queue consumed
      ((runtime.advance pictures turn.beforeEnqueue).enqueueInput outputOverride
        (TimedSwitcherH264DecodeRuntime.feedInput frame) turn.spawn).1 := by
    rcases heffect with ⟨-, hnothing⟩ | ⟨henqueued, -, henqueues⟩
    · exact hadvanced.nothingEnqueued hnothing
    · rw [decodeCacheKey_feedInput hclient hrun] at henqueues
      exact hadvanced.enqueues hseen (hnewer (htakes.mp henqueued)) hfirst henqueues
  rw [hoverride]
  exact (hsent.nothingEnqueued (TwoRealContinuousDecodeRuntime.nothingEnqueued_advance pictures _
    turn.beforeDrain)).nothingEnqueued (TwoRealContinuousDecodeRuntime.nothingEnqueued_drainOutputs _ _)

theorem kept_enqueuedInOrder (pictures : DecoderPictures)
    (outputOverride : TwoRealPreviewLoopDecodeOutputOverride) (source : TwoRealContinuousDecodeSource)
    (seen demanded : List UInt64) (queue : ServerVideoFrameQueueState)
    (consumed : List ServerQueuedVideoFrame) :
    TimedSwitcherH264DecodeRuntime.Kept (δ := δ) pictures (fun _ => False) fun timed =>
      timed.outputOverride = outputOverride ∧ ∀ runtime ∈ timed.continuousSlot0,
        EnqueuedInOrder outputOverride source seen demanded queue consumed runtime :=
  kept_of_runtime pictures outputOverride (fun _ _ hnothing h => h.nothingEnqueued hnothing)
    fun _ _ _ hinput _ _ _ => hinput.elim

end

end StreamSync
