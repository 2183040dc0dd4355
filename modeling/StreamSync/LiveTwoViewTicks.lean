import Mathlib.Data.List.DropRight
import StreamSync.LiveTwoView
import StreamSync.VideoQueueConservation

namespace StreamSync

open ServerVideoFrameQueueState

/-- A packet the source accepted, with the time it is queued under. -/
structure AcceptedPacket where
  packet : ServerRegisteredVideoFramePacket
  queuedAt : TimestampMicros
deriving DecidableEq

def AcceptedPacket.queued (accepted : AcceptedPacket) : ServerQueuedVideoFrame :=
  queuedFrame (prepareVideoFrameInput accepted.packet) accepted.queuedAt

def AcceptedPacket.clientId (accepted : AcceptedPacket) : ClientId := accepted.packet.frame.clientId

def SwitcherLiveTwoViewQueueSourceItem.accepted :
    SwitcherLiveTwoViewQueueSourceItem → Option AcceptedPacket
  | .acceptedVideoFrame packet queuedAt => some ⟨packet, queuedAt⟩
  | _ => none

/-- One queue that was given these packets and nothing else. -/
def queueOf (policy : ServerVideoFrameQueuePolicy) (packets : List AcceptedPacket) :
    ServerVideoFrameQueueState :=
  packets.foldl
    (fun state accepted => (storeFrame state (prepareVideoFrameInput accepted.packet) accepted.queuedAt policy).1)
    .empty

theorem queueOf_concat (policy : ServerVideoFrameQueuePolicy) (packets : List AcceptedPacket)
    (accepted : AcceptedPacket) :
    queueOf policy (packets ++ [accepted]) =
      (storeFrame (queueOf policy packets) (prepareVideoFrameInput accepted.packet) accepted.queuedAt
        policy).1 := by
  simp [queueOf]

/-- Evicting from a window over the end of a list makes room for one more. -/
theorem evictOldest_rtake (policy : ServerVideoFrameQueuePolicy) (frames : List ServerQueuedVideoFrame)
    (queued : ServerQueuedVideoFrame) (hmax : policy.maxFramesPerClient ≠ 0) :
    (evictOldest policy (frames.rtake policy.maxFramesPerClient)).2 ++ [queued] =
      (frames ++ [queued]).rtake policy.maxFramesPerClient := by
  obtain ⟨room, hroom⟩ : ∃ room, policy.maxFramesPerClient = room + 1 :=
    Nat.exists_eq_succ_of_ne_zero hmax
  unfold evictOldest
  rw [hroom, List.rtake_concat_succ]
  congr 1
  have hlen : (frames.rtake (room + 1)).length = frames.length - (frames.length - (room + 1)) := by
    rw [List.rtake, List.length_drop]
  by_cases hlong : room + 1 ≤ frames.length
  · rw [if_pos (by omega)]
    simp only [List.rtake, List.tail_drop]
    congr 1
    omega
  · rw [if_neg (by omega)]
    simp only [List.rtake]
    congr 1
    omega

/-- Drop-oldest keeps the newest frames of each client, and nothing else. -/
theorem framesForClient_queueOf (policy : ServerVideoFrameQueuePolicy) (packets : List AcceptedPacket)
    (clientId : ClientId) :
    (queueOf policy packets).framesForClient clientId =
      ((packets.filter fun accepted => accepted.clientId = clientId).map AcceptedPacket.queued).rtake
        policy.maxFramesPerClient := by
  induction packets using List.reverseRecOn with
  | nil =>
    simp only [queueOf, framesForClient, List.foldl_nil, List.filter_nil, List.map_nil, List.rtake_nil]
    rfl
  | append_singleton packets accepted ih =>
    rw [queueOf_concat]
    by_cases hmax : policy.maxFramesPerClient = 0
    · rw [hmax, List.rtake_zero] at ih ⊢
      rw [storeFrame, if_pos hmax]
      exact ih
    by_cases hc : accepted.clientId = clientId
    · subst hc
      have hstore := ServerVideoFrameQueueState.framesForClient_storeFrame (queueOf policy packets)
        (prepareVideoFrameInput accepted.packet) accepted.queuedAt hmax
      have hself : (packets ++ [accepted]).filter (fun other => other.clientId = accepted.clientId) =
          packets.filter (fun other => other.clientId = accepted.clientId) ++ [accepted] := by simp
      rw [hself, List.map_append, List.map_singleton, ← evictOldest_rtake policy _ _ hmax, ← ih]
      exact hstore
    · have hother := framesByClientId_storeFrame (queueOf policy packets)
        (prepareVideoFrameInput accepted.packet) accepted.queuedAt policy (d := clientId) (Ne.symm hc)
      have hskip : (packets ++ [accepted]).filter (fun other => other.clientId = clientId) =
          packets.filter (fun other => other.clientId = clientId) := by simp [hc]
      rw [hskip, ← ih, framesForClient, hother]
      rfl

namespace LiveIngest

variable (policy : ServerVideoFrameQueuePolicy)

theorem observe_ended (ingest : LiveIngest) (item : SwitcherLiveTwoViewQueueSourceItem) :
    (ingest.observe policy item).ended = (ingest.ended || item = .endOfInput) := by
  cases item <;> simp [observe]

theorem observe_queueState (ingest : LiveIngest) (item : SwitcherLiveTwoViewQueueSourceItem)
    {packets : List AcceptedPacket} (hq : ingest.queueState = queueOf policy packets) :
    (ingest.observe policy item).queueState = queueOf policy (packets ++ item.accepted.toList) := by
  cases item with
  | acceptedVideoFrame packet queuedAt =>
    have hone : packets ++ (SwitcherLiveTwoViewQueueSourceItem.acceptedVideoFrame packet
        queuedAt).accepted.toList = packets ++ [⟨packet, queuedAt⟩] := rfl
    rw [hone, queueOf_concat, ← hq]
    rfl
  | _ => simpa [observe, SwitcherLiveTwoViewQueueSourceItem.accepted] using hq

end LiveIngest

section

variable {σ : Type} (receiveNext : LiveTwoViewQueueSource σ)

/-- The items one ingestion loop takes from the source, and the source it leaves. -/
def takeItems : Nat → σ → List SwitcherLiveTwoViewQueueSourceItem × σ
  | 0, source => ([], source)
  | maxPackets + 1, source =>
    let (item, source) := receiveNext source
    if item = .endOfInput then ([item], source)
    else
      let later := takeItems maxPackets source
      (item :: later.1, later.2)

theorem ingestPackets_eq (policy : ServerVideoFrameQueuePolicy) (maxPackets : Nat) (source : σ)
    {ingest : LiveIngest} (hrun : ingest.ended = false) {packets : List AcceptedPacket}
    (hq : ingest.queueState = queueOf policy packets) :
    (ingestPackets receiveNext policy maxPackets ingest source).1.queueState =
        queueOf policy (packets ++ (takeItems receiveNext maxPackets source).1.filterMap (·.accepted)) ∧
      (ingestPackets receiveNext policy maxPackets ingest source).2 =
        (takeItems receiveNext maxPackets source).2 := by
  induction maxPackets generalizing ingest source packets with
  | zero => simpa [ingestPackets, takeItems] using hq
  | succ maxPackets ih =>
    have hended := LiveIngest.observe_ended policy ingest (receiveNext source).1
    have hqueue := LiveIngest.observe_queueState policy ingest (receiveNext source).1 hq
    rw [hrun, Bool.false_or] at hended
    simp only [ingestPackets, takeItems]
    by_cases hend : (receiveNext source).1 = .endOfInput
    · have hstop : (ingest.observe policy (receiveNext source).1).ended = true := by
        rw [hended]
        exact decide_eq_true hend
      simp only [hstop, if_true, if_pos hend]
      refine ⟨?_, trivial⟩
      rw [hqueue, hend]
      rfl
    · have hgo : (ingest.observe policy (receiveNext source).1).ended = false := by simp [hended, hend]
      simp only [hgo, hend, if_false, Bool.false_eq_true]
      obtain ⟨hstate, hsource⟩ := ih (receiveNext source).2 hgo hqueue
      refine ⟨?_, hsource⟩
      rw [hstate]
      congr 1
      cases h : (receiveNext source).1.accepted <;> simp [h]

/-- The source a tick starts from. -/
def sourceAt (maxPackets : Nat) : Nat → σ → σ
  | 0, source => source
  | tick + 1, source => sourceAt maxPackets tick (takeItems receiveNext maxPackets source).2

/-- The packets accepted in one tick of a run. -/
def acceptedInTick (maxPackets : Nat) (source : σ) (tick : Nat) : List AcceptedPacket :=
  (takeItems receiveNext maxPackets (sourceAt receiveNext maxPackets tick source)).1.filterMap (·.accepted)

end

/-- What a pipeline pass shows of its selection: the shared target time and both sides. -/
def SwitcherLiveTwoViewPipelineSummary.selectionSides (summary : SwitcherLiveTwoViewPipelineSummary) :
    TimestampMicros × SwitcherJitterBufferSelectionResult × SwitcherJitterBufferSelectionResult :=
  (summary.sharedTargetTime, summary.left.selection, summary.right.selection)

section

variable {σ δ : Type} (receiveNext : LiveTwoViewQueueSource σ) (runtimes : LiveTwoViewRuntimes δ)

/-- Whatever the decoder says, a side keeps the selection it was decoded from. -/
theorem selection_decodeLiveSide (selection : SwitcherJitterBufferSelectionResult) (runtime : δ) :
    (decodeLiveSide runtimes selection runtime).1.selection = selection := by
  unfold decodeLiveSide
  split
  next selected =>
    split
    next => rfl
    next => rfl
    next => rfl
  next => rfl

theorem selectionSides_runPipelineOnce (queueState : ServerVideoFrameQueueState)
    (leftClientId rightClientId : ClientId) (policy : SwitcherLiveTwoViewRuntimePolicy) (runtime : δ) :
    (runPipelineOnce runtimes queueState leftClientId rightClientId policy
        runtime).1.summary.selectionSides =
      twoViewSelectionSides (selectPair ⟨queueState, leftClientId, rightClientId,
        policy.currentSwitcherTime, policy.selection⟩) := by
  simp only [runPipelineOnce, SwitcherLiveTwoViewPipelineSummary.selectionSides,
    selection_decodeLiveSide]

namespace SwitcherContinuousTwoViewScheduling

variable (leftClientId rightClientId : ClientId) (policy : SwitcherContinuousTwoViewSchedulingPolicy)

/-- What a tick has to select when it may use these packets and no others. -/
def selectionFrom (packets : List AcceptedPacket) (tick : Nat) :
    TimestampMicros × SwitcherJitterBufferSelectionResult × SwitcherJitterBufferSelectionResult :=
  twoViewSelectionSides (selectPair ⟨queueOf policy.liveRuntime.queue packets, leftClientId,
    rightClientId, tickTime policy tick, policy.liveRuntime.selection⟩)

theorem runTick_eq (tick : Nat) (source : σ) (runtime : δ) :
    let here := runTick receiveNext runtimes leftClientId rightClientId policy tick source runtime
    here.1.tick = tick ∧
      here.1.runtime.queueState =
        queueOf policy.liveRuntime.queue
          (acceptedInTick receiveNext policy.liveRuntime.maxPackets source 0) ∧
      here.1.runtime.pipeline.summary.selectionSides =
        selectionFrom leftClientId rightClientId policy
          (acceptedInTick receiveNext policy.liveRuntime.maxPackets source 0) tick ∧
      here.2.1 = sourceAt receiveNext policy.liveRuntime.maxPackets 1 source := by
  have hrun : LiveIngest.start.ended = false := rfl
  have hempty : LiveIngest.start.queueState = queueOf policy.liveRuntime.queue [] := rfl
  obtain ⟨hstate, hsource⟩ := ingestPackets_eq receiveNext policy.liveRuntime.queue
    policy.liveRuntime.maxPackets source hrun hempty
  refine ⟨rfl, hstate, ?_, hsource⟩
  have hsides : (runTick receiveNext runtimes leftClientId rightClientId policy tick source
      runtime).1.runtime.pipeline.summary.selectionSides =
        twoViewSelectionSides (selectPair ⟨(ingestPackets receiveNext policy.liveRuntime.queue
          policy.liveRuntime.maxPackets .start source).1.queueState, leftClientId, rightClientId,
          tickTime policy tick, policy.liveRuntime.selection⟩) :=
    selectionSides_runPipelineOnce runtimes _ leftClientId rightClientId _ runtime
  rw [hsides, hstate]
  rfl

theorem runFrom_succ (remaining first : Nat) (summary : SwitcherContinuousTwoViewSchedulingSummary)
    (source : σ) (runtime : δ) :
    runFrom receiveNext runtimes leftClientId rightClientId policy (remaining + 1) first summary source
        runtime =
      if policy.maxRenderedFrames ≤ summary.renderedFrames then ⟨[], summary, .maxRenderedFramesReached⟩
      else
        let here := runTick receiveNext runtimes leftClientId rightClientId policy first source runtime
        if here.1.sourceEnded then ⟨[here.1], summary.countTick here.1, .sourceEnded⟩
        else
          let later := runFrom receiveNext runtimes leftClientId rightClientId policy remaining
            (first + 1) (summary.countTick here.1) here.2.1 here.2.2
          { later with ticks := here.1 :: later.ticks } := rfl

/-- A tick in the list of a run from `first` on is made from the packets of its own turn. -/
theorem runFrom_ticks (remaining first : Nat) (summary : SwitcherContinuousTwoViewSchedulingSummary)
    (source : σ) (runtime : δ) {i : Nat} {here : SwitcherContinuousTwoViewSchedulingTick}
    (hi : (runFrom receiveNext runtimes leftClientId rightClientId policy remaining first summary source
      runtime).ticks[i]? = some here) :
    here.tick = first + i ∧
      here.runtime.queueState =
        queueOf policy.liveRuntime.queue
          (acceptedInTick receiveNext policy.liveRuntime.maxPackets source i) ∧
      here.runtime.pipeline.summary.selectionSides =
        selectionFrom leftClientId rightClientId policy
          (acceptedInTick receiveNext policy.liveRuntime.maxPackets source i) (first + i) := by
  induction remaining generalizing first summary source runtime i with
  | zero => simp [runFrom] at hi
  | succ remaining ih =>
    obtain ⟨htick, hqueue, hsides, hsource⟩ :=
      runTick_eq receiveNext runtimes leftClientId rightClientId policy first source runtime
    rw [runFrom_succ] at hi
    split at hi
    next => simp at hi
    next =>
      dsimp only at hi
      cases i with
      | zero =>
        have hhere : (runTick receiveNext runtimes leftClientId rightClientId policy first source
            runtime).1 = here := by
          split at hi
          next => simpa using hi
          next => simpa using hi
        rw [← hhere]
        exact ⟨htick, hqueue, hsides⟩
      | succ i =>
        split at hi
        next => simp at hi
        next =>
          rw [List.getElem?_cons_succ, hsource] at hi
          have hlater := ih _ _ _ _ hi
          rw [show first + (i + 1) = first + 1 + i by omega]
          exact hlater

/-- Every tick of a run selects what `select_pair` selects at its time from the given packets. -/
def EachTickSelectsFrom (packetsOf : Nat → List AcceptedPacket)
    (result : SwitcherContinuousTwoViewSchedulingResult) : Prop :=
  ∀ (i : Nat) (here : SwitcherContinuousTwoViewSchedulingTick), result.ticks[i]? = some here →
    here.runtime.pipeline.summary.selectionSides =
      selectionFrom leftClientId rightClientId policy (packetsOf i) i

/-- In every tick a client's queue is the newest of the frames accepted for it from the given packets. -/
def EachTickQueuesNewestOf (packetsOf : Nat → List AcceptedPacket)
    (result : SwitcherContinuousTwoViewSchedulingResult) : Prop :=
  ∀ (i : Nat) (here : SwitcherContinuousTwoViewSchedulingTick), result.ticks[i]? = some here →
    ∀ clientId : ClientId, here.runtime.queueState.framesForClient clientId =
      (((packetsOf i).filter fun accepted => accepted.clientId = clientId).map
        AcceptedPacket.queued).rtake policy.liveRuntime.queue.maxFramesPerClient

/-- The packets accepted in a run up to and in a tick. -/
def acceptedUpToTick (maxPackets : Nat) (source : σ) (tick : Nat) : List AcceptedPacket :=
  (List.range (tick + 1)).flatMap (acceptedInTick receiveNext maxPackets source)

/-- The jitter buffer lasts one tick: each tick selects from the frames accepted in it. -/
theorem runWithRuntimes_selects_within_tick (source : σ) (runtime : δ) :
    let result := runWithRuntimes receiveNext runtimes leftClientId rightClientId policy source runtime
    EachTickSelectsFrom leftClientId rightClientId policy
        (acceptedInTick receiveNext policy.liveRuntime.maxPackets source) result ∧
      EachTickQueuesNewestOf policy
        (acceptedInTick receiveNext policy.liveRuntime.maxPackets source) result := by
  constructor
  · intro i here hi
    obtain ⟨_, _, hsides⟩ := runFrom_ticks receiveNext runtimes leftClientId rightClientId policy
      policy.maxTicks 0 .default source runtime hi
    rw [Nat.zero_add] at hsides
    exact hsides
  · intro i here hi clientId
    obtain ⟨_, hqueue, _⟩ := runFrom_ticks receiveNext runtimes leftClientId rightClientId policy
      policy.maxTicks 0 .default source runtime hi
    rw [hqueue, framesForClient_queueOf]

end SwitcherContinuousTwoViewScheduling

end

namespace SwitcherContinuousTwoViewScheduling

/-- A source that hands out a list and then ends. -/
def listSource : LiveTwoViewQueueSource (List SwitcherLiveTwoViewQueueSourceItem)
  | [] => (.endOfInput, [])
  | item :: items => (item, items)

/-- Runtimes that neither decode nor show anything. -/
def idleRuntimes : LiveTwoViewRuntimes Unit where
  decode _ _ := (.deferred .ffmpegUnavailable, ())
  present _ _ _ := ((.empty, .noFrames), ())

/-- One frame of each client in the first tick, and nothing in the second. -/
def earlyArrivals : List SwitcherLiveTwoViewQueueSourceItem :=
  [.acceptedVideoFrame (sampleFrame "l" "r1" 1 true).registeredPacket 10,
    .acceptedVideoFrame (sampleFrame "r" "r1" 1 true).registeredPacket 10, .timeout, .timeout]

/-- Frames become due one tick after the tick that received them. -/
def delayedPolicy : SwitcherContinuousTwoViewSchedulingPolicy :=
  ⟨2, 2, 100, ⟨2, 100, ⟨100, none, none, 0, 0, 1⟩, ⟨8⟩⟩⟩

theorem countTick_renderedFrames_le (summary : SwitcherContinuousTwoViewSchedulingSummary)
    (here : SwitcherContinuousTwoViewSchedulingTick) :
    (summary.countTick here).renderedFrames ≤ summary.renderedFrames + 1 := by
  show (summary.countOutcome here.outcome).renderedFrames ≤ summary.renderedFrames + 1
  cases here.outcome <;> simp [SwitcherContinuousTwoViewSchedulingSummary.countOutcome]

theorem earlyArrivals_second_tick : ∃ here,
    (runWithRuntimes listSource idleRuntimes "l" "r" delayedPolicy earlyArrivals ()).ticks[1]? =
      some here := by
  have hcount := countTick_renderedFrames_le .default
    (runTick listSource idleRuntimes "l" "r" delayedPolicy 0 earlyArrivals ()).1
  have hzero : SwitcherContinuousTwoViewSchedulingSummary.default.renderedFrames = 0 := rfl
  have htwo : delayedPolicy.maxRenderedFrames = 2 := rfl
  have hgo : (runTick listSource idleRuntimes "l" "r" delayedPolicy 0 earlyArrivals ()).1.sourceEnded =
      false := rfl
  unfold runWithRuntimes
  rw [show delayedPolicy.maxTicks = 1 + 1 from rfl, runFrom_succ, if_neg (by omega)]
  dsimp only
  rw [hgo, if_neg Bool.false_ne_true, List.getElem?_cons_succ, runFrom_succ, if_neg (by omega)]
  dsimp only
  split
  next => exact ⟨_, rfl⟩
  next => exact ⟨_, rfl⟩

theorem selectionFrom_left (leftClientId rightClientId : ClientId)
    (policy : SwitcherContinuousTwoViewSchedulingPolicy) (packets : List AcceptedPacket) (tick : Nat) :
    (selectionFrom leftClientId rightClientId policy packets tick).2.1 =
      selectFrameAtTargetTime
        (((((packets.filter fun accepted => accepted.clientId = leftClientId).map
          AcceptedPacket.queued).rtake policy.liveRuntime.queue.maxFramesPerClient)).map .ofQueued)
        leftClientId
        (policy.liveRuntime.selection.perClientPolicy policy.liveRuntime.selection.leftClockOffsetMicros)
        (calculateTargetTime (tickTime policy tick) policy.liveRuntime.selection.playoutDelayMicros
          none) := by
  rw [selectionFrom, twoViewSelectionSides_selectPair]
  simp only [selectSide, framesForClient_queueOf]

/-- A frame that becomes due one tick later is gone by then. -/
theorem runWithRuntimes_not_accumulating :
    ¬ ∀ (σ δ : Type) (receiveNext : LiveTwoViewQueueSource σ) (runtimes : LiveTwoViewRuntimes δ)
      (leftClientId rightClientId : ClientId) (policy : SwitcherContinuousTwoViewSchedulingPolicy)
      (source : σ) (runtime : δ),
      EachTickSelectsFrom leftClientId rightClientId policy
        (acceptedUpToTick receiveNext policy.liveRuntime.maxPackets source)
        (runWithRuntimes receiveNext runtimes leftClientId rightClientId policy source runtime) := by
  intro h
  obtain ⟨here, hhere⟩ := earlyArrivals_second_tick
  have hclaimed := h _ _ listSource idleRuntimes "l" "r" delayedPolicy earlyArrivals () 1 here hhere
  obtain ⟨_, _, hown⟩ := runFrom_ticks listSource idleRuntimes "l" "r" delayedPolicy
    delayedPolicy.maxTicks 0 .default earlyArrivals () hhere
  have hsame := congrArg (fun sides => sides.2.1) (hclaimed.symm.trans hown)
  rw [selectionFrom_left, selectionFrom_left] at hsame
  revert hsame
  decide

end SwitcherContinuousTwoViewScheduling

end StreamSync
