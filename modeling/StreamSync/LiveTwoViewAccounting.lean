import StreamSync.LiveTwoViewTicks
import StreamSync.TwoViewComposition

namespace StreamSync

def liveSideToLayoutInput (side : SwitcherTwoViewSide) :
    SwitcherLiveTwoViewSidePipelineStatus → SwitcherTwoViewLayoutSideInput
  | .decoded selected frame => .decoded side (some selected) frame
  | .selectionUnavailable _ => .skipped side .skippedSelectionUnavailable
  | .decodeDeferred _ _ => .skipped side .decodeDeferred
  | .decodeFailed _ _ => .skipped side .decodeFailed

def liveCompositionKind : SwitcherTwoViewCompositionResult → SwitcherLiveTwoViewCompositionKind
  | .bothComposed _ => .both
  | .leftOnly _ _ => .leftOnly
  | .rightOnly _ _ => .rightOnly
  | .emptyPlaceholder _ _ => .empty
  | .invalidDimensions _ => .empty

/-- What rendering a canvas comes to, without the data beside it. -/
inductive SwitcherTwoViewComposedCanvasRenderResult where
  | rendered | renderDeferred | backendUnavailable | invalidComposedFrame | renderFailed
deriving DecidableEq, Repr

section Present

variable {δ : Type} (render : SwitcherTwoViewComposedFrame → δ → SwitcherTwoViewComposedCanvasRenderResult × δ)

def renderLiveComposition (frame : SwitcherTwoViewComposedFrame) (kind : SwitcherLiveTwoViewRenderedKind)
    (runtime : δ) : SwitcherLiveTwoViewPipelineEnd × δ :=
  match render frame runtime with
  | (.rendered, runtime) => (.rendered kind, runtime)
  | (.renderDeferred, runtime) => (.renderDeferred, runtime)
  | (.backendUnavailable, runtime) => (.backendUnavailable, runtime)
  | (.invalidComposedFrame, runtime) => (.invalidComposedFrame, runtime)
  | (.renderFailed, runtime) => (.renderFailed, runtime)

/-- The part of `run_pipeline_once` behind the decoder. -/
def presentComposed (policy : SwitcherTwoViewLayoutPolicy) (left right : SwitcherLiveTwoViewSidePipelineStatus)
    (runtime : δ) : (SwitcherLiveTwoViewCompositionKind × SwitcherLiveTwoViewPipelineEnd) × δ :=
  let input : SwitcherTwoViewCompositionInput :=
    ⟨liveSideToLayoutInput .left left, liveSideToLayoutInput .right right, policy⟩
  let composition := (composeSideBySide input).get (Option.isSome_iff_ne_none.mpr (composeSideBySide_ne_none input))
  let ended (outcome : SwitcherLiveTwoViewPipelineEnd × δ) :=
    ((liveCompositionKind composition, outcome.1), outcome.2)
  match composition with
  | .bothComposed frame => ended (renderLiveComposition render frame .both runtime)
  | .leftOnly frame _ => ended (renderLiveComposition render frame .leftOnly runtime)
  | .rightOnly frame _ => ended (renderLiveComposition render frame .rightOnly runtime)
  | .emptyPlaceholder _ _ => ended (.noFrames, runtime)
  | .invalidDimensions _ => ended (.compositionInvalid, runtime)

/-- The runtimes of the switcher: composition is its own, the decoder and the window are given. -/
def composingRuntimes (decode : H264DecodeRuntime δ) (policy : SwitcherTwoViewLayoutPolicy) :
    LiveTwoViewRuntimes δ :=
  ⟨decode, presentComposed render policy⟩

end Present

/-- Everything but a failed receive is observed as a packet, and the end of the input ends the loop. -/
def SwitcherLiveTwoViewQueueSourceItem.observed : SwitcherLiveTwoViewQueueSourceItem → Bool
  | .receiveFailed _ => false
  | .endOfInput => false
  | _ => true

section Ingest

variable {σ : Type} (receiveNext : LiveTwoViewQueueSource σ)

theorem packetsObserved_observe (policy : ServerVideoFrameQueuePolicy) (ingest : LiveIngest)
    (item : SwitcherLiveTwoViewQueueSourceItem) :
    (ingest.observe policy item).packetsObserved = ingest.packetsObserved + if item.observed then 1 else 0 := by
  cases item <;> rfl

/-- What one ingestion loop counts of the items it takes. -/
theorem ingestPackets_counts (policy : ServerVideoFrameQueuePolicy) (maxPackets : Nat) (source : σ)
    {ingest : LiveIngest} (hrun : ingest.ended = false) :
    (ingestPackets receiveNext policy maxPackets ingest source).1.packetsObserved =
        ingest.packetsObserved + (takeItems receiveNext maxPackets source).1.countP (·.observed) ∧
      (ingestPackets receiveNext policy maxPackets ingest source).1.ended =
        decide (.endOfInput ∈ (takeItems receiveNext maxPackets source).1) := by
  induction maxPackets generalizing ingest source with
  | zero => simpa [ingestPackets, takeItems] using hrun
  | succ maxPackets ih =>
    have hended := LiveIngest.observe_ended policy ingest (receiveNext source).1
    have hpackets := packetsObserved_observe policy ingest (receiveNext source).1
    rw [hrun, Bool.false_or] at hended
    simp only [ingestPackets, takeItems]
    by_cases hend : (receiveNext source).1 = .endOfInput
    · have hstop : (ingest.observe policy (receiveNext source).1).ended = true := by
        rw [hended]
        exact decide_eq_true hend
      simp only [hstop, if_true, if_pos hend]
      refine ⟨?_, ?_⟩
      · rw [hpackets, hend]
        rfl
      · rw [hend]
        simp
    · have hgo : (ingest.observe policy (receiveNext source).1).ended = false := by simp [hended, hend]
      simp only [hgo, hend, if_false, Bool.false_eq_true]
      obtain ⟨hlater, hlaterEnded⟩ := ih (receiveNext source).2 hgo
      refine ⟨?_, ?_⟩
      · rw [hlater, hpackets, List.countP_cons]
        omega
      · rw [hlaterEnded]
        simp [List.mem_cons, Ne.symm hend]

/-- A loop takes as many items as it may, unless it meets the end of the input. -/
theorem length_takeItems (maxPackets : Nat) (source : σ) :
    (takeItems receiveNext maxPackets source).1.length ≤ maxPackets ∧
      (.endOfInput ∉ (takeItems receiveNext maxPackets source).1 →
        (takeItems receiveNext maxPackets source).1.length = maxPackets) := by
  induction maxPackets generalizing source with
  | zero => simp [takeItems]
  | succ maxPackets ih =>
    simp only [takeItems]
    by_cases hend : (receiveNext source).1 = .endOfInput
    · rw [if_pos hend, hend]
      simp
    · rw [if_neg hend]
      obtain ⟨hle, hall⟩ := ih (receiveNext source).2
      refine ⟨Nat.succ_le_succ hle, fun hnot => congrArg Nat.succ (hall fun hmem => ?_)⟩
      exact hnot (List.mem_cons_of_mem _ hmem)

/-- With every receive a success, the guard stops the loop when it took all the items it may and none of
them was the end of the input. -/
theorem stoppedByGuard_iff (policy : ServerVideoFrameQueuePolicy) (maxPackets : Nat) (source : σ)
    (leftClientId rightClientId : ClientId)
    (hreceived : ∀ message, .receiveFailed message ∉ (takeItems receiveNext maxPackets source).1) :
    ((ingestPackets receiveNext policy maxPackets .start source).1.summary maxPackets leftClientId
        rightClientId).stoppedByGuard = true ↔
      (takeItems receiveNext maxPackets source).1.length = maxPackets ∧
        .endOfInput ∉ (takeItems receiveNext maxPackets source).1 := by
  obtain ⟨hpackets, hended⟩ :=
    ingestPackets_counts receiveNext policy maxPackets source (show LiveIngest.start.ended = false from rfl)
  obtain ⟨-, hall⟩ := length_takeItems receiveNext maxPackets source
  have hzero : LiveIngest.start.packetsObserved = 0 := rfl
  simp only [LiveIngest.summary, Bool.and_eq_true, Bool.not_eq_true', decide_eq_true_eq, hpackets, hended,
    decide_eq_false_iff_not, hzero, Nat.zero_add]
  constructor
  · rintro ⟨hgoes, -⟩
    exact ⟨hall hgoes, hgoes⟩
  · rintro ⟨hlength, hgoes⟩
    refine ⟨hgoes, ?_⟩
    have hobserved : ∀ item ∈ (takeItems receiveNext maxPackets source).1, item.observed = true := by
      intro item hitem
      cases item with
      | receiveFailed message => exact absurd hitem (hreceived message)
      | endOfInput => exact absurd hitem hgoes
      | _ => rfl
    rw [List.countP_eq_length.mpr hobserved, hlength]

end Ingest

namespace SwitcherContinuousTwoViewSchedulingTick

/-- The tick's canvas was rendered. -/
def canvasRendered (tick : SwitcherContinuousTwoViewSchedulingTick) : Bool :=
  match tick.runtime.pipeline.pipelineEnd with
  | .rendered _ => true
  | _ => false

/-- The tick's canvas was rendered and no side of it failed to decode. -/
def shown (tick : SwitcherContinuousTwoViewSchedulingTick) : Bool :=
  tick.canvasRendered && !liveSummaryHasDecodeFailure tick.runtime.pipeline.summary

end SwitcherContinuousTwoViewSchedulingTick

def shownTicks (ticks : List SwitcherContinuousTwoViewSchedulingTick) : Nat := ticks.countP (·.shown)

theorem shownTicks_cons (here : SwitcherContinuousTwoViewSchedulingTick)
    (ticks : List SwitcherContinuousTwoViewSchedulingTick) :
    shownTicks (here :: ticks) = (if here.shown then 1 else 0) + shownTicks ticks := by
  rw [shownTicks, List.countP_cons, Nat.add_comm]
  rfl

def outcomeTicks (outcome : SwitcherContinuousTwoViewTickOutcome)
    (ticks : List SwitcherContinuousTwoViewSchedulingTick) : Nat :=
  ticks.countP (·.outcome = outcome)

namespace SwitcherContinuousTwoViewSchedulingSummary

/-- The counter of an outcome. -/
def outcomeCount (summary : SwitcherContinuousTwoViewSchedulingSummary) :
    SwitcherContinuousTwoViewTickOutcome → Nat
  | .renderedBoth => summary.renderedBoth
  | .renderedPartial => summary.renderedPartial
  | .noFrames => summary.noFrameTicks
  | .decodeFailed => summary.decodeFailedTicks
  | .renderNotCompleted => summary.renderNotCompletedTicks

/-- The counters say how many ticks there were, and how many with each outcome. -/
structure Counts (summary : SwitcherContinuousTwoViewSchedulingSummary)
    (ticks : List SwitcherContinuousTwoViewSchedulingTick) : Prop where
  ticksProcessed : summary.ticksProcessed = ticks.length
  renderedFrames : summary.renderedFrames = summary.renderedBoth + summary.renderedPartial
  outcomes : ∀ outcome, summary.outcomeCount outcome = outcomeTicks outcome ticks

theorem counts_default : Counts .default [] := ⟨rfl, rfl, fun outcome => by cases outcome <;> rfl⟩

section Step

variable (summary : SwitcherContinuousTwoViewSchedulingSummary)
  (here : SwitcherContinuousTwoViewSchedulingTick) {ticks : List SwitcherContinuousTwoViewSchedulingTick}

theorem outcomeTicks_concat (outcome : SwitcherContinuousTwoViewTickOutcome) :
    outcomeTicks outcome (ticks ++ [here]) =
      outcomeTicks outcome ticks + if here.outcome = outcome then 1 else 0 := by
  simp [outcomeTicks, List.countP_append, List.countP_singleton]

theorem outcomeCount_countOutcome (reached outcome : SwitcherContinuousTwoViewTickOutcome) :
    (summary.countOutcome reached).outcomeCount outcome =
      summary.outcomeCount outcome + if reached = outcome then 1 else 0 := by
  cases reached <;> cases outcome <;> rfl

/-- A tick is counted under its outcome, and under no other. -/
theorem outcomeCount_countTick (outcome : SwitcherContinuousTwoViewTickOutcome) :
    (summary.countTick here).outcomeCount outcome =
      summary.outcomeCount outcome + if here.outcome = outcome then 1 else 0 := by
  rw [← outcomeCount_countOutcome]
  cases outcome <;> rfl

theorem renderedFrames_countTick (h : summary.renderedFrames = summary.renderedBoth + summary.renderedPartial) :
    (summary.countTick here).renderedFrames =
      (summary.countTick here).renderedBoth + (summary.countTick here).renderedPartial := by
  show (summary.countOutcome here.outcome).renderedFrames =
    (summary.countOutcome here.outcome).renderedBoth + (summary.countOutcome here.outcome).renderedPartial
  cases here.outcome <;> simp only [countOutcome] <;> omega

theorem Counts.countTick {summary : SwitcherContinuousTwoViewSchedulingSummary} (h : summary.Counts ticks) :
    (summary.countTick here).Counts (ticks ++ [here]) where
  ticksProcessed := by
    rw [List.length_append, List.length_singleton, ← h.ticksProcessed]
    rfl
  renderedFrames := renderedFrames_countTick summary here h.renderedFrames
  outcomes outcome := by rw [outcomeCount_countTick, outcomeTicks_concat, h.outcomes]

end Step

theorem Counts.foldl {summary : SwitcherContinuousTwoViewSchedulingSummary}
    {done ticks : List SwitcherContinuousTwoViewSchedulingTick} (h : summary.Counts done) :
    (ticks.foldl SwitcherContinuousTwoViewSchedulingSummary.countTick summary).Counts (done ++ ticks) := by
  induction ticks generalizing summary done with
  | nil => rwa [List.append_nil]
  | cons here ticks ih =>
    have hlater := ih (h.countTick here)
    rwa [List.append_assoc, List.singleton_append] at hlater

/-- Every tick has one of the outcomes. -/
theorem length_eq_outcomeTicks (ticks : List SwitcherContinuousTwoViewSchedulingTick) :
    outcomeTicks .renderedBoth ticks + outcomeTicks .renderedPartial ticks + outcomeTicks .noFrames ticks +
        outcomeTicks .decodeFailed ticks + outcomeTicks .renderNotCompleted ticks = ticks.length := by
  induction ticks with
  | nil => rfl
  | cons here ticks ih =>
    simp only [outcomeTicks, List.countP_cons, List.length_cons] at ih ⊢
    cases here.outcome <;> simp <;> omega

theorem Counts.sum {summary : SwitcherContinuousTwoViewSchedulingSummary}
    {ticks : List SwitcherContinuousTwoViewSchedulingTick} (h : summary.Counts ticks) :
    summary.renderedBoth + summary.renderedPartial + summary.noFrameTicks + summary.decodeFailedTicks +
      summary.renderNotCompletedTicks = summary.ticksProcessed := by
  rw [h.ticksProcessed, ← length_eq_outcomeTicks ticks, ← h.outcomes, ← h.outcomes, ← h.outcomes, ← h.outcomes,
    ← h.outcomes]
  rfl

/-- Where a tick's outcome is that of its pipeline, it counts as a rendered frame when it is shown. -/
theorem renderedFrames_countTick_shown (summary : SwitcherContinuousTwoViewSchedulingSummary)
    {here : SwitcherContinuousTwoViewSchedulingTick}
    (houtcome : here.outcome = continuousTwoViewTickOutcome here.runtime.pipeline) :
    (summary.countTick here).renderedFrames = summary.renderedFrames + if here.shown then 1 else 0 := by
  show (summary.countOutcome here.outcome).renderedFrames = _
  rw [houtcome]
  unfold continuousTwoViewTickOutcome SwitcherContinuousTwoViewSchedulingTick.shown
    SwitcherContinuousTwoViewSchedulingTick.canvasRendered
  cases liveSummaryHasDecodeFailure here.runtime.pipeline.summary with
  | true => simp [countOutcome]
  | false =>
    cases here.runtime.pipeline.pipelineEnd with
    | rendered kind => cases kind <;> rfl
    | _ => rfl

theorem renderedFrames_foldl {summary : SwitcherContinuousTwoViewSchedulingSummary}
    {ticks : List SwitcherContinuousTwoViewSchedulingTick}
    (houtcomes : ∀ here ∈ ticks, here.outcome = continuousTwoViewTickOutcome here.runtime.pipeline) :
    (ticks.foldl SwitcherContinuousTwoViewSchedulingSummary.countTick summary).renderedFrames =
      summary.renderedFrames + shownTicks ticks := by
  induction ticks generalizing summary with
  | nil => rfl
  | cons here ticks ih =>
    obtain ⟨houtcome, hlater⟩ := List.forall_mem_cons.mp houtcomes
    rw [List.foldl_cons, ih hlater, renderedFrames_countTick_shown summary houtcome, shownTicks_cons, Nat.add_assoc]

end SwitcherContinuousTwoViewSchedulingSummary

/-- Each tick of a run ran because no guard had stopped it, and the reason is the guard that did. Here
`rendered` frames were counted before. -/
structure StopsAtGuard (policy : SwitcherContinuousTwoViewSchedulingPolicy) (remaining rendered : Nat)
    (result : SwitcherContinuousTwoViewSchedulingResult) : Prop where
  length_le : result.ticks.length ≤ remaining
  going : ∀ i here, result.ticks[i]? = some here → i + 1 < result.ticks.length → here.sourceEnded = false
  below : ∀ i < result.ticks.length,
    rendered + shownTicks (result.ticks.take i) < policy.maxRenderedFrames
  sourceEnded : result.stopReason = .sourceEnded →
    ∃ here, result.ticks.getLast? = some here ∧ here.sourceEnded = true
  maxRenderedFrames : result.stopReason = .maxRenderedFramesReached →
    (∀ here ∈ result.ticks, here.sourceEnded = false) ∧
      policy.maxRenderedFrames ≤ rendered + shownTicks result.ticks
  maxTicks : result.stopReason = .maxTicksReached →
    (∀ here ∈ result.ticks, here.sourceEnded = false) ∧
      rendered + shownTicks result.ticks < policy.maxRenderedFrames ∧ result.ticks.length = remaining

namespace StopsAtGuard

variable {policy : SwitcherContinuousTwoViewSchedulingPolicy} {remaining rendered : Nat}
  {summary : SwitcherContinuousTwoViewSchedulingSummary} {here : SwitcherContinuousTwoViewSchedulingTick}

/-- The loop ends before a tick when enough frames were rendered. -/
theorem of_limit (hlimit : policy.maxRenderedFrames ≤ rendered) :
    StopsAtGuard policy remaining rendered ⟨[], summary, .maxRenderedFramesReached⟩ where
  length_le := Nat.zero_le _
  going i here hi := by simp at hi
  below i hlt := absurd hlt (Nat.not_lt_zero i)
  sourceEnded hreason := by cases hreason
  maxRenderedFrames _ := ⟨by simp, hlimit⟩
  maxTicks hreason := by cases hreason

/-- The loop ends when no tick is left. -/
theorem of_done (hlimit : rendered < policy.maxRenderedFrames) :
    StopsAtGuard policy 0 rendered ⟨[], summary, .maxTicksReached⟩ where
  length_le := Nat.le_refl _
  going i here hi := by simp at hi
  below i hlt := absurd hlt (Nat.not_lt_zero i)
  sourceEnded hreason := by cases hreason
  maxRenderedFrames hreason := by cases hreason
  maxTicks _ := ⟨by simp, hlimit, rfl⟩

/-- The loop ends after a tick in which the source did. -/
theorem of_ended (hlimit : rendered < policy.maxRenderedFrames) (hended : here.sourceEnded = true) :
    StopsAtGuard policy (remaining + 1) rendered ⟨[here], summary, .sourceEnded⟩ where
  length_le := Nat.succ_le_succ (Nat.zero_le _)
  going i _ _ hlt := absurd hlt (Nat.not_lt.mpr (Nat.succ_le_succ (Nat.zero_le i)))
  below i hlt := by
    obtain rfl : i = 0 := Nat.lt_one_iff.mp hlt
    exact hlimit
  sourceEnded _ := ⟨here, rfl, hended⟩
  maxRenderedFrames hreason := by cases hreason
  maxTicks hreason := by cases hreason

/-- The loop goes on after any other tick. -/
theorem cons {result : SwitcherContinuousTwoViewSchedulingResult} (hlimit : rendered < policy.maxRenderedFrames)
    (hgoes : here.sourceEnded = false)
    (later : StopsAtGuard policy remaining (rendered + if here.shown then 1 else 0) result) :
    StopsAtGuard policy (remaining + 1) rendered { result with ticks := here :: result.ticks } where
  length_le := Nat.succ_le_succ later.length_le
  going i tick hi hlt := by
    cases i with
    | zero =>
      cases hi
      exact hgoes
    | succ i => exact later.going i tick hi (Nat.lt_of_succ_lt_succ hlt)
  below i hlt := by
    cases i with
    | zero => exact hlimit
    | succ i =>
      rw [List.take_succ_cons, shownTicks_cons, ← Nat.add_assoc]
      exact later.below i (Nat.lt_of_succ_lt_succ hlt)
  sourceEnded hreason := by
    obtain ⟨last, hlast, hended⟩ := later.sourceEnded hreason
    exact ⟨last, by rw [List.getLast?_cons, hlast]; rfl, hended⟩
  maxRenderedFrames hreason := by
    obtain ⟨hall, hreached⟩ := later.maxRenderedFrames hreason
    rw [shownTicks_cons, ← Nat.add_assoc]
    exact ⟨List.forall_mem_cons.mpr ⟨hgoes, hall⟩, hreached⟩
  maxTicks hreason := by
    obtain ⟨hall, hnot, hlength⟩ := later.maxTicks hreason
    rw [shownTicks_cons, ← Nat.add_assoc]
    exact ⟨List.forall_mem_cons.mpr ⟨hgoes, hall⟩, hnot, congrArg Nat.succ hlength⟩

/-- A run that starts within the limit stays within it. -/
theorem shownTicks_le {result : SwitcherContinuousTwoViewSchedulingResult}
    (h : StopsAtGuard policy remaining rendered result) (hstart : rendered ≤ policy.maxRenderedFrames) :
    rendered + shownTicks result.ticks ≤ policy.maxRenderedFrames := by
  cases hticks : result.ticks using List.reverseRecOn with
  | nil => exact hstart
  | append_singleton ticks here =>
    have hbelow := h.below ticks.length (by rw [hticks]; simp)
    rw [hticks, List.take_left'] at hbelow
    · have hlast : shownTicks [here] ≤ 1 := by
        rw [shownTicks, List.countP_singleton]
        split <;> omega
      have hsplit : shownTicks (ticks ++ [here]) = shownTicks ticks + shownTicks [here] := List.countP_append
      omega
    · rfl

end StopsAtGuard

namespace SwitcherContinuousTwoViewScheduling

section Run

variable {σ δ : Type} (receiveNext : LiveTwoViewQueueSource σ) (runtimes : LiveTwoViewRuntimes δ)
  (leftClientId rightClientId : ClientId) (policy : SwitcherContinuousTwoViewSchedulingPolicy)

/-- Every tick in the list is a tick run at its time on what the ticks before left of the source. -/
theorem runFrom_getElem? (remaining first : Nat) (summary : SwitcherContinuousTwoViewSchedulingSummary)
    (source : σ) (runtime : δ) {i : Nat} {here : SwitcherContinuousTwoViewSchedulingTick}
    (hi : (runFrom receiveNext runtimes leftClientId rightClientId policy remaining first summary source
      runtime).ticks[i]? = some here) :
    ∃ runtime, here = (runTick receiveNext runtimes leftClientId rightClientId policy (first + i)
      (sourceAt receiveNext policy.liveRuntime.maxPackets i source) runtime).1 := by
  induction remaining generalizing first summary source runtime i with
  | zero => simp [runFrom] at hi
  | succ remaining ih =>
    obtain ⟨-, -, -, hsource⟩ :=
      runTick_eq receiveNext runtimes leftClientId rightClientId policy first source runtime
    rw [runFrom_succ] at hi
    split at hi
    next => simp at hi
    next =>
      dsimp only at hi
      cases i with
      | zero =>
        refine ⟨runtime, ?_⟩
        split at hi
        next => exact (Option.some.inj hi).symm
        next => exact (Option.some.inj hi).symm
      | succ i =>
        split at hi
        next => simp at hi
        next =>
          rw [List.getElem?_cons_succ, hsource] at hi
          rw [show first + (i + 1) = first + 1 + i by omega]
          exact ih _ _ _ _ hi

/-- The counters are those of the ticks in the list. -/
theorem runFrom_summary (remaining first : Nat) (summary : SwitcherContinuousTwoViewSchedulingSummary)
    (source : σ) (runtime : δ) :
    (runFrom receiveNext runtimes leftClientId rightClientId policy remaining first summary source
        runtime).summary =
      (runFrom receiveNext runtimes leftClientId rightClientId policy remaining first summary source
        runtime).ticks.foldl SwitcherContinuousTwoViewSchedulingSummary.countTick summary := by
  induction remaining generalizing first summary source runtime with
  | zero => rfl
  | succ remaining ih =>
    rw [runFrom_succ]
    split
    next => rfl
    next =>
      dsimp only
      split
      next => rfl
      next => exact ih _ _ _ _

theorem runFrom_stopsAtGuard (remaining first : Nat) (summary : SwitcherContinuousTwoViewSchedulingSummary)
    (source : σ) (runtime : δ) :
    StopsAtGuard policy remaining summary.renderedFrames
      (runFrom receiveNext runtimes leftClientId rightClientId policy remaining first summary source
        runtime) := by
  induction remaining generalizing first summary source runtime with
  | zero =>
    unfold runFrom stopAfterTicks
    split
    next hlimit => exact .of_limit hlimit
    next hlimit => exact .of_done (Nat.lt_of_not_le hlimit)
  | succ remaining ih =>
    rw [runFrom_succ]
    split
    next hlimit => exact .of_limit hlimit
    next hlimit =>
      dsimp only
      split
      next hended => exact .of_ended (Nat.lt_of_not_le hlimit) hended
      next hgoes =>
        refine .cons (Nat.lt_of_not_le hlimit) (Bool.eq_false_iff.mpr hgoes) ?_
        rw [← SwitcherContinuousTwoViewSchedulingSummary.renderedFrames_countTick_shown summary rfl]
        exact ih _ _ _ _

/-- Where the sum fits, a tick's time is the start and as many intervals as ticks before it. -/
theorem toNat_tickTime {tick : Nat}
    (hfits : policy.liveRuntime.currentSwitcherTime.toNat + policy.tickIntervalMicros.toNat * tick < UInt64.size) :
    (tickTime policy tick).toNat =
      policy.liveRuntime.currentSwitcherTime.toNat + policy.tickIntervalMicros.toNat * tick := by
  have hsize : UInt64.size = 2 ^ 64 := rfl
  have hproduct : policy.tickIntervalMicros.toNat * (tick % 2 ^ 64) = policy.tickIntervalMicros.toNat * tick := by
    rcases Nat.eq_zero_or_pos policy.tickIntervalMicros.toNat with hzero | hpos
    · rw [hzero, Nat.zero_mul, Nat.zero_mul]
    · have htick : tick ≤ policy.tickIntervalMicros.toNat * tick := Nat.le_mul_of_pos_left tick hpos
      rw [Nat.mod_eq_of_lt (by omega)]
  rw [tickTime, UInt64.toNat_add, UInt64.toNat_mul, UInt64.toNat_ofNat', hproduct, Nat.add_mod_mod,
    Nat.mod_eq_of_lt (by omega)]

/-- The items the tick at a place in the run takes from the source. -/
def itemsOfTick (source : σ) (i : Nat) : List SwitcherLiveTwoViewQueueSourceItem :=
  (takeItems receiveNext policy.liveRuntime.maxPackets
    (sourceAt receiveNext policy.liveRuntime.maxPackets i source)).1

/-- What a run accounts for: its counters, its times, its guards. -/
structure Accounts (source : σ) (result : SwitcherContinuousTwoViewSchedulingResult) : Prop where
  outcomesSum : result.summary.renderedBoth + result.summary.renderedPartial + result.summary.noFrameTicks +
    result.summary.decodeFailedTicks + result.summary.renderNotCompletedTicks = result.summary.ticksProcessed
  outcomes : result.summary.Counts result.ticks
  rendered : result.summary.renderedFrames = shownTicks result.ticks
  bounded : shownTicks result.ticks ≤ policy.maxRenderedFrames
  time : ∀ i here, result.ticks[i]? = some here →
    policy.liveRuntime.currentSwitcherTime.toNat + policy.tickIntervalMicros.toNat * i < UInt64.size →
    here.currentSwitcherTime.toNat =
      policy.liveRuntime.currentSwitcherTime.toNat + policy.tickIntervalMicros.toNat * i
  stop : StopsAtGuard policy policy.maxTicks 0 result
  guard : ∀ i here, result.ticks[i]? = some here →
    (∀ message, .receiveFailed message ∉ itemsOfTick receiveNext policy source i) →
    (here.runtime.queue.stoppedByGuard = true ↔
      (itemsOfTick receiveNext policy source i).length = policy.liveRuntime.maxPackets ∧
        .endOfInput ∉ itemsOfTick receiveNext policy source i)

/-- Every run accounts for its ticks and stops at its guards, whatever the source hands out and the
runtimes do. -/
theorem runWithRuntimes_accounts (source : σ) (runtime : δ) :
    Accounts receiveNext policy source
      (runWithRuntimes receiveNext runtimes leftClientId rightClientId policy source runtime) := by
  unfold runWithRuntimes
  have hsummary := runFrom_summary receiveNext runtimes leftClientId rightClientId policy policy.maxTicks 0
    .default source runtime
  have hstop := runFrom_stopsAtGuard receiveNext runtimes leftClientId rightClientId policy policy.maxTicks 0
    .default source runtime
  have htick {i : Nat} {here : SwitcherContinuousTwoViewSchedulingTick}
      (hi : (runFrom receiveNext runtimes leftClientId rightClientId policy policy.maxTicks 0 .default source
        runtime).ticks[i]? = some here) :=
    runFrom_getElem? receiveNext runtimes leftClientId rightClientId policy policy.maxTicks 0 .default source
      runtime hi
  have hzero : SwitcherContinuousTwoViewSchedulingSummary.default.renderedFrames = 0 := rfl
  have hcounts : (runFrom receiveNext runtimes leftClientId rightClientId policy policy.maxTicks 0 .default source
      runtime).summary.Counts (runFrom receiveNext runtimes leftClientId rightClientId policy policy.maxTicks 0
        .default source runtime).ticks := by
    rw [hsummary]
    exact SwitcherContinuousTwoViewSchedulingSummary.counts_default.foldl
  refine ⟨hcounts.sum, hcounts, ?_, ?_, fun i here hi hfits => ?_, hstop, fun i here hi hreceived => ?_⟩
  · rw [hsummary, SwitcherContinuousTwoViewSchedulingSummary.renderedFrames_foldl, hzero, Nat.zero_add]
    intro here hmem
    obtain ⟨i, hi⟩ := List.getElem?_of_mem hmem
    obtain ⟨_, rfl⟩ := htick hi
    rfl
  · have hbound := hstop.shownTicks_le (Nat.zero_le _)
    rwa [hzero, Nat.zero_add] at hbound
  · obtain ⟨_, rfl⟩ := htick hi
    rw [Nat.zero_add]
    exact toNat_tickTime policy hfits
  · obtain ⟨_, rfl⟩ := htick hi
    exact stoppedByGuard_iff receiveNext policy.liveRuntime.queue policy.liveRuntime.maxPackets _ leftClientId
      rightClientId hreceived

end Run

/-- The canvases a run rendered. -/
def canvasesRendered (result : SwitcherContinuousTwoViewSchedulingResult) : Nat :=
  result.ticks.countP (·.canvasRendered)

def undecodable : SwitcherH264DecodeFailure where
  message := "ffmpeg exited"
  decodeInputPayloadLen := 1
  decodeExpectedWidth := 640
  decodeExpectedHeight := 360
  decodeExpectedPixelFormat := .bgra8
  decodeExpectedRawvideoLen := 921600
  decodedStdoutLen := 0
  ffmpegExitStatus := some 1
  ffmpegStderrSummary := none
  payloadHasSps := false
  payloadHasPps := false
  payloadHasIdr := false
  payloadHasNonIdrVcl := false
  payloadNalKinds := []

/-- A window that shows every canvas, and a decoder that fails on one payload. -/
def failingRuntimes : LiveTwoViewRuntimes Unit :=
  composingRuntimes (fun _ _ => (.rendered, ()))
    (fun input _ =>
      (if input.encodedPayload.contains 0x12 then .failed undecodable else .decoded ⟨1, 1, .bgra8, [1, 2, 3, 4]⟩, ()))
    ⟨(Vector.replicate 3 16).push 255⟩

def failingItem (frameId : UInt64) : SwitcherLiveTwoViewQueueSourceItem :=
  let packet := (sampleFrame "r" "r1" frameId true).registeredPacket
  .acceptedVideoFrame { packet with frame := { packet.frame with payload := [0x12] } } 10

/-- In each of two ticks a frame that is decoded and one that is not. -/
def failingItems : List SwitcherLiveTwoViewQueueSourceItem :=
  [.acceptedVideoFrame (sampleFrame "l" "r1" 1 true).registeredPacket 10, failingItem 1,
    .acceptedVideoFrame (sampleFrame "l" "r1" 2 true).registeredPacket 10, failingItem 2]

/-- Two ticks, and one frame to render. -/
def oneFramePolicy : SwitcherContinuousTwoViewSchedulingPolicy :=
  ⟨2, 1, 100, ⟨2, 200, ⟨100, none, none, 100, 0, 1⟩, ⟨8⟩⟩⟩

theorem failingItems_run :
    let result := runWithRuntimes listSource failingRuntimes "l" "r" oneFramePolicy failingItems ()
    canvasesRendered result = 2 ∧ result.summary.renderedFrames = 0 := by
  decide

/-- A canvas with one side that failed to decode is rendered and not counted. -/
theorem runWithRuntimes_not_counting_canvases :
    ¬ ∀ (σ δ : Type) (receiveNext : LiveTwoViewQueueSource σ) (runtimes : LiveTwoViewRuntimes δ)
      (leftClientId rightClientId : ClientId) (policy : SwitcherContinuousTwoViewSchedulingPolicy)
      (source : σ) (runtime : δ),
      let result := runWithRuntimes receiveNext runtimes leftClientId rightClientId policy source runtime
      canvasesRendered result ≤ policy.maxRenderedFrames ∧
        result.summary.renderedFrames = canvasesRendered result := by
  intro h
  obtain ⟨hbounded, -⟩ := h _ _ listSource failingRuntimes "l" "r" oneFramePolicy failingItems ()
  rw [failingItems_run.1] at hbounded
  exact absurd hbounded (by decide)

end SwitcherContinuousTwoViewScheduling

end StreamSync
