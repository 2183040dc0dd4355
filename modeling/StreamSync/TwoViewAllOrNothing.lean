import StreamSync.TargetTimeConsume
import StreamSync.TwoViewScheduler

namespace StreamSync

open Effect Lanes ServerVideoFrameQueueState

/-- The frames of every client and run lost `frames` from the front, and nothing else. -/
def Dequeued (state : ServerVideoFrameQueueState) (frames : List ServerQueuedVideoFrame)
    (state' : ServerVideoFrameQueueState) : Prop :=
  ∀ clientId runId, state.framesForClientRun clientId runId =
    lane scope (clientId, runId) frames ++ state'.framesForClientRun clientId runId

namespace SwitcherTwoViewTargetTimeSourceSchedulerInput

/-- Two frames, the first of the left client and run, the second of the right. -/
def OneFramePerSide (input : SwitcherTwoViewTargetTimeSourceSchedulerInput)
    (frames : List ServerQueuedVideoFrame) : Prop :=
  ∃ left right, frames = [left, right] ∧ scope left = (input.left.clientId, input.left.runId) ∧
    scope right = (input.right.clientId, input.right.runId)

/-- All selected and one frame dequeued per side, or not all selected and nothing dequeued. -/
def AllOrNothing (input : SwitcherTwoViewTargetTimeSourceSchedulerInput) (allSelected : Prop)
    (removed : List ServerQueuedVideoFrame) : Prop :=
  (allSelected ∧ input.OneFramePerSide removed) ∨ (¬ allSelected ∧ removed = [])

end SwitcherTwoViewTargetTimeSourceSchedulerInput

section Dequeued

variable {state state' state'' : ServerVideoFrameQueueState} {frames frames' : List ServerQueuedVideoFrame}

theorem dequeued_nil (state : ServerVideoFrameQueueState) : Dequeued state [] state :=
  fun _ _ => rfl

theorem Dequeued.trans (h : Dequeued state frames state') (h' : Dequeued state' frames' state'') :
    Dequeued state (frames ++ frames') state'' := by
  intro clientId runId
  rw [h clientId runId, h' clientId runId, lane_append, List.append_assoc]

/-- What is dequeued is determined scope by scope. -/
theorem Dequeued.lane_eq (h : Dequeued state frames state') (h' : Dequeued state frames' state')
    (k : ClientId × RunId) : lane scope k frames = lane scope k frames' :=
  List.append_cancel_right ((h k.1 k.2).symm.trans (h' k.1 k.2))

theorem popFrontForClientRun_wellFormed (hs : state.WellFormed) (clientId : ClientId) (runId : RunId) :
    (state.popFrontForClientRun clientId runId).1.WellFormed := by
  have hread := applyQueueOp_wellFormed hs (.read ⟨clientId, runId, .dequeueOldest⟩)
  rw [show (applyQueueOp state (.read ⟨clientId, runId, .dequeueOldest⟩)).1 = _ from
    (read_dequeue state clientId runId).1] at hread
  exact hread

theorem dequeued_popFront (hs : state.WellFormed) (clientId : ClientId) (runId : RunId) :
    Dequeued state (oldestFrame state clientId runId).toList
      (state.popFrontForClientRun clientId runId).1 := by
  intro c r
  have hbalance := applyQueueOp_balances hs (.read ⟨clientId, runId, .dequeueOldest⟩) (c, r)
  obtain ⟨hstate, hmoves⟩ := read_dequeue state clientId runId
  simp only [applyQueueOp] at hbalance
  rw [hmoves, hstate, popFrontForClientRun_frame] at hbalance
  cases holdest : oldestFrame state clientId runId with
  | none =>
    rw [holdest] at hbalance
    simpa [entered, left, departures] using hbalance
  | some queued =>
    rw [holdest] at hbalance
    simpa [entered, left, departures] using hbalance

theorem scope_of_oldestFrame (hs : state.WellFormed) {clientId : ClientId} {runId : RunId}
    {queued : ServerQueuedVideoFrame} (h : oldestFrame state clientId runId = some queued) :
    scope queued = (clientId, runId) :=
  scope_of_mem_run hs (List.mem_of_mem_head? h)

end Dequeued

section InProcess

variable {ε : Type} {state : ServerVideoFrameQueueState}

/-- The oldest frame of the input's client and run is at or before the target. -/
def SwitcherSingleClientTargetTimeSourceInput.oldestAtOrBefore
    (input : SwitcherSingleClientTargetTimeSourceInput) (clockOffsetMicros : Option Int64)
    (queue : ServerVideoFrameQueueState) : Bool :=
  (oldestFrame queue input.clientId input.runId).any (input.atOrBefore clockOffsetMicros)

theorem isSelected_resultForCandidate (input : SwitcherSingleClientTargetTimeSourceInput)
    (clockOffsetMicros : Option Int64) (queued : ServerQueuedVideoFrame)
    (mode : SwitcherSingleClientQueueSourceMode) (len : Nat) (consumed : Bool) :
    (resultForCandidate (.frameAvailable (.ofQueued queued) mode len) input.targetTimestamp input.mode
      consumed clockOffsetMicros).isSelected = input.atOrBefore clockOffsetMicros queued := by
  by_cases hle : applyOffsetMicros queued.frame.captureTimestamp clockOffsetMicros ≤ input.targetTimestamp
  · have hat : input.atOrBefore clockOffsetMicros queued = true := decide_eq_true hle
    rw [hat]
    unfold resultForCandidate
    dsimp only
    rw [if_pos (show applyOffsetMicros (SwitcherSingleViewSelectedEncodedFrame.ofQueued
      queued).captureTimestamp clockOffsetMicros ≤ input.targetTimestamp from hle)]
    rfl
  · have hat : input.atOrBefore clockOffsetMicros queued = false := decide_eq_false hle
    rw [hat]
    unfold resultForCandidate
    dsimp only
    rw [if_neg (show ¬ applyOffsetMicros (SwitcherSingleViewSelectedEncodedFrame.ofQueued
      queued).captureTimestamp clockOffsetMicros ≤ input.targetTimestamp from hle)]
    rfl

theorem inProcessSource_of_read {input : SwitcherSingleClientQueueSourceInput}
    {read : ServerVideoFrameQueueState × SwitcherSingleClientQueueSourceResult}
    (h : readQueueSource state input = read) :
    inProcessSource (ε := ε) input state = .ok (read.2, read.1) := by
  subst h
  rfl

theorem previewOldest_inProcess (input : SwitcherSingleClientTargetTimeSourceInput)
    (clockOffsetMicros : Option Int64) (state : ServerVideoFrameQueueState) :
    ∃ result,
      SwitcherSingleClientTargetTimeSourceBoundary.previewOldestAtOrBefore (inProcessSource (ε := ε)) input
        clockOffsetMicros state = .ok (result, state) ∧
      result.isSelected = input.oldestAtOrBefore clockOffsetMicros state := by
  have hread := inProcessSource_of_read (ε := ε)
    (readQueueSource_previewOldest state input.clientId input.runId)
  unfold SwitcherSingleClientTargetTimeSourceInput.oldestAtOrBefore
  refine ⟨_, bind_of_ok hread, ?_⟩
  cases oldestFrame state input.clientId input.runId with
  | none => rfl
  | some queued => exact isSelected_resultForCandidate ..

/-- In process nothing comes between the preview and the consume. -/
theorem consumeOldest_inProcess (input : SwitcherSingleClientTargetTimeSourceInput)
    (clockOffsetMicros : Option Int64) (state : ServerVideoFrameQueueState) :
    ∃ result,
      SwitcherSingleClientTargetTimeSourceBoundary.consumeOldestAtOrBefore (inProcessSource (ε := ε)) input
        clockOffsetMicros state =
          .ok (result, if input.oldestAtOrBefore clockOffsetMicros state then
            (state.popFrontForClientRun input.clientId input.runId).1 else state) ∧
      result.isSelected = input.oldestAtOrBefore clockOffsetMicros state := by
  have hread := inProcessSource_of_read (ε := ε)
    (readQueueSource_previewOldest state input.clientId input.runId)
  have hconsume := inProcessSource_of_read (ε := ε)
    (readQueueSource_consumeOldest state input.clientId input.runId)
  unfold SwitcherSingleClientTargetTimeSourceBoundary.consumeOldestAtOrBefore
    SwitcherSingleClientTargetTimeSourceInput.oldestAtOrBefore
  rw [bind_of_ok hread]
  cases holdest : oldestFrame state input.clientId input.runId with
  | none => exact ⟨_, rfl, rfl⟩
  | some queued =>
    rw [Option.any_some]
    by_cases hle : applyOffsetMicros queued.frame.captureTimestamp clockOffsetMicros ≤ input.targetTimestamp
    · have hat : input.atOrBefore clockOffsetMicros queued = true := decide_eq_true hle
      have hlt : ¬ input.targetTimestamp < applyOffsetMicros
          (SwitcherSingleViewSelectedEncodedFrame.ofQueued queued).captureTimestamp clockOffsetMicros :=
        UInt64.not_lt.mpr hle
      dsimp only
      rw [if_neg hlt, bind_of_ok hconsume, holdest, hat]
      refine ⟨_, rfl, ?_⟩
      rw [← hat]
      exact isSelected_resultForCandidate ..
    · have hat : input.atOrBefore clockOffsetMicros queued = false := decide_eq_false hle
      have hlt : input.targetTimestamp < applyOffsetMicros
          (SwitcherSingleViewSelectedEncodedFrame.ofQueued queued).captureTimestamp clockOffsetMicros :=
        UInt64.not_le.mp hle
      dsimp only
      rw [if_pos hlt, hat]
      exact ⟨_, rfl, rfl⟩

/-- In process, the state that the consume of one side leaves. -/
def afterConsumeInProcess (input : SwitcherSingleClientTargetTimeSourceInput)
    (clockOffsetMicros : Option Int64) (state : ServerVideoFrameQueueState) : ServerVideoFrameQueueState :=
  if input.oldestAtOrBefore clockOffsetMicros state then
    (state.popFrontForClientRun input.clientId input.runId).1
  else state

theorem previewPair_inProcess (input : SwitcherTwoViewTargetTimeSourceSchedulerInput)
    (leftOffset rightOffset : Option Int64) (state : ServerVideoFrameQueueState) :
    ∃ result,
      SwitcherTwoViewTargetTimeSourceSchedulerBoundary.selectPairWithSingleClientMode
        (inProcessSource (ε := ε)) input .previewOldestIfAtOrBefore leftOffset rightOffset state =
          .ok (result, state) ∧
      (result.status = .allSelected ↔
        (input.leftInput .consumeOldestAtOrBefore).oldestAtOrBefore leftOffset state = true ∧
        (input.rightInput .consumeOldestAtOrBefore).oldestAtOrBefore rightOffset state = true) := by
  obtain ⟨left, hleft, hleftSelected⟩ := previewOldest_inProcess (ε := ε)
    (input.leftInput .previewOldestIfAtOrBefore) leftOffset state
  obtain ⟨right, hright, hrightSelected⟩ := previewOldest_inProcess (ε := ε)
    (input.rightInput .previewOldestIfAtOrBefore) rightOffset state
  refine ⟨⟨input.targetTimestamp, input.mode, left, right,
    twoViewTargetTimeSourceSchedulerStatus left right⟩, ?_, ?_⟩
  · exact (bind_of_ok hleft).trans (bind_of_ok hright)
  · rw [sourceStatus_allSelected_iff, hleftSelected, hrightSelected]
    rfl

theorem consumePair_inProcess (input : SwitcherTwoViewTargetTimeSourceSchedulerInput)
    (leftOffset rightOffset : Option Int64) (state : ServerVideoFrameQueueState) :
    let left := input.leftInput .consumeOldestAtOrBefore
    let right := input.rightInput .consumeOldestAtOrBefore
    let afterLeft := afterConsumeInProcess left leftOffset state
    ∃ result,
      SwitcherTwoViewTargetTimeSourceSchedulerBoundary.selectPairWithSingleClientMode
        (inProcessSource (ε := ε)) input .consumeOldestAtOrBefore leftOffset rightOffset state =
          .ok (result, afterConsumeInProcess right rightOffset afterLeft) ∧
      (result.status = .allSelected ↔
        left.oldestAtOrBefore leftOffset state = true ∧
          right.oldestAtOrBefore rightOffset afterLeft = true) := by
  intro left right afterLeft
  obtain ⟨leftResult, hleft, hleftSelected⟩ := consumeOldest_inProcess (ε := ε) left leftOffset state
  obtain ⟨rightResult, hright, hrightSelected⟩ := consumeOldest_inProcess (ε := ε) right rightOffset afterLeft
  refine ⟨⟨input.targetTimestamp, input.mode, leftResult, rightResult,
    twoViewTargetTimeSourceSchedulerStatus leftResult rightResult⟩, ?_, ?_⟩
  · exact (bind_of_ok hleft).trans (bind_of_ok hright)
  · rw [sourceStatus_allSelected_iff, hleftSelected, hrightSelected]

/-- Taking the oldest frame of one client and run leaves the rest of its frames, and all of the others'. -/
theorem framesForClientRun_popFront (hs : state.WellFormed) {clientId c : ClientId} {runId r : RunId}
    {queued : ServerQueuedVideoFrame} (h : oldestFrame state clientId runId = some queued) :
    (state.popFrontForClientRun clientId runId).1.framesForClientRun c r =
      if (clientId, runId) = (c, r) then (state.framesForClientRun c r).tail
      else state.framesForClientRun c r := by
  have hlost := dequeued_popFront hs clientId runId c r
  have hscope := scope_of_oldestFrame hs h
  rw [h, Option.toList_some] at hlost
  split
  next hk =>
    have hself : lane scope (c, r) [queued] = [queued] := by
      rw [← hk, ← hscope]
      exact lane_singleton_self scope queued
    rw [hlost, hself]
    rfl
  next hk =>
    have hne : scope queued ≠ (c, r) := by
      rw [hscope]
      exact hk
    rw [hlost, lane_singleton_ne scope hne]
    rfl

/-- The condition on a queue in process: both sides name one client and run, and the previews are both
eligible, then the second frame is there and eligible on the right. -/
def SecondFrameEligible (input : SwitcherTwoViewTargetTimeSourceSchedulerInput)
    (leftOffset rightOffset : Option Int64) (state : ServerVideoFrameQueueState) : Prop :=
  let left := input.leftInput .consumeOldestAtOrBefore
  let right := input.rightInput .consumeOldestAtOrBefore
  input.left = input.right → left.oldestAtOrBefore leftOffset state = true →
    right.oldestAtOrBefore rightOffset state = true →
    ((state.framesForClientRun input.right.clientId input.right.runId)[1]?).any
      (right.atOrBefore rightOffset) = true

theorem oldest_of_oldestAtOrBefore {input : SwitcherSingleClientTargetTimeSourceInput}
    {clockOffsetMicros : Option Int64} (h : input.oldestAtOrBefore clockOffsetMicros state = true) :
    ∃ queued, oldestFrame state input.clientId input.runId = some queued := by
  obtain ⟨queued, holdest, _⟩ := Option.any_eq_true _ _ |>.mp h
  exact ⟨queued, holdest⟩

theorem secondFrameEligible_iff (hs : state.WellFormed)
    {input : SwitcherTwoViewTargetTimeSourceSchedulerInput} {leftOffset rightOffset : Option Int64}
    (hleft : (input.leftInput .consumeOldestAtOrBefore).oldestAtOrBefore leftOffset state = true)
    (hright : (input.rightInput .consumeOldestAtOrBefore).oldestAtOrBefore rightOffset state = true) :
    SecondFrameEligible input leftOffset rightOffset state ↔
      (input.rightInput .consumeOldestAtOrBefore).oldestAtOrBefore rightOffset
        (afterConsumeInProcess (input.leftInput .consumeOldestAtOrBefore) leftOffset state) = true := by
  obtain ⟨queued, holdest⟩ := oldest_of_oldestAtOrBefore hleft
  obtain ⟨⟨leftClient, leftRun⟩, ⟨rightClient, rightRun⟩, target, mode⟩ := input
  have hrest : (state.popFrontForClientRun leftClient leftRun).1.framesForClientRun rightClient rightRun =
      if (leftClient, leftRun) = (rightClient, rightRun) then
        (state.framesForClientRun rightClient rightRun).tail
      else state.framesForClientRun rightClient rightRun := framesForClientRun_popFront hs holdest
  unfold afterConsumeInProcess SecondFrameEligible
  dsimp only
  rw [if_pos hleft]
  by_cases hk : (leftClient, leftRun) = (rightClient, rightRun)
  · have hsecond : (state.framesForClientRun rightClient rightRun).tail.head? =
        (state.framesForClientRun rightClient rightRun)[1]? := by
      cases state.framesForClientRun rightClient rightRun with
      | nil => rfl
      | cons q qs => cases qs <;> rfl
    rw [if_pos hk] at hrest
    rw [← hrest] at hsecond
    obtain ⟨rfl, rfl⟩ := Prod.mk.inj hk
    constructor
    · intro h
      have hany := h rfl hleft hright
      rw [← hsecond] at hany
      exact hany
    · intro h _ _ _
      rw [← hsecond]
      exact h
  · rw [if_neg hk] at hrest
    constructor
    · intro _
      unfold SwitcherSingleClientTargetTimeSourceInput.oldestAtOrBefore oldestFrame at hright ⊢
      exact (congrArg (fun frames => (List.head? frames).any _) hrest).trans hright
    · intro _ hsame
      cases hsame
      exact absurd rfl hk

/-- In process, all or nothing fails only where both sides take from the same frames. -/
theorem selectPair_inProcess (hs : state.WellFormed) (left right : SwitcherTwoViewTargetTimeSourceViewConfig)
    (targetTimestamp : TimestampMicros) (leftOffset rightOffset : Option Int64) :
    let input : SwitcherTwoViewTargetTimeSourceSchedulerInput :=
      ⟨left, right, targetTimestamp, .consumeOldestAtOrBeforeAllSelected⟩
    ∃ result state',
      SwitcherTwoViewTargetTimeSourceSchedulerBoundary.selectPairWithClockOffsets (ε := ε) input leftOffset
        rightOffset state = .ok (result, state') ∧
      ((∃ removed, Dequeued state removed state' ∧
          input.AllOrNothing (result.status = .allSelected) removed) ↔
        SecondFrameEligible input leftOffset rightOffset state) := by
  intro input
  obtain ⟨preview, hpreview, hpreviewStatus⟩ := previewPair_inProcess (ε := ε) input leftOffset rightOffset
    state
  obtain ⟨result, hresult, hstatus⟩ := consumePair_inProcess (ε := ε) input leftOffset rightOffset state
  have hrun : SwitcherTwoViewTargetTimeSourceSchedulerBoundary.selectPairWithClockOffsets (ε := ε) input
      leftOffset rightOffset state = _ := bind_of_ok hpreview
  by_cases hall : preview.status = .allSelected
  · obtain ⟨hleft, hright⟩ := hpreviewStatus.mp hall
    obtain ⟨first, hfirst⟩ := oldest_of_oldestAtOrBefore hleft
    rw [if_neg (not_not_intro hall), hresult] at hrun
    refine ⟨_, _, hrun, ?_⟩
    rw [secondFrameEligible_iff hs hleft hright]
    have hafter : afterConsumeInProcess (input.leftInput .consumeOldestAtOrBefore) leftOffset state =
        (state.popFrontForClientRun left.clientId left.runId).1 := if_pos hleft
    have hlost : Dequeued state [first] (state.popFrontForClientRun left.clientId left.runId).1 := by
      have hlost := dequeued_popFront hs left.clientId left.runId
      rw [show oldestFrame state left.clientId left.runId = some first from hfirst] at hlost
      exact hlost
    rw [hafter] at hstatus ⊢
    cases hsecond : (input.rightInput .consumeOldestAtOrBefore).oldestAtOrBefore rightOffset
        (state.popFrontForClientRun left.clientId left.runId).1 with
    | true =>
      refine iff_of_true ?_ rfl
      have hs' : (state.popFrontForClientRun left.clientId left.runId).1.WellFormed :=
        popFrontForClientRun_wellFormed hs left.clientId left.runId
      obtain ⟨second, holdest⟩ := oldest_of_oldestAtOrBefore hsecond
      have hlost' := dequeued_popFront hs' right.clientId right.runId
      rw [show oldestFrame _ right.clientId right.runId = some second from holdest] at hlost'
      have hafter' : afterConsumeInProcess (input.rightInput .consumeOldestAtOrBefore) rightOffset
          (state.popFrontForClientRun left.clientId left.runId).1 = _ := if_pos hsecond
      rw [hafter']
      refine ⟨[first, second], hlost.trans hlost', .inl ⟨hstatus.mpr ⟨hleft, hsecond⟩, first, second, rfl, ?_, ?_⟩⟩
      · exact scope_of_oldestFrame hs hfirst
      · exact scope_of_oldestFrame hs' holdest
    | false =>
      have hnot : result.status ≠ .allSelected := fun h => by
        rw [(hstatus.mp h).2] at hsecond
        cases hsecond
      have hafter' : afterConsumeInProcess (input.rightInput .consumeOldestAtOrBefore) rightOffset
          (state.popFrontForClientRun left.clientId left.runId).1 = _ := if_neg (by rw [hsecond]; simp)
      rw [hafter']
      refine iff_of_false ?_ (by simp)
      rintro ⟨removed, hremoved, ⟨hselected, _⟩ | ⟨_, hnothing⟩⟩
      · exact hnot hselected
      · have hlane := hremoved.lane_eq hlost (scope first)
        rw [hnothing, lane_singleton_self, lane_nil] at hlane
        cases hlane
  · have hnot : ¬ ((input.leftInput .consumeOldestAtOrBefore).oldestAtOrBefore leftOffset state = true ∧
        (input.rightInput .consumeOldestAtOrBefore).oldestAtOrBefore rightOffset state = true) :=
      fun h => hall (hpreviewStatus.mpr h)
    rw [if_pos hall] at hrun
    refine ⟨_, _, hrun, ?_⟩
    exact ⟨fun _ _ hleft hright => absurd ⟨hleft, hright⟩ hnot,
      fun _ => ⟨[], dequeued_nil state, .inr ⟨hall, rfl⟩⟩⟩

end InProcess

section Handoff

theorem storeAll_wellFormed {queue : ServerVideoFrameQueueState} (hs : queue.WellFormed)
    (calls : List StoreCall) : (storeAll queue calls).WellFormed := by
  induction calls generalizing queue with
  | nil => exact hs
  | cons call calls ih =>
    exact ih (applyQueueOp_wellFormed hs (.storeFrame call.input call.queuedAt call.policy))

variable {world world' : HandoffWorld} {input : SwitcherSingleClientTargetTimeSourceInput}
  {clockOffsetMicros : Option Int64}

theorem afterPreview_wellFormed (hs : world.queue.WellFormed) : world.afterPreview.queue.WellFormed :=
  storeAll_wellFormed hs world.turn.stores

theorem afterSelection_wellFormed (hs : world.queue.WellFormed) :
    (world.afterSelection input clockOffsetMicros).queue.WellFormed := by
  have hpreview := afterPreview_wellFormed hs
  have hstored := storeAll_wellFormed hpreview world.afterPreview.turn.stores
  unfold HandoffWorld.afterSelection HandoffWorld.afterConsume
  split
  next =>
    dsimp only
    split
    next => exact popFrontForClientRun_wellFormed hstored input.clientId input.runId
    next => exact hstored
  next => exact hpreview

theorem scope_of_takenBySelection (hs : world.queue.WellFormed) {queued : ServerQueuedVideoFrame}
    (h : world.takenBySelection input clockOffsetMicros = some queued) :
    scope queued = (input.clientId, input.runId) := by
  unfold HandoffWorld.takenBySelection HandoffWorld.takenByConsume at h
  split at h
  next =>
    split at h
    next => exact scope_of_oldestFrame (storeAll_wellFormed (afterPreview_wellFormed hs) _) h
    next => cases h
  next => cases h

theorem isSelected_iff (result : SwitcherSingleClientTargetTimeHandoffSourceResult) :
    result.isSelected = true ↔ ∃ selected, result = .selected selected := by
  cases result with
  | selected selected => exact ⟨fun _ => ⟨selected, rfl⟩, fun _ => rfl⟩
  | noFrameAvailable => exact ⟨fun h => (nomatch h), fun ⟨_, h⟩ => (nomatch h)⟩
  | waitingForFrameAtOrBeforeTarget => exact ⟨fun h => (nomatch h), fun ⟨_, h⟩ => (nomatch h)⟩
  | handoffError => exact ⟨fun h => (nomatch h), fun ⟨_, h⟩ => (nomatch h)⟩

/-- A consuming selection selects when both of its requests are answered with an eligible frame, and then
it has taken one. -/
theorem isSelected_consumeOldest {result : SwitcherSingleClientTargetTimeHandoffSourceResult}
    (h : SwitcherSingleClientTargetTimeHandoffSourceBoundary.consumeOldestAtOrBefore worldHandoff input
      clockOffsetMicros world = .ok (result, world')) :
    (result.isSelected = true ↔ world.bothEligible input clockOffsetMicros = true) ∧
      (world.bothEligible input clockOffsetMicros = true →
        ∃ queued, world.takenBySelection input clockOffsetMicros = some queued) := by
  have hresult := (consumeOldestAtOrBefore_eq_ok h).2
  rw [isSelected_iff]
  split at hresult
  next hboth =>
    obtain ⟨queued, selected, htaken, hselected, _⟩ := hresult
    exact ⟨⟨fun _ => hboth, fun _ => ⟨selected, hselected⟩⟩, fun _ => ⟨queued, htaken⟩⟩
  next hboth =>
    exact ⟨⟨fun ⟨selected, hselected⟩ => absurd hselected (hresult selected), fun h => absurd h hboth⟩,
      fun h => absurd h hboth⟩

variable {pair : SwitcherTwoViewTargetTimeSourceSchedulerInput} {leftOffset rightOffset : Option Int64}
  {result : SwitcherTwoViewTargetTimeHandoffSourceSchedulerResult}

theorem selectPairWithSingleClientMode_eq_ok {mode : SwitcherSingleClientTargetTimeSourceMode}
    (h : SwitcherTwoViewTargetTimeHandoffSourceSchedulerBoundary.selectPairWithSingleClientMode worldHandoff
      pair mode leftOffset rightOffset world = .ok (result, world')) :
    ∃ left right world₁,
      SwitcherSingleClientTargetTimeHandoffSourceBoundary.selectFromHandoffWithClockOffset worldHandoff
        (pair.leftInput mode) leftOffset world = .ok (left, world₁) ∧
      SwitcherSingleClientTargetTimeHandoffSourceBoundary.selectFromHandoffWithClockOffset worldHandoff
        (pair.rightInput mode) rightOffset world₁ = .ok (right, world') ∧
      (result.status = .allSelected ↔ left.isSelected = true ∧ right.isSelected = true) := by
  obtain ⟨left, world₁, hleft, h⟩ := bind_eq_ok_iff.mp h
  obtain ⟨right, world₂, hright, h⟩ := bind_eq_ok_iff.mp h
  cases Except.ok.inj h
  exact ⟨left, right, world₁, hleft, hright, handoffStatus_allSelected_iff left right⟩

theorem previewPair_handoff
    (h : SwitcherTwoViewTargetTimeHandoffSourceSchedulerBoundary.selectPairWithSingleClientMode worldHandoff
      pair .previewOldestIfAtOrBefore leftOffset rightOffset world = .ok (result, world')) :
    world' = world.afterPreview.afterPreview ∧
      (result.status = .allSelected ↔
        world.answersEligible (pair.leftInput .consumeOldestAtOrBefore) leftOffset = true ∧
        world.afterPreview.answersEligible (pair.rightInput .consumeOldestAtOrBefore) rightOffset = true) := by
  obtain ⟨left, right, world₁, hleft, hright, hstatus⟩ := selectPairWithSingleClientMode_eq_ok h
  obtain ⟨hworld, hleftSelected⟩ := previewOldestAtOrBefore_eq_ok hleft
  rw [hworld] at hright
  obtain ⟨hworld', hrightSelected⟩ := previewOldestAtOrBefore_eq_ok hright
  refine ⟨hworld', ?_⟩
  rw [hstatus, isSelected_iff, isSelected_iff, hleftSelected, hrightSelected]
  rfl

theorem consumePair_handoff
    (h : SwitcherTwoViewTargetTimeHandoffSourceSchedulerBoundary.selectPairWithSingleClientMode worldHandoff
      pair .consumeOldestAtOrBefore leftOffset rightOffset world = .ok (result, world')) :
    let left := pair.leftInput .consumeOldestAtOrBefore
    let right := pair.rightInput .consumeOldestAtOrBefore
    let afterLeft := world.afterSelection left leftOffset
    world'.removed = world.removed ++ ((world.takenBySelection left leftOffset).toList ++
        (afterLeft.takenBySelection right rightOffset).toList) ∧
      (result.status = .allSelected ↔
        world.bothEligible left leftOffset = true ∧ afterLeft.bothEligible right rightOffset = true) ∧
      (world.bothEligible left leftOffset = true →
        ∃ queued, world.takenBySelection left leftOffset = some queued) ∧
      (afterLeft.bothEligible right rightOffset = true →
        ∃ queued, afterLeft.takenBySelection right rightOffset = some queued) := by
  intro left right afterLeft
  obtain ⟨leftResult, rightResult, world₁, hleft, hright, hstatus⟩ := selectPairWithSingleClientMode_eq_ok h
  have hworld : world₁ = afterLeft := (consumeOldestAtOrBefore_eq_ok hleft).1
  rw [hworld] at hright
  have hworld' : world' = afterLeft.afterSelection right rightOffset :=
    (consumeOldestAtOrBefore_eq_ok hright).1
  obtain ⟨hleftSelected, hleftTaken⟩ := isSelected_consumeOldest hleft
  obtain ⟨hrightSelected, hrightTaken⟩ := isSelected_consumeOldest hright
  refine ⟨?_, ?_, hleftTaken, hrightTaken⟩
  · rw [hworld', HandoffWorld.removed_afterSelection, HandoffWorld.removed_afterSelection,
      List.append_assoc]
  · rw [hstatus, hleftSelected, hrightSelected]

/-- The condition over the handoff: after two eligible previews, the consumes of both sides are answered
with an eligible frame, or neither takes one. -/
def ConsumeRoundAgrees (pair : SwitcherTwoViewTargetTimeSourceSchedulerInput)
    (leftOffset rightOffset : Option Int64) (world : HandoffWorld) : Prop :=
  let left := pair.leftInput .consumeOldestAtOrBefore
  let right := pair.rightInput .consumeOldestAtOrBefore
  let consuming := world.afterPreview.afterPreview
  let afterLeft := consuming.afterSelection left leftOffset
  world.answersEligible left leftOffset = true →
    world.afterPreview.answersEligible right rightOffset = true →
      (consuming.bothEligible left leftOffset = true ∧ afterLeft.bothEligible right rightOffset = true) ∨
      (consuming.takenBySelection left leftOffset = none ∧
        afterLeft.takenBySelection right rightOffset = none)

theorem selectPair_handoff (hs : world.queue.WellFormed) (hempty : world.removed = [])
    (hmode : pair.mode = .consumeOldestAtOrBeforeAllSelected)
    (h : SwitcherTwoViewTargetTimeHandoffSourceSchedulerBoundary.selectPairFromHandoffWithClockOffsets
      worldHandoff pair leftOffset rightOffset world = .ok (result, world')) :
    pair.AllOrNothing (result.status = .allSelected) world'.removed ↔
      ConsumeRoundAgrees pair leftOffset rightOffset world := by
  unfold SwitcherTwoViewTargetTimeHandoffSourceSchedulerBoundary.selectPairFromHandoffWithClockOffsets at h
  rw [hmode] at h
  obtain ⟨preview, world₁, hpreview, h⟩ := bind_eq_ok_iff.mp h
  obtain ⟨hworld, hpreviewStatus⟩ := previewPair_handoff hpreview
  unfold ConsumeRoundAgrees
  dsimp only
  by_cases hall : preview.status = .allSelected
  · obtain ⟨hleft, hright⟩ := hpreviewStatus.mp hall
    rw [if_neg (not_not_intro hall), hworld] at h
    obtain ⟨hremoved, hstatus, hleftTaken, hrightTaken⟩ := consumePair_handoff h
    have hwf := afterPreview_wellFormed (afterPreview_wellFormed hs)
    have hempty' : world.afterPreview.afterPreview.removed = [] := hempty
    rw [hempty', List.nil_append] at hremoved
    simp only [hleft, hright, true_implies]
    unfold SwitcherTwoViewTargetTimeSourceSchedulerInput.AllOrNothing
    rw [hstatus, hremoved]
    constructor
    · rintro (⟨hboth, _⟩ | ⟨_, hnothing⟩)
      · exact .inl hboth
      · obtain ⟨hnoLeft, hnoRight⟩ := List.append_eq_nil_iff.mp hnothing
        exact .inr ⟨Option.toList_eq_nil_iff.mp hnoLeft, Option.toList_eq_nil_iff.mp hnoRight⟩
    · rintro (⟨hbothLeft, hbothRight⟩ | ⟨hnoLeft, hnoRight⟩)
      · obtain ⟨first, hfirst⟩ := hleftTaken hbothLeft
        obtain ⟨second, hsecond⟩ := hrightTaken hbothRight
        refine .inl ⟨⟨hbothLeft, hbothRight⟩, first, second, by rw [hfirst, hsecond]; rfl, ?_, ?_⟩
        · exact scope_of_takenBySelection hwf hfirst
        · exact scope_of_takenBySelection (afterSelection_wellFormed hwf) hsecond
      · refine .inr ⟨fun hboth => ?_, by rw [hnoLeft, hnoRight]; rfl⟩
        obtain ⟨first, hfirst⟩ := hleftTaken hboth.1
        rw [hnoLeft] at hfirst
        cases hfirst
  · rw [if_pos hall] at h
    cases Except.ok.inj h
    refine iff_of_true (.inr ⟨hall, ?_⟩) fun hleft hright => absurd (hpreviewStatus.mpr ⟨hleft, hright⟩) hall
    rw [hworld]
    exact hempty

end Handoff

/-- The two-view consume is all or nothing, in process exactly when the two sides do not compete for the
frames of one client and run, over the handoff exactly when the consume requests of both sides fare alike. -/
theorem twoViewConsume_allOrNothing_iff (ops : List QueueOp)
    (left right : SwitcherTwoViewTargetTimeSourceViewConfig) (targetTimestamp : TimestampMicros)
    (leftOffset rightOffset : Option Int64) (turns : List HandoffTurn) (nextRequestId : UInt64) :
    let pair : SwitcherTwoViewTargetTimeSourceSchedulerInput :=
      ⟨left, right, targetTimestamp, .consumeOldestAtOrBeforeAllSelected⟩
    let state := (runQueue ops).1
    let world := HandoffWorld.start state turns nextRequestId
    (∃ result state',
      SwitcherTwoViewTargetTimeSourceSchedulerBoundary.selectPairWithClockOffsets (ε := Empty) pair leftOffset
        rightOffset state = .ok (result, state') ∧
      ((∃ removed, Dequeued state removed state' ∧
          pair.AllOrNothing (result.status = .allSelected) removed) ↔
        SecondFrameEligible pair leftOffset rightOffset state)) ∧
    ∀ result world',
      SwitcherTwoViewTargetTimeHandoffSourceSchedulerBoundary.selectPairFromHandoffWithClockOffsets worldHandoff
        pair leftOffset rightOffset world = .ok (result, world') →
      (pair.AllOrNothing (result.status = .allSelected) world'.removed ↔
        ConsumeRoundAgrees pair leftOffset rightOffset world) := by
  intro pair state world
  have hs : state.WellFormed := (runQueue_ledger ops).1
  exact ⟨selectPair_inProcess hs left right targetTimestamp leftOffset rightOffset,
    fun result world' h => selectPair_handoff hs rfl rfl h⟩

/-- One frame of each of two clients. -/
def twoClientOps : List QueueOp :=
  [.storeFrame (sampleFrameAt "a" "r" 1 10) 10 ⟨8⟩, .storeFrame (sampleFrameAt "b" "r" 1 20) 20 ⟨8⟩]

theorem twoViewConsume_allOrNothing_twoClients :
    let pair : SwitcherTwoViewTargetTimeSourceSchedulerInput :=
      ⟨⟨"a", "r"⟩, ⟨"b", "r"⟩, 50, .consumeOldestAtOrBeforeAllSelected⟩
    ∃ result world',
      SwitcherTwoViewTargetTimeHandoffSourceSchedulerBoundary.selectPairFromHandoffWithClockOffsets worldHandoff
        pair none none (.start (runQueue twoClientOps).1 [] 1) = .ok (result, world') ∧
      (pair.AllOrNothing (result.status = .allSelected) world'.removed ↔
        ConsumeRoundAgrees pair none none (.start (runQueue twoClientOps).1 [] 1)) :=
  ⟨_, _, rfl, (twoViewConsume_allOrNothing_iff twoClientOps ⟨"a", "r"⟩ ⟨"b", "r"⟩ 50 none none [] 1).2 _ _ rfl⟩

/-- In process, both sides name one client and run of one frame: the left takes it, the right has none.
Over the handoff, the right consume request is lost after the left one took its frame. -/
theorem twoViewConsume_takes_one :
    let sameView : SwitcherTwoViewTargetTimeSourceSchedulerInput :=
      ⟨⟨"a", "r"⟩, ⟨"a", "r"⟩, 50, .consumeOldestAtOrBeforeAllSelected⟩
    let twoClients : SwitcherTwoViewTargetTimeSourceSchedulerInput :=
      ⟨⟨"a", "r"⟩, ⟨"b", "r"⟩, 50, .consumeOldestAtOrBeforeAllSelected⟩
    let state := (runQueue twoClientOps).1
    let served : HandoffTurn := ⟨[], .served⟩
    (∃ result state',
      SwitcherTwoViewTargetTimeSourceSchedulerBoundary.selectPairWithClockOffsets (ε := Empty) sameView none
        none state = .ok (result, state') ∧
      result.status = .partialSelected ∧ oldestFrame state' "a" "r" = none ∧
      ¬ ∃ removed, Dequeued state removed state' ∧
        sameView.AllOrNothing (result.status = .allSelected) removed) ∧
    ∃ result world',
      SwitcherTwoViewTargetTimeHandoffSourceSchedulerBoundary.selectPairFromHandoffWithClockOffsets worldHandoff
        twoClients none none
        (.start state [served, served, served, served, served, ⟨[], .requestLost .timeout⟩] 1) =
          .ok (result, world') ∧
      result.status = .handoffError ∧
      world'.removed = [queuedFrame (sampleFrameAt "a" "r" 1 10) 10] ∧
      ¬ twoClients.AllOrNothing (result.status = .allSelected) world'.removed := by
  dsimp only
  refine ⟨⟨_, _, rfl, rfl, rfl, ?_⟩, ⟨_, _, rfl, ?_⟩⟩
  · rintro ⟨removed, hremoved, ⟨hselected, _⟩ | ⟨_, hnothing⟩⟩
    · cases hselected
    · have hframes := hremoved "a" "r"
      rw [hnothing] at hframes
      cases hframes
  · refine ⟨rfl, rfl, ?_⟩
    rintro (⟨hselected, _⟩ | ⟨_, hnothing⟩)
    · cases hselected
    · cases hnothing

end StreamSync
