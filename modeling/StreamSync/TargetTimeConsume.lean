import StreamSync.HandoffWorld
import StreamSync.TargetTimeAgreement

namespace StreamSync

open Effect ServerVideoFrameQueueState SwitcherSingleClientTargetTimeHandoffSourceBoundary

namespace SwitcherSingleClientTargetTimeSourceInput

def hasBlankScope (input : SwitcherSingleClientTargetTimeSourceInput) : Bool :=
  isBlank input.clientId || isBlank input.runId

/-- The capture timestamp, moved by the clock offset, is at or before the target. -/
def atOrBefore (input : SwitcherSingleClientTargetTimeSourceInput) (clockOffsetMicros : Option Int64)
    (queued : ServerQueuedVideoFrame) : Bool :=
  decide (applyOffsetMicros queued.frame.captureTimestamp clockOffsetMicros ≤ input.targetTimestamp)

/-- A request that names a client and a run would find an oldest frame at or before the target. -/
def oldestEligible (input : SwitcherSingleClientTargetTimeSourceInput) (clockOffsetMicros : Option Int64)
    (queue : ServerVideoFrameQueueState) : Bool :=
  !input.hasBlankScope &&
    (oldestFrame queue input.clientId input.runId).any (input.atOrBefore clockOffsetMicros)

end SwitcherSingleClientTargetTimeSourceInput

def HandoffFate.reachesServer : HandoffFate → Bool
  | .requestLost _ => false
  | _ => true

namespace HandoffWorld

/-- The next request is answered, and finds an oldest frame at or before the target. -/
def answersEligible (world : HandoffWorld) (input : SwitcherSingleClientTargetTimeSourceInput)
    (clockOffsetMicros : Option Int64) : Bool :=
  decide (world.turn.fate = .served) && input.oldestEligible clockOffsetMicros world.queueAtRequest

/-- The frame that the next request takes, if it is a consume. -/
def takenByConsume (world : HandoffWorld) (input : SwitcherSingleClientTargetTimeSourceInput) :
    Option ServerQueuedVideoFrame :=
  if world.turn.fate.reachesServer && !input.hasBlankScope then
    oldestFrame world.queueAtRequest input.clientId input.runId
  else none

def afterPreview (world : HandoffWorld) : HandoffWorld :=
  ⟨world.queueAtRequest, world.turns.tail, world.nextRequestId + 1, world.removed⟩

def afterConsume (world : HandoffWorld) (input : SwitcherSingleClientTargetTimeSourceInput) :
    HandoffWorld where
  queue :=
    if world.turn.fate.reachesServer && !input.hasBlankScope then
      (world.queueAtRequest.popFrontForClientRun input.clientId input.runId).1
    else world.queueAtRequest
  turns := world.turns.tail
  nextRequestId := world.nextRequestId + 1
  removed := world.removed ++ (world.takenByConsume input).toList

/-- The frame that a consuming selection takes: its preview must be answered with an eligible frame. -/
def takenBySelection (world : HandoffWorld) (input : SwitcherSingleClientTargetTimeSourceInput)
    (clockOffsetMicros : Option Int64) : Option ServerQueuedVideoFrame :=
  if world.answersEligible input clockOffsetMicros then world.afterPreview.takenByConsume input else none

/-- Both requests of a consuming selection are answered with an eligible frame. -/
def bothEligible (world : HandoffWorld) (input : SwitcherSingleClientTargetTimeSourceInput)
    (clockOffsetMicros : Option Int64) : Bool :=
  world.answersEligible input clockOffsetMicros &&
    world.afterPreview.answersEligible input clockOffsetMicros

def afterSelection (world : HandoffWorld) (input : SwitcherSingleClientTargetTimeSourceInput)
    (clockOffsetMicros : Option Int64) : HandoffWorld :=
  if world.answersEligible input clockOffsetMicros then world.afterPreview.afterConsume input
  else world.afterPreview

theorem removed_afterSelection (world : HandoffWorld) (input : SwitcherSingleClientTargetTimeSourceInput)
    (clockOffsetMicros : Option Int64) :
    (world.afterSelection input clockOffsetMicros).removed =
      world.removed ++ (world.takenBySelection input clockOffsetMicros).toList := by
  unfold afterSelection takenBySelection
  split
  next => rfl
  next => exact (List.append_nil _).symm

end HandoffWorld

/-- A frame found in the queue is selected when it is at or before the target, and not otherwise. -/
theorem judged_frameAvailable (input : SwitcherSingleClientTargetTimeSourceInput)
    (clockOffsetMicros : Option Int64) (queued : ServerQueuedVideoFrame)
    (mode : SwitcherSingleClientQueueSourceMode) (len : Nat) (consumed : Bool) :
    let result := targetTimeHandoffResultFromSourceResult
      (resultForCandidate (.frameAvailable (.ofQueued queued) mode len) input.targetTimestamp input.mode
        consumed clockOffsetMicros)
    if input.atOrBefore clockOffsetMicros queued then
      ∃ selected, result = .selected selected ∧ selected.consumed = consumed ∧
        selected.frame = .ofQueued queued
    else ∀ selected, result ≠ .selected selected := by
  intro result
  by_cases hle : applyOffsetMicros queued.frame.captureTimestamp clockOffsetMicros ≤ input.targetTimestamp
  · have hat : input.atOrBefore clockOffsetMicros queued = true := decide_eq_true hle
    rw [if_pos hat]
    let adjusted := applyOffsetMicros queued.frame.captureTimestamp clockOffsetMicros
    refine ⟨⟨.ofQueued queued, input.targetTimestamp, adjusted,
      adjusted.toInt64 - input.targetTimestamp.toInt64, consumed⟩, ?_, rfl, rfl⟩
    simp only [result, resultForCandidate]
    rw [if_pos (show applyOffsetMicros (SwitcherSingleViewSelectedEncodedFrame.ofQueued
      queued).captureTimestamp clockOffsetMicros ≤ input.targetTimestamp from hle)]
    rfl
  · have hat : ¬ input.atOrBefore clockOffsetMicros queued = true := by
      simp [SwitcherSingleClientTargetTimeSourceInput.atOrBefore, hle]
    rw [if_neg hat]
    intro selected h
    simp only [result, resultForCandidate] at h
    rw [if_neg (show ¬ applyOffsetMicros (SwitcherSingleViewSelectedEncodedFrame.ofQueued
      queued).captureTimestamp clockOffsetMicros ≤ input.targetTimestamp from hle)] at h
    cases h

/-- Of what a read of the oldest frame finds, a frame at or before the target is selected. -/
theorem judged_oldest (input : SwitcherSingleClientTargetTimeSourceInput)
    (clockOffsetMicros : Option Int64) (oldest : Option ServerQueuedVideoFrame)
    (mode : SwitcherSingleClientQueueSourceMode) (len clientQueueLen : Nat) (consumed : Bool) :
    let result := targetTimeHandoffResultFromSourceResult
      (resultForCandidate (match oldest with
        | some queued => .frameAvailable (.ofQueued queued) mode len
        | none => .noFrameAvailable input.clientId input.runId mode clientQueueLen)
        input.targetTimestamp input.mode consumed clockOffsetMicros)
    if oldest.any (input.atOrBefore clockOffsetMicros) then
      ∃ queued selected, oldest = some queued ∧ result = .selected selected ∧
        selected.consumed = consumed ∧ selected.frame = .ofQueued queued
    else ∀ selected, result ≠ .selected selected := by
  cases oldest with
  | none => exact fun selected h => nomatch h
  | some queued =>
    have hjudged := judged_frameAvailable input clockOffsetMicros queued mode len consumed
    rw [Option.any_some]
    split at hjudged
    next hat =>
      obtain ⟨selected, hresult, hconsumed, hframe⟩ := hjudged
      rw [if_pos hat]
      exact ⟨queued, selected, rfl, hresult, hconsumed, hframe⟩
    next hat =>
      rw [if_neg hat]
      exact hjudged

section Exchanges

variable {clientId : ClientId} {runId : RunId} {queue queue' : ServerVideoFrameQueueState}
  {fate : HandoffFate} {answer : SwitcherQueuedFrameHandoffResult} {taken : List ServerQueuedVideoFrame}

/-- A preview leaves the queue as it found it. -/
theorem HandoffExchange.previewOldest
    (h : HandoffExchange ⟨clientId, runId, .previewOldest⟩ queue fate answer queue' taken) :
    queue' = queue ∧ taken = [] ∧
      ((fate = .served ∧ (isBlank clientId || isBlank runId) = false ∧
        answer = .ofSource (readQueueSource queue ⟨clientId, runId, .previewOldest⟩).2) ∨
      (¬(fate = .served ∧ (isBlank clientId || isBlank runId) = false) ∧
        ∃ error, answer = .handoffError clientId runId .previewOldest error)) := by
  cases h with
  | notReceived error => exact ⟨rfl, rfl, .inr ⟨fun h => (nomatch h.1), error, rfl⟩⟩
  | blankScope hblank error =>
    refine ⟨rfl, rfl, .inr ⟨fun h => ?_, error, rfl⟩⟩
    have hscope := h.2
    rw [show (isBlank clientId || isBlank runId) = true from hblank] at hscope
    cases hscope
  | answered hscope =>
    refine ⟨?_, takenFrom_previewOldest, .inl ⟨rfl, hscope, rfl⟩⟩
    rw [readQueueSource_previewOldest]
  | notAnswered hscope error =>
    refine ⟨?_, takenFrom_previewOldest, .inr ⟨fun h => (nomatch h.1), error, rfl⟩⟩
    rw [readQueueSource_previewOldest]

/-- A consume that reaches the server takes the oldest frame, whether or not its answer arrives. -/
theorem HandoffExchange.consumeOldest
    (h : HandoffExchange ⟨clientId, runId, .consumeOldest⟩ queue fate answer queue' taken) :
    (if fate.reachesServer && !(isBlank clientId || isBlank runId) then
      queue' = (queue.popFrontForClientRun clientId runId).1 ∧
        taken = (oldestFrame queue clientId runId).toList
    else queue' = queue ∧ taken = []) ∧
      ((fate = .served ∧ (isBlank clientId || isBlank runId) = false ∧
        answer = .ofSource (readQueueSource queue ⟨clientId, runId, .consumeOldest⟩).2) ∨
      (¬(fate = .served ∧ (isBlank clientId || isBlank runId) = false) ∧
        ∃ error, answer = .handoffError clientId runId .consumeOldest error)) := by
  cases h with
  | notReceived error => exact ⟨⟨rfl, rfl⟩, .inr ⟨fun h => (nomatch h.1), error, rfl⟩⟩
  | blankScope hblank error =>
    have hscope : (isBlank clientId || isBlank runId) = true := hblank
    rw [hscope, Bool.not_true, Bool.and_false]
    exact ⟨⟨rfl, rfl⟩, .inr ⟨fun h => (nomatch h.2), error, rfl⟩⟩
  | answered hscope =>
    have hnamed : (isBlank clientId || isBlank runId) = false := hscope
    refine ⟨?_, .inl ⟨rfl, hnamed, rfl⟩⟩
    rw [hnamed, Bool.not_false, Bool.and_true, readQueueSource_consumeOldest]
    exact ⟨rfl, takenFrom_consumeOldest hnamed⟩
  | notAnswered hscope error =>
    have hnamed : (isBlank clientId || isBlank runId) = false := hscope
    refine ⟨?_, .inr ⟨fun h => (nomatch h.1), error, rfl⟩⟩
    rw [hnamed, Bool.not_false, Bool.and_true, readQueueSource_consumeOldest]
    exact ⟨rfl, takenFrom_consumeOldest hnamed⟩

end Exchanges

section Requests

variable {input : SwitcherSingleClientTargetTimeSourceInput} {clockOffsetMicros : Option Int64}
  {world world' : HandoffWorld} {result : SwitcherSingleClientTargetTimeHandoffSourceResult}

/-- A read at or before the target is one exchange, judged. -/
theorem readAtOrBefore_eq_ok {sourceMode : SwitcherSingleClientQueueSourceMode} {consumed : Bool}
    (h : readAtOrBefore sourceMode consumed worldHandoff input clockOffsetMicros world =
      .ok (result, world')) :
    ∃ answer queue' taken,
      world' = ⟨queue', world.turns.tail, world.nextRequestId + 1, world.removed ++ taken⟩ ∧
      HandoffExchange ⟨input.clientId, input.runId, sourceMode⟩ world.queueAtRequest world.turn.fate answer
        queue' taken ∧
      result = handoffConsumerResultForCandidate (consumerResult answer) input.targetTimestamp input.mode
        consumed clockOffsetMicros := by
  obtain ⟨read, world₁, hread, h⟩ := bind_eq_ok_iff.mp h
  obtain ⟨answer, world₂, hanswer, hread⟩ := bind_eq_ok_iff.mp hread
  cases Except.ok.inj hread
  cases Except.ok.inj h
  obtain ⟨queue', taken, hworld, hexchange⟩ := worldHandoff_eq_ok hanswer
  exact ⟨answer, queue', taken, hworld, hexchange, rfl⟩

/-- What a request for the oldest frame makes the selection of, given how it was answered. -/
theorem judged_answer {sourceMode : SwitcherSingleClientQueueSourceMode}
    (clockOffsetMicros : Option Int64) (consumed : Bool)
    {answer : SwitcherQueuedFrameHandoffResult} {len clientQueueLen : Nat}
    (hsource : (readQueueSource world.queueAtRequest ⟨input.clientId, input.runId, sourceMode⟩).2 =
      match oldestFrame world.queueAtRequest input.clientId input.runId with
      | some queued => .frameAvailable (.ofQueued queued) sourceMode len
      | none => .noFrameAvailable input.clientId input.runId sourceMode clientQueueLen)
    (hanswer : (world.turn.fate = .served ∧ (isBlank input.clientId || isBlank input.runId) = false ∧
        answer = .ofSource
          (readQueueSource world.queueAtRequest ⟨input.clientId, input.runId, sourceMode⟩).2) ∨
      (¬(world.turn.fate = .served ∧ (isBlank input.clientId || isBlank input.runId) = false) ∧
        ∃ error, answer = .handoffError input.clientId input.runId sourceMode error)) :
    let result := handoffConsumerResultForCandidate (consumerResult answer) input.targetTimestamp
      input.mode consumed clockOffsetMicros
    if world.answersEligible input clockOffsetMicros then
      ∃ queued selected, oldestFrame world.queueAtRequest input.clientId input.runId = some queued ∧
        result = .selected selected ∧ selected.consumed = consumed ∧ selected.frame = .ofQueued queued
    else ∀ selected, result ≠ .selected selected := by
  intro result
  unfold HandoffWorld.answersEligible SwitcherSingleClientTargetTimeSourceInput.oldestEligible
    SwitcherSingleClientTargetTimeSourceInput.hasBlankScope
  rcases hanswer with ⟨hfate, hnamed, hanswer⟩ | ⟨hnot, error, hanswer⟩
  · simp only [hfate, hnamed, decide_true, Bool.not_false, Bool.true_and]
    have hresult : result = targetTimeHandoffResultFromSourceResult (resultForCandidate
        (match oldestFrame world.queueAtRequest input.clientId input.runId with
          | some queued => .frameAvailable (.ofQueued queued) sourceMode len
          | none => .noFrameAvailable input.clientId input.runId sourceMode clientQueueLen)
        input.targetTimestamp input.mode consumed clockOffsetMicros) := by
      simp only [result]
      rw [hanswer, handoffConsumerResultForCandidate_consumerResult, hsource]
    rw [hresult]
    exact judged_oldest ..
  · have hneg : ¬ (decide (world.turn.fate = .served) && (!(isBlank input.clientId || isBlank input.runId) &&
        (oldestFrame world.queueAtRequest input.clientId input.runId).any
          (input.atOrBefore clockOffsetMicros))) = true := by
      simp only [Bool.and_eq_true, decide_eq_true_eq, Bool.not_eq_true']
      exact fun h => hnot ⟨h.1, h.2.1⟩
    rw [if_neg hneg]
    intro selected h
    simp only [result, hanswer] at h
    cases h

/-- The preview changes nothing but the turn; it selects when it is answered with a frame at or before
the target. -/
theorem previewOldestAtOrBefore_eq_ok
    (h : readAtOrBefore .previewOldest false worldHandoff input clockOffsetMicros world =
      .ok (result, world')) :
    world' = world.afterPreview ∧
      ((∃ selected, result = .selected selected) ↔ world.answersEligible input clockOffsetMicros = true) := by
  obtain ⟨answer, queue', taken, hworld, hexchange, hresult⟩ := readAtOrBefore_eq_ok h
  obtain ⟨hqueue, htaken, hanswer⟩ := hexchange.previewOldest
  refine ⟨by rw [hworld, hqueue, htaken, List.append_nil]; rfl, ?_⟩
  have hsource := congrArg Prod.snd (readQueueSource_previewOldest world.queueAtRequest input.clientId
    input.runId)
  have hjudged := judged_answer clockOffsetMicros false hsource hanswer
  rw [← hresult] at hjudged
  split at hjudged
  next heligible =>
    obtain ⟨_, selected, _, hselected, _, _⟩ := hjudged
    exact ⟨fun _ => heligible, fun _ => ⟨selected, hselected⟩⟩
  next heligible =>
    exact ⟨fun ⟨selected, hselected⟩ => absurd hselected (hjudged selected), fun h => absurd h heligible⟩

/-- The consume takes the oldest frame if it reaches the server; it selects when it is answered and that
frame is at or before the target. -/
theorem consumeOldest_eq_ok
    (h : readAtOrBefore .consumeOldest true worldHandoff input clockOffsetMicros world =
      .ok (result, world')) :
    world' = world.afterConsume input ∧
      if world.answersEligible input clockOffsetMicros then
        ∃ queued selected, world.takenByConsume input = some queued ∧ result = .selected selected ∧
          selected.consumed = true ∧ selected.frame = .ofQueued queued
      else ∀ selected, result ≠ .selected selected := by
  obtain ⟨answer, queue', taken, hworld, hexchange, hresult⟩ := readAtOrBefore_eq_ok h
  obtain ⟨hqueue, hanswer⟩ := hexchange.consumeOldest
  constructor
  · rw [hworld]
    unfold HandoffWorld.afterConsume HandoffWorld.takenByConsume
      SwitcherSingleClientTargetTimeSourceInput.hasBlankScope
    split at hqueue
    next hreached =>
      rw [hqueue.1, hqueue.2, if_pos hreached, if_pos hreached]
    next hreached =>
      rw [hqueue.1, hqueue.2, if_neg hreached, if_neg hreached]
      rfl
  · have hsource := congrArg Prod.snd (readQueueSource_consumeOldest world.queueAtRequest input.clientId
      input.runId)
    have hjudged := judged_answer clockOffsetMicros true hsource hanswer
    rw [← hresult] at hjudged
    split at hjudged
    next heligible =>
      rw [if_pos heligible]
      obtain ⟨queued, selected, holdest, hselected⟩ := hjudged
      refine ⟨queued, selected, ?_, hselected⟩
      obtain ⟨hserved, hfound⟩ := Bool.and_eq_true_iff.mp heligible
      obtain ⟨hnamed, _⟩ := Bool.and_eq_true_iff.mp hfound
      unfold HandoffWorld.takenByConsume
      rw [of_decide_eq_true hserved, hnamed]
      exact holdest
    next heligible =>
      rw [if_neg heligible]
      exact hjudged

/-- A consuming selection over the handoff: what it takes, what it leaves, when it selects. -/
theorem consumeOldestAtOrBefore_eq_ok
    (h : consumeOldestAtOrBefore worldHandoff input clockOffsetMicros world = .ok (result, world')) :
    world' = world.afterSelection input clockOffsetMicros ∧
      if world.bothEligible input clockOffsetMicros then
        ∃ queued selected, world.takenBySelection input clockOffsetMicros = some queued ∧
          result = .selected selected ∧ selected.consumed = true ∧ selected.frame = .ofQueued queued
      else ∀ selected, result ≠ .selected selected := by
  obtain ⟨preview, world₁, hpreview, h⟩ := bind_eq_ok_iff.mp h
  obtain ⟨hworld, hselected⟩ := previewOldestAtOrBefore_eq_ok hpreview
  unfold HandoffWorld.afterSelection HandoffWorld.bothEligible HandoffWorld.takenBySelection
  cases heligible : world.answersEligible input clockOffsetMicros with
  | true =>
    obtain ⟨selected, hpreview⟩ := hselected.mpr heligible
    rw [hpreview, hworld] at h
    exact consumeOldest_eq_ok h
  | false =>
    have hnot : ∀ selected, preview ≠ .selected selected := fun selected hs => by
      rw [hselected.mp ⟨selected, hs⟩] at heligible
      cases heligible
    have hend : (result, world') = (preview, world₁) := by
      cases preview with
      | selected selected => exact absurd rfl (hnot selected)
      | noFrameAvailable => exact (Except.ok.inj h).symm
      | waitingForFrameAtOrBeforeTarget => exact (Except.ok.inj h).symm
      | handoffError => exact (Except.ok.inj h).symm
    cases hend
    exact ⟨hworld, hnot⟩

end Requests

/-- Every frame that the consume took out of the queue is returned as selected and consumed. -/
def ReturnsRemoved (result : SwitcherSingleClientTargetTimeHandoffSourceResult)
    (removed : List ServerQueuedVideoFrame) : Prop :=
  ∀ queued ∈ removed, ∃ selected, result = .selected selected ∧ selected.consumed = true ∧
    selected.frame = .ofQueued queued

/-- If the preview finds an eligible frame, then the stores before the consume leave none or an eligible
one as the oldest. -/
def StoresKeepEligible (queue : ServerVideoFrameQueueState) (between : List StoreCall)
    (input : SwitcherSingleClientTargetTimeSourceInput) (clockOffsetMicros : Option Int64) : Prop :=
  input.oldestEligible clockOffsetMicros queue = true →
    ∀ queued, oldestFrame (storeAll queue between) input.clientId input.runId = some queued →
      input.atOrBefore clockOffsetMicros queued = true

theorem returnsRemoved_iff {input : SwitcherSingleClientTargetTimeSourceInput}
    {clockOffsetMicros : Option Int64} {world world' : HandoffWorld}
    {result : SwitcherSingleClientTargetTimeHandoffSourceResult}
    (h : consumeOldestAtOrBefore worldHandoff input clockOffsetMicros world = .ok (result, world'))
    (hempty : world.removed = []) :
    ReturnsRemoved result world'.removed ↔
      ∀ queued, world.takenBySelection input clockOffsetMicros = some queued →
        world.bothEligible input clockOffsetMicros = true := by
  obtain ⟨hworld, hresult⟩ := consumeOldestAtOrBefore_eq_ok h
  rw [hworld, HandoffWorld.removed_afterSelection, hempty, List.nil_append]
  unfold ReturnsRemoved
  split at hresult
  next hboth =>
    obtain ⟨queued, selected, htaken, hselected⟩ := hresult
    rw [htaken]
    refine ⟨fun _ _ _ => hboth, fun _ queued' hmem => ?_⟩
    cases List.mem_singleton.mp hmem
    exact ⟨selected, hselected⟩
  next hboth =>
    constructor
    · intro hreturns queued htaken
      obtain ⟨selected, hselected, _⟩ := hreturns queued (by rw [htaken]; exact List.mem_singleton_self _)
      exact absurd hselected (hresult selected)
    · intro hall queued hmem
      exact absurd (hall queued (Option.mem_toList.mp hmem)) hboth

/-- The preview request of a selection, then what the server stores, then the consume request. -/
def storesBetween (queue : ServerVideoFrameQueueState) (between : List StoreCall) (nextRequestId : UInt64) :
    HandoffWorld := .start queue [⟨[], .served⟩, ⟨between, .served⟩] nextRequestId

/-- A consuming selection loses no frame exactly when the stores between its two requests do not put a
frame after the target in the place of the one it previewed. -/
theorem consumeSelection_returnsRemoved_iff (queue : ServerVideoFrameQueueState) (between : List StoreCall)
    (nextRequestId : UInt64) (clientId : ClientId) (runId : RunId) (targetTimestamp : TimestampMicros)
    (clockOffsetMicros : Option Int64) {result : SwitcherSingleClientTargetTimeHandoffSourceResult}
    {world : HandoffWorld}
    (h : selectFromHandoffWithClockOffset worldHandoff
      ⟨clientId, runId, targetTimestamp, .consumeOldestAtOrBefore⟩ clockOffsetMicros
      (storesBetween queue between nextRequestId) = .ok (result, world)) :
    ReturnsRemoved result world.removed ↔
      StoresKeepEligible queue between ⟨clientId, runId, targetTimestamp, .consumeOldestAtOrBefore⟩
        clockOffsetMicros := by
  let input : SwitcherSingleClientTargetTimeSourceInput :=
    ⟨clientId, runId, targetTimestamp, .consumeOldestAtOrBefore⟩
  have hpreview : (storesBetween queue between nextRequestId).answersEligible input clockOffsetMicros =
      input.oldestEligible clockOffsetMicros queue := rfl
  have hconsume : (storesBetween queue between nextRequestId).afterPreview.answersEligible input
      clockOffsetMicros = input.oldestEligible clockOffsetMicros (storeAll queue between) := rfl
  have htaken : (storesBetween queue between nextRequestId).afterPreview.takenByConsume input =
      if !input.hasBlankScope then oldestFrame (storeAll queue between) clientId runId else none := rfl
  rw [returnsRemoved_iff h rfl]
  unfold StoresKeepEligible HandoffWorld.takenBySelection HandoffWorld.bothEligible
  rw [hpreview, hconsume, htaken]
  cases heligible : input.oldestEligible clockOffsetMicros queue with
  | false => exact ⟨fun _ h => (nomatch h), fun _ _ h => (nomatch h)⟩
  | true =>
    have hnamed : (!input.hasBlankScope) = true := (Bool.and_eq_true_iff.mp heligible).1
    simp only [hnamed, if_true, Bool.true_and, true_implies]
    unfold SwitcherSingleClientTargetTimeSourceInput.oldestEligible
    rw [hnamed, Bool.true_and]
    constructor
    · intro hall queued holdest
      have hany := hall queued holdest
      rw [show oldestFrame (storeAll queue between) input.clientId input.runId = some queued from holdest,
        Option.any_some] at hany
      exact hany
    · intro hall queued holdest
      rw [show oldestFrame (storeAll queue between) input.clientId input.runId = some queued from holdest,
        Option.any_some]
      exact hall queued holdest

def sampleFrameAt (clientId : ClientId) (runId : RunId) (frameId : UInt64)
    (captureTimestamp : TimestampMicros) : ServerVideoFrameHandlerInput :=
  let sample := sampleFrame clientId runId frameId true
  { sample with
    registeredPacket := { sample.registeredPacket with
      frame := { sample.registeredPacket.frame with captureTimestamp } } }

/-- The next frame is still before the target. -/
theorem consumeSelection_returnsRemoved_next :
    ∃ result world, selectFromHandoffWithClockOffset worldHandoff ⟨"c", "r", 50, .consumeOldestAtOrBefore⟩
        none (storesBetween (storeAll .empty [⟨sampleFrameAt "c" "r" 1 10, 10, ⟨1⟩⟩])
          [⟨sampleFrameAt "c" "r" 2 20, 20, ⟨1⟩⟩] 1) = .ok (result, world) ∧
      (ReturnsRemoved result world.removed ↔
        StoresKeepEligible (storeAll .empty [⟨sampleFrameAt "c" "r" 1 10, 10, ⟨1⟩⟩])
          [⟨sampleFrameAt "c" "r" 2 20, 20, ⟨1⟩⟩] ⟨"c", "r", 50, .consumeOldestAtOrBefore⟩ none) :=
  ⟨_, _, rfl, consumeSelection_returnsRemoved_iff _ _ 1 "c" "r" 50 none rfl⟩

/-- A queue of one frame: a frame after the target replaces the previewed one, is taken out, and the
selection says that it waits. -/
theorem consumeSelection_loses_frame :
    ∃ world, selectFromHandoffWithClockOffset worldHandoff ⟨"c", "r", 50, .consumeOldestAtOrBefore⟩
        none (storesBetween (storeAll .empty [⟨sampleFrameAt "c" "r" 1 10, 10, ⟨1⟩⟩])
          [⟨sampleFrameAt "c" "r" 2 100, 20, ⟨1⟩⟩] 1) =
        .ok (.waitingForFrameAtOrBeforeTarget "c" "r" 50 .consumeOldestAtOrBefore 2 100 0, world) ∧
      world.removed = [queuedFrame (sampleFrameAt "c" "r" 2 100) 20] ∧
      oldestFrame world.queue "c" "r" = none ∧
      ¬ ReturnsRemoved (.waitingForFrameAtOrBeforeTarget "c" "r" 50 .consumeOldestAtOrBefore 2 100 0)
        world.removed := by
  refine ⟨_, rfl, rfl, rfl, fun h => ?_⟩
  obtain ⟨selected, hselected, _⟩ := h _ (List.mem_singleton_self _)
  cases hselected

end StreamSync
