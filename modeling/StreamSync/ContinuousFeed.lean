import StreamSync.DecodeCalls
import StreamSync.TargetTimeConsume

namespace StreamSync

open Effect ServerVideoFrameQueueState

def answeringHandoff : QueuedFrameHandoff HandoffWorld Empty := fun input world => .ok (world.request input)

inductive TwoRealContinuousFeedSkipReason where
  | duplicate | futureFrame | runtimeDisabled | startupNotReady | inputQueueFull | sourceMismatch
  | consumeMismatch
deriving DecidableEq, Repr

def recordContinuousFeedEnqueueResult :
    TwoRealContinuousDecodeEnqueueResult → Except TwoRealContinuousFeedSkipReason Unit
  | .enqueued => .ok ()
  | .skippedDuplicate => .error .duplicate
  | .skippedRuntimeDisabled | .disconnected => .error .runtimeDisabled
  | .skippedStartupNotReady => .error .startupNotReady
  | .skippedSourceMismatch => .error .sourceMismatch
  | .droppedInputQueueFull => .error .inputQueueFull

/-- What one turn of the feed loop comes to; only after `consumed` there is another one. -/
inductive ContinuousFeedTurn where
  | noFrame
  | handoffError
  | skipped (reason : TwoRealContinuousFeedSkipReason)
  | consumed (frame : SwitcherSingleViewSelectedEncodedFrame)
  | noFrameToConsume
  | consumeError
deriving DecidableEq

def ContinuousFeedTurn.goesOn : ContinuousFeedTurn → Bool
  | .consumed _ => true
  | _ => false

def continuousFeedMaxFramesPerAttempt : Nat := 2

section Feed

variable {δ : Type} (pictures : DecoderPictures) (source : TwoRealContinuousDecodeSource)
  (targetTimestamp : TimestampMicros)

def consumeFed (frame : SwitcherSingleViewSelectedEncodedFrame) (world : HandoffWorld) :
    ContinuousFeedTurn × HandoffWorld :=
  let (consumed, world) := world.request ⟨source.clientId, source.runId, .consumeOldest⟩
  match consumed with
  | .frameRead consumed _ _ =>
    (if consumed.frameId = frame.frameId then .consumed frame else .skipped .consumeMismatch, world)
  | .noFrameAvailable .. => (.noFrameToConsume, world)
  | .handoffError .. => (.consumeError, world)

/-- The previewed frame goes to the decoder, and if it is enqueued, then it is consumed. -/
def feedPreviewed (frame : SwitcherSingleViewSelectedEncodedFrame) (turn : ContinuousTurn)
    (timed : TimedSwitcherH264DecodeRuntime δ) (world : HandoffWorld) :
    ContinuousFeedTurn × TimedSwitcherH264DecodeRuntime δ × HandoffWorld :=
  let (timed, result) := timed.feedSlot0ContinuousFrame pictures frame turn
  match recordContinuousFeedEnqueueResult result with
  | .error reason => (.skipped reason, timed, world)
  | .ok () =>
    let (came, world) := consumeFed source frame world
    (came, timed, world)

def feedTurn (turn : ContinuousTurn) (timed : TimedSwitcherH264DecodeRuntime δ) (world : HandoffWorld) :
    ContinuousFeedTurn × TimedSwitcherH264DecodeRuntime δ × HandoffWorld :=
  let (previewResult, world) := world.request ⟨source.clientId, source.runId, .previewOldest⟩
  match previewResult with
  | .frameRead frame _ _ =>
    if targetTimestamp < frame.captureTimestamp then (.skipped .futureFrame, timed, world)
    else feedPreviewed pictures source frame turn timed world
  | .noFrameAvailable .. => (.noFrame, timed, world)
  | .handoffError .. => (.handoffError, timed, world)

/-- The turns that are left, with what happens around the decoder in each. -/
def feedTurns : Nat → List ContinuousTurn → TimedSwitcherH264DecodeRuntime δ → HandoffWorld →
    List ContinuousFeedTurn × TimedSwitcherH264DecodeRuntime δ × HandoffWorld
  | 0, _, timed, world => ([], timed, world)
  | n + 1, turns, timed, world =>
    match feedTurn pictures source targetTimestamp (turns.headD ⟨.spawned, [], []⟩) timed world with
    | (.consumed frame, timed, world) =>
      let (later, timed, world) := feedTurns n turns.tail timed world
      (.consumed frame :: later, timed, world)
    | (came, timed, world) => ([came], timed, world)

def runSlot0ContinuousBoundedFeed (turns : List ContinuousTurn) (timed : TimedSwitcherH264DecodeRuntime δ)
    (world : HandoffWorld) :
    List ContinuousFeedTurn × TimedSwitcherH264DecodeRuntime δ × HandoffWorld :=
  if timed.continuousSlot0.isNone then ([], timed, world)
  else feedTurns pictures source targetTimestamp continuousFeedMaxFramesPerAttempt turns timed world

end Feed

section Requests

variable {input : SwitcherQueuedFrameHandoffInput} {world : HandoffWorld} {clientId : ClientId} {runId : RunId}

theorem named_of_frameRead {input : SwitcherQueuedFrameHandoffInput}
    {frame : SwitcherSingleViewSelectedEncodedFrame} {mode : SwitcherSingleClientQueueSourceMode} {len : Nat}
    (h : (world.request input).1 = .frameRead frame mode len) : input.hasBlankScope = false := by
  obtain ⟨taken, -, hexchange⟩ := request_exchange world input
  rw [h] at hexchange
  generalize (world.request input).2.queue = queue', world.turn.fate = fate at hexchange
  generalize hanswer : SwitcherQueuedFrameHandoffResult.frameRead frame mode len = answer at hexchange
  cases hexchange with
  | answered hscope => exact hscope
  | _ => cases hanswer

/-- A preview of the oldest frame only lets the server go on, and answers with that frame. -/
theorem request_previewOldest (world : HandoffWorld) (clientId : ClientId) (runId : RunId) :
    (world.request ⟨clientId, runId, .previewOldest⟩).2 = world.afterPreview ∧
      ∀ frame mode len, (world.request ⟨clientId, runId, .previewOldest⟩).1 = .frameRead frame mode len →
        world.turn.fate = .served ∧ (isBlank clientId || isBlank runId) = false ∧
          ∃ queued, oldestFrame world.queueAtRequest clientId runId = some queued ∧ frame = .ofQueued queued := by
  obtain ⟨taken, hworld, hexchange⟩ := request_exchange world ⟨clientId, runId, .previewOldest⟩
  obtain ⟨hqueue, htaken, hanswer⟩ := hexchange.previewOldest
  constructor
  · rw [hworld, hqueue, htaken, List.append_nil]
    rfl
  · intro frame mode len hframe
    rcases hanswer with ⟨hserved, -, hanswer⟩ | ⟨-, error, hanswer⟩
    · refine ⟨hserved, named_of_frameRead hframe, ?_⟩
      rw [hanswer, readQueueSource_previewOldest] at hframe
      cases holdest : oldestFrame world.queueAtRequest clientId runId with
      | none =>
        rw [holdest] at hframe
        cases hframe
      | some queued =>
        rw [holdest] at hframe
        cases hframe
        exact ⟨queued, rfl, rfl⟩
    · cases hanswer.symm.trans hframe

/-- A consume takes the oldest frame or nothing. -/
theorem request_consumeOldest (world : HandoffWorld) (clientId : ClientId) (runId : RunId) :
    let next := (world.request ⟨clientId, runId, .consumeOldest⟩).2
    (next.queue = world.queueAtRequest ∨
        next.queue = (world.queueAtRequest.popFrontForClientRun clientId runId).1) ∧
      (next.removed = world.removed ∨ world.turn.fate.reachesServer = true ∧
        ∃ queued, oldestFrame world.queueAtRequest clientId runId = some queued ∧
          next.removed = world.removed ++ [queued]) := by
  intro next
  obtain ⟨taken, hworld, hexchange⟩ := request_exchange world ⟨clientId, runId, .consumeOldest⟩
  have hremoved : next.removed = world.removed ++ taken := congrArg HandoffWorld.removed hworld
  obtain ⟨hqueue, -⟩ := hexchange.consumeOldest
  split at hqueue
  next hreached =>
    refine ⟨.inr hqueue.1, ?_⟩
    rw [hremoved, hqueue.2]
    cases holdest : oldestFrame world.queueAtRequest clientId runId with
    | none => exact .inl (List.append_nil _)
    | some queued => exact .inr ⟨(Bool.and_eq_true_iff.mp hreached).1, queued, rfl, rfl⟩
  next =>
    refine ⟨.inl hqueue.1, .inl ?_⟩
    rw [hremoved, hqueue.2, List.append_nil]

end Requests

end StreamSync
