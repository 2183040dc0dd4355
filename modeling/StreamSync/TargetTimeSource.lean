import StreamSync.Lib.Saturating
import StreamSync.QueueSource

namespace StreamSync

open Effect Saturating

inductive SwitcherSingleClientTargetTimeSourceMode where
  | previewOldestIfAtOrBefore | previewLatestIfAtOrBefore
  | previewLatestDecodableIfAtOrBefore | consumeOldestAtOrBefore
deriving DecidableEq, Repr

structure SwitcherSingleClientTargetTimeSourceInput where
  clientId : ClientId
  runId : RunId
  targetTimestamp : TimestampMicros
  mode : SwitcherSingleClientTargetTimeSourceMode
deriving DecidableEq, Repr

structure SwitcherSingleClientTargetTimeSelectedFrame where
  frame : SwitcherSingleViewSelectedEncodedFrame
  targetTimestamp : TimestampMicros
  adjustedCaptureTimestamp : TimestampMicros
  deltaFromTargetMicros : Int64
  consumed : Bool
deriving DecidableEq

inductive SwitcherSingleClientTargetTimeSourceResult where
  | selected (selected : SwitcherSingleClientTargetTimeSelectedFrame)
  | noFrameAvailable (clientId : ClientId) (runId : RunId) (targetTimestamp : TimestampMicros)
      (mode : SwitcherSingleClientTargetTimeSourceMode) (clientQueueLen : Nat)
  | waitingForFrameAtOrBeforeTarget (clientId : ClientId) (runId : RunId)
      (targetTimestamp : TimestampMicros) (mode : SwitcherSingleClientTargetTimeSourceMode)
      (candidateFrameId : UInt64) (candidateCaptureTimestamp : TimestampMicros) (clientQueueLen : Nat)
deriving DecidableEq

inductive SwitcherSingleClientTargetTimeHandoffSourceResult where
  | selected (selected : SwitcherSingleClientTargetTimeSelectedFrame)
  | noFrameAvailable (clientId : ClientId) (runId : RunId) (targetTimestamp : TimestampMicros)
      (mode : SwitcherSingleClientTargetTimeSourceMode) (clientQueueLen : Nat)
  | waitingForFrameAtOrBeforeTarget (clientId : ClientId) (runId : RunId)
      (targetTimestamp : TimestampMicros) (mode : SwitcherSingleClientTargetTimeSourceMode)
      (candidateFrameId : UInt64) (candidateCaptureTimestamp : TimestampMicros) (clientQueueLen : Nat)
  | handoffError (clientId : ClientId) (runId : RunId) (targetTimestamp : TimestampMicros)
      (mode : SwitcherSingleClientTargetTimeSourceMode)
      (handoffMode : SwitcherSingleClientQueueSourceMode) (error : SwitcherQueuedFrameHandoffError)
deriving DecidableEq

def applyOffsetMicros (value : UInt64) : Option Int64 → UInt64
  | some offset =>
    if offset < 0 then saturatingSub value (UInt64.ofNat offset.toInt.natAbs)
    else saturatingAdd value offset.toUInt64
  | none => value

def resultForCandidate (sourceResult : SwitcherSingleClientQueueSourceResult)
    (targetTimestamp : TimestampMicros) (mode : SwitcherSingleClientTargetTimeSourceMode)
    (consumed : Bool) (clockOffsetMicros : Option Int64) : SwitcherSingleClientTargetTimeSourceResult :=
  match sourceResult with
  | .frameAvailable frame _ remainingClientQueueLen =>
    let adjustedCaptureTimestamp := applyOffsetMicros frame.captureTimestamp clockOffsetMicros
    if adjustedCaptureTimestamp ≤ targetTimestamp then
      .selected {
        deltaFromTargetMicros := adjustedCaptureTimestamp.toInt64 - targetTimestamp.toInt64
        frame
        targetTimestamp
        adjustedCaptureTimestamp
        consumed }
    else
      .waitingForFrameAtOrBeforeTarget frame.clientId frame.runId targetTimestamp mode frame.frameId
        frame.captureTimestamp remainingClientQueueLen
  | .noFrameAvailable clientId runId _ clientQueueLen =>
    .noFrameAvailable clientId runId targetTimestamp mode clientQueueLen

namespace SwitcherSingleClientTargetTimeSourceBoundary

variable {σ ε : Type}

/-- What the three preview modes share: one read, judged against the target. -/
def previewAtOrBefore (sourceMode : SwitcherSingleClientQueueSourceMode) (source : QueuedFrameSource σ ε)
    (input : SwitcherSingleClientTargetTimeSourceInput) (clockOffsetMicros : Option Int64) :
    Eff σ ε SwitcherSingleClientTargetTimeSourceResult := do
  let sourceResult ← source ⟨input.clientId, input.runId, sourceMode⟩
  pure (resultForCandidate sourceResult input.targetTimestamp input.mode false clockOffsetMicros)

def previewLatestAtOrBefore : QueuedFrameSource σ ε → SwitcherSingleClientTargetTimeSourceInput →
    Option Int64 → Eff σ ε SwitcherSingleClientTargetTimeSourceResult :=
  previewAtOrBefore .previewLatest

def previewOldestAtOrBefore : QueuedFrameSource σ ε → SwitcherSingleClientTargetTimeSourceInput →
    Option Int64 → Eff σ ε SwitcherSingleClientTargetTimeSourceResult :=
  previewAtOrBefore .previewOldest

def previewLatestDecodableAtOrBefore : QueuedFrameSource σ ε →
    SwitcherSingleClientTargetTimeSourceInput → Option Int64 →
    Eff σ ε SwitcherSingleClientTargetTimeSourceResult :=
  previewAtOrBefore .previewLatestDecodable

def consumeOldestAtOrBefore (source : QueuedFrameSource σ ε)
    (input : SwitcherSingleClientTargetTimeSourceInput) (clockOffsetMicros : Option Int64) :
    Eff σ ε SwitcherSingleClientTargetTimeSourceResult := do
  let preview ← source ⟨input.clientId, input.runId, .previewOldest⟩
  match preview with
  | .noFrameAvailable .. =>
    pure (resultForCandidate preview input.targetTimestamp input.mode false clockOffsetMicros)
  | .frameAvailable frame _ remainingClientQueueLen =>
    let adjustedCaptureTimestamp := applyOffsetMicros frame.captureTimestamp clockOffsetMicros
    if input.targetTimestamp < adjustedCaptureTimestamp then
      pure (.waitingForFrameAtOrBeforeTarget input.clientId input.runId input.targetTimestamp input.mode
        frame.frameId frame.captureTimestamp remainingClientQueueLen)
    else
      let consumed ← source ⟨input.clientId, input.runId, .consumeOldest⟩
      pure (resultForCandidate consumed input.targetTimestamp input.mode true clockOffsetMicros)

def selectFromSourceWithClockOffset (source : QueuedFrameSource σ ε)
    (input : SwitcherSingleClientTargetTimeSourceInput) (clockOffsetMicros : Option Int64) :
    Eff σ ε SwitcherSingleClientTargetTimeSourceResult :=
  match input.mode with
  | .previewOldestIfAtOrBefore => previewOldestAtOrBefore source input clockOffsetMicros
  | .previewLatestIfAtOrBefore => previewLatestAtOrBefore source input clockOffsetMicros
  | .previewLatestDecodableIfAtOrBefore =>
    previewLatestDecodableAtOrBefore source input clockOffsetMicros
  | .consumeOldestAtOrBefore => consumeOldestAtOrBefore source input clockOffsetMicros

/-- `select_with_clock_offset`, on the queue state itself. -/
def selectWithClockOffset (input : SwitcherSingleClientTargetTimeSourceInput)
    (clockOffsetMicros : Option Int64) :
    Eff ServerVideoFrameQueueState ε SwitcherSingleClientTargetTimeSourceResult :=
  selectFromSourceWithClockOffset inProcessSource input clockOffsetMicros

end SwitcherSingleClientTargetTimeSourceBoundary

inductive SwitcherQueuedFrameHandoffConsumerResult where
  | frameAvailable (sourceResult : SwitcherSingleClientQueueSourceResult)
  | noFrameAvailable (sourceResult : SwitcherSingleClientQueueSourceResult)
  | handoffError (clientId : ClientId) (runId : RunId) (mode : SwitcherSingleClientQueueSourceMode)
      (error : SwitcherQueuedFrameHandoffError)
deriving DecidableEq

/-- What `read_source_result` makes of a handoff result. -/
def consumerResult : SwitcherQueuedFrameHandoffResult → SwitcherQueuedFrameHandoffConsumerResult
  | .frameRead frame mode remainingClientQueueLen =>
    .frameAvailable (.frameAvailable frame mode remainingClientQueueLen)
  | .noFrameAvailable clientId runId mode clientQueueLen =>
    .noFrameAvailable (.noFrameAvailable clientId runId mode clientQueueLen)
  | .handoffError clientId runId mode error => .handoffError clientId runId mode error

/-- `SwitcherQueuedFrameHandoffConsumerBoundary::read_source_result`. -/
def readSourceResult {σ ε : Type} (handoff : QueuedFrameHandoff σ ε) (input : SwitcherQueuedFrameHandoffInput) :
    Eff σ ε SwitcherQueuedFrameHandoffConsumerResult := do
  let result ← handoff input
  pure (consumerResult result)

def targetTimeHandoffResultFromSourceResult :
    SwitcherSingleClientTargetTimeSourceResult → SwitcherSingleClientTargetTimeHandoffSourceResult
  | .selected selected => .selected selected
  | .noFrameAvailable clientId runId targetTimestamp mode clientQueueLen =>
    .noFrameAvailable clientId runId targetTimestamp mode clientQueueLen
  | .waitingForFrameAtOrBeforeTarget clientId runId targetTimestamp mode candidateFrameId
      candidateCaptureTimestamp clientQueueLen =>
    .waitingForFrameAtOrBeforeTarget clientId runId targetTimestamp mode candidateFrameId
      candidateCaptureTimestamp clientQueueLen

def handoffConsumerResultForCandidate (consumerResult : SwitcherQueuedFrameHandoffConsumerResult)
    (targetTimestamp : TimestampMicros) (mode : SwitcherSingleClientTargetTimeSourceMode)
    (consumed : Bool) (clockOffsetMicros : Option Int64) :
    SwitcherSingleClientTargetTimeHandoffSourceResult :=
  match consumerResult with
  | .frameAvailable sourceResult =>
    targetTimeHandoffResultFromSourceResult
      (resultForCandidate sourceResult targetTimestamp mode consumed clockOffsetMicros)
  | .noFrameAvailable sourceResult =>
    targetTimeHandoffResultFromSourceResult
      (resultForCandidate sourceResult targetTimestamp mode consumed clockOffsetMicros)
  | .handoffError clientId runId handoffMode error =>
    .handoffError clientId runId targetTimestamp mode handoffMode error

theorem selected_of_consumerResult {answer : SwitcherQueuedFrameHandoffResult} {targetTimestamp : TimestampMicros}
    {mode : SwitcherSingleClientTargetTimeSourceMode} {taken : Bool} {clockOffsetMicros : Option Int64}
    {selected : SwitcherSingleClientTargetTimeSelectedFrame}
    (h : handoffConsumerResultForCandidate (consumerResult answer) targetTimestamp mode taken
      clockOffsetMicros = .selected selected) :
    ∃ sourceMode len, answer = .frameRead selected.frame sourceMode len := by
  cases answer with
  | frameRead frame sourceMode len =>
    simp only [handoffConsumerResultForCandidate, consumerResult, resultForCandidate] at h
    split at h
    next =>
      cases h
      exact ⟨sourceMode, len, rfl⟩
    next => cases h
  | noFrameAvailable _ _ _ _ => cases h
  | handoffError _ _ _ _ => cases h

namespace SwitcherSingleClientTargetTimeHandoffSourceBoundary

variable {σ ε : Type}

/-- One read through the handoff, judged against the target. -/
def readAtOrBefore (sourceMode : SwitcherSingleClientQueueSourceMode) (consumed : Bool)
    (handoff : QueuedFrameHandoff σ ε) (input : SwitcherSingleClientTargetTimeSourceInput)
    (clockOffsetMicros : Option Int64) : Eff σ ε SwitcherSingleClientTargetTimeHandoffSourceResult := do
  let result ← readSourceResult handoff ⟨input.clientId, input.runId, sourceMode⟩
  pure (handoffConsumerResultForCandidate result input.targetTimestamp input.mode consumed
    clockOffsetMicros)

def previewLatestAtOrBefore : QueuedFrameHandoff σ ε → SwitcherSingleClientTargetTimeSourceInput →
    Option Int64 → Eff σ ε SwitcherSingleClientTargetTimeHandoffSourceResult :=
  readAtOrBefore .previewLatest false

def previewOldestAtOrBefore : QueuedFrameHandoff σ ε → SwitcherSingleClientTargetTimeSourceInput →
    Option Int64 → Eff σ ε SwitcherSingleClientTargetTimeHandoffSourceResult :=
  readAtOrBefore .previewOldest false

def previewLatestDecodableAtOrBefore : QueuedFrameHandoff σ ε →
    SwitcherSingleClientTargetTimeSourceInput → Option Int64 →
    Eff σ ε SwitcherSingleClientTargetTimeHandoffSourceResult :=
  readAtOrBefore .previewLatestDecodable false

/-- `consume_oldest_at_or_before`: the preview and the consume are two requests of their own. -/
def consumeOldestAtOrBefore (handoff : QueuedFrameHandoff σ ε)
    (input : SwitcherSingleClientTargetTimeSourceInput) (clockOffsetMicros : Option Int64) :
    Eff σ ε SwitcherSingleClientTargetTimeHandoffSourceResult := do
  let previewResult ← readAtOrBefore .previewOldest false handoff input clockOffsetMicros
  match previewResult with
  | .selected _ => readAtOrBefore .consumeOldest true handoff input clockOffsetMicros
  | _ => pure previewResult

def selectFromHandoffWithClockOffset (handoff : QueuedFrameHandoff σ ε)
    (input : SwitcherSingleClientTargetTimeSourceInput) (clockOffsetMicros : Option Int64) :
    Eff σ ε SwitcherSingleClientTargetTimeHandoffSourceResult :=
  match input.mode with
  | .previewOldestIfAtOrBefore => previewOldestAtOrBefore handoff input clockOffsetMicros
  | .previewLatestIfAtOrBefore => previewLatestAtOrBefore handoff input clockOffsetMicros
  | .previewLatestDecodableIfAtOrBefore =>
    previewLatestDecodableAtOrBefore handoff input clockOffsetMicros
  | .consumeOldestAtOrBefore => consumeOldestAtOrBefore handoff input clockOffsetMicros

end SwitcherSingleClientTargetTimeHandoffSourceBoundary

end StreamSync
