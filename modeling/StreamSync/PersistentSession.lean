import StreamSync.AnnexB
import StreamSync.RustStd

namespace StreamSync

open ClientAnnexBAccessUnitReaderBoundary

/-- What the child's standard input does with a frame. -/
inductive EncoderStdin where
  | accepted
  | closed
  | writeFailed (kind : IoErrorKind) (message : String)
  | flushFailed (kind : IoErrorKind) (message : String)
deriving DecidableEq, Repr

/-- What the pipes of the child do in one step: a read with no bytes is the end of its output, and
`drained` is what a shutdown still reads, if it can. -/
structure EncoderPipes where
  stdin : EncoderStdin
  stdout : Except (IoErrorKind × String) (List UInt8)
  drained : Option (List UInt8)

inductive ClientPersistentFfmpegH264EncoderWriteResult where
  | frameAccepted (bytesWritten : Nat)
  | invalidFrameBytes (expectedLen actualLen : Nat)
  | stdinClosed
  | stdinWriteFailed (kind : IoErrorKind) (message : String)
  | stdinFlushFailed (kind : IoErrorKind) (message : String)
deriving DecidableEq, Repr

inductive ClientPersistentFfmpegH264EncoderReadResult where
  | annexBBytes (bytes : List UInt8)
  | stdoutClosed
  | stdoutReadFailed (kind : IoErrorKind) (message : String)
  | invalidReadRequest (requestedLen : Nat)
deriving DecidableEq, Repr

structure ClientPersistentFfmpegH264EncoderRuntime where
  expectedFrameLen : Nat
  stdoutOpen : Bool
deriving DecidableEq, Repr

namespace ClientPersistentFfmpegH264EncoderRuntime

def writeBgraFrameBytes (runtime : ClientPersistentFfmpegH264EncoderRuntime) (pipes : EncoderPipes)
    (frameBytes : List UInt8) : ClientPersistentFfmpegH264EncoderWriteResult :=
  if frameBytes.length ≠ runtime.expectedFrameLen then
    .invalidFrameBytes runtime.expectedFrameLen frameBytes.length
  else
    match pipes.stdin with
    | .closed => .stdinClosed
    | .writeFailed kind message => .stdinWriteFailed kind message
    | .flushFailed kind message => .stdinFlushFailed kind message
    | .accepted => .frameAccepted frameBytes.length

def readAnnexBBytes (runtime : ClientPersistentFfmpegH264EncoderRuntime) (pipes : EncoderPipes)
    (requestedLen : Nat) :
    ClientPersistentFfmpegH264EncoderRuntime × ClientPersistentFfmpegH264EncoderReadResult :=
  if requestedLen = 0 then (runtime, .invalidReadRequest requestedLen)
  else if runtime.stdoutOpen then
    match pipes.stdout with
    | .ok [] => ({ runtime with stdoutOpen := false }, .stdoutClosed)
    | .ok bytes => (runtime, .annexBBytes bytes)
    | .error (kind, message) => (runtime, .stdoutReadFailed kind message)
  else (runtime, .stdoutClosed)

/-- The bytes that a shutdown leaves, unless the output could not be drained. -/
def shutdown (runtime : ClientPersistentFfmpegH264EncoderRuntime) (pipes : EncoderPipes) :
    Option (List UInt8) :=
  if runtime.stdoutOpen then pipes.drained else some []

end ClientPersistentFfmpegH264EncoderRuntime

inductive ClientPersistentFfmpegH264AccessUnitReadStepResult where
  | accessUnit (accessUnit : ClientAnnexBAccessUnit)
  | noCompleteAccessUnitYet (bufferedBytes : Nat)
  | stdoutClosed
  | stdoutReadFailed (kind : IoErrorKind) (message : String)
  | invalidReadRequest (requestedLen : Nat)
  | malformedStream (reason : ClientAnnexBAccessUnitReaderMalformedReason) (bufferedBytes : Nat)
deriving DecidableEq, Repr

inductive ClientPersistentFfmpegH264AccessUnitSessionStepResult where
  | accessUnit (accessUnit : ClientAnnexBAccessUnit)
  | noCompleteAccessUnitYet (bufferedBytes : Nat)
  | invalidFrameBytes (expectedLen actualLen : Nat)
  | stdinClosed
  | stdinWriteFailed (kind : IoErrorKind) (message : String)
  | stdinFlushFailed (kind : IoErrorKind) (message : String)
  | stdoutReadFailed (kind : IoErrorKind) (message : String)
  | invalidReadRequest (requestedLen : Nat)
  | malformedStream (reason : ClientAnnexBAccessUnitReaderMalformedReason) (bufferedBytes : Nat)
  | streamEnded (finishResult : ClientAnnexBAccessUnitReaderFinishResult)
  | runtimeClosed
deriving DecidableEq, Repr

/-- The results on which the sender gives the session up, apart from an end of the output. -/
def ClientPersistentFfmpegH264AccessUnitSessionStepResult.isFailure :
    ClientPersistentFfmpegH264AccessUnitSessionStepResult → Bool
  | .accessUnit _ => false
  | .noCompleteAccessUnitYet _ => false
  | .streamEnded _ => false
  | _ => true

def feedStdoutReadResult (state : ClientAnnexBAccessUnitReaderState) :
    ClientPersistentFfmpegH264EncoderReadResult →
      ClientPersistentFfmpegH264AccessUnitReadStepResult × ClientAnnexBAccessUnitReaderState
  | .annexBBytes bytes =>
    let polled := pollAccessUnit (state.appendBytes bytes)
    match polled.1 with
    | .accessUnit accessUnit => (.accessUnit accessUnit, polled.2)
    | .noCompleteAccessUnitYet bufferedBytes => (.noCompleteAccessUnitYet bufferedBytes, polled.2)
    | .malformedStream reason bufferedBytes => (.malformedStream reason bufferedBytes, polled.2)
  | .stdoutClosed => (.stdoutClosed, state)
  | .stdoutReadFailed kind message => (.stdoutReadFailed kind message, state)
  | .invalidReadRequest requestedLen => (.invalidReadRequest requestedLen, state)

def mapReadStepToSessionResult : ClientPersistentFfmpegH264AccessUnitReadStepResult →
    ClientPersistentFfmpegH264AccessUnitSessionStepResult
  | .accessUnit accessUnit => .accessUnit accessUnit
  | .noCompleteAccessUnitYet bufferedBytes => .noCompleteAccessUnitYet bufferedBytes
  | .stdoutClosed => .runtimeClosed
  | .stdoutReadFailed kind message => .stdoutReadFailed kind message
  | .invalidReadRequest requestedLen => .invalidReadRequest requestedLen
  | .malformedStream reason bufferedBytes => .malformedStream reason bufferedBytes

structure ClientPersistentFfmpegH264AccessUnitSession where
  runtime : Option ClientPersistentFfmpegH264EncoderRuntime
  readerState : ClientAnnexBAccessUnitReaderState
  stdoutReadLen : Nat
deriving DecidableEq, Repr

namespace ClientPersistentFfmpegH264AccessUnitSession

def new (runtime : ClientPersistentFfmpegH264EncoderRuntime) (stdoutReadLen : Nat) :
    ClientPersistentFfmpegH264AccessUnitSession := ⟨some runtime, .empty, stdoutReadLen⟩

def finishRuntimeAfterClose (session : ClientPersistentFfmpegH264AccessUnitSession)
    (pipes : EncoderPipes) :
    ClientPersistentFfmpegH264AccessUnitSession × ClientPersistentFfmpegH264AccessUnitSessionStepResult :=
  match session.runtime with
  | none => (session, .runtimeClosed)
  | some runtime =>
    let readerState :=
      match runtime.shutdown pipes with
      | some remainingBytes => session.readerState.appendBytes remainingBytes
      | none => session.readerState
    let finished := finish readerState
    ({ session with runtime := none, readerState := finished.2 }, .streamEnded finished.1)

def pollStdoutOnce (session : ClientPersistentFfmpegH264AccessUnitSession) (pipes : EncoderPipes) :
    ClientPersistentFfmpegH264AccessUnitSession × ClientPersistentFfmpegH264AccessUnitSessionStepResult :=
  match session.runtime with
  | none => (session, .runtimeClosed)
  | some runtime =>
    let read := runtime.readAnnexBBytes pipes session.stdoutReadLen
    let fed := feedStdoutReadResult session.readerState read.2
    let session := { session with runtime := some read.1, readerState := fed.2 }
    match fed.1 with
    | .stdoutClosed => session.finishRuntimeAfterClose pipes
    | step => (session, mapReadStepToSessionResult step)

def submitFrameAndPollAccessUnit (session : ClientPersistentFfmpegH264AccessUnitSession)
    (pipes : EncoderPipes) (frameBytes : List UInt8) :
    ClientPersistentFfmpegH264AccessUnitSession × ClientPersistentFfmpegH264AccessUnitSessionStepResult :=
  match session.runtime with
  | none => (session, .runtimeClosed)
  | some runtime =>
    match runtime.writeBgraFrameBytes pipes frameBytes with
    | .frameAccepted _ => session.pollStdoutOnce pipes
    | .invalidFrameBytes expectedLen actualLen => (session, .invalidFrameBytes expectedLen actualLen)
    | .stdinClosed => (session, .stdinClosed)
    | .stdinWriteFailed kind message => (session, .stdinWriteFailed kind message)
    | .stdinFlushFailed kind message => (session, .stdinFlushFailed kind message)

end ClientPersistentFfmpegH264AccessUnitSession

/-- What comes of a submitted frame while the output of the child is open: an access unit, bytes that
do not make one yet, the end of the output, or a failure. -/
inductive Polled (pipes : EncoderPipes) (runtime : ClientPersistentFfmpegH264EncoderRuntime)
    (buffered : List UInt8) (stdoutReadLen : Nat) :
    ClientPersistentFfmpegH264AccessUnitSession × ClientPersistentFfmpegH264AccessUnitSessionStepResult →
      Prop
  | accessUnit (bytes : List UInt8) (accessUnit : ClientAnnexBAccessUnit)
    (state : ClientAnnexBAccessUnitReaderState) (hread : pipes.stdout = .ok bytes)
    (hextract : tryExtractAnnexBAccessUnit ⟨buffered ++ bytes⟩ false = .ok (some (accessUnit, state))) :
    Polled pipes runtime buffered stdoutReadLen (⟨some runtime, state, stdoutReadLen⟩, .accessUnit accessUnit)
  | waiting (bytes : List UInt8) (hread : pipes.stdout = .ok bytes) :
    Polled pipes runtime buffered stdoutReadLen
      (⟨some runtime, ⟨buffered ++ bytes⟩, stdoutReadLen⟩,
        .noCompleteAccessUnitYet (buffered ++ bytes).length)
  | ended (session : ClientPersistentFfmpegH264AccessUnitSession) (hread : pipes.stdout = .ok []) :
    Polled pipes runtime buffered stdoutReadLen (session, .streamEnded (finish ⟨buffered⟩).1)
  | failed (session : ClientPersistentFfmpegH264AccessUnitSession)
    (result : ClientPersistentFfmpegH264AccessUnitSessionStepResult) (hfailure : result.isFailure = true) :
    Polled pipes runtime buffered stdoutReadLen (session, result)

namespace ClientPersistentFfmpegH264AccessUnitSession

variable {pipes : EncoderPipes} {runtime : ClientPersistentFfmpegH264EncoderRuntime}
  {buffered : List UInt8} {stdoutReadLen : Nat}

theorem pollStdoutOnce_polled (hopen : runtime.stdoutOpen = true) (hlen : stdoutReadLen ≠ 0) :
    Polled pipes runtime buffered stdoutReadLen
      (pollStdoutOnce ⟨some runtime, ⟨buffered⟩, stdoutReadLen⟩ pipes) := by
  unfold pollStdoutOnce ClientPersistentFfmpegH264EncoderRuntime.readAnnexBBytes
  simp only [if_neg hlen, if_pos hopen]
  cases hread : pipes.stdout with
  | error failure =>
    obtain ⟨kind, message⟩ := failure
    exact .failed _ _ rfl
  | ok bytes =>
    cases bytes with
    | nil =>
      have hended : Polled pipes runtime buffered stdoutReadLen
          (⟨none, (finish ⟨buffered⟩).2, stdoutReadLen⟩, .streamEnded (finish ⟨buffered⟩).1) :=
        .ended _ hread
      have hshutdown : ({ runtime with stdoutOpen := false }
          : ClientPersistentFfmpegH264EncoderRuntime).shutdown pipes = some [] := rfl
      simp only [feedStdoutReadResult, finishRuntimeAfterClose, hshutdown,
        ClientAnnexBAccessUnitReaderState.appendBytes, List.append_nil]
      exact hended
    | cons byte bytes =>
      simp only [feedStdoutReadResult, pollAccessUnit, ClientAnnexBAccessUnitReaderState.appendBytes]
      cases hextract : tryExtractAnnexBAccessUnit ⟨buffered ++ byte :: bytes⟩ false with
      | error reason => exact .failed _ _ rfl
      | ok found =>
        cases found with
        | none => exact .waiting (byte :: bytes) hread
        | some result =>
          obtain ⟨accessUnit, state⟩ := result
          exact .accessUnit (byte :: bytes) accessUnit state hread hextract

theorem submitFrameAndPollAccessUnit_polled (hopen : runtime.stdoutOpen = true) (hlen : stdoutReadLen ≠ 0)
    (frameBytes : List UInt8) :
    Polled pipes runtime buffered stdoutReadLen
      (submitFrameAndPollAccessUnit ⟨some runtime, ⟨buffered⟩, stdoutReadLen⟩ pipes frameBytes) := by
  unfold submitFrameAndPollAccessUnit
  cases hwrite : runtime.writeBgraFrameBytes pipes frameBytes with
  | frameAccepted bytesWritten =>
    simp only [hwrite]
    exact pollStdoutOnce_polled hopen hlen
  | invalidFrameBytes expectedLen actualLen => simp only [hwrite]; exact .failed _ _ rfl
  | stdinClosed => simp only [hwrite]; exact .failed _ _ rfl
  | stdinWriteFailed kind message => simp only [hwrite]; exact .failed _ _ rfl
  | stdinFlushFailed kind message => simp only [hwrite]; exact .failed _ _ rfl

end ClientPersistentFfmpegH264AccessUnitSession

structure ClientPersistentH264ParameterSetCache where
  spsNalUnits : List (List UInt8)
  ppsNalUnits : List (List UInt8)
deriving DecidableEq, Repr

inductive ClientPersistentH264PreparedPayloadResult where
  | prepared (payload : List UInt8) (prependedCachedParameterSets payloadHadParameterSets : Bool)
  | missingParameterSets
deriving DecidableEq, Repr

/-- The bytes of the units of one kind. -/
def nalUnitsOfKind (accessUnit : ClientAnnexBAccessUnit) (kind : ClientAnnexBNalUnitKind) :
    List (List UInt8) :=
  (accessUnit.nalUnits.filter fun nalUnit => nalUnit.kind = kind).map (·.bytes)

namespace ClientPersistentH264ParameterSetCache

def empty : ClientPersistentH264ParameterSetCache := ⟨[], []⟩

def observeAccessUnit (cache : ClientPersistentH264ParameterSetCache)
    (accessUnit : ClientAnnexBAccessUnit) : ClientPersistentH264ParameterSetCache :=
  let sps := nalUnitsOfKind accessUnit .sps
  let pps := nalUnitsOfKind accessUnit .pps
  { spsNalUnits := if sps.isEmpty then cache.spsNalUnits else sps
    ppsNalUnits := if pps.isEmpty then cache.ppsNalUnits else pps }

def hasParameterSets (cache : ClientPersistentH264ParameterSetCache) : Bool :=
  !cache.spsNalUnits.isEmpty && !cache.ppsNalUnits.isEmpty

def preparePayload (cache : ClientPersistentH264ParameterSetCache) (accessUnit : ClientAnnexBAccessUnit) :
    ClientPersistentH264PreparedPayloadResult :=
  if accessUnit.containsSps && accessUnit.containsPps then .prepared accessUnit.bytes false true
  else if !(accessUnit.nalUnits.any fun nalUnit => nalUnit.kind.isVcl) then
    .prepared accessUnit.bytes false (accessUnit.containsSps || accessUnit.containsPps)
  else if !cache.hasParameterSets then .missingParameterSets
  else
    let sps := if accessUnit.containsSps then nalUnitsOfKind accessUnit .sps else cache.spsNalUnits
    let pps := if accessUnit.containsPps then nalUnitsOfKind accessUnit .pps else cache.ppsNalUnits
    let others := accessUnit.nalUnits.filter fun nalUnit => nalUnit.kind ≠ .sps && nalUnit.kind ≠ .pps
    .prepared (sps.flatten ++ pps.flatten ++ (others.map (·.bytes)).flatten)
      (!accessUnit.containsSps || !accessUnit.containsPps) true

end ClientPersistentH264ParameterSetCache

end StreamSync
