import StreamSync.Lib.Run
import StreamSync.NalInspection
import StreamSync.RustStd

namespace StreamSync

open Run

def IoErrorKind.notFound : IoErrorKind := .other "NotFound"

/-- A decoder process by the payloads handed to its stdin, in order. -/
structure PersistentDecodeProcess where
  written : List (List UInt8)
deriving DecidableEq, Repr

/-- The runtime state of the hook, and the processes it has stopped. -/
structure SwitcherPersistentFfmpegDecodeRuntimeState where
  session : Option PersistentDecodeProcess
  runtimeDisabled : Bool
  runtimeDisabledReason : Option String
  consecutiveFailureCount : UInt32
  stopped : List PersistentDecodeProcess
deriving DecidableEq, Repr

namespace SwitcherPersistentFfmpegDecodeRuntimeState

def default : SwitcherPersistentFfmpegDecodeRuntimeState := ⟨none, false, none, 0, []⟩

/-- Every process spawned so far. -/
def processes (state : SwitcherPersistentFfmpegDecodeRuntimeState) : List PersistentDecodeProcess :=
  state.stopped ++ state.session.toList

end SwitcherPersistentFfmpegDecodeRuntimeState

/-- The diagnostics of one call that speak of the persistent decoder. -/
structure PersistentDecodeDiagnostics where
  configEnabled : Bool
  attemptCount : Nat
  successCount : Nat
  failureCount : Nat
  fallbackCount : Nat
  oneShotFallbackCount : Nat
  processSpawnCount : Nat
  processRestartCount : Nat
  timeoutCount : Nat
  skippedByConfigCount : Nat
  skippedAfterDisabledCount : Nat
  disabledAfterFailureCount : Nat
  consecutiveFailureCount : UInt32
  runtimeDisabled : Bool
  runtimeDisabledReason : Option String
  lastError : Option String
deriving DecidableEq, Repr

def PersistentDecodeDiagnostics.start (configEnabled : Bool) : PersistentDecodeDiagnostics :=
  ⟨configEnabled, 0, 0, 0, 0, 0, 0, 0, 0, 0, 0, 0, 0, false, none, none⟩

/-- What the reader thread answers within the timeout, or that it does not. -/
inductive PersistentStdoutReadOutcome where
  | ok (bytes : List UInt8) (extraOutputLen : Nat)
  | err (message : String)
  | timeout
  | disconnected
deriving DecidableEq, Repr

/-- What the operating system and the decoder processes do in one call. -/
structure PersistentDecodeOutcomes where
  spawn : Except IoError Unit
  write : Except IoError Unit
  readRequest : Except String Unit
  read : PersistentStdoutReadOutcome
  respawn : Except IoError Unit
  stderrSummary : Option String
  oneShot : SwitcherH264DecodeResult

structure PersistentDecodeCall where
  state : SwitcherPersistentFfmpegDecodeRuntimeState
  diagnostics : PersistentDecodeDiagnostics
deriving DecidableEq

def saturatingSucc (n : UInt32) : UInt32 := if n = 0xFFFFFFFF then n else n + 1

def persistentDecodeTimeoutDisableThreshold : UInt32 := 1

namespace PersistentDecodeCall

def ensureSession (spawn : Except IoError Unit) (call : PersistentDecodeCall) :
    Except IoError Unit × PersistentDecodeCall :=
  if call.state.session.isSome then (.ok (), call)
  else
    let diagnostics :=
      { call.diagnostics with processSpawnCount := call.diagnostics.processSpawnCount + 1 }
    match spawn with
    | .error error => (.error error, { call with diagnostics })
    | .ok () => (.ok (), { state := { call.state with session := some ⟨[]⟩ }, diagnostics })

def stopSession (stderrSummary : Option String) (call : PersistentDecodeCall) : PersistentDecodeCall :=
  match call.state.session with
  | none => call
  | some process =>
    let lastError :=
      match stderrSummary, call.diagnostics.lastError with
      | some summary, some existing => some (existing ++ "|stderr:" ++ summary)
      | some summary, none => some summary
      | none, lastError => lastError
    { state := { call.state with session := none, stopped := call.state.stopped ++ [process] }
      diagnostics := { call.diagnostics with lastError } }

def restartSession (outcomes : PersistentDecodeOutcomes) (call : PersistentDecodeCall) :
    Except IoError Unit × PersistentDecodeCall :=
  let diagnostics :=
    { call.diagnostics with processRestartCount := call.diagnostics.processRestartCount + 1 }
  ensureSession outcomes.respawn (stopSession outcomes.stderrSummary { call with diagnostics })

def recordPersistentError (message : String) (call : PersistentDecodeCall) : PersistentDecodeCall :=
  let consecutiveFailureCount := saturatingSucc call.state.consecutiveFailureCount
  { state := { call.state with consecutiveFailureCount }
    diagnostics := { call.diagnostics with
      failureCount := call.diagnostics.failureCount + 1
      consecutiveFailureCount
      lastError := some message } }

def resetConsecutiveFailureCount (call : PersistentDecodeCall) : PersistentDecodeCall :=
  { call with state := { call.state with consecutiveFailureCount := 0 } }

def markRuntimeDisabled (reason : String) (call : PersistentDecodeCall) : PersistentDecodeCall where
  state := { call.state with runtimeDisabled := true, runtimeDisabledReason := some reason }
  diagnostics := { call.diagnostics with
    runtimeDisabled := true
    runtimeDisabledReason := some reason
    disabledAfterFailureCount := call.diagnostics.disabledAfterFailureCount + 1
    lastError := some reason }

def applyRuntimeStateSnapshot (call : PersistentDecodeCall) : PersistentDecodeCall where
  state := call.state
  diagnostics := { call.diagnostics with
    runtimeDisabled := call.state.runtimeDisabled
    consecutiveFailureCount := call.state.consecutiveFailureCount
    runtimeDisabledReason :=
      call.state.runtimeDisabledReason.or call.diagnostics.runtimeDisabledReason }

def fallbackToOneShot (oneShot : SwitcherH264DecodeResult) (call : PersistentDecodeCall) :
    PersistentDecodeCall × SwitcherH264DecodeResult :=
  ({ call with diagnostics := { call.diagnostics with
      fallbackCount := call.diagnostics.fallbackCount + 1
      oneShotFallbackCount := call.diagnostics.oneShotFallbackCount + 1 } }, oneShot)

/-- What every failure of a running session does but the timeout: record it, and restart. -/
def failAndRestart (message fallbackText : String) (outcomes : PersistentDecodeOutcomes)
    (call : PersistentDecodeCall) : PersistentDecodeCall :=
  match restartSession outcomes (recordPersistentError message call) with
  | (.ok (), call) => call
  | (.error error, call) =>
    { call with diagnostics := { call.diagnostics with
        lastError := some (call.diagnostics.lastError.getD fallbackText ++
          "|persistent_restart_failed:" ++ error.message) } }

/-- A read that timed out stops the session and disables the runtime once the threshold is met. -/
def failOnTimeout (outcomes : PersistentDecodeOutcomes) (call : PersistentDecodeCall) :
    PersistentDecodeCall :=
  let message := "persistent_decode_stdout_read_timeout"
  let call := recordPersistentError message
    { call with diagnostics :=
        { call.diagnostics with timeoutCount := call.diagnostics.timeoutCount + 1 } }
  if persistentDecodeTimeoutDisableThreshold ≤ call.diagnostics.consecutiveFailureCount then
    markRuntimeDisabled message (stopSession outcomes.stderrSummary call)
  else call

/-- The payload reaches the stdin of the session's process, whether or not the write fails. -/
def writePayload (payload : List UInt8) (call : PersistentDecodeCall) : PersistentDecodeCall where
  state := { call.state with
    session := call.state.session.map fun process => ⟨process.written ++ [payload]⟩ }
  diagnostics := { call.diagnostics with attemptCount := call.diagnostics.attemptCount + 1 }

/-- The part of a call behind `ensure_session`. -/
def exchange (input : SwitcherH264DecodeInput) (outcomes : PersistentDecodeOutcomes)
    (call : PersistentDecodeCall) : PersistentDecodeCall × SwitcherH264DecodeResult :=
  let call := writePayload input.encodedPayload call
  let failed (message fallbackText : String) :=
    fallbackToOneShot outcomes.oneShot (failAndRestart message fallbackText outcomes call)
  match outcomes.write with
  | .error error => failed error.message "persistent_write_failed"
  | .ok () =>
    match outcomes.readRequest with
    | .error message => failed message "persistent_stdout_request_send_failed"
    | .ok () =>
      match outcomes.read with
      | .timeout => fallbackToOneShot outcomes.oneShot (failOnTimeout outcomes call)
      | .disconnected =>
        failed "persistent_decode_stdout_reader_disconnected" "persistent_decode_stdout_reader_disconnected"
      | .err message => failed message "persistent_decode_stdout_read_failed"
      | .ok bytes extraOutputLen =>
        if extraOutputLen ≠ 0 then
          let expectedLen := (outputExpectedBytes input.width input.height).toNat
          failed ("decoded_rawvideo_length_mismatch_expected=" ++ toString expectedLen ++ "_actual=" ++
            toString (min (expectedLen + extraOutputLen) usizeMax)) "persistent_decode_extra_output"
        else
          (resetConsecutiveFailureCount { call with diagnostics :=
              { call.diagnostics with successCount := call.diagnostics.successCount + 1 } },
            .decoded ⟨input.width, input.height, .bgra8, bytes⟩)

end PersistentDecodeCall

def bootstrapPayload (payload : List UInt8) : Bool :=
  (inspectPayload payload).hasIdr && (inspectPayload payload).hasSps && (inspectPayload payload).hasPps

open PersistentDecodeCall in
/-- `decode_annex_b_h264_with_diagnostics` of the persistent hook. -/
def decodePersistent (configEnabled : Bool) (input : SwitcherH264DecodeInput)
    (outcomes : PersistentDecodeOutcomes) (state : SwitcherPersistentFfmpegDecodeRuntimeState) :
    PersistentDecodeCall × SwitcherH264DecodeResult :=
  let call : PersistentDecodeCall := ⟨state, .start configEnabled⟩
  if !configEnabled then
    ({ call with diagnostics := { call.diagnostics with skippedByConfigCount := 1 } }, outcomes.oneShot)
  else
    let call := applyRuntimeStateSnapshot call
    if input.encodedPayload.isEmpty then (call, .deferred .emptyPayload)
    else if input.width = 0 ∨ input.height = 0 then (call, .deferred .invalidDimensions)
    else if call.diagnostics.runtimeDisabled then
      fallbackToOneShot outcomes.oneShot (applyRuntimeStateSnapshot
        { call with diagnostics := { call.diagnostics with skippedAfterDisabledCount := 1 } })
    else if input.scaledOutputEnabled then (call, outcomes.oneShot)
    else if call.state.session.isNone && !bootstrapPayload input.encodedPayload then
      fallbackToOneShot outcomes.oneShot { call with diagnostics :=
        { call.diagnostics with lastError := some "persistent_bootstrap_requires_sps_pps_idr" } }
    else
      match PersistentDecodeCall.ensureSession outcomes.spawn call with
      | (.error error, call) =>
        if error.kind = .notFound then (call, .deferred .ffmpegUnavailable)
        else fallbackToOneShot outcomes.oneShot (recordPersistentError error.message call)
      | (.ok (), call) => exchange input outcomes call

/-- One call on the hook with what its environment does. -/
structure PersistentDecodeTurn where
  input : SwitcherH264DecodeInput
  outcomes : PersistentDecodeOutcomes

def persistentDecodeStep (configEnabled : Bool) (state : SwitcherPersistentFfmpegDecodeRuntimeState)
    (turn : PersistentDecodeTurn) :
    SwitcherPersistentFfmpegDecodeRuntimeState × SwitcherH264DecodeResult × PersistentDecodeDiagnostics :=
  let output := decodePersistent configEnabled turn.input turn.outcomes state
  (output.1.state, output.2, output.1.diagnostics)

/-- A run of calls on a new hook. -/
def runPersistentDecode (configEnabled : Bool) (turns : List PersistentDecodeTurn) :
    SwitcherPersistentFfmpegDecodeRuntimeState :=
  (run (persistentDecodeStep configEnabled) .default turns).1

end StreamSync
