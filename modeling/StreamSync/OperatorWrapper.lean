import StreamSync.ControlResponse
import StreamSync.Lib.StoppingRun

namespace StreamSync

open LineText StoppingRun

structure FourViewOperatorWrapperGuardState where
  quitArmed : Bool
  armedUntilMillis : Option UInt64
deriving DecidableEq, Repr

def FourViewOperatorWrapperGuardState.disarmed : FourViewOperatorWrapperGuardState := ⟨false, none⟩

def defaultOperatorWrapperQuitGuardWindowMillis : UInt64 := 2000

def defaultControlPipeConnectTimeoutMillis : UInt32 := 5000

/-- The readings of the clock and the answers of the control pipe, each in the order they are asked
for. -/
structure FourViewOperatorWrapperHooks where
  nowMillis : Nat → UInt64
  sendCommand : Nat → String → String → UInt32 → Except String String

structure FourViewOperatorWrapperKeySummary where
  keyIndex : Nat
  wrapperKey : String
  mappedCommand : String
  guardState : String
  sendResult : String
  responseLine : String
  commandParseError : String
  wrapperError : String
  exitReason : String
deriving DecidableEq, Repr

/-- A key with what was read and sent for it: the clock at its start, the clock again if it armed the
guard, the command with its answer, and the guard it left. -/
structure FourViewOperatorWrapperKeyEvent where
  rawKey : String
  startMillis : UInt64
  armingMillis : Option UInt64
  sends : List (String × Except String String)
  guardState : FourViewOperatorWrapperGuardState
  summary : FourViewOperatorWrapperKeySummary

def parseFourViewOperatorWrapperKey (rawKey : String) : Option Char :=
  match trim isWhitespace rawKey.toList with
  | [key] => some key
  | _ => none

def clearExpiredFourViewOperatorWrapperQuitGuard (guardState : FourViewOperatorWrapperGuardState)
    (nowMillis : UInt64) : FourViewOperatorWrapperGuardState :=
  if guardState.quitArmed && guardState.armedUntilMillis.any fun armedUntil => armedUntil ≤ nowMillis then
    .disarmed
  else guardState

def formatFourViewOperatorWrapperGuardState (guardState : FourViewOperatorWrapperGuardState) : String :=
  if guardState.quitArmed then "quit_armed=true" else "quit_armed=false"

def normalizeFourViewOperatorWrapperExitReason : Option String → String
  | none => "Continue"
  | some value => if value = "none" then "Continue" else value

/-- The command of a key other than `q`. -/
def mappedWrapperCommand (key : Char) : Option String :=
  if key = '1' then some "focus 0"
  else if key = '2' then some "focus 1"
  else if key = '3' then some "focus 2"
  else if key = '4' then some "focus 3"
  else if key = '0' ∨ key = 'a' ∨ key = 'A' then some "all"
  else if key = 's' ∨ key = 'S' then some "status"
  else none

/-- What the summary of a key says about the command that was sent for it. -/
structure WrapperSendReport where
  sendResult : String
  responseLine : String
  commandParseError : String
  wrapperError : String
  exitReason : String
deriving DecidableEq, Repr

def WrapperSendReport.ofAnswer : Except String String → WrapperSendReport
  | .ok response =>
    ⟨"Sent", sanitizeSummaryValue response,
      (extractSummaryField response "command_parse_error").getD "none", "none",
      normalizeFourViewOperatorWrapperExitReason (extractSummaryField response "exit_reason")⟩
  | .error error => ⟨"SendFailed", "none", "none", sanitizeSummaryValue error, "WrapperSendFailed"⟩

def WrapperSendReport.guardArmed : WrapperSendReport := ⟨"GuardArmed", "none", "none", "none", "Continue"⟩

def WrapperSendReport.ignored : WrapperSendReport := ⟨"Ignored", "none", "none", "unknown_key", "Continue"⟩

def keySummary (keyIndex : Nat) (rawKey mappedCommand : String)
    (guardState : FourViewOperatorWrapperGuardState) (report : WrapperSendReport) :
    FourViewOperatorWrapperKeySummary where
  keyIndex
  wrapperKey :=
    let wrapperKey := sanitizeSummaryValue (trimText rawKey)
    if wrapperKey.isEmpty then "empty" else wrapperKey
  mappedCommand
  guardState := formatFourViewOperatorWrapperGuardState guardState
  sendResult := report.sendResult
  responseLine := report.responseLine
  commandParseError := sanitizeSummaryValue report.commandParseError
  wrapperError := report.wrapperError
  exitReason := sanitizeSummaryValue report.exitReason

section

variable (hooks : FourViewOperatorWrapperHooks) (controlPipeName : String)

/-- `run_send_control_command_with_runtime` for the pipe name of the wrapper, which is not blank. -/
def runSendControlCommand (sendCalls : Nat) (command : String) : Except String String :=
  hooks.sendCommand sendCalls controlPipeName command defaultControlPipeConnectTimeoutMillis

/-- `process_four_view_operator_wrapper_key`, with the numbers of clock readings and of sends before
it. -/
def processFourViewOperatorWrapperKey (keyIndex : Nat) (rawKey : String)
    (guardState : FourViewOperatorWrapperGuardState) (clockReads sendCalls : Nat) :
    FourViewOperatorWrapperKeyEvent :=
  let startMillis := hooks.nowMillis clockReads
  let guardState := clearExpiredFourViewOperatorWrapperQuitGuard guardState startMillis
  let sendFor (command mapped : String) : FourViewOperatorWrapperKeyEvent :=
    let answer := runSendControlCommand hooks controlPipeName sendCalls command
    ⟨rawKey, startMillis, none, [(command, answer)], .disarmed,
      keySummary keyIndex rawKey mapped .disarmed (.ofAnswer answer)⟩
  let ignore : FourViewOperatorWrapperKeyEvent :=
    ⟨rawKey, startMillis, none, [], .disarmed, keySummary keyIndex rawKey "none" .disarmed .ignored⟩
  match parseFourViewOperatorWrapperKey rawKey with
  | some key =>
    if key = 'q' ∨ key = 'Q' then
      if guardState.quitArmed then sendFor "quit" "quit"
      else
        let armingMillis := hooks.nowMillis (clockReads + 1)
        let armed : FourViewOperatorWrapperGuardState :=
          ⟨true, some (armingMillis + defaultOperatorWrapperQuitGuardWindowMillis)⟩
        ⟨rawKey, startMillis, some armingMillis, [], armed,
          keySummary keyIndex rawKey "quit" armed .guardArmed⟩
    else
      match mappedWrapperCommand key with
      | some command => sendFor command (sanitizeSummaryValue command)
      | none => ignore
  | none => ignore

/-- The variables of the loop over the keys. -/
structure OperatorWrapperLoop where
  guardState : FourViewOperatorWrapperGuardState
  clockReads : Nat
  sendCalls : Nat
  events : List FourViewOperatorWrapperKeyEvent
  commandsSent : UInt32
  ignoredKeys : UInt32
  exitReason : String

def OperatorWrapperLoop.start (exitReason : String) : OperatorWrapperLoop :=
  ⟨.disarmed, 0, 0, [], 0, 0, exitReason⟩

/-- One turn of the loop. -/
def OperatorWrapperLoop.takeKey (loop : OperatorWrapperLoop) (rawKey : String) : OperatorWrapperLoop :=
  let event := processFourViewOperatorWrapperKey hooks controlPipeName loop.events.length rawKey
    loop.guardState loop.clockReads loop.sendCalls
  { guardState := event.guardState
    clockReads := loop.clockReads + 1 + (if event.armingMillis.isSome then 1 else 0)
    sendCalls := loop.sendCalls + event.sends.length
    events := loop.events ++ [event]
    commandsSent := if event.summary.sendResult = "Sent" then loop.commandsSent + 1 else loop.commandsSent
    ignoredKeys := if event.summary.sendResult = "Ignored" then loop.ignoredKeys + 1 else loop.ignoredKeys
    exitReason :=
      if event.summary.exitReason ≠ "Continue" then event.summary.exitReason else loop.exitReason }

/-- The loop is left after a key whose summary does not say that it goes on. -/
def OperatorWrapperLoop.over (loop : OperatorWrapperLoop) : Bool :=
  loop.events.getLast?.any fun event => event.summary.exitReason ≠ "Continue"

def OperatorWrapperLoop.run (loop : OperatorWrapperLoop) (rawKeys : List String) : OperatorWrapperLoop :=
  runUntil OperatorWrapperLoop.over (OperatorWrapperLoop.takeKey hooks controlPipeName) loop rawKeys

end

/-- `keys_processed` of the summary. -/
def OperatorWrapperLoop.keysProcessed (loop : OperatorWrapperLoop) : UInt32 :=
  UInt32.ofNat loop.events.length

structure FourViewOperatorWrapperLoopSummary where
  controlPipeName : String
  inputSource : String
  keySummaries : List FourViewOperatorWrapperKeySummary
  keysProcessed : UInt32
  commandsSent : UInt32
  ignoredKeys : UInt32
  finalGuardState : String
  rawConsoleRestoreResult : String
  rawConsoleRestoreError : String
  exitReason : String
deriving DecidableEq, Repr

/-- What a source gives in turn: its keys, and then its end or an error. -/
structure WrapperKeyStream where
  keys : List String
  failure : Option String
deriving DecidableEq, Repr

inductive FourViewOperatorWrapperRawConsoleRestoreState where
  | pending
  | restored
  | failed (error : String)
deriving DecidableEq, Repr

def FourViewOperatorWrapperRawConsoleRestoreState.summaryFields :
    FourViewOperatorWrapperRawConsoleRestoreState → String × String
  | .pending => ("pending", "none")
  | .restored => ("restored", "none")
  | .failed error => ("restore_failed", sanitizeSummaryValue error)

/-- The input source, with what the outside gives through it. Of the raw keys that is how the console was
opened, the keys, and how it was restored after the reader was dropped. -/
inductive FourViewOperatorWrapperInputSource where
  | stdin (stream : WrapperKeyStream)
  | scriptedKeys (script : String)
  | rawKeys (opened : Except String (WrapperKeyStream × FourViewOperatorWrapperRawConsoleRestoreState))
deriving Repr

/-- The pieces of a text between its semicolons, trimmed, without the empty ones. -/
def splitScriptedOperatorWrapperKeys (script : String) : List String :=
  ((script.toList.splitOnP (· = ';')).map fun piece => String.ofList (trim isWhitespace piece)).filter
    fun key => !key.isEmpty

def loopSummary (controlPipeName inputSource : String) (loop : OperatorWrapperLoop)
    (restore : String × String) (exitReason : String) : FourViewOperatorWrapperLoopSummary where
  controlPipeName
  inputSource
  keySummaries := loop.events.map (·.summary)
  keysProcessed := loop.keysProcessed
  commandsSent := loop.commandsSent
  ignoredKeys := loop.ignoredKeys
  finalGuardState := formatFourViewOperatorWrapperGuardState loop.guardState
  rawConsoleRestoreResult := restore.1
  rawConsoleRestoreError := restore.2
  exitReason

/-- The exit reason behind the loop over a stream. -/
def closedExitReason (loop : OperatorWrapperLoop) : String :=
  if loop.events.isEmpty then "InputClosed"
  else if loop.exitReason = "Continue" then "InputClosed"
  else loop.exitReason

/-- The failure of a stream that the loop has come to. -/
def OperatorWrapperLoop.met (loop : OperatorWrapperLoop) (stream : WrapperKeyStream) : Option String :=
  if loop.over then none else stream.failure

/-- `run_four_view_operator_wrapper_with_runtime_and_clock_and_raw_key_runtime`. -/
def runFourViewOperatorWrapper (hooks : FourViewOperatorWrapperHooks) (controlPipeName : String)
    (inputSource : FourViewOperatorWrapperInputSource) :
    Except String FourViewOperatorWrapperLoopSummary :=
  if (trim isWhitespace controlPipeName.toList).isEmpty then
    .error "control pipe name must not be empty"
  else
    match inputSource with
    | .stdin stream =>
      let loop := (OperatorWrapperLoop.start "InputClosed").run hooks controlPipeName stream.keys
      match loop.met stream with
      | some error => .error s!"stdin read failed: {error}"
      | none =>
        .ok (loopSummary controlPipeName "stdin" loop ("not_applicable", "none") (closedExitReason loop))
    | .scriptedKeys script =>
      let loop := (OperatorWrapperLoop.start "ScriptedKeysCompleted").run hooks controlPipeName
        (splitScriptedOperatorWrapperKeys script)
      .ok (loopSummary controlPipeName s!"scripted:{sanitizeSummaryValue script}" loop
        ("not_applicable", "none") loop.exitReason)
    | .rawKeys opened =>
      match opened with
      | .error error => .error s!"raw key setup failed: {error}"
      | .ok (stream, restore) =>
        let loop := (OperatorWrapperLoop.start "InputClosed").run hooks controlPipeName stream.keys
        let failure := (loop.met stream).map fun error => s!"raw key read failed: {error}"
        let fields := restore.summaryFields
        if fields.1 = "restore_failed" then
          match failure with
          | none => .error s!"raw key console mode restore failed: {fields.2}"
          | some error => .error s!"{error}; raw key console mode restore failed: {fields.2}"
        else
          match failure with
          | some error => .error error
          | none => .ok (loopSummary controlPipeName "raw_keys" loop fields (closedExitReason loop))

end StreamSync
