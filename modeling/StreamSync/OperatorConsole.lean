import StreamSync.ControlledPreviewCommands
import StreamSync.OperatorWrapperRuns
import StreamSync.PipePath

namespace StreamSync

open Effect

def controlNamedPipePath (pipeName : String) : Except IoError String :=
  if (trimText pipeName).isEmpty then
    .error ⟨.other "InvalidInput", "control pipe name must not be empty"⟩
  else .ok (windowsLocalNamedPipePrefix ++ pipeName)

/-- A connection of the control pipe, as the preview meets it: what becomes of its creation and of the wait
for a client, what the client writes, and what becomes of the writes of the answer. -/
structure ControlConnection where
  created : Except IoError Unit
  connected : Except IoError Unit
  arriving : BytePipe
  answer : MessageWriter

/-- What the outside does with a command of the wrapper. `noServer` is what opening the pipe says where nobody
serves it. -/
structure ControlTransport where
  noServer : IoError
  opened : Except IoError Unit
  created : Except IoError Unit
  connected : Except IoError Unit
  request : PipeDirection
  response : PipeDirection
  asking : MessageWriter
  answer : MessageWriter

inductive ControlClient where
  | wrapper | other
deriving DecidableEq

structure HandledCommand where
  client : ControlClient
  command : String
  outcome : ControlledCommandOutcome

inductive ControlPipeStatus where
  | serving | stuck | over
deriving DecidableEq

/-- The loop over the control pipe, with all commands that were handled. -/
structure ControlPipePreview where
  loop : ControlledPreviewLoop
  status : ControlPipeStatus
  handled : List HandledCommand

def ControlPipePreview.start : ControlPipePreview := ⟨.start, .serving, []⟩

def ControlPipePreview.failed (preview : ControlPipePreview) (error : IoError) : ControlPipePreview :=
  { preview with
    loop := { preview.loop with exitReason := s!"ControlPipeRuntimeError:{sanitizeSummaryValue error.message}" }
    status := .over }

def writtenBytes (message : String) : List UInt8 := (lengthPrefixedUtf8Message message).toOption.getD []

namespace ControlledPreviewSetup

variable (setup : ControlledPreviewSetup) (utf8Error : List UInt8 → IoError) (pipeName : String)

/-- A turn of `FourViewControlCommandSource::ControlPipe` over `run_control_pipe_command_round_trip`, with the
answer that was made. Where the answer is not written, the view has changed but the command is not counted. -/
def serve (client : ControlClient) (connection : ControlConnection) (preview : ControlPipePreview) :
    Previewing (Option String × ControlPipePreview) :=
  match (do let _ ← controlNamedPipePath pipeName; connection.created; connection.connected) with
  | .error error => pure (none, preview.failed error)
  | .ok () =>
    match (readLengthPrefixedUtf8Message utf8Error connection.arriving).1 with
    | .blocked => pure (none, { preview with status := .stuck })
    | .err error => pure (none, preview.failed error)
    | .ok rawCommand => do
      let trimmed := trimText rawCommand
      let outcome ← setup.runCommand preview.loop.outcomes.length preview.loop.finalViewState trimmed
      let response := formatFourViewControlPipeCommandResponse trimmed outcome.summary
      let handled := preview.handled ++ [⟨client, trimmed, outcome⟩]
      match writeLengthPrefixedUtf8Message connection.answer response with
      | .error error =>
        let loop := { preview.loop with finalViewState := outcome.summary.currentViewState }
        pure (some response, ControlPipePreview.failed ⟨loop, preview.status, handled⟩ error)
      | .ok () =>
        let loop := preview.loop.record outcome
        pure (some response, ⟨loop, if loop.quit then .over else .serving, handled⟩)

/-- `send_command` of `SwitcherFourViewControlNamedPipeClientRuntime`, against the preview. Either end of the
connection is closed when its side is done. -/
def exchange (transport : ControlTransport) (command : String) (preview : ControlPipePreview) :
    Previewing (PipeRead String × ControlPipePreview) :=
  match controlNamedPipePath pipeName with
  | .error error => pure (.err error, preview)
  | .ok _ =>
    if preview.status ≠ .serving then pure (.err transport.noServer, preview)
    else
      match transport.opened with
      | .error error => pure (.err error, preview)
      | .ok () => do
        let (response, preview) ← setup.serve utf8Error pipeName .wrapper
          ⟨transport.created, transport.connected, transport.request.pipe false (writtenBytes command),
            transport.answer⟩ preview
        match writeLengthPrefixedUtf8Message transport.asking command with
        | .error error => pure (.err error, preview)
        | .ok () =>
          let arriving := transport.response.pipe false ((response.map writtenBytes).getD [])
          pure ((readLengthPrefixedUtf8Message utf8Error arriving).1, preview)

end ControlledPreviewSetup

/-- What `run_send_control_command_with_runtime` makes of it; a read that does not return gives nothing. -/
def commandAnswer : PipeRead String → Option (Except String String)
  | .ok response => some (.ok response)
  | .err error => some (.error error.message)
  | .blocked => none

def answering (nowMillis : Nat → UInt64) (answer : Except String String) : FourViewOperatorWrapperHooks :=
  ⟨nowMillis, fun _ _ _ _ => answer⟩

structure OperatorConsole where
  wrapper : OperatorWrapperLoop
  preview : ControlPipePreview
  world : PreviewWorld

section Steps

variable (setup : ControlledPreviewSetup) (utf8Error : List UInt8 → IoError) (pipeName : String)
  (nowMillis : Nat → UInt64)

def OperatorConsole.keyEvent (console : OperatorConsole) (answer : Except String String) (rawKey : String) :
    FourViewOperatorWrapperKeyEvent :=
  processFourViewOperatorWrapperKey (answering nowMillis answer) pipeName console.wrapper.events.length rawKey
    console.wrapper.guardState console.wrapper.clockReads console.wrapper.sendCalls

/-- A step: the operator presses a key for which nothing is sent, or one whose command is sent, or another client
of the control pipe is served. -/
inductive OperatorConsole.Step : OperatorConsole → OperatorConsole → Prop
  | quiet {console : OperatorConsole} {answer : Except String String} {rawKey : String}
    (running : console.wrapper.over = false)
    (nothing : (console.keyEvent pipeName nowMillis answer rawKey).sends = []) :
    Step console { console with wrapper := console.wrapper.takeKey (answering nowMillis answer) pipeName rawKey }
  | send {console : OperatorConsole} {answer : Except String String} {rawKey command : String}
    {transport : ControlTransport} {result : PipeRead String} {preview : ControlPipePreview}
    {world : PreviewWorld} (running : console.wrapper.over = false)
    (sent : (console.keyEvent pipeName nowMillis answer rawKey).sends = [(command, answer)])
    (exchanged : setup.exchange utf8Error pipeName transport command console.preview console.world =
      .ok ((result, preview), world))
    (answered : commandAnswer result = some answer) :
    Step console
      ⟨console.wrapper.takeKey (answering nowMillis answer) pipeName rawKey, preview, world⟩
  | other {console : OperatorConsole} {connection : ControlConnection} {response : Option String}
    {preview : ControlPipePreview} {world : PreviewWorld} (serving : console.preview.status = .serving)
    (served : setup.serve utf8Error pipeName .other connection console.preview console.world =
      .ok ((response, preview), world)) :
    Step console { console with preview, world }

end Steps

end StreamSync
