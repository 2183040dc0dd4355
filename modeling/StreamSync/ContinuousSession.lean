import StreamSync.SwitcherTypes

namespace StreamSync

structure TwoRealPreviewLoopDecodeCacheKey where
  width : UInt32
  height : UInt32
  sourceIdentity : Option SwitcherH264DecodeSourceIdentity
  encodedPayload : List UInt8
deriving DecidableEq

inductive TwoRealContinuousOutputPipelineExperimentMode where
  | default | scaledBgr24 | noScaleBgra
deriving DecidableEq, Repr

namespace TwoRealContinuousOutputPipelineExperimentMode

def usesDynamicSourceSizeOutput : TwoRealContinuousOutputPipelineExperimentMode → Bool
  | .default | .scaledBgr24 => false
  | .noScaleBgra => true

def outputBytesPerPixel : TwoRealContinuousOutputPipelineExperimentMode → Nat
  | .default | .noScaleBgra => 4
  | .scaledBgr24 => 3

def outputFrameBytes (mode : TwoRealContinuousOutputPipelineExperimentMode) (width height : UInt32) : Nat :=
  width.toNat * height.toNat * mode.outputBytesPerPixel

end TwoRealContinuousOutputPipelineExperimentMode

structure TwoRealContinuousDecodeMetadata where
  key : TwoRealPreviewLoopDecodeCacheKey
  frameId : UInt64
deriving DecidableEq

structure TwoRealContinuousDecodeInput where
  metadata : TwoRealContinuousDecodeMetadata
  encodedPayload : List UInt8
deriving DecidableEq

structure TwoRealContinuousDecodeOutput where
  metadata : TwoRealContinuousDecodeMetadata
  frame : SwitcherDecodedFrame
deriving DecidableEq

inductive TwoRealContinuousDecodeEvent where
  | decoded (output : TwoRealContinuousDecodeOutput)
  | runtimeError (reason : String)
deriving DecidableEq

def TwoRealContinuousDecodeEvent.output? : TwoRealContinuousDecodeEvent → Option TwoRealContinuousDecodeOutput
  | .decoded output => some output
  | .runtimeError _ => none

/-- One turn of the loop in `convert_bgr24_to_bgra8_in_place`. -/
def convertPixel (pixels : List UInt8) (pixelIndex : Nat) : List UInt8 :=
  let sourceIndex := pixelIndex * 3
  let targetIndex := pixelIndex * 4
  let b := pixels.getD sourceIndex 0
  let g := pixels.getD (sourceIndex + 1) 0
  let r := pixels.getD (sourceIndex + 2) 0
  (((pixels.set targetIndex b).set (targetIndex + 1) g).set (targetIndex + 2) r).set (targetIndex + 3) 255

/-- The last pixel first, as a pixel grows into the place of the ones behind it. -/
def convertBgr24ToBgra8InPlace (pixels : List UInt8) (bgrLen : Nat) : List UInt8 :=
  (List.range (bgrLen / 3)).reverse.foldl convertPixel pixels

/-- Where the writer thread stands in `two_real_continuous_ffmpeg_writer_loop`. -/
inductive WriterState where
  | receiving
  | received (input : TwoRealContinuousDecodeInput)
  /-- The metadata is queued and `write_all` runs. -/
  | writing (input : TwoRealContinuousDecodeInput)
  | written
  /-- The error is sent; the receiver of the input channel is still there. -/
  | failed
  | stopped
deriving DecidableEq

/-- Where the reader thread stands in `two_real_continuous_ffmpeg_reader_loop`. -/
inductive ReaderState where
  | reading (bytes : List UInt8)
  | sending (output : TwoRealContinuousDecodeOutput)
  | stopped
deriving DecidableEq

def ReaderState.bytes : ReaderState → List UInt8
  | .reading bytes => bytes
  | _ => []

def ReaderState.output? : ReaderState → Option TwoRealContinuousDecodeOutput
  | .sending output => some output
  | _ => none

structure DecoderProcess where
  received : List (List UInt8)
  emitted : Nat
  running : Bool
deriving DecidableEq

/-- The threads of a session, the decoder process between them and what is under way. The last two
fields keep the access units whose write was begun and the outputs that the main loop took. -/
structure TwoRealContinuousDecodeSession where
  outputWidth : UInt32
  outputHeight : UInt32
  expectedLen : Nat
  outputPipelineExperimentMode : TwoRealContinuousOutputPipelineExperimentMode
  inputQueue : List TwoRealContinuousDecodeInput
  writer : WriterState
  correspondence : List TwoRealContinuousDecodeMetadata
  stdin : List (List UInt8)
  process : DecoderProcess
  stdout : List UInt8
  reader : ReaderState
  outputQueue : List TwoRealContinuousDecodeEvent
  handed : List TwoRealContinuousDecodeInput
  drained : List TwoRealContinuousDecodeOutput

def continuousDecodeQueueBound : Nat := 30

/-- `spawn_two_real_continuous_ffmpeg_decode_session`, when the process starts. -/
def spawnContinuousDecodeSession (outputWidth outputHeight : UInt32) (expectedLen : Nat)
    (outputPipelineExperimentMode : TwoRealContinuousOutputPipelineExperimentMode) :
    TwoRealContinuousDecodeSession where
  outputWidth
  outputHeight
  expectedLen
  outputPipelineExperimentMode
  inputQueue := []
  writer := .receiving
  correspondence := []
  stdin := []
  process := ⟨[], 0, true⟩
  stdout := []
  reader := .reading []
  outputQueue := []
  handed := []
  drained := []

/-- The pictures a decoder process emits, for each length it can be told to emit. -/
abbrev DecoderPictures := (length : Nat) → Nat → Vector UInt8 length

/-- What the threads and the process do between two actions of the main loop. -/
inductive ThreadStep where
  | writerReceives
  | writerPushes
  | writerWrites
  | writerReturns
  | writerFails (error : String)
  | processReceives
  | processEmits
  | processExits (unread : Nat)
  | readerReads (length : Nat)
  | readerEof
  | readerFails (error : String)
  | readerPops
  | readerSends
deriving DecidableEq

namespace TwoRealContinuousDecodeSession

/-- The picture the reader makes of the bytes it has read. -/
def outputFrame (session : TwoRealContinuousDecodeSession) (bytes : List UInt8) : SwitcherDecodedFrame where
  width := session.outputWidth
  height := session.outputHeight
  pixelFormat := .bgra8
  pixels :=
    match session.outputPipelineExperimentMode with
    | .default | .noScaleBgra => bytes
    | .scaledBgr24 =>
      let bufferLen := session.outputWidth.toNat * session.outputHeight.toNat * 4
      convertBgr24ToBgra8InPlace (bytes ++ List.replicate (bufferLen - bytes.length) 0) session.expectedLen

/-- The reader ends its loop with an error event. -/
def stopReader (session : TwoRealContinuousDecodeSession) (reason : String) :
    TwoRealContinuousDecodeSession :=
  { session with reader := .stopped, outputQueue := session.outputQueue ++ [.runtimeError reason] }

/-- One step of a thread or of the process; a step that is not possible changes nothing. -/
def threadStep (pictures : DecoderPictures) (session : TwoRealContinuousDecodeSession) :
    ThreadStep → TwoRealContinuousDecodeSession
  | .writerReceives =>
    match session.writer, session.inputQueue with
    | .receiving, input :: inputQueue => { session with writer := .received input, inputQueue }
    | _, _ => session
  | .writerPushes =>
    match session.writer with
    | .received input =>
      { session with
        writer := .writing input
        correspondence := session.correspondence ++ [input.metadata]
        handed := session.handed ++ [input] }
    | _ => session
  | .writerWrites =>
    match session.writer with
    | .writing input => { session with writer := .written, stdin := session.stdin ++ [input.encodedPayload] }
    | _ => session
  | .writerReturns =>
    match session.writer with
    | .written => { session with writer := .receiving }
    | .failed => { session with writer := .stopped, inputQueue := [] }
    | _ => session
  | .writerFails error =>
    match session.writer with
    | .writing _ =>
      { session with
        writer := .failed
        outputQueue := session.outputQueue ++ [.runtimeError ("continuous_stdin_write_failed:" ++ error)] }
    | _ => session
  | .processReceives =>
    match session.process.running, session.stdin with
    | true, payload :: stdin =>
      { session with
        stdin, process := { session.process with received := session.process.received ++ [payload] } }
    | _, _ => session
  | .processEmits =>
    if session.process.running ∧ session.process.emitted < session.process.received.length then
      { session with
        process := { session.process with emitted := session.process.emitted + 1 }
        stdout := session.stdout ++ (pictures session.expectedLen session.process.emitted).toList }
    else session
  | .processExits unread =>
    { session with
      process := { session.process with running := false }, stdout := session.stdout.take unread }
  | .readerReads length =>
    match session.reader with
    | .reading bytes =>
      let bytesRead := min length (session.expectedLen - bytes.length)
      { session with
        reader := .reading (bytes ++ session.stdout.take bytesRead), stdout := session.stdout.drop bytesRead }
    | _ => session
  | .readerEof =>
    match session.reader with
    | .reading bytes =>
      if bytes.length < session.expectedLen ∧ session.process.running = false ∧ session.stdout = [] then
        session.stopReader "continuous_stdout_read_failed:continuous_stdout_read_unexpected_eof"
      else session
    | _ => session
  | .readerFails error =>
    match session.reader with
    | .reading bytes =>
      if bytes.length < session.expectedLen then
        session.stopReader ("continuous_stdout_read_failed:" ++ error)
      else session
    | _ => session
  | .readerPops =>
    match session.reader with
    | .reading bytes =>
      if bytes.length < session.expectedLen then session
      else
        match session.correspondence with
        | [] => session.stopReader "continuous_frame_id_mismatch_output_without_input"
        | metadata :: correspondence =>
          { session with reader := .sending ⟨metadata, session.outputFrame bytes⟩, correspondence }
    | _ => session
  | .readerSends =>
    match session.reader with
    | .sending output =>
      { session with reader := .reading [], outputQueue := session.outputQueue ++ [.decoded output] }
    | _ => session

/-- Everything that happens up to the next action of the main loop. -/
def advance (pictures : DecoderPictures) (session : TwoRealContinuousDecodeSession)
    (steps : List ThreadStep) : TwoRealContinuousDecodeSession :=
  steps.foldl (threadStep pictures) session

inductive TrySend where
  | sent (session : TwoRealContinuousDecodeSession)
  | full
  | disconnected

/-- `input_tx.try_send`. -/
def trySend (session : TwoRealContinuousDecodeSession) (input : TwoRealContinuousDecodeInput) : TrySend :=
  if session.writer = .stopped then .disconnected
  else if continuousDecodeQueueBound ≤ session.inputQueue.length then .full
  else .sent { session with inputQueue := session.inputQueue ++ [input] }

/-- Every event that waits in `output_rx`, and the session without them. -/
def takeEvents (session : TwoRealContinuousDecodeSession) :
    List TwoRealContinuousDecodeEvent × TwoRealContinuousDecodeSession :=
  (session.outputQueue,
    { session with
      outputQueue := []
      drained := session.drained ++ session.outputQueue.filterMap TwoRealContinuousDecodeEvent.output? })

/-- What the steps that do something do, with what each of them has found. -/
inductive ThreadMove (pictures : DecoderPictures) (session : TwoRealContinuousDecodeSession) :
    TwoRealContinuousDecodeSession → Prop where
  | receives {input : TwoRealContinuousDecodeInput} {inputQueue : List TwoRealContinuousDecodeInput}
      (hwriter : session.writer = .receiving) (hqueue : session.inputQueue = input :: inputQueue) :
      ThreadMove pictures session { session with writer := .received input, inputQueue }
  | pushes {input : TwoRealContinuousDecodeInput} (hwriter : session.writer = .received input) :
      ThreadMove pictures session
        { session with
          writer := .writing input
          correspondence := session.correspondence ++ [input.metadata]
          handed := session.handed ++ [input] }
  | writes {input : TwoRealContinuousDecodeInput} (hwriter : session.writer = .writing input) :
      ThreadMove pictures session
        { session with writer := .written, stdin := session.stdin ++ [input.encodedPayload] }
  | returns (hwriter : session.writer = .written) : ThreadMove pictures session { session with writer := .receiving }
  | stops (hwriter : session.writer = .failed) :
      ThreadMove pictures session { session with writer := .stopped, inputQueue := [] }
  | fails {input : TwoRealContinuousDecodeInput} (hwriter : session.writer = .writing input) (reason : String) :
      ThreadMove pictures session
        { session with writer := .failed, outputQueue := session.outputQueue ++ [.runtimeError reason] }
  | processReceives {payload : List UInt8} {stdin : List (List UInt8)} (hstdin : session.stdin = payload :: stdin) :
      ThreadMove pictures session
        { session with
          stdin, process := { session.process with received := session.process.received ++ [payload] } }
  | processEmits (hrunning : session.process.running = true)
      (hemit : session.process.emitted < session.process.received.length) :
      ThreadMove pictures session
        { session with
          process := { session.process with emitted := session.process.emitted + 1 }
          stdout := session.stdout ++ (pictures session.expectedLen session.process.emitted).toList }
  | processExits (unread : Nat) :
      ThreadMove pictures session
        { session with
          process := { session.process with running := false }, stdout := session.stdout.take unread }
  | reads {bytes : List UInt8} (hreader : session.reader = .reading bytes) (length : Nat) :
      ThreadMove pictures session
        { session with
          reader := .reading (bytes ++ session.stdout.take (min length (session.expectedLen - bytes.length)))
          stdout := session.stdout.drop (min length (session.expectedLen - bytes.length)) }
  | readerStops {bytes : List UInt8} (hreader : session.reader = .reading bytes) (reason : String) :
      ThreadMove pictures session (session.stopReader reason)
  | pops {bytes : List UInt8} {metadata : TwoRealContinuousDecodeMetadata}
      {correspondence : List TwoRealContinuousDecodeMetadata} (hreader : session.reader = .reading bytes)
      (hfull : ¬bytes.length < session.expectedLen)
      (hcorrespondence : session.correspondence = metadata :: correspondence) :
      ThreadMove pictures session
        { session with reader := .sending ⟨metadata, session.outputFrame bytes⟩, correspondence }
  | sends {output : TwoRealContinuousDecodeOutput} (hreader : session.reader = .sending output) :
      ThreadMove pictures session
        { session with reader := .reading [], outputQueue := session.outputQueue ++ [.decoded output] }

section Moves

variable {pictures : DecoderPictures} {session : TwoRealContinuousDecodeSession}

theorem threadStep_cases (pictures : DecoderPictures) (session : TwoRealContinuousDecodeSession)
    (step : ThreadStep) :
    session.threadStep pictures step = session ∨ ThreadMove pictures session (session.threadStep pictures step) := by
  unfold threadStep
  cases step with
  | writerReceives =>
    dsimp only
    split
    next hwriter hqueue => exact .inr (.receives hwriter hqueue)
    next => exact .inl rfl
  | writerPushes =>
    dsimp only
    split
    next hwriter => exact .inr (.pushes hwriter)
    next => exact .inl rfl
  | writerWrites =>
    dsimp only
    split
    next hwriter => exact .inr (.writes hwriter)
    next => exact .inl rfl
  | writerReturns =>
    dsimp only
    split
    next hwriter => exact .inr (.returns hwriter)
    next hwriter => exact .inr (.stops hwriter)
    next => exact .inl rfl
  | writerFails error =>
    dsimp only
    split
    next hwriter => exact .inr (.fails hwriter _)
    next => exact .inl rfl
  | processReceives =>
    dsimp only
    split
    next hstdin => exact .inr (.processReceives hstdin)
    next => exact .inl rfl
  | processEmits =>
    dsimp only
    split
    next hemit => exact .inr (.processEmits hemit.1 hemit.2)
    next => exact .inl rfl
  | processExits unread => exact .inr (.processExits unread)
  | readerReads length =>
    dsimp only
    split
    next hreader => exact .inr (.reads hreader length)
    next => exact .inl rfl
  | readerEof =>
    dsimp only
    split
    next hreader =>
      split
      next => exact .inr (.readerStops hreader _)
      next => exact .inl rfl
    next => exact .inl rfl
  | readerFails error =>
    dsimp only
    split
    next hreader =>
      split
      next => exact .inr (.readerStops hreader _)
      next => exact .inl rfl
    next => exact .inl rfl
  | readerPops =>
    dsimp only
    split
    next hreader =>
      split
      next => exact .inl rfl
      next hfull =>
        split
        next => exact .inr (.readerStops hreader _)
        next hcorrespondence => exact .inr (.pops hreader hfull hcorrespondence)
    next => exact .inl rfl
  | readerSends =>
    dsimp only
    split
    next hreader => exact .inr (.sends hreader)
    next => exact .inl rfl

/-- What every move keeps holds after any steps of the threads and of the process. -/
theorem advance_keeps {P : TwoRealContinuousDecodeSession → Prop}
    (hmove : ∀ before after, ThreadMove pictures before after → P before → P after) (h : P session)
    (steps : List ThreadStep) : P (session.advance pictures steps) := by
  unfold advance
  induction steps generalizing session with
  | nil => exact h
  | cons step steps ih =>
    refine ih ?_
    rcases threadStep_cases pictures session step with hsame | hmoved
    · rw [hsame]
      exact h
    · exact hmove _ _ hmoved h

end Moves

end TwoRealContinuousDecodeSession

end StreamSync
