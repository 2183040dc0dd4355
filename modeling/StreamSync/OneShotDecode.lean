import StreamSync.RawvideoReading

namespace StreamSync

open PipeReading

structure ExitStatus where
  success : Bool
  code : Option Int32
  text : String
deriving DecidableEq

/-- What the operating system and the decoder process do in one decode. `stderr` is what the thread that
reads it returns, with the trimmed text, and `none` when the thread panics. -/
structure OneShotProcess where
  spawn : Except IoError Unit
  write : Except IoError Unit
  stdoutPiped : Bool
  stderrPiped : Bool
  stdout : RawvideoStdout
  wait : Except IoError ExitStatus
  stderr : Option (Except IoError String)

inductive OneShotReturn where
  | returned (result : SwitcherH264DecodeResult)
  | blocked
  | panicked
deriving DecidableEq

def SwitcherH264DecodeFailure.fromInput (input : SwitcherH264DecodeInput) (message : String)
    (decodedStdoutLen : Nat) (ffmpegExitStatus : Option Int32) (ffmpegStderrSummary : Option String) :
    SwitcherH264DecodeFailure :=
  let payloadSummary := inspectPayload input.encodedPayload
  { message
    decodeInputPayloadLen := input.encodedPayload.length
    decodeExpectedWidth := input.width
    decodeExpectedHeight := input.height
    decodeExpectedPixelFormat := .bgra8
    decodeExpectedRawvideoLen := (outputExpectedBytes input.width input.height).toNat
    decodedStdoutLen
    ffmpegExitStatus
    ffmpegStderrSummary
    payloadHasSps := payloadSummary.hasSps
    payloadHasPps := payloadSummary.hasPps
    payloadHasIdr := payloadSummary.hasIdr
    payloadHasNonIdrVcl := payloadSummary.hasNonIdrVcl
    payloadNalKinds := payloadSummary.nalKinds }

/-- What is made of the picture once the process has ended and its stderr is read. -/
def finishOneShotDecode (input : SwitcherH264DecodeInput) (stdoutBytes : List UInt8) (extraOutputLen : Nat)
    (status : ExitStatus) (stderrSummary : String) : SwitcherH264DecodeResult :=
  let summary := if stderrSummary.isEmpty then none else some stderrSummary
  if !status.success then
    let message := if stderrSummary.isEmpty then "ffmpeg decode exited with status " ++ status.text
      else stderrSummary
    .failed (.fromInput input message stdoutBytes.length status.code summary)
  else if extraOutputLen ≠ 0 then
    let expectedLen := (outputExpectedBytes input.width input.height).toNat
    let actualLen := min (expectedLen + extraOutputLen) usizeMax
    .failed (.fromInput input ("decoded_rawvideo_length_mismatch_expected=" ++ toString expectedLen ++
      "_actual=" ++ toString actualLen) actualLen status.code summary)
  else .decoded ⟨input.width, input.height, .bgra8, stdoutBytes⟩

/-- The part behind the exchange on the pipes of the process. -/
def awaitOneShotProcess (input : SwitcherH264DecodeInput) (process : OneShotProcess)
    (stdoutBytes : List UInt8) (extraOutputLen : Nat) : SwitcherH264DecodeResult :=
  match process.wait with
  | .error error => .failed (.fromInput input error.message stdoutBytes.length none none)
  | .ok status =>
    match process.stderr with
    | some (.error error) => .failed (.fromInput input error.message stdoutBytes.length status.code none)
    | some (.ok stderrSummary) => finishOneShotDecode input stdoutBytes extraOutputLen status stderrSummary
    | none => finishOneShotDecode input stdoutBytes extraOutputLen status ""

/-- `decode_with_one_shot_ffmpeg_runtime_inner`. -/
def decodeWithOneShotFfmpegRuntime (input : SwitcherH264DecodeInput) (process : OneShotProcess) :
    OneShotReturn :=
  if input.encodedPayload.isEmpty then .returned (.deferred .emptyPayload)
  else if input.width = 0 ∨ input.height = 0 then .returned (.deferred .invalidDimensions)
  else
    let expectedLen := (outputExpectedBytes input.width input.height).toNat
    let failed (message : String) (decodedStdoutLen : Nat) : OneShotReturn :=
      .returned (.failed (.fromInput input message decodedStdoutLen none none))
    match process.spawn with
    | .error error =>
      if error.kind = .notFound then .returned (.deferred .ffmpegUnavailable) else failed error.message 0
    | .ok () =>
      match process.write with
      | .error error => failed error.message 0
      | .ok () =>
        if !process.stdoutPiped then failed "ffmpeg stdout pipe unavailable" 0
        else if !process.stderrPiped then failed "ffmpeg stderr pipe unavailable" 0
        else
          match (readExpectedRawvideoStdout process.stdout expectedLen).1 with
          | .blocked => .blocked
          | .panicked => .panicked
          | .err error partialBytes => failed error.message partialBytes.length
          | .ok stdoutBytes extraOutputLen =>
            .returned (awaitOneShotProcess input process stdoutBytes extraOutputLen)

section Length

variable {stdoutBytes bytes : List UInt8} {expectedLen extraOutputLen : Nat} {stdout : RawvideoStdout}

theorem probeExtraOutput_ok (h : (probeExtraOutput stdoutBytes stdout).1 = .ok bytes extraOutputLen) :
    bytes = stdoutBytes := by
  unfold probeExtraOutput at h
  dsimp only at h
  split at h
  next => cases h
  next => cases h
  next => cases h; rfl

theorem readRemaining_ok
    (h : (readRemaining stdoutBytes expectedLen stdout).1 = .ok bytes extraOutputLen) :
    bytes.length = expectedLen := by
  unfold readRemaining at h
  dsimp only at h
  split at h
  next => cases h
  next => cases h
  next =>
    split at h
    next => cases h
    next hlength =>
      rw [probeExtraOutput_ok h]
      exact not_not.mp hlength

/-- A read that succeeds gives exactly the bytes it was asked for. -/
theorem readExpectedRawvideoStdout_ok
    (h : (readExpectedRawvideoStdout stdout expectedLen).1 = .ok bytes extraOutputLen) :
    bytes.length = expectedLen := by
  unfold readExpectedRawvideoStdout at h
  split at h
  next => cases h
  next =>
    split at h
    next =>
      dsimp only at h
      split at h
      next => cases h
      next => cases h
      next =>
        split at h
        next => cases h
        next => exact readRemaining_ok h
    next => exact readRemaining_ok h

end Length

section Closed

variable {stdoutBytes : List UInt8} {expectedLen : Nat} {stdout : RawvideoStdout}

theorem probeExtraOutput_closed (hclosed : stdout.heldOpen = false) :
    ∃ read, (probeExtraOutput stdoutBytes stdout).1 = read ∧ read ≠ .blocked ∧ read ≠ .panicked := by
  have hends := readOut_closed stdout.deliveries
  unfold probeExtraOutput
  rw [hclosed]
  dsimp only
  split
  next hblocked => exact absurd hblocked hends
  next => exact ⟨_, rfl, nofun, nofun⟩
  next => exact ⟨_, rfl, nofun, nofun⟩

theorem readRemaining_closed (hclosed : stdout.heldOpen = false) :
    ∃ read, (readRemaining stdoutBytes expectedLen stdout).1 = read ∧ read ≠ .blocked ∧ read ≠ .panicked := by
  have hends := readUpTo_closed isInterrupted stdout.deliveries (expectedLen - stdoutBytes.length)
  unfold readRemaining
  rw [hclosed]
  dsimp only
  split
  next hblocked => exact absurd hblocked hends
  next => exact ⟨_, rfl, nofun, nofun⟩
  next =>
    split
    next => exact ⟨_, rfl, nofun, nofun⟩
    next => exact probeExtraOutput_closed rfl

/-- A read of what can be allocated ends where stdout is closed in the end. -/
theorem readExpectedRawvideoStdout_closed (hclosed : stdout.heldOpen = false) (hfits : expectedLen ≤ isizeMax) :
    ∃ read, (readExpectedRawvideoStdout stdout expectedLen).1 = read ∧ read ≠ .blocked ∧ read ≠ .panicked := by
  have hends := readUpTo_closed isInterrupted stdout.deliveries 1
  unfold readExpectedRawvideoStdout
  rw [if_neg (Nat.not_lt.mpr hfits), hclosed]
  split
  next =>
    dsimp only
    split
    next hblocked => exact absurd hblocked hends
    next => exact ⟨_, rfl, nofun, nofun⟩
    next =>
      split
      next => exact ⟨_, rfl, nofun, nofun⟩
      next => exact readRemaining_closed rfl
  next => exact readRemaining_closed hclosed

/-- A decode returns where its picture can be allocated and its process closes stdout in the end. -/
theorem decodeWithOneShotFfmpegRuntime_returns {input : SwitcherH264DecodeInput} {process : OneShotProcess}
    (hfits : (outputExpectedBytes input.width input.height).toNat ≤ isizeMax)
    (hclosed : process.stdout.heldOpen = false) :
    ∃ result, decodeWithOneShotFfmpegRuntime input process = .returned result := by
  obtain ⟨read, hread, hblocked, hpanicked⟩ := readExpectedRawvideoStdout_closed hclosed hfits
  unfold decodeWithOneShotFfmpegRuntime
  dsimp only
  rw [hread]
  split
  next => exact ⟨_, rfl⟩
  next =>
    split
    next => exact ⟨_, rfl⟩
    next =>
      split
      next => split <;> exact ⟨_, rfl⟩
      next =>
        split
        next => exact ⟨_, rfl⟩
        next =>
          split
          next => exact ⟨_, rfl⟩
          next =>
            split
            next => exact ⟨_, rfl⟩
            next =>
              cases read with
              | blocked => exact absurd rfl hblocked
              | panicked => exact absurd rfl hpanicked
              | err error partialBytes => exact ⟨_, rfl⟩
              | ok bytes extraOutputLen => exact ⟨_, rfl⟩

end Closed

section Decoded

variable {input : SwitcherH264DecodeInput} {frame : SwitcherDecodedFrame}

theorem awaitOneShotProcess_decoded {process : OneShotProcess} {stdoutBytes : List UInt8}
    {extraOutputLen : Nat}
    (h : awaitOneShotProcess input process stdoutBytes extraOutputLen = .decoded frame) :
    frame = ⟨input.width, input.height, .bgra8, stdoutBytes⟩ := by
  have hfinish (status : ExitStatus) (stderrSummary : String)
      (h : finishOneShotDecode input stdoutBytes extraOutputLen status stderrSummary = .decoded frame) :
      frame = ⟨input.width, input.height, .bgra8, stdoutBytes⟩ := by
    unfold finishOneShotDecode at h
    dsimp only at h
    split at h
    next => cases h
    next =>
      split at h
      next => cases h
      next => cases h; rfl
  unfold awaitOneShotProcess at h
  split at h
  next => cases h
  next =>
    split at h
    next => cases h
    next => exact hfinish _ _ h
    next => exact hfinish _ _ h

/-- A decoded picture has the size of the input and as many bytes as were computed for it. -/
theorem decodeWithOneShotFfmpegRuntime_decoded {process : OneShotProcess}
    (h : decodeWithOneShotFfmpegRuntime input process = .returned (.decoded frame)) :
    frame.width = input.width ∧ frame.height = input.height ∧
      frame.pixels.length = (outputExpectedBytes input.width input.height).toNat := by
  unfold decodeWithOneShotFfmpegRuntime at h
  dsimp only at h
  split at h
  next => cases h
  next =>
    split at h
    next => cases h
    next =>
      split at h
      next => split at h <;> cases h
      next =>
        split at h
        next => cases h
        next =>
          split at h
          next => cases h
          next =>
            split at h
            next => cases h
            next =>
              split at h
              next => cases h
              next => cases h
              next => cases h
              next hread =>
                obtain rfl := awaitOneShotProcess_decoded (OneShotReturn.returned.inj h)
                exact ⟨rfl, rfl, readExpectedRawvideoStdout_ok hread⟩

theorem exchange_decoded {outcomes : PersistentDecodeOutcomes} {call : PersistentDecodeCall}
    (h : (call.exchange input outcomes).2 = .decoded frame) :
    outcomes.oneShot = .decoded frame ∨
      ∃ bytes, outcomes.read = .ok bytes 0 ∧ frame = ⟨input.width, input.height, .bgra8, bytes⟩ := by
  unfold PersistentDecodeCall.exchange at h
  dsimp only at h
  split at h
  next => exact .inl h
  next =>
    split at h
    next => exact .inl h
    next =>
      split at h
      next => exact .inl h
      next => exact .inl h
      next => exact .inl h
      next bytes extraOutputLen hread =>
        split at h
        next => exact .inl h
        next hextra =>
          cases h
          exact .inr ⟨bytes, by rw [hread, not_not.mp hextra], rfl⟩

/-- A picture of the persistent hook is one of the fallback, or what the reader thread read. -/
theorem decodePersistent_decoded {configEnabled : Bool} {outcomes : PersistentDecodeOutcomes}
    {state : SwitcherPersistentFfmpegDecodeRuntimeState}
    (h : (decodePersistent configEnabled input outcomes state).2 = .decoded frame) :
    outcomes.oneShot = .decoded frame ∨
      ∃ bytes, outcomes.read = .ok bytes 0 ∧ frame = ⟨input.width, input.height, .bgra8, bytes⟩ := by
  unfold decodePersistent at h
  dsimp only at h
  repeat' split at h
  all_goals first
    | cases h
    | exact .inl h
    | exact exchange_decoded h

end Decoded

end StreamSync
