import StreamSync.Lib.LittleEndian
import StreamSync.Lib.RawReader
import StreamSync.OneShotDecode
import StreamSync.ProtocolRoundTrip

namespace StreamSync

open ByteCursor LittleEndian PipeReading

inductive SwitcherDecodedFrameDumpError where
  | invalidDimensions
  | invalidBufferLength (expected actual : Nat)
  | io (path : String) (kind : IoErrorKind)
deriving DecidableEq

structure SwitcherDecodedFrameDump where
  path : String
  bytesWritten : Nat
deriving DecidableEq

structure SwitcherDecodedFrameRenderInput where
  width : UInt32
  height : UInt32
  pixelFormat : SwitcherDecodedFramePixelFormat
  pixels : List UInt8
deriving DecidableEq

inductive SwitcherDecodedFrameRenderInputError where
  | unsupportedPixelFormat (actual : SwitcherDecodedFramePixelFormat)
  | invalidDimensions
  | invalidBufferLength (expected actual : Nat)
deriving DecidableEq

namespace SwitcherDecodedFrame

/-- The two headers of a BMP file of 32-bit pixels. -/
def bmpHeader (frame : SwitcherDecodedFrame) (fileSize pixelBytesLen : Nat) : List UInt8 :=
  [0x42, 0x4D] ++ leBytes 4 fileSize ++ [0, 0, 0, 0] ++ leBytes 4 54 ++ leBytes 4 40
    ++ leBytes 4 frame.width.toNat ++ leBytes 4 frame.height.toNat ++ leBytes 2 1 ++ leBytes 2 32
    ++ leBytes 4 0 ++ leBytes 4 pixelBytesLen ++ leBytes 4 2835 ++ leBytes 4 2835 ++ leBytes 4 0 ++ leBytes 4 0

/-- The slice of one row; `none` is a panic. -/
def bmpRow (frame : SwitcherDecodedFrame) (row : Nat) : Option (List UInt8) :=
  let start := UInt64.ofNat row * frame.width.toUInt64 * 4
  let stop := start + frame.width.toUInt64 * 4
  sliceBytes frame.pixels start.toNat stop.toNat

/-- The last of the rows is written first. -/
def bmpRows (frame : SwitcherDecodedFrame) : Nat → Option (List UInt8)
  | 0 => some []
  | row + 1 => do
    let here ← frame.bmpRow row
    let above ← frame.bmpRows row
    some (here ++ above)

/-- `write_bmp`, where `write` is what `std::fs::write` returns. -/
def writeBmp (frame : SwitcherDecodedFrame) (path : String) (write : Except IoErrorKind Unit) :
    Option (Except SwitcherDecodedFrameDumpError SwitcherDecodedFrameDump) :=
  if frame.width = 0 ∨ frame.height = 0 then some (.error .invalidDimensions)
  else
    let expected := (outputExpectedBytes frame.width frame.height).toNat
    if frame.pixels.length ≠ expected then
      some (.error (.invalidBufferLength expected frame.pixels.length))
    else
      let fileSize := 14 + 40 + expected
      if isizeMax < fileSize then none
      else do
        let rows ← frame.bmpRows frame.height.toNat
        let output := frame.bmpHeader fileSize expected ++ rows
        match write with
        | .error kind => some (.error (.io path kind))
        | .ok () => some (.ok ⟨path, output.length⟩)

end SwitcherDecodedFrame

def SwitcherDecodedFrameRenderInput.fromDecodedFrame (frame : SwitcherDecodedFrame) :
    Except SwitcherDecodedFrameRenderInputError SwitcherDecodedFrameRenderInput :=
  if frame.pixelFormat ≠ .bgra8 then .error (.unsupportedPixelFormat frame.pixelFormat)
  else if frame.width = 0 ∨ frame.height = 0 then .error .invalidDimensions
  else
    let expected := (outputExpectedBytes frame.width frame.height).toNat
    if frame.pixels.length ≠ expected then .error (.invalidBufferLength expected frame.pixels.length)
    else .ok ⟨frame.width, frame.height, frame.pixelFormat, frame.pixels⟩

section Overflow

variable {width height : UInt32}

theorem toNat_outputExpectedBytes (width height : UInt32) :
    (outputExpectedBytes width height).toNat = 4 * (width.toNat * height.toNat) % 2 ^ 64 := by
  have hproduct : width.toNat * height.toNat < 2 ^ 64 :=
    calc width.toNat * height.toNat < 2 ^ 32 * 2 ^ 32 := Nat.mul_lt_mul'' width.toNat_lt height.toNat_lt
      _ = 2 ^ 64 := by norm_num
  rw [outputExpectedBytes, UInt64.toNat_mul, UInt64.toNat_mul, UInt32.toNat_toUInt64, UInt32.toNat_toUInt64,
    Nat.mod_eq_of_lt hproduct, Nat.mul_comm 4]
  rfl

theorem outputExpectedBytes_exact_iff (width height : UInt32) :
    (outputExpectedBytes width height).toNat = 4 * (width.toNat * height.toNat) ↔
      width.toNat * height.toNat < 2 ^ 62 := by
  rw [toNat_outputExpectedBytes, Nat.mod_eq_iff_lt (by norm_num)]
  omega

theorem sliceBytes_length {buffer bytes : List UInt8} {start stop : Nat}
    (h : sliceBytes buffer start stop = some bytes) : bytes.length = stop - start := by
  unfold sliceBytes at h
  split at h
  next hbounds =>
    cases h
    rw [List.length_take, List.length_drop]
    omega
  next => cases h

theorem toNat_mul_four {n : UInt64} (h : n.toNat < 2 ^ 62) : (n * 4).toNat = 4 * n.toNat := by
  rw [UInt64.toNat_mul]
  change n.toNat * 4 % 2 ^ 64 = _
  rw [Nat.mod_eq_of_lt (by omega), Nat.mul_comm]

theorem length_bmpRow {frame : SwitcherDecodedFrame} {bytes : List UInt8} {row : Nat}
    (hsize : frame.width.toNat * frame.height.toNat < 2 ^ 62) (hrow : row < frame.height.toNat)
    (h : frame.bmpRow row = some bytes) : bytes.length = 4 * frame.width.toNat := by
  have hlength := sliceBytes_length h
  have hheight := frame.height.toNat_lt
  have hwidth := frame.width.toNat_lt
  have hbelow : (row + 1) * frame.width.toNat ≤ frame.height.toNat * frame.width.toNat :=
    Nat.mul_le_mul_right _ hrow
  rw [Nat.mul_comm frame.height.toNat, Nat.succ_mul] at hbelow
  have hoffset : (UInt64.ofNat row * frame.width.toUInt64).toNat = row * frame.width.toNat := by
    rw [UInt64.toNat_mul, UInt64.toNat_ofNat_of_lt' (Nat.lt_trans (Nat.lt_trans hrow hheight) (by decide)),
      UInt32.toNat_toUInt64, Nat.mod_eq_of_lt (by omega)]
  have hstart : (UInt64.ofNat row * frame.width.toUInt64 * 4).toNat = 4 * (row * frame.width.toNat) := by
    rw [toNat_mul_four (by omega), hoffset]
  have hrowLen : (frame.width.toUInt64 * 4).toNat = 4 * frame.width.toNat := by
    rw [toNat_mul_four, UInt32.toNat_toUInt64]
    rw [UInt32.toNat_toUInt64]
    omega
  rw [UInt64.toNat_add, hstart, hrowLen, Nat.mod_eq_of_lt (by omega)] at hlength
  omega

theorem length_bmpRows {frame : SwitcherDecodedFrame}
    (hsize : frame.width.toNat * frame.height.toNat < 2 ^ 62) {rows : Nat} (hrows : rows ≤ frame.height.toNat)
    {bytes : List UInt8} (h : frame.bmpRows rows = some bytes) :
    bytes.length = 4 * (frame.width.toNat * rows) := by
  induction rows generalizing bytes with
  | zero =>
    cases h
    rfl
  | succ row ih =>
    obtain ⟨here, hhere, h⟩ := Option.bind_eq_some_iff.mp h
    obtain ⟨above, habove, h⟩ := Option.bind_eq_some_iff.mp h
    cases h
    rw [List.length_append, length_bmpRow hsize hrows hhere, ih (Nat.le_of_succ_le hrows) habove, Nat.mul_succ]
    omega

theorem length_bmpHeader (frame : SwitcherDecodedFrame) (fileSize pixelBytesLen : Nat) :
    (frame.bmpHeader fileSize pixelBytesLen).length = 54 := by
  simp [SwitcherDecodedFrame.bmpHeader]

end Overflow

/-- What the reader thread and the fallback of the persistent hook can give for an input. -/
structure PersistentDecodeOutcomes.Real (outcomes : PersistentDecodeOutcomes) (input : SwitcherH264DecodeInput) :
    Prop where
  read : outcomes.read = .timeout ∨ outcomes.read = .disconnected ∨ ∃ stdout, outcomes.read =
    (readExpectedRawvideoStdout stdout (outputExpectedBytes input.width input.height).toNat).1.outcome
  oneShot : ∃ process, decodeWithOneShotFfmpegRuntime input process = .returned outcomes.oneShot

/-- A frame has four bytes for each of its pixels. -/
def SwitcherDecodedFrame.Exact (frame : SwitcherDecodedFrame) : Prop :=
  frame.pixels.length = 4 * (frame.width.toNat * frame.height.toNat)

/-- No length that the decode, dump and render paths compute for a size overflows, and every picture of the
size is exact, whatever the decoder processes do. -/
structure DecodedSizesExact (width height : UInt32) : Prop where
  expectedLen : (outputExpectedBytes width height).toNat = 4 * (width.toNat * height.toNat)
  failure : ∀ input message decodedStdoutLen status stderrSummary, input.width = width → input.height = height →
    (SwitcherH264DecodeFailure.fromInput input message decodedStdoutLen status
      stderrSummary).decodeExpectedRawvideoLen = 4 * (width.toNat * height.toNat)
  oneShot : ∀ input process frame, input.width = width → input.height = height →
    decodeWithOneShotFfmpegRuntime input process = .returned (.decoded frame) →
      frame.width = width ∧ frame.height = height ∧ frame.Exact
  persistent : ∀ configEnabled input outcomes state frame, input.width = width → input.height = height →
    outcomes.Real input → (decodePersistent configEnabled input outcomes state).2 = .decoded frame →
      frame.width = width ∧ frame.height = height ∧ frame.Exact
  dump : ∀ (frame : SwitcherDecodedFrame) path write, frame.width = width → frame.height = height →
    (∀ expected actual, frame.writeBmp path write = some (.error (.invalidBufferLength expected actual)) →
      expected = 4 * (width.toNat * height.toNat)) ∧
    ∀ dump, frame.writeBmp path write = some (.ok dump) →
      frame.Exact ∧ dump.bytesWritten = 54 + 4 * (width.toNat * height.toNat)
  render : ∀ (frame : SwitcherDecodedFrame), frame.width = width → frame.height = height →
    (∀ expected actual, SwitcherDecodedFrameRenderInput.fromDecodedFrame frame =
      .error (.invalidBufferLength expected actual) → expected = 4 * (width.toNat * height.toNat)) ∧
    ∀ input, SwitcherDecodedFrameRenderInput.fromDecodedFrame frame = .ok input →
      frame.Exact ∧ input.pixels = frame.pixels

section Exact

variable {frame : SwitcherDecodedFrame}

theorem persistent_decoded {configEnabled : Bool} {input : SwitcherH264DecodeInput}
    {outcomes : PersistentDecodeOutcomes} {state : SwitcherPersistentFfmpegDecodeRuntimeState}
    (hreal : outcomes.Real input) (h : (decodePersistent configEnabled input outcomes state).2 = .decoded frame) :
    frame.width = input.width ∧ frame.height = input.height ∧
      frame.pixels.length = (outputExpectedBytes input.width input.height).toNat := by
  rcases decodePersistent_decoded h with honeShot | ⟨bytes, hbytes, rfl⟩
  · obtain ⟨process, hprocess⟩ := hreal.oneShot
    rw [honeShot] at hprocess
    exact decodeWithOneShotFfmpegRuntime_decoded hprocess
  · refine ⟨rfl, rfl, ?_⟩
    have hread := hreal.read
    rw [hbytes] at hread
    rcases hread with hread | hread | ⟨stdout, hread⟩
    · cases hread
    · cases hread
    · have hok : (readExpectedRawvideoStdout stdout
          (outputExpectedBytes input.width input.height).toNat).1 = .ok bytes 0 := by
        unfold RawvideoRead.outcome at hread
        split at hread
        next heq => cases hread; exact heq
        next => cases hread
        next => cases hread
        next => cases hread
      exact readExpectedRawvideoStdout_ok hok

theorem writeBmp_error {path : String} {write : Except IoErrorKind Unit} {expected actual : Nat}
    (h : frame.writeBmp path write = some (.error (.invalidBufferLength expected actual))) :
    expected = (outputExpectedBytes frame.width frame.height).toNat := by
  unfold SwitcherDecodedFrame.writeBmp at h
  dsimp only at h
  split at h
  next => cases h
  next =>
    split at h
    next => cases h; rfl
    next =>
      split at h
      next => cases h
      next =>
        obtain ⟨rows, _, h⟩ := Option.bind_eq_some_iff.mp h
        split at h <;> cases h

theorem writeBmp_ok {path : String} {write : Except IoErrorKind Unit} {dump : SwitcherDecodedFrameDump}
    (hsize : frame.width.toNat * frame.height.toNat < 2 ^ 62)
    (h : frame.writeBmp path write = some (.ok dump)) :
    frame.Exact ∧ dump.bytesWritten = 54 + 4 * (frame.width.toNat * frame.height.toNat) := by
  unfold SwitcherDecodedFrame.writeBmp at h
  dsimp only at h
  split at h
  next => cases h
  next =>
    split at h
    next => cases h
    next hlength =>
      split at h
      next => cases h
      next =>
        obtain ⟨rows, hrows, h⟩ := Option.bind_eq_some_iff.mp h
        split at h
        next => cases h
        next =>
          cases h
          refine ⟨(not_not.mp hlength).trans ((outputExpectedBytes_exact_iff _ _).mpr hsize), ?_⟩
          rw [List.length_append, length_bmpHeader, length_bmpRows hsize (Nat.le_refl _) hrows]

theorem fromDecodedFrame_error {expected actual : Nat}
    (h : SwitcherDecodedFrameRenderInput.fromDecodedFrame frame = .error (.invalidBufferLength expected actual)) :
    expected = (outputExpectedBytes frame.width frame.height).toNat := by
  unfold SwitcherDecodedFrameRenderInput.fromDecodedFrame at h
  dsimp only at h
  split at h
  next => cases h
  next =>
    split at h
    next => cases h
    next =>
      split at h
      next => cases h; rfl
      next => cases h

theorem fromDecodedFrame_ok {input : SwitcherDecodedFrameRenderInput}
    (h : SwitcherDecodedFrameRenderInput.fromDecodedFrame frame = .ok input) :
    frame.pixels.length = (outputExpectedBytes frame.width frame.height).toNat ∧
      input.pixels = frame.pixels := by
  unfold SwitcherDecodedFrameRenderInput.fromDecodedFrame at h
  dsimp only at h
  split at h
  next => cases h
  next =>
    split at h
    next => cases h
    next =>
      split at h
      next => cases h
      next hlength =>
        cases h
        exact ⟨not_not.mp hlength, rfl⟩

end Exact

theorem decodedSizesExact_iff (width height : UInt32) :
    DecodedSizesExact width height ↔ width.toNat * height.toNat < 2 ^ 62 := by
  constructor
  · intro h
    exact (outputExpectedBytes_exact_iff width height).mp h.expectedLen
  · intro hsize
    have hexact := (outputExpectedBytes_exact_iff width height).mpr hsize
    refine ⟨hexact, ?_, ?_, ?_, ?_, ?_⟩
    · rintro input message decodedStdoutLen status stderrSummary rfl rfl
      exact hexact
    · rintro input process frame rfl rfl h
      obtain ⟨hwidth, hheight, hlength⟩ := decodeWithOneShotFfmpegRuntime_decoded h
      refine ⟨hwidth, hheight, ?_⟩
      rw [SwitcherDecodedFrame.Exact, hlength, hwidth, hheight, hexact]
    · rintro configEnabled input outcomes state frame rfl rfl hreal h
      obtain ⟨hwidth, hheight, hlength⟩ := persistent_decoded hreal h
      refine ⟨hwidth, hheight, ?_⟩
      rw [SwitcherDecodedFrame.Exact, hlength, hwidth, hheight, hexact]
    · rintro frame path write rfl rfl
      exact ⟨fun expected actual h => (writeBmp_error h).trans hexact, fun dump h => writeBmp_ok hsize h⟩
    · rintro frame rfl rfl
      refine ⟨fun expected actual h => (fromDecodedFrame_error h).trans hexact, fun input h => ?_⟩
      obtain ⟨hlength, hpixels⟩ := fromDecodedFrame_ok h
      exact ⟨hlength.trans hexact, hpixels⟩

section Packet

/-- A frame of a given size. -/
def sizedVideoFrame (width height : UInt32) : VideoFrame where
  messageType := .videoFrame
  protocolVersion := 1
  clientId := "player1"
  runId := "run"
  frameId := 1
  captureTimestamp := 0
  sendTimestamp := 0
  isKeyframe := true
  metadataReserved := Vector.replicate 3 0
  width
  height
  fpsNominal := 60
  codec := .h264
  payloadSize := 4
  payload := [0, 0, 1, 0x65]

/-- Every size is that of a frame in some packet. -/
theorem sizedVideoFrame_decodes (width height : UInt32) :
    ∃ packet, decodePacket ⟨1⟩ packet = .ok (.videoFrame (sizedVideoFrame width height)) := by
  have hclient : stringLayout "player1" = some [7, 0, 112, 108, 97, 121, 101, 114, 49] := by decide +kernel
  have hrun : stringLayout "run" = some [3, 0, 114, 117, 110] := by decide +kernel
  obtain ⟨payload, hlayout, hlength⟩ : ∃ payload,
      Layout.cat (ProtocolMessage.videoFrame (sizedVideoFrame width height)).layout = some payload ∧
        payload.length < 2 ^ 32 := by
    simp [ProtocolMessage.layout, VideoFrame.layout, sizedVideoFrame, hclient, hrun, metadataReservedLayout,
      sizedPayloadLayout, u64Layout, u32Layout, u16Layout, boolLayout]
  exact ⟨_, decodePacket_of_encodeMessage (encodeMessage_eq_ok_iff.mpr ⟨payload, hlayout, hlength, rfl⟩)⟩

/-- The process of a decoder that ends well and writes nothing. -/
def silentDecoder : OneShotProcess where
  spawn := .ok ()
  write := .ok ()
  stdoutPiped := true
  stderrPiped := true
  stdout := ⟨[], false⟩
  wait := .ok ⟨true, some 0, "exit code: 0"⟩
  stderr := some (.ok "")

/-- A picture of 2^31 times 2^31 pixels is expected to have no bytes. -/
theorem decodedSizes_overflow :
    (∃ packet, decodePacket ⟨1⟩ packet = .ok (.videoFrame (sizedVideoFrame 0x80000000 0x80000000))) ∧
      decodeWithOneShotFfmpegRuntime ⟨[0, 0, 1, 0x65], 0x80000000, 0x80000000, false, none, none⟩ silentDecoder =
        .returned (.decoded ⟨0x80000000, 0x80000000, .bgra8, []⟩) ∧
      ¬DecodedSizesExact 0x80000000 0x80000000 := by
  refine ⟨sizedVideoFrame_decodes _ _, by decide +kernel, fun h => ?_⟩
  have hexact := h.expectedLen
  rw [toNat_outputExpectedBytes] at hexact
  exact absurd hexact (by decide)

end Packet

end StreamSync
