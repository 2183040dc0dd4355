import StreamSync.Lib.PipeMessages
import StreamSync.NamedPipeHandoff
import StreamSync.RawvideoReading

namespace StreamSync

open ByteCursor Fallible LittleEndian PipeReading

abbrev BytePipe := Pipe UInt8 IoError

/-- How a read of a whole message comes out. -/
inductive PipeRead (α : Type) where
  | ok (value : α)
  | err (error : IoError)
  | blocked
deriving DecidableEq

def PipeRead.ofExcept {α : Type} : Except IoError α → PipeRead α
  | .ok value => .ok value
  | .error error => .err error

def failedToFillBuffer : IoError := ⟨.unexpectedEof, "failed to fill whole buffer"⟩

def PipeRead.ofExact : ExactRead UInt8 IoError → PipeRead (List UInt8)
  | .full bytes => .ok bytes
  | .short => .err failedToFillBuffer
  | .blocked => .blocked
  | .failed error => .err error

/-- Four little-endian bytes with the length of what is behind them. -/
def lengthPrefixedFormat : PrefixFormat UInt8 := ⟨handoffLengthPrefixLen, fun head => (u32FromLe head).toNat⟩

/-- `read_length_prefixed_frame` of the server, and `read_length_prefixed_frame_from_pipe` of the
switcher. -/
def readLengthPrefixedFrame (pipe : BytePipe) : PipeRead (List UInt8) × BytePipe :=
  let (result, rest) := lengthPrefixedFormat.read isInterrupted pipe.heldOpen pipe.deliveries
  (.ofExact result, ⟨rest, pipe.heldOpen⟩)

/-- `read_length_prefixed_utf8_message`; `utf8Error` is what is said of bytes that are no text. -/
def readLengthPrefixedUtf8Message (utf8Error : List UInt8 → IoError) (pipe : BytePipe) :
    PipeRead String × BytePipe :=
  match readLengthPrefixedFrame pipe with
  | (.ok frame, pipe) =>
    let body := frame.drop handoffLengthPrefixLen
    match fromUtf8 body with
    | .ok message => (.ok message, pipe)
    | .error _ => (.err (utf8Error body), pipe)
  | (.err error, pipe) => (.err error, pipe)
  | (.blocked, pipe) => (.blocked, pipe)

/-- The bytes of `write_length_prefixed_utf8_message`. -/
def lengthPrefixedUtf8Message (message : String) : Except IoError (List UInt8) :=
  let body := asBytes message
  if body.length < 2 ^ 32 then .ok (u32ToLe (UInt32.ofNat body.length) ++ body)
  else .error ⟨.other "InvalidInput", "control pipe message exceeds u32 length prefix"⟩

/-- What becomes of the three calls of a write. -/
structure MessageWriter where
  writePrefix : Except IoError Unit
  writeBody : Except IoError Unit
  flush : Except IoError Unit

def MessageWriter.result (writer : MessageWriter) : Except IoError Unit := do
  writer.writePrefix
  writer.writeBody
  writer.flush

/-- `write_length_prefixed_utf8_message`. -/
def writeLengthPrefixedUtf8Message (writer : MessageWriter) (message : String) : Except IoError Unit := do
  let _ ← lengthPrefixedUtf8Message message
  writer.result

theorem isFrame_iff {frame : List UInt8} :
    lengthPrefixedFormat.IsFrame frame ↔
      ∃ body : List UInt8, body.length < 2 ^ 32 ∧ frame = u32ToLe (UInt32.ofNat body.length) ++ body := by
  constructor
  · rintro ⟨hhead, hlength⟩
    have hhead : 4 ≤ frame.length := hhead
    have hlength : frame.length = 4 + (u32FromLe (frame.take 4)).toNat := hlength
    have hbody : (frame.drop 4).length = (u32FromLe (frame.take 4)).toNat := by
      rw [List.length_drop]
      omega
    have hlt := (u32FromLe (frame.take 4)).toNat_lt
    refine ⟨frame.drop 4, by omega, ?_⟩
    rw [hbody, UInt32.ofNat_toNat, (u32FromLe_eq_iff (by rw [List.length_take]; omega)).mp rfl,
      List.take_append_drop]
  · rintro ⟨body, hbody, rfl⟩
    have htake : (u32ToLe (UInt32.ofNat body.length) ++ body).take 4 =
        u32ToLe (UInt32.ofNat body.length) := List.take_left' (length_u32ToLe _)
    have hlen : (UInt32.ofNat body.length).toNat = body.length := by
      rw [UInt32.toNat_ofNat']
      omega
    refine ⟨?_, ?_⟩
    · change 4 ≤ _
      rw [List.length_append, length_u32ToLe]
      omega
    · change _ = 4 + (u32FromLe (List.take 4 _)).toNat
      rw [htake, u32FromLe_u32ToLe, hlen, List.length_append, length_u32ToLe]

theorem isFrame_of_decodeFramedBody {frame body : List UInt8} (h : decodeFramedBody frame = .ok body) :
    lengthPrefixedFormat.IsFrame frame := by
  unfold decodeFramedBody at h
  split at h
  next => cases h
  next hhead =>
    dsimp only at h
    split at h
    next => cases h
    next hlong =>
      split at h
      next => cases h
      next hshort =>
        have hhead : 4 ≤ frame.length := Nat.le_of_not_lt hhead
        have hlong : (u32FromLe (frame.take 4)).toNat ≤ frame.length - 4 := Nat.le_of_not_lt hlong
        have hshort : frame.length - 4 ≤ (u32FromLe (frame.take 4)).toNat := Nat.le_of_not_lt hshort
        refine ⟨hhead, ?_⟩
        change frame.length = 4 + (u32FromLe (frame.take 4)).toNat
        omega

theorem drop_lengthPrefix (length : UInt32) (body : List UInt8) :
    (u32ToLe length ++ body).drop handoffLengthPrefixLen = body := List.drop_left' (length_u32ToLe length)

theorem lengthPrefixedUtf8Message_ok_iff {message : String} {written : List UInt8} :
    lengthPrefixedUtf8Message message = .ok written ↔
      (asBytes message).length < 2 ^ 32 ∧
        written = u32ToLe (UInt32.ofNat (asBytes message).length) ++ asBytes message := by
  unfold lengthPrefixedUtf8Message
  dsimp only
  split
  next h => rw [Except.ok.injEq, eq_comm, and_iff_right h]
  next h => exact iff_of_false (fun herror => by cases herror) fun hok => h hok.1

theorem isFrame_lengthPrefixedUtf8Message {message : String} {written : List UInt8}
    (h : lengthPrefixedUtf8Message message = .ok written) : lengthPrefixedFormat.IsFrame written := by
  obtain ⟨hlength, rfl⟩ := lengthPrefixedUtf8Message_ok_iff.mp h
  exact isFrame_iff.mpr ⟨_, hlength, rfl⟩

/-- A frame and the text of its body are the bytes of a message. -/
theorem lengthPrefixedUtf8Message_of_isFrame {frame : List UInt8} {message : String}
    (hframe : lengthPrefixedFormat.IsFrame frame)
    (hbody : fromUtf8 (frame.drop handoffLengthPrefixLen) = .ok message) :
    lengthPrefixedUtf8Message message = .ok frame := by
  obtain ⟨body, hlength, rfl⟩ := isFrame_iff.mp hframe
  rw [drop_lengthPrefix, fromUtf8_eq_ok_iff] at hbody
  rw [← hbody] at hlength ⊢
  exact lengthPrefixedUtf8Message_ok_iff.mpr ⟨hlength, rfl⟩

theorem fromUtf8_lengthPrefixedUtf8Message {message : String} {written : List UInt8}
    (h : lengthPrefixedUtf8Message message = .ok written) :
    fromUtf8 (written.drop handoffLengthPrefixLen) = .ok message := by
  obtain ⟨-, rfl⟩ := lengthPrefixedUtf8Message_ok_iff.mp h
  rw [drop_lengthPrefix, fromUtf8_eq_ok_iff]

section Reads

variable (pipe : BytePipe)

/-- The bytes that the reads can get from a pipe. -/
def bytesOf : List UInt8 := readable isInterrupted pipe.deliveries

theorem ofExact_eq_ok_iff {result : ExactRead UInt8 IoError} {bytes : List UInt8} :
    PipeRead.ofExact result = .ok bytes ↔ result = .full bytes := by
  cases result <;> simp [PipeRead.ofExact]

theorem readLengthPrefixedFrame_ok_iff {frame : List UInt8} :
    (readLengthPrefixedFrame pipe).1 = .ok frame ↔
      lengthPrefixedFormat.IsFrame frame ∧ frame <+: bytesOf pipe :=
  ofExact_eq_ok_iff.trans (PrefixFormat.read_full_iff isInterrupted pipe.heldOpen)

theorem readLengthPrefixedFrame_short
    (h : ∀ frame, lengthPrefixedFormat.IsFrame frame → ¬frame <+: bytesOf pipe) :
    (readLengthPrefixedFrame pipe).1 =
      .ofExact (.ofEnding (shortEnding isInterrupted pipe.heldOpen pipe.deliveries)) :=
  congrArg PipeRead.ofExact (PrefixFormat.read_short isInterrupted pipe.heldOpen h)

theorem isFrame_iff_frameBody {frame : List UInt8} :
    lengthPrefixedFormat.IsFrame frame ↔ ∃ body, frameBody body = .ok frame := by
  rw [isFrame_iff]
  refine exists_congr fun body => ?_
  unfold frameBody
  split
  next hlength => rw [Except.ok.injEq, eq_comm, and_iff_right hlength]
  next hlength => exact iff_of_false (fun h => hlength h.1) fun h => by cases h

/-- The client of a handoff has this pipe: its bytes come in, and its end is what a read finds that wants more. -/
structure ReadBy (client : NamedPipeClient) : Prop where
  incoming : client.incoming = bytesOf pipe
  ending : PipeRead.ofExact (.ofEnding (shortEnding isInterrupted pipe.heldOpen pipe.deliveries)) =
    .err client.ending

/-- What the client reads in one piece is what the reads make of the pieces that the pipe gives. -/
theorem readLengthPrefixedFrame_eq_client {client : NamedPipeClient} (h : ReadBy pipe client) :
    (readLengthPrefixedFrame pipe).1 = .ofExcept client.readLengthPrefixedFrameFromPipe := by
  cases hclient : client.readLengthPrefixedFrameFromPipe with
  | ok frame =>
    obtain ⟨body, rest, hbody, hincoming⟩ := NamedPipeClient.readLengthPrefixedFrameFromPipe_eq_ok_iff.mp hclient
    refine (readLengthPrefixedFrame_ok_iff pipe).mpr ⟨isFrame_iff_frameBody.mpr ⟨body, hbody⟩, rest, ?_⟩
    rw [← h.incoming, hincoming]
  | error error =>
    have hnone : ∀ frame, lengthPrefixedFormat.IsFrame frame → ¬frame <+: bytesOf pipe := by
      rintro frame hframe ⟨rest, hfront⟩
      obtain ⟨body, hbody⟩ := isFrame_iff_frameBody.mp hframe
      have hread := NamedPipeClient.readLengthPrefixedFrameFromPipe_eq_ok_iff.mpr
        ⟨body, rest, hbody, h.incoming.trans hfront.symm⟩
      cases hclient.symm.trans hread
    rw [readLengthPrefixedFrame_short pipe hnone, h.ending,
      NamedPipeClient.readLengthPrefixedFrameFromPipe_error hclient]
    rfl

variable (utf8Error : List UInt8 → IoError)

/-- A message is read where its bytes are in front. -/
theorem readLengthPrefixedUtf8Message_ok_iff {message : String} :
    (readLengthPrefixedUtf8Message utf8Error pipe).1 = .ok message ↔
      ∃ written, lengthPrefixedUtf8Message message = .ok written ∧ written <+: bytesOf pipe := by
  constructor
  · intro h
    unfold readLengthPrefixedUtf8Message at h
    cases hread : readLengthPrefixedFrame pipe with
    | mk result pipe' =>
      rw [hread] at h
      cases result with
      | err error => cases h
      | blocked => cases h
      | ok frame =>
        dsimp only at h
        obtain ⟨hframe, hfront⟩ := (readLengthPrefixedFrame_ok_iff pipe).mp (congrArg Prod.fst hread)
        split at h
        next text hbody =>
          cases h
          exact ⟨frame, lengthPrefixedUtf8Message_of_isFrame hframe hbody, hfront⟩
        next => cases h
  · rintro ⟨written, hwritten, hfront⟩
    have hread := (readLengthPrefixedFrame_ok_iff pipe).mpr
      ⟨isFrame_lengthPrefixedUtf8Message hwritten, hfront⟩
    unfold readLengthPrefixedUtf8Message
    generalize readLengthPrefixedFrame pipe = result at hread
    obtain ⟨first, pipe'⟩ := result
    subst hread
    dsimp only
    rw [fromUtf8_lengthPrefixedUtf8Message hwritten]

end Reads

/-- One direction of a connection: how the bytes that are written at one end come to the other. They may
come in any pieces, and stop coming. -/
structure PipeDirection where
  deliver : List UInt8 → List (Delivery UInt8 IoError)
  honest : ∀ bytes, readable isInterrupted (deliver bytes) <+: bytes

namespace PipeDirection

/-- The other end, when the bytes have been written. -/
def pipe (direction : PipeDirection) (heldOpen : Bool) (bytes : List UInt8) : BytePipe :=
  ⟨direction.deliver bytes, heldOpen⟩

/-- All of the bytes come. -/
def Whole (direction : PipeDirection) (bytes : List UInt8) : Prop :=
  readable isInterrupted (direction.deliver bytes) = bytes

variable (direction : PipeDirection) (heldOpen : Bool)

theorem readLengthPrefixedFrame_pipe_iff {frame frame' : List UInt8} (h : lengthPrefixedFormat.IsFrame frame) :
    (readLengthPrefixedFrame (direction.pipe heldOpen frame)).1 = .ok frame' ↔
      frame' = frame ∧ direction.Whole frame := by
  rw [readLengthPrefixedFrame_ok_iff]
  constructor
  · rintro ⟨hframe', hfront⟩
    have heq := hframe'.eq_of_prefix h (hfront.trans (direction.honest frame))
    subst heq
    refine ⟨rfl, (direction.honest frame').eq_of_length_le ?_⟩
    exact hfront.length_le
  · rintro ⟨rfl, hwhole⟩
    refine ⟨h, ?_⟩
    rw [show bytesOf (direction.pipe heldOpen frame') = frame' from hwhole]

theorem readLengthPrefixedUtf8Message_pipe_iff (utf8Error : List UInt8 → IoError) {sent received : String}
    {bytes : List UInt8} (h : lengthPrefixedUtf8Message sent = .ok bytes) :
    (readLengthPrefixedUtf8Message utf8Error (direction.pipe heldOpen bytes)).1 = .ok received ↔
      received = sent ∧ direction.Whole bytes := by
  have hframe := isFrame_lengthPrefixedUtf8Message h
  rw [readLengthPrefixedUtf8Message_ok_iff]
  constructor
  · rintro ⟨written, hwritten, hfront⟩
    have hread := (readLengthPrefixedFrame_ok_iff (direction.pipe heldOpen bytes)).mpr
      ⟨isFrame_lengthPrefixedUtf8Message hwritten, hfront⟩
    obtain ⟨rfl, hwhole⟩ := (direction.readLengthPrefixedFrame_pipe_iff heldOpen hframe).mp hread
    have hsent := fromUtf8_lengthPrefixedUtf8Message h
    rw [fromUtf8_lengthPrefixedUtf8Message hwritten] at hsent
    exact ⟨Except.ok.inj hsent, hwhole⟩
  · rintro ⟨rfl, hwhole⟩
    refine ⟨bytes, h, ?_⟩
    rw [show bytesOf (direction.pipe heldOpen bytes) = bytes from hwhole]

/-- What is written at one end of the direction comes to the other as it was or not at all: the messages of
the control pipe, and the requests and the responses of the handoff. -/
structure CarriesWhole : Prop where
  message : ∀ utf8Error sent bytes, lengthPrefixedUtf8Message sent = .ok bytes → ∀ received,
    (readLengthPrefixedUtf8Message utf8Error (direction.pipe heldOpen bytes)).1 = .ok received ↔
      received = sent ∧ direction.Whole bytes
  request : ∀ sent bytes, encodeRequestFrame sent = .ok bytes → ∀ received,
    (∃ frame, (readLengthPrefixedFrame (direction.pipe heldOpen bytes)).1 = .ok frame ∧
        decodeRequestFrame frame = .ok received) ↔
      received = sent ∧ direction.Whole bytes
  response : ∀ sent bytes, sent.RetainedAgrees → encodeResponseFrame sent = .ok bytes → ∀ received,
    (∃ frame, (readLengthPrefixedFrame (direction.pipe heldOpen bytes)).1 = .ok frame ∧
        decodeResponseFrame frame = .ok received) ↔
      received = sent ∧ direction.Whole bytes
  /-- So does the client of a handoff that has the other end. -/
  client : ∀ client sent bytes, ReadBy (direction.pipe heldOpen bytes) client → sent.RetainedAgrees →
    encodeResponseFrame sent = .ok bytes → ∀ received,
      (∃ frame, client.readLengthPrefixedFrameFromPipe = .ok frame ∧ decodeResponseFrame frame = .ok received) ↔
        received = sent ∧ direction.Whole bytes
  /-- Of any bytes, a text is taken only from those that it is written as. -/
  accepted : ∀ utf8Error bytes received,
    (readLengthPrefixedUtf8Message utf8Error (direction.pipe heldOpen bytes)).1 = .ok received →
      ∃ written, lengthPrefixedUtf8Message received = .ok written ∧ written <+: bytes

theorem decoded_iff {ε α : Type} {decode : List UInt8 → Except ε α} {sent : α} {bytes : List UInt8}
    (hframe : lengthPrefixedFormat.IsFrame bytes) (hdecode : decode bytes = .ok sent) (received : α) :
    (∃ frame, (readLengthPrefixedFrame (direction.pipe heldOpen bytes)).1 = .ok frame ∧
        decode frame = .ok received) ↔
      received = sent ∧ direction.Whole bytes := by
  constructor
  · rintro ⟨frame, hread, hreceived⟩
    obtain ⟨rfl, hwhole⟩ := (direction.readLengthPrefixedFrame_pipe_iff heldOpen hframe).mp hread
    exact ⟨Except.ok.inj (hreceived.symm.trans hdecode), hwhole⟩
  · rintro ⟨rfl, hwhole⟩
    exact ⟨bytes, (direction.readLengthPrefixedFrame_pipe_iff heldOpen hframe).mpr ⟨rfl, hwhole⟩, hdecode⟩

end PipeDirection

theorem isFrame_of_decodeRequestFrame {frame : List UInt8} {request : ServerSwitcherQueuedFrameHandoffRequest}
    (h : decodeRequestFrame frame = .ok request) : lengthPrefixedFormat.IsFrame frame := by
  obtain ⟨body, hbody, -⟩ := bind_eq_ok_iff.mp h
  exact isFrame_of_decodeFramedBody hbody

theorem isFrame_of_decodeResponseFrame {frame : List UInt8}
    {response : ServerSwitcherQueuedFrameHandoffResponse} (h : decodeResponseFrame frame = .ok response) :
    lengthPrefixedFormat.IsFrame frame := by
  obtain ⟨body, hbody, -⟩ := bind_eq_ok_iff.mp h
  exact isFrame_of_decodeFramedBody hbody

/-- However a pipe cuts what is written to it, and wherever it breaks. -/
theorem pipes_carry_whole (direction : PipeDirection) (heldOpen : Bool) :
    direction.CarriesWhole heldOpen where
  message utf8Error _ _ hsent _ :=
    direction.readLengthPrefixedUtf8Message_pipe_iff heldOpen utf8Error hsent
  request sent bytes hsent received := by
    have hdecode := decodeRequestFrame_eq_ok_iff.mpr hsent
    exact direction.decoded_iff heldOpen (isFrame_of_decodeRequestFrame hdecode) hdecode received
  response sent bytes hagrees hsent received := by
    have hdecode := decodeResponseFrame_of_encode hagrees hsent
    exact direction.decoded_iff heldOpen (isFrame_of_decodeResponseFrame hdecode) hdecode received
  client client sent bytes hreads hagrees hsent received := by
    have hdecode := decodeResponseFrame_of_encode hagrees hsent
    have hframe := direction.decoded_iff heldOpen (isFrame_of_decodeResponseFrame hdecode) hdecode received
    rw [← hframe, readLengthPrefixedFrame_eq_client _ hreads]
    cases client.readLengthPrefixedFrameFromPipe with
    | ok frame => simp [PipeRead.ofExcept]
    | error error => simp [PipeRead.ofExcept]
  accepted utf8Error bytes received h := by
    obtain ⟨written, hwritten, hfront⟩ := (readLengthPrefixedUtf8Message_ok_iff _ utf8Error).mp h
    exact ⟨written, hwritten, hfront.trans (direction.honest bytes)⟩

/-- Every byte comes by itself, behind an interrupted read. -/
def bytewiseDirection : PipeDirection where
  deliver bytes := bytes.flatMap fun byte => [.error ⟨.interrupted, "interrupted"⟩, .piece [byte]]
  honest bytes := by
    induction bytes with
    | nil => exact List.nil_prefix
    | cons byte bytes ih => exact (List.prefix_cons_inj byte).mpr ih

theorem whole_bytewiseDirection (bytes : List UInt8) : bytewiseDirection.Whole bytes := by
  unfold PipeDirection.Whole
  induction bytes with
  | nil => rfl
  | cons byte bytes ih => exact congrArg (byte :: ·) ih

/-- The pipe breaks behind the sixth byte. -/
def brokenDirection : PipeDirection where
  deliver bytes := [.piece (bytes.take 6), .error ⟨.other "BrokenPipe", "pipe is broken"⟩]
  honest bytes := by
    have hreadable : readable isInterrupted [.piece (bytes.take 6), .error ⟨.other "BrokenPipe", "pipe is broken"⟩] =
        bytes.take 6 := List.append_nil _
    rw [hreadable]
    exact List.take_prefix 6 bytes

/-- The answer to a request while the last keyframe is retained. -/
def retainedResponse : ServerSwitcherQueuedFrameHandoffResponse :=
  .noFrame 7 "cam" "run" .inspectLatest 0 .noFramesQueuedForClient .none true (some 9)

theorem pipes_carry_whole_bytewise :
    ∃ message response, lengthPrefixedUtf8Message "focus 1" = .ok message ∧
      encodeResponseFrame retainedResponse = .ok response ∧
      (readLengthPrefixedUtf8Message (fun _ => failedToFillBuffer) (bytewiseDirection.pipe true message)).1 =
        .ok "focus 1" ∧
      (∃ frame, (readLengthPrefixedFrame (bytewiseDirection.pipe true response)).1 = .ok frame ∧
        decodeResponseFrame frame = .ok retainedResponse) ∧
      ∀ received, (readLengthPrefixedUtf8Message (fun _ => failedToFillBuffer)
        (brokenDirection.pipe true message)).1 ≠ .ok received := by
  have hcarries := pipes_carry_whole bytewiseDirection true
  have hresponse : (encodeResponseFrame retainedResponse).isOk = true := by decide +kernel
  cases hencoded : encodeResponseFrame retainedResponse with
  | error error =>
    rw [hencoded] at hresponse
    cases hresponse
  | ok response =>
    have hsent : lengthPrefixedUtf8Message "focus 1" = .ok [7, 0, 0, 0, 102, 111, 99, 117, 115, 32, 49] := rfl
    refine ⟨_, response, hsent, rfl, ?_, ?_, ?_⟩
    · exact (hcarries.message _ _ _ hsent _).mpr ⟨rfl, whole_bytewiseDirection _⟩
    · exact (hcarries.response retainedResponse _ rfl hencoded _).mpr ⟨rfl, whole_bytewiseDirection _⟩
    · intro received h
      have hwhole := (((pipes_carry_whole brokenDirection true).message _ _ _ hsent _).mp h).2
      revert hwhole
      unfold PipeDirection.Whole
      decide +kernel

end StreamSync
