import StreamSync.Lib.PipeReading
import StreamSync.PersistentDecode

namespace StreamSync

open PipeReading

def IoErrorKind.interrupted : IoErrorKind := .other "Interrupted"

def IoErrorKind.unexpectedEof : IoErrorKind := .other "UnexpectedEof"

abbrev RawvideoStdout := Pipe UInt8 IoError

/-- Where a call of `read_expected_rawvideo_stdout` comes to. -/
inductive RawvideoRead where
  | ok (bytes : List UInt8) (extraOutputLen : Nat)
  | err (error : IoError) (partialBytes : List UInt8)
  | blocked
  | panicked
deriving DecidableEq

def isInterrupted (error : IoError) : Bool := error.kind = .interrupted

/-- The loop that counts what is behind the expected bytes, up to the end of the stream. -/
def probeExtraOutput (stdoutBytes : List UInt8) (stdout : RawvideoStdout) : RawvideoRead × RawvideoStdout :=
  let probe := readOut stdout.heldOpen stdout.deliveries
  match probe.ending with
  | .blocked => (.blocked, ⟨probe.rest, stdout.heldOpen⟩)
  | .failed error => (.err error stdoutBytes, ⟨probe.rest, stdout.heldOpen⟩)
  | .done => (.ok stdoutBytes probe.got.length, ⟨probe.rest, stdout.heldOpen⟩)

/-- `take(remaining_len).read_to_end(..)` behind the first byte. -/
def readRemaining (stdoutBytes : List UInt8) (expectedLen : Nat) (stdout : RawvideoStdout) :
    RawvideoRead × RawvideoStdout :=
  let limited := readUpTo isInterrupted stdout.heldOpen stdout.deliveries (expectedLen - stdoutBytes.length)
  let stdoutBytes := stdoutBytes ++ limited.got
  let stdout := ⟨limited.rest, stdout.heldOpen⟩
  match limited.ending with
  | .blocked => (.blocked, stdout)
  | .failed error => (.err error stdoutBytes, stdout)
  | .done =>
    if stdoutBytes.length ≠ expectedLen then
      (.err ⟨.unexpectedEof, "decoded_rawvideo_length_mismatch_expected=" ++ toString expectedLen ++
        "_actual=" ++ toString stdoutBytes.length⟩ stdoutBytes, stdout)
    else probeExtraOutput stdoutBytes stdout

def readExpectedRawvideoStdout (stdout : RawvideoStdout) (expectedLen : Nat) : RawvideoRead × RawvideoStdout :=
  if isizeMax < expectedLen then (.panicked, stdout)
  else if 0 < expectedLen then
    -- `read_exact` of the first byte
    let first := readUpTo isInterrupted stdout.heldOpen stdout.deliveries 1
    let stdout := ⟨first.rest, stdout.heldOpen⟩
    match first.ending with
    | .blocked => (.blocked, stdout)
    | .failed error => (.err error [], stdout)
    | .done =>
      if first.got.length < 1 then (.err ⟨.unexpectedEof, "failed to fill whole buffer"⟩ [], stdout)
      else readRemaining first.got expectedLen stdout
  else readRemaining [] expectedLen stdout

inductive SwitcherPersistentFfmpegStdoutReadResponse where
  | ok (bytes : List UInt8) (extraOutputLen : Nat)
  | err (error : IoError) (partialBytes : List UInt8)
deriving DecidableEq

/-- The answers of the reader thread to the requests when stdout delivers what it does and no more. -/
def persistentFfmpegStdoutReaderLoop :
    List Nat → RawvideoStdout → List SwitcherPersistentFfmpegStdoutReadResponse
  | [], _ => []
  | expectedLen :: requests, stdout =>
    match readExpectedRawvideoStdout stdout expectedLen with
    | (.ok bytes extraOutputLen, stdout) =>
      .ok bytes extraOutputLen :: persistentFfmpegStdoutReaderLoop requests stdout
    | (.err error partialBytes, _) => [.err error partialBytes]
    | (.blocked, _) | (.panicked, _) => []

/-- What the caller of the reader thread gets: a thread that waits lets the timeout pass, and one that
panics drops the sender of the response. -/
def RawvideoRead.outcome : RawvideoRead → PersistentStdoutReadOutcome
  | .ok bytes extraOutputLen => .ok bytes extraOutputLen
  | .err error _ => .err error.message
  | .blocked => .timeout
  | .panicked => .disconnected

/-- A stdout that delivers the pieces. -/
def pieceStdout (pieces : List (List UInt8)) (heldOpen : Bool) : RawvideoStdout :=
  ⟨pieces.map .piece, heldOpen⟩

section HeldOpen

variable {stdoutBytes : List UInt8} {expectedLen : Nat}

/-- The probe waits for the end of the stream, whatever it has read before. -/
theorem probeExtraOutput_heldOpen (pieces : List (List UInt8)) :
    (probeExtraOutput stdoutBytes (pieceStdout pieces true)).1 = .blocked := by
  unfold probeExtraOutput pieceStdout
  dsimp only
  rw [readOut_pieces]
  rfl

theorem readRemaining_heldOpen (h : stdoutBytes.length ≤ expectedLen) (pieces : List (List UInt8)) :
    (readRemaining stdoutBytes expectedLen (pieceStdout pieces true)).1 = .blocked := by
  unfold readRemaining pieceStdout
  dsimp only
  by_cases henough : expectedLen - stdoutBytes.length ≤ pieces.flatten.length
  · obtain ⟨later, hread, _⟩ := readUpTo_enough isInterrupted true henough
    rw [hread]
    dsimp only
    rw [if_neg]
    · exact probeExtraOutput_heldOpen later
    · rw [List.length_append, List.length_take_of_le henough]
      omega
  · rw [readUpTo_short (Nat.lt_of_not_le henough)]
    rfl

theorem readExpectedRawvideoStdout_heldOpen (pieces : List (List UInt8)) :
    (readExpectedRawvideoStdout (pieceStdout pieces true) expectedLen).1 =
      if isizeMax < expectedLen then .panicked else .blocked := by
  unfold readExpectedRawvideoStdout
  split
  next => rfl
  next hcapacity =>
    split
    next hpos =>
      unfold pieceStdout
      dsimp only
      by_cases henough : 1 ≤ pieces.flatten.length
      · obtain ⟨later, hread, _⟩ := readUpTo_enough isInterrupted true henough
        have hfirst : (pieces.flatten.take 1).length = 1 := List.length_take_of_le henough
        rw [hread]
        dsimp only
        rw [if_neg (by omega)]
        exact readRemaining_heldOpen (by omega) later
      · rw [readUpTo_short (Nat.lt_of_not_le henough)]
        rfl
    next => exact readRemaining_heldOpen (Nat.zero_le _) pieces

/-- While stdout stays open the reader thread answers nothing, whatever comes and whatever is asked. -/
theorem persistentFfmpegStdoutReaderLoop_heldOpen (requests : List Nat) (pieces : List (List UInt8)) :
    persistentFfmpegStdoutReaderLoop requests (pieceStdout pieces true) = [] := by
  cases requests with
  | nil => rfl
  | cons expectedLen requests =>
    have hread : (readExpectedRawvideoStdout (pieceStdout pieces true) expectedLen).1 = _ :=
      readExpectedRawvideoStdout_heldOpen pieces
    rw [persistentFfmpegStdoutReaderLoop]
    split
    next heq =>
      rw [heq] at hread
      split at hread <;> cases hread
    next heq =>
      rw [heq] at hread
      split at hread <;> cases hread
    next => rfl
    next => rfl

/-- The decode call that waits for the thread ends in its fallback. -/
theorem exchange_heldOpen (input : SwitcherH264DecodeInput) (outcomes : PersistentDecodeOutcomes)
    (call : PersistentDecodeCall) (pieces : List (List UInt8))
    (hread : outcomes.read = (readExpectedRawvideoStdout (pieceStdout pieces true) expectedLen).1.outcome) :
    (call.exchange input outcomes).2 = outcomes.oneShot := by
  rw [readExpectedRawvideoStdout_heldOpen] at hread
  unfold PersistentDecodeCall.exchange
  dsimp only
  split
  next => rfl
  next =>
    split
    next => rfl
    next =>
      rw [hread]
      split
      next => rfl
      next => rfl
      next heq =>
        split at heq <;> cases heq
      next heq =>
        split at heq <;> cases heq

end HeldOpen

/-- A stream that ends within a picture gives what it had of it. -/
theorem readExpectedRawvideoStdout_cut {pieces : List (List UInt8)} {expectedLen : Nat}
    (hshort : pieces.flatten.length < expectedLen) (hcapacity : expectedLen ≤ isizeMax) :
    ∃ error, (readExpectedRawvideoStdout (pieceStdout pieces false) expectedLen).1 =
      .err error pieces.flatten := by
  unfold readExpectedRawvideoStdout pieceStdout
  rw [if_neg (Nat.not_lt.mpr hcapacity), if_pos (Nat.zero_lt_of_lt hshort)]
  dsimp only
  by_cases henough : 1 ≤ pieces.flatten.length
  · obtain ⟨later, hread, hlater⟩ := readUpTo_enough isInterrupted false henough
    have hfirst : (pieces.flatten.take 1).length = 1 := List.length_take_of_le henough
    have hlength : later.flatten.length = pieces.flatten.length - 1 := by rw [hlater, List.length_drop]
    have hbytes : pieces.flatten.take 1 ++ later.flatten = pieces.flatten := by
      rw [hlater, List.take_append_drop]
    rw [hread]
    dsimp only
    rw [if_neg (by omega)]
    unfold readRemaining
    dsimp only
    rw [readUpTo_short (by omega)]
    simp only [atEnd, hbytes, Bool.false_eq_true, if_false, if_pos (Nat.ne_of_lt hshort)]
    exact ⟨_, rfl⟩
  · have hnone : pieces.flatten = [] := List.length_eq_zero_iff.mp (by omega)
    rw [readUpTo_short (Nat.lt_of_not_le henough), hnone]
    exact ⟨_, rfl⟩

/-- A picture that stdout delivers in full, in some pieces. -/
structure DeliveredPicture where
  pieces : List (List UInt8)
  nonempty : pieces.flatten ≠ []

def DeliveredPicture.bytes (picture : DeliveredPicture) : List UInt8 := picture.pieces.flatten

/-- A picture within which stdout ends. -/
structure CutPicture where
  pieces : List (List UInt8)
  missing : Nat
  missing_pos : 0 < missing

def CutPicture.bytes (picture : CutPicture) : List UInt8 := picture.pieces.flatten

def CutPicture.expectedLen (picture : CutPicture) : Nat := picture.bytes.length + picture.missing

def requestedLens (pictures : List DeliveredPicture) : List Nat :=
  pictures.map fun picture => picture.bytes.length

def exactAnswers (pictures : List DeliveredPicture) : List SwitcherPersistentFfmpegStdoutReadResponse :=
  pictures.map fun picture => .ok picture.bytes 0

/-- The reader thread splits the stream into the pictures. Each is answered for while stdout stays open and
nothing of the next one has come, and a last one that is cut off is answered for with what there is. -/
structure SplitsFrames (pictures : List DeliveredPicture) (cut : Option CutPicture) : Prop where
  answered : ∀ count ≤ pictures.length,
    persistentFfmpegStdoutReaderLoop (requestedLens (pictures.take count))
        (pieceStdout ((pictures.take count).flatMap DeliveredPicture.pieces) true) =
      exactAnswers (pictures.take count)
  ended : ∀ picture ∈ cut, ∃ error,
    persistentFfmpegStdoutReaderLoop (requestedLens pictures ++ [picture.expectedLen])
        (pieceStdout (pictures.flatMap DeliveredPicture.pieces ++ picture.pieces) false) =
      exactAnswers pictures ++ [.err error picture.bytes]

theorem not_splitsFrames_cons (picture : DeliveredPicture) (pictures : List DeliveredPicture)
    (cut : Option CutPicture) : ¬SplitsFrames (picture :: pictures) cut := by
  intro h
  have hone := h.answered 1 (Nat.le_add_left 1 _)
  rw [persistentFfmpegStdoutReaderLoop_heldOpen] at hone
  cases hone

theorem splitsFrames_iff (pictures : List DeliveredPicture) (cut : Option CutPicture) :
    SplitsFrames pictures cut ↔ pictures = [] ∧ ∀ picture ∈ cut, picture.expectedLen ≤ isizeMax := by
  constructor
  · intro h
    cases pictures with
    | cons picture pictures => exact absurd h (not_splitsFrames_cons picture pictures cut)
    | nil =>
      refine ⟨rfl, fun picture hpicture => Nat.le_of_not_lt fun hcapacity => ?_⟩
      obtain ⟨error, hended⟩ := h.ended picture hpicture
      change persistentFfmpegStdoutReaderLoop [picture.expectedLen] _ = _ at hended
      rw [persistentFfmpegStdoutReaderLoop, readExpectedRawvideoStdout, if_pos hcapacity] at hended
      cases hended
  · rintro ⟨rfl, hcapacity⟩
    refine ⟨fun count _ => ?_, fun picture hpicture => ?_⟩
    · rw [List.take_nil]
      rfl
    · have hshort : picture.pieces.flatten.length < picture.expectedLen :=
        Nat.lt_add_of_pos_right picture.missing_pos
      obtain ⟨error, hread⟩ := readExpectedRawvideoStdout_cut hshort (hcapacity picture hpicture)
      refine ⟨error, ?_⟩
      change persistentFfmpegStdoutReaderLoop [picture.expectedLen] (pieceStdout picture.pieces false) = _
      rw [persistentFfmpegStdoutReaderLoop]
      split
      next heq => rw [heq] at hread; cases hread
      next heq =>
        rw [heq] at hread
        cases hread
        rfl
      next heq => rw [heq] at hread; cases hread
      next heq => rw [heq] at hread; cases hread

/-- One picture of one pixel, in two pieces. -/
theorem not_splitsFrames_one_picture :
    persistentFfmpegStdoutReaderLoop [4] (pieceStdout [[1, 2], [3, 4]] true) = [] ∧
      ¬SplitsFrames [⟨[[1, 2], [3, 4]], List.cons_ne_nil _ _⟩] none :=
  ⟨persistentFfmpegStdoutReaderLoop_heldOpen _ _, not_splitsFrames_cons _ _ _⟩

end StreamSync
