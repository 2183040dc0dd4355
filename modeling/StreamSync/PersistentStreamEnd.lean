import StreamSync.AnnexBChunks
import StreamSync.CaptureTimestamps

namespace StreamSync

open ClientAnnexBAccessUnitReaderBoundary EncodedAccessUnit Run

/-- The three calls that a session takes. -/
inductive EncoderCallKind where
  | submitFrameAndPollAccessUnit (frameBytes : List UInt8)
  | pollStdoutOnce
  | shutdown
deriving DecidableEq, Repr

/-- A call and what the child does in it: a read gives as many bytes as the child has there, and a
shutdown can read the output to its end or not. -/
structure EncoderCall where
  kind : EncoderCallKind
  stdin : EncoderStdin
  stdout : Except (IoErrorKind × String) Nat
  drains : Bool

/-- A session and what is left of the stream that the encoder writes before it closes its output. -/
structure EncoderSessionRun where
  session : ClientPersistentFfmpegH264AccessUnitSession
  unread : List UInt8

namespace EncoderCall

/-- A read waits for a byte, and takes no more than it was asked for. -/
def readLen (call : EncoderCall) (stdoutReadLen : Nat) : Nat :=
  match call.stdout with
  | .ok available => min (max available 1) stdoutReadLen
  | .error _ => 0

def pipes (call : EncoderCall) (run : EncoderSessionRun) : EncoderPipes where
  stdin := call.stdin
  stdout := call.stdout.map fun _ => run.unread.take (call.readLen run.session.stdoutReadLen)
  drained := if call.drains then some run.unread else none

/-- The call gets as far as reading. -/
def reads (call : EncoderCall) (run : EncoderSessionRun) : Bool :=
  match run.session.runtime, call.kind with
  | some runtime, .submitFrameAndPollAccessUnit frameBytes =>
    runtime.writeBgraFrameBytes (call.pipes run) frameBytes = .frameAccepted frameBytes.length
  | some _, .pollStdoutOnce => true
  | _, _ => false

def answer (call : EncoderCall) (run : EncoderSessionRun) :
    ClientPersistentFfmpegH264AccessUnitSession × ClientPersistentFfmpegH264AccessUnitSessionStepResult :=
  match call.kind with
  | .submitFrameAndPollAccessUnit frameBytes =>
    run.session.submitFrameAndPollAccessUnit (call.pipes run) frameBytes
  | .pollStdoutOnce => run.session.pollStdoutOnce (call.pipes run)
  | .shutdown => run.session.finishRuntimeAfterClose (call.pipes run)

end EncoderCall

def EncoderSessionRun.call (run : EncoderSessionRun) (call : EncoderCall) :
    EncoderSessionRun × ClientPersistentFfmpegH264AccessUnitSessionStepResult :=
  let answered := call.answer run
  let unread :=
    if call.reads run then run.unread.drop (call.readLen run.session.stdoutReadLen) else run.unread
  (⟨answered.1, unread⟩, answered.2)

/-- The access unit that a result hands over. -/
def ClientPersistentFfmpegH264AccessUnitSessionStepResult.surfaced :
    ClientPersistentFfmpegH264AccessUnitSessionStepResult → Option ClientAnnexBAccessUnit
  | .accessUnit found => some found
  | .streamEnded (.accessUnit found) => some found
  | _ => none

def ClientPersistentFfmpegH264AccessUnitSessionStepResult.isStreamEnded :
    ClientPersistentFfmpegH264AccessUnitSessionStepResult → Bool
  | .streamEnded _ => true
  | _ => false

section

variable {runtime : ClientPersistentFfmpegH264EncoderRuntime} {buffered : List UInt8}
  {stdoutReadLen : Nat}

/-- What a read that got some bytes leaves in the session. -/
def polledAfterRead (runtime : ClientPersistentFfmpegH264EncoderRuntime) (buffered : List UInt8)
    (stdoutReadLen : Nat) :
    ClientPersistentFfmpegH264AccessUnitSession × ClientPersistentFfmpegH264AccessUnitSessionStepResult :=
  match tryExtractAnnexBAccessUnit ⟨buffered⟩ false with
  | .ok (some (accessUnit, state)) => (⟨some runtime, state, stdoutReadLen⟩, .accessUnit accessUnit)
  | .ok none => (⟨some runtime, ⟨buffered⟩, stdoutReadLen⟩, .noCompleteAccessUnitYet buffered.length)
  | .error reason => (⟨some runtime, ⟨buffered⟩, stdoutReadLen⟩, .malformedStream reason buffered.length)

theorem pollStdoutOnce_read {pipes : EncoderPipes} {bytes : List UInt8}
    (hopen : runtime.stdoutOpen = true) (hlen : stdoutReadLen ≠ 0) (hread : pipes.stdout = .ok bytes)
    (hne : bytes ≠ []) :
    ClientPersistentFfmpegH264AccessUnitSession.pollStdoutOnce ⟨some runtime, ⟨buffered⟩, stdoutReadLen⟩
        pipes =
      polledAfterRead runtime (buffered ++ bytes) stdoutReadLen := by
  obtain ⟨byte, bytes, rfl⟩ := List.exists_cons_of_ne_nil hne
  unfold ClientPersistentFfmpegH264AccessUnitSession.pollStdoutOnce
    ClientPersistentFfmpegH264EncoderRuntime.readAnnexBBytes polledAfterRead
  simp only [if_neg hlen, if_pos hopen, hread, feedStdoutReadResult, pollAccessUnit,
    ClientAnnexBAccessUnitReaderState.appendBytes]
  cases hextract : tryExtractAnnexBAccessUnit ⟨buffered ++ byte :: bytes⟩ false with
  | error reason => rfl
  | ok found =>
    cases found with
    | none => rfl
    | some result => rfl

theorem pollStdoutOnce_failed {pipes : EncoderPipes} {kind : IoErrorKind} {message : String}
    (hopen : runtime.stdoutOpen = true) (hlen : stdoutReadLen ≠ 0)
    (hread : pipes.stdout = .error (kind, message)) :
    ClientPersistentFfmpegH264AccessUnitSession.pollStdoutOnce ⟨some runtime, ⟨buffered⟩, stdoutReadLen⟩
        pipes =
      (⟨some runtime, ⟨buffered⟩, stdoutReadLen⟩, .stdoutReadFailed kind message) := by
  unfold ClientPersistentFfmpegH264AccessUnitSession.pollStdoutOnce
    ClientPersistentFfmpegH264EncoderRuntime.readAnnexBBytes
  simp only [if_neg hlen, if_pos hopen, hread]
  rfl

theorem pollStdoutOnce_ended {pipes : EncoderPipes} (hopen : runtime.stdoutOpen = true)
    (hlen : stdoutReadLen ≠ 0) (hread : pipes.stdout = .ok []) :
    (ClientPersistentFfmpegH264AccessUnitSession.pollStdoutOnce ⟨some runtime, ⟨buffered⟩, stdoutReadLen⟩
        pipes).2 = .streamEnded (finish ⟨buffered⟩).1 := by
  have hshutdown : ({ runtime with stdoutOpen := false }
      : ClientPersistentFfmpegH264EncoderRuntime).shutdown pipes = some [] := rfl
  unfold ClientPersistentFfmpegH264AccessUnitSession.pollStdoutOnce
    ClientPersistentFfmpegH264EncoderRuntime.readAnnexBBytes
  simp only [if_neg hlen, if_pos hopen, hread, feedStdoutReadResult,
    ClientPersistentFfmpegH264AccessUnitSession.finishRuntimeAfterClose, hshutdown,
    ClientAnnexBAccessUnitReaderState.appendBytes, List.append_nil]

end

/-- At the end of a whole output the reader gives the first access unit that is left. -/
theorem finish_output (first : EncodedAccessUnit) (more : List EncodedAccessUnit) :
    (finish ⟨output (first :: more)⟩).1 = .accessUnit first.accessUnit := by
  obtain ⟨nal, nals, hnals⟩ : ∃ nal nals, (first :: more).flatMap (·.nals) = nal :: nals := by
    obtain ⟨nal, rest, hfirst, -⟩ := first.begins
    exact ⟨nal, rest ++ more.flatMap (·.nals), by rw [List.flatMap_cons, hfirst]; rfl⟩
  have hmarks : Framing.marks startCode 0 0 (nalBytes (nal :: nals)) = nalMarks 0 (nal :: nals) := by
    have hstream := Framing.marks_stream ((nal :: nals).map (·.frame)) [] 0
    rw [List.append_nil] at hstream
    exact hstream.trans (List.append_nil _)
  have hsplit : nalBytes (nal :: nals) = nalBytes (nal :: nals).dropLast ++
      nalBytes [(nal :: nals).getLast (List.cons_ne_nil nal nals)] := by
    rw [← nalBytes_append, List.dropLast_append_getLast]
  have hparse : parseAnnexBNalDescriptors (output (first :: more)) false =
      .ok (descriptorsAt 0 (nal :: nals).dropLast) := by
    rw [output, hnals, parseAnnexBNalDescriptors_eq hmarks]
    exact descriptorsOfMarks_open nal nals [] _ hsplit
  have hbuffer : output (first :: more) = nalBytes (nal :: nals).dropLast ++
      nalBytes [(nal :: nals).getLast (List.cons_ne_nil nal nals)] := by
    rw [output, hnals, ← hsplit]
  have hextract := extract_encoded hparse hbuffer
  unfold finish
  cases hfound : tryExtractAnnexBAccessUnit ⟨output (first :: more)⟩ false with
  | error reason => rw [hfound] at hextract; cases hextract
  | ok found =>
    cases found with
    | some result =>
      rcases extract_of_prefix (List.prefix_refl (output (first :: more))) with
        hnever | ⟨head, next, later, rest, heq, -, -, hhead⟩
      · exact absurd hfound (hnever result)
      · cases heq
        cases hhead.symm.trans hfound
        rfl
    | none =>
      have hne : (output (first :: more)).isEmpty = false := by
        rw [output_cons]
        exact List.isEmpty_eq_false_iff.mpr (List.append_ne_nil_of_left_ne_nil first.bytes_ne_nil _)
      simp only [hne, extract_eof first more]
      rfl

/-- A fresh session with an encoder that will write the units and close its output. -/
def EncoderSessionRun.start (expectedFrameLen stdoutReadLen : Nat) (units : List EncodedAccessUnit) :
    EncoderSessionRun := ⟨.new ⟨expectedFrameLen, true⟩ stdoutReadLen, output units⟩

/-- The session is open, has surfaced the first units, and holds or can still read just the others. -/
structure SurfacesInOrder (units : List EncodedAccessUnit)
    (outs : List ClientPersistentFfmpegH264AccessUnitSessionStepResult) (run : EncoderSessionRun) :
    Prop where
  isOpen : ∃ runtime, run.session.runtime = some runtime ∧ runtime.stdoutOpen = true
  taken : ∃ k ≤ units.length,
    outs.filterMap ClientPersistentFfmpegH264AccessUnitSessionStepResult.surfaced =
        (units.take k).map accessUnit ∧
      run.session.readerState.bufferedBytes ++ run.unread = output (units.drop k)

/-- All that a call does to an open session: it reads and polls, it changes nothing, or it ends it. -/
inductive SessionCallStep (runtime : ClientPersistentFfmpegH264EncoderRuntime) (call : EncoderCall)
    (run : EncoderSessionRun) :
    EncoderSessionRun × ClientPersistentFfmpegH264AccessUnitSessionStepResult → Prop where
  | polled (bytes later : List UInt8) (split : run.unread = bytes ++ later) :
    SessionCallStep runtime call run
      (⟨(polledAfterRead runtime (run.session.readerState.bufferedBytes ++ bytes)
          run.session.stdoutReadLen).1, later⟩,
        (polledAfterRead runtime (run.session.readerState.bufferedBytes ++ bytes)
          run.session.stdoutReadLen).2)
  | kept (result : ClientPersistentFfmpegH264AccessUnitSessionStepResult)
    (nothing : result.surfaced = none) (open_still : result.isStreamEnded = false) :
    SessionCallStep runtime call run (run, result)
  | ended (run' : EncoderSessionRun) :
    SessionCallStep runtime call run (run', .streamEnded (finish
      ⟨run.session.readerState.bufferedBytes ++ if call.drains then run.unread else []⟩).1)

section

variable {runtime : ClientPersistentFfmpegH264EncoderRuntime} {call : EncoderCall}
  {buffered unread : List UInt8} {stdoutReadLen : Nat}

/-- What a call that gets as far as reading does. -/
theorem reading_step (hopen : runtime.stdoutOpen = true) :
    SessionCallStep runtime call ⟨⟨some runtime, ⟨buffered⟩, stdoutReadLen⟩, unread⟩
      (⟨(ClientPersistentFfmpegH264AccessUnitSession.pollStdoutOnce
            ⟨some runtime, ⟨buffered⟩, stdoutReadLen⟩
            (call.pipes ⟨⟨some runtime, ⟨buffered⟩, stdoutReadLen⟩, unread⟩)).1,
          unread.drop (call.readLen stdoutReadLen)⟩,
        (ClientPersistentFfmpegH264AccessUnitSession.pollStdoutOnce
            ⟨some runtime, ⟨buffered⟩, stdoutReadLen⟩
            (call.pipes ⟨⟨some runtime, ⟨buffered⟩, stdoutReadLen⟩, unread⟩)).2) := by
  by_cases hlen : stdoutReadLen = 0
  · -- the runtime refuses a read of no bytes
    have hzero : call.readLen stdoutReadLen = 0 := by
      rw [EncoderCall.readLen, hlen]
      split
      · exact Nat.min_zero _
      · rfl
    have hpoll : ∀ pipes, ClientPersistentFfmpegH264AccessUnitSession.pollStdoutOnce
        ⟨some runtime, ⟨buffered⟩, stdoutReadLen⟩ pipes =
          (⟨some runtime, ⟨buffered⟩, stdoutReadLen⟩, .invalidReadRequest stdoutReadLen) := by
      intro pipes
      unfold ClientPersistentFfmpegH264AccessUnitSession.pollStdoutOnce
        ClientPersistentFfmpegH264EncoderRuntime.readAnnexBBytes
      simp only [if_pos hlen]
      rfl
    rw [hpoll, hzero, List.drop_zero]
    exact .kept _ rfl rfl
  cases hstdout : call.stdout with
  | error failure =>
    obtain ⟨kind, message⟩ := failure
    have hread : (call.pipes ⟨⟨some runtime, ⟨buffered⟩, stdoutReadLen⟩, unread⟩).stdout =
        .error (kind, message) := by
      rw [EncoderCall.pipes, hstdout]
      rfl
    have hzero : call.readLen stdoutReadLen = 0 := by rw [EncoderCall.readLen, hstdout]
    rw [pollStdoutOnce_failed hopen hlen hread, hzero, List.drop_zero]
    exact .kept _ rfl rfl
  | ok available =>
    have hread : (call.pipes ⟨⟨some runtime, ⟨buffered⟩, stdoutReadLen⟩, unread⟩).stdout =
        .ok (unread.take (call.readLen stdoutReadLen)) := by
      rw [EncoderCall.pipes, hstdout]
      rfl
    have hpos : 0 < call.readLen stdoutReadLen := by
      rw [EncoderCall.readLen, hstdout]
      show 0 < min (max available 1) stdoutReadLen
      omega
    by_cases hunread : unread = []
    · subst hunread
      rw [List.take_nil] at hread
      have hended := @SessionCallStep.ended runtime call
        ⟨⟨some runtime, ⟨buffered⟩, stdoutReadLen⟩, []⟩
      simp only [ite_self, List.append_nil] at hended
      rw [pollStdoutOnce_ended hopen hlen hread]
      exact hended _
    · have hne : unread.take (call.readLen stdoutReadLen) ≠ [] := by
        rw [Ne, List.take_eq_nil_iff, not_or]
        exact ⟨by omega, hunread⟩
      rw [pollStdoutOnce_read hopen hlen hread hne]
      exact .polled _ _ (List.take_append_drop _ unread).symm

end

theorem EncoderSessionRun.call_step {runtime : ClientPersistentFfmpegH264EncoderRuntime}
    {run : EncoderSessionRun} (hruntime : run.session.runtime = some runtime)
    (hopen : runtime.stdoutOpen = true) (call : EncoderCall) :
    SessionCallStep runtime call run (run.call call) := by
  obtain ⟨⟨_, ⟨buffered⟩, stdoutReadLen⟩, unread⟩ := run
  subst hruntime
  unfold EncoderSessionRun.call EncoderCall.answer EncoderCall.reads
  cases hkind : call.kind with
  | pollStdoutOnce => exact reading_step hopen
  | shutdown =>
    cases hdrains : call.drains with
    | false =>
      have hended := @SessionCallStep.ended runtime call
        ⟨⟨some runtime, ⟨buffered⟩, stdoutReadLen⟩, unread⟩
      rw [hdrains, if_neg (by decide), List.append_nil] at hended
      simp only [ClientPersistentFfmpegH264AccessUnitSession.finishRuntimeAfterClose,
        ClientPersistentFfmpegH264EncoderRuntime.shutdown, hopen, EncoderCall.pipes, hdrains]
      exact hended _
    | true =>
      have hended := @SessionCallStep.ended runtime call
        ⟨⟨some runtime, ⟨buffered⟩, stdoutReadLen⟩, unread⟩
      rw [hdrains, if_pos rfl] at hended
      simp only [ClientPersistentFfmpegH264AccessUnitSession.finishRuntimeAfterClose,
        ClientPersistentFfmpegH264EncoderRuntime.shutdown, hopen, EncoderCall.pipes, hdrains]
      exact hended _
  | submitFrameAndPollAccessUnit frameBytes =>
    simp only [ClientPersistentFfmpegH264AccessUnitSession.submitFrameAndPollAccessUnit]
    cases hwrite : runtime.writeBgraFrameBytes
        (call.pipes ⟨⟨some runtime, ⟨buffered⟩, stdoutReadLen⟩, unread⟩) frameBytes with
    | frameAccepted bytesWritten =>
      have hbytes : bytesWritten = frameBytes.length := by
        unfold ClientPersistentFfmpegH264EncoderRuntime.writeBgraFrameBytes at hwrite
        split at hwrite
        next => cases hwrite
        next =>
          split at hwrite
          next => cases hwrite
          next => cases hwrite
          next => cases hwrite
          next => cases hwrite; rfl
      subst hbytes
      simp only [decide_true, if_true]
      exact reading_step hopen
    | invalidFrameBytes expectedLen actualLen => exact .kept _ rfl rfl
    | stdinClosed => exact .kept _ rfl rfl
    | stdinWriteFailed kind message => exact .kept _ rfl rfl
    | stdinFlushFailed kind message => exact .kept _ rfl rfl

theorem length_output_drop_lt {units : List EncodedAccessUnit} {j k : Nat} (hkj : k < j)
    (hk : k < units.length) : (output (units.drop j)).length < (output (units.drop k)).length := by
  have hsplit : units.drop k = units[k] :: units.drop (k + 1) := List.drop_eq_getElem_cons hk
  have hlater : units.drop (k + 1) = (units.drop (k + 1)).take (j - (k + 1)) ++ units.drop j := by
    conv_lhs => rw [← List.take_append_drop (j - (k + 1)) (units.drop (k + 1))]
    rw [List.drop_drop, show k + 1 + (j - (k + 1)) = j by omega]
  have hpos := List.length_pos_of_ne_nil units[k].bytes_ne_nil
  rw [hsplit, output_cons, hlater, output_append, List.length_append, List.length_append]
  omega

/-- As much as the last unit is left exactly when all units but the last are out. -/
theorem length_output_drop_le_last_iff {units : List EncodedAccessUnit} {k : Nat} (hk : k ≤ units.length) :
    (output (units.drop k)).length ≤ (output (units.drop (units.length - 1))).length ↔
      units.length ≤ k + 1 := by
  constructor
  · intro hle
    by_contra hlt
    have hmore := @length_output_drop_lt units (units.length - 1) k (by omega) (by omega)
    omega
  · intro hlast
    by_cases hall : k = units.length
    · rw [hall, List.drop_length]
      exact Nat.zero_le _
    · rw [show k = units.length - 1 by omega]

theorem accessUnitBytes_units (units : List EncodedAccessUnit) :
    accessUnitBytes (units.map accessUnit) = output units := by
  induction units with
  | nil => rfl
  | cons first more ih =>
    rw [output_cons, ← ih]
    rfl

/-- A session that ends surfaces no byte that is not in its buffer. -/
theorem finish_surfaces_le (state : ClientAnnexBAccessUnitReaderState) :
    (accessUnitBytes ([ClientPersistentFfmpegH264AccessUnitSessionStepResult.streamEnded
      (finish state).1].filterMap
        ClientPersistentFfmpegH264AccessUnitSessionStepResult.surfaced)).length ≤
      state.bufferedBytes.length := by
  cases hfinish : finish state with
  | mk result state' =>
    cases result with
    | accessUnit found =>
      obtain ⟨htaken, -⟩ := finish_lossless hfinish
      have hlength := congrArg List.length htaken.bytes_eq
      rw [List.length_append] at hlength
      show (accessUnitBytes [found]).length ≤ _
      omega
    | eofNoBufferedData | eofWithIncompleteData _ _ | malformedStream _ _ => exact Nat.zero_le _

/-- What is still buffered or unread before the call that ends the session is no more than the last
unit, and that call can read what is unread. -/
def EndsOnLastUnit (units : List EncodedAccessUnit) (run : EncoderSessionRun) (last : EncoderCall) : Prop :=
  (run.session.readerState.bufferedBytes ++ run.unread).length ≤
      (output (units.drop (units.length - 1))).length ∧
    (last.drains = true ∨ run.unread = [])

instance (units : List EncodedAccessUnit) (run : EncoderSessionRun) (last : EncoderCall) :
    Decidable (EndsOnLastUnit units run last) := inferInstanceAs (Decidable (_ ∧ _))

namespace SurfacesInOrder

variable {units : List EncodedAccessUnit} {run : EncoderSessionRun}
  {outs : List ClientPersistentFfmpegH264AccessUnitSessionStepResult}

theorem start (expectedFrameLen stdoutReadLen : Nat) (units : List EncodedAccessUnit) :
    SurfacesInOrder units [] (.start expectedFrameLen stdoutReadLen units) :=
  ⟨⟨_, rfl, rfl⟩, 0, Nat.zero_le _, rfl, rfl⟩

/-- A poll surfaces the next unit or none. -/
theorem polled (h : SurfacesInOrder units outs run) {runtime : ClientPersistentFfmpegH264EncoderRuntime}
    (hopen : runtime.stdoutOpen = true) {bytes later : List UInt8} (hsplit : run.unread = bytes ++ later) :
    SurfacesInOrder units
      (outs ++ [(polledAfterRead runtime (run.session.readerState.bufferedBytes ++ bytes)
        run.session.stdoutReadLen).2])
      ⟨(polledAfterRead runtime (run.session.readerState.bufferedBytes ++ bytes)
        run.session.stdoutReadLen).1, later⟩ := by
  obtain ⟨k, hk, houts, hleft⟩ := h.taken
  rw [hsplit, ← List.append_assoc] at hleft
  have hnothing : ∀ result : ClientPersistentFfmpegH264AccessUnitSessionStepResult,
      result.surfaced = none →
      (outs ++ [result]).filterMap ClientPersistentFfmpegH264AccessUnitSessionStepResult.surfaced =
        (units.take k).map accessUnit := by
    intro result hr
    rw [List.filterMap_append, houts, List.filterMap_cons, hr]
    exact List.append_nil _
  unfold polledAfterRead
  cases hextract : tryExtractAnnexBAccessUnit ⟨run.session.readerState.bufferedBytes ++ bytes⟩ false with
  | error reason => exact ⟨⟨runtime, rfl, hopen⟩, k, hk, hnothing _ rfl, hleft⟩
  | ok found =>
    cases found with
    | none => exact ⟨⟨runtime, rfl, hopen⟩, k, hk, hnothing _ rfl, hleft⟩
    | some result =>
      rcases extract_of_prefix ⟨later, hleft⟩ with
        hnever | ⟨first, next, behind, rest, hunits, hbuffer, -, hfirst⟩
      · exact absurd hextract (hnever result)
      · cases hfirst.symm.trans hextract
        have hlt : k < units.length := by
          by_contra hge
          rw [List.drop_eq_nil_of_le (by omega)] at hunits
          cases hunits
        rw [List.drop_eq_getElem_cons hlt] at hunits
        obtain ⟨hget, hnext⟩ := List.cons.inj hunits
        refine ⟨⟨runtime, rfl, hopen⟩, k + 1, hlt, ?_, ?_⟩
        · rw [List.filterMap_append, houts, List.take_succ_eq_append_getElem hlt, List.map_append, hget]
          rfl
        · rw [List.drop_eq_getElem_cons hlt, output_cons, hget, hbuffer, List.append_assoc] at hleft
          exact List.append_cancel_left hleft

theorem call (h : SurfacesInOrder units outs run) (call : EncoderCall)
    (hgoing : (run.call call).2.isStreamEnded = false) :
    SurfacesInOrder units (outs ++ [(run.call call).2]) (run.call call).1 := by
  obtain ⟨runtime, hruntime, hopen⟩ := h.isOpen
  have hstep := run.call_step hruntime hopen call
  generalize run.call call = result at hstep hgoing ⊢
  cases hstep with
  | polled bytes later split => exact h.polled hopen split
  | kept result nothing open_still =>
    obtain ⟨k, hk, houts, hleft⟩ := h.taken
    refine ⟨h.isOpen, k, hk, ?_, hleft⟩
    rw [List.filterMap_append, houts, List.filterMap_cons, nothing]
    exact List.append_nil _
  | ended run' => cases hgoing

/-- What the call that ends the session surfaces completes the units exactly when it ends on the last. -/
theorem ended_iff (h : SurfacesInOrder units outs run) (last : EncoderCall)
    (hended : (run.call last).2.isStreamEnded = true) :
    (outs ++ [(run.call last).2]).filterMap
        ClientPersistentFfmpegH264AccessUnitSessionStepResult.surfaced = units.map accessUnit ↔
      EndsOnLastUnit units run last := by
  obtain ⟨runtime, hruntime, hopen⟩ := h.isOpen
  obtain ⟨k, hk, houts, hleft⟩ := h.taken
  have hstep := run.call_step hruntime hopen last
  generalize run.call last = result at hstep hended ⊢
  rw [List.filterMap_append, houts, EndsOnLastUnit, hleft, length_output_drop_le_last_iff hk]
  cases hstep with
  | polled bytes later split =>
    unfold polledAfterRead at hended
    split at hended <;> cases hended
  | kept result nothing open_still => rw [open_still] at hended; cases hended
  | ended run' =>
    by_cases hdrained : last.drains = true ∨ run.unread = []
    · have hfinal : run.session.readerState.bufferedBytes ++ (if last.drains then run.unread else []) =
          output (units.drop k) := by
        rw [← hleft]
        rcases hdrained with hdrains | hempty
        · rw [if_pos hdrains]
        · rw [hempty, ite_self]
      rw [hfinal, and_iff_left hdrained]
      by_cases hall : k = units.length
      · rw [hall, List.drop_length, List.take_length]
        exact ⟨fun _ => Nat.le_succ _, fun _ => List.append_nil _⟩
      · have hlt : k < units.length := by omega
        have hfirst : [ClientPersistentFfmpegH264AccessUnitSessionStepResult.streamEnded
              (finish ⟨output (units.drop k)⟩).1].filterMap
              ClientPersistentFfmpegH264AccessUnitSessionStepResult.surfaced =
            [units[k]].map accessUnit := by
          rw [List.drop_eq_getElem_cons hlt, List.filterMap_cons, finish_output]
          rfl
        rw [hfirst, ← List.map_append, ← List.take_succ_eq_append_getElem hlt]
        constructor
        · intro heq
          have hlength := congrArg List.length heq
          rw [List.length_map, List.length_map, List.length_take] at hlength
          omega
        · intro hle
          rw [List.take_of_length_le hle]
    · -- the output could not be drained, so the last unit is cut
      refine ⟨fun heq => ?_, fun h => absurd h.2 hdrained⟩
      rw [not_or] at hdrained
      obtain ⟨hdrains, hunread⟩ := hdrained
      have hpos := List.length_pos_of_ne_nil hunread
      conv_rhs at heq => rw [← List.take_append_drop k units, List.map_append]
      rw [if_neg hdrains, List.append_nil] at heq
      have hall := List.append_cancel_left heq
      have hle := finish_surfaces_le run.session.readerState
      rw [hall, accessUnitBytes_units, ← hleft, List.length_append] at hle
      omega

end SurfacesInOrder

def runSession (run : EncoderSessionRun) (calls : List EncoderCall) :
    EncoderSessionRun × List ClientPersistentFfmpegH264AccessUnitSessionStepResult :=
  Run.run EncoderSessionRun.call run calls

theorem runSession_surfaces (expectedFrameLen stdoutReadLen : Nat) (units : List EncodedAccessUnit)
    (calls : List EncoderCall)
    (hgoing : ∀ result ∈ (runSession (.start expectedFrameLen stdoutReadLen units) calls).2,
      result.isStreamEnded = false) :
    SurfacesInOrder units (runSession (.start expectedFrameLen stdoutReadLen units) calls).2
      (runSession (.start expectedFrameLen stdoutReadLen units) calls).1 := by
  unfold runSession at hgoing ⊢
  induction calls using List.reverseRecOn with
  | nil => exact .start expectedFrameLen stdoutReadLen units
  | append_singleton calls call ih =>
    rw [run_concat] at hgoing ⊢
    have hbefore := ih fun result hr => hgoing result (List.mem_append_left _ hr)
    exact hbefore.call call (hgoing _ (List.mem_append_right _ (List.mem_singleton_self _)))

/-- Over every run of a session up to the end of the stream: the results surface the access units of the
stream, all and in order, exactly when no more than the last unit is left for the call that ends it. -/
theorem session_surfaces_all_iff (expectedFrameLen stdoutReadLen : Nat) (units : List EncodedAccessUnit)
    (calls : List EncoderCall) (last : EncoderCall)
    (hgoing : ∀ result ∈ (runSession (.start expectedFrameLen stdoutReadLen units) calls).2,
      result.isStreamEnded = false)
    (hended : ((runSession (.start expectedFrameLen stdoutReadLen units) calls).1.call last).2.isStreamEnded =
      true) :
    (runSession (.start expectedFrameLen stdoutReadLen units) (calls ++ [last])).2.filterMap
        ClientPersistentFfmpegH264AccessUnitSessionStepResult.surfaced = units.map accessUnit ↔
      EndsOnLastUnit units (runSession (.start expectedFrameLen stdoutReadLen units) calls).1 last := by
  have hbefore := runSession_surfaces expectedFrameLen stdoutReadLen units calls hgoing
  have hlast := hbefore.ended_iff last hended
  unfold runSession at hlast ⊢
  rw [run_concat]
  exact hlast

/-- A poll that finds all the encoder wrote, and more than enough room for it. -/
def pollAllWritten : EncoderCall := ⟨.pollStdoutOnce, .accepted, .ok 4096, true⟩

/-- Two units in one read: the poll surfaces the first, and the end of the output the second. -/
theorem session_surfaces_all_two :
    (runSession (.start 4 4096 promptUnits) [pollAllWritten, pollAllWritten]).2.filterMap
        ClientPersistentFfmpegH264AccessUnitSessionStepResult.surfaced = promptUnits.map accessUnit ↔
      EndsOnLastUnit promptUnits (runSession (.start 4 4096 promptUnits) [pollAllWritten]).1 pollAllWritten :=
  session_surfaces_all_iff 4 4096 promptUnits [pollAllWritten] pollAllWritten (by decide +kernel)
    (by decide +kernel)

def burstUnits : List EncodedAccessUnit := promptUnits ++ promptUnits.take 1

/-- Three units in one read: the poll surfaces the first, the end of the output the second, and the third
is dropped. -/
theorem session_loses_unit :
    ¬(∀ (expectedFrameLen stdoutReadLen : Nat) (units : List EncodedAccessUnit) (calls : List EncoderCall)
      (last : EncoderCall),
      (∀ result ∈ (runSession (.start expectedFrameLen stdoutReadLen units) calls).2,
        result.isStreamEnded = false) →
      ((runSession (.start expectedFrameLen stdoutReadLen units) calls).1.call last).2.isStreamEnded =
        true →
      (runSession (.start expectedFrameLen stdoutReadLen units) (calls ++ [last])).2.filterMap
        ClientPersistentFfmpegH264AccessUnitSessionStepResult.surfaced = units.map accessUnit) := by
  intro h
  have hall := h 4 4096 burstUnits [pollAllWritten] pollAllWritten (by decide +kernel) (by decide +kernel)
  have hlost : (runSession (.start 4 4096 burstUnits) [pollAllWritten, pollAllWritten]).2.filterMap
      ClientPersistentFfmpegH264AccessUnitSessionStepResult.surfaced ≠ burstUnits.map accessUnit := by
    decide +kernel
  exact hlost hall

end StreamSync
