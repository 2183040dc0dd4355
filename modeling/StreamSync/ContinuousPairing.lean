import Mathlib.Data.List.Forall2
import StreamSync.BgrConversion
import StreamSync.ContinuousRuntime
import StreamSync.Lib.BlockStream

namespace StreamSync

open BlockStream Stretching

/-- A picture in BGR24, with the alpha byte behind every pixel. -/
def bgraOfBgr24 : List UInt8 → List UInt8
  | b :: g :: r :: rest => b :: g :: r :: 255 :: bgraOfBgr24 rest
  | _ => []

theorem cells_bgraOfBgr24 {n : Nat} {bytes : List UInt8} (h : bytes.length = n * 3) :
    (bgraOfBgr24 bytes).length = n * 4 ∧
      ∀ k < n, cell 4 (bgraOfBgr24 bytes) k = withAlpha (cell 3 bytes k) := by
  induction n generalizing bytes with
  | zero =>
    rw [List.length_eq_zero_iff.mp (h.trans (Nat.zero_mul 3))]
    exact ⟨rfl, nofun⟩
  | succ n ih =>
    rw [Nat.succ_mul] at h
    match bytes, h with
    | b :: g :: r :: rest, h =>
      have hrest : rest.length = n * 3 := by
        simp only [List.length_cons] at h
        omega
      obtain ⟨hlen, hcells⟩ := ih hrest
      refine ⟨?_, fun k hk => ?_⟩
      · simp only [bgraOfBgr24, List.length_cons]
        omega
      · cases k with
        | zero => rfl
        | succ k =>
          have hwide : [b, g, r, 255].length = 4 := rfl
          have hnarrow : [b, g, r].length = 3 := rfl
          calc cell 4 ([b, g, r, 255] ++ bgraOfBgr24 rest) (k + 1)
            _ = cell 4 (bgraOfBgr24 rest) k := cell_append_succ hwide _ k
            _ = withAlpha (cell 3 rest k) := hcells k (by omega)
            _ = withAlpha (cell 3 ([b, g, r] ++ rest) (k + 1)) := by rw [cell_append_succ hnarrow]

theorem convertBgr24ToBgra8InPlace_eq {n : Nat} {bytes gap : List UInt8} (hbytes : bytes.length = n * 3)
    (hgap : gap.length = n) : convertBgr24ToBgra8InPlace (bytes ++ gap) (n * 3) = bgraOfBgr24 bytes := by
  have hlen : (bytes ++ gap).length = n * 4 := by
    rw [List.length_append]
    omega
  have hall := convertTurns_stretched (Nat.le_of_eq hlen.symm) (Nat.le_refl n)
  rw [Nat.sub_self, List.take_of_length_le (by simp)] at hall
  obtain ⟨hpicture, hcells⟩ := cells_bgraOfBgr24 hbytes
  rw [convertBgr24ToBgra8InPlace, Nat.mul_div_cancel _ (by decide)]
  refine eq_of_cells (hall.length.trans hlen) hpicture fun k hk => ?_
  rw [hall.done k (Nat.zero_le k) hk, hcells k hk]
  congr 1
  exact cell_congr fun i hi => List.getElem?_append_left (by omega)

/-- The bytes of pictures that the reader is still to complete. -/
def ReaderState.unfinished (stdout : List UInt8) : ReaderState → List UInt8
  | .reading bytes => bytes ++ stdout
  | .sending _ => stdout
  | .stopped => []

theorem ReaderState.unfinished_append {reader : ReaderState} (h : reader ≠ .stopped)
    (stdout bytes : List UInt8) : reader.unfinished (stdout ++ bytes) = reader.unfinished stdout ++ bytes := by
  cases reader with
  | reading read => exact (List.append_assoc _ _ _).symm
  | sending output => rfl
  | stopped => exact absurd rfl h

theorem ReaderState.unfinished_take (reader : ReaderState) (stdout : List UInt8) (unread : Nat) :
    reader.unfinished (stdout.take unread) <+: reader.unfinished stdout := by
  cases reader with
  | reading bytes => exact (List.prefix_append_right_inj _).mpr (List.take_prefix _ _)
  | sending output => exact List.take_prefix _ _
  | stopped => exact List.prefix_refl _

namespace TwoRealContinuousDecodeSession

/-- The `Decoded` events sent so far, in order. -/
def sent (session : TwoRealContinuousDecodeSession) : List TwoRealContinuousDecodeOutput :=
  session.drained ++ session.outputQueue.filterMap TwoRealContinuousDecodeEvent.output?

/-- The pictures read so far, each with its metadata. -/
def completed (session : TwoRealContinuousDecodeSession) : List TwoRealContinuousDecodeOutput :=
  session.sent ++ session.reader.output?.toList

/-- A picture as the cache is to hold it. -/
def pictureFrame (session : TwoRealContinuousDecodeSession) (picture : List UInt8) : SwitcherDecodedFrame where
  width := session.outputWidth
  height := session.outputHeight
  pixelFormat := .bgra8
  pixels :=
    match session.outputPipelineExperimentMode with
    | .default | .noScaleBgra => picture
    | .scaledBgr24 => bgraOfBgr24 picture

end TwoRealContinuousDecodeSession

/-- The access unit that the writer has taken and not yet begun to write. -/
def WriterState.taken? : WriterState → Option TwoRealContinuousDecodeInput
  | .received input => some input
  | _ => none

def WriterState.unwritten? : WriterState → Option TwoRealContinuousDecodeInput
  | .writing input => some input
  | _ => none

def WriterState.halted : WriterState → Bool
  | .failed | .stopped => true
  | _ => false

namespace TwoRealContinuousDecodeSession

/-- The access units of a session from the input channel on, in order. -/
def accepted (session : TwoRealContinuousDecodeSession) : List TwoRealContinuousDecodeInput :=
  session.handed ++ session.writer.taken?.toList ++ session.inputQueue

/-- What holds of a session between two steps of its threads. -/
structure Sound (pictures : DecoderPictures) (session : TwoRealContinuousDecodeSession) : Prop where
  sized : session.expectedLen =
    session.outputPipelineExperimentMode.outputFrameBytes session.outputWidth session.outputHeight
  paired : session.handed.map TwoRealContinuousDecodeInput.metadata =
    session.completed.map TwoRealContinuousDecodeOutput.metadata ++ session.correspondence
  shown : ∀ i output, session.completed[i]? = some output →
    output.frame = session.pictureFrame (pictures session.expectedLen i).toList
  streamed : stream (pictures session.expectedLen) session.completed.length ++
      session.reader.unfinished session.stdout <+:
    stream (pictures session.expectedLen) session.process.emitted
  delivered : session.process.running = true → session.reader ≠ .stopped →
    stream (pictures session.expectedLen) session.completed.length ++
      session.reader.unfinished session.stdout =
      stream (pictures session.expectedLen) session.process.emitted
  bytesRead : session.reader.bytes.length ≤ session.expectedLen
  emitted : session.process.emitted ≤ session.process.received.length
  written : session.process.received ++ session.stdin <+:
    session.handed.map TwoRealContinuousDecodeInput.encodedPayload
  unwritten : session.writer.halted = false →
    session.process.received ++ session.stdin ++
        session.writer.unwritten?.toList.map TwoRealContinuousDecodeInput.encodedPayload =
      session.handed.map TwoRealContinuousDecodeInput.encodedPayload

theorem sound_spawn (pictures : DecoderPictures) {width height : UInt32} {expectedLen : Nat}
    {mode : TwoRealContinuousOutputPipelineExperimentMode}
    (h : expectedLen = mode.outputFrameBytes width height) :
    (spawnContinuousDecodeSession width height expectedLen mode).Sound pictures := by
  refine ⟨h, rfl, ?_, List.prefix_refl _, fun _ _ => rfl, Nat.zero_le _, Nat.zero_le _,
    List.prefix_refl _, fun _ => rfl⟩
  intro i output hout
  cases hout

section Sound

variable {pictures : DecoderPictures} {session : TwoRealContinuousDecodeSession}

theorem outputFrame_eq (hsized : session.expectedLen =
      session.outputPipelineExperimentMode.outputFrameBytes session.outputWidth session.outputHeight)
    {bytes : List UInt8} (hlen : bytes.length = session.expectedLen) :
    session.outputFrame bytes = session.pictureFrame bytes := by
  unfold outputFrame pictureFrame
  congr 1
  cases hmode : session.outputPipelineExperimentMode with
  | default => rfl
  | noScaleBgra => rfl
  | scaledBgr24 =>
    have hthree : session.expectedLen = session.outputWidth.toNat * session.outputHeight.toNat * 3 := by
      rw [hsized, hmode]
      rfl
    dsimp only
    rw [hthree]
    exact convertBgr24ToBgra8InPlace_eq (hlen.trans hthree) (by rw [List.length_replicate]; omega)

/-- The picture that is read in full is the next one, and gets the metadata of the next access unit. -/
theorem Sound.pops (h : session.Sound pictures) {bytes : List UInt8} (hreader : session.reader = .reading bytes)
    (hfull : ¬bytes.length < session.expectedLen) {metadata : TwoRealContinuousDecodeMetadata}
    {correspondence : List TwoRealContinuousDecodeMetadata}
    (hcorrespondence : session.correspondence = metadata :: correspondence) :
    Sound pictures { session with
      reader := .sending ⟨metadata, session.outputFrame bytes⟩, correspondence } := by
  have hsent : session.completed = session.sent := by simp [completed, hreader, ReaderState.output?]
  have hlen : bytes.length = session.expectedLen := by
    have hle := h.bytesRead
    rw [hreader] at hle
    exact Nat.le_antisymm hle (Nat.le_of_not_lt hfull)
  have hstream := h.streamed
  have hdelivered := h.delivered
  rw [hsent, hreader, ReaderState.unfinished] at hstream hdelivered
  have hpicture : bytes = (pictures session.expectedLen session.sent.length).toList :=
    eq_block_of_prefix hlen
      ((List.append_assoc _ _ _ ▸ List.prefix_append _ session.stdout :
        _ ++ bytes <+: _ ++ (bytes ++ session.stdout)).trans hstream)
  have hcompleted : ({ session with
      reader := .sending ⟨metadata, session.outputFrame bytes⟩, correspondence } :
        TwoRealContinuousDecodeSession).completed =
      session.sent ++ [⟨metadata, session.outputFrame bytes⟩] := rfl
  have hnext : stream (pictures session.expectedLen) (session.sent.length + 1) ++ session.stdout =
      stream (pictures session.expectedLen) session.sent.length ++ (bytes ++ session.stdout) := by
    rw [stream_succ, ← hpicture, List.append_assoc]
  refine ⟨h.sized, ?_, ?_, ?_, ?_, Nat.zero_le _, h.emitted, h.written, h.unwritten⟩
  · have hpaired := h.paired
    rw [hsent, hcorrespondence] at hpaired
    rw [hcompleted, List.map_append, List.append_assoc]
    exact hpaired
  · intro i output hout
    rw [hcompleted] at hout
    rcases Nat.lt_trichotomy i session.sent.length with hi | rfl | hi
    · rw [List.getElem?_append_left hi, ← hsent] at hout
      exact h.shown i output hout
    · rw [List.getElem?_concat_length] at hout
      cases hout
      show session.outputFrame bytes = session.pictureFrame _
      rw [outputFrame_eq h.sized hlen, ← hpicture]
    · rw [List.getElem?_eq_none (by simp; omega)] at hout
      cases hout
  · rw [hcompleted, List.length_append, List.length_singleton]
    exact hnext ▸ hstream
  · intro hrunning _
    rw [hcompleted, List.length_append, List.length_singleton]
    exact hnext.trans (hdelivered hrunning ReaderState.noConfusion)

/-- The reader sends what it has completed. -/
theorem Sound.sends (h : session.Sound pictures) {output : TwoRealContinuousDecodeOutput}
    (hreader : session.reader = .sending output) :
    Sound pictures { session with
      reader := .reading [], outputQueue := session.outputQueue ++ [.decoded output] } := by
  have hcompleted : ({ session with
      reader := .reading [], outputQueue := session.outputQueue ++ [.decoded output] } :
        TwoRealContinuousDecodeSession).completed = session.completed := by
    simp [completed, sent, hreader, ReaderState.output?, TwoRealContinuousDecodeEvent.output?]
  have hstream := h.streamed
  have hdelivered := h.delivered
  rw [hreader] at hstream hdelivered
  refine ⟨h.sized, ?_, ?_, ?_, ?_, Nat.zero_le _, h.emitted, h.written, h.unwritten⟩
  · rw [hcompleted]
    exact h.paired
  · rw [hcompleted]
    exact h.shown
  · rw [hcompleted]
    exact hstream
  · rw [hcompleted]
    exact fun hrunning _ => hdelivered hrunning nofun

theorem Sound.stopReader (h : session.Sound pictures) (reason : String) {bytes : List UInt8}
    (hreader : session.reader = .reading bytes) : (session.stopReader reason).Sound pictures := by
  have hcompleted : (session.stopReader reason).completed = session.completed := by
    simp [TwoRealContinuousDecodeSession.stopReader, completed, sent, hreader, ReaderState.output?,
      TwoRealContinuousDecodeEvent.output?]
  refine ⟨h.sized, ?_, ?_, ?_, fun _ hstopped => absurd rfl hstopped, Nat.zero_le _, h.emitted, h.written,
    h.unwritten⟩
  · rw [hcompleted]
    exact h.paired
  · rw [hcompleted]
    exact h.shown
  · rw [hcompleted]
    show _ ++ [] <+: _
    rw [List.append_nil]
    exact (List.prefix_append _ _).trans h.streamed

/-- The writer reports a failed write; what was not written stays behind. -/
theorem Sound.fails (h : session.Sound pictures) (reason : String) :
    Sound pictures { session with
      writer := .failed, outputQueue := session.outputQueue ++ [.runtimeError reason] } := by
  have hcompleted : ({ session with
      writer := .failed, outputQueue := session.outputQueue ++ [.runtimeError reason] } :
        TwoRealContinuousDecodeSession).completed = session.completed := by
    simp [completed, sent, TwoRealContinuousDecodeEvent.output?]
  refine ⟨h.sized, ?_, ?_, ?_, ?_, h.bytesRead, h.emitted, h.written, nofun⟩
  · rw [hcompleted]
    exact h.paired
  · rw [hcompleted]
    exact h.shown
  · rw [hcompleted]
    exact h.streamed
  · rw [hcompleted]
    exact h.delivered

theorem Sound.writes (h : session.Sound pictures) {input : TwoRealContinuousDecodeInput}
    (hwriter : session.writer = .writing input) :
    Sound pictures { session with writer := .written, stdin := session.stdin ++ [input.encodedPayload] } := by
  have hunwritten := h.unwritten (by rw [hwriter]; rfl)
  rw [hwriter] at hunwritten
  have hall : session.process.received ++ (session.stdin ++ [input.encodedPayload]) =
      session.handed.map TwoRealContinuousDecodeInput.encodedPayload := by
    rw [← List.append_assoc]
    exact hunwritten
  refine ⟨h.sized, h.paired, h.shown, h.streamed, h.delivered, h.bytesRead, h.emitted, ?_, fun _ => ?_⟩
  · exact hall ▸ List.prefix_refl _
  · simpa [WriterState.unwritten?] using hall

theorem Sound.pushes (h : session.Sound pictures) {input : TwoRealContinuousDecodeInput}
    (hwriter : session.writer = .received input) :
    Sound pictures { session with
      writer := .writing input
      correspondence := session.correspondence ++ [input.metadata]
      handed := session.handed ++ [input] } := by
  have hunwritten := h.unwritten (by rw [hwriter]; rfl)
  rw [hwriter] at hunwritten
  have hall : session.process.received ++ session.stdin =
      session.handed.map TwoRealContinuousDecodeInput.encodedPayload := by
    simpa [WriterState.unwritten?] using hunwritten
  refine ⟨h.sized, ?_, h.shown, h.streamed, h.delivered, h.bytesRead, h.emitted, ?_, fun _ => ?_⟩
  · rw [List.map_append, h.paired, List.append_assoc]
    rfl
  · rw [List.map_append, ← hall]
    exact List.prefix_append _ _
  · rw [List.map_append, ← hall]
    rfl

theorem Sound.emits (h : session.Sound pictures) (hrunning : session.process.running = true)
    (hemit : session.process.emitted < session.process.received.length) :
    Sound pictures { session with
      process := { session.process with emitted := session.process.emitted + 1 }
      stdout := session.stdout ++ (pictures session.expectedLen session.process.emitted).toList } := by
  have hdelivered : session.reader ≠ .stopped →
      stream (pictures session.expectedLen) session.completed.length ++
          session.reader.unfinished
            (session.stdout ++ (pictures session.expectedLen session.process.emitted).toList) =
        stream (pictures session.expectedLen) (session.process.emitted + 1) := by
    intro hreader
    rw [ReaderState.unfinished_append hreader, ← List.append_assoc, h.delivered hrunning hreader, stream_succ]
  refine ⟨h.sized, h.paired, h.shown, ?_, fun _ => hdelivered, h.bytesRead, hemit, h.written, h.unwritten⟩
  by_cases hreader : session.reader = .stopped
  · have hstopped : ∀ stdout, session.reader.unfinished stdout = [] := by
      intro stdout
      rw [hreader]
      rfl
    have hstream := h.streamed
    rw [hstopped] at hstream
    show _ ++ session.reader.unfinished _ <+: stream _ (session.process.emitted + 1)
    rw [hstopped]
    exact hstream.trans (prefix_stream _ (Nat.le_succ _))
  · exact (hdelivered hreader) ▸ List.prefix_refl _

/-- A process that ends keeps what it had flushed, up to where the last picture breaks off. -/
theorem Sound.exits (h : session.Sound pictures) (unread : Nat) :
    Sound pictures { session with
      process := { session.process with running := false }, stdout := session.stdout.take unread } := by
  refine ⟨h.sized, h.paired, h.shown, ?_, nofun, h.bytesRead, h.emitted, h.written, h.unwritten⟩
  exact ((List.prefix_append_right_inj _).mpr (ReaderState.unfinished_take _ _ _)).trans h.streamed

theorem Sound.receives (h : session.Sound pictures) {payload : List UInt8} {stdin : List (List UInt8)}
    (hstdin : session.stdin = payload :: stdin) :
    Sound pictures { session with
      stdin, process := { session.process with received := session.process.received ++ [payload] } } := by
  have hmoved : (session.process.received ++ [payload]) ++ stdin = session.process.received ++ session.stdin := by
    rw [hstdin, List.append_assoc, List.singleton_append]
  refine ⟨h.sized, h.paired, h.shown, h.streamed, h.delivered, h.bytesRead, ?_, ?_, fun hrunning => ?_⟩
  · have hemitted := h.emitted
    simp only [List.length_append, List.length_singleton]
    omega
  · show session.process.received ++ [payload] ++ stdin <+: _
    rw [hmoved]
    exact h.written
  · show session.process.received ++ [payload] ++ stdin ++ _ = _
    rw [hmoved]
    exact h.unwritten hrunning

theorem Sound.reads (h : session.Sound pictures) {bytes : List UInt8}
    (hreader : session.reader = .reading bytes) (length : Nat) :
    let bytesRead := min length (session.expectedLen - bytes.length)
    Sound pictures { session with
      reader := .reading (bytes ++ session.stdout.take bytesRead)
      stdout := session.stdout.drop bytesRead } := by
  intro bytesRead
  have hunfinished : (ReaderState.reading (bytes ++ session.stdout.take bytesRead)).unfinished
      (session.stdout.drop bytesRead) = session.reader.unfinished session.stdout := by
    rw [hreader]
    show bytes ++ _ ++ _ = bytes ++ session.stdout
    rw [List.append_assoc, List.take_append_drop]
  have hcompleted : ({ session with
      reader := .reading (bytes ++ session.stdout.take bytesRead)
      stdout := session.stdout.drop bytesRead } : TwoRealContinuousDecodeSession).completed =
        session.completed := by
    simp [completed, sent, hreader, ReaderState.output?]
  have hbytes := h.bytesRead
  rw [hreader] at hbytes
  refine ⟨h.sized, ?_, ?_, ?_, fun hrunning _ => ?_, ?_, h.emitted, h.written, h.unwritten⟩
  · rw [hcompleted]
    exact h.paired
  · rw [hcompleted]
    exact h.shown
  · rw [hcompleted]
    exact hunfinished ▸ h.streamed
  · rw [hcompleted]
    exact hunfinished ▸ h.delivered hrunning (by rw [hreader]; nofun)
  · show (bytes ++ session.stdout.take bytesRead).length ≤ session.expectedLen
    have hread : bytesRead ≤ session.expectedLen - bytes.length := Nat.min_le_right _ _
    have htake := List.length_take_le bytesRead session.stdout
    simp only [ReaderState.bytes] at hbytes
    rw [List.length_append]
    omega

theorem Sound.receivesInput (h : session.Sound pictures) {input : TwoRealContinuousDecodeInput}
    (hwriter : session.writer = .receiving) (inputQueue : List TwoRealContinuousDecodeInput) :
    Sound pictures { session with writer := .received input, inputQueue } := by
  refine ⟨h.sized, h.paired, h.shown, h.streamed, h.delivered, h.bytesRead, h.emitted, h.written, fun _ => ?_⟩
  have hunwritten := h.unwritten (by rw [hwriter]; rfl)
  rw [hwriter] at hunwritten
  exact hunwritten

theorem Sound.returns (h : session.Sound pictures) (hwriter : session.writer = .written) :
    Sound pictures { session with writer := .receiving } := by
  refine ⟨h.sized, h.paired, h.shown, h.streamed, h.delivered, h.bytesRead, h.emitted, h.written, fun _ => ?_⟩
  have hunwritten := h.unwritten (by rw [hwriter]; rfl)
  rw [hwriter] at hunwritten
  exact hunwritten

/-- Every move of a thread or of the process keeps it. -/
theorem Sound.move {session' : TwoRealContinuousDecodeSession} (hmove : ThreadMove pictures session session')
    (h : session.Sound pictures) : session'.Sound pictures := by
  cases hmove with
  | receives hwriter _ => exact h.receivesInput hwriter _
  | pushes hwriter => exact h.pushes hwriter
  | writes hwriter => exact h.writes hwriter
  | returns hwriter => exact h.returns hwriter
  | stops =>
    exact ⟨h.sized, h.paired, h.shown, h.streamed, h.delivered, h.bytesRead, h.emitted, h.written, nofun⟩
  | fails => exact h.fails _
  | processReceives hstdin => exact h.receives hstdin
  | processEmits hrunning hemit => exact h.emits hrunning hemit
  | processExits unread => exact h.exits unread
  | reads hreader length => exact h.reads hreader length
  | readerStops hreader reason => exact h.stopReader reason hreader
  | pops hreader hfull hcorrespondence => exact h.pops hreader hfull hcorrespondence
  | sends hreader => exact h.sends hreader

theorem Sound.advance (h : session.Sound pictures) (steps : List ThreadStep) :
    (session.advance pictures steps).Sound pictures :=
  advance_keeps (fun _ _ hmove hsound => hsound.move hmove) h steps

theorem sent_takeEvents : session.takeEvents.2.sent = session.sent := List.append_nil _

theorem Sound.takeEvents (h : session.Sound pictures) : session.takeEvents.2.Sound pictures := by
  have hcompleted : session.takeEvents.2.completed = session.completed := by
    unfold completed
    rw [sent_takeEvents]
    rfl
  refine ⟨h.sized, ?_, ?_, ?_, ?_, h.bytesRead, h.emitted, h.written, h.unwritten⟩
  · rw [hcompleted]
    exact h.paired
  · rw [hcompleted]
    exact h.shown
  · rw [hcompleted]
    exact h.streamed
  · rw [hcompleted]
    exact h.delivered

/-- A `Decoded` event carries the metadata of the access unit at its place and the picture at its place. -/
theorem Sound.output_eq (h : session.Sound pictures) {i : Nat} {output : TwoRealContinuousDecodeOutput}
    (hout : session.sent[i]? = some output) :
    ∃ input, session.handed[i]? = some input ∧
      output = ⟨input.metadata, session.pictureFrame (pictures session.expectedLen i).toList⟩ := by
  have hi : i < session.sent.length := (List.getElem?_eq_some_iff.mp hout).1
  have hcompleted : session.completed[i]? = some output := by
    rw [completed, List.getElem?_append_left hi, hout]
  have hmetadata : (session.handed.map TwoRealContinuousDecodeInput.metadata)[i]? = some output.metadata := by
    rw [h.paired, List.getElem?_append_left (by simp [completed]; omega), List.getElem?_map, hcompleted]
    rfl
  rw [List.getElem?_map] at hmetadata
  obtain ⟨input, hinput, heq⟩ := Option.map_eq_some_iff.mp hmetadata
  exact ⟨input, hinput, by rw [heq, ← h.shown i output hcompleted]⟩

/-- A picture that has bytes is sent only after the process received its access unit. -/
theorem Sound.sent_le_received (h : session.Sound pictures) (hpos : 0 < session.expectedLen) :
    session.sent.length ≤ session.process.received.length := by
  have hle := h.streamed.length_le
  rw [List.length_append, length_stream, length_stream] at hle
  have hcompleted : session.completed.length ≤ session.process.emitted :=
    Nat.le_of_mul_le_mul_right (by omega) hpos
  have hsent : session.sent.length ≤ session.completed.length := by simp [completed]
  have hemitted := h.emitted
  omega

end Sound

/-- A thread that has halted left an error event. -/
def HaltReported (session : TwoRealContinuousDecodeSession) : Prop :=
  session.writer.halted = true ∨ session.reader = .stopped →
    ∃ reason, .runtimeError reason ∈ session.outputQueue

theorem HaltReported.mono {session session' : TwoRealContinuousDecodeSession} (h : session.HaltReported)
    (hwriter : session'.writer.halted = true → session.writer.halted = true)
    (hreader : session'.reader = .stopped → session.reader = .stopped)
    (hqueue : session.outputQueue ⊆ session'.outputQueue) : session'.HaltReported := by
  intro hhalted
  obtain ⟨reason, hreason⟩ := h (hhalted.imp hwriter hreader)
  exact ⟨reason, hqueue hreason⟩

theorem haltReported_concat {session : TwoRealContinuousDecodeSession}
    {queue : List TwoRealContinuousDecodeEvent} {reason : String}
    (h : session.outputQueue = queue ++ [.runtimeError reason]) : session.HaltReported := by
  intro _
  exact ⟨reason, by simp [h]⟩

theorem HaltReported.move {pictures : DecoderPictures} {session session' : TwoRealContinuousDecodeSession}
    (hmove : ThreadMove pictures session session') (h : session.HaltReported) : session'.HaltReported := by
  cases hmove with
  | receives | pushes | writes | returns => exact h.mono nofun id (List.Subset.refl _)
  | stops hwriter => exact h.mono (fun _ => by rw [hwriter]; rfl) id (List.Subset.refl _)
  | fails | readerStops => exact haltReported_concat rfl
  | processReceives | processEmits | processExits => exact h
  | reads | pops => exact h.mono id nofun (List.Subset.refl _)
  | sends => exact h.mono id nofun (List.subset_append_left _ _)

theorem HaltReported.advance {session : TwoRealContinuousDecodeSession} (h : session.HaltReported)
    (pictures : DecoderPictures) (steps : List ThreadStep) :
    (session.advance pictures steps).HaltReported :=
  advance_keeps (fun _ _ hmove hreported => hreported.move hmove) h steps

/-- A step of the threads brings no access unit to the session and keeps their order. -/
theorem accepted_of_move {pictures : DecoderPictures} {session session' : TwoRealContinuousDecodeSession}
    (hmove : ThreadMove pictures session session') : session'.accepted.Sublist session.accepted := by
  cases hmove with
  | receives hwriter hqueue => simp [accepted, hwriter, hqueue, WriterState.taken?]
  | pushes hwriter | writes hwriter | returns hwriter | stops hwriter | fails hwriter =>
    simp [accepted, hwriter, WriterState.taken?]
  | _ => exact List.Sublist.refl _

theorem accepted_advance (pictures : DecoderPictures) (session : TwoRealContinuousDecodeSession)
    (steps : List ThreadStep) : (session.advance pictures steps).accepted.Sublist session.accepted :=
  advance_keeps (P := fun later => later.accepted.Sublist session.accepted)
    (fun _ _ hmove hlater => (accepted_of_move hmove).trans hlater) (List.Sublist.refl _) steps

theorem trySend_sent {session session' : TwoRealContinuousDecodeSession}
    {input : TwoRealContinuousDecodeInput} (h : session.trySend input = .sent session') :
    session.writer ≠ .stopped ∧ session' = { session with inputQueue := session.inputQueue ++ [input] } := by
  unfold trySend at h
  split at h
  next => cases h
  next hwriter =>
    split at h
    next => cases h
    next =>
      cases h
      exact ⟨hwriter, rfl⟩

theorem le_of_trySend_full {session : TwoRealContinuousDecodeSession} {input : TwoRealContinuousDecodeInput}
    (h : session.trySend input = .full) : continuousDecodeQueueBound ≤ session.inputQueue.length := by
  unfold trySend at h
  split at h
  next => cases h
  next =>
    split at h
    next hfull => exact hfull
    next => cases h

theorem stopped_of_trySend_disconnected {session : TwoRealContinuousDecodeSession}
    {input : TwoRealContinuousDecodeInput} (h : session.trySend input = .disconnected) :
    session.writer = .stopped := by
  unfold trySend at h
  split at h
  next hwriter => exact hwriter
  next => split at h <;> cases h

theorem accepted_trySend {session session' : TwoRealContinuousDecodeSession}
    {input : TwoRealContinuousDecodeInput} (h : session.trySend input = .sent session') :
    session'.accepted = session.accepted ++ [input] := by
  rw [(trySend_sent h).2]
  exact (List.append_assoc _ _ _).symm

theorem Sound.trySend {pictures : DecoderPictures} {session session' : TwoRealContinuousDecodeSession}
    (h : session.Sound pictures) {input : TwoRealContinuousDecodeInput}
    (hsend : session.trySend input = .sent session') : session'.Sound pictures := by
  rw [(trySend_sent hsend).2]
  exact ⟨h.sized, h.paired, h.shown, h.streamed, h.delivered, h.bytesRead, h.emitted, h.written, h.unwritten⟩

theorem HaltReported.trySend {session session' : TwoRealContinuousDecodeSession} (h : session.HaltReported)
    {input : TwoRealContinuousDecodeInput} (hsend : session.trySend input = .sent session') :
    session'.HaltReported := by
  rw [(trySend_sent hsend).2]
  exact h

end TwoRealContinuousDecodeSession

end StreamSync
