import StreamSync.ReassemblyFrames

namespace StreamSync

open Assembly Run

def VideoFrame.reassemblyKey (frame : VideoFrame) : ServerVideoFrameReassemblyKey :=
  ⟨frame.clientId, frame.runId, frame.frameId⟩

/-- The frames that are reported as complete, in order. -/
def completions (outs : List ServerVideoFrameReassemblyApplyResult) : List VideoFrame :=
  outs.filterMap fun out => out.outcome.completed?

def completionsOf (key : ServerVideoFrameReassemblyKey)
    (outs : List ServerVideoFrameReassemblyApplyResult) : List VideoFrame :=
  (completions outs).filter fun frame => frame.reassemblyKey = key

/-- The queue operations of a run of fragments, in order. -/
def storesOf (inputs : List FragmentInput) (outs : List ServerVideoFrameReassemblyApplyResult) :
    List QueueOp :=
  (inputs.zip outs).filterMap fun p => p.2.outcome.completed?.map p.1.storeOp

def QueueOp.storedFrame? : QueueOp → Option VideoFrame
  | .storeFrame input _ _ => some input.registeredPacket.frame
  | _ => none

theorem applyToEntry_completed_key (entry : Option ServerVideoFrameReassemblyFrameState)
    (fragment : VideoFrameFragment) {frame : VideoFrame}
    (h : (applyToEntry entry fragment).2.completed? = some frame) :
    frame.reassemblyKey = .fromFragment fragment := by
  unfold applyToEntry at h
  split at h
  next => cases h
  next =>
    dsimp only at h
    split at h
    next => cases h
    split at h
    next => cases h
    split at h
    next => cases h
    split at h
    next => cases h
    next => cases h; rfl

/-- The queue sees one store for each completion and nothing else. -/
theorem runReassembly_stores (state : ServerVideoFrameReassemblyState × ServerVideoFrameQueueState)
    (inputs : List FragmentInput) :
    (runReassembly state inputs).1.2 =
        (run applyQueueOp state.2 (storesOf inputs (runReassembly state inputs).2)).1 ∧
      (storesOf inputs (runReassembly state inputs).2).filterMap QueueOp.storedFrame? =
        completions (runReassembly state inputs).2 := by
  induction inputs generalizing state with
  | nil => exact ⟨rfl, rfl⟩
  | cons input inputs ih =>
    have hqueue := (applyFragmentInput_applied state input).queue
    obtain ⟨hrun, hstores⟩ := ih (applyFragmentInput state input).1
    unfold runReassembly at hrun hstores ⊢
    rw [run_cons, storesOf, completions, List.zip_cons_cons, List.filterMap_cons, List.filterMap_cons]
    cases hc : (applyFragmentInput state input).2.outcome.completed? with
    | none =>
      rw [hc] at hqueue
      dsimp only at hqueue ⊢
      rw [hrun, hqueue]
      exact ⟨rfl, hstores⟩
    | some frame =>
      rw [hc] at hqueue
      dsimp only [Option.map_some] at hqueue ⊢
      rw [hrun, hqueue, run_cons]
      exact ⟨rfl, congrArg (frame :: ·) hstores⟩

theorem completionsOf_runReassembly (state : ServerVideoFrameReassemblyState × ServerVideoFrameQueueState)
    (inputs : List FragmentInput) (key : ServerVideoFrameReassemblyKey) :
    completionsOf key (runReassembly state inputs).2 =
      (run reassemblyMachine.localStep state.1.frames[key]?
        (reassemblyMachine.inputsOf key inputs)).2.filterMap ReassemblyOutcome.completed? := by
  have houts := reassemblyMachine.outputs_run state inputs key
  have hnamed := reassemblyMachine.outputsOf_filterMap ReassemblyOutcome.completed?
    VideoFrame.reassemblyKey (fun entry input _ hc =>
      applyToEntry_completed_key entry input.packet.fragment hc) state inputs key
  exact hnamed.symm.trans (congrArg (List.filterMap _) houts)

namespace FragmentedFrame

/-- The input carries one of the fragments of the frame. -/
def Carries (frame : FragmentedFrame) (input : FragmentInput) : Prop :=
  ∃ i < frame.count, input.packet.fragment = frame.fragment i

def indexOf (input : FragmentInput) : Nat := input.packet.fragment.chunkIndex.toNat

/-- The indices of the fragments of the frame among the inputs, in order. -/
def indices (frame : FragmentedFrame) (inputs : List FragmentInput) : List Nat :=
  (reassemblyMachine.inputsOf frame.key inputs).map indexOf

variable {frame : FragmentedFrame}

theorem Carries.fragment_eq {input : FragmentInput} (h : frame.Carries input) :
    indexOf input < frame.count ∧ input.packet.fragment = frame.fragment (indexOf input) := by
  obtain ⟨i, hi, hf⟩ := h
  have hindex : indexOf input = i := by
    rw [indexOf, hf]
    exact frame.index_toNat hi
  rw [hindex]
  exact ⟨hi, hf⟩

theorem Carries.key_eq {input : FragmentInput} (h : frame.Carries input) : input.key = frame.key := by
  obtain ⟨i, -, hf⟩ := h
  rw [FragmentInput.key, hf]
  rfl

/-- A run of the fragments of one frame on its own entry. -/
theorem entry_run {s : Finset Nat} {entry : Option ServerVideoFrameReassemblyFrameState}
    (h : EntryOf frame s entry) {inputs : List FragmentInput}
    (hin : ∀ input ∈ inputs, frame.Carries input) :
    EntryOf frame (pendingFrom frame.count s (inputs.map indexOf))
        (run reassemblyMachine.localStep entry inputs).1 ∧
      (run reassemblyMachine.localStep entry inputs).2.filterMap ReassemblyOutcome.completed? =
        List.replicate (roundsFrom frame.count s (inputs.map indexOf)) frame.whole := by
  induction inputs generalizing s entry with
  | nil => exact ⟨h, rfl⟩
  | cons input inputs ih =>
    obtain ⟨hi, hf⟩ := (hin input (by simp)).fragment_eq
    have hlocal : reassemblyMachine.localStep entry input =
        applyToEntry entry (frame.fragment (indexOf input)) := by
      rw [← hf]
      rfl
    obtain ⟨hentry, hout⟩ := applyToEntry_fragment h hi
    rw [← hlocal] at hentry hout
    obtain ⟨hrun, houts⟩ := ih hentry fun later hl => hin later (by simp [hl])
    rw [run_cons, List.filterMap_cons, hout, List.map_cons, roundsFrom]
    refine ⟨hrun, ?_⟩
    by_cases hc : completes frame.count s (indexOf input)
    · rw [if_pos hc, if_pos hc, houts, Nat.add_comm, List.replicate_succ]
    · rw [if_neg hc, if_neg hc, houts, Nat.zero_add]

/-- The entry and the completions of one frame, when the inputs of its key carry its fragments. -/
theorem entry_runReassembly
    (state : ServerVideoFrameReassemblyState × ServerVideoFrameQueueState) {s : Finset Nat}
    (h : EntryOf frame s state.1.frames[frame.key]?) (inputs : List FragmentInput)
    (hin : ∀ input ∈ inputs, input.key = frame.key → frame.Carries input) :
    EntryOf frame (pendingFrom frame.count s (frame.indices inputs))
        (runReassembly state inputs).1.1.frames[frame.key]? ∧
      completionsOf frame.key (runReassembly state inputs).2 =
        List.replicate (roundsFrom frame.count s (frame.indices inputs)) frame.whole := by
  have hown : ∀ input ∈ reassemblyMachine.inputsOf frame.key inputs, frame.Carries input := by
    intro input hi
    obtain ⟨hmem, hk⟩ := reassemblyMachine.mem_inputsOf.mp hi
    exact hin input hmem hk
  have hview := reassemblyMachine.view_run state inputs frame.key
  obtain ⟨hentry, hdone⟩ := entry_run h hown
  refine ⟨?_, ?_⟩
  · show EntryOf frame _ (reassemblyMachine.view (run reassemblyMachine.step state inputs).1 frame.key)
    rw [hview]
    exact hentry
  · exact (completionsOf_runReassembly state inputs frame.key).trans hdone

end FragmentedFrame

/-- What a run from an empty table comes to for one frame. -/
structure ReassembledOnce (queue : ServerVideoFrameQueueState) (inputs : List FragmentInput)
    (frame : FragmentedFrame) : Prop where
  completed : completionsOf frame.key (runReassembly (.empty, queue) inputs).2 =
    List.replicate (rounds frame.count (frame.indices inputs)) frame.whole
  tracked : (runReassembly (.empty, queue) inputs).1.1.containsFrame frame.key ↔
    (pending frame.count (frame.indices inputs)).Nonempty
  atMostOnce : NoneAfterComplete frame.count (frame.indices inputs) →
    (completionsOf frame.key (runReassembly (.empty, queue) inputs).2).length ≤ 1
  nothingLeft : NoneAfterComplete frame.count (frame.indices inputs) →
    Covers frame.count (frame.indices inputs) →
      completionsOf frame.key (runReassembly (.empty, queue) inputs).2 = [frame.whole] ∧
        ¬(runReassembly (.empty, queue) inputs).1.1.containsFrame frame.key

/-- Any interleaving, reordering and duplication of the fragments of a set of frames. -/
theorem runReassembly_once (queue : ServerVideoFrameQueueState) {frames : List FragmentedFrame}
    (distinct : ∀ f ∈ frames, ∀ g ∈ frames, f.key = g.key → f = g) {inputs : List FragmentInput}
    (carried : ∀ input ∈ inputs, ∃ frame ∈ frames, frame.Carries input) :
    (∀ frame ∈ frames, ReassembledOnce queue inputs frame) ∧
      (runReassembly (.empty, queue) inputs).1.2 =
        (run applyQueueOp queue (storesOf inputs (runReassembly (.empty, queue) inputs).2)).1 ∧
      (storesOf inputs (runReassembly (.empty, queue) inputs).2).filterMap QueueOp.storedFrame? =
        completions (runReassembly (.empty, queue) inputs).2 := by
  refine ⟨fun frame hf => ?_, runReassembly_stores (.empty, queue) inputs⟩
  have hin : ∀ input ∈ inputs, input.key = frame.key → frame.Carries input := by
    intro input hi hk
    obtain ⟨other, ho, hc⟩ := carried input hi
    have he : other = frame := distinct other ho frame hf (hc.key_eq.symm.trans hk)
    exact he ▸ hc
  obtain ⟨hentry, hdone⟩ :=
    FragmentedFrame.entry_runReassembly (.empty, queue) FragmentedFrame.EntryOf.nothing inputs hin
  have htracked := hentry.isSome_iff
  have hround : NoneAfterComplete frame.count (frame.indices inputs) →
      rounds frame.count (frame.indices inputs) ≤ 1 ∧ (Covers frame.count (frame.indices inputs) →
        rounds frame.count (frame.indices inputs) = 1 ∧ pending frame.count (frame.indices inputs) = ∅) :=
    rounds_of_noneAfterComplete frame.count_pos
  refine ⟨hdone, htracked, fun hn => ?_, fun hn hc => ?_⟩
  · rw [hdone, List.length_replicate]
    exact (hround hn).1
  · obtain ⟨hone, hempty⟩ := (hround hn).2 hc
    refine ⟨?_, fun hleft => ?_⟩
    · rw [hdone]
      exact congrArg (List.replicate · frame.whole) hone
    · have hpart := htracked.mp hleft
      rw [show pendingFrom frame.count ∅ (frame.indices inputs) = ∅ from hempty] at hpart
      simp at hpart

/-- Two chunks of one byte. -/
def twoChunks : FragmentedFrame where
  protocolVersion := 1
  clientId := "c"
  runId := "r"
  frameId := 7
  captureTimestamp := 100
  isKeyframe := true
  width := 640
  height := 360
  fpsNominal := 30
  chunks := [[1], [2]]
  chunks_ne := by decide
  chunks_lt := by decide
  payload_lt := by decide

def FragmentedFrame.input (frame : FragmentedFrame) (i : Nat) : FragmentInput :=
  let source : PacketSource := ⟨.v4 0x7F000001 5000⟩
  { packet := {
      source, authenticatedSender := ⟨frame.clientId, source, frame.runId, frame.protocolVersion, none⟩
      fragment := frame.fragment i }
    queuedAt := 200
    policy := ⟨8⟩ }

theorem runReassembly_once_duplicates :
    let final := runReassembly (.empty, .empty) ([1, 1, 0].map twoChunks.input)
    completionsOf twoChunks.key final.2 = [twoChunks.whole] ∧
      ¬final.1.1.containsFrame twoChunks.key := by
  have hc : ∀ input ∈ [1, 1, 0].map twoChunks.input, ∃ frame ∈ [twoChunks], frame.Carries input := by
    intro input hi
    obtain ⟨i, hm, rfl⟩ := List.mem_map.mp hi
    have hlt : ∀ j ∈ [1, 1, 0], j < twoChunks.count := by decide
    exact ⟨twoChunks, by simp, i, hlt i hm, rfl⟩
  have hd : ∀ f ∈ [twoChunks], ∀ g ∈ [twoChunks], f.key = g.key → f = g := by
    simp
  have hindices : twoChunks.indices ([1, 1, 0].map twoChunks.input) = [1, 1, 0] := by
    decide +kernel
  have honce := (runReassembly_once .empty hd hc).1 twoChunks (by simp)
  refine honce.nothingLeft ?_ ?_
  · rw [hindices]
    exact noneAfterComplete_of_dropLast (by decide)
  · rw [hindices]
    decide

/-- Chunks that come again after their frame was complete start it anew: a second completion, a
second store, and after that an entry that stays. -/
theorem runReassembly_late_duplicates :
    let inputs := [0, 1, 1, 0, 1].map twoChunks.input
    let final := runReassembly (.empty, .empty) inputs
    completionsOf twoChunks.key final.2 = [twoChunks.whole, twoChunks.whole] ∧
      (final.1.2.framesForClientRun "c" "r").length = 2 ∧ Covers 2 (twoChunks.indices inputs) ∧
      final.1.1.containsFrame twoChunks.key = true := by
  decide +kernel

end StreamSync
