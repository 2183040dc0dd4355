import StreamSync.ReassemblyOnce

namespace StreamSync

open KeyedTable Run

namespace ServerVideoFrameReassemblyFrameState

variable {state : ServerVideoFrameReassemblyFrameState}

theorem isComplete_iff_chunks : state.isComplete = true ↔ ∀ slot ∈ state.chunks, slot.isSome := by
  rw [isComplete, decide_eq_true_iff, fragmentsReceived, ← state.length_chunks,
    List.length_filter_eq_length_iff]

/-- A frame is complete exactly when it misses no chunk. -/
theorem isComplete_iff_missingChunks : state.isComplete = true ↔ state.missingChunks = [] := by
  rw [isComplete_iff_chunks, missingChunks, List.map_eq_nil_iff, List.filter_eq_nil_iff]
  constructor
  · rintro h ⟨slot, i⟩ hmem
    have hslot := h slot (List.fst_mem_of_mem_zipIdx hmem)
    cases slot with
    | none => cases hslot
    | some chunk => simp
  · intro h slot hslot
    obtain ⟨i, hi⟩ := List.mem_iff_getElem?.mp hslot
    have hmem : (slot, i) ∈ state.chunks.zipIdx := List.mk_mem_zipIdx_iff_getElem?.mpr hi
    have hnot := h (slot, i) hmem
    cases slot with
    | none => simp at hnot
    | some chunk => rfl

/-- A chunk for an empty slot adds itself, and nothing else changes. -/
theorem storeChunk_empty_slot {i : Nat} {payload : List UInt8} (hi : i < state.chunks.length)
    (h : state.chunkAt i = none) :
    (state.storeChunk i payload).fragmentsReceived = state.fragmentsReceived + 1 ∧
      (state.storeChunk i payload).reassemblePayload.length =
        state.reassemblePayload.length + payload.length := by
  have hnone : state.chunks[i] = none := by
    rw [chunkAt, List.getElem?_eq_getElem hi] at h
    exact h
  have hset : ∃ before after, state.chunks = before ++ state.chunks[i] :: after ∧ before.length = i ∧
      state.chunks.set i (some payload) = before ++ some payload :: after := List.exists_of_set hi
  obtain ⟨before, after, hchunks, -, hafter⟩ := hset
  rw [hnone] at hchunks
  have hstored : (state.storeChunk i payload).chunks = before ++ some payload :: after := hafter
  constructor
  · rw [fragmentsReceived, fragmentsReceived, hstored, hchunks]
    simp only [List.filter_append, List.filter_cons, Option.isSome_some, Option.isSome_none, if_true,
      List.length_append, List.length_cons]
    simp
    omega
  · rw [reassemblePayload, reassemblePayload, hstored, hchunks]
    simp only [List.filterMap_append, List.filterMap_cons, id_eq, List.flatten_append, List.flatten_cons,
      List.length_append]
    omega

theorem chunkAt_new (fragment : VideoFrameFragment) (i : Nat) : (new fragment).chunkAt i = none := by
  rw [chunkAt, new, List.getElem?_replicate]
  split <;> rfl

theorem metadataMatches_new (fragment : VideoFrameFragment) :
    metadataMatches (new fragment) fragment = true := by
  simp [metadataMatches, new]

end ServerVideoFrameReassemblyFrameState

theorem validateFragmentShape_eq_none {fragment : VideoFrameFragment}
    (h : validateFragmentShape fragment = none) :
    fragment.chunkIndex.toNat < fragment.chunkCount.toNat ∧
      fragment.chunkPayloadLen = fragment.chunkPayload.length := by
  unfold validateFragmentShape at h
  split at h
  next => cases h
  split at h
  next => cases h
  next hindex =>
    split at h
    next => cases h
    next hlen =>
      rw [UInt32.le_iff_toNat_le] at hindex
      exact ⟨by omega, by simpa using hlen⟩

/-- The state that a fragment is applied to: its entry, or a new one. -/
def pendingFrame (entry : Option ServerVideoFrameReassemblyFrameState) (fragment : VideoFrameFragment) :
    ServerVideoFrameReassemblyFrameState := entry.getD (.new fragment)

/-- The fragment is well formed, is one of its frame, and comes for a slot that is empty. -/
structure StoresChunk (entry : Option ServerVideoFrameReassemblyFrameState)
    (fragment : VideoFrameFragment) : Prop where
  shape : validateFragmentShape fragment = none
  metadata : metadataMatches (pendingFrame entry fragment) fragment = true
  slot : (pendingFrame entry fragment).chunkAt fragment.chunkIndex.toNat = none

/-- The fragment's chunk is the last that its frame misses. -/
def LastMissing (entry : Option ServerVideoFrameReassemblyFrameState) (fragment : VideoFrameFragment) :
    Prop :=
  (pendingFrame entry fragment).fragmentsReceived + 1 = (pendingFrame entry fragment).chunkCount.toNat

/-- The bytes of the frame that are there once the fragment's are. -/
def receivedWith (entry : Option ServerVideoFrameReassemblyFrameState) (fragment : VideoFrameFragment) :
    Nat :=
  (pendingFrame entry fragment).reassemblePayload.length + fragment.chunkPayload.length

/-- The fragment is the last missing of its frame, and the chunks are not as long as the frame says. -/
structure LastOfWrongLength (entry : Option ServerVideoFrameReassemblyFrameState)
    (fragment : VideoFrameFragment) : Prop where
  stores : StoresChunk entry fragment
  last : LastMissing entry fragment
  wrongLength : receivedWith entry fragment ≠ (pendingFrame entry fragment).totalPayloadLen.toNat

/-- The fragment makes its frame longer than the frame says. -/
structure Overlong (entry : Option ServerVideoFrameReassemblyFrameState)
    (fragment : VideoFrameFragment) : Prop where
  stores : StoresChunk entry fragment
  overlong : (pendingFrame entry fragment).totalPayloadLen.toNat < receivedWith entry fragment

def storedFrame (entry : Option ServerVideoFrameReassemblyFrameState) (fragment : VideoFrameFragment) :
    ServerVideoFrameReassemblyFrameState :=
  (pendingFrame entry fragment).storeChunk fragment.chunkIndex.toNat fragment.chunkPayload

section

variable {entry : Option ServerVideoFrameReassemblyFrameState} {fragment : VideoFrameFragment}

theorem StoresChunk.stored (h : StoresChunk entry fragment) :
    (storedFrame entry fragment).fragmentsReceived =
        (pendingFrame entry fragment).fragmentsReceived + 1 ∧
      (storedFrame entry fragment).reassemblePayload.length = receivedWith entry fragment := by
  have hcount : (pendingFrame entry fragment).chunkCount = fragment.chunkCount := by
    have hm := h.metadata
    simp only [metadataMatches, Bool.and_eq_true, decide_eq_true_iff] at hm
    exact hm.2
  have hindex := (validateFragmentShape_eq_none h.shape).1
  have hslots := (pendingFrame entry fragment).length_chunks
  rw [hcount] at hslots
  exact ServerVideoFrameReassemblyFrameState.storeChunk_empty_slot (by omega) h.slot

theorem StoresChunk.isComplete_iff (h : StoresChunk entry fragment) :
    (storedFrame entry fragment).isComplete = true ↔ LastMissing entry fragment := by
  rw [ServerVideoFrameReassemblyFrameState.isComplete, decide_eq_true_iff, h.stored.1]
  rfl

/-- All that a fragment can do to the entry of its key. -/
inductive EntryStep (entry : Option ServerVideoFrameReassemblyFrameState)
    (fragment : VideoFrameFragment) :
    Option ServerVideoFrameReassemblyFrameState × ReassemblyOutcome → Prop where
  | refused (summary : ServerVideoFrameReassemblySummary) (kept : ¬StoresChunk entry fragment) :
      EntryStep entry fragment (entry, .rejectedFragment summary)
  | duplicate (state : ServerVideoFrameReassemblyFrameState) (tracked : entry = some state)
      (summary : ServerVideoFrameReassemblySummary) (kept : ¬StoresChunk entry fragment) :
      EntryStep entry fragment (some state.countDuplicate, .duplicateFragmentIgnored summary)
  | stored (stores : StoresChunk entry fragment) (more : ¬LastMissing entry fragment)
      (summary : ServerVideoFrameReassemblySummary) :
      EntryStep entry fragment (some (storedFrame entry fragment), .fragmentStored summary)
  | wrongLength (wrong : LastOfWrongLength entry fragment)
      (summary : ServerVideoFrameReassemblySummary) :
      EntryStep entry fragment (some (storedFrame entry fragment), .rejectedFragment summary)
  | complete (stores : StoresChunk entry fragment) (last : LastMissing entry fragment)
      (exact_length : receivedWith entry fragment = (pendingFrame entry fragment).totalPayloadLen.toNat)
      (summary : ServerVideoFrameReassemblySummary) (frame : VideoFrame) :
      EntryStep entry fragment (none, .frameComplete summary frame)

theorem applyToEntry_step (entry : Option ServerVideoFrameReassemblyFrameState)
    (fragment : VideoFrameFragment) : EntryStep entry fragment (applyToEntry entry fragment) := by
  cases hv : validateFragmentShape fragment with
  | some reason =>
    rw [applyToEntry, hv]
    exact .refused _ fun h => by simp [h.shape] at hv
  | none =>
    by_cases hm : metadataMatches (pendingFrame entry fragment) fragment = true
    · have hmatch : ¬metadataMatches (pendingFrame entry fragment) fragment = false := by simp [hm]
      cases hs : (pendingFrame entry fragment).chunkAt fragment.chunkIndex.toNat with
      | some chunk =>
        have happly : applyToEntry entry fragment =
            (some (pendingFrame entry fragment).countDuplicate, .duplicateFragmentIgnored
              (summaryForState (.fromFragment fragment)
                (pendingFrame entry fragment).countDuplicate false none)) := by
          rw [applyToEntry, hv]
          exact (if_neg hmatch).trans (if_pos (Option.isSome_of_eq_some hs))
        have htracked : entry = some (pendingFrame entry fragment) := by
          cases entry with
          | none => simp [pendingFrame, ServerVideoFrameReassemblyFrameState.chunkAt_new] at hs
          | some state => rfl
        rw [happly]
        exact .duplicate _ htracked _ fun h => by simp [h.slot] at hs
      | none =>
        have hstores : StoresChunk entry fragment := ⟨hv, hm, hs⟩
        have hslot : ¬((pendingFrame entry fragment).chunkAt fragment.chunkIndex.toNat).isSome := by
          simp [hs]
        by_cases hlast : LastMissing entry fragment
        · have hdone : ¬(storedFrame entry fragment).isComplete = false := by
            simp [hstores.isComplete_iff.mpr hlast]
          by_cases hlen :
              receivedWith entry fragment = (pendingFrame entry fragment).totalPayloadLen.toNat
          · have happly : applyToEntry entry fragment =
                (none, .frameComplete
                  (summaryForState (.fromFragment fragment) (storedFrame entry fragment) true none)
                  (reassembledFrame (storedFrame entry fragment) fragment)) := by
              rw [applyToEntry, hv]
              refine (if_neg hmatch).trans ((if_neg hslot).trans ((if_neg hdone).trans ?_))
              exact if_neg (not_not.mpr (hstores.stored.2.trans hlen))
            rw [happly]
            exact .complete hstores hlast hlen _ _
          · have happly : applyToEntry entry fragment =
                (some (storedFrame entry fragment), .rejectedFragment
                  (summaryForState (.fromFragment fragment) (storedFrame entry fragment) false
                    (some .reassembledPayloadLenMismatch))) := by
              rw [applyToEntry, hv]
              refine (if_neg hmatch).trans ((if_neg hslot).trans ((if_neg hdone).trans ?_))
              exact if_pos fun heq => hlen (hstores.stored.2.symm.trans heq)
            rw [happly]
            exact .wrongLength ⟨hstores, hlast, hlen⟩ _
        · have hpart : (storedFrame entry fragment).isComplete = false := by
            simpa using mt hstores.isComplete_iff.mp hlast
          have happly : applyToEntry entry fragment =
              (some (storedFrame entry fragment), .fragmentStored
                (summaryForState (.fromFragment fragment) (storedFrame entry fragment) false none)) := by
            rw [applyToEntry, hv]
            exact (if_neg hmatch).trans ((if_neg hslot).trans (if_pos hpart))
          rw [happly]
          exact .stored hstores hlast _
    · have happly : applyToEntry entry fragment =
          (some (pendingFrame entry fragment), .rejectedFragment
            (summaryForState (.fromFragment fragment) (pendingFrame entry fragment) false
              (some .metadataMismatch))) := by
        rw [applyToEntry, hv]
        exact if_pos (Bool.eq_false_iff.mpr hm)
      have htracked : some (pendingFrame entry fragment) = entry := by
        cases entry with
        | none => exact absurd (ServerVideoFrameReassemblyFrameState.metadataMatches_new fragment) hm
        | some state => rfl
      rw [happly, htracked]
      exact .refused _ fun h => hm h.metadata

/-- A rejection leaves the entry as it was. -/
def RejectionKeeps (entry : Option ServerVideoFrameReassemblyFrameState) (fragment : VideoFrameFragment) :
    Prop :=
  ∀ summary, (applyToEntry entry fragment).2 = .rejectedFragment summary →
    (applyToEntry entry fragment).1 = entry

def MissesChunk (entry : Option ServerVideoFrameReassemblyFrameState) : Prop :=
  ∀ state, entry = some state → state.missingChunks ≠ []

/-- The entry misses a chunk and is not longer than its frame yet. -/
def RoomLeft (entry : Option ServerVideoFrameReassemblyFrameState) : Prop :=
  ∀ state, entry = some state →
    state.missingChunks ≠ [] ∧ state.reassemblePayload.length ≤ state.totalPayloadLen.toNat

theorem StoresChunk.missesChunk_iff (h : StoresChunk entry fragment) :
    (storedFrame entry fragment).missingChunks ≠ [] ↔ ¬LastMissing entry fragment := by
  rw [← h.isComplete_iff, ServerVideoFrameReassemblyFrameState.isComplete_iff_missingChunks]

/-- What one fragment keeps: everything, unless it is the last of a frame of another length. -/
theorem rejectionKeeps_missesChunk_iff (hmiss : MissesChunk entry) :
    (RejectionKeeps entry fragment ∧ MissesChunk (applyToEntry entry fragment).1) ↔
      ¬LastOfWrongLength entry fragment := by
  have hstep := applyToEntry_step entry fragment
  unfold RejectionKeeps
  generalize applyToEntry entry fragment = result at hstep ⊢
  cases hstep with
  | refused summary kept => exact ⟨fun _ h => kept h.stores, fun _ => ⟨fun _ _ => rfl, hmiss⟩⟩
  | duplicate state tracked summary kept =>
    refine ⟨fun _ h => kept h.stores, fun _ => ⟨nofun, fun counted hc => ?_⟩⟩
    cases hc
    exact hmiss state tracked
  | stored stores more summary =>
    refine ⟨fun _ h => more h.last, fun _ => ⟨nofun, fun state hs => ?_⟩⟩
    cases hs
    exact stores.missesChunk_iff.mpr more
  | wrongLength wrong summary =>
    refine ⟨fun h => ?_, fun h => absurd wrong h⟩
    exact absurd wrong.last (wrong.stores.missesChunk_iff.mp (h.2 _ rfl))
  | complete stores last exact_length summary frame =>
    exact ⟨fun _ h => h.wrongLength exact_length, fun _ => ⟨nofun, nofun⟩⟩

theorem rejectionKeeps_roomLeft_iff (hroom : RoomLeft entry) :
    (RejectionKeeps entry fragment ∧ RoomLeft (applyToEntry entry fragment).1) ↔
      ¬LastOfWrongLength entry fragment ∧ ¬Overlong entry fragment := by
  have hstep := applyToEntry_step entry fragment
  unfold RejectionKeeps
  generalize applyToEntry entry fragment = result at hstep ⊢
  cases hstep with
  | refused summary kept =>
    exact ⟨fun _ => ⟨fun h => kept h.stores, fun h => kept h.stores⟩, fun _ => ⟨fun _ _ => rfl, hroom⟩⟩
  | duplicate state tracked summary kept =>
    refine ⟨fun _ => ⟨fun h => kept h.stores, fun h => kept h.stores⟩,
      fun _ => ⟨nofun, fun counted hc => ?_⟩⟩
    cases hc
    exact hroom state tracked
  | stored stores more summary =>
    constructor
    · rintro ⟨-, h⟩
      obtain ⟨-, hle⟩ := h _ rfl
      rw [stores.stored.2] at hle
      exact ⟨fun hlast => more hlast.last, fun hover => Nat.not_lt.mpr hle hover.overlong⟩
    · rintro ⟨-, hover⟩
      refine ⟨nofun, fun state hs => ?_⟩
      cases hs
      refine ⟨stores.missesChunk_iff.mpr more, ?_⟩
      rw [stores.stored.2]
      exact Nat.not_lt.mp fun h => hover ⟨stores, h⟩
  | wrongLength wrong summary =>
    refine ⟨fun h => ?_, fun h => absurd wrong h.1⟩
    exact absurd wrong.last (wrong.stores.missesChunk_iff.mp (h.2 _ rfl).1)
  | complete stores last exact_length summary frame =>
    refine ⟨fun _ => ⟨fun h => h.wrongLength exact_length, fun h => ?_⟩, fun _ => ⟨nofun, nofun⟩⟩
    exact Nat.lt_irrefl _ (exact_length ▸ h.overlong)

theorem StoresChunk.room (h : StoresChunk entry fragment) :
    (pendingFrame entry fragment).fragmentsReceived < (pendingFrame entry fragment).chunkCount.toNat := by
  have hle : (storedFrame entry fragment).fragmentsReceived ≤ (storedFrame entry fragment).chunks.length :=
    List.length_filter_le _ _
  rw [(storedFrame entry fragment).length_chunks, h.stored.1] at hle
  exact hle

/-- What comes after an entry without room never completes it, and finds no room either. -/
theorem applyToEntry_stuck {state : ServerVideoFrameReassemblyFrameState}
    (hstuck : ¬RoomLeft (some state)) (fragment : VideoFrameFragment) :
    (applyToEntry (some state) fragment).2.completed? = none ∧
      ∃ later, (applyToEntry (some state) fragment).1 = some later ∧ ¬RoomLeft (some later) := by
  have hstep := applyToEntry_step (some state) fragment
  have hfull : state.missingChunks = [] ∨
      state.totalPayloadLen.toNat < state.reassemblePayload.length := by
    by_contra hnot
    rw [not_or, Nat.not_lt] at hnot
    exact hstuck fun tracked ht => Option.some.inj ht ▸ hnot
  have hempty : StoresChunk (some state) fragment → state.missingChunks ≠ [] := by
    intro h hnone
    have hcomplete := ServerVideoFrameReassemblyFrameState.isComplete_iff_missingChunks.mpr hnone
    have hall : state.fragmentsReceived = state.chunkCount.toNat := of_decide_eq_true hcomplete
    have hlt : state.fragmentsReceived < state.chunkCount.toNat := h.room
    omega
  generalize applyToEntry (some state) fragment = result at hstep ⊢
  cases hstep with
  | refused summary kept => exact ⟨rfl, state, rfl, hstuck⟩
  | duplicate counted tracked summary kept =>
    cases tracked
    refine ⟨rfl, state.countDuplicate, rfl, fun hroom => hstuck fun tracked ht => ?_⟩
    cases ht
    exact hroom state.countDuplicate rfl
  | stored stores more summary =>
    refine ⟨rfl, storedFrame (some state) fragment, rfl, fun hroom => ?_⟩
    obtain ⟨-, hle⟩ := hroom _ rfl
    rw [stores.stored.2] at hle
    have hlong : state.totalPayloadLen.toNat < state.reassemblePayload.length :=
      hfull.resolve_left (hempty stores)
    have hsum : state.reassemblePayload.length + fragment.chunkPayload.length ≤
      state.totalPayloadLen.toNat := hle
    omega
  | wrongLength wrong summary =>
    refine ⟨rfl, storedFrame (some state) fragment, rfl, fun hroom => ?_⟩
    exact absurd wrong.last (wrong.stores.missesChunk_iff.mp (hroom _ rfl).1)
  | complete stores last exact_length summary frame =>
    have hlong : state.totalPayloadLen.toNat < state.reassemblePayload.length :=
      hfull.resolve_left (hempty stores)
    have hsum : state.reassemblePayload.length + fragment.chunkPayload.length =
      state.totalPayloadLen.toNat := exact_length
    omega

theorem run_stuck {state : ServerVideoFrameReassemblyFrameState} (hstuck : ¬RoomLeft (some state))
    (inputs : List FragmentInput) :
    (run reassemblyMachine.localStep (some state) inputs).2.filterMap ReassemblyOutcome.completed? = [] := by
  induction inputs generalizing state with
  | nil => rfl
  | cons input inputs ih =>
    obtain ⟨hout, later, hlater, hstill⟩ := applyToEntry_stuck hstuck input.packet.fragment
    have hlocal : reassemblyMachine.localStep (some state) input =
        applyToEntry (some state) input.packet.fragment := rfl
    rw [run_cons, List.filterMap_cons, hlocal, hout, hlater]
    exact ih hstill

/-- A fragment of the frame of an entry, for one slot and with a payload of one length. -/
def fillingFragment (key : ServerVideoFrameReassemblyKey) (state : ServerVideoFrameReassemblyFrameState)
    (index payloadLen : Nat) : VideoFrameFragment where
  messageType := .videoFrameFragment
  protocolVersion := state.protocolVersion
  clientId := key.clientId
  runId := key.runId
  frameId := key.frameId
  captureTimestamp := state.captureTimestamp
  isKeyframe := state.isKeyframe
  width := state.width
  height := state.height
  fpsNominal := state.fpsNominal
  totalPayloadLen := state.totalPayloadLen
  chunkIndex := UInt32.ofNat index
  chunkCount := state.chunkCount
  chunkPayloadLen := payloadLen
  chunkPayload := List.replicate payloadLen 0

def fillingInput (key : ServerVideoFrameReassemblyKey) (state : ServerVideoFrameReassemblyFrameState)
    (index payloadLen : Nat) : FragmentInput where
  packet := {
    source := ⟨.v4 0 0⟩
    authenticatedSender := {
      clientId := key.clientId, source := ⟨.v4 0 0⟩, runId := key.runId,
      protocolVersion := state.protocolVersion, registeredAt := none }
    fragment := fillingFragment key state index payloadLen }
  queuedAt := 0
  policy := .default

theorem fillingFragment_stores (key : ServerVideoFrameReassemblyKey)
    {state : ServerVideoFrameReassemblyFrameState} {index : Nat} (hindex : index < state.chunks.length)
    (hslot : state.chunkAt index = none) (payloadLen : Nat) :
    StoresChunk (some state) (fillingFragment key state index payloadLen) := by
  rw [state.length_chunks] at hindex
  have hnat : (UInt32.ofNat index).toNat = index :=
    UInt32.toNat_ofNat_of_lt' (Nat.lt_trans hindex state.chunkCount.toNat_lt)
  refine ⟨?_, ?_, ?_⟩
  · have hzero : ¬state.chunkCount = 0 := by
      intro h
      rw [h] at hindex
      exact absurd hindex (Nat.not_lt_zero index)
    have hrange : ¬state.chunkCount ≤ UInt32.ofNat index := by
      rw [UInt32.le_iff_toNat_le, hnat]
      omega
    have hlen : ¬payloadLen ≠ (List.replicate payloadLen (0 : UInt8)).length := by simp
    exact (if_neg hzero).trans ((if_neg hrange).trans (if_neg hlen))
  · simp [metadataMatches, pendingFrame, fillingFragment]
  · show state.chunkAt (UInt32.ofNat index).toNat = none
    rw [hnat]
    exact hslot

theorem exists_missing_slot {state : ServerVideoFrameReassemblyFrameState}
    (h : state.missingChunks ≠ []) : ∃ index < state.chunks.length, state.chunkAt index = none := by
  have hnot : ¬∀ slot ∈ state.chunks, slot.isSome := by
    rw [← ServerVideoFrameReassemblyFrameState.isComplete_iff_chunks,
      ServerVideoFrameReassemblyFrameState.isComplete_iff_missingChunks]
    exact h
  push Not at hnot
  obtain ⟨slot, hmem, hslot⟩ := hnot
  obtain ⟨index, hindex⟩ := List.mem_iff_getElem?.mp hmem
  obtain ⟨hlt, -⟩ := List.getElem?_eq_some_iff.mp hindex
  refine ⟨index, hlt, ?_⟩
  rw [ServerVideoFrameReassemblyFrameState.chunkAt, hindex]
  simpa using hslot

/-- An entry with room is completed by fragments for the slots it misses: empty ones, and a last one
with all the bytes that are left. -/
theorem run_completes (key : ServerVideoFrameReassemblyKey) (missing : Nat)
    {state : ServerVideoFrameReassemblyFrameState} (hroom : RoomLeft (some state))
    (hmissing : state.fragmentsReceived + missing = state.chunkCount.toNat) :
    ∃ more : List FragmentInput, (∀ input ∈ more, input.key = key) ∧
      (run reassemblyMachine.localStep (some state) more).2.filterMap ReassemblyOutcome.completed? ≠ [] := by
  induction missing generalizing state with
  | zero =>
    refine absurd (ServerVideoFrameReassemblyFrameState.isComplete_iff_missingChunks.mp ?_) (hroom _ rfl).1
    exact decide_eq_true hmissing
  | succ missing ih =>
    obtain ⟨hempty, hle⟩ := hroom _ rfl
    obtain ⟨index, hindex, hslot⟩ := exists_missing_slot hempty
    let left := if missing = 0 then state.totalPayloadLen.toNat - state.reassemblePayload.length else 0
    let fragment := fillingFragment key state index left
    have hstores : StoresChunk (some state) fragment := fillingFragment_stores key hindex hslot left
    have hbytes : receivedWith (some state) fragment = state.reassemblePayload.length + left :=
      congrArg (state.reassemblePayload.length + ·) List.length_replicate
    have hstored : (storedFrame (some state) fragment).fragmentsReceived = state.fragmentsReceived + 1 :=
      hstores.stored.1
    have hlast : LastMissing (some state) fragment ↔ missing = 0 := by
      show state.fragmentsReceived + 1 = state.chunkCount.toNat ↔ missing = 0
      omega
    have hlocal : reassemblyMachine.localStep (some state) (fillingInput key state index left) =
        applyToEntry (some state) fragment := rfl
    have hstep := applyToEntry_step (some state) fragment
    generalize applyToEntry (some state) fragment = result at hstep hlocal
    cases hstep with
    | refused summary kept => exact absurd hstores kept
    | duplicate counted tracked summary kept => exact absurd hstores kept
    | stored stores more summary =>
      have hpos : missing ≠ 0 := fun h => more (hlast.mpr h)
      have hroom' : RoomLeft (some (storedFrame (some state) fragment)) := by
        intro later hl
        cases hl
        refine ⟨stores.missesChunk_iff.mpr more, ?_⟩
        rw [stores.stored.2, hbytes, show left = 0 from if_neg hpos]
        exact hle
      obtain ⟨rest, hkeys, hdone⟩ := ih hroom' (by
        show (storedFrame (some state) fragment).fragmentsReceived + missing = state.chunkCount.toNat
        omega)
      refine ⟨fillingInput key state index left :: rest, fun input hin => ?_, ?_⟩
      · rcases List.mem_cons.mp hin with rfl | hin
        · rfl
        · exact hkeys input hin
      · rw [run_cons, hlocal, List.filterMap_cons]
        exact hdone
    | wrongLength wrong summary =>
      have hzero : missing = 0 := hlast.mp wrong.last
      refine absurd ?_ wrong.wrongLength
      rw [hbytes, show left = _ from if_pos hzero]
      show _ = state.totalPayloadLen.toNat
      omega
    | complete stores last exact_length summary frame =>
      refine ⟨[fillingInput key state index left], fun input hin => ?_, ?_⟩
      · rw [List.mem_singleton.mp hin]
        rfl
      · rw [run_cons, hlocal]
        simp [ReassemblyOutcome.completed?]

end

/-- The reassembly table and the queue it feeds. -/
abbrev ReassemblyRunState := ServerVideoFrameReassemblyState × ServerVideoFrameQueueState

/-- A rejected fragment changes neither the table nor the queue. -/
def RejectionLeavesNoTrace (state : ReassemblyRunState) (input : FragmentInput) : Prop :=
  ∀ summary, (applyFragmentInput state input).2 = .rejectedFragment summary →
    (applyFragmentInput state input).1 = state

def EveryFrameMissesChunk (state : ReassemblyRunState) : Prop :=
  ∀ key : ServerVideoFrameReassemblyKey, MissesChunk state.1.frames[key]?

/-- Some further fragments of each tracked frame complete it. -/
def EveryFrameCanComplete (state : ReassemblyRunState) : Prop :=
  ∀ (key : ServerVideoFrameReassemblyKey) tracked, state.1.frames[key]? = some tracked →
    ∃ more : List FragmentInput, (∀ input ∈ more, input.key = key) ∧
      completionsOf key (runReassembly state more).2 ≠ []

/-- The input hands over the last chunk that its frame misses, and with it the frame is not as long as
it says. -/
def HandsOverWrongLength (state : ReassemblyRunState) (input : FragmentInput) : Prop :=
  LastOfWrongLength state.1.frames[input.key]? input.packet.fragment

/-- The input hands over a chunk with which its frame is longer than it says. -/
def HandsOverTooMuch (state : ReassemblyRunState) (input : FragmentInput) : Prop :=
  Overlong state.1.frames[input.key]? input.packet.fragment

section

variable {state : ReassemblyRunState} {input : FragmentInput}

theorem rejectionLeavesNoTrace_iff :
    RejectionLeavesNoTrace state input ↔
      RejectionKeeps state.1.frames[input.key]? input.packet.fragment := by
  have happlied := applyFragmentInput_applied state input
  constructor
  · intro h summary hout
    rw [← happlied.outcome] at hout
    have hresult : (applyFragmentInput state input).2 = .rejectedFragment summary := by
      cases hr : (applyFragmentInput state input).2 with
      | rejectedFragment other =>
        rw [hr] at hout
        cases hout
        rfl
      | fragmentStored _ | duplicateFragmentIgnored _ | frameComplete _ _ _ =>
        rw [hr] at hout
        cases hout
    rw [← happlied.entry, h summary hresult]
  · intro h summary hresult
    have hqueue := happlied.queue
    have hout := happlied.outcome
    rw [hresult] at hqueue hout
    have hentry := happlied.entry
    rw [h summary hout.symm] at hentry
    have hframes : (applyFragmentInput state input).1.1.frames = state.1.frames := by
      refine Std.ExtTreeMap.ext_getElem? fun key => ?_
      by_cases hk : input.key = key
      · rw [← hk, hentry]
      · exact happlied.others key hk
    obtain ⟨⟨frames⟩, queue⟩ := state
    generalize applyFragmentInput (⟨frames⟩, queue) input = result at hqueue hframes ⊢
    obtain ⟨⟨⟨frames'⟩, queue'⟩, out⟩ := result
    cases hframes
    cases hqueue
    rfl

/-- A property of single entries after one input: that of the entry it is for decides. -/
theorem everyEntry_apply_iff {P : Option ServerVideoFrameReassemblyFrameState → Prop}
    (h : ∀ key : ServerVideoFrameReassemblyKey, P state.1.frames[key]?) :
    (∀ key : ServerVideoFrameReassemblyKey, P (applyFragmentInput state input).1.1.frames[key]?) ↔
      P (applyToEntry state.1.frames[input.key]? input.packet.fragment).1 := by
  have happlied := applyFragmentInput_applied state input
  refine ⟨fun hall => happlied.entry ▸ hall input.key, fun hown key => ?_⟩
  by_cases hk : input.key = key
  · rw [← hk, happlied.entry]
    exact hown
  · rw [happlied.others key hk]
    exact h key

theorem everyFrameCanComplete_iff :
    EveryFrameCanComplete state ↔ ∀ key : ServerVideoFrameReassemblyKey, RoomLeft state.1.frames[key]? := by
  constructor
  · intro h key
    cases he : state.1.frames[key]? with
    | none => exact nofun
    | some tracked =>
      by_contra hstuck
      obtain ⟨more, -, hdone⟩ := h key tracked he
      rw [completionsOf_runReassembly, he] at hdone
      exact hdone (run_stuck hstuck _)
  · intro h key tracked he
    have hroom := h key
    rw [he] at hroom
    have hle : tracked.fragmentsReceived ≤ tracked.chunks.length := List.length_filter_le _ _
    rw [tracked.length_chunks] at hle
    obtain ⟨more, hkeys, hdone⟩ := run_completes key
      (tracked.chunkCount.toNat - tracked.fragmentsReceived) hroom (by omega)
    have hown : reassemblyMachine.inputsOf key more = more := by
      refine List.filter_eq_self.mpr fun input hin => ?_
      exact decide_eq_true (hkeys input hin)
    refine ⟨more, hkeys, ?_⟩
    rw [completionsOf_runReassembly, he, hown]
    exact hdone

end

/-- The table is empty at the start, so no frame is tracked. -/
theorem everyEntry_empty (P : Option ServerVideoFrameReassemblyFrameState → Prop) (h : P none)
    (queue : ServerVideoFrameQueueState) (key : ServerVideoFrameReassemblyKey) :
    P (ServerVideoFrameReassemblyState.empty, queue).1.frames[key]? := by
  show P (∅ : Table ServerVideoFrameReassemblyKey ServerVideoFrameReassemblyFrameState)[key]?
  rw [getElem?_empty_eq]
  exact h

/-- Over every run from an empty table: rejections leave no trace and every tracked frame misses a chunk
exactly when no fragment is the last missing of a frame that then is not as long as it says; and every
tracked frame can then still be completed exactly when also no fragment makes its frame too long. -/
theorem rejections_leave_no_trace_iff (queue : ServerVideoFrameQueueState) (inputs : List FragmentInput) :
    ((Along applyFragmentInput RejectionLeavesNoTrace (.empty, queue) inputs ∧
        ∀ done, done <+: inputs → EveryFrameMissesChunk (runReassembly (.empty, queue) done).1) ↔
      Along applyFragmentInput (fun state input => ¬HandsOverWrongLength state input)
        (.empty, queue) inputs) ∧
    ((Along applyFragmentInput RejectionLeavesNoTrace (.empty, queue) inputs ∧
        ∀ done, done <+: inputs → EveryFrameMissesChunk (runReassembly (.empty, queue) done).1 ∧
          EveryFrameCanComplete (runReassembly (.empty, queue) done).1) ↔
      Along applyFragmentInput
        (fun state input => ¬HandsOverWrongLength state input ∧ ¬HandsOverTooMuch state input)
        (.empty, queue) inputs) := by
  constructor
  · refine always_iff_along (fun state input hmiss => ?_)
      (everyEntry_empty MissesChunk nofun queue) inputs
    rw [rejectionLeavesNoTrace_iff]
    exact Iff.trans (and_congr_right' (everyEntry_apply_iff hmiss))
      (rejectionKeeps_missesChunk_iff (hmiss input.key))
  · have hstate : ∀ state : ReassemblyRunState,
        (EveryFrameMissesChunk state ∧ EveryFrameCanComplete state) ↔
          ∀ key : ServerVideoFrameReassemblyKey, RoomLeft state.1.frames[key]? := by
      intro state
      rw [everyFrameCanComplete_iff]
      exact ⟨fun h => h.2, fun h => ⟨fun key tracked ht => (h key tracked ht).1, h⟩⟩
    refine always_iff_along
      (I := fun state => EveryFrameMissesChunk state ∧ EveryFrameCanComplete state)
      (fun state input hroom => ?_)
      ((hstate _).mpr (everyEntry_empty RoomLeft nofun queue)) inputs
    rw [hstate] at hroom
    rw [rejectionLeavesNoTrace_iff, hstate]
    exact Iff.trans (and_congr_right' (everyEntry_apply_iff hroom))
      (rejectionKeeps_roomLeft_iff (hroom input.key))

/-- A single chunk of one byte for a frame that says it has two. -/
def shortOnlyChunk : FragmentInput :=
  fillingInput ⟨"client", "run", 1⟩
    { protocolVersion := 1, captureTimestamp := 0, isKeyframe := true, width := 2, height := 2,
      fpsNominal := 30, totalPayloadLen := 2, chunkCount := 1, chunks := [none], duplicateCount := 0,
      length_chunks := rfl } 0 1

/-- The rejected chunk stays, in an entry that misses nothing. -/
theorem shortOnlyChunk_leaves_trace :
    ¬(∀ (queue : ServerVideoFrameQueueState) (inputs : List FragmentInput),
      Along applyFragmentInput RejectionLeavesNoTrace (.empty, queue) inputs ∧
        ∀ done, done <+: inputs → EveryFrameMissesChunk (runReassembly (.empty, queue) done).1) := by
  intro h
  obtain ⟨-, hmiss⟩ := h .empty [shortOnlyChunk]
  have hfull : ((runReassembly (.empty, .empty) [shortOnlyChunk]).1.1.frames[shortOnlyChunk.key]?).map
      ServerVideoFrameReassemblyFrameState.missingChunks = some [] := by decide +kernel
  obtain ⟨tracked, he, hnone⟩ := Option.map_eq_some_iff.mp hfull
  exact hmiss [shortOnlyChunk] (List.prefix_refl _) shortOnlyChunk.key tracked he hnone

end StreamSync
