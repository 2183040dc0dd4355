import StreamSync.AuthVideoReceiveRuns

namespace StreamSync

open Tally

/-- How many clients and runs, as the summary tells them apart, have that many of the frames. -/
def clientsWithFrames (count : Nat) (frames : List VideoFrame) : Nat :=
  ((frames.map frameKey).dedup.filter fun key => count ≤ (frames.map frameKey).count key).length

namespace ServerReceiveAuthVideoQueueOnceManualPolicy

variable (policy : ServerReceiveAuthVideoQueueOnceManualPolicy)

/-- The reason that the policy gives for stopping at its thresholds, when it has any. -/
def thresholdReason : Option ServerReceiveAuthVideoQueueStopReason :=
  match policy.expectedReassembledFramesEnabled, policy.expectedReassembledClientsEnabled with
  | true, true => some .reassembledFramesAndClientAwareThresholdReached
  | true, false => some .reassembledFramesThresholdReached
  | false, true => some .clientAwareThresholdReached
  | false, false => none

/-- The frames are as many, and from as many clients, as the policy waits for. -/
def MetBy (frames : List VideoFrame) : Prop :=
  (policy.expectedReassembledFramesEnabled = true → policy.expectedReassembledFrames.toNat ≤ frames.length) ∧
    (policy.expectedReassembledClientsEnabled = true →
      policy.expectedReassembledClients.toNat ≤
        clientsWithFrames policy.expectedReassembledFramesPerClient.toNat frames)

instance (frames : List VideoFrame) : Decidable (policy.MetBy frames) :=
  inferInstanceAs (Decidable ((_ → _) ∧ (_ → _)))

def stopAt (frames : List VideoFrame) : Option ServerReceiveAuthVideoQueueStopReason :=
  if policy.MetBy frames then policy.thresholdReason else none

end ServerReceiveAuthVideoQueueOnceManualPolicy

section Thresholds

variable (policy : ServerReceiveAuthVideoQueueOnceManualPolicy) (counts : VideoReceiveCounts)

theorem clientAwareThresholdMet_iff (hfew : counts.queued.length < 18446744073709551616) :
    clientAwareThresholdMet policy counts.summary = true ↔
      policy.expectedReassembledClients.toNat ≤
        clientsWithFrames policy.expectedReassembledFramesPerClient.toNat counts.queued := by
  have hcount (key : String) : (counts.queued.map frameKey).count key < 18446744073709551616 := by
    have hle := List.count_le_length (a := key) (l := counts.queued.map frameKey)
    rw [List.length_map] at hle
    omega
  have hle : clientsWithFrames policy.expectedReassembledFramesPerClient.toNat counts.queued ≤
      (counts.queued.map frameKey).dedup.length := List.length_filter_le _ _
  have hfiltered : (counts.summary.perClientQueuedFrames.values.filter fun count =>
      policy.expectedReassembledFramesPerClient ≤ count).length =
        clientsWithFrames policy.expectedReassembledFramesPerClient.toNat counts.queued := by
    refine (length_filter_tally _ fun count =>
      decide (policy.expectedReassembledFramesPerClient ≤ count)).trans (congrArg List.length ?_)
    refine List.filter_congr fun key _ => decide_eq_decide.mpr ?_
    rw [UInt64.le_iff_toNat_le, UInt64.toNat_ofNat_of_lt' (hcount key)]
  have hobserved : counts.summary.observedQueuedClients = (counts.queued.map frameKey).dedup.length := rfl
  unfold clientAwareThresholdMet
  rw [hfiltered, hobserved]
  split
  next hlow =>
    simp only [Bool.false_eq_true, false_iff]
    omega
  next hlow =>
    split
    next hzero =>
      -- without a number of frames for each client, every client seen counts
      have hall : clientsWithFrames policy.expectedReassembledFramesPerClient.toNat counts.queued =
          (counts.queued.map frameKey).dedup.length := by
        rw [hzero]
        exact congrArg List.length (List.filter_eq_self.mpr fun _ _ => decide_eq_true (Nat.zero_le _))
      rw [hall]
      simp only [true_iff]
      omega
    next => exact decide_eq_true_iff

/-- The reason to stop is read off the frames that are queued. -/
theorem evaluateReassembledStopReason_eq (hfew : counts.queued.length < 18446744073709551616) :
    evaluateReassembledStopReason policy counts.summary = policy.stopAt counts.queued := by
  have hframes : policy.expectedReassembledFrames ≤ counts.summary.framesQueued ↔
      policy.expectedReassembledFrames.toNat ≤ counts.queued.length := le_counted
  have hclients := clientAwareThresholdMet_iff policy counts hfew
  have hmet : policy.MetBy counts.queued ↔
      (policy.expectedReassembledFramesEnabled = true →
        policy.expectedReassembledFrames ≤ counts.summary.framesQueued) ∧
      (policy.expectedReassembledClientsEnabled = true →
        clientAwareThresholdMet policy counts.summary = true) := by
    rw [hframes, hclients]
    exact Iff.rfl
  unfold evaluateReassembledStopReason ServerReceiveAuthVideoQueueOnceManualPolicy.stopAt
    ServerReceiveAuthVideoQueueOnceManualPolicy.thresholdReason
  rw [if_congr hmet rfl rfl]
  cases policy.expectedReassembledFramesEnabled <;> cases policy.expectedReassembledClientsEnabled <;>
    cases clientAwareThresholdMet policy counts.summary <;>
      by_cases hle : policy.expectedReassembledFrames ≤ counts.summary.framesQueued <;> simp [hle]

end Thresholds

section Loop

variable (config : ServerRuntimeConfig) (policy : ServerReceiveAuthVideoQueueOnceManualPolicy)
  (turns : Nat → ReceiveTurn) (start : ServerState)

/-- The states after the first datagrams. -/
def receivedState : Nat → ServerState
  | 0 => start
  | k + 1 =>
    match (turns k).received with
    | .ok (source, bytes) =>
      (processReceivedPacketForVideoQueue config (turns k).io (receivedState k) source bytes
        (turns k).queuedAt).1
    | .error _ => receivedState k

/-- What the first datagrams were. -/
def receivedNotes : Nat → List VideoPacketNote
  | 0 => []
  | k + 1 =>
    match (turns k).received with
    | .ok (source, bytes) =>
      receivedNotes k ++
        [videoPacketNote config (receivedState config turns start k) source bytes (turns k).queuedAt]
    | .error _ => receivedNotes k

/-- The frames that the first datagrams put into the queue. -/
def receivedFrames (k : Nat) : List VideoFrame :=
  (receivedNotes config turns start k).filterMap VideoPacketNote.queued?

/-- What ends the loop at a turn: an error of the socket or of the packet, its idle time, or the frames
that are queued by then. -/
def turnVerdict (k : Nat) :
    Option (Except ServerReceiveAuthVideoQueueOnceStartupError ServerReceiveAuthVideoQueueStopReason) :=
  match (turns k).received with
  | .error kind =>
    some (if isReceiveTimeout kind then .ok .receiveTimedOut else .error (.videoReceive kind))
  | .ok (source, bytes) =>
    match (processReceivedPacketForVideoQueue config (turns k).io (receivedState config turns start k)
      source bytes (turns k).queuedAt).2 with
    | .error error => some (.error (.packet error))
    | .ok _ => (policy.stopAt (receivedFrames config turns start (k + 1))).map .ok

/-- What the loop reports when it stops after that many datagrams. -/
structure VideoReceiveReport (taken : Nat) (reason : ServerReceiveAuthVideoQueueStopReason)
    (outcome : VideoReceiveOutcome) : Prop where
  state : outcome.state = receivedState config turns start taken
  queue : outcome.queue =
    ((receivedNotes config turns start taken).filterMap VideoPacketNote.queueResult?).getLast?
  counters : outcome.summary.counters =
    (VideoReceiveCounts.ofNotes (receivedNotes config turns start taken)).summary
  queueLen : outcome.summary.queueLen = outcome.state.videoQueue.totalLen
  incompleteReassemblyFrames : outcome.summary.incompleteReassemblyFrames =
    outcome.state.reassembly.trackedFrameCount
  incompleteFrameProgress : outcome.summary.incompleteFrameProgress =
    outcome.state.reassembly.frameProgress
  receiveTimedOut : outcome.summary.receiveTimedOut = decide (reason = .receiveTimedOut)
  maxPacketsReached : outcome.summary.maxPacketsReached = decide (reason = .maxVideoPacketsReached)
  stopReason : outcome.summary.stopReason = some reason

/-- The loop before a turn: what the datagrams so far made of it. -/
structure VideoReceiveLoopAt (k : Nat) (loop : VideoReceiveLoop) : Prop where
  state : loop.state = receivedState config turns start k
  counters : loop.summary.counters =
    (VideoReceiveCounts.ofNotes (receivedNotes config turns start k)).summary
  queue : loop.lastQueue =
    ((receivedNotes config turns start k).filterMap VideoPacketNote.queueResult?).getLast?
  running : loop.summary.receiveTimedOut = false ∧ loop.summary.maxPacketsReached = false

variable {config policy turns start}

variable (config start) in
theorem receivedState_succ {k : Nat} {source : PacketSource} {bytes : List UInt8}
    (h : (turns k).received = .ok (source, bytes)) :
    receivedState config turns start (k + 1) =
      (processReceivedPacketForVideoQueue config (turns k).io (receivedState config turns start k) source
        bytes (turns k).queuedAt).1 := by
  rw [receivedState, h]

variable (config start) in
theorem receivedNotes_succ {k : Nat} {source : PacketSource} {bytes : List UInt8}
    (h : (turns k).received = .ok (source, bytes)) :
    receivedNotes config turns start (k + 1) = receivedNotes config turns start k ++
      [videoPacketNote config (receivedState config turns start k) source bytes (turns k).queuedAt] := by
  rw [receivedNotes, h]

theorem length_receivedNotes_le (k : Nat) : (receivedNotes config turns start k).length ≤ k := by
  induction k with
  | zero => exact Nat.le_refl 0
  | succ k ih =>
    unfold receivedNotes
    split
    next =>
      rw [List.length_append, List.length_singleton]
      omega
    next => omega

variable (config turns start) in
theorem length_receivedFrames_le (k : Nat) : (receivedFrames config turns start k).length ≤ k :=
  (List.length_filterMap_le _ _).trans (length_receivedNotes_le k)

theorem VideoReceiveLoopAt.finish {k : Nat} {loop : VideoReceiveLoop}
    (h : VideoReceiveLoopAt config turns start k loop) {reason : ServerReceiveAuthVideoQueueStopReason}
    (htimeout : reason ≠ .receiveTimedOut) (hmax : reason ≠ .maxVideoPacketsReached) :
    VideoReceiveReport config turns start k reason (loop.finish reason) where
  state := h.state
  queue := h.queue
  counters := h.counters
  queueLen := rfl
  incompleteReassemblyFrames := rfl
  incompleteFrameProgress := rfl
  receiveTimedOut := h.running.1.trans (decide_eq_false htimeout).symm
  maxPacketsReached := h.running.2.trans (decide_eq_false hmax).symm
  stopReason := rfl

variable (config policy turns start) in
/-- A turn that comes to its verdict. -/
inductive TurnDone (k : Nat) :
    Option (Except ServerReceiveAuthVideoQueueOnceStartupError ServerReceiveAuthVideoQueueStopReason) →
      Except ServerReceiveAuthVideoQueueOnceStartupError (VideoReceiveLoop ⊕ VideoReceiveOutcome) → Prop
  | failed (error) : TurnDone k (some (.error error)) (.error error)
  | timedOut (outcome) (report : VideoReceiveReport config turns start k .receiveTimedOut outcome) :
    TurnDone k (some (.ok .receiveTimedOut)) (.ok (.inr outcome))
  | met (reason outcome) (hreason : policy.stopAt (receivedFrames config turns start (k + 1)) = some reason)
    (report : VideoReceiveReport config turns start (k + 1) reason outcome) :
    TurnDone k (some (.ok reason)) (.ok (.inr outcome))
  | goesOn (loop) (next : VideoReceiveLoopAt config turns start (k + 1) loop) :
    TurnDone k none (.ok (.inl loop))

theorem stopAt_ne {frames : List VideoFrame} {reason : ServerReceiveAuthVideoQueueStopReason}
    (h : policy.stopAt frames = some reason) :
    reason ≠ .receiveTimedOut ∧ reason ≠ .maxVideoPacketsReached := by
  unfold ServerReceiveAuthVideoQueueOnceManualPolicy.stopAt
    ServerReceiveAuthVideoQueueOnceManualPolicy.thresholdReason at h
  split at h
  next =>
    split at h <;> cases h <;> exact ⟨by decide, by decide⟩
  next => cases h

theorem getLast?_append_toList {α : Type} (xs : List α) (x : Option α) :
    (xs ++ x.toList).getLast? = x.or xs.getLast? := by
  cases x <;> simp

variable (policy) in
theorem VideoReceiveLoopAt.turn {k : Nat} (hfew : k < 18446744073709551615) {loop : VideoReceiveLoop}
    (h : VideoReceiveLoopAt config turns start k loop) :
    TurnDone config policy turns start k
      (turnVerdict config policy turns start k) (loop.turn config policy (turns k)) := by
  unfold turnVerdict VideoReceiveLoop.turn
  cases hreceived : (turns k).received with
  | error kind =>
    dsimp only
    cases isReceiveTimeout kind with
    | false => exact .failed _
    | true =>
      refine .timedOut _ ⟨h.state, h.queue, h.counters, rfl, rfl, rfl, rfl, ?_, rfl⟩
      exact h.running.2.trans (decide_eq_false (by decide)).symm
  | ok datagram =>
    obtain ⟨source, bytes⟩ := datagram
    have hstate := receivedState_succ config start hreceived
    have hnotes := receivedNotes_succ config start hreceived
    dsimp only
    rw [processReceivedPacketWithSummary_eq, h.state]
    cases hresult : (processReceivedPacketForVideoQueue config (turns k).io
      (receivedState config turns start k) source bytes (turns k).queuedAt).2 with
    | error error => exact .failed _
    | ok queue =>
      have hqueue := queueResult_packet hresult
      let note := videoPacketNote config (receivedState config turns start k) source bytes (turns k).queuedAt
      let state := (processReceivedPacketForVideoQueue config (turns k).io
        (receivedState config turns start k) source bytes (turns k).queuedAt).1
      let next : VideoReceiveLoop :=
        ⟨state, { loop.summary.record note with queueLen := state.videoQueue.totalLen },
          queue.or loop.lastQueue⟩
      have hcounters : next.summary.counters =
          (VideoReceiveCounts.ofNotes (receivedNotes config turns start (k + 1))).summary := by
        rw [hnotes, VideoReceiveCounts.ofNotes_concat, ← VideoReceiveCounts.record_summary, ← h.counters]
        exact ServerReceiveAuthVideoQueueOnceVideoSummary.counters_record loop.summary note
      have hnext : VideoReceiveLoopAt config turns start (k + 1) next := by
        refine ⟨hstate.symm, hcounters, ?_, ?_⟩
        · rw [hnotes, VideoReceiveCounts.filterMap_concat, getLast?_append_toList, hqueue, ← h.queue]
        · have hmarks := ServerReceiveAuthVideoQueueOnceVideoSummary.marks_record loop.summary note
          exact ⟨(congrArg VideoReceiveMarks.receiveTimedOut hmarks).trans h.running.1,
            (congrArg VideoReceiveMarks.maxPacketsReached hmarks).trans h.running.2⟩
      have hverdict : evaluateReassembledStopReason policy next.summary =
          policy.stopAt (receivedFrames config turns start (k + 1)) := by
        have hlen := length_receivedFrames_le config turns start (k + 1)
        have heq := evaluateReassembledStopReason_eq policy
          (VideoReceiveCounts.ofNotes (receivedNotes config turns start (k + 1)))
          (Nat.lt_of_le_of_lt hlen (by omega))
        rw [← hcounters] at heq
        exact heq
      dsimp only
      rw [hverdict]
      cases hstop : policy.stopAt (receivedFrames config turns start (k + 1)) with
      | none => exact .goesOn _ hnext
      | some reason =>
        obtain ⟨htimeout, hmax⟩ := stopAt_ne hstop
        exact .met reason _ hstop (hnext.finish htimeout hmax)

/-- How the datagrams of a run are accounted for: each has one kind, each complete frame is queued, and the
queue has the frames that it had and was given, less the evicted ones. -/
structure VideoReceiveBalance (notes : List VideoPacketNote) (before after : ServerVideoFrameQueueState) :
    Prop where
  packets : notes.length = notes.countP (·.isRejected) + notes.countP (·.isAuth) +
    notes.countP (·.isDirect) + notes.countP (·.isFragment) + notes.countP (·.isNonVideo)
  queued : notes.filterMap VideoPacketNote.queued? = notes.filterMap VideoPacketNote.frame?
  frames : after.totalLen + (notes.filterMap VideoPacketNote.evicted?).length =
    before.totalLen + (notes.filterMap VideoPacketNote.queued?).length

theorem VideoReceiveBalance.concat {notes : List VideoPacketNote} {note : VideoPacketNote}
    {before after after' : ServerVideoFrameQueueState} (h : VideoReceiveBalance notes before after)
    (hregistered : note ≠ .unregistered) (hqueued : note.queued? = note.frame?)
    (hframes : after'.totalLen + note.evicted?.toList.length = after.totalLen + note.queued?.toList.length) :
    VideoReceiveBalance (notes ++ [note]) before after' := by
  refine ⟨?_, ?_, ?_⟩
  · have hpackets := h.packets
    simp only [VideoReceiveCounts.countP_concat, List.length_append, List.length_singleton]
    have hone : 1 = note.isRejected.toNat + note.isAuth.toNat + note.isDirect.toNat +
        note.isFragment.toNat + note.isNonVideo.toNat := by
      cases note <;> first | rfl | exact absurd rfl hregistered
    omega
  · rw [VideoReceiveCounts.filterMap_concat, VideoReceiveCounts.filterMap_concat, h.queued, hqueued]
  · have hbefore := h.frames
    rw [VideoReceiveCounts.filterMap_concat, VideoReceiveCounts.filterMap_concat, List.length_append,
      List.length_append]
    omega

theorem receivedNotes_balance (k : Nat) :
    VideoReceiveBalance (receivedNotes config turns start k) start.videoQueue
      (receivedState config turns start k).videoQueue := by
  induction k with
  | zero => exact ⟨rfl, rfl, rfl⟩
  | succ k ih =>
    cases hreceived : (turns k).received with
    | error kind =>
      rw [receivedNotes, receivedState, hreceived]
      exact ih
    | ok datagram =>
      obtain ⟨source, bytes⟩ := datagram
      rw [receivedState_succ config start hreceived, receivedNotes_succ config start hreceived]
      exact ih.concat (registered_packet config _ source bytes _)
        (queued_packet config (turns k).io _ source bytes _) (totalLen_packet config (turns k).io _ _ _ _)

variable (config policy turns start) in
/-- Where the loop stops by itself: after all its turns, at the first turn that brings nothing in time, or
at the first one after which the frames are there. -/
inductive VideoReceiveStop : Nat → ServerReceiveAuthVideoQueueStopReason → Prop
  | max (quiet : ∀ j < policy.maxVideoPackets, turnVerdict config policy turns start j = none) :
    VideoReceiveStop policy.maxVideoPackets .maxVideoPacketsReached
  | timedOut (taken) (htaken : taken < policy.maxVideoPackets)
    (quiet : ∀ j < taken, turnVerdict config policy turns start j = none)
    (verdict : turnVerdict config policy turns start taken = some (.ok .receiveTimedOut)) :
    VideoReceiveStop taken .receiveTimedOut
  | met (k reason) (hk : k < policy.maxVideoPackets)
    (quiet : ∀ j < k, turnVerdict config policy turns start j = none)
    (hreason : policy.stopAt (receivedFrames config turns start (k + 1)) = some reason)
    (verdict : turnVerdict config policy turns start k = some (.ok reason)) :
    VideoReceiveStop (k + 1) reason

/-- What a receive loop does: it reports exactly what it received up to the first turn that ends it, or
fails with the error of that turn. -/
def VideoReceiveExact (config : ServerRuntimeConfig) (policy : ServerReceiveAuthVideoQueueOnceManualPolicy)
    (turns : Nat → ReceiveTurn) (start : ServerState) :
    Except ServerReceiveAuthVideoQueueOnceStartupError VideoReceiveOutcome → Prop
  | .ok outcome => ∃ taken reason,
    VideoReceiveStop config policy turns start taken reason ∧
      VideoReceiveReport config turns start taken reason outcome ∧
      VideoReceiveBalance (receivedNotes config turns start taken) start.videoQueue
        outcome.state.videoQueue
  | .error error => ∃ k < policy.maxVideoPackets,
    (∀ j < k, turnVerdict config policy turns start j = none) ∧
      turnVerdict config policy turns start k = some (.error error)

theorem VideoReceiveLoopAt.exact {k remaining : Nat} (hsplit : k + remaining = policy.maxVideoPackets)
    {loop : VideoReceiveLoop} (h : VideoReceiveLoopAt config turns start k loop)
    (hquiet : ∀ j < k, turnVerdict config policy turns start j = none) :
    VideoReceiveExact config policy turns start
      (receiveVideoPacketsUntilQueued config policy turns loop k remaining) := by
  have hbalance (taken : Nat) {outcome : VideoReceiveOutcome}
      (hstate : outcome.state = receivedState config turns start taken) :
      VideoReceiveBalance (receivedNotes config turns start taken) start.videoQueue
        outcome.state.videoQueue := by
    rw [hstate]
    exact receivedNotes_balance taken
  induction remaining generalizing k loop with
  | zero =>
    have hk : k = policy.maxVideoPackets := hsplit
    subst hk
    refine ⟨_, _, .max hquiet, ⟨h.state, h.queue, h.counters, rfl, rfl, rfl, ?_, rfl, rfl⟩,
      hbalance _ h.state⟩
    exact h.running.1.trans (decide_eq_false (by decide)).symm
  | succ remaining ih =>
    have hmax := policy.maxVideoPackets_le
    unfold usizeMax at hmax
    have hk : k < policy.maxVideoPackets := by omega
    have hturn := h.turn policy (by omega : k < 18446744073709551615)
    unfold receiveVideoPacketsUntilQueued
    generalize hverdict : turnVerdict config policy turns start k = verdict at hturn
    generalize loop.turn config policy (turns k) = result at hturn ⊢
    cases hturn with
    | failed error => exact ⟨k, hk, hquiet, hverdict⟩
    | timedOut outcome report =>
      exact ⟨k, _, .timedOut k hk hquiet hverdict, report, hbalance k report.state⟩
    | met reason outcome hreason report =>
      exact ⟨k + 1, reason, .met k reason hk hquiet hreason hverdict, report, hbalance _ report.state⟩
    | goesOn loop next =>
      refine ih (by omega) next fun j hj => ?_
      rcases Nat.lt_succ_iff_lt_or_eq.mp hj with hlt | rfl
      · exact hquiet j hlt
      · exact hverdict

/-- The receive loop stops at the first turn that ends it, and its summary counts exactly the datagrams up to
there. -/
theorem receiveVideoPacketsUntilQueued_exact (config : ServerRuntimeConfig)
    (policy : ServerReceiveAuthVideoQueueOnceManualPolicy) (turns : Nat → ReceiveTurn)
    (start : ServerState) :
    VideoReceiveExact config policy turns start
      (receiveVideoPacketsUntilQueued config policy turns ⟨start, .default, none⟩ 0
        policy.maxVideoPackets) := by
  have hstart : VideoReceiveLoopAt config turns start 0 ⟨start, .default, none⟩ :=
    ⟨rfl, rfl, rfl, rfl, rfl⟩
  exact hstart.exact (by omega) fun j hj => absurd hj (Nat.not_lt_zero j)

end Loop

end StreamSync
