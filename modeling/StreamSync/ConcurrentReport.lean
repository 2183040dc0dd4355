import StreamSync.ConcurrentHandoffRuns
import StreamSync.ServerAuthentication

namespace StreamSync

open KeyedTable Lanes Run Tally

namespace ReceiveThread

/-- The thread has asked the other one to stop. -/
def hasAsked : ReceiveThread → Bool
  | done (.ok reason) => reason ≠ .stopRequested
  | done (.error _) => true
  | _ => false

/-- The thread stops because it was asked to. -/
def wasAsked : ReceiveThread → Bool
  | finalizing reason => reason = .stopRequested
  | shuttingDown (.ok reason) => reason = .stopRequested
  | done (.ok reason) => reason = .stopRequested
  | _ => false

/-- The thread may still receive. -/
def isRunning : ReceiveThread → Bool
  | top => true
  | receiving => true
  | _ => false

/-- The thread has not finalized its summary. -/
def isActive : ReceiveThread → Bool
  | top => true
  | receiving => true
  | finalizing _ => true
  | _ => false

/-- The reason that the thread has stopped for, when its summary is finalized. -/
def stopReason? : ReceiveThread → Option ConcurrentReceiveStopReason
  | shuttingDown (.ok reason) => some reason
  | done (.ok reason) => some reason
  | _ => none

end ReceiveThread

namespace HandoffThread

def hasAsked : HandoffThread → Bool
  | done _ => true
  | _ => false

def wasAsked : HandoffThread → Bool
  | failing error => (summarizeNamedPipeManyStopReason 0 0 error).1 = .stopRequested
  | stopping reason => reason = .stopRequested
  | done reason => reason = .stopRequested
  | _ => false

/-- The thread has served as many requests as it may. -/
def isFull : HandoffThread → Bool
  | failing error => (summarizeNamedPipeManyStopReason 0 0 error).1 = .maxRequestsReached
  | stopping reason => reason = .maxRequestsReached
  | done reason => reason = .maxRequestsReached
  | _ => false

/-- A request failed, or the other thread asked for the end in the middle of one. -/
def gaveUp : HandoffThread → Bool
  | failing _ => true
  | stopping reason => reason ≠ .maxRequestsReached ∧ reason ≠ .stopRequested
  | done reason => reason ≠ .maxRequestsReached ∧ reason ≠ .stopRequested
  | _ => false

end HandoffThread

/-- The packet limit of a policy, when it has one: the loop looks at it after a packet. -/
def ServerReceiveAuthVideoQueueHandoffContinuousRuntimePolicy.packetLimit? (policy : ConcurrentRuntimePolicy) :
    Option Nat :=
  if policy.receivePolicy.maxVideoPackets = usizeMax then none
  else some (max 1 policy.receivePolicy.maxVideoPackets)

/-- What must have happened for the receive thread to stop for a reason. -/
inductive ReceiveReasonHolds (policy : ConcurrentRuntimePolicy) (notes : List VideoPacketNote) :
    ConcurrentReceiveStopReason → Prop
  | stopRequested : ReceiveReasonHolds policy notes .stopRequested
  | receiveTimedOut : ReceiveReasonHolds policy notes .receiveTimedOut
  | maxRuntimeDurationReached (limit) (hlimit : policy.maxRuntimeDuration = some limit) :
    ReceiveReasonHolds policy notes .maxRuntimeDurationReached
  | maxVideoPacketsReached (hlimit : policy.packetLimit? = some notes.length) :
    ReceiveReasonHolds policy notes .maxVideoPacketsReached
  | thresholds (reason) (hmet : evaluateReassembledStopReason policy.receivePolicy
      (VideoReceiveCounts.ofNotes notes).summary = some reason) :
    ReceiveReasonHolds policy notes (mapConcurrentReceiveStopReason reason)

/-- What the marks of the summary say, beside the reason that the thread gives. -/
structure MarksTell (state : ServerState) (summary : VideoSummary) (reason : ConcurrentReceiveStopReason) :
    Prop where
  stopReason : summary.stopReason.map mapConcurrentReceiveStopReason =
    if reason = .stopRequested ∨ reason = .maxRuntimeDurationReached then none else some reason
  receiveTimedOut : summary.receiveTimedOut = decide (reason = .receiveTimedOut)
  maxPacketsReached : summary.maxPacketsReached = decide (reason = .maxVideoPacketsReached)
  incompleteReassemblyFrames : summary.incompleteReassemblyFrames = state.reassembly.trackedFrameCount
  incompleteFrameProgress : summary.incompleteFrameProgress = state.reassembly.frameProgress

/-- Who asked whom to stop, and what for. -/
structure StopInvariant (config : ServerRuntimeConfig) (policy : ConcurrentRuntimePolicy)
    (events : List RuntimeEvent) (runtime : ConcurrentRuntime) : Prop where
  asked : runtime.stopRequested = (runtime.receive.hasAsked || runtime.handoff.hasAsked)
  receiveAsked : runtime.receive.wasAsked = true → runtime.handoff.hasAsked = true
  handoffAsked : runtime.handoff.wasAsked = true → runtime.receive.hasAsked = true
  full : runtime.handoff.isFull = true → runtime.requestsServed = policy.effectiveMaxHandoffRequests
  notFull : runtime.handoff.gaveUp = true → runtime.requestsServed < policy.effectiveMaxHandoffRequests
  unmarked : runtime.receive.isActive = true →
    runtime.shared.receiveSummary.stopReason = none ∧
      runtime.shared.receiveSummary.receiveTimedOut = false ∧
      runtime.shared.receiveSummary.maxPacketsReached = false
  unlimited : runtime.receive.isRunning = true → ∀ limit ∈ policy.packetLimit?,
    (runtimeNotes config events).length < limit
  limited : ∀ reason, runtime.receive = .finalizing reason → reason ≠ .stopRequested →
    ∃ limit, policy.maxRuntimeDuration = some limit ∧ reason = .maxRuntimeDurationReached
  reason : ∀ reason ∈ runtime.receive.stopReason?,
    ReceiveReasonHolds policy (runtimeNotes config events) reason ∧
      MarksTell runtime.shared.server runtime.shared.receiveSummary reason

section Receive

variable {config : ServerRuntimeConfig} {policy : ConcurrentRuntimePolicy} {events : List RuntimeEvent}
  {runtime : ConcurrentRuntime}

theorem runtimeNotes_quiet {event : RuntimeEvent} (h : event.IsQuiet) :
    runtimeNotes config (events ++ [event]) = runtimeNotes config events := by
  rw [runtimeNotes_concat, (h.observed config).1]
  exact List.append_nil _

theorem runtimeLimitReached_eq_true {elapsed : Nat} (h : policy.runtimeLimitReached elapsed = true) :
    ∃ limit, policy.maxRuntimeDuration = some limit := by
  unfold ServerReceiveAuthVideoQueueHandoffContinuousRuntimePolicy.runtimeLimitReached at h
  cases hlimit : policy.maxRuntimeDuration with
  | none =>
    rw [hlimit] at h
    cases h
  | some limit => exact ⟨limit, rfl⟩

theorem StopInvariant.start : StopInvariant config policy [] .start where
  asked := rfl
  receiveAsked h := by cases h
  handoffAsked h := by cases h
  full h := by cases h
  notFull h := by cases h
  unmarked _ := ⟨rfl, rfl, rfl⟩
  unlimited _ limit hlimit := by
    unfold ServerReceiveAuthVideoQueueHandoffContinuousRuntimePolicy.packetLimit? at hlimit
    split at hlimit
    next => cases hlimit
    next =>
      cases Option.mem_some.mp hlimit
      exact (Nat.zero_lt_one).trans_le (Nat.le_max_left _ _)
  limited reason h := by cases h
  reason reason h := by cases h

/-- The receive thread goes to another place, and has not asked for anything. -/
theorem StopInvariant.receive_to (h : StopInvariant config policy events runtime)
    (hbefore : runtime.receive.hasAsked = false) {event : RuntimeEvent} {shared : ConcurrentSharedState}
    {receive : ReceiveThread} (hafter : receive.hasAsked = false)
    (hasked : receive.wasAsked = true → runtime.handoff.hasAsked = true)
    (hunmarked : receive.isActive = true → shared.receiveSummary.stopReason = none ∧
      shared.receiveSummary.receiveTimedOut = false ∧ shared.receiveSummary.maxPacketsReached = false)
    (hunlimited : receive.isRunning = true → ∀ limit ∈ policy.packetLimit?,
      (runtimeNotes config (events ++ [event])).length < limit)
    (hlimited : ∀ reason, receive = .finalizing reason → reason ≠ .stopRequested →
      ∃ limit, policy.maxRuntimeDuration = some limit ∧ reason = .maxRuntimeDurationReached)
    (hreason : ∀ reason ∈ receive.stopReason?,
      ReceiveReasonHolds policy (runtimeNotes config (events ++ [event])) reason ∧
        MarksTell shared.server shared.receiveSummary reason) :
    StopInvariant config policy (events ++ [event]) { runtime with shared, receive } where
  asked := by
    have hold := h.asked
    rw [hbefore] at hold
    change runtime.stopRequested = (receive.hasAsked || runtime.handoff.hasAsked)
    rw [hafter]
    exact hold
  receiveAsked := hasked
  handoffAsked hwas := by
    have hold := h.handoffAsked hwas
    rw [hbefore] at hold
    cases hold
  full := h.full
  notFull := h.notFull
  unmarked := hunmarked
  unlimited := hunlimited
  limited := hlimited
  reason := hreason

/-- Two of the reasons leave no mark. -/
theorem MarksTell.unmarked {state : ServerState} {summary : VideoSummary} (hnone : summary.stopReason = none)
    (htimedOut : summary.receiveTimedOut = false) (hmaxReached : summary.maxPacketsReached = false)
    {reason : ConcurrentReceiveStopReason}
    (hreason : reason = .stopRequested ∨ reason = .maxRuntimeDurationReached) :
    MarksTell state (summary.finalize state.reassembly state.videoQueue) reason := by
  have hstop : (summary.finalize state.reassembly state.videoQueue).stopReason.map
      mapConcurrentReceiveStopReason = none := congrArg (Option.map mapConcurrentReceiveStopReason) hnone
  refine ⟨hstop.trans (if_pos hreason).symm, htimedOut.trans ?_, hmaxReached.trans ?_, rfl, rfl⟩
  · rcases hreason with rfl | rfl <;> rfl
  · rcases hreason with rfl | rfl <;> rfl

variable (policy) in
theorem packetLimit?_reached {notes : List VideoPacketNote}
    (hbefore : ∀ limit ∈ policy.packetLimit?, notes.length < limit + 1) (hnotes : 0 < notes.length) :
    (policy.receivePolicy.maxVideoPackets ≠ usizeMax ∧
      policy.receivePolicy.maxVideoPackets ≤ (counted notes.length).toNat) ↔
      policy.packetLimit? = some notes.length := by
  have hmax := policy.receivePolicy.maxVideoPackets_le
  rw [toNat_counted]
  unfold ServerReceiveAuthVideoQueueHandoffContinuousRuntimePolicy.packetLimit? at hbefore ⊢
  unfold usizeMax at *
  split
  next heq => simp [heq]
  next hne =>
    rw [if_neg hne] at hbefore
    have hless := hbefore _ rfl
    rw [Option.some_inj]
    constructor
    · rintro ⟨-, hle⟩
      omega
    · intro heq
      refine ⟨hne, ?_⟩
      omega

theorem evaluateReassembledStopReason_ne {policy : ServerReceiveAuthVideoQueueOnceManualPolicy}
    {summary : VideoSummary} {reason : ServerReceiveAuthVideoQueueStopReason}
    (h : evaluateReassembledStopReason policy summary = some reason) :
    reason ≠ .receiveTimedOut ∧ reason ≠ .maxVideoPacketsReached := by
  unfold evaluateReassembledStopReason at h
  dsimp only at h
  split at h
  next => cases h
  next =>
    split at h
    next => cases h
    next => split at h <;> cases h <;> exact ⟨by decide, by decide⟩

/-- A summary that has counted one more datagram: it has no mark, the packet limit is reached when the notes
are as many, and the thresholds are looked up in the counts of the notes. -/
theorem StopInvariant.recorded (h : StopInvariant config policy events runtime)
    (hruntime : RuntimeInvariant config policy events runtime) (hreceiving : runtime.receive = .receiving)
    (source : PacketSource) (bytes : List UInt8) (queuedAt : TimestampMicros) :
    let summary := runtime.shared.receiveSummary.record
      (videoPacketNote config runtime.shared.server source bytes queuedAt)
    let notes := runtimeNotes config (events ++ [.received source bytes queuedAt runtime.shared.server])
    (summary.stopReason = none ∧ summary.receiveTimedOut = false ∧ summary.maxPacketsReached = false) ∧
      (∀ limit ∈ policy.packetLimit?, notes.length ≤ limit) ∧
      ((policy.receivePolicy.maxVideoPackets ≠ usizeMax ∧
          policy.receivePolicy.maxVideoPackets ≤ summary.packetsReceived.toNat) ↔
        policy.packetLimit? = some notes.length) ∧
      evaluateReassembledStopReason policy.receivePolicy summary =
        evaluateReassembledStopReason policy.receivePolicy (VideoReceiveCounts.ofNotes notes).summary := by
  intro summary notes
  obtain ⟨hnone, htimedOut, hmaxReached⟩ := h.unmarked (by rw [hreceiving]; rfl)
  have hunlimited := h.unlimited (by rw [hreceiving]; rfl)
  have hnotes : notes = runtimeNotes config events ++
      [videoPacketNote config runtime.shared.server source bytes queuedAt] := runtimeNotes_concat config events _
  have hcounters : summary.counters = (VideoReceiveCounts.ofNotes notes).summary := by
    rw [hnotes, VideoReceiveCounts.ofNotes_concat, ← VideoReceiveCounts.record_summary, ← hruntime.received]
    exact ServerReceiveAuthVideoQueueOnceVideoSummary.counters_record runtime.shared.receiveSummary _
  have hmarks := ServerReceiveAuthVideoQueueOnceVideoSummary.marks_record runtime.shared.receiveSummary
    (videoPacketNote config runtime.shared.server source bytes queuedAt)
  have hlength : notes.length = (runtimeNotes config events).length + 1 := by
    rw [hnotes, List.length_append, List.length_singleton]
  have hbelow : ∀ limit ∈ policy.packetLimit?, notes.length < limit + 1 := by
    intro limit hlimit
    have hless := hunlimited limit hlimit
    omega
  have hpackets : summary.packetsReceived = counted notes.length :=
    congrArg ServerReceiveAuthVideoQueueOnceVideoSummary.packetsReceived hcounters
  have hmet := congrArg (evaluateReassembledStopReason policy.receivePolicy) hcounters
  refine ⟨⟨(congrArg VideoReceiveMarks.stopReason hmarks).trans hnone,
    (congrArg VideoReceiveMarks.receiveTimedOut hmarks).trans htimedOut,
    (congrArg VideoReceiveMarks.maxPacketsReached hmarks).trans hmaxReached⟩,
    fun limit hlimit => Nat.le_of_lt_succ (hbelow limit hlimit), ?_, hmet⟩
  rw [hpackets]
  exact packetLimit?_reached policy hbelow (by omega)

/-- One pass of the receive loop after its two checks. -/
theorem StopInvariant.turn (h : StopInvariant config policy events runtime)
    (hruntime : RuntimeInvariant config policy events runtime) (hreceiving : runtime.receive = .receiving)
    (input : ReceiveInput) :
    StopInvariant config policy (events ++ [(runtime.receiveTurn config policy input).2])
      (runtime.receiveTurn config policy input).1 := by
  have hidle : runtime.receive.hasAsked = false := by rw [hreceiving]; rfl
  obtain ⟨hnone, htimedOut, hmaxReached⟩ := h.unmarked (by rw [hreceiving]; rfl)
  unfold ConcurrentRuntime.receiveTurn
  cases input.setReadTimeout (policy.effectiveReceiveTimeout input.elapsed) with
  | error kind => exact h.receive_to hidle rfl nofun nofun nofun nofun nofun
  | ok =>
    cases input.turn.received with
    | error kind =>
      dsimp only
      split
      next =>
        split
        next hlimit =>
          obtain ⟨limit, hlimit⟩ := runtimeLimitReached_eq_true hlimit
          refine h.receive_to hidle rfl nofun nofun nofun nofun ?_
          rintro reason hreason
          cases Option.mem_some.mp hreason
          exact ⟨.maxRuntimeDurationReached limit hlimit, .unmarked hnone htimedOut hmaxReached (.inr rfl)⟩
        next =>
          refine h.receive_to hidle rfl nofun nofun nofun nofun ?_
          rintro reason hreason
          cases Option.mem_some.mp hreason
          exact ⟨.receiveTimedOut, rfl, rfl, hmaxReached, rfl, rfl⟩
      next => exact h.receive_to hidle rfl nofun nofun nofun nofun nofun
    | ok datagram =>
      obtain ⟨source, bytes⟩ := datagram
      dsimp only
      rw [processReceivedPacketWithSummary_eq]
      obtain ⟨hunmarked, hlimits, hreached, hmet⟩ :=
        h.recorded hruntime hreceiving source bytes input.turn.queuedAt
      cases (processReceivedPacketForVideoQueue config input.turn.io runtime.shared.server source bytes
        input.turn.queuedAt).2 with
      | error error => exact h.receive_to hidle rfl nofun nofun nofun nofun nofun
      | ok queue =>
        dsimp only
        split
        next hlimit =>
          refine h.receive_to hidle rfl nofun nofun nofun nofun ?_
          rintro reason hreason
          cases Option.mem_some.mp hreason
          exact ⟨.maxVideoPacketsReached (hreached.mp hlimit), rfl, hunmarked.2.1, rfl, rfl, rfl⟩
        next hlimit =>
          split
          next stopReason hevaluated =>
            obtain ⟨hnotTimedOut, hnotMax⟩ := evaluateReassembledStopReason_ne hevaluated
            have hasked : (ReceiveThread.shuttingDown
                (.ok (mapConcurrentReceiveStopReason stopReason))).wasAsked = false := by
              cases stopReason <;> rfl
            refine h.receive_to hidle rfl ?_ nofun nofun nofun ?_
            · rw [hasked]
              nofun
            rintro reason hreason
            cases Option.mem_some.mp hreason
            refine ⟨.thresholds stopReason (hmet.symm.trans hevaluated), ?_, ?_, ?_, rfl, rfl⟩
            · cases stopReason <;> rfl
            · refine hunmarked.2.1.trans (decide_eq_false fun heq => hnotTimedOut ?_).symm
              cases stopReason <;> first | rfl | cases heq
            · refine hunmarked.2.2.trans (decide_eq_false fun heq => hnotMax ?_).symm
              cases stopReason <;> first | rfl | cases heq
          next =>
            refine h.receive_to hidle rfl nofun (fun _ => hunmarked) (fun _ limit hmem => ?_) nofun nofun
            refine Nat.lt_of_le_of_ne (hlimits limit hmem) ?_
            rintro rfl
            exact hlimit (hreached.mpr hmem)

theorem StopInvariant.receive (h : StopInvariant config policy events runtime)
    (hruntime : RuntimeInvariant config policy events runtime) (input : ReceiveInput) :
    StopInvariant config policy (events ++ [(runtime.receiveStep config policy input).2])
      (runtime.receiveStep config policy input).1 := by
  have hnotes : runtimeNotes config (events ++ [.internal]) = runtimeNotes config events :=
    runtimeNotes_quiet (.inr rfl)
  unfold ConcurrentRuntime.receiveStep
  cases hreceive : runtime.receive with
  | top =>
    have hidle : runtime.receive.hasAsked = false := by rw [hreceive]; rfl
    have hunmarked := h.unmarked (by rw [hreceive]; rfl)
    have hunlimited := h.unlimited (by rw [hreceive]; rfl)
    dsimp only
    split
    next hflag =>
      refine h.receive_to hidle rfl (fun _ => ?_) (fun _ => hunmarked) nofun ?_ nofun
      · have hasked := h.asked
        rw [hflag, hidle] at hasked
        exact hasked.symm
      · rintro reason hreason hne
        cases hreason
        exact absurd rfl hne
    next =>
      split
      next hlimit =>
        refine h.receive_to hidle rfl nofun (fun _ => hunmarked) nofun ?_ nofun
        rintro reason hreason -
        cases hreason
        obtain ⟨limit, hlimit⟩ := runtimeLimitReached_eq_true hlimit
        exact ⟨limit, hlimit, rfl⟩
      next =>
        refine h.receive_to hidle rfl nofun (fun _ => hunmarked) (fun _ => ?_) nofun nofun
        rw [hnotes]
        exact hunlimited
  | finalizing reason =>
    have hidle : runtime.receive.hasAsked = false := by rw [hreceive]; rfl
    obtain ⟨hnone, htimedOut, hmaxReached⟩ := h.unmarked (by rw [hreceive]; rfl)
    have hwasAsked := h.receiveAsked
    rw [hreceive] at hwasAsked
    dsimp only
    by_cases hreason : reason = .stopRequested
    · subst hreason
      rw [if_pos rfl]
      refine h.receive_to hidle rfl hwasAsked nofun nofun nofun ?_
      rintro reason hmem
      cases Option.mem_some.mp hmem
      exact ⟨.stopRequested, .unmarked hnone htimedOut hmaxReached (.inl rfl)⟩
    · rw [if_neg hreason]
      obtain ⟨limit, hlimit, rfl⟩ := h.limited reason hreceive hreason
      refine h.receive_to hidle rfl nofun nofun nofun nofun ?_
      rintro reason hmem
      cases Option.mem_some.mp hmem
      exact ⟨.maxRuntimeDurationReached limit hlimit, .unmarked hnone htimedOut hmaxReached (.inr rfl)⟩
  | receiving => exact h.turn hruntime hreceive input
  | shuttingDown result =>
    have hwasAsked := h.receiveAsked
    have hreasons := h.reason
    rw [hreceive] at hwasAsked hreasons
    refine ⟨?_, ?_, ?_, h.full, h.notFull, nofun, nofun, nofun, ?_⟩
    · change true = ((ReceiveThread.done result).hasAsked || runtime.handoff.hasAsked)
      cases result with
      | error error => rfl
      | ok reason =>
        by_cases hreason : reason = .stopRequested
        · subst hreason
          rw [hwasAsked rfl]
          rfl
        · simp [ReceiveThread.hasAsked, hreason]
    · exact fun hasked => hwasAsked (by cases result <;> exact hasked)
    · intro hasked
      change (ReceiveThread.done result).hasAsked = true
      have hold := h.handoffAsked hasked
      rw [hreceive] at hold
      cases hold
    · rw [hnotes]
      intro reason hmem
      exact hreasons reason (by cases result <;> exact hmem)
  | done result =>
    have hnotes' : runtimeNotes config (events ++ [.idle]) = runtimeNotes config events :=
      runtimeNotes_quiet (.inl rfl)
    exact ⟨h.asked, h.receiveAsked, h.handoffAsked, h.full, h.notFull, h.unmarked, by rw [hnotes']; exact h.unlimited,
      h.limited, by rw [hnotes']; exact h.reason⟩

/-- The handoff thread goes to another place, and has not asked for anything. -/
theorem StopInvariant.handoff_to (h : StopInvariant config policy events runtime)
    (hbefore : runtime.handoff.hasAsked = false) {event : RuntimeEvent} (hnote : event.note? config = none)
    {shared : ConcurrentSharedState} (hreassembly : shared.server.reassembly = runtime.shared.server.reassembly)
    (hsummary : shared.receiveSummary = runtime.shared.receiveSummary) {handoff : HandoffThread}
    {requestsServed : Nat} (hafter : handoff.hasAsked = false)
    (hasked : handoff.wasAsked = true → runtime.receive.hasAsked = true)
    (hfull : handoff.isFull = true → requestsServed = policy.effectiveMaxHandoffRequests)
    (hnotFull : handoff.gaveUp = true → requestsServed < policy.effectiveMaxHandoffRequests) :
    StopInvariant config policy (events ++ [event]) { runtime with shared, handoff, requestsServed } := by
  have hnotes : runtimeNotes config (events ++ [event]) = runtimeNotes config events := by
    rw [runtimeNotes_concat, hnote]
    exact List.append_nil _
  refine ⟨?_, ?_, hasked, hfull, hnotFull, ?_, ?_, h.limited, ?_⟩
  · have hold := h.asked
    rw [hbefore] at hold
    change runtime.stopRequested = (runtime.receive.hasAsked || handoff.hasAsked)
    rw [hafter]
    exact hold
  · intro hwas
    have hold := h.receiveAsked hwas
    rw [hbefore] at hold
    cases hold
  · change runtime.receive.isActive = true → shared.receiveSummary.stopReason = none ∧ _
    rw [hsummary]
    exact h.unmarked
  · rw [hnotes]
    exact h.unlimited
  · rw [hnotes]
    intro reason hreason
    obtain ⟨hholds, hmarks⟩ := h.reason reason hreason
    refine ⟨hholds, ?_⟩
    change MarksTell shared.server shared.receiveSummary reason
    rw [hsummary]
    refine ⟨hmarks.stopReason, hmarks.receiveTimedOut, hmarks.maxPacketsReached, ?_, ?_⟩
    · rw [ServerVideoFrameReassemblyState.trackedFrameCount, hreassembly]
      exact hmarks.incompleteReassemblyFrames
    · rw [ServerVideoFrameReassemblyState.frameProgress, hreassembly]
      exact hmarks.incompleteFrameProgress

theorem StopInvariant.handoff (h : StopInvariant config policy events runtime)
    (hruntime : RuntimeInvariant config policy events runtime) (input : HandoffInput) :
    StopInvariant config policy (events ++ [(runtime.handoffStep policy input).2])
      (runtime.handoffStep policy input).1 := by
  unfold ConcurrentRuntime.handoffStep
  cases hhandoff : runtime.handoff with
  | top =>
    have hidle : runtime.handoff.hasAsked = false := by rw [hhandoff]; rfl
    dsimp only
    split
    next hflag =>
      refine h.handoff_to hidle rfl rfl rfl rfl (fun _ => ?_) nofun nofun
      have hasked := h.asked
      rw [hflag, hidle, Bool.or_false] at hasked
      exact hasked.symm
    next =>
      split
      next hfull => exact h.handoff_to hidle rfl rfl rfl rfl nofun (fun _ => hruntime.room.antisymm hfull) nofun
      next => exact h.handoff_to hidle rfl rfl rfl rfl nofun nofun nofun
  | accepting =>
    have hidle : runtime.handoff.hasAsked = false := by rw [hhandoff]; rfl
    have hroom : runtime.requestsServed < policy.effectiveMaxHandoffRequests :=
      hruntime.roomLeft (by rw [hhandoff]; rfl)
    dsimp only
    cases input.create with
    | error kind => exact h.handoff_to hidle rfl rfl rfl rfl nofun nofun fun _ => hroom
    | ok =>
      cases input.connect with
      | error kind => exact h.handoff_to hidle rfl rfl rfl rfl nofun nofun fun _ => hroom
      | ok => exact h.handoff_to hidle rfl rfl rfl rfl nofun nofun fun _ => hroom
  | connected =>
    have hidle : runtime.handoff.hasAsked = false := by rw [hhandoff]; rfl
    have hroom : runtime.requestsServed < policy.effectiveMaxHandoffRequests :=
      hruntime.roomLeft (by rw [hhandoff]; rfl)
    dsimp only
    split
    next hflag =>
      refine h.handoff_to hidle rfl rfl rfl rfl (fun _ => ?_) nofun fun _ => hroom
      have hasked := h.asked
      rw [hflag, hidle, Bool.or_false] at hasked
      exact hasked.symm
    next => exact h.handoff_to hidle rfl rfl rfl rfl nofun nofun fun _ => hroom
  | reading =>
    have hidle : runtime.handoff.hasAsked = false := by rw [hhandoff]; rfl
    have hroom : runtime.requestsServed < policy.effectiveMaxHandoffRequests :=
      hruntime.roomLeft (by rw [hhandoff]; rfl)
    dsimp only
    cases input.request with
    | error kind => exact h.handoff_to hidle rfl rfl rfl rfl nofun nofun fun _ => hroom
    | ok frame =>
      dsimp only
      cases decodeRequestFrame frame with
      | error error => exact h.handoff_to hidle rfl rfl rfl rfl nofun nofun fun _ => hroom
      | ok request => exact h.handoff_to hidle rfl rfl rfl rfl nofun nofun fun _ => hroom
  | serving request =>
    have hidle : runtime.handoff.hasAsked = false := by rw [hhandoff]; rfl
    obtain ⟨response, hhandle, -⟩ := handleRequest_answers hruntime.queue request
    dsimp only
    rw [hhandle]
    refine h.handoff_to hidle ?_ ?_ ?_ ?_ ?_ ?_ ?_
    · rfl
    · rfl
    · rfl
    · rfl
    · nofun
    · nofun
    · nofun
  | writing request response =>
    have hidle : runtime.handoff.hasAsked = false := by rw [hhandoff]; rfl
    have hroom : runtime.requestsServed < policy.effectiveMaxHandoffRequests :=
      hruntime.roomLeft (by rw [hhandoff]; rfl)
    dsimp only
    cases encodeResponseFrame response with
    | error error => exact h.handoff_to hidle rfl rfl rfl rfl nofun nofun fun _ => hroom
    | ok frame =>
      cases input.write with
      | error kind => exact h.handoff_to hidle rfl rfl rfl rfl nofun nofun fun _ => hroom
      | ok =>
        cases input.flush with
        | error kind => exact h.handoff_to hidle rfl rfl rfl rfl nofun nofun fun _ => hroom
        | ok => exact h.handoff_to hidle rfl rfl rfl rfl nofun nofun nofun
  | failing error =>
    have hidle : runtime.handoff.hasAsked = false := by rw [hhandoff]; rfl
    have hasked := h.handoffAsked
    have hfull := h.full
    have hnotFull := h.notFull
    rw [hhandoff] at hasked hfull hnotFull
    dsimp only
    refine h.handoff_to hidle ?_ ?_ ?_ ?_ hasked hfull (fun _ => hnotFull rfl) <;> rfl
  | stopping reason =>
    have hasked := h.handoffAsked
    have hfull := h.full
    have hnotFull := h.notFull
    rw [hhandoff] at hasked hfull hnotFull
    have hnotes : runtimeNotes config (events ++ [.internal]) = runtimeNotes config events :=
      runtimeNotes_quiet (.inr rfl)
    refine ⟨(Bool.or_true _).symm, fun _ => rfl, hasked, hfull, hnotFull, h.unmarked, ?_, h.limited, ?_⟩
    · rw [hnotes]
      exact h.unlimited
    · rw [hnotes]
      exact h.reason
  | done reason =>
    have hnotes : runtimeNotes config (events ++ [.idle]) = runtimeNotes config events :=
      runtimeNotes_quiet (.inl rfl)
    exact ⟨h.asked, h.receiveAsked, h.handoffAsked, h.full, h.notFull, h.unmarked, by rw [hnotes]; exact h.unlimited,
      h.limited, by rw [hnotes]; exact h.reason⟩
  | panicked panic => exact absurd hhandoff (hruntime.running panic)

end Receive

section Report

variable (config : ServerRuntimeConfig) (policy : ConcurrentRuntimePolicy) (actions : List RuntimeAction)

theorem runConcurrent_stops :
    StopInvariant config policy (runConcurrent config policy actions).2
      (runConcurrent config policy actions).1 := by
  refine (run_invariant (P := fun _ => True) (fun _ runtime events =>
    RuntimeInvariant config policy events runtime ∧ StopInvariant config policy events runtime)
    ⟨.start, .start⟩ ?_ actions fun _ _ => trivial).2
  rintro ins runtime events action - ⟨hruntime, h⟩
  cases action with
  | receive input => exact ⟨hruntime.receive input, h.receive hruntime input⟩
  | handoff input => exact ⟨hruntime.handoff input, h.handoff hruntime input⟩

/-- Where the frames are, at any time of a run of both threads. -/
structure FramesConserved (runtime : ConcurrentRuntime) (events : List RuntimeEvent) : Prop where
  /-- No length of a response is too long for its field. -/
  running : ∀ panic, runtime.handoff ≠ .panicked panic
  bounded : ∀ clientId, runtime.shared.server.videoQueue.clientQueueLen clientId ≤ 8
  queued : (entered (runtimeLog config events)).map ServerQueuedVideoFrame.frame =
    (runtimeNotes config events).filterMap VideoPacketNote.frame?
  accounted : Ledger scope (runtimeLog config events) fun k =>
    runtime.shared.server.videoQueue.framesForClientRun k.1 k.2
  left : (left (runtimeLog config events)).Perm
    (leftFor .dequeued (runtimeLog config events) ++
      (runtimeNotes config events).filterMap VideoPacketNote.evicted?)
  /-- A frame that is taken out of the queue reaches the switcher, but for the one of a last answer. -/
  handedOver : ∃ lost : Option (HandoffRequest × HandoffResponse),
    (leftFor .dequeued (runtimeLog config events)).map ServerQueuedVideoFrame.handoffFrame =
        (runtimeDeliveries events ++ lost.toList).filterMap dequeuedFrame? ∧
      runtime.handoff.Holds lost
  origin : ∀ answer ∈ runtimeAnswers events, ∀ frame ∈ answer.2.frame?,
    ∃ queued ∈ entered (runtimeLog config events), frame = queued.handoffFrame

/-- In whatever order the threads go on, no frame is lost or doubled between the socket and the pipe. -/
theorem concurrent_conserves :
    FramesConserved config (runConcurrent config policy actions).1 (runConcurrent config policy actions).2 := by
  have h := runConcurrent_invariant config policy actions
  obtain ⟨held, hsplit, hheld⟩ := h.held
  refine ⟨h.running, h.queue.bounded, h.queued, h.queue.ledger, ?_, ⟨held, ?_, hheld⟩, h.origin⟩
  · refine (left_perm _).trans ?_
    rw [h.popped, List.append_nil, h.evicted]
  · rw [← hsplit]
    exact h.dequeued

/-- What a report of a finished run says of it. -/
structure ReportExact (runtime : ConcurrentRuntime) (events : List RuntimeEvent)
    (report : ConcurrentRuntimeSummary) : Prop where
  packetsReceived : report.packetsReceived = counted (runtimeNotes config events).length
  framesQueued : report.framesQueued =
    counted ((runtimeNotes config events).filterMap VideoPacketNote.queued?).length
  perClientQueuedFrames : report.perClientQueuedFrames =
    tally (((runtimeNotes config events).filterMap VideoPacketNote.queued?).map frameKey)
  keyframesQueued : report.keyframesQueued =
    counted (keyframesOf ((runtimeNotes config events).filterMap VideoPacketNote.queued?)).length
  retainedKeyframeClients : report.retainedKeyframeClients =
    runtime.shared.server.videoQueue.retainedKeyframeClients
  handoff : report.handoff =
    handoffCounts ((runtimeAnswers events).map Prod.snd) report.handoffStopReason.isIoError.toNat
  handoffRequests : report.handoff.handoffRequests =
    (runtimeDeliveries events).length + report.handoffStopReason.afterAnswer.toNat
  few : (runtimeDeliveries events).length ≤ policy.effectiveMaxHandoffRequests
  /-- The limit of requests is given as the reason when it is reached. -/
  full : report.stopReason = .maxHandoffRequestsReached → report.handoffStopReason = .maxRequestsReached ∧
    (runtimeDeliveries events).length = policy.effectiveMaxHandoffRequests
  /-- It is the reason whenever it is reached, but where the receive thread stopped first. -/
  reached : (runtimeDeliveries events).length = policy.effectiveMaxHandoffRequests →
    report.stopReason = .maxHandoffRequestsReached ∨
      report.handoffStopReason = .stopRequested ∧ report.stopReason = .receiveStopped
  /-- Otherwise, the reason is the thread that stopped by itself. -/
  receiveStopped : report.stopReason = .receiveStopped → report.receiveStopReason ≠ .stopRequested
  handoffStopped : report.stopReason = .handoffStopped → report.receiveStopReason = .stopRequested ∧
    report.handoffStopReason ≠ .stopRequested ∧ report.handoffStopReason ≠ .maxRequestsReached
  receiveReason : ReceiveReasonHolds policy (runtimeNotes config events) report.receiveStopReason
  marks : MarksTell runtime.shared.server runtime.shared.receiveSummary report.receiveStopReason

/-- The request limit goes before the thread that stopped by itself. -/
theorem runtimeStopReason_cases (handoffReason : HandoffStopReason)
    (receiveReason : ConcurrentReceiveStopReason) :
    handoffReason = .maxRequestsReached ∧
        runtimeStopReason handoffReason receiveReason = .maxHandoffRequestsReached ∨
      handoffReason ≠ .maxRequestsReached ∧ receiveReason ≠ .stopRequested ∧
        runtimeStopReason handoffReason receiveReason = .receiveStopped ∨
      handoffReason ≠ .maxRequestsReached ∧ receiveReason = .stopRequested ∧
        runtimeStopReason handoffReason receiveReason = .handoffStopped := by
  by_cases hmax : handoffReason = .maxRequestsReached
  · exact .inl ⟨hmax, if_pos hmax⟩
  by_cases hitself : receiveReason ≠ .stopRequested
  · exact .inr (.inl ⟨hmax, hitself, (if_neg hmax).trans (if_pos hitself)⟩)
  · exact .inr (.inr ⟨hmax, not_not.mp hitself, (if_neg hmax).trans (if_neg hitself)⟩)

/-- When both threads are done, the report counts exactly what the run did, and the reasons in it are true. -/
theorem concurrent_report_exact {report : ConcurrentRuntimeSummary}
    (h : (runConcurrent config policy actions).1.result = some (.ok report)) :
    ReportExact config policy (runConcurrent config policy actions).1 (runConcurrent config policy actions).2
      report := by
  have hruntime := runConcurrent_invariant config policy actions
  have hstops := runConcurrent_stops config policy actions
  generalize (runConcurrent config policy actions).1 = runtime at *
  generalize (runConcurrent config policy actions).2 = events at *
  unfold ConcurrentRuntime.result at h
  split at h
  next => cases h
  next handoffReason receiveReason hhandoff hreceive =>
    cases h
    have hreceived := hruntime.received
    have hanswered := hruntime.answered
    obtain ⟨held, hsplit, hheld⟩ := hruntime.held
    obtain ⟨hreason, hmarks⟩ := hstops.reason receiveReason (by rw [hreceive]; rfl)
    have hfull := hstops.full
    have hnotFull := hstops.notFull
    have hreceiveAsked := hstops.handoffAsked
    rw [hhandoff] at hanswered hheld hfull hnotFull hreceiveAsked
    rw [hreceive] at hreceiveAsked
    have hserved := hruntime.served
    refine ⟨?_, ?_, ?_, ?_, rfl, hanswered, ?_, ?_, ?_, ?_, ?_, ?_, hreason, hmarks⟩
    · exact congrArg ServerReceiveAuthVideoQueueOnceVideoSummary.packetsReceived hreceived
    · exact congrArg ServerReceiveAuthVideoQueueOnceVideoSummary.framesQueued hreceived
    · exact congrArg ServerReceiveAuthVideoQueueOnceVideoSummary.perClientQueuedFrames hreceived
    · exact congrArg ServerReceiveAuthVideoQueueOnceVideoSummary.keyframesQueued hreceived
    · have hcount := congrArg ServerReceiveAuthVideoQueueHandoffContinuousHandoffSummary.handoffRequests
        hanswered
      have hone : held.toList.length = held.isSome.toNat := by cases held <;> rfl
      change runtime.shared.handoffSummary.handoffRequests = _ + handoffReason.afterAnswer.toNat
      rw [hcount, ← show held.isSome = handoffReason.afterAnswer from hheld, ← hone]
      simp only [handoffCounts, List.length_map]
      rw [hsplit, List.length_append]
    · exact hserved ▸ hruntime.room
    · intro hstop
      obtain ⟨heq, -⟩ | ⟨-, -, heq⟩ | ⟨-, -, heq⟩ := runtimeStopReason_cases handoffReason receiveReason
      · refine ⟨heq, ?_⟩
        rw [← hserved]
        exact hfull (by simp [HandoffThread.isFull, heq])
      · cases hstop.symm.trans heq
      · cases hstop.symm.trans heq
    · intro hreached
      by_cases hmax : handoffReason = .maxRequestsReached
      · exact .inl (if_pos hmax)
      by_cases hasked : handoffReason = .stopRequested
      · subst hasked
        -- the receive thread asked for the end, so it stopped by itself
        have hother := hreceiveAsked rfl
        have hitself : receiveReason ≠ .stopRequested := by simpa [ReceiveThread.hasAsked] using hother
        exact .inr ⟨rfl, if_pos hitself⟩
      · have hbelow := hnotFull (by simp [HandoffThread.gaveUp, hmax, hasked])
        omega
    · intro hstop
      obtain ⟨-, heq⟩ | ⟨-, hitself, -⟩ | ⟨-, -, heq⟩ := runtimeStopReason_cases handoffReason receiveReason
      · cases hstop.symm.trans heq
      · exact hitself
      · cases hstop.symm.trans heq
    · intro hstop
      obtain ⟨-, heq⟩ | ⟨-, -, heq⟩ | ⟨hnotMax, hasked, -⟩ :=
        runtimeStopReason_cases handoffReason receiveReason
      · cases hstop.symm.trans heq
      · cases hstop.symm.trans heq
      · refine ⟨hasked, ?_, hnotMax⟩
        rintro rfl
        -- each thread would have stopped because of the other
        have hother := hreceiveAsked rfl
        rw [hasked] at hother
        cases hother
  next => cases h

/-- At most one request, and no other limit. -/
def oneRequestPolicy : ConcurrentRuntimePolicy where
  receiveTimeout := 1000
  maxRuntimeDuration := none
  maxHandoffRequests := some 1
  maxVideoPackets := none
  expectedReassembledFrames := 0
  stopAfterExpectedReassembledFrames := false
  expectedReassembledClients := 0
  expectedReassembledFramesPerClient := 0
  maxHandoffRequests_le := by decide
  maxVideoPackets_le := by decide

def cameraBytes (message : ProtocolMessage) : List UInt8 := (encodeMessage ⟨1⟩ message []).toOption.getD []

/-- A keyframe of the authenticated client. -/
def cameraFrame (frameId : UInt64) : ProtocolMessage :=
  .videoFrame (sampleFrame "cam" "run" frameId true).registeredPacket.frame

/-- The receive thread goes on, with this datagram for the socket to give out. -/
def receiveOf (message : ProtocolMessage) : RuntimeAction :=
  .receive ⟨0, fun _ => .ok (), ⟨.ok (cameraSource 5000, cameraBytes message), .quiet, 3⟩⟩

/-- The handoff thread goes on, with a switcher that takes the oldest frame. -/
def handoffOldest : RuntimeAction :=
  .handoff ⟨.ok (), .ok (), .ok ((encodeRequestFrame ⟨1, 7, "cam", "run", .dequeueOldest⟩).toOption.getD []),
    .ok (), .ok ()⟩

/-- The client is authenticated and sends a frame, which the switcher takes. -/
def oneRequestActions : List RuntimeAction :=
  List.replicate 2 (receiveOf (.authRequest (cameraRequest "run"))) ++
    List.replicate 2 (receiveOf (cameraFrame 1)) ++ List.replicate 8 handoffOldest ++
      List.replicate 2 (receiveOf (cameraFrame 2))

theorem concurrent_report_exact_oneRequest :
    let run := runConcurrent oneCameraConfig oneRequestPolicy oneRequestActions
    ∃ report, run.1.result = some (.ok report) ∧ ReportExact oneCameraConfig oneRequestPolicy run.1 run.2 report ∧
      report.packetsReceived = 2 ∧ report.framesQueued = 1 ∧ (runtimeDeliveries run.2).length = 1 ∧
      report.stopReason = .maxHandoffRequestsReached := by
  intro run
  have hreason : (run.1.result.bind Except.toOption).map (·.stopReason) = some .maxHandoffRequestsReached := by
    decide +kernel
  obtain ⟨report, hreport, hstop⟩ := Option.map_eq_some_iff.mp hreason
  obtain ⟨result, hresult, hok⟩ := Option.bind_eq_some_iff.mp hreport
  cases result with
  | error error => cases hok
  | ok found =>
    have hexact := concurrent_report_exact oneCameraConfig oneRequestPolicy oneRequestActions hresult
    have hnotes : (runtimeNotes oneCameraConfig run.2).length = 2 := by decide +kernel
    have hqueued : ((runtimeNotes oneCameraConfig run.2).filterMap VideoPacketNote.queued?).length = 1 := by
      decide +kernel
    have hdelivered : (runtimeDeliveries run.2).length = 1 := by decide +kernel
    cases Option.some.inj hok
    refine ⟨report, hresult, hexact, ?_, ?_, hdelivered, hstop⟩
    · rw [hexact.packetsReceived, hnotes]
      rfl
    · rw [hexact.framesQueued, hqueued]
      rfl

end Report

end StreamSync
