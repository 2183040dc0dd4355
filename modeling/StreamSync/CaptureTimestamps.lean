import StreamSync.AnnexBReader
import StreamSync.PersistentSender

namespace StreamSync

open ClientAnnexBAccessUnitReaderBoundary EncodedAccessUnit Run

def PersistentTick.frame? (tick : PersistentTick) : Option ClientRawCapturedVideoFrame :=
  match tick.acquired with
  | .frameAcquired frame => some frame
  | _ => none

/-- The bytes that the round reads when it submits a frame. -/
def PersistentTick.readBytes (tick : PersistentTick) : List UInt8 :=
  match tick.acquired, tick.pipes.stdout with
  | .frameAcquired _, .ok bytes => bytes
  | _, _ => []

/-- The raw frames that were captured to be encoded, in order. -/
def capturedFrames (ticks : List PersistentTick) : List ClientRawCapturedVideoFrame :=
  ticks.filterMap (·.frame?)

def stdoutBytes (ticks : List PersistentTick) : List UInt8 := ticks.flatMap (·.readBytes)

theorem capturedFrames_concat (ticks : List PersistentTick) (tick : PersistentTick) :
    capturedFrames (ticks ++ [tick]) = capturedFrames ticks ++ tick.frame?.toList := by
  rw [capturedFrames, List.filterMap_append]
  cases h : tick.frame? with
  | none => simp [capturedFrames, h]
  | some frame => simp [capturedFrames, h]

theorem stdoutBytes_concat (ticks : List PersistentTick) (tick : PersistentTick) :
    stdoutBytes (ticks ++ [tick]) = stdoutBytes ticks ++ tick.readBytes := by
  rw [stdoutBytes, List.flatMap_append, List.flatMap_singleton]
  rfl

/-- The encoder makes of the raw frames one access unit each, in the order of submission. What is
read of its output, however late and however cut, is of the units of frames that were submitted, and
the output ends behind a unit. -/
structure EmitsOneUnitPerFrame (units : List EncodedAccessUnit) (ticks : List PersistentTick) : Prop where
  inOrder : ∀ earlier, earlier <+: ticks →
    stdoutBytes earlier <+: output (units.take (capturedFrames earlier).length)
  endsWhole : ∀ earlier tick frame, earlier ++ [tick] <+: ticks → tick.acquired = .frameAcquired frame →
    tick.pipes.stdout = .ok [] → ∃ count, stdoutBytes earlier = output (units.take count)

theorem EmitsOneUnitPerFrame.of_prefix {units : List EncodedAccessUnit} {ticks ticks' : List PersistentTick}
    (h : EmitsOneUnitPerFrame units ticks') (hinit : ticks <+: ticks') :
    EmitsOneUnitPerFrame units ticks where
  inOrder earlier hearlier := h.inOrder earlier (hearlier.trans hinit)
  endsWhole earlier tick frame hearlier := h.endsWhole earlier tick frame (hearlier.trans hinit)

/-- The session holds back the bytes. -/
inductive HoldsBack : Option ClientPersistentFfmpegH264AccessUnitSession → List UInt8 → Prop
  | notStarted : HoldsBack none []
  | started (runtime : ClientPersistentFfmpegH264EncoderRuntime) (buffered : List UInt8)
    (hopen : runtime.stdoutOpen = true) :
    HoldsBack (some ⟨some runtime, ⟨buffered⟩, clientPersistentFfmpegStdoutReadLen⟩) buffered

/-- What was read is the units that the session returned and the bytes that it holds back, and of the
last frame that was submitted the unit is still outstanding. -/
structure Tracks (units : List EncodedAccessUnit) (ticks : List PersistentTick)
    (state : PersistentSenderState) (buffered : List UInt8) : Prop where
  holdsBack : HoldsBack state.session buffered
  read : output (units.take state.persistentAccessUnitsEmitted) ++ buffered = stdoutBytes ticks
  outstanding : state.persistentAccessUnitsEmitted ≤ (capturedFrames ticks).length - 1

/-- Bytes behind the first units are of the units that follow. -/
theorem output_drop {units : List EncodedAccessUnit} {emitted count : Nat} {bytes : List UInt8}
    (h : output (units.take emitted) ++ bytes = output (units.take count)) :
    bytes = output ((units.take count).drop emitted) := by
  by_cases hle : emitted ≤ count
  · have hsplit := List.take_append_drop emitted (units.take count)
    rw [List.take_take, Nat.min_eq_left hle] at hsplit
    rw [← hsplit, output_append] at h
    exact List.append_cancel_left h
  · have hsplit := List.take_append_drop count (units.take emitted)
    rw [List.take_take, Nat.min_eq_left (Nat.le_of_not_le hle)] at hsplit
    rw [← hsplit, output_append, List.append_assoc, List.append_right_eq_self] at h
    have hnone : (units.take count).drop emitted = [] :=
      List.drop_eq_nil_of_le (by rw [List.length_take]; omega)
    rw [hnone, (List.append_eq_nil_iff.mp h).2]
    rfl

/-- The first unit that is outstanding has the number of the units that were returned. -/
theorem getElem?_of_drop_take {units later : List EncodedAccessUnit} {emitted count : Nat}
    {first : EncodedAccessUnit} (h : (units.take count).drop emitted = first :: later) :
    units[emitted]? = some first := by
  have hhead : ((units.take count).drop emitted)[0]? = some first := by rw [h]; rfl
  rw [List.getElem?_drop, Nat.add_zero, List.getElem?_take] at hhead
  split at hhead
  next => exact hhead
  next => cases hhead

/-- Two units are outstanding only if that many frames were submitted. -/
theorem length_of_drop_take {units later : List EncodedAccessUnit} {emitted count : Nat}
    {first next : EncodedAccessUnit} (h : (units.take count).drop emitted = first :: next :: later) :
    emitted + 2 ≤ count := by
  have hlength := congrArg List.length h
  rw [List.length_drop, List.length_take, List.length_cons, List.length_cons] at hlength
  omega

section Step

variable {units : List EncodedAccessUnit} {earlier : List PersistentTick} {tick : PersistentTick}
  {frame : ClientRawCapturedVideoFrame} {state : PersistentSenderState} {buffered : List UInt8}

/-- A round that goes on has a session for its frame, with the bytes that were held back. -/
theorem HoldsBack.ensureSession {session : ClientPersistentFfmpegH264AccessUnitSession}
    (h : HoldsBack state.session buffered)
    (hsession : StreamSync.ensureSession tick frame state = .ok session) :
    ∃ runtime : ClientPersistentFfmpegH264EncoderRuntime, runtime.stdoutOpen = true ∧
      session = ⟨some runtime, ⟨buffered⟩, clientPersistentFfmpegStdoutReadLen⟩ := by
  unfold StreamSync.ensureSession at hsession
  cases hstate : state.session with
  | some current =>
    rw [hstate] at h hsession
    cases hsession
    cases h with
    | started runtime _ hopen => exact ⟨runtime, hopen, rfl⟩
  | none =>
    rw [hstate] at h hsession
    cases h
    cases hstart : startWithCommand frame tick.spawn with
    | error kind => rw [hstart] at hsession; cases hsession
    | ok runtime =>
      rw [hstart] at hsession
      cases hsession
      exact ⟨runtime, stdoutOpen_of_startWithCommand hstart, rfl⟩

theorem readBytes_of_frame (hframe : tick.acquired = .frameAcquired frame) {bytes : List UInt8}
    (hread : tick.pipes.stdout = .ok bytes) : tick.readBytes = bytes := by
  rw [PersistentTick.readBytes, hframe, hread]

theorem readBytes_of_noFrame (hnone : tick.frame? = none) : tick.readBytes = [] := by
  unfold PersistentTick.frame? at hnone
  unfold PersistentTick.readBytes
  cases hacquired : tick.acquired with
  | frameAcquired frame => rw [hacquired] at hnone; cases hnone
  | noFrameAvailable message => rfl
  | unavailable reason message => rfl

theorem capturedFrames_concat_of_frame (earlier : List PersistentTick)
    (hframe : tick.acquired = .frameAcquired frame) :
    capturedFrames (earlier ++ [tick]) = capturedFrames earlier ++ [frame] := by
  rw [capturedFrames_concat, PersistentTick.frame?, hframe]
  rfl

theorem stdoutBytes_eq_nil {ticks : List PersistentTick} (h : capturedFrames ticks = []) :
    stdoutBytes ticks = [] := by
  rw [stdoutBytes, List.flatMap_eq_nil_iff]
  intro tick htick
  have hnone := List.filterMap_eq_nil_iff.mp h tick htick
  exact readBytes_of_noFrame hnone

/-- Bytes are held back only behind a frame that was submitted. -/
theorem Tracks.lags_of_buffered (htracks : Tracks units earlier state buffered) (h : buffered ≠ []) :
    state.persistentAccessUnitsEmitted < (capturedFrames earlier).length := by
  have hframes : capturedFrames earlier ≠ [] := by
    intro hnone
    have hread := htracks.read
    rw [stdoutBytes_eq_nil hnone, List.append_eq_nil_iff] at hread
    exact h hread.2
  have hpos := List.length_pos_of_ne_nil hframes
  have houtstanding := htracks.outstanding
  omega

namespace Tracks

variable (htracks : Tracks units earlier state buffered)
  (hemits : EmitsOneUnitPerFrame units (earlier ++ [tick])) (hframe : tick.acquired = .frameAcquired frame)

include htracks hemits hframe

/-- What is there to extract from is a part of the units that are outstanding. -/
theorem prefix_pending {bytes : List UInt8} (hread : tick.pipes.stdout = .ok bytes) :
    buffered ++ bytes <+: output ((units.take ((capturedFrames earlier).length + 1)).drop
      state.persistentAccessUnitsEmitted) := by
  obtain ⟨rest, hrest⟩ := hemits.inOrder _ (List.prefix_refl _)
  rw [stdoutBytes_concat, readBytes_of_frame hframe hread, ← htracks.read, List.append_assoc,
    List.append_assoc, capturedFrames_concat_of_frame _ hframe, List.length_append] at hrest
  exact ⟨rest, by rw [List.append_assoc]; exact output_drop hrest⟩

theorem eq_pending_of_end (hread : tick.pipes.stdout = .ok []) :
    ∃ count, buffered = output ((units.take count).drop state.persistentAccessUnitsEmitted) := by
  obtain ⟨count, hcount⟩ := hemits.endsWhole earlier tick frame (List.prefix_refl _) hframe hread
  rw [← htracks.read] at hcount
  exact ⟨count, output_drop hcount⟩

variable {input : ClientContinuousRealEncodedVideoFrameInput} {frameId : UInt64}
  {runtime : ClientPersistentFfmpegH264EncoderRuntime}
  {polled : ClientPersistentFfmpegH264AccessUnitSession × ClientPersistentFfmpegH264AccessUnitSessionStepResult}

/-- What is sent is prepared from the oldest unit that is outstanding, which is of an earlier frame, and
stamped for the frame that is being submitted. -/
theorem sent_of_polled
    (hpolled : Polled tick.pipes runtime buffered clientPersistentFfmpegStdoutReadLen polled)
    {sent : VideoFrame}
    (hsent : (handlePersistentAccessUnitSessionResult input tick frameId frame
      { state with session := some polled.1 } polled.2).2 = .sent sent) :
    ∃ encoded, units[state.persistentAccessUnitsEmitted]? = some encoded ∧
      sent.captureTimestamp = frame.captureTimestamp ∧ PreparedFrom encoded.accessUnit sent.payload ∧
      state.persistentAccessUnitsEmitted < (capturedFrames earlier).length := by
  cases hpolled with
  | accessUnit bytes accessUnit readerState hread hextract =>
    obtain ⟨htimestamp, hprepared⟩ := buildAndSendPersistentAccessUnit_sent hsent
    rcases extract_of_prefix (htracks.prefix_pending hemits hframe hread) with
      hnone | ⟨first, next, later, rest, hpending, -, -, hfirst⟩
    · exact absurd hextract (hnone _)
    · cases hfirst.symm.trans hextract
      have hlag := length_of_drop_take hpending
      exact ⟨first, getElem?_of_drop_take hpending, htimestamp, hprepared, by omega⟩
  | waiting bytes hread => cases hsent
  | ended session hread =>
    obtain ⟨count, hbuffered⟩ := htracks.eq_pending_of_end hemits hframe hread
    cases hfinish : (finish ⟨buffered⟩).1 with
    | accessUnit accessUnit =>
      rw [hfinish] at hsent
      obtain ⟨htimestamp, hprepared⟩ := buildAndSendPersistentAccessUnit_sent hsent
      rw [hbuffered] at hfinish
      obtain ⟨first, later, hpending, rfl⟩ := finish_of_output hfinish
      rw [hpending, output_cons] at hbuffered
      have hlag := htracks.lags_of_buffered
        (hbuffered ▸ List.append_ne_nil_of_left_ne_nil first.bytes_ne_nil _)
      exact ⟨first, getElem?_of_drop_take hpending, htimestamp, hprepared, hlag⟩
    | eofNoBufferedData => rw [hfinish] at hsent; cases hsent
    | eofWithIncompleteData reason remainingBytes => rw [hfinish] at hsent; cases hsent
    | malformedStream reason remainingBytes => rw [hfinish] at hsent; cases hsent
  | failed session result hfailure =>
    rw [handlePersistentAccessUnitSessionResult_of_isFailure input tick frameId frame hfailure] at hsent
    cases hsent

/-- A round that does not end the loop keeps track of the units. -/
theorem next_of_polled
    (hpolled : Polled tick.pipes runtime buffered clientPersistentFfmpegStdoutReadLen polled)
    (hopen : runtime.stdoutOpen = true)
    (hgoing : (handlePersistentAccessUnitSessionResult input tick frameId frame
      { state with session := some polled.1 } polled.2).1.stopReason = none) :
    ∃ buffered', Tracks units (earlier ++ [tick])
      (handlePersistentAccessUnitSessionResult input tick frameId frame
        { state with session := some polled.1 } polled.2).1 buffered' := by
  have hframes := congrArg List.length (capturedFrames_concat_of_frame earlier hframe)
  rw [List.length_append, List.length_singleton] at hframes
  have houtstanding := htracks.outstanding
  cases hpolled with
  | accessUnit bytes accessUnit readerState hread hextract =>
    rcases extract_of_prefix (htracks.prefix_pending hemits hframe hread) with
      hnone | ⟨first, next, later, rest, hpending, hbuffered, -, hfirst⟩
    · exact absurd hextract (hnone _)
    · cases hfirst.symm.trans hextract
      have hnumber := getElem?_of_drop_take hpending
      have hlag := length_of_drop_take hpending
      refine ⟨rest, .started runtime rest hopen, ?_, ?_⟩
      · show output (units.take (state.persistentAccessUnitsEmitted + 1)) ++ rest = _
        rw [List.take_add_one, hnumber, Option.toList_some, output_append, output_cons, output_nil,
          List.append_nil, List.append_assoc, ← hbuffered, ← List.append_assoc, htracks.read,
          stdoutBytes_concat, readBytes_of_frame hframe hread]
      · show state.persistentAccessUnitsEmitted + 1 ≤ _
        omega
  | waiting bytes hread =>
    refine ⟨buffered ++ bytes, .started runtime _ hopen, ?_, ?_⟩
    · show output (units.take state.persistentAccessUnitsEmitted) ++ (buffered ++ bytes) = _
      rw [← List.append_assoc, htracks.read, stdoutBytes_concat, readBytes_of_frame hframe hread]
    · show state.persistentAccessUnitsEmitted ≤ _
      omega
  | ended session hread => cases hgoing
  | failed session result hfailure =>
    rw [handlePersistentAccessUnitSessionResult_of_isFailure input tick frameId frame hfailure] at hgoing
    cases hgoing

end Tracks

theorem Tracks.of_noFrame (htracks : Tracks units earlier state buffered) (hnone : tick.frame? = none) :
    Tracks units (earlier ++ [tick]) state buffered := by
  have hread := readBytes_of_noFrame hnone
  refine ⟨htracks.holdsBack, ?_, ?_⟩
  · rw [stdoutBytes_concat, hread, List.append_nil]
    exact htracks.read
  · rw [capturedFrames_concat, hnone, Option.toList_none, List.append_nil]
    exact htracks.outstanding

variable {input : ClientContinuousRealEncodedVideoFrameInput} {frameId : UInt64}

theorem acquireAndEncode_tracks (htracks : Tracks units earlier state buffered)
    (hemits : EmitsOneUnitPerFrame units (earlier ++ [tick]))
    (hgoing : (acquireAndEncode input tick frameId state).1.stopReason = none) :
    ∃ buffered', Tracks units (earlier ++ [tick]) (acquireAndEncode input tick frameId state).1 buffered' := by
  unfold acquireAndEncode at hgoing ⊢
  cases hacquired : tick.acquired with
  | noFrameAvailable message =>
    exact ⟨buffered, htracks.of_noFrame (by rw [PersistentTick.frame?, hacquired])⟩
  | unavailable reason message =>
    exact ⟨buffered, htracks.of_noFrame (by rw [PersistentTick.frame?, hacquired])⟩
  | frameAcquired frame =>
    rw [hacquired] at hgoing
    dsimp only at hgoing ⊢
    cases hsession : ensureSession tick frame state with
    | error kind => rw [hsession] at hgoing; cases hgoing
    | ok session =>
      rw [hsession] at hgoing
      obtain ⟨runtime, hopen, rfl⟩ := htracks.holdsBack.ensureSession hsession
      exact htracks.next_of_polled hemits hacquired
        (ClientPersistentFfmpegH264AccessUnitSession.submitFrameAndPollAccessUnit_polled hopen (by decide)
          frame.pixels) hopen hgoing

theorem acquireAndEncode_sent (htracks : Tracks units earlier state buffered)
    (hemits : EmitsOneUnitPerFrame units (earlier ++ [tick])) {sent : VideoFrame}
    (hsent : (acquireAndEncode input tick frameId state).2 = .sent sent) :
    ∃ frame encoded, tick.acquired = .frameAcquired frame ∧
      units[state.persistentAccessUnitsEmitted]? = some encoded ∧
      sent.captureTimestamp = frame.captureTimestamp ∧ PreparedFrom encoded.accessUnit sent.payload ∧
      state.persistentAccessUnitsEmitted < (capturedFrames earlier).length := by
  unfold acquireAndEncode at hsent
  cases hacquired : tick.acquired with
  | noFrameAvailable message => rw [hacquired] at hsent; cases hsent
  | unavailable reason message => rw [hacquired] at hsent; cases hsent
  | frameAcquired frame =>
    rw [hacquired] at hsent
    dsimp only at hsent
    cases hsession : ensureSession tick frame state with
    | error kind => rw [hsession] at hsent; cases hsent
    | ok session =>
      rw [hsession] at hsent
      obtain ⟨runtime, hopen, rfl⟩ := htracks.holdsBack.ensureSession hsession
      obtain ⟨encoded, hencoded⟩ := htracks.sent_of_polled hemits hacquired
        (ClientPersistentFfmpegH264AccessUnitSession.submitFrameAndPollAccessUnit_polled hopen (by decide)
          frame.pixels) hsent
      exact ⟨frame, encoded, rfl, hencoded⟩

theorem Tracks.congr {state' : PersistentSenderState} (htracks : Tracks units earlier state buffered)
    (hsession : state'.session = state.session)
    (hemitted : state'.persistentAccessUnitsEmitted = state.persistentAccessUnitsEmitted) :
    Tracks units earlier state' buffered :=
  ⟨hsession ▸ htracks.holdsBack, hemitted ▸ htracks.read, hemitted ▸ htracks.outstanding⟩

/-- A loop that goes on tracks the units. -/
def TracksWhileGoing (units : List EncodedAccessUnit) (ticks : List PersistentTick)
    (state : PersistentSenderState) : Prop :=
  state.stopReason = none → ∃ buffered, Tracks units ticks state buffered

theorem persistentTick_tracksWhileGoing (h : TracksWhileGoing units earlier state)
    (hemits : EmitsOneUnitPerFrame units (earlier ++ [tick])) :
    TracksWhileGoing units (earlier ++ [tick]) (persistentTick input state tick).1 := by
  intro hgoing
  rcases persistentTick_cases input state tick with
    ⟨hstopped, -⟩ | ⟨frameId, counted, hnone, hsession, hemitted, heq⟩
  · exact absurd hgoing hstopped
  · obtain ⟨buffered, htracks⟩ := h hnone
    rw [heq] at hgoing ⊢
    obtain ⟨buffered', htracks'⟩ := acquireAndEncode_tracks (htracks.congr hsession hemitted) hemits
      (stopReason_of_settleTick hgoing)
    exact ⟨buffered', htracks'.congr rfl rfl⟩

theorem persistentTick_sent (h : TracksWhileGoing units earlier state)
    (hemits : EmitsOneUnitPerFrame units (earlier ++ [tick])) {sent : VideoFrame}
    (hsent : (persistentTick input state tick).2 = some (.sent sent)) :
    ∃ frame encoded, tick.acquired = .frameAcquired frame ∧
      units[state.persistentAccessUnitsEmitted]? = some encoded ∧
      sent.captureTimestamp = frame.captureTimestamp ∧ PreparedFrom encoded.accessUnit sent.payload ∧
      state.persistentAccessUnitsEmitted < (capturedFrames earlier).length := by
  rcases persistentTick_cases input state tick with
    ⟨-, hnone⟩ | ⟨frameId, counted, hnone, hsession, hemitted, heq⟩
  · cases hnone.symm.trans hsent
  · obtain ⟨buffered, htracks⟩ := h hnone
    rw [heq] at hsent
    obtain ⟨frame, encoded, hacquired, hnumber, htimestamp, hprepared, hlag⟩ :=
      acquireAndEncode_sent (htracks.congr hsession hemitted) hemits (Option.some.inj hsent)
    exact ⟨frame, encoded, hacquired, hemitted ▸ hnumber, htimestamp, hprepared, hemitted ▸ hlag⟩

end Step

section Runs

variable {units : List EncodedAccessUnit} {ticks earlier : List PersistentTick} {tick : PersistentTick}
  {sent : VideoFrame}

theorem runPersistentSender_tracksWhileGoing (input : ClientContinuousRealEncodedVideoFrameInput)
    (hemits : EmitsOneUnitPerFrame units ticks) :
    TracksWhileGoing units ticks (runPersistentSender input ticks).1 := by
  refine run_invariant (P := fun _ => True)
    (fun ticks state _ => EmitsOneUnitPerFrame units ticks → TracksWhileGoing units ticks state)
    ?_ ?_ ticks (fun _ _ => trivial) hemits
  · intro _ _
    exact ⟨[], .notStarted, rfl, Nat.le_refl 0⟩
  · intro earlier state _ tick _ ih hemits
    exact persistentTick_tracksWhileGoing (ih (hemits.of_prefix (List.prefix_append earlier [tick]))) hemits

/-- The round behind the earlier ones sends the frame. -/
def SendsIn (input : ClientContinuousRealEncodedVideoFrameInput) (ticks earlier : List PersistentTick)
    (tick : PersistentTick) (sent : VideoFrame) : Prop :=
  earlier ++ [tick] <+: ticks ∧
    (persistentTick input (runPersistentSender input earlier).1 tick).2 = some (.sent sent)

/-- How many access units the session has returned, so the number of the next. -/
def unitsReturned (input : ClientContinuousRealEncodedVideoFrameInput) (earlier : List PersistentTick) : Nat :=
  (runPersistentSender input earlier).1.persistentAccessUnitsEmitted

/-- Every frame that is sent has the capture timestamp of the raw frame whose access unit is its
payload. -/
def CarriesOwnTimestamps (units : List EncodedAccessUnit) (input : ClientContinuousRealEncodedVideoFrameInput)
    (ticks : List PersistentTick) : Prop :=
  ∀ earlier tick sent, SendsIn input ticks earlier tick sent →
    ∃ encoded frame, units[unitsReturned input earlier]? = some encoded ∧
      PreparedFrom encoded.accessUnit sent.payload ∧
      (capturedFrames ticks)[unitsReturned input earlier]? = some frame ∧
      sent.captureTimestamp = frame.captureTimestamp

/-- The frame of the round was captured at the time of the oldest raw frame whose access unit is
outstanding. -/
def Unlagged (input : ClientContinuousRealEncodedVideoFrameInput) (earlier : List PersistentTick)
    (tick : PersistentTick) : Prop :=
  ∀ frame, tick.acquired = .frameAcquired frame →
    ∃ oldest, (capturedFrames earlier)[unitsReturned input earlier]? = some oldest ∧
      oldest.captureTimestamp = frame.captureTimestamp

theorem capturedFrames_of_prefix {frame : ClientRawCapturedVideoFrame}
    (h : earlier ++ [tick] <+: ticks) (hframe : tick.acquired = .frameAcquired frame) :
    ∃ later, capturedFrames ticks = capturedFrames earlier ++ frame :: later := by
  obtain ⟨rest, rfl⟩ := h
  refine ⟨capturedFrames rest, ?_⟩
  have hconcat := capturedFrames_concat_of_frame earlier hframe
  rw [capturedFrames, List.filterMap_append]
  show capturedFrames (earlier ++ [tick]) ++ capturedFrames rest = _
  rw [hconcat, List.append_assoc]
  rfl

/-- What is sent is the unit of an earlier frame, with the timestamp of the round's frame. -/
theorem sendsIn_spec {input : ClientContinuousRealEncodedVideoFrameInput}
    (hemits : EmitsOneUnitPerFrame units ticks) (h : SendsIn input ticks earlier tick sent) :
    ∃ frame encoded oldest later, tick.acquired = .frameAcquired frame ∧
      units[unitsReturned input earlier]? = some encoded ∧ PreparedFrom encoded.accessUnit sent.payload ∧
      sent.captureTimestamp = frame.captureTimestamp ∧
      (capturedFrames earlier)[unitsReturned input earlier]? = some oldest ∧
      capturedFrames ticks = capturedFrames earlier ++ frame :: later := by
  obtain ⟨hinit, hsent⟩ := h
  have hgoing := runPersistentSender_tracksWhileGoing input
    (hemits.of_prefix ((List.prefix_append earlier [tick]).trans hinit))
  obtain ⟨frame, encoded, hacquired, hnumber, htimestamp, hprepared, hlag⟩ :=
    persistentTick_sent hgoing (hemits.of_prefix hinit) hsent
  obtain ⟨later, hframes⟩ := capturedFrames_of_prefix hinit hacquired
  exact ⟨frame, encoded, _, later, hacquired, hnumber, hprepared, htimestamp,
    List.getElem?_eq_getElem hlag, hframes⟩

theorem carriesOwnTimestamps_iff (input : ClientContinuousRealEncodedVideoFrameInput)
    (hemits : EmitsOneUnitPerFrame units ticks) :
    CarriesOwnTimestamps units input ticks ↔
      ∀ earlier tick sent, SendsIn input ticks earlier tick sent → Unlagged input earlier tick := by
  constructor
  · intro hcarries earlier tick sent hsends frame hacquired
    obtain ⟨-, own, -, -, hown, hstamp⟩ := hcarries earlier tick sent hsends
    obtain ⟨submitted, -, oldest, later, hacquired', -, -, htimestamp, holdest, hframes⟩ :=
      sendsIn_spec hemits hsends
    cases hacquired.symm.trans hacquired'
    rw [hframes, List.getElem?_append_left (List.getElem?_eq_some_iff.mp holdest).1] at hown
    cases holdest.symm.trans hown
    exact ⟨own, holdest, hstamp.symm.trans htimestamp⟩
  · intro hunlagged earlier tick sent hsends
    obtain ⟨frame, encoded, oldest, later, hacquired, hnumber, hprepared, htimestamp, holdest, hframes⟩ :=
      sendsIn_spec hemits hsends
    obtain ⟨oldest', holdest', heq⟩ := hunlagged earlier tick sent hsends frame hacquired
    cases holdest.symm.trans holdest'
    refine ⟨encoded, oldest, hnumber, hprepared, ?_, htimestamp.trans heq.symm⟩
    rw [hframes, List.getElem?_append_left (List.getElem?_eq_some_iff.mp holdest).1]
    exact holdest

/-- While capture timestamps increase, nothing that is sent is unlagged. -/
theorem not_unlagged_of_increasing {input : ClientContinuousRealEncodedVideoFrameInput}
    (hemits : EmitsOneUnitPerFrame units ticks)
    (hincreasing : (capturedFrames ticks).Pairwise fun frame later =>
      frame.captureTimestamp < later.captureTimestamp)
    (h : SendsIn input ticks earlier tick sent) : ¬ Unlagged input earlier tick := by
  intro hunlagged
  obtain ⟨frame, -, -, later, hacquired, -, -, -, -, hframes⟩ := sendsIn_spec hemits h
  obtain ⟨oldest, holdest, heq⟩ := hunlagged frame hacquired
  rw [hframes, List.pairwise_append] at hincreasing
  have hlt := hincreasing.2.2 oldest (List.mem_of_getElem? holdest) frame List.mem_cons_self
  rw [heq] at hlt
  exact UInt64.lt_irrefl _ hlt

/-- The frames that are sent have the capture timestamps of their own pictures as far as the frames
that are submitted with them have the same. While capture timestamps increase, that is as long as
nothing is sent. -/
theorem persistentSender_carriesOwnTimestamps (input : ClientContinuousRealEncodedVideoFrameInput)
    (hemits : EmitsOneUnitPerFrame units ticks) :
    (CarriesOwnTimestamps units input ticks ↔
        ∀ earlier tick sent, SendsIn input ticks earlier tick sent → Unlagged input earlier tick) ∧
      (((capturedFrames ticks).Pairwise fun frame later => frame.captureTimestamp < later.captureTimestamp) →
        (CarriesOwnTimestamps units input ticks ↔
          ∀ earlier tick sent, ¬ SendsIn input ticks earlier tick sent)) := by
  have hiff := carriesOwnTimestamps_iff input hemits
  refine ⟨hiff, fun hincreasing => hiff.trans ?_⟩
  constructor
  · intro hunlagged earlier tick sent hsends
    exact not_unlagged_of_increasing hemits hincreasing hsends (hunlagged earlier tick sent hsends)
  · intro hnever earlier tick sent hsends
    exact absurd hsends (hnever earlier tick sent)

end Runs

section Sample

theorem startCodeLen_of_zeros {bytes : List UInt8} (h : ∀ byte ∈ bytes, byte = 0) :
    startCodeLen bytes = none := by
  have hone : (1 : UInt8) ∉ bytes := fun hmem => absurd (h 1 hmem) (by decide)
  unfold startCodeLen
  rw [if_neg, if_neg]
  · intro hshort
    exact hone ((List.isPrefixOf_iff_prefix.mp hshort).mem (by decide))
  · intro hlong
    exact hone ((List.isPrefixOf_iff_prefix.mp hlong).mem (by decide))

/-- A NAL unit without zero bytes, behind a long start code. -/
def plainFrame (body : List UInt8) (h : ∀ byte ∈ body, byte ≠ 0) : Framing.Frame startCode where
  head := [0, 0, 0, 1]
  body := body
  head_ne := List.cons_ne_nil 0 _
  head_marked := rfl
  head_partial := by
    intro part rest _ hrest ⟨before, hbefore⟩
    have hdrop := congrArg List.dropLast hbefore
    rw [← List.append_assoc, List.dropLast_append_of_ne_nil hrest, List.append_assoc] at hdrop
    refine startCodeLen_of_zeros fun byte hbyte => ?_
    have hmem : byte ∈ ([0, 0, 0] : List UInt8) := by
      show byte ∈ [0, 0, 0, 1].dropLast
      rw [← hdrop]
      exact List.mem_append_right before (List.mem_append_left _ hbyte)
    simpa using hmem
  body_clean := by
    intro part rest hpart hsuffix
    obtain ⟨byte, part, rfl⟩ := List.exists_cons_of_ne_nil hpart
    have hbyte : byte ≠ 0 := h byte (hsuffix.mem List.mem_cons_self)
    show startCodeLen (byte :: (part ++ rest)) = none
    simp [startCodeLen, List.isPrefixOf, Ne.symm hbyte]

def parameterSetNal (header : UInt8) (hheader : header = 0x67 ∨ header = 0x68) : AnnexBNal where
  frame := plainFrame [header, 0x42, 0x1e] (by rcases hheader with rfl | rfl <;> simp)
  nalUnit :=
    ⟨[0, 0, 0, 1, header, 0x42, 0x1e], 4, .fromNalUnitType (header &&& 0x1f), header &&& 0x1f, none⟩
  parsed := by rcases hheader with rfl | rfl <;> rfl

/-- A slice of a key frame, with its first macroblock. -/
def idrNal (picture : UInt8) (hpicture : picture = 0x80 ∨ picture = 0x84) : AnnexBNal where
  frame := plainFrame [0x65, 0x88, picture] (by rcases hpicture with rfl | rfl <;> simp)
  nalUnit := ⟨[0, 0, 0, 1, 0x65, 0x88, picture], 4, .idrSlice, 5, some 0⟩
  parsed := by rcases hpicture with rfl | rfl <;> rfl

/-- A key frame with its parameter sets. -/
def keyFrame (picture : UInt8) (hpicture : picture = 0x80 ∨ picture = 0x84) : EncodedAccessUnit where
  nals := [parameterSetNal 0x67 (.inl rfl), parameterSetNal 0x68 (.inr rfl), idrNal picture hpicture]
  begins := ⟨_, _, rfl, rfl⟩
  hasVcl := rfl
  whole := rfl

def rawFrame (captureTimestamp : TimestampMicros) : ClientRawCapturedVideoFrame :=
  ⟨captureTimestamp, 1, 1, 30, [0, 0, 0, 0]⟩

/-- A round that captures a frame, and in which the encoder answers with some bytes. -/
def encodingTick (captureTimestamp : TimestampMicros) (bytes : List UInt8) : PersistentTick where
  sendTimestamp := captureTimestamp
  acquired := .frameAcquired (rawFrame captureTimestamp)
  frameWaitElapsed := false
  spawn := .spawned
  pipes := ⟨.accepted, .ok bytes, none⟩
  send _ := .ok ()

def promptUnits : List EncodedAccessUnit := [keyFrame 0x80 (.inl rfl), keyFrame 0x84 (.inr rfl)]

/-- An encoder without latency, which writes each access unit when its frame is submitted. -/
def promptTicks (secondCapture : TimestampMicros) : List PersistentTick :=
  [encodingTick 100 (keyFrame 0x80 (.inl rfl)).bytes,
    encodingTick secondCapture (keyFrame 0x84 (.inr rfl)).bytes]

def senderInput : ClientContinuousRealEncodedVideoFrameInput where
  protocolVersion := 1
  clientId := "client-1"
  runId := "run-1"
  firstFrameId := 1
  encoderConfig := ⟨none, none, 0⟩
  policy := ⟨10, 10, 0, true, true⟩

theorem promptTicks_emits (secondCapture : TimestampMicros) :
    EmitsOneUnitPerFrame promptUnits (promptTicks secondCapture) where
  inOrder earlier hearlier := by
    have hmem : earlier ∈ (promptTicks secondCapture).inits := (List.mem_inits _ _).mpr hearlier
    simp only [promptTicks, List.inits, List.map_cons, List.map_nil, List.mem_cons, List.not_mem_nil,
      or_false] at hmem
    rcases hmem with rfl | rfl | rfl <;> exact List.prefix_refl _
  endsWhole earlier tick frame hearlier _ hread := by
    have hmem : tick ∈ promptTicks secondCapture := hearlier.mem (by simp)
    simp only [promptTicks, List.mem_cons, List.not_mem_nil, or_false] at hmem
    rcases hmem with rfl | rfl <;> cases hread

/-- The second round returns the first access unit. -/
theorem promptTicks_sends (secondCapture : TimestampMicros) (earlier : List PersistentTick)
    (tick : PersistentTick) (sent : VideoFrame)
    (h : SendsIn senderInput (promptTicks secondCapture) earlier tick sent) :
    earlier = (promptTicks secondCapture).take 1 ∧ some tick = (promptTicks secondCapture)[1]? := by
  obtain ⟨hinit, hsent⟩ := h
  match earlier, hinit with
  | [], hinit =>
    rw [List.nil_append, promptTicks, List.cons_prefix_cons] at hinit
    rw [hinit.1] at hsent
    have hwaits : (persistentTick senderInput (runPersistentSender senderInput []).1
        (encodingTick 100 (keyFrame 0x80 (.inl rfl)).bytes)).2 =
          some (.encodeUnavailable .realH264EncodeDeferred) := by decide +kernel
    cases hwaits.symm.trans hsent
  | [first], hinit =>
    rw [List.singleton_append, promptTicks, List.cons_prefix_cons, List.cons_prefix_cons] at hinit
    rw [hinit.1, hinit.2.1]
    exact ⟨rfl, rfl⟩
  | _ :: _ :: earlier, hinit =>
    have hlength := hinit.length_le
    simp only [promptTicks, List.length_append, List.length_cons, List.length_nil] at hlength
    omega

theorem persistentSender_carriesOwnTimestamps_sameCapture :
    CarriesOwnTimestamps promptUnits senderInput (promptTicks 100) := by
  refine (persistentSender_carriesOwnTimestamps senderInput (promptTicks_emits 100)).1.mpr ?_
  intro earlier tick sent hsends frame hframe
  obtain ⟨rfl, htick⟩ := promptTicks_sends 100 earlier tick sent hsends
  cases htick
  cases hframe
  exact ⟨rawFrame 100, by decide +kernel, rfl⟩

/-- The second frame is sent with the picture of the first and its own capture timestamp. -/
def laggingFrame : VideoFrame where
  messageType := .videoFrame
  protocolVersion := 1
  clientId := "client-1"
  runId := "run-1"
  frameId := 2
  captureTimestamp := 200
  sendTimestamp := 200
  isKeyframe := true
  metadataReserved := Vector.replicate 3 0
  width := 1
  height := 1
  fpsNominal := 30
  codec := .h264
  payloadSize := (keyFrame 0x80 (.inl rfl)).bytes.length
  payload := (keyFrame 0x80 (.inl rfl)).bytes

theorem persistentSender_lags :
    EmitsOneUnitPerFrame promptUnits (promptTicks 200) ∧
      ¬ CarriesOwnTimestamps promptUnits senderInput (promptTicks 200) := by
  refine ⟨promptTicks_emits 200, fun hcarries => ?_⟩
  have hsends : SendsIn senderInput (promptTicks 200) ((promptTicks 200).take 1)
      (encodingTick 200 (keyFrame 0x84 (.inr rfl)).bytes) laggingFrame :=
    ⟨List.prefix_refl _, by decide +kernel⟩
  obtain ⟨-, frame, -, -, hframe, hstamp⟩ := hcarries _ _ _ hsends
  have hfirst : (capturedFrames (promptTicks 200))[unitsReturned senderInput ((promptTicks 200).take 1)]? =
      some (rawFrame 100) := by decide +kernel
  cases hfirst.symm.trans hframe
  exact absurd hstamp (by decide)

end Sample

end StreamSync
