import StreamSync.ControlledPreviewRuns

namespace StreamSync

open Effect

/-- The view after a command. -/
@[irreducible] def ViewState.next (state : ViewState) (rawCommand : String) : ViewState :=
  (commandedView state rawCommand).getD state

@[irreducible] def asksToQuit (rawCommand : String) : Bool :=
  match parseFourViewControlCommand rawCommand with
  | .ok .quit => true
  | _ => false

@[irreducible] def isRefused (rawCommand : String) : Bool :=
  match parseFourViewControlCommand rawCommand with
  | .ok _ => false
  | .error _ => true

/-- The commands as far as the first that asks to quit. -/
def untilQuit : List (Nat × String) → List (Nat × String)
  | [] => []
  | command :: commands => if asksToQuit command.2 then [command] else command :: untilQuit commands

section Commands

variable {setup : ControlledPreviewSetup} {allowed : ServerQueuedVideoFrame → Prop}

/-- What a command in a view does and says. -/
structure ControlledPreviewSetup.Answers (setup : ControlledPreviewSetup)
    (allowed : ServerQueuedVideoFrame → Prop) (state : ViewState) (command : Nat × String)
    (before after : PreviewWorld) (outcome : ControlledCommandOutcome) : Prop where
  index : outcome.commandIndex = command.1
  view : outcome.summary.currentViewState = state.next command.2
  gave : setup.Gave allowed (state.next command.2) before after outcome.pictures
  quit : outcome.summary.exitReason = if asksToQuit command.2 then "QuitRequested" else "none"
  refused : outcome.summary.transitionResult = "Rejected" ↔ isRefused command.2 = true
  rendered : ∀ rendered, outcome.rendered = some rendered → ∃ (ticks : ControlledPreviewTicks) (unshown : Nat),
    rendered = ticks.rendered (state.next command.2) ∧
      ticks.Counts (state.next command.2) setup.maxTicksPerCommand.1.toNat outcome.pictures unshown
  renders : outcome.rendered.isSome = (commandedView state command.2).isSome
  idle : outcome.rendered = none → outcome.pictures = []
  summary : ∃ render, PlainRender render ∧
    outcome.summary = runFourViewControlCommandIteration (fun _ => render) state command.2

/-- The commands one after another, each in the view that the one before it left. -/
inductive ControlledPreviewSetup.Ran (setup : ControlledPreviewSetup)
    (allowed : ServerQueuedVideoFrame → Prop) :
    ViewState → PreviewWorld → List (Nat × String) → List ControlledCommandOutcome → PreviewWorld → Prop
  | nil {state : ViewState} {world : PreviewWorld} : Ran setup allowed state world [] [] world
  | cons {state : ViewState} {command : Nat × String} {commands : List (Nat × String)}
    {before mid after : PreviewWorld} {outcome : ControlledCommandOutcome}
    {outcomes : List ControlledCommandOutcome}
    (answers : setup.Answers allowed state command before mid outcome)
    (rest : Ran setup allowed (state.next command.2) mid commands outcomes after) :
    Ran setup allowed state before (command :: commands) (outcome :: outcomes) after

theorem focus_valid {rawCommand : String} {slotIndex : Nat}
    (h : parseFourViewControlCommand rawCommand = .ok (.focus slotIndex)) : slotIndex < 4 := by
  unfold parseFourViewControlCommand at h
  dsimp only at h
  split at h
  next => simp at h
  next =>
    split at h
    next => split at h <;> simp at h
    next =>
      split at h
      next => split at h <;> simp at h
      next =>
        split at h
        next => split at h <;> simp at h
        next =>
          split at h
          next =>
            split at h
            next => simp at h
            next =>
              split at h
              next => simp at h
              next =>
                split at h
                next => simp at h
                next =>
                  split at h
                  next => simp at h
                  next hle =>
                    simp only [Except.ok.injEq, SwitcherFourViewControlledPreviewCommand.focus.injEq] at h
                    omega
          next => simp at h

theorem valid_commandedView {state view : ViewState} {rawCommand : String} (hstate : state.Valid)
    (h : commandedView state rawCommand = some view) : view.Valid := by
  unfold commandedView at h
  split at h
  next =>
    cases h
    intro slotIndex hview
    cases hview
  next slotIndex hparse =>
    cases h
    intro slotIndex' hview
    cases hview
    exact focus_valid hparse
  next =>
    cases h
    exact hstate
  next => cases h
  next => cases h

theorem valid_next {state : ViewState} (hstate : state.Valid) (rawCommand : String) :
    (state.next rawCommand).Valid := by
  unfold ViewState.next
  cases hview : commandedView state rawCommand with
  | none => exact hstate
  | some view => exact valid_commandedView hstate hview

/-- What the summary of a command says, whatever was rendered. -/
theorem summary_spec (render : ViewState → FourViewControlledPreviewRenderOutcome) (state : ViewState)
    (rawCommand : String) :
    (runFourViewControlCommandIteration render state rawCommand).currentViewState = state.next rawCommand ∧
      (runFourViewControlCommandIteration render state rawCommand).exitReason =
        (if asksToQuit rawCommand then "QuitRequested" else "none") ∧
      ((runFourViewControlCommandIteration render state rawCommand).transitionResult = "Rejected" ↔
        isRefused rawCommand = true) := by
  unfold runFourViewControlCommandIteration ViewState.next commandedView asksToQuit isRefused
  cases parseFourViewControlCommand rawCommand with
  | error error => simp [unrenderedSummary]
  | ok command =>
    cases command with
    | all =>
      refine ⟨rfl, rfl, ?_⟩
      dsimp only [renderedSummary]
      split <;> simp
    | focus slotIndex =>
      refine ⟨rfl, rfl, ?_⟩
      dsimp only [renderedSummary]
      split <;> simp
    | status => simp [renderedSummary]
    | quit => simp [unrenderedSummary]

theorem renderControlledState_spec (hdecodes : setup.Decodable allowed) {view : ViewState} (hview : view.Valid)
    {world : PreviewWorld} (hwatch : Watchable allowed world.handoff) :
    Succeeds (setup.renderControlledState view) world fun rendered world' => ∃ pictures ticks unshown,
      setup.Gave allowed view world world' pictures ∧ ticks.Plain ∧
        rendered = ControlledPreviewTicks.rendered view ticks ∧
        ticks.Counts view setup.maxTicksPerCommand.1.toNat pictures unshown := by
  have hstart : setup.TicksStand allowed view world 0 (.start view) world :=
    ⟨plain_start view, [], 0, ⟨.refl hwatch, (List.append_nil _).symm, fun _ hp => by cases hp⟩,
      Nat.le_refl 0, fun _ => rfl, rfl, rfl⟩
  have hrun : Succeeds (setup.runTicks view setup.maxTicksPerCommand.1.toNat (.start view)) world
      (setup.TicksStand allowed view world (0 + setup.maxTicksPerCommand.1.toNat)) :=
    succeeds_iterate (fun _ => rfl) (fun _ _ => rfl) (fun _ _ _ h => tick_stands hdecodes hview h) hstart _
  refine Succeeds.bind (hrun.mono fun ticks world' h => ?_)
  obtain ⟨hplain, pictures, unshown, hgave, hcounts⟩ := h
  rw [Nat.zero_add] at hcounts
  exact succeeds_pure ⟨pictures, ticks, unshown, hgave, hplain, rfl, hcounts⟩

theorem plain_nothingRendered : PlainRender nothingRendered :=
  ⟨(by decide : PlainValue "none"), (by decide : PlainValue "none"), (by decide : PlainValue "NotApplicable"),
    (by decide : PlainValue "none"), (by decide : PlainValue "not_applicable")⟩

theorem runCommand_spec (hdecodes : setup.Decodable allowed) {state : ViewState} (hstate : state.Valid)
    (command : Nat × String) {world : PreviewWorld} (hwatch : Watchable allowed world.handoff) :
    Succeeds (setup.runCommand command.1 state command.2) world (fun outcome world' =>
      setup.Answers allowed state command world world' outcome) := by
  cases hview : commandedView state command.2 with
  | none =>
    obtain ⟨hcurrent, hquit, hrefused⟩ := summary_spec (fun _ => nothingRendered) state command.2
    refine ⟨⟨command.1, commandLabels command.2,
      runFourViewControlCommandIteration (fun _ => nothingRendered) state command.2, none, []⟩, world, ?_, ?_⟩
    · unfold ControlledPreviewSetup.runCommand
      rw [hview]
    · exact {
        index := rfl
        view := hcurrent
        gave := ⟨.refl hwatch, (List.append_nil _).symm, fun _ hp => by cases hp⟩
        quit := hquit
        refused := hrefused
        rendered := fun rendered h => by cases h
        renders := by rw [hview]; rfl
        idle := fun _ => rfl
        summary := ⟨nothingRendered, plain_nothingRendered, by dsimp only⟩ }
  | some view =>
    obtain ⟨rendered, world', hrun, pictures, ticks, unshown, hgave, hplain, hrendered, hcounts⟩ :=
      renderControlledState_spec hdecodes (valid_commandedView hstate hview) hwatch
    obtain ⟨hcurrent, hquit, hrefused⟩ := summary_spec (fun _ => rendered.outcome) state command.2
    have hnext : state.next command.2 = view := by
      rw [ViewState.next, hview]
      rfl
    have hpictures : world'.shown.drop world.shown.length = pictures := by
      rw [hgave.shown, List.drop_left]
    refine ⟨⟨command.1, commandLabels command.2,
      runFourViewControlCommandIteration (fun _ => rendered.outcome) state command.2, some rendered, pictures⟩,
      world', ?_, ?_⟩
    · unfold ControlledPreviewSetup.runCommand
      rw [hview]
      dsimp only
      rw [hrun]
      dsimp only
      rw [hpictures]
    · exact {
        index := rfl
        view := hcurrent
        gave := by rwa [hnext]
        quit := hquit
        refused := hrefused
        rendered := fun rendered' h => by
          cases h
          rw [hnext]
          exact ⟨ticks, unshown, hrendered, hcounts⟩
        renders := by rw [hview]; rfl
        idle := fun h => by cases h
        summary := ⟨rendered.outcome, by rw [hrendered]; exact hplain.rendered view, by dsimp only⟩ }

theorem quit_record (loop : ControlledPreviewLoop) {state : ViewState} {command : Nat × String}
    {before after : PreviewWorld} {outcome : ControlledCommandOutcome}
    (h : setup.Answers allowed state command before after outcome) :
    (loop.record outcome).quit = asksToQuit command.2 := by
  unfold ControlledPreviewLoop.quit ControlledPreviewLoop.record
  rw [List.getLast?_concat, Option.any_some, h.quit]
  cases asksToQuit command.2 <;> simp

theorem runCommands_of_quit {commands : List (Nat × String)} {loop : ControlledPreviewLoop}
    (h : loop.quit = true) : setup.runCommands commands loop = pure loop := by
  cases commands with
  | nil => rfl
  | cons command commands => exact if_pos h

/-- The loop takes the commands as far as the first that asks to quit, each in the view that the one before it
left, and records what each says. -/
theorem runCommands_spec (hdecodes : setup.Decodable allowed) {commands : List (Nat × String)}
    {loop : ControlledPreviewLoop} (hquit : loop.quit = false) (hview : loop.finalViewState.Valid)
    {world : PreviewWorld} (hwatch : Watchable allowed world.handoff) :
    Succeeds (setup.runCommands commands loop) world fun loop' world' => ∃ outcomes,
      setup.Ran allowed loop.finalViewState world (untilQuit commands) outcomes world' ∧
        loop' = outcomes.foldl ControlledPreviewLoop.record loop ∧
        loop'.quit = (untilQuit commands).any fun command => asksToQuit command.2 := by
  induction commands generalizing loop world with
  | nil => exact succeeds_pure ⟨[], .nil, rfl, hquit⟩
  | cons command commands ih =>
    have hstep : setup.runCommands (command :: commands) loop =
        setup.runCommand command.1 loop.finalViewState command.2 >>= fun outcome =>
          setup.runCommands commands (loop.record outcome) := if_neg (by rw [hquit]; exact Bool.false_ne_true)
    rw [hstep]
    refine Succeeds.bind ((runCommand_spec hdecodes hview command hwatch).mono fun outcome mid hanswers => ?_)
    have hleft := quit_record loop hanswers
    have hnext : (loop.record outcome).finalViewState = loop.finalViewState.next command.2 := hanswers.view
    cases hasks : asksToQuit command.2 with
    | true =>
      rw [runCommands_of_quit (hleft.trans hasks)]
      refine succeeds_pure ⟨[outcome], ?_, rfl, ?_⟩
      · rw [untilQuit, if_pos hasks]
        exact .cons hanswers .nil
      · rw [untilQuit, if_pos hasks, List.any_cons, List.any_nil, Bool.or_false]
        exact hleft
    | false =>
      have hvalid : (loop.record outcome).finalViewState.Valid := by
        rw [hnext]
        exact valid_next hview _
      refine (ih (hleft.trans hasks) hvalid hanswers.gave.undisturbed.watchable).mono fun loop' after h => ?_
      obtain ⟨outcomes, hran, rfl, hquit'⟩ := h
      have huntil : untilQuit (command :: commands) = command :: untilQuit commands :=
        if_neg (by rw [hasks]; exact Bool.false_ne_true)
      refine ⟨outcome :: outcomes, ?_, rfl, ?_⟩
      · rw [hnext] at hran
        rw [huntil]
        exact .cons hanswers hran
      · rw [huntil, List.any_cons, hasks, Bool.false_or]
        exact hquit'

/-- What is left of some commands in the counters, the pictures and the view. -/
structure Recorded (state : ViewState) (commands : List (Nat × String)) (outcomes : List ControlledCommandOutcome)
    (before after : ControlledPreviewLoop) : Prop where
  kept : after.outcomes = before.outcomes ++ outcomes
  view : after.finalViewState = commands.foldl (fun view command => view.next command.2) state
  processed : after.commandsProcessed = before.commandsProcessed + UInt32.ofNat commands.length
  refused : after.commandsRejected =
    before.commandsRejected + UInt32.ofNat (commands.countP fun command => isRefused command.2)
  rendered : after.framesRenderedTotal = before.framesRenderedTotal +
    UInt32.ofNat ((outcomes.flatMap (·.pictures)).countP ShownPicture.rendered)
  exitReason : after.exitReason =
    if commands.any fun command => asksToQuit command.2 then "QuitRequested" else before.exitReason

theorem commandsProcessed_record (loop : ControlledPreviewLoop) (outcome : ControlledCommandOutcome) :
    (loop.record outcome).commandsProcessed = loop.commandsProcessed + UInt32.ofNat 1 := rfl

theorem commandsRejected_record (loop : ControlledPreviewLoop) {state : ViewState} {command : Nat × String}
    {before after : PreviewWorld} {outcome : ControlledCommandOutcome}
    (h : setup.Answers allowed state command before after outcome) :
    (loop.record outcome).commandsRejected =
      loop.commandsRejected + UInt32.ofNat (if isRefused command.2 = true then 1 else 0) := by
  unfold ControlledPreviewLoop.record
  dsimp only
  simp only [h.refused]
  split
  next => rfl
  next => exact (UInt32.add_zero _).symm

theorem exitReason_record (loop : ControlledPreviewLoop) {state : ViewState} {command : Nat × String}
    {before after : PreviewWorld} {outcome : ControlledCommandOutcome}
    (h : setup.Answers allowed state command before after outcome) :
    (loop.record outcome).exitReason = if asksToQuit command.2 then "QuitRequested" else loop.exitReason := by
  unfold ControlledPreviewLoop.record
  dsimp only
  rw [h.quit]
  cases asksToQuit command.2 <;> simp

theorem framesRenderedTotal_record (loop : ControlledPreviewLoop) {state : ViewState} {command : Nat × String}
    {before after : PreviewWorld} {outcome : ControlledCommandOutcome}
    (h : setup.Answers allowed state command before after outcome) :
    (loop.record outcome).framesRenderedTotal =
      loop.framesRenderedTotal + UInt32.ofNat (outcome.pictures.countP ShownPicture.rendered) := by
  unfold ControlledPreviewLoop.record
  dsimp only
  cases hrendered : outcome.rendered with
  | none =>
    rw [h.idle hrendered]
    exact (UInt32.add_zero _).symm
  | some rendered =>
    obtain ⟨ticks, unshown, rfl, hcounts⟩ := h.rendered rendered hrendered
    rw [← hcounts.rendered]
    rfl

theorem ran_recorded {state : ViewState} {commands : List (Nat × String)} {world after : PreviewWorld}
    {outcomes : List ControlledCommandOutcome} (h : setup.Ran allowed state world commands outcomes after)
    {loop : ControlledPreviewLoop} (hview : loop.finalViewState = state) (hwatch : Watchable allowed world.handoff) :
    Recorded state commands outcomes loop (outcomes.foldl ControlledPreviewLoop.record loop) ∧
      Undisturbed allowed world after ∧ after.shown = world.shown ++ outcomes.flatMap (·.pictures) := by
  induction h generalizing loop with
  | nil =>
    refine ⟨⟨?_, ?_, ?_, ?_, ?_, ?_⟩, .refl hwatch, ?_⟩
    · exact (List.append_nil _).symm
    · exact hview
    · simp
    · simp
    · simp
    · rw [List.any_nil, if_neg Bool.false_ne_true, List.foldl_nil]
    · exact (List.append_nil _).symm
  | @cons state command commands before mid after outcome outcomes hanswers _ ih =>
    have hnext : (loop.record outcome).finalViewState = state.next command.2 := hanswers.view
    obtain ⟨hrecorded, hundisturbed, hshown⟩ := ih hnext hanswers.gave.undisturbed.watchable
    refine ⟨⟨?_, ?_, ?_, ?_, ?_, ?_⟩, hanswers.gave.undisturbed.trans hundisturbed, ?_⟩
    · rw [List.foldl_cons, hrecorded.kept]
      exact List.append_assoc _ _ _
    · rw [List.foldl_cons, hrecorded.view, List.foldl_cons]
    · rw [List.foldl_cons, hrecorded.processed, commandsProcessed_record, List.length_cons, UInt32.add_assoc,
        ← UInt32.ofNat_add, Nat.add_comm]
    · rw [List.foldl_cons, hrecorded.refused, commandsRejected_record loop hanswers, List.countP_cons,
        UInt32.add_assoc, ← UInt32.ofNat_add, Nat.add_comm]
    · rw [List.foldl_cons, hrecorded.rendered, framesRenderedTotal_record loop hanswers, List.flatMap_cons,
        List.countP_append, UInt32.ofNat_add, UInt32.add_assoc]
    · rw [List.foldl_cons, hrecorded.exitReason, exitReason_record loop hanswers, List.any_cons]
      cases asksToQuit command.2 with
      | true => rw [Bool.true_or, if_pos rfl, ite_self]
      | false => rw [Bool.false_or, if_neg Bool.false_ne_true]
    · rw [hshown, hanswers.gave.shown, List.flatMap_cons, List.append_assoc]

end Commands

/-- How the preview has dealt with the commands of a source that ends with the reason. -/
structure ControlledPreviewSetup.Dealt (setup : ControlledPreviewSetup)
    (allowed : ServerQueuedVideoFrame → Prop) (commands : List (Nat × String)) (ended : String)
    (before after : PreviewWorld) (loop : ControlledPreviewLoop) : Prop where
  ran : setup.Ran allowed .allView before (untilQuit commands) loop.outcomes after
  undisturbed : Undisturbed allowed before after
  shown : after.shown = before.shown ++ loop.outcomes.flatMap (·.pictures)
  view : loop.finalViewState = (untilQuit commands).foldl (fun view command => view.next command.2) .allView
  processed : loop.commandsProcessed = UInt32.ofNat (untilQuit commands).length
  refused : loop.commandsRejected =
    UInt32.ofNat ((untilQuit commands).countP fun command => isRefused command.2)
  rendered : loop.framesRenderedTotal = UInt32.ofNat (after.shown.drop before.shown.length |>.countP
    ShownPicture.rendered)
  exitReason : loop.exitReason =
    if (untilQuit commands).any fun command => asksToQuit command.2 then "QuitRequested" else ended

/-- The commands of the standard input: its lines but the blank ones, each with the number of its line. -/
def stdinCommands (lines : List String) : List (Nat × String) :=
  (lines.zipIdx.map fun line => (line.2, trimText line.1)).filter fun command => !command.2.isEmpty

section Sources

variable {setup : ControlledPreviewSetup} {allowed : ServerQueuedVideoFrame → Prop}

theorem start_runCommands (hdecodes : setup.Decodable allowed) (commands : List (Nat × String))
    {world : PreviewWorld} (hwatch : Watchable allowed world.handoff) :
    Succeeds (setup.runCommands commands .start) world fun loop world' =>
      setup.Dealt allowed commands "CommandSequenceCompleted" world world' loop ∧
        loop.quit = (untilQuit commands).any fun command => asksToQuit command.2 := by
  have hvalid : ControlledPreviewLoop.start.finalViewState.Valid := fun _ h => by cases h
  refine (runCommands_spec hdecodes rfl hvalid hwatch).mono fun loop world' h => ?_
  obtain ⟨outcomes, hran, rfl, hquit⟩ := h
  obtain ⟨hrecorded, hundisturbed, hshown⟩ := ran_recorded hran rfl hwatch
  have houtcomes : (outcomes.foldl ControlledPreviewLoop.record .start).outcomes = outcomes := hrecorded.kept
  refine ⟨⟨?_, hundisturbed, ?_, hrecorded.view, ?_, ?_, ?_, hrecorded.exitReason⟩, hquit⟩
  · rw [houtcomes]
    exact hran
  · rw [houtcomes]
    exact hshown
  · rw [hrecorded.processed]
    exact UInt32.zero_add _
  · rw [hrecorded.refused]
    exact UInt32.zero_add _
  · rw [hrecorded.rendered, hshown, List.drop_left]
    exact UInt32.zero_add _

theorem ControlledPreviewSetup.Dealt.ending {commands : List (Nat × String)} {before after : PreviewWorld}
    {loop : ControlledPreviewLoop} {ended ended' : String} (h : setup.Dealt allowed commands ended before after loop)
    (hnone : ((untilQuit commands).any fun command => asksToQuit command.2) = false) :
    setup.Dealt allowed commands ended' before after { loop with exitReason := ended' } where
  ran := h.ran
  undisturbed := h.undisturbed
  shown := h.shown
  view := h.view
  processed := h.processed
  refused := h.refused
  rendered := h.rendered
  exitReason := by rw [hnone, if_neg Bool.false_ne_true]

theorem ControlledPreviewSetup.Dealt.quitting {commands : List (Nat × String)} {before after : PreviewWorld}
    {loop : ControlledPreviewLoop} {ended : String} (h : setup.Dealt allowed commands ended before after loop)
    (hany : ((untilQuit commands).any fun command => asksToQuit command.2) = true) (ended' : String) :
    loop.exitReason = "QuitRequested" ∧ setup.Dealt allowed commands ended' before after loop := by
  have hreason := h.exitReason
  rw [hany, if_pos rfl] at hreason
  exact ⟨hreason, { h with exitReason := by rw [hreason, hany, if_pos rfl] }⟩

/-- What the standard input ends with. -/
def stdinEnd (failure : Option String) : String :=
  match failure with
  | some error => s!"StdinReadError:{sanitizeSummaryValue error}"
  | none => "EndOfInput"

theorem stdinEnd_ne (failure : Option String) : stdinEnd failure ≠ "CommandSequenceCompleted" := by
  cases failure with
  | none => simp [stdinEnd]
  | some error =>
    intro h
    have hhead := congrArg (fun text : String => text.toList.head?) h
    simp only [stdinEnd, String.toList_append] at hhead
    cases hhead

theorem one_ne_zero_u32 : (1 : UInt32) ≠ 0 := by decide

/-- A decoder process that gives a grey picture of the size asked for. -/
def greyProcess (input : SwitcherH264DecodeInput) : OneShotProcess where
  spawn := .ok ()
  write := .ok ()
  stdoutPiped := true
  stderrPiped := true
  stdout := pieceStdout [List.replicate (outputExpectedBytes input.width input.height).toNat 128] false
  wait := .ok ⟨true, some 0, "exit status: 0"⟩
  stderr := some (.ok "")

/-- Four slots of one camera; the third decode finds no decoder. -/
def oneCameraPreview : ControlledPreviewSetup where
  clients _ := ("c", "r")
  maxTicksPerCommand := ⟨1, one_ne_zero_u32⟩
  targetTimestamp := 500
  process count input :=
    if count = 2 then { greyProcess input with spawn := .error ⟨.notFound, "no decoder"⟩ } else greyProcess input
  window _ _ := .rendered

/-- A frame of the camera is stored before the first request. -/
def oneStoreWorld : PreviewWorld :=
  ⟨.start .empty [⟨[⟨sampleFrame "c" "r" 1 true, 10, .default⟩], .served⟩] 1, 0, []⟩

/-- What the server may store of the camera. -/
def OfCamera (queued : ServerQueuedVideoFrame) : Prop :=
  queued.frame.clientId = "c" ∧ queued.frame.width = 640 ∧ queued.frame.height = 360

theorem oneCameraPreview_decodable : oneCameraPreview.Decodable OfCamera where
  fits queued hqueued := by
    rw [hqueued.2.1, hqueued.2.2]
    decide
  closes count input := by
    unfold oneCameraPreview
    dsimp only
    split <;> rfl

theorem oneStoreWorld_watchable : Watchable OfCamera oneStoreWorld.handoff := by
  refine ⟨⟨[], .empty, fun _ h => by cases h⟩, fun turn hturn call hcall => ?_⟩
  have hfits : (sampleFrame "c" "r" 1 true).Fits := ⟨by decide, by decide, by decide, rfl⟩
  cases List.mem_singleton.mp hturn
  cases List.mem_singleton.mp hcall
  exact ⟨rfl, hfits, rfl, rfl, rfl⟩

end Sources

end StreamSync
