import Mathlib.Logic.Relation
import StreamSync.OperatorConsole

namespace StreamSync

open Effect

section Messages

open PipeReading

variable (utf8Error : List UInt8 → IoError)

/-- A read returns where the other end is closed in the end. -/
theorem readLengthPrefixedUtf8Message_returns {pipe : BytePipe} (hclosed : pipe.heldOpen = false) :
    (readLengthPrefixedUtf8Message utf8Error pipe).1 ≠ .blocked := by
  have hframe : (readLengthPrefixedFrame pipe).1 ≠ .blocked := by
    by_cases hsome : ∃ frame, lengthPrefixedFormat.IsFrame frame ∧ frame <+: bytesOf pipe
    · obtain ⟨frame, hframe⟩ := hsome
      rw [(readLengthPrefixedFrame_ok_iff pipe).mpr hframe]
      exact fun h => by cases h
    · rw [readLengthPrefixedFrame_short pipe fun frame h hfront => hsome ⟨frame, h, hfront⟩, hclosed]
      unfold shortEnding
      cases failure isInterrupted pipe.deliveries <;> exact fun h => by cases h
  unfold readLengthPrefixedUtf8Message
  cases hread : readLengthPrefixedFrame pipe with
  | mk result rest =>
    rw [hread] at hframe
    cases result with
    | ok frame =>
      dsimp only
      split <;> exact fun h => by cases h
    | err error => exact fun h => by cases h
    | blocked => exact absurd rfl hframe

/-- What one end has written of a message is read at the other as the message, where the bytes fit and come, or
not at all. -/
theorem read_writtenBytes_iff (direction : PipeDirection) (heldOpen : Bool) {sent received : String} :
    (readLengthPrefixedUtf8Message utf8Error (direction.pipe heldOpen (writtenBytes sent))).1 = .ok received ↔
      received = sent ∧ (asBytes sent).length < 2 ^ 32 ∧ direction.Whole (writtenBytes sent) := by
  unfold writtenBytes
  cases hsent : lengthPrefixedUtf8Message sent with
  | ok bytes =>
    have hfits := (lengthPrefixedUtf8Message_ok_iff.mp hsent).1
    change (readLengthPrefixedUtf8Message utf8Error (direction.pipe heldOpen bytes)).1 = .ok received ↔
      received = sent ∧ (asBytes sent).length < 2 ^ 32 ∧ direction.Whole bytes
    rw [direction.readLengthPrefixedUtf8Message_pipe_iff heldOpen utf8Error hsent, and_iff_right hfits]
  | error error =>
    have hlong : ¬ (asBytes sent).length < 2 ^ 32 := fun hfits => by
      rw [lengthPrefixedUtf8Message_ok_iff.mpr ⟨hfits, rfl⟩] at hsent
      cases hsent
    refine iff_of_false (fun h => ?_) fun h => hlong h.2.1
    obtain ⟨written, hwritten, hfront⟩ := (readLengthPrefixedUtf8Message_ok_iff _ utf8Error).mp h
    have hframe := isFrame_lengthPrefixedUtf8Message hwritten
    have hnone : written = [] := List.prefix_nil.mp (hfront.trans (direction.honest []))
    rw [hnone] at hframe
    exact absurd hframe.1 (by decide)

end Messages

section Preview

variable {setup : ControlledPreviewSetup} {allowed : ServerQueuedVideoFrame → Prop}
  {utf8Error : List UInt8 → IoError} {pipeName : String}

/-- What came over a connection as a command. -/
def ControlConnection.Brings (connection : ControlConnection) (utf8Error : List UInt8 → IoError)
    (rawCommand : String) : Prop :=
  (readLengthPrefixedUtf8Message utf8Error connection.arriving).1 = .ok rawCommand

def HandledCommand.response (handled : HandledCommand) : String :=
  formatFourViewControlPipeCommandResponse handled.command handled.outcome.summary

/-- What a connection leaves: no command was read, or one was handled and its answer was written or not. -/
inductive ControlledPreviewSetup.Served (setup : ControlledPreviewSetup)
    (allowed : ServerQueuedVideoFrame → Prop) (client : ControlClient) (trimmed : String → Prop)
    (preview : ControlPipePreview) (world : PreviewWorld) :
    Option String → ControlPipePreview → PreviewWorld → Prop
  | failed (error : IoError) : Served setup allowed client trimmed preview world none (preview.failed error) world
  | stuck : Served setup allowed client trimmed preview world none { preview with status := .stuck } world
  | unanswered {handled : HandledCommand} {after : PreviewWorld} (error : IoError)
    (origin : handled.client = client) (command : trimmed handled.command)
    (answers : setup.Answers allowed preview.loop.finalViewState
      (preview.loop.outcomes.length, handled.command) world after handled.outcome) :
    Served setup allowed client trimmed preview world (some handled.response)
      (ControlPipePreview.failed ⟨{ preview.loop with finalViewState := handled.outcome.summary.currentViewState },
        preview.status, preview.handled ++ [handled]⟩ error) after
  | answered {handled : HandledCommand} {after : PreviewWorld}
    (origin : handled.client = client) (command : trimmed handled.command)
    (answers : setup.Answers allowed preview.loop.finalViewState
      (preview.loop.outcomes.length, handled.command) world after handled.outcome) :
    Served setup allowed client trimmed preview world (some handled.response)
      ⟨preview.loop.record handled.outcome, if asksToQuit handled.command then .over else .serving,
        preview.handled ++ [handled]⟩ after

theorem ControlledPreviewSetup.Served.imp {client : ControlClient} {trimmed trimmed' : String → Prop}
    {preview preview' : ControlPipePreview} {world world' : PreviewWorld} {response : Option String}
    (h : setup.Served allowed client trimmed preview world response preview' world')
    (himp : ∀ command, trimmed command → trimmed' command) :
    setup.Served allowed client trimmed' preview world response preview' world' := by
  cases h with
  | failed error => exact .failed error
  | stuck => exact .stuck
  | unanswered error origin command answers => exact .unanswered error origin (himp _ command) answers
  | answered origin command answers => exact .answered origin (himp _ command) answers

variable (utf8Error pipeName) in
theorem serve_spec (hdecodes : setup.Decodable allowed) (client : ControlClient) (connection : ControlConnection)
    {preview : ControlPipePreview} (hview : preview.loop.finalViewState.Valid) {world : PreviewWorld}
    (hwatch : Watchable allowed world.handoff) :
    Succeeds (setup.serve utf8Error pipeName client connection preview) world fun served world' =>
      setup.Served allowed client (fun trimmed => ∃ rawCommand, connection.Brings utf8Error rawCommand ∧
        trimmed = trimText rawCommand) preview world served.1 served.2 world' := by
  unfold ControlledPreviewSetup.serve
  split
  next error _ => exact succeeds_pure (.failed error)
  next =>
    split
    next => exact succeeds_pure .stuck
    next error _ => exact succeeds_pure (.failed error)
    next rawCommand hbrings =>
      refine Succeeds.bind ((runCommand_spec hdecodes hview (preview.loop.outcomes.length, trimText rawCommand)
        hwatch).mono fun outcome after hanswers => ?_)
      have hcommand : ∃ raw, connection.Brings utf8Error raw ∧ trimText rawCommand = trimText raw :=
        ⟨rawCommand, hbrings, rfl⟩
      dsimp only
      split
      next error _ =>
        exact succeeds_pure (@ControlledPreviewSetup.Served.unanswered setup allowed client _ preview world
          ⟨client, trimText rawCommand, outcome⟩ after error rfl hcommand hanswers)
      next =>
        rw [quit_record preview.loop hanswers]
        exact succeeds_pure (@ControlledPreviewSetup.Served.answered setup allowed client _ preview world
          ⟨client, trimText rawCommand, outcome⟩ after rfl hcommand hanswers)

theorem ControlledPreviewSetup.Ran.snoc {state : ViewState} {commands : List (Nat × String)}
    {before mid after : PreviewWorld} {outcomes : List ControlledCommandOutcome}
    (h : setup.Ran allowed state before commands outcomes mid) {command : Nat × String}
    {outcome : ControlledCommandOutcome}
    (hanswers : setup.Answers allowed (commands.foldl (fun view command => view.next command.2) state) command mid
      after outcome) :
    setup.Ran allowed state before (commands ++ [command]) (outcomes ++ [outcome]) after := by
  induction h with
  | nil => exact .cons hanswers .nil
  | cons hfirst _ ih => exact .cons hfirst (ih hanswers)

/-- The command as the loop numbered it. -/
def HandledCommand.numbered (handled : HandledCommand) : Nat × String :=
  (handled.outcome.commandIndex, handled.command)

/-- How the preview stands, of whose commands some were counted and another one was not answered. -/
structure ControlPipePreview.Stands (preview : ControlPipePreview) (setup : ControlledPreviewSetup)
    (allowed : ServerQueuedVideoFrame → Prop) (start world : PreviewWorld)
    (counted unanswered : List HandledCommand) : Prop where
  handled : preview.handled = counted ++ unanswered
  one : unanswered.length ≤ 1
  ended : unanswered ≠ [] → preview.status = .over
  ran : setup.Ran allowed .allView start (preview.handled.map HandledCommand.numbered)
    (preview.handled.map HandledCommand.outcome) world
  view : preview.loop.finalViewState =
    preview.handled.foldl (fun view handled => view.next handled.command) .allView
  outcomes : preview.loop.outcomes = counted.map HandledCommand.outcome
  processed : preview.loop.commandsProcessed = UInt32.ofNat counted.length
  refused : preview.loop.commandsRejected =
    UInt32.ofNat (counted.countP fun handled => isRefused handled.command)
  going : preview.status ≠ .over → ∀ handled ∈ preview.handled, asksToQuit handled.command = false
  quits : ∀ handled ∈ preview.handled.dropLast, asksToQuit handled.command = false
  reason : preview.loop.exitReason = "QuitRequested" ↔
    ∃ last, counted.getLast? = some last ∧ asksToQuit last.command = true

namespace ControlPipePreview.Stands

variable {preview : ControlPipePreview} {start world : PreviewWorld} {counted unanswered : List HandledCommand}

theorem start_stands (world : PreviewWorld) :
    ControlPipePreview.start.Stands setup allowed world world [] [] where
  handled := rfl
  one := Nat.zero_le 1
  ended h := absurd rfl h
  ran := .nil
  view := rfl
  outcomes := rfl
  processed := rfl
  refused := rfl
  going _ _ h := by cases h
  quits _ h := by cases h
  reason := iff_of_false (by decide) fun ⟨_, h, _⟩ => by cases h

theorem folded (h : preview.Stands setup allowed start world counted unanswered) :
    preview.loop.finalViewState =
      (preview.handled.map HandledCommand.numbered).foldl (fun view command => view.next command.2) .allView := by
  rw [h.view, List.foldl_map]
  rfl

theorem valid (h : preview.Stands setup allowed start world counted unanswered) :
    preview.loop.finalViewState.Valid := by
  have hfold (handled : List HandledCommand) (state : ViewState) (hstate : state.Valid) :
      (handled.foldl (fun view handled => view.next handled.command) state).Valid := by
    induction handled generalizing state with
    | nil => exact hstate
    | cons first handled ih => exact ih _ (valid_next hstate _)
  rw [h.view]
  exact hfold _ _ fun _ hview => by cases hview

theorem undisturbed (h : preview.Stands setup allowed start world counted unanswered)
    (hwatch : Watchable allowed start.handoff) : Undisturbed allowed start world :=
  (@ran_recorded _ _ _ _ _ _ _ h.ran .start rfl hwatch).2.1

theorem unanswered_nil (h : preview.Stands setup allowed start world counted unanswered)
    (hserving : preview.status ≠ .over) : unanswered = [] := by
  by_contra hne
  exact hserving (h.ended hne)

theorem failed_ne_quit (error : IoError) :
    s!"ControlPipeRuntimeError:{sanitizeSummaryValue error.message}" ≠ "QuitRequested" := by
  intro h
  have hhead := congrArg (fun text : String => text.toList.head?) h
  simp only [String.toList_append] at hhead
  cases hhead

theorem failed (h : preview.Stands setup allowed start world counted unanswered)
    (hserving : preview.status = .serving) (error : IoError) :
    (preview.failed error).Stands setup allowed start world counted [] := by
  have hgoing : preview.status ≠ .over := by
    rw [hserving]
    decide
  have hhandled := h.handled
  rw [h.unanswered_nil hgoing] at hhandled
  have hnone := h.going hgoing
  refine ⟨hhandled, Nat.zero_le 1, fun hne => absurd rfl hne, h.ran, h.view, h.outcomes, h.processed, h.refused,
    fun hover => absurd rfl hover, h.quits, iff_of_false (failed_ne_quit error) ?_⟩
  rintro ⟨last, hlast, hquit⟩
  have hmem : last ∈ preview.handled := by
    rw [hhandled, List.append_nil]
    exact List.mem_of_getLast? hlast
  rw [hnone last hmem] at hquit
  cases hquit

theorem stuck (h : preview.Stands setup allowed start world counted unanswered)
    (hserving : preview.status = .serving) :
    ({ preview with status := .stuck } : ControlPipePreview).Stands setup allowed start world counted unanswered := by
  have hgoing : preview.status ≠ .over := by
    rw [hserving]
    decide
  refine ⟨h.handled, h.one, fun hne => ?_, h.ran, h.view, h.outcomes, h.processed, h.refused,
    fun _ => h.going hgoing, h.quits, h.reason⟩
  exact absurd (h.unanswered_nil hgoing) hne

section Handled

variable {handled : HandledCommand} {after : PreviewWorld}
  (h : preview.Stands setup allowed start world counted unanswered) (hserving : preview.status = .serving)
  (hanswers : setup.Answers allowed preview.loop.finalViewState
    (preview.loop.outcomes.length, handled.command) world after handled.outcome)

include h hanswers

theorem ran_handled :
    setup.Ran allowed .allView start ((preview.handled ++ [handled]).map HandledCommand.numbered)
      ((preview.handled ++ [handled]).map HandledCommand.outcome) after := by
  have hnumbered : handled.numbered = (preview.loop.outcomes.length, handled.command) :=
    Prod.ext hanswers.index rfl
  rw [h.folded] at hanswers
  rw [List.map_append, List.map_append, List.map_singleton, List.map_singleton, hnumbered]
  exact h.ran.snoc hanswers

theorem view_handled : handled.outcome.summary.currentViewState =
    (preview.handled ++ [handled]).foldl (fun (view : ViewState) handled => view.next handled.command) .allView := by
  rw [List.foldl_append, ← h.view]
  exact hanswers.view

include hserving

theorem unanswered_stands (error : IoError) :
    (ControlPipePreview.failed ⟨{ preview.loop with finalViewState := handled.outcome.summary.currentViewState },
      preview.status, preview.handled ++ [handled]⟩ error).Stands setup allowed start after counted [handled] := by
  have hgoing : preview.status ≠ .over := by
    rw [hserving]
    decide
  have hnone := h.going hgoing
  have hhandled := h.handled
  rw [h.unanswered_nil hgoing, List.append_nil] at hhandled
  refine ⟨by rw [← hhandled]; rfl, Nat.le_refl 1, fun _ => rfl, h.ran_handled hanswers, h.view_handled hanswers,
    h.outcomes, h.processed, h.refused, fun hover => absurd rfl hover, fun other hother => ?_,
    iff_of_false (failed_ne_quit error) ?_⟩
  · have hother : other ∈ (preview.handled ++ [handled]).dropLast := hother
    rw [List.dropLast_concat] at hother
    exact hnone other hother
  · rintro ⟨last, hlast, hquit⟩
    have hmem : last ∈ preview.handled := by
      rw [hhandled]
      exact List.mem_of_getLast? hlast
    rw [hnone last hmem] at hquit
    cases hquit

theorem answered_stands :
    (⟨preview.loop.record handled.outcome, if asksToQuit handled.command then .over else .serving,
      preview.handled ++ [handled]⟩ : ControlPipePreview).Stands setup allowed start after
        (counted ++ [handled]) [] := by
  have hgoing : preview.status ≠ .over := by
    rw [hserving]
    decide
  have hnone := h.going hgoing
  have hhandled := h.handled
  rw [h.unanswered_nil hgoing, List.append_nil] at hhandled
  have hreason : ¬ preview.loop.exitReason = "QuitRequested" := by
    rw [h.reason]
    rintro ⟨last, hlast, hquit⟩
    have hmem : last ∈ preview.handled := by
      rw [hhandled]
      exact List.mem_of_getLast? hlast
    rw [hnone last hmem] at hquit
    cases hquit
  refine ⟨by rw [← hhandled, List.append_nil], Nat.zero_le 1, fun hne => absurd rfl hne, h.ran_handled hanswers,
    h.view_handled hanswers, ?_, ?_, ?_, ?_, fun other hother => ?_, ?_⟩
  · rw [List.map_append, ← h.outcomes]
    rfl
  · rw [commandsProcessed_record, h.processed, List.length_append, List.length_singleton, UInt32.ofNat_add]
  · rw [commandsRejected_record preview.loop hanswers, h.refused, List.countP_append, UInt32.ofNat_add,
      List.countP_singleton]
  · intro hover other hother
    rcases List.mem_append.mp hother with hold | hnew
    · exact hnone other hold
    · rw [List.mem_singleton.mp hnew]
      by_contra hquit
      exact hover (if_pos (Bool.not_eq_false _ ▸ hquit))
  · have hother : other ∈ (preview.handled ++ [handled]).dropLast := hother
    rw [List.dropLast_concat] at hother
    exact hnone other hother
  · dsimp only
    rw [exitReason_record preview.loop hanswers, List.getLast?_concat]
    cases hquit : asksToQuit handled.command with
    | true => exact iff_of_true (if_pos rfl) ⟨handled, rfl, hquit⟩
    | false =>
      rw [if_neg Bool.false_ne_true]
      refine iff_of_false hreason ?_
      rintro ⟨last, hlast, hlastQuit⟩
      cases hlast
      rw [hquit] at hlastQuit
      cases hlastQuit

end Handled

/-- The step of the preview. -/
theorem served (h : preview.Stands setup allowed start world counted unanswered)
    (hserving : preview.status = .serving) {client : ControlClient} {trimmed : String → Prop}
    {response : Option String} {preview' : ControlPipePreview} {world' : PreviewWorld}
    (hserved : setup.Served allowed client trimmed preview world response preview' world') :
    ∃ counted' unanswered', preview'.Stands setup allowed start world' counted' unanswered' := by
  cases hserved with
  | failed error => exact ⟨counted, [], h.failed hserving error⟩
  | stuck => exact ⟨counted, unanswered, h.stuck hserving⟩
  | unanswered error _ _ hanswers => exact ⟨counted, _, h.unanswered_stands hserving hanswers error⟩
  | answered _ _ hanswers => exact ⟨_, [], h.answered_stands hserving hanswers⟩

end ControlPipePreview.Stands

/-- What a command of the wrapper comes to: nobody took it, or the preview met the connection, and what the client
reads is the preview's answer to that command if it reads one. -/
inductive ControlledPreviewSetup.Exchanged (setup : ControlledPreviewSetup)
    (allowed : ServerQueuedVideoFrame → Prop) (command : String) (preview : ControlPipePreview)
    (world : PreviewWorld) : PipeRead String → ControlPipePreview → PreviewWorld → Prop
  | refused (error : IoError) : Exchanged setup allowed command preview world (.err error) preview world
  | met {result : PipeRead String} {response : Option String} {preview' : ControlPipePreview}
    {world' : PreviewWorld} (serving : preview.status = .serving)
    (served : setup.Served allowed .wrapper (· = trimText command) preview world response preview' world')
    (returns : result ≠ .blocked) (read : ∀ text, result = .ok text → response = some text) :
    Exchanged setup allowed command preview world result preview' world'

variable (utf8Error pipeName) in
theorem exchange_spec (hdecodes : setup.Decodable allowed) (transport : ControlTransport) (command : String)
    {preview : ControlPipePreview} (hview : preview.loop.finalViewState.Valid) {world : PreviewWorld}
    (hwatch : Watchable allowed world.handoff) :
    Succeeds (setup.exchange utf8Error pipeName transport command preview) world fun exchanged world' =>
      setup.Exchanged allowed command preview world exchanged.1 exchanged.2 world' := by
  unfold ControlledPreviewSetup.exchange
  split
  next error _ => exact succeeds_pure (.refused error)
  next =>
    split
    next => exact succeeds_pure (.refused transport.noServer)
    next hserving =>
      have hserving := not_not.mp hserving
      split
      next error _ => exact succeeds_pure (.refused error)
      next =>
        refine Succeeds.bind ((serve_spec utf8Error pipeName hdecodes .wrapper _ hview hwatch).mono
          fun served world' hserved => ?_)
        obtain ⟨response, preview'⟩ := served
        have hserved : setup.Served allowed .wrapper (· = trimText command) preview world response preview'
            world' := by
          refine hserved.imp fun trimmed htrimmed => ?_
          obtain ⟨rawCommand, hbrings, rfl⟩ := htrimmed
          rw [((read_writtenBytes_iff utf8Error transport.request false).mp hbrings).1]
        dsimp only
        split
        next error _ =>
          exact succeeds_pure (.met hserving hserved (fun h => by cases h) fun text h => by cases h)
        next =>
          refine succeeds_pure (.met hserving hserved (readLengthPrefixedUtf8Message_returns utf8Error rfl)
            fun text htext => ?_)
          cases response with
          | none =>
            obtain ⟨written, hwritten, hfront⟩ := (readLengthPrefixedUtf8Message_ok_iff _ utf8Error).mp htext
            have hframe := isFrame_lengthPrefixedUtf8Message hwritten
            have hnone : written = [] := List.prefix_nil.mp (hfront.trans (transport.response.honest []))
            rw [hnone] at hframe
            exact absurd hframe.1 (by decide)
          | some response =>
            rw [((read_writtenBytes_iff utf8Error transport.response false).mp htext).1]

end Preview

end StreamSync
