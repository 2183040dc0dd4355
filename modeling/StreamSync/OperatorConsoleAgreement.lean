import StreamSync.OperatorConsoleRuns

namespace StreamSync

open Effect Words

def wrapperCommands : List String := ["focus 0", "focus 1", "focus 2", "focus 3", "all", "status", "quit"]

theorem mem_wrapperCommands {key : Char} {command : String} (h : mappedWrapperCommand key = some command) :
    command ∈ wrapperCommands := by
  unfold mappedWrapperCommand at h
  unfold wrapperCommands
  repeat' split at h
  all_goals simp at h
  all_goals
    subst h
    simp

theorem trimText_wrapperCommands {command : String} (h : command ∈ wrapperCommands) : trimText command = command := by
  have hall : ∀ command ∈ wrapperCommands, trimText command = command := by decide +kernel
  exact hall command h

theorem intruder_wrapperCommands {command : String} (h : command ∈ wrapperCommands) :
    intruder isWhitespace '=' "exit_reason".toList [(sanitizeSummaryValue command).toList] = none := by
  have hall : ∀ command ∈ wrapperCommands,
      intruder isWhitespace '=' "exit_reason".toList [(sanitizeSummaryValue command).toList] = none := by
    decide +kernel
  exact hall command h

section Answers

variable {setup : ControlledPreviewSetup} {allowed : ServerQueuedVideoFrame → Prop}
  {state : ViewState} {index : Nat} {before after : PreviewWorld} {handled : HandledCommand}

/-- The wrapper reads the reason to exit that the preview has written. -/
theorem extract_response (hcommand : handled.command ∈ wrapperCommands)
    (hanswers : setup.Answers allowed state (index, handled.command) before after handled.outcome) :
    extractSummaryField handled.response "exit_reason" =
      some (if asksToQuit handled.command then "QuitRequested" else "none") := by
  obtain ⟨render, hplain, hsummary⟩ := hanswers.summary
  have hquit := hanswers.quit
  unfold HandledCommand.response
  rw [hsummary] at hquit ⊢
  rw [← hquit]
  have hmem : ("exit_reason", (runFourViewControlCommandIteration (fun _ => render) state
      handled.command).exitReason) ∈ responseFields handled.command
        (runFourViewControlCommandIteration (fun _ => render) state handled.command) := by
    simp [responseFields]
  refine (iteration_response_field_iff (fun _ => hplain) state handled.command (by decide) hmem).mpr ?_
  intro found hfound
  rw [intruder_wrapperCommands hcommand] at hfound
  cases hfound

theorem ofAnswer_response (hcommand : handled.command ∈ wrapperCommands)
    (hanswers : setup.Answers allowed state (index, handled.command) before after handled.outcome) :
    sanitizeSummaryValue (WrapperSendReport.ofAnswer (.ok handled.response)).exitReason =
      if asksToQuit handled.command then "QuitRequested" else "Continue" := by
  unfold WrapperSendReport.ofAnswer
  dsimp only
  rw [extract_response hcommand hanswers]
  unfold normalizeFourViewOperatorWrapperExitReason
  dsimp only
  cases asksToQuit handled.command with
  | true =>
    rw [if_pos rfl, if_neg (by decide), if_pos rfl]
    decide
  | false =>
    rw [if_neg Bool.false_ne_true, if_pos rfl, if_neg Bool.false_ne_true]
    decide

end Answers

section Keys

variable (pipeName : String) (nowMillis : Nat → UInt64)

/-- What a key does for which a command is sent. -/
structure KeySends (event : FourViewOperatorWrapperKeyEvent) (command : String) (answer : Except String String) :
    Prop where
  sends : event.sends = [(command, answer)]
  sendResult : event.summary.sendResult = (WrapperSendReport.ofAnswer answer).sendResult
  responseLine : event.summary.responseLine = (WrapperSendReport.ofAnswer answer).responseLine
  exitReason : event.summary.exitReason =
    sanitizeSummaryValue (WrapperSendReport.ofAnswer answer).exitReason

structure KeyQuiet (event : FourViewOperatorWrapperKeyEvent) : Prop where
  sends : event.sends = []
  sendResult : event.summary.sendResult ≠ "Sent"
  exitReason : event.summary.exitReason = "Continue"

/-- For a key no command is sent, or one of the wrapper's, whatever it is answered. -/
theorem keyEvent_cases (console : OperatorConsole) (rawKey : String) :
    (∀ answer, KeyQuiet (console.keyEvent pipeName nowMillis answer rawKey)) ∨
      ∃ command ∈ wrapperCommands, ∀ answer,
        KeySends (console.keyEvent pipeName nowMillis answer rawKey) command answer := by
  have hignored (guard : FourViewOperatorWrapperGuardState) (startMillis : UInt64) :
      KeyQuiet ⟨rawKey, startMillis, none, [], guard,
        keySummary console.wrapper.events.length rawKey "none" guard .ignored⟩ :=
    ⟨rfl, (by decide : "Ignored" ≠ "Sent"), by rw [keySummary_continue_iff]; rfl⟩
  unfold OperatorConsole.keyEvent processFourViewOperatorWrapperKey
  dsimp only [answering]
  split
  next key _ =>
    split
    next =>
      split
      next => exact .inr ⟨"quit", by simp [wrapperCommands], fun answer => ⟨rfl, rfl, rfl, rfl⟩⟩
      next =>
        refine .inl fun answer => ⟨rfl, (by decide : "GuardArmed" ≠ "Sent"), ?_⟩
        rw [keySummary_continue_iff]
        rfl
    next =>
      cases hmapped : mappedWrapperCommand key with
      | none => exact .inl fun answer => hignored _ _
      | some command =>
        exact .inr ⟨command, mem_wrapperCommands hmapped, fun answer => ⟨rfl, rfl, rfl, rfl⟩⟩
  next => exact .inl fun answer => hignored _ _

end Keys

section Agreement

variable {setup : ControlledPreviewSetup} {allowed : ServerQueuedVideoFrame → Prop}
  {utf8Error : List UInt8 → IoError} {pipeName : String} {nowMillis : Nat → UInt64}

def HandledCommand.ofWrapper (handled : HandledCommand) : Bool := handled.client = .wrapper

def HandledCommand.quits (handled : HandledCommand) : Bool := asksToQuit handled.command

/-- A command with the answer that the preview wrote for it. -/
def HandledCommand.answered (handled : HandledCommand) : String × Except String String :=
  (handled.command, .ok handled.response)

/-- The responses that the wrapper has shown for the commands it reports as sent. -/
def OperatorWrapperLoop.shownLines (wrapper : OperatorWrapperLoop) : List String :=
  (wrapper.events.filter fun event => event.summary.sendResult = "Sent").map fun event => event.summary.responseLine

/-- How the wrapper and the preview agree, of whose commands some were answered, another one was handled without
the wrapper's knowing, and the last one may have failed. -/
structure OperatorConsole.Agrees (console : OperatorConsole) (setup : ControlledPreviewSetup)
    (allowed : ServerQueuedVideoFrame → Prop) (start : PreviewWorld) (startReason : String)
    (answered unanswered : List HandledCommand) (failed : List (String × Except String String)) : Prop where
  preview : ∃ counted lost, console.preview.Stands setup allowed start console.world counted lost
  handled : console.preview.handled.filter HandledCommand.ofWrapper = answered ++ unanswered
  sends : console.wrapper.events.flatMap (·.sends) = answered.map HandledCommand.answered ++ failed
  failures : ∀ send ∈ failed, ∃ error, send.2 = .error error
  one : failed.length ≤ 1
  unanswered : unanswered.map HandledCommand.command <+: failed.map Prod.fst
  quits : ∀ handled ∈ answered.dropLast, handled.quits = false
  ended : console.wrapper.over = true ↔ failed ≠ [] ∨ answered.any HandledCommand.quits = true
  exitReason : console.wrapper.exitReason =
    if failed ≠ [] then "WrapperSendFailed"
    else if answered.any HandledCommand.quits then "QuitRequested" else startReason
  sent : console.wrapper.commandsSent = UInt32.ofNat answered.length
  shown : console.wrapper.shownLines = answered.map fun handled => sanitizeSummaryValue handled.response

/-- What a connection with the wrapper leaves in the preview. -/
theorem exchanged_cases {command : String} {preview preview' : ControlPipePreview} {start world world' : PreviewWorld}
    {counted unanswered : List HandledCommand} {result : PipeRead String}
    (h : preview.Stands setup allowed start world counted unanswered)
    (hexchanged : setup.Exchanged allowed command preview world result preview' world') :
    (∃ counted' unanswered', preview'.Stands setup allowed start world' counted' unanswered') ∧
      (preview'.handled = preview.handled ∧ (∃ error, result = .err error) ∨
        ∃ handled index, preview'.handled = preview.handled ++ [handled] ∧ handled.client = .wrapper ∧
          handled.command = trimText command ∧
          setup.Answers allowed preview.loop.finalViewState (index, handled.command) world world' handled.outcome ∧
          (result = .ok handled.response ∨ ∃ error, result = .err error)) := by
  cases hexchanged with
  | refused error => exact ⟨⟨counted, unanswered, h⟩, .inl ⟨rfl, error, rfl⟩⟩
  | @met _ response _ _ hserving hserved hreturns hread =>
    refine ⟨h.served hserving hserved, ?_⟩
    have herr (hnone : response = none) : ∃ error, result = .err error := by
      cases result with
      | ok text =>
        rw [hnone] at hread
        cases hread text rfl
      | err error => exact ⟨error, rfl⟩
      | blocked => exact absurd rfl hreturns
    have hresult {handled : HandledCommand} (hsome : response = some handled.response) :
        result = .ok handled.response ∨ ∃ error, result = .err error := by
      cases result with
      | ok text =>
        have htext := hread text rfl
        rw [hsome] at htext
        rw [Option.some.inj htext]
        exact .inl rfl
      | err error => exact .inr ⟨error, rfl⟩
      | blocked => exact absurd rfl hreturns
    cases hserved with
    | failed error => exact .inl ⟨rfl, herr rfl⟩
    | stuck => exact .inl ⟨rfl, herr rfl⟩
    | @unanswered handled _ error horigin hcommand hanswers =>
      exact .inr ⟨handled, _, rfl, horigin, hcommand, hanswers, hresult rfl⟩
    | @answered handled _ horigin hcommand hanswers =>
      exact .inr ⟨handled, _, rfl, horigin, hcommand, hanswers, hresult rfl⟩

section TakeKey

variable (hooks : FourViewOperatorWrapperHooks) (wrapper : OperatorWrapperLoop) (rawKey : String)

/-- What the wrapper has made of a key. -/
def OperatorWrapperLoop.eventFor (pipeName : String) : FourViewOperatorWrapperKeyEvent :=
  processFourViewOperatorWrapperKey hooks pipeName wrapper.events.length rawKey wrapper.guardState
    wrapper.clockReads wrapper.sendCalls

theorem sends_takeKey : (wrapper.takeKey hooks pipeName rawKey).events.flatMap (·.sends) =
    wrapper.events.flatMap (·.sends) ++ (wrapper.eventFor hooks rawKey pipeName).sends := by
  rw [show (wrapper.takeKey hooks pipeName rawKey).events =
    wrapper.events ++ [wrapper.eventFor hooks rawKey pipeName] from rfl, List.flatMap_append, List.flatMap_singleton]

theorem over_takeKey : (wrapper.takeKey hooks pipeName rawKey).over =
    decide ((wrapper.eventFor hooks rawKey pipeName).summary.exitReason ≠ "Continue") := by
  unfold OperatorWrapperLoop.over
  rw [show (wrapper.takeKey hooks pipeName rawKey).events =
    wrapper.events ++ [wrapper.eventFor hooks rawKey pipeName] from rfl, List.getLast?_concat]
  rfl

theorem exitReason_takeKey : (wrapper.takeKey hooks pipeName rawKey).exitReason =
    if (wrapper.eventFor hooks rawKey pipeName).summary.exitReason ≠ "Continue" then
      (wrapper.eventFor hooks rawKey pipeName).summary.exitReason
    else wrapper.exitReason := rfl

theorem commandsSent_takeKey : (wrapper.takeKey hooks pipeName rawKey).commandsSent =
    if (wrapper.eventFor hooks rawKey pipeName).summary.sendResult = "Sent" then wrapper.commandsSent + 1
    else wrapper.commandsSent := rfl

theorem shownLines_takeKey : (wrapper.takeKey hooks pipeName rawKey).shownLines =
    wrapper.shownLines ++ if (wrapper.eventFor hooks rawKey pipeName).summary.sendResult = "Sent" then
      [(wrapper.eventFor hooks rawKey pipeName).summary.responseLine] else [] := by
  unfold OperatorWrapperLoop.shownLines
  rw [show (wrapper.takeKey hooks pipeName rawKey).events =
    wrapper.events ++ [wrapper.eventFor hooks rawKey pipeName] from rfl, List.filter_append, List.map_append]
  by_cases hsent : (wrapper.eventFor hooks rawKey pipeName).summary.sendResult = "Sent" <;> simp [hsent]

end TakeKey

namespace OperatorConsole.Agrees

variable {console : OperatorConsole} {start : PreviewWorld} {startReason : String}
  {answered unanswered : List HandledCommand} {failed : List (String × Except String String)}
  (h : console.Agrees setup allowed start startReason answered unanswered failed)
  (hrunning : console.wrapper.over = false)

include h hrunning

/-- A wrapper that goes on has had an answer to each of its commands, and none that quits. -/
theorem running : failed = [] ∧ unanswered = [] ∧ answered.any HandledCommand.quits = false := by
  have hnot : ¬ (failed ≠ [] ∨ answered.any HandledCommand.quits = true) := by
    rw [← h.ended, hrunning]
    exact Bool.false_ne_true
  have hfailed : failed = [] := by
    by_contra hne
    exact hnot (.inl hne)
  have hunanswered := h.unanswered
  rw [hfailed] at hunanswered
  refine ⟨hfailed, List.map_eq_nil_iff.mp (List.prefix_nil.mp hunanswered), ?_⟩
  cases hany : answered.any HandledCommand.quits with
  | true => exact absurd (.inr hany) hnot
  | false => rfl

variable {preview : ControlPipePreview} {world : PreviewWorld} {rawKey command : String}

theorem exitReason_running : console.wrapper.exitReason = startReason := by
  obtain ⟨hfailed, -, hany⟩ := h.running hrunning
  have hreason := h.exitReason
  rwa [hfailed, if_neg (not_not.mpr rfl), hany, if_neg Bool.false_ne_true] at hreason

theorem quiet {answer : Except String String}
    (hkey : KeyQuiet (console.keyEvent pipeName nowMillis answer rawKey)) :
    ({ console with wrapper := console.wrapper.takeKey (answering nowMillis answer) pipeName rawKey } :
      OperatorConsole).Agrees setup allowed start startReason answered unanswered failed := by
  have hkey : KeyQuiet (console.wrapper.eventFor (answering nowMillis answer) rawKey pipeName) := hkey
  refine ⟨h.preview, h.handled, ?_, h.failures, h.one, h.unanswered, h.quits, ?_, ?_, ?_, ?_⟩
  · dsimp only
    rw [sends_takeKey, hkey.sends, List.append_nil]
    exact h.sends
  · dsimp only
    rw [over_takeKey, hkey.exitReason, ← h.ended, hrunning]
    simp
  · dsimp only
    rw [exitReason_takeKey, hkey.exitReason, if_neg (not_not.mpr rfl)]
    exact h.exitReason
  · dsimp only
    rw [commandsSent_takeKey, if_neg hkey.sendResult]
    exact h.sent
  · dsimp only
    rw [shownLines_takeKey, if_neg hkey.sendResult, List.append_nil]
    exact h.shown

/-- A command whose send fails, handled or not. -/
theorem fails {error : String}
    (hkey : KeySends (console.keyEvent pipeName nowMillis (.error error) rawKey) command (.error error))
    {more : List HandledCommand}
    (hpreview : ∃ counted lost, preview.Stands setup allowed start world counted lost)
    (hhandled : preview.handled = console.preview.handled ++ more)
    (hclient : ∀ handled ∈ more, handled.client = .wrapper) (hmore : more.map HandledCommand.command <+: [command]) :
    (⟨console.wrapper.takeKey (answering nowMillis (.error error)) pipeName rawKey, preview, world⟩ :
      OperatorConsole).Agrees setup allowed start startReason answered more [(command, .error error)] := by
  obtain ⟨hfailed, hunanswered, -⟩ := h.running hrunning
  have hkey : KeySends (console.wrapper.eventFor (answering nowMillis (.error error)) rawKey pipeName) command
    (.error error) := hkey
  have hreason : (console.wrapper.eventFor (answering nowMillis (.error error)) rawKey
      pipeName).summary.exitReason = "WrapperSendFailed" :=
    hkey.exitReason.trans (by decide : sanitizeSummaryValue "WrapperSendFailed" = "WrapperSendFailed")
  have hnot : (console.wrapper.eventFor (answering nowMillis (.error error)) rawKey
      pipeName).summary.sendResult ≠ "Sent" := by
    rw [hkey.sendResult]
    exact (by decide : "SendFailed" ≠ "Sent")
  refine ⟨hpreview, ?_, ?_, ?_, Nat.le_refl 1, hmore, h.quits, ?_, ?_, ?_, ?_⟩
  · have hfilter : more.filter HandledCommand.ofWrapper = more :=
      List.filter_eq_self.mpr fun handled hmem => decide_eq_true (hclient handled hmem)
    dsimp only
    rw [hhandled, List.filter_append, h.handled, hunanswered, List.append_nil, hfilter]
  · dsimp only
    rw [sends_takeKey, hkey.sends, h.sends, hfailed, List.append_nil]
  · intro send hsend
    rw [List.mem_singleton.mp hsend]
    exact ⟨error, rfl⟩
  · refine iff_of_true ?_ (.inl (List.cons_ne_nil _ _))
    rw [over_takeKey, hreason]
    decide
  · dsimp only
    rw [exitReason_takeKey, hreason, if_pos (by decide), if_pos (List.cons_ne_nil _ _)]
  · dsimp only
    rw [commandsSent_takeKey, if_neg hnot]
    exact h.sent
  · dsimp only
    rw [shownLines_takeKey, if_neg hnot, List.append_nil]
    exact h.shown

/-- A command that is handled and whose response is read. -/
theorem answers {handled : HandledCommand} (hkey : KeySends (console.keyEvent pipeName nowMillis
      (.ok handled.response) rawKey) handled.command (.ok handled.response))
    (hcommand : handled.command ∈ wrapperCommands) {index : Nat} {state : ViewState} {before : PreviewWorld}
    (hanswers : setup.Answers allowed state (index, handled.command) before world handled.outcome)
    (hpreview : ∃ counted lost, preview.Stands setup allowed start world counted lost)
    (hhandled : preview.handled = console.preview.handled ++ [handled]) (hclient : handled.client = .wrapper) :
    (⟨console.wrapper.takeKey (answering nowMillis (.ok handled.response)) pipeName rawKey, preview, world⟩ :
      OperatorConsole).Agrees setup allowed start startReason (answered ++ [handled]) [] [] := by
  obtain ⟨hfailed, hunanswered, hany⟩ := h.running hrunning
  have hkey : KeySends (console.wrapper.eventFor (answering nowMillis (.ok handled.response)) rawKey pipeName)
    handled.command (.ok handled.response) := hkey
  have hreason := hkey.exitReason.trans (ofAnswer_response hcommand hanswers)
  have hsent : (console.wrapper.eventFor (answering nowMillis (.ok handled.response)) rawKey
      pipeName).summary.sendResult = "Sent" := hkey.sendResult
  have hquits : (answered ++ [handled]).any HandledCommand.quits = asksToQuit handled.command := by
    rw [List.any_append, hany, Bool.false_or, List.any_cons, List.any_nil, Bool.or_false]
    rfl
  refine ⟨hpreview, ?_, ?_, fun send hsend => (by cases hsend), Nat.zero_le 1, List.nil_prefix, ?_, ?_, ?_, ?_, ?_⟩
  · have hwrapper : handled.ofWrapper = true := decide_eq_true hclient
    dsimp only
    rw [hhandled, List.filter_append, h.handled, hunanswered, List.append_nil, List.append_nil,
      List.filter_cons_of_pos hwrapper, List.filter_nil]
  · dsimp only
    rw [sends_takeKey, hkey.sends, h.sends, hfailed, List.append_nil, List.append_nil, List.map_append]
    rfl
  · intro other hother
    rw [List.dropLast_concat] at hother
    cases hquit : other.quits with
    | false => rfl
    | true =>
      have htrue : answered.any HandledCommand.quits = true := List.any_eq_true.mpr ⟨other, hother, hquit⟩
      rw [hany] at htrue
      cases htrue
  · dsimp only
    rw [over_takeKey, hreason, hquits]
    cases asksToQuit handled.command <;> simp
  · dsimp only
    rw [exitReason_takeKey, hreason, hquits, if_neg (not_not.mpr rfl), h.exitReason_running hrunning]
    cases asksToQuit handled.command <;> simp
  · dsimp only
    rw [commandsSent_takeKey, if_pos hsent, h.sent, List.length_append, List.length_singleton, UInt32.ofNat_add]
    rfl
  · dsimp only
    rw [shownLines_takeKey, if_pos hsent, hkey.responseLine, h.shown, List.map_append]
    rfl

omit hrunning in
/-- Another client changes nothing that the wrapper has to do with. -/
theorem other {preview : ControlPipePreview} {world : PreviewWorld} {trimmed : String → Prop}
    {response : Option String} (hserving : console.preview.status = .serving)
    (hserved : setup.Served allowed .other trimmed console.preview console.world response preview world) :
    ({ console with preview, world } : OperatorConsole).Agrees setup allowed start startReason answered unanswered
      failed := by
  obtain ⟨counted, lost, hstands⟩ := h.preview
  refine { h with preview := hstands.served hserving hserved, handled := ?_ }
  have hmore (handled : HandledCommand) (hclient : handled.client = .other) :
      (console.preview.handled ++ [handled]).filter HandledCommand.ofWrapper = answered ++ unanswered := by
    have hother : ¬ handled.ofWrapper = true := by
      unfold HandledCommand.ofWrapper
      rw [hclient]
      decide
    rw [List.filter_append, List.filter_cons_of_neg hother, List.filter_nil, List.append_nil]
    exact h.handled
  cases hserved with
  | failed error => exact h.handled
  | stuck => exact h.handled
  | unanswered error horigin _ _ => exact hmore _ horigin
  | answered horigin _ _ => exact hmore _ horigin

end OperatorConsole.Agrees

/-- The wrapper and the preview agree, with some commands answered, handled only or failed. -/
def OperatorConsole.Consistent (console : OperatorConsole) (setup : ControlledPreviewSetup)
    (allowed : ServerQueuedVideoFrame → Prop) (start : PreviewWorld) (startReason : String) : Prop :=
  ∃ answered unanswered failed, console.Agrees setup allowed start startReason answered unanswered failed

theorem consistent_send (hdecodes : setup.Decodable allowed) {start : PreviewWorld}
    (hwatch : Watchable allowed start.handoff) {startReason : String} {console : OperatorConsole}
    (h : console.Consistent setup allowed start startReason) (hrunning : console.wrapper.over = false)
    {answer : Except String String} {rawKey command : String} (hcommand : command ∈ wrapperCommands)
    (hkey : KeySends (console.keyEvent pipeName nowMillis answer rawKey) command answer)
    {transport : ControlTransport} {result : PipeRead String} {preview : ControlPipePreview} {world : PreviewWorld}
    (hexchanged : setup.exchange utf8Error pipeName transport command console.preview console.world =
      .ok ((result, preview), world)) (hanswer : commandAnswer result = some answer) :
    OperatorConsole.Consistent ⟨console.wrapper.takeKey (answering nowMillis answer) pipeName rawKey, preview, world⟩
      setup allowed start startReason := by
  obtain ⟨answered, unanswered, failed, hagrees⟩ := h
  obtain ⟨counted, lost, hstands⟩ := hagrees.preview
  have hspec := exchange_spec utf8Error pipeName hdecodes transport command hstands.valid
    (hstands.undisturbed hwatch).watchable
  obtain ⟨exchanged, world', hran, hspec⟩ := hspec
  rw [hexchanged] at hran
  cases hran
  obtain ⟨hpreview, ⟨hsame, error, rfl⟩ | ⟨handled, index, hhandled, hclient, hname, hanswers, hresult⟩⟩ :=
    exchanged_cases hstands hspec
  · cases hanswer
    have hnone : preview.handled = console.preview.handled ++ [] := by rw [hsame, List.append_nil]
    exact ⟨answered, [], _, hagrees.fails hrunning hkey hpreview hnone (fun _ hmem => by cases hmem)
      List.nil_prefix⟩
  · rw [trimText_wrapperCommands hcommand] at hname
    subst hname
    rcases hresult with rfl | ⟨error, rfl⟩
    · cases hanswer
      exact ⟨_, [], [], hagrees.answers hrunning hkey hcommand hanswers hpreview hhandled hclient⟩
    · cases hanswer
      refine ⟨answered, [handled], _, hagrees.fails hrunning hkey hpreview hhandled (fun other hmem => ?_)
        (List.prefix_refl _)⟩
      rwa [List.mem_singleton.mp hmem]

theorem consistent_step (hdecodes : setup.Decodable allowed) {start : PreviewWorld}
    (hwatch : Watchable allowed start.handoff) {startReason : String} {console next : OperatorConsole}
    (h : console.Consistent setup allowed start startReason)
    (hstep : OperatorConsole.Step setup utf8Error pipeName nowMillis console next) :
    next.Consistent setup allowed start startReason := by
  cases hstep with
  | @quiet answer rawKey hrunning hnothing =>
    obtain ⟨answered, unanswered, failed, hagrees⟩ := h
    refine ⟨answered, unanswered, failed, hagrees.quiet hrunning ?_⟩
    rcases keyEvent_cases pipeName nowMillis console rawKey with hquiet | ⟨command, -, hsends⟩
    · exact hquiet answer
    · rw [(hsends answer).sends] at hnothing
      cases hnothing
  | @send answer rawKey command transport result preview world hrunning hsent hexchanged hanswer =>
    rcases keyEvent_cases pipeName nowMillis console rawKey with hquiet | ⟨command', hcommand, hsends⟩
    · rw [(hquiet answer).sends] at hsent
      cases hsent
    · have hkey := hsends answer
      rw [hkey.sends] at hsent
      cases hsent
      exact consistent_send hdecodes hwatch h hrunning hcommand hkey hexchanged hanswer
  | @other connection response preview world hserving hserved =>
    obtain ⟨answered, unanswered, failed, hagrees⟩ := h
    obtain ⟨counted, lost, hstands⟩ := hagrees.preview
    obtain ⟨served, world', hran, hspec⟩ := serve_spec utf8Error pipeName hdecodes .other
      connection hstands.valid (hstands.undisturbed hwatch).watchable
    rw [hserved] at hran
    cases hran
    exact ⟨answered, unanswered, failed, hagrees.other hserving hspec⟩

/-- The connection is made and nothing is lost on it; what the preview is told of its own writes does not
matter. -/
structure ControlTransport.Works (transport : ControlTransport) : Prop where
  opened : transport.opened = .ok ()
  created : transport.created = .ok ()
  connected : transport.connected = .ok ()
  asking : transport.asking.result = .ok ()
  request : ∀ bytes, transport.request.Whole bytes
  response : ∀ bytes, transport.response.Whole bytes

/-- How the console can go on. -/
structure OperatorConsole.Proceeds (console : OperatorConsole) (setup : ControlledPreviewSetup)
    (utf8Error : List UInt8 → IoError) (pipeName : String) (nowMillis : Nat → UInt64) : Prop where
  /-- The wrapper deals with any key, however the transport behaves. -/
  key : console.wrapper.over = false → ∀ (rawKey : String) (transport : ControlTransport),
    (∀ answer, (console.keyEvent pipeName nowMillis answer rawKey).sends = []) ∨
      ∃ command result preview world answer,
        (console.keyEvent pipeName nowMillis answer rawKey).sends = [(command, answer)] ∧
        setup.exchange utf8Error pipeName transport command console.preview console.world =
          .ok ((result, preview), world) ∧ commandAnswer result = some answer
  /-- The preview deals with any client. -/
  client : ∀ connection, ∃ served, setup.serve utf8Error pipeName .other connection console.preview console.world =
    .ok served
  /-- A command is handled and answered where the transport works. -/
  answers : console.preview.status = .serving → (trimText pipeName).isEmpty = false → ∀ transport, transport.Works →
    ∀ command ∈ wrapperCommands, ∃ result preview world handled,
      setup.exchange utf8Error pipeName transport command console.preview console.world =
        .ok ((result, preview), world) ∧ preview.handled = console.preview.handled ++ [handled] ∧
        handled.command = command ∧
        (result = .ok handled.response ∨ 2 ^ 32 ≤ (asBytes handled.response).length)

theorem serve_handles (hdecodes : setup.Decodable allowed) {connection : ControlConnection}
    (hpath : (trimText pipeName).isEmpty = false) (hcreated : connection.created = .ok ())
    (hconnected : connection.connected = .ok ()) {rawCommand : String}
    (hbrings : connection.Brings utf8Error rawCommand) (client : ControlClient) {preview : ControlPipePreview}
    (hview : preview.loop.finalViewState.Valid) {world : PreviewWorld} (hwatch : Watchable allowed world.handoff) :
    Succeeds (setup.serve utf8Error pipeName client connection preview) world fun served _ => ∃ handled,
      served.1 = some handled.response ∧ served.2.handled = preview.handled ++ [handled] ∧
        handled.command = trimText rawCommand := by
  have hmade : (do let _ ← controlNamedPipePath pipeName; connection.created; connection.connected) =
      (.ok () : Except IoError Unit) := by
    unfold controlNamedPipePath
    rw [hpath, hcreated, hconnected]
    rfl
  unfold ControlledPreviewSetup.serve
  rw [hmade, hbrings]
  refine Succeeds.bind ((runCommand_spec hdecodes hview (preview.loop.outcomes.length, trimText rawCommand)
    hwatch).mono fun outcome after _ => ?_)
  dsimp only
  split
  next => exact succeeds_pure ⟨⟨client, trimText rawCommand, outcome⟩, rfl, rfl, rfl⟩
  next => exact succeeds_pure ⟨⟨client, trimText rawCommand, outcome⟩, rfl, rfl, rfl⟩

theorem writeLengthPrefixedUtf8Message_ok {writer : MessageWriter} (hwriter : writer.result = .ok ())
    {message : String} (hfits : (asBytes message).length < 2 ^ 32) :
    writeLengthPrefixedUtf8Message writer message = .ok () := by
  unfold writeLengthPrefixedUtf8Message
  rw [lengthPrefixedUtf8Message_ok_iff.mpr ⟨hfits, rfl⟩]
  exact hwriter

theorem wrapperCommands_fit {command : String} (h : command ∈ wrapperCommands) :
    (asBytes command).length < 2 ^ 32 := by
  have hall : ∀ command ∈ wrapperCommands, (asBytes command).length < 2 ^ 32 := by decide +kernel
  exact hall command h

theorem exchange_answers (hdecodes : setup.Decodable allowed) {preview : ControlPipePreview}
    (hserving : preview.status = .serving) (hpath : (trimText pipeName).isEmpty = false)
    {transport : ControlTransport} (hworks : transport.Works) {command : String}
    (hcommand : command ∈ wrapperCommands) (hview : preview.loop.finalViewState.Valid) {world : PreviewWorld}
    (hwatch : Watchable allowed world.handoff) :
    ∃ result preview' world' handled, setup.exchange utf8Error pipeName transport command preview world =
        .ok ((result, preview'), world') ∧ preview'.handled = preview.handled ++ [handled] ∧
        handled.command = command ∧
        (result = .ok handled.response ∨ 2 ^ 32 ≤ (asBytes handled.response).length) := by
  have hbrings : ControlConnection.Brings ⟨transport.created, transport.connected,
      transport.request.pipe false (writtenBytes command), transport.answer⟩ utf8Error command :=
    (read_writtenBytes_iff utf8Error transport.request false).mpr
      ⟨rfl, wrapperCommands_fit hcommand, hworks.request _⟩
  obtain ⟨⟨response, preview'⟩, world', hserve, handled, hresponse, hhandled, hname⟩ :=
    serve_handles hdecodes hpath hworks.created hworks.connected hbrings .wrapper hview hwatch
  dsimp only at hresponse hhandled
  have hexchange : setup.exchange utf8Error pipeName transport command preview world =
      .ok (((readLengthPrefixedUtf8Message utf8Error (transport.response.pipe false
        ((response.map writtenBytes).getD []))).1, preview'), world') := by
    unfold ControlledPreviewSetup.exchange controlNamedPipePath
    rw [hpath, hserving, hworks.opened]
    refine (bind_of_ok hserve).trans ?_
    dsimp only
    rw [writeLengthPrefixedUtf8Message_ok hworks.asking (wrapperCommands_fit hcommand)]
    rfl
  refine ⟨_, preview', world', handled, hexchange, hhandled, hname.trans (trimText_wrapperCommands hcommand), ?_⟩
  rcases Nat.lt_or_ge (asBytes handled.response).length (2 ^ 32) with hfits | hlong
  · left
    rw [hresponse, Option.map_some, Option.getD_some]
    exact (read_writtenBytes_iff utf8Error transport.response false).mpr ⟨rfl, hfits, hworks.response _⟩
  · exact .inr hlong

theorem consistent_start (setup : ControlledPreviewSetup) (allowed : ServerQueuedVideoFrame → Prop)
    (world : PreviewWorld) (startReason : String) :
    OperatorConsole.Consistent ⟨.start startReason, .start, world⟩ setup allowed world startReason := by
  refine ⟨[], [], [], ⟨[], [], .start_stands world⟩, rfl, rfl, fun send hsend => (by cases hsend), Nat.zero_le 1,
    List.nil_prefix, fun handled hmem => (by cases hmem), ?_, ?_, rfl, rfl⟩
  · exact iff_of_false Bool.false_ne_true fun h => h.elim (fun hne => hne rfl) Bool.false_ne_true
  · rw [if_neg (not_not.mpr rfl), List.any_nil, if_neg Bool.false_ne_true]
    rfl

theorem proceeds_of_consistent (hdecodes : setup.Decodable allowed) {start : PreviewWorld}
    (hwatch : Watchable allowed start.handoff) {startReason : String} {console : OperatorConsole}
    (h : console.Consistent setup allowed start startReason) :
    console.Proceeds setup utf8Error pipeName nowMillis := by
  obtain ⟨answered, unanswered, failed, hagrees⟩ := h
  obtain ⟨counted, lost, hstands⟩ := hagrees.preview
  have hwatched := (hstands.undisturbed hwatch).watchable
  refine ⟨fun _ rawKey transport => ?_, fun connection => ?_, fun hserving hpath transport hworks command hcommand =>
    exchange_answers hdecodes hserving hpath hworks hcommand hstands.valid hwatched⟩
  · rcases keyEvent_cases pipeName nowMillis console rawKey with hquiet | ⟨command, -, hsends⟩
    · exact .inl fun answer => (hquiet answer).sends
    · obtain ⟨⟨result, preview⟩, world, hran, hspec⟩ :=
        exchange_spec utf8Error pipeName hdecodes transport command hstands.valid hwatched
      obtain ⟨answer, hanswer⟩ : ∃ answer, commandAnswer result = some answer := by
        obtain ⟨-, ⟨-, error, rfl⟩ | ⟨handled, -, -, -, -, -, rfl | ⟨error, rfl⟩⟩⟩ := exchanged_cases hstands hspec
        · exact ⟨_, rfl⟩
        · exact ⟨_, rfl⟩
        · exact ⟨_, rfl⟩
      exact .inr ⟨command, result, preview, world, answer, (hsends answer).sends, hran, hanswer⟩
  · obtain ⟨served, world, hran, -⟩ := serve_spec utf8Error pipeName hdecodes .other connection hstands.valid hwatched
    exact ⟨(served, world), hran⟩

/-- A direction on which all bytes come in one piece. -/
def wholeDirection : PipeDirection where
  deliver bytes := [.piece bytes]
  honest bytes := by simp [PipeReading.readable]

def workingTransport : ControlTransport where
  noServer := ⟨.other "NotFound", "no pipe"⟩
  opened := .ok ()
  created := .ok ()
  connected := .ok ()
  request := wholeDirection
  response := wholeDirection
  asking := ⟨.ok (), .ok (), .ok ()⟩
  answer := ⟨.ok (), .ok (), .ok ()⟩

end Agreement

end StreamSync
