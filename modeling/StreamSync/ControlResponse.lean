import StreamSync.Lib.Words
import StreamSync.RustStd

namespace StreamSync

open LineText Words

inductive SwitcherFourViewControlledPreviewViewState where
  | allView
  | focused (slotIndex : Nat)
deriving DecidableEq, Repr

inductive SwitcherFourViewControlledPreviewCommand where
  | all
  | focus (slotIndex : Nat)
  | status
  | quit
deriving DecidableEq, Repr

structure FourViewControlCommandParseError where
  commandName : String
  requestedTransition : String
  message : String
deriving DecidableEq, Repr

def sanitizeSummaryChar (char : Char) : Char :=
  if char = ' ' ∨ char = '\t' ∨ char = '\r' ∨ char = '\n' ∨ char = '|' ∨ char = ',' then '_' else char

def sanitizeSummaryValue (value : String) : String := String.ofList (value.toList.map sanitizeSummaryChar)

def parseFourViewControlCommand (raw : String) :
    Except FourViewControlCommandParseError SwitcherFourViewControlledPreviewCommand :=
  let trimmed := trimText raw
  match splitWhitespace trimmed with
  | [] => .error ⟨"empty", "none", "empty command"⟩
  | commandName :: tokens =>
    if commandName = "all" then
      if tokens = [] then .ok .all else .error ⟨"all", "AllView", "all does not accept arguments"⟩
    else if commandName = "status" then
      if tokens = [] then .ok .status else .error ⟨"status", "Status", "status does not accept arguments"⟩
    else if commandName = "quit" then
      if tokens = [] then .ok .quit else .error ⟨"quit", "Quit", "quit does not accept arguments"⟩
    else if commandName = "focus" then
      match tokens with
      | [] => .error ⟨"focus", "Focused(?)", "missing focus index"⟩
      | slotIndexRaw :: rest =>
        if rest ≠ [] then
          .error ⟨"focus", s!"Focused({slotIndexRaw})", "focus accepts exactly one slot index"⟩
        else
          match parseUsize slotIndexRaw with
          | none =>
            .error ⟨"focus", s!"Focused({slotIndexRaw})", "invalid focus index: expected integer 0..3"⟩
          | some slotIndex =>
            if 3 < slotIndex then
              .error ⟨"focus", s!"Focused({slotIndexRaw})", "invalid focus index: expected integer 0..3"⟩
            else .ok (.focus slotIndex)
    else .error ⟨sanitizeSummaryValue commandName, sanitizeSummaryValue trimmed, "unknown command"⟩

/-- What of a summary the control pipe answers with. -/
structure SwitcherFourViewControlledPreviewCommandSummary where
  currentViewState : SwitcherFourViewControlledPreviewViewState
  viewRenderMode : String
  outputLayout : String
  transitionResult : String
  selectedSlotResult : String
  renderedSlotCount : UInt32
  focusedSlotIndex : Option Nat
  cleanOutputRenderResultKind : String
  allViewRenderResultKind : String
  commandParseError : String
  exitReason : String
deriving DecidableEq, Repr

def formatOptionalUsize (value : Option Nat) : String := (value.map toString).getD "none"

def formatFourViewControlledPreviewViewState : SwitcherFourViewControlledPreviewViewState → String
  | .allView => "AllView"
  | .focused slotIndex => s!"Focused({slotIndex})"

/-- What the rendering of a view says for the answer. -/
structure FourViewControlledPreviewRenderOutcome where
  viewRenderMode : String
  outputLayout : String
  selectedSlotResult : String
  renderedSlotCount : UInt32
  focusedSlotIndex : Option Nat
  cleanOutputRenderResultKind : String
  allViewRenderResultKind : String
deriving DecidableEq, Repr

/-- A summary of a command that rendered nothing. -/
def unrenderedSummary (state : SwitcherFourViewControlledPreviewViewState)
    (transitionResult commandParseError exitReason : String) :
    SwitcherFourViewControlledPreviewCommandSummary :=
  ⟨state, "none", "none", transitionResult, "NotApplicable", 0, none, "none", "not_applicable",
    commandParseError, exitReason⟩

def renderedSummary (state : SwitcherFourViewControlledPreviewViewState) (transitionResult : String)
    (rendered : FourViewControlledPreviewRenderOutcome) : SwitcherFourViewControlledPreviewCommandSummary :=
  ⟨state, rendered.viewRenderMode, rendered.outputLayout, transitionResult, rendered.selectedSlotResult,
    rendered.renderedSlotCount, rendered.focusedSlotIndex, rendered.cleanOutputRenderResultKind,
    rendered.allViewRenderResultKind, "none", "none"⟩

/-- `run_four_view_control_command_iteration`, with the rendering of a view as a parameter. The view
state after it is the one in the summary. -/
def runFourViewControlCommandIteration
    (render : SwitcherFourViewControlledPreviewViewState → FourViewControlledPreviewRenderOutcome)
    (state : SwitcherFourViewControlledPreviewViewState) (rawCommand : String) :
    SwitcherFourViewControlledPreviewCommandSummary :=
  match parseFourViewControlCommand rawCommand with
  | .ok .all =>
    renderedSummary .allView (if state = .allView then "NoChange" else "Transitioned") (render .allView)
  | .ok (.focus slotIndex) =>
    renderedSummary (.focused slotIndex)
      (if state = .focused slotIndex then "NoChange" else "Transitioned") (render (.focused slotIndex))
  | .ok .status => renderedSummary state "Observed" (render state)
  | .ok .quit => unrenderedSummary state "ExitRequested" "none" "QuitRequested"
  | .error error => unrenderedSummary state "Rejected" error.message "none"

/-- The text that `format!` makes of a first text and the fields behind it. -/
def formatFields (first : String) (fields : List (String × String)) : String :=
  fields.foldl (fun text field => text ++ " " ++ field.1 ++ "=" ++ field.2) first

/-- The fields of a response in their order, each with the text that is written for it. -/
def responseFields (command : String) (summary : SwitcherFourViewControlledPreviewCommandSummary) :
    List (String × String) :=
  [("command", sanitizeSummaryValue command), ("transition_result", summary.transitionResult),
    ("current_view_state", formatFourViewControlledPreviewViewState summary.currentViewState),
    ("view_render_mode", summary.viewRenderMode), ("output_layout", summary.outputLayout),
    ("rendered_slot_count", toString summary.renderedSlotCount.toNat),
    ("focused_slot_index", formatOptionalUsize summary.focusedSlotIndex),
    ("selected_slot_result", summary.selectedSlotResult),
    ("clean_output_render_result_kind", summary.cleanOutputRenderResultKind),
    ("all_view_render_result_kind", summary.allViewRenderResultKind),
    ("command_parse_error", sanitizeSummaryValue summary.commandParseError),
    ("exit_reason", summary.exitReason)]

def formatFourViewControlPipeCommandResponse (command : String)
    (summary : SwitcherFourViewControlledPreviewCommandSummary) : String :=
  formatFields "switcher four-view control response" (responseFields command summary)

def extractSummaryField (summary fieldName : String) : Option String :=
  (extract isWhitespace '=' fieldName.toList summary.toList).map String.ofList

def spelled (field : String × String) : List Char × List Char := (field.1.toList, field.2.toList)

theorem toList_formatFields (first : String) (fields : List (String × String)) :
    (formatFields first fields).toList = line ' ' '=' first.toList (fields.map spelled) := by
  unfold formatFields
  induction fields generalizing first with
  | nil => exact (List.append_nil _).symm
  | cons field fields ih =>
    rw [List.foldl_cons, ih]
    simp [line, assignment, spelled]

/-- The values that are written in front of the field of that name. -/
def writtenBefore (fields : List (String × String)) (name : String) : List (List Char) :=
  (fields.takeWhile fun field => field.1 ≠ name).map fun field => field.2.toList

/-- The value is a word that the sanitizer leaves as it is. -/
def PlainValue (value : String) : Prop :=
  ∀ char ∈ value.toList, isWhitespace char = false ∧ char ≠ '|' ∧ char ≠ ','

instance (value : String) : Decidable (PlainValue value) := List.decidableBAll _ value.toList

/-- What a reader of the field can come upon: the first loose word of the values in front of it that
reads as the field has the field's own text, or there is none and the value is plain. -/
def Unambiguous (fields : List (String × String)) (name value : String) : Prop :=
  intruder isWhitespace '=' name.toList (writtenBefore fields name) =
      some (sanitizeSummaryValue value).toList ∨
    intruder isWhitespace '=' name.toList (writtenBefore fields name) = none ∧ PlainValue value

theorem sanitizeSummaryChar_eq_self_iff {char : Char} :
    sanitizeSummaryChar char = char ↔
      ¬(char = ' ' ∨ char = '\t' ∨ char = '\r' ∨ char = '\n' ∨ char = '|' ∨ char = ',') := by
  unfold sanitizeSummaryChar
  split
  next h =>
    refine iff_of_false ?_ (not_not_intro h)
    rcases h with rfl | rfl | rfl | rfl | rfl | rfl <;> decide
  next h => exact iff_of_true rfl h

theorem sanitizeSummaryChar_sanitized (char : Char) :
    sanitizeSummaryChar (sanitizeSummaryChar char) = sanitizeSummaryChar char := by
  rw [sanitizeSummaryChar_eq_self_iff, sanitizeSummaryChar]
  split
  next => decide
  next h => exact h

theorem sanitizeSummaryValue_sanitized (value : String) :
    sanitizeSummaryValue (sanitizeSummaryValue value) = sanitizeSummaryValue value := by
  unfold sanitizeSummaryValue
  rw [String.toList_ofList, List.map_map]
  congr 1
  exact List.map_congr_left fun char _ => sanitizeSummaryChar_sanitized char

/-- Whitespace that is not a separator of the sanitizer cuts the value, and what the sanitizer
replaces is not read as it was written. -/
theorem attached_eq_sanitized_iff (value : List Char) :
    attached isWhitespace value = value.map sanitizeSummaryChar ↔
      ∀ char ∈ value, isWhitespace char = false ∧ char ≠ '|' ∧ char ≠ ',' := by
  induction value with
  | nil => exact iff_of_true rfl (List.forall_mem_nil _)
  | cons char value ih =>
    rw [List.forall_mem_cons, ← ih, attached, List.map_cons]
    cases hspace : isWhitespace char with
    | true =>
      rw [List.takeWhile_cons_of_neg (by simp [hspace])]
      simp
    | false =>
      have hnot : char ≠ ' ' ∧ char ≠ '\t' ∧ char ≠ '\r' ∧ char ≠ '\n' := by
        refine ⟨?_, ?_, ?_, ?_⟩ <;> (rintro rfl; exact absurd hspace (by decide))
      obtain ⟨h1, h2, h3, h4⟩ := hnot
      rw [List.takeWhile_cons_of_pos (by simp [hspace]), List.cons.injEq, eq_comm,
        sanitizeSummaryChar_eq_self_iff]
      simp [h1, h2, h3, h4, attached]

/-- The names of some fields can be told apart by a reader. -/
structure Readable (fields : List (String × String)) : Prop where
  distinct : (fields.map Prod.fst).Nodup
  plain : ∀ field ∈ fields, ∀ char ∈ field.1.toList, isWhitespace char = false
  noEquals : ∀ field ∈ fields, '=' ∉ field.1.toList

/-- The reader of a field gets the first loose word in front of it that reads as the field, and without
one the field's value as far as its first whitespace. -/
theorem extractSummaryField_formatFields {first : String} {fields : List (String × String)}
    (hfirst : '=' ∉ first.toList) (hfields : Readable fields) {name value : String}
    (hmem : (name, value) ∈ fields) :
    extractSummaryField (formatFields first fields) name =
      some (String.ofList ((intruder isWhitespace '=' name.toList (writtenBefore fields name)).getD
        (attached isWhitespace value.toList))) := by
  obtain ⟨before, after, rfl⟩ := List.append_of_mem hmem
  have hother : ∀ field ∈ before, field.1 ≠ name := by
    intro field hf heq
    have hnodup := hfields.distinct
    rw [List.map_append, List.map_cons] at hnodup
    exact (List.nodup_append.mp hnodup).2.2 _ (List.mem_map_of_mem hf) name List.mem_cons_self heq
  have hbefore : writtenBefore (before ++ (name, value) :: after) name =
      (before.map spelled).map Prod.snd := by
    unfold writtenBefore
    rw [List.takeWhile_append_of_pos (fun field hf => decide_eq_true (hother field hf)),
      List.takeWhile_cons_of_neg (by simp), List.append_nil, List.map_map]
    rfl
  have hwords : (words isWhitespace first.toList).findSome? (stripPrefix (name.toList ++ ['='])) = none :=
    List.findSome?_eq_none_iff.mpr fun w hw => stripPrefix_of_not_mem
      (fun h => hfirst (mem_of_mem_words hw h)) _
  unfold extractSummaryField
  rw [toList_formatFields, List.map_append, List.map_cons, hbefore,
    show spelled (name, value) = (name.toList, value.toList) from rfl,
    extract_line (by decide) (by decide) hwords (before.map spelled) (after.map spelled) value.toList
      (hfields.noEquals _ hmem)]
  · rfl
  · intro field hf
    obtain ⟨field, hfield, rfl⟩ := List.mem_map.mp hf
    exact ⟨fun h => hother field hfield (String.toList_inj.mp h),
      hfields.noEquals field (List.mem_append_left _ hfield)⟩
  · intro field hf
    have hmap : before.map spelled ++ (name.toList, value.toList) :: after.map spelled =
        (before ++ (name, value) :: after).map spelled := by
      rw [List.map_append, List.map_cons]
      rfl
    rw [hmap] at hf
    obtain ⟨field, hfield, rfl⟩ := List.mem_map.mp hf
    exact hfields.plain field hfield

/-- The reader gets the sanitized value of a field exactly when the fields are unambiguous for it. -/
theorem extract_eq_sanitized_iff {first : String} {fields : List (String × String)}
    (hfirst : '=' ∉ first.toList) (hfields : Readable fields) {name value : String}
    (hmem : (name, value) ∈ fields) :
    extractSummaryField (formatFields first fields) name = some (sanitizeSummaryValue value) ↔
      Unambiguous fields name value := by
  rw [extractSummaryField_formatFields hfirst hfields hmem, Option.some_inj, ← String.toList_inj,
    String.toList_ofList]
  unfold Unambiguous
  cases hfound : intruder isWhitespace '=' name.toList (writtenBefore fields name) with
  | none =>
    have hvalue := attached_eq_sanitized_iff value.toList
    simp only [Option.getD_none, reduceCtorEq, false_or, true_and]
    rwa [sanitizeSummaryValue, String.toList_ofList]
  | some found => simp

def responseNames : List String :=
  ["command", "transition_result", "current_view_state", "view_render_mode", "output_layout",
    "rendered_slot_count", "focused_slot_index", "selected_slot_result",
    "clean_output_render_result_kind", "all_view_render_result_kind", "command_parse_error",
    "exit_reason"]

theorem map_fst_responseFields (command : String)
    (summary : SwitcherFourViewControlledPreviewCommandSummary) :
    (responseFields command summary).map Prod.fst = responseNames := rfl

theorem readable_responseFields (command : String)
    (summary : SwitcherFourViewControlledPreviewCommandSummary) :
    Readable (responseFields command summary) := by
  have hnames : ∀ name ∈ responseNames, PlainValue name ∧ '=' ∉ name.toList := by decide +kernel
  have hname : ∀ field ∈ responseFields command summary, field.1 ∈ responseNames := fun field hf =>
    map_fst_responseFields command summary ▸ List.mem_map_of_mem hf
  exact ⟨by rw [map_fst_responseFields]; decide, fun field hf char hchar =>
      ((hnames _ (hname field hf)).1 char hchar).1,
    fun field hf => (hnames _ (hname field hf)).2⟩

theorem plain_of_isDigit {char : Char} (h : char.isDigit = true) :
    isWhitespace char = false ∧ char ≠ '|' ∧ char ≠ ',' := by
  refine ⟨?_, ?_, ?_⟩
  · simp only [Char.isDigit, Bool.and_eq_true, decide_eq_true_eq, ge_iff_le, UInt32.le_iff_toNat_le] at h
    have hlow : 48 ≤ char.toNat := h.1
    have hhigh : char.toNat ≤ 57 := h.2
    simp [isWhitespace, UInt32.le_iff_toNat_le, ← UInt32.toNat_inj]
    omega
  · rintro rfl
    exact absurd h (by decide)
  · rintro rfl
    exact absurd h (by decide)

theorem plainValue_toString (n : Nat) : PlainValue (toString n) := fun char hchar =>
  plain_of_isDigit (Nat.isDigit_of_mem_toDigits (b := 10) (by decide) (by decide) (by simpa using hchar))

/-- A text by its characters, which a literal unfolds to. -/
theorem plainValue_sanitized_ofList {chars : List Char}
    (h : (chars.map sanitizeSummaryChar).all fun char => !isWhitespace char && char ≠ '|' && char ≠ ',') :
    PlainValue (sanitizeSummaryValue (String.ofList chars)) := by
  rw [PlainValue, sanitizeSummaryValue, String.toList_ofList, String.toList_ofList]
  intro char hchar
  simpa [and_assoc] using List.all_eq_true.mp h char hchar

/-- The messages of the parser. -/
def parseMessages : List String :=
  ["empty command", "all does not accept arguments", "status does not accept arguments",
    "quit does not accept arguments", "missing focus index", "focus accepts exactly one slot index",
    "invalid focus index: expected integer 0..3", "unknown command"]

/-- Whatever error a result is, its message is known. -/
def MessageKnown {α : Type} (result : Except FourViewControlCommandParseError α) : Prop :=
  ∀ error, result = .error error → error.message ∈ parseMessages

theorem messageKnown_ok {α : Type} (value : α) : MessageKnown (.ok value) := fun _ h => by cases h

theorem messageKnown_error {α : Type} {error : FourViewControlCommandParseError}
    (h : error.message ∈ parseMessages) : MessageKnown (α := α) (.error error) :=
  fun _ herror => Except.error.inj herror ▸ h

theorem MessageKnown.ite {α : Type} {c : Prop} [Decidable c]
    {first second : Except FourViewControlCommandParseError α} (hfirst : MessageKnown first)
    (hsecond : MessageKnown second) : MessageKnown (if c then first else second) := by
  split
  next => exact hfirst
  next => exact hsecond

theorem parseFourViewControlCommand_known (raw : String) : MessageKnown (parseFourViewControlCommand raw) := by
  have hmem {α : Type} {name transition message : String} (h : message ∈ parseMessages) :
      MessageKnown (α := α) (.error ⟨name, transition, message⟩) := messageKnown_error h
  unfold parseFourViewControlCommand
  dsimp only
  split
  next => exact hmem (by simp [parseMessages])
  next commandName tokens _ =>
    refine .ite (.ite (messageKnown_ok _) (hmem ?_)) <| .ite (.ite (messageKnown_ok _) (hmem ?_)) <|
      .ite (.ite (messageKnown_ok _) (hmem ?_)) <| .ite ?_ (hmem ?_)
    case refine_4 =>
      cases tokens with
      | nil => exact hmem (by simp [parseMessages])
      | cons slotIndexRaw rest =>
        refine .ite (hmem (by simp [parseMessages])) ?_
        split
        next => exact hmem (by simp [parseMessages])
        next => exact .ite (hmem (by simp [parseMessages])) (messageKnown_ok _)
    all_goals simp [parseMessages]

theorem parseFourViewControlCommand_message {raw : String} {error : FourViewControlCommandParseError}
    (h : parseFourViewControlCommand raw = .error error) :
    PlainValue (sanitizeSummaryValue error.message) := by
  have hplain : ∀ message ∈ parseMessages, PlainValue (sanitizeSummaryValue message) := by
    simp only [parseMessages, List.forall_mem_cons]
    refine ⟨?_, ?_, ?_, ?_, ?_, ?_, ?_, ?_, fun _ hnil => by cases hnil⟩
    all_goals exact plainValue_sanitized_ofList rfl
  exact hplain _ (parseFourViewControlCommand_known raw error h)

theorem sanitizeSummaryValue_toString (n : Nat) : sanitizeSummaryValue (toString n) = toString n := by
  unfold sanitizeSummaryValue
  rw [← String.toList_inj, String.toList_ofList]
  refine (List.map_congr_left fun char hchar => ?_).trans (List.map_id _)
  have hdigits : char ∈ Nat.toDigits 10 n := by simpa using hchar
  have hdigit := Nat.isDigit_of_mem_toDigits (by decide) (by decide) hdigits
  rw [id, sanitizeSummaryChar_eq_self_iff]
  rintro (rfl | rfl | rfl | rfl | rfl | rfl) <;> exact absurd hdigit (by decide)

theorem response_field_iff {command : String}
    {summary : SwitcherFourViewControlledPreviewCommandSummary} {name value : String}
    (hmem : (name, value) ∈ responseFields command summary) :
    extractSummaryField (formatFourViewControlPipeCommandResponse command summary) name =
        some (sanitizeSummaryValue value) ↔
      Unambiguous (responseFields command summary) name value :=
  extract_eq_sanitized_iff (by decide) (readable_responseFields command summary) hmem

/-- Every field of the response that the reader asks for has the sanitized value of the summary exactly
when the fields are unambiguous. -/
theorem response_readBack_iff (command : String) (summary : SwitcherFourViewControlledPreviewCommandSummary) :
    (extractSummaryField (formatFourViewControlPipeCommandResponse command summary) "transition_result" =
        some (sanitizeSummaryValue summary.transitionResult) ∧
      extractSummaryField (formatFourViewControlPipeCommandResponse command summary) "view_render_mode" =
        some (sanitizeSummaryValue summary.viewRenderMode) ∧
      extractSummaryField (formatFourViewControlPipeCommandResponse command summary) "rendered_slot_count" =
        some (toString summary.renderedSlotCount.toNat) ∧
      extractSummaryField (formatFourViewControlPipeCommandResponse command summary) "command_parse_error" =
        some (sanitizeSummaryValue summary.commandParseError) ∧
      extractSummaryField (formatFourViewControlPipeCommandResponse command summary) "exit_reason" =
        some (sanitizeSummaryValue summary.exitReason)) ↔
      Unambiguous (responseFields command summary) "transition_result" summary.transitionResult ∧
        Unambiguous (responseFields command summary) "view_render_mode" summary.viewRenderMode ∧
        Unambiguous (responseFields command summary) "rendered_slot_count"
          (toString summary.renderedSlotCount.toNat) ∧
        Unambiguous (responseFields command summary) "command_parse_error"
          (sanitizeSummaryValue summary.commandParseError) ∧
        Unambiguous (responseFields command summary) "exit_reason" summary.exitReason := by
  refine and_congr (response_field_iff (by simp [responseFields])) (and_congr
    (response_field_iff (by simp [responseFields])) (and_congr ?_ (and_congr ?_
      (response_field_iff (by simp [responseFields])))))
  · rw [← response_field_iff (by simp [responseFields]), sanitizeSummaryValue_toString]
  · rw [← response_field_iff (by simp [responseFields]), sanitizeSummaryValue_sanitized]

/-- A command with a no-break space, which separates words but is none of the sanitizer's characters. -/
theorem response_injected :
    (runFourViewControlCommandIteration (fun _ => ⟨"", "", "", 0, none, "", ""⟩) .allView
        "status\u00a0transition_result=Observed").transitionResult = "Rejected" ∧
      extractSummaryField (formatFourViewControlPipeCommandResponse
          "status\u00a0transition_result=Observed"
          (runFourViewControlCommandIteration (fun _ => ⟨"", "", "", 0, none, "", ""⟩) .allView
            "status\u00a0transition_result=Observed")) "transition_result" = some "Observed" ∧
      sanitizeSummaryValue "Rejected" ≠ "Observed" := by
  refine ⟨by decide +kernel, ?_, by decide +kernel⟩
  refine (extractSummaryField_formatFields (by decide +kernel) (readable_responseFields _ _)
    (List.mem_cons_of_mem _ List.mem_cons_self)).trans ?_
  rw [show intruder isWhitespace '=' "transition_result".toList _ = some "Observed".toList by
    decide +kernel]
  rfl

/-- The texts of a summary that are written as they are, or sanitized, are plain. -/
structure PlainSummary (summary : SwitcherFourViewControlledPreviewCommandSummary) : Prop where
  viewRenderMode : PlainValue summary.viewRenderMode
  outputLayout : PlainValue summary.outputLayout
  transitionResult : PlainValue summary.transitionResult
  selectedSlotResult : PlainValue summary.selectedSlotResult
  cleanOutputRenderResultKind : PlainValue summary.cleanOutputRenderResultKind
  allViewRenderResultKind : PlainValue summary.allViewRenderResultKind
  commandParseError : PlainValue (sanitizeSummaryValue summary.commandParseError)
  exitReason : PlainValue summary.exitReason

structure PlainRender (rendered : FourViewControlledPreviewRenderOutcome) : Prop where
  viewRenderMode : PlainValue rendered.viewRenderMode
  outputLayout : PlainValue rendered.outputLayout
  selectedSlotResult : PlainValue rendered.selectedSlotResult
  cleanOutputRenderResultKind : PlainValue rendered.cleanOutputRenderResultKind
  allViewRenderResultKind : PlainValue rendered.allViewRenderResultKind

theorem plainSummary_unrendered (state : SwitcherFourViewControlledPreviewViewState)
    {transitionResult commandParseError exitReason : String} (htransition : PlainValue transitionResult)
    (hparse : PlainValue (sanitizeSummaryValue commandParseError)) (hexit : PlainValue exitReason) :
    PlainSummary (unrenderedSummary state transitionResult commandParseError exitReason) := by
  have hnone : PlainValue "none" := by decide
  have hnotApplicable : PlainValue "NotApplicable" := by decide
  exact ⟨hnone, hnone, htransition, hnotApplicable, hnone, (by decide : PlainValue "not_applicable"),
    hparse, hexit⟩

theorem plainSummary_rendered (state : SwitcherFourViewControlledPreviewViewState)
    {transitionResult : String} (htransition : PlainValue transitionResult)
    {rendered : FourViewControlledPreviewRenderOutcome} (h : PlainRender rendered) :
    PlainSummary (renderedSummary state transitionResult rendered) :=
  ⟨h.viewRenderMode, h.outputLayout, htransition, h.selectedSlotResult, h.cleanOutputRenderResultKind,
    h.allViewRenderResultKind, (by decide : PlainValue (sanitizeSummaryValue "none")),
    (by decide : PlainValue "none")⟩

theorem plainSummary_iteration
    {render : SwitcherFourViewControlledPreviewViewState → FourViewControlledPreviewRenderOutcome}
    (hrender : ∀ view, PlainRender (render view)) (state : SwitcherFourViewControlledPreviewViewState)
    (rawCommand : String) : PlainSummary (runFourViewControlCommandIteration render state rawCommand) := by
  have hmoved (unchanged : Prop) [Decidable unchanged] :
      PlainValue (if unchanged then "NoChange" else "Transitioned") := by
    split <;> decide
  unfold runFourViewControlCommandIteration
  split
  next => exact plainSummary_rendered _ (hmoved _) (hrender _)
  next => exact plainSummary_rendered _ (hmoved _) (hrender _)
  next => exact plainSummary_rendered _ (by decide) (hrender _)
  next => exact plainSummary_unrendered _ (by decide) (by decide) (by decide)
  next error herror =>
    exact plainSummary_unrendered _ (by decide) (parseFourViewControlCommand_message herror) (by decide)

theorem plainValue_formatOptionalUsize (value : Option Nat) : PlainValue (formatOptionalUsize value) := by
  cases value with
  | none => decide
  | some n => exact plainValue_toString n

theorem plainValue_formatViewState (state : SwitcherFourViewControlledPreviewViewState) :
    PlainValue (formatFourViewControlledPreviewViewState state) := by
  cases state with
  | allView => decide
  | focused slotIndex =>
    intro char hchar
    simp only [formatFourViewControlledPreviewViewState, toString, String.toList_append,
      List.mem_append] at hchar
    rcases hchar with (hchar | hchar) | hchar
    · exact (by decide : PlainValue "Focused(") char hchar
    · exact plainValue_toString slotIndex char hchar
    · exact (by decide : PlainValue ")") char hchar

theorem plain_responseFields {summary : SwitcherFourViewControlledPreviewCommandSummary}
    (h : PlainSummary summary) (command : String) :
    ∀ field ∈ (responseFields command summary).tail, PlainValue field.2 := by
  simp only [responseFields, List.tail_cons, List.forall_mem_cons]
  exact ⟨h.transitionResult, plainValue_formatViewState _, h.viewRenderMode, h.outputLayout,
    plainValue_toString _, plainValue_formatOptionalUsize _, h.selectedSlotResult,
    h.cleanOutputRenderResultKind, h.allViewRenderResultKind, h.commandParseError, h.exitReason,
    List.forall_mem_nil _⟩

theorem sanitizeSummaryValue_of_plain {value : String} (h : PlainValue value) :
    sanitizeSummaryValue value = value := by
  have hwhole := attached_eq_self fun char hchar => (h char hchar).1
  rw [← String.toList_inj, sanitizeSummaryValue, String.toList_ofList,
    ← (attached_eq_sanitized_iff value.toList).mpr h, hwhole]

/-- Behind a first value, values that are plain have no loose words. -/
theorem intruder_of_plain_tail (field : String × String) {fields : List (String × String)}
    (hplain : ∀ field ∈ fields, PlainValue field.2) {name : String} (hname : field.1 ≠ name) :
    intruder isWhitespace '=' name.toList (writtenBefore (field :: fields) name) =
      intruder isWhitespace '=' name.toList [field.2.toList] := by
  have hloose : (writtenBefore fields name).flatMap (loose isWhitespace) = [] := by
    rw [List.flatMap_eq_nil_iff]
    intro value hvalue
    obtain ⟨other, hother, rfl⟩ := List.mem_map.mp hvalue
    exact loose_of_clean fun char hchar =>
      (hplain other ((List.takeWhile_sublist _).mem hother) char hchar).1
  have hfirst : writtenBefore (field :: fields) name = field.2.toList :: writtenBefore fields name := by
    unfold writtenBefore
    rw [List.takeWhile_cons, if_pos (decide_eq_true hname), List.map_cons]
  unfold intruder
  rw [hfirst, List.flatMap_cons, hloose, List.flatMap_singleton, List.append_nil]

/-- In the answers of the control loop a field other than the command is read as it is, unless the
command has a loose word that reads as the field with another text. -/
theorem iteration_response_field_iff
    {render : SwitcherFourViewControlledPreviewViewState → FourViewControlledPreviewRenderOutcome}
    (hrender : ∀ view, PlainRender (render view)) (state : SwitcherFourViewControlledPreviewViewState)
    (command : String) {name value : String} (hname : name ≠ "command")
    (hmem : (name, value) ∈
      responseFields command (runFourViewControlCommandIteration render state command)) :
    extractSummaryField (formatFourViewControlPipeCommandResponse command
        (runFourViewControlCommandIteration render state command)) name = some value ↔
      ∀ found, intruder isWhitespace '=' name.toList [(sanitizeSummaryValue command).toList] = some found →
        found = value.toList := by
  have hplain := plain_responseFields (plainSummary_iteration hrender state command) command
  have hvalue : PlainValue value := by
    rcases List.mem_cons.mp hmem with h | h
    · exact absurd (congrArg Prod.fst h) hname
    · exact hplain _ h
  have hsame := sanitizeSummaryValue_of_plain hvalue
  have hread := response_field_iff hmem
  rw [hsame] at hread
  have hfirst := intruder_of_plain_tail ("command", sanitizeSummaryValue command) hplain (Ne.symm hname)
  rw [hread, Unambiguous, hsame]
  rw [show ("command", sanitizeSummaryValue command) :: (responseFields command
    (runFourViewControlCommandIteration render state command)).tail = responseFields command
    (runFourViewControlCommandIteration render state command) from rfl] at hfirst
  rw [hfirst]
  cases intruder isWhitespace '=' name.toList [(sanitizeSummaryValue command).toList] with
  | none => simp [hvalue]
  | some found => simp

end StreamSync
