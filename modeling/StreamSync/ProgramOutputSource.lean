import StreamSync.DecodeCacheBound
import StreamSync.DecodeSources
import StreamSync.PreviewLoop

namespace StreamSync

open Run

/-- One of the caches has the picture under a key of the client and the run. -/
def DecodedFrom (caches : List DecodedCache) (clientId : ClientId) (runId : RunId)
    (decoded : SwitcherDecodedFrame) : Prop :=
  ∃ cache ∈ caches, cache.HasFrom clientId runId decoded

/-- The picture is of the selection's client, and of its run if it names one. -/
def DecodedFor (caches : List DecodedCache) (selection : SwitcherProgramSelection)
    (decoded : SwitcherDecodedFrame) : Prop :=
  ∃ runId, DecodedFrom caches selection.selectedClientId runId decoded ∧
    ∀ selected ∈ selection.selectedRunId, runId = selected

/-- A picture that a slot keeps is of the frame that the slot names. -/
def FrameSourced (caches : List DecodedCache) (frame : SwitcherFourViewDisplayedSlot) : Prop :=
  ∀ decoded ∈ frame.decoded, ∃ selected ∈ frame.selected,
    DecodedFrom caches selected.frame.clientId selected.frame.runId decoded

def InstructionSourced (caches : List DecodedCache) :
    SwitcherFourViewQuadCompositionSlotInstruction → Prop
  | .useUpdatedFrame _ frame selected _ => frame.selected = some selected ∧ FrameSourced caches frame
  | .useHeldPreviousFrame _ frame _ _ => FrameSourced caches frame
  | _ => True

def SlotSourced (caches : List DecodedCache) : RenderSlot → Prop
  | .useUpdatedFrame _ frame selected _ => frame.selected = some selected ∧ FrameSourced caches frame
  | .useHeldPreviousFrame _ frame _ _ => FrameSourced caches frame
  | _ => True

section Sources

variable {caches caches' : List DecodedCache} {clientId : ClientId} {runId : RunId}
  {decoded : SwitcherDecodedFrame} {selection : SwitcherProgramSelection}

theorem DecodedFrom.mono (hsub : caches ⊆ caches') (h : DecodedFrom caches clientId runId decoded) :
    DecodedFrom caches' clientId runId decoded := by
  obtain ⟨cache, hcache, hfrom⟩ := h
  exact ⟨cache, hsub hcache, hfrom⟩

theorem DecodedFor.mono (hsub : caches ⊆ caches') (h : DecodedFor caches selection decoded) :
    DecodedFor caches' selection decoded := by
  obtain ⟨runId, hfrom, hrun⟩ := h
  exact ⟨runId, hfrom.mono hsub, hrun⟩

theorem FrameSourced.mono (hsub : caches ⊆ caches') {frame : SwitcherFourViewDisplayedSlot}
    (h : FrameSourced caches frame) : FrameSourced caches' frame := by
  intro decoded hdecoded
  obtain ⟨selected, hselected, hfrom⟩ := h decoded hdecoded
  exact ⟨selected, hselected, hfrom.mono hsub⟩

/-- A picture kept for one selection is good for every selection that it matches. -/
theorem DecodedFor.of_matches {frame : SwitcherProgramSelection}
    (hmatches : programFrameMatchesSelection frame selection = true) (h : DecodedFor caches frame decoded) :
    DecodedFor caches selection decoded := by
  unfold programFrameMatchesSelection at hmatches
  simp only [Bool.and_eq_true, decide_eq_true_eq] at hmatches
  obtain ⟨hclient, hruns⟩ := hmatches
  obtain ⟨runId, hfrom, hrun⟩ := h
  refine ⟨runId, hclient ▸ hfrom, fun selected hselected => ?_⟩
  rw [Option.mem_def.mp hselected] at hruns
  exact hrun selected (of_decide_eq_true hruns)

theorem DecodedFrom.decodedFor {frame : SwitcherSingleViewSelectedEncodedFrame}
    (hadmits : selection.admits frame = true) (h : DecodedFrom caches frame.clientId frame.runId decoded) :
    DecodedFor caches selection decoded := by
  unfold SwitcherProgramSelection.admits at hadmits
  simp only [Bool.and_eq_true, decide_eq_true_eq] at hadmits
  obtain ⟨hclient, hruns⟩ := hadmits
  refine ⟨frame.runId, hclient ▸ h, fun selected hselected => ?_⟩
  rw [Option.mem_def.mp hselected] at hruns
  exact of_decide_eq_true hruns

/-- A picture for a selection that names a run is of every frame that the selection admits. -/
theorem DecodedFor.decodedFrom {frame : SwitcherSingleViewSelectedEncodedFrame}
    (hrun : selection.selectedRunId = some runId) (hadmits : selection.admits frame = true)
    (h : DecodedFor caches selection decoded) : DecodedFrom caches frame.clientId frame.runId decoded := by
  unfold SwitcherProgramSelection.admits at hadmits
  simp only [hrun, Option.all_some, Bool.and_eq_true, decide_eq_true_eq] at hadmits
  obtain ⟨runId', hfrom, hruns⟩ := h
  rw [hruns runId hrun] at hfrom
  rw [hadmits.1, hadmits.2]
  exact hfrom

theorem FrameSourced.displayed {frame : SwitcherFourViewDisplayedSlot}
    {selected : SwitcherJitterBufferSelectedFrame} (hselected : frame.selected = some selected)
    (h : FrameSourced caches frame) (hdecoded : frame.decoded = some decoded) (slotIndex : Nat) :
    DecodedFor caches (selectionOfDisplayed slotIndex selected) decoded := by
  obtain ⟨found, hfound, hfrom⟩ := h decoded hdecoded
  cases hselected.symm.trans hfound
  exact ⟨selected.frame.runId, hfrom, fun runId hrunId => Option.some.inj hrunId⟩

theorem SlotSourced.of_updated {slot : RenderSlot} (h : SlotSourced caches slot)
    (hfound : updatedProgramOutputSelectionAndFrameFromSlot slot = some (selection, decoded)) :
    DecodedFor caches selection decoded := by
  cases slot with
  | useUpdatedFrame placement frame selected consumed =>
    obtain ⟨picture, hpicture, hpair⟩ := Option.map_eq_some_iff.mp hfound
    cases hpair
    exact h.2.displayed h.1 hpicture frame.slotIndex
  | _ => cases hfound

theorem SlotSourced.of_program {slot : RenderSlot} (h : SlotSourced caches slot)
    (hfound : programOutputSelectionAndFrameFromSlot slot = some (selection, decoded)) :
    DecodedFor caches selection decoded := by
  cases slot with
  | useUpdatedFrame placement frame selected consumed => exact h.of_updated hfound
  | useHeldPreviousFrame placement frame skipped holdDurationMicros =>
    obtain ⟨selected, hselected, hfound⟩ := Option.bind_eq_some_iff.mp hfound
    obtain ⟨picture, hpicture, hpair⟩ := Option.bind_eq_some_iff.mp hfound
    cases hpair
    exact FrameSourced.displayed hselected h hpicture frame.slotIndex
  | _ => cases hfound

theorem SlotSourced.updatePreviousSlot {slot : RenderSlot} (h : SlotSourced caches slot)
    {previous : Option SwitcherFourViewDisplayedSlot} (hprevious : ∀ frame ∈ previous, FrameSourced caches frame) :
    ∀ frame ∈ updatePreviousSlot previous slot, FrameSourced caches frame := by
  intro frame hframe
  cases slot with
  | useUpdatedFrame placement shown selected consumed =>
    unfold StreamSync.updatePreviousSlot at hframe
    dsimp only at hframe
    split at hframe
    next =>
      cases hframe
      exact h.2
    next => exact hprevious frame hframe
  | useHeldPreviousFrame placement shown skipped holdDurationMicros =>
    unfold StreamSync.updatePreviousSlot at hframe
    dsimp only at hframe
    split at hframe
    next =>
      cases hframe
      exact h
    next => exact hprevious frame hframe
  | _ => exact hprevious frame hframe

/-- What is asked of a slot names the frame whose picture the slot keeps. -/
theorem instructionSourced (slotIndex : Nat) (scheduler : SwitcherSingleClientTargetTimeHandoffSourceResult)
    {previous : Option SwitcherFourViewDisplayedSlot} (hprevious : ∀ frame ∈ previous, FrameSourced caches frame)
    (currentTime : TimestampMicros) :
    InstructionSourced caches (quadCompositionInstructionForDecision (displayDecisionForSlot
      (decodeRenderInstructionForSlot slotIndex scheduler) previous currentTime)) := by
  cases scheduler with
  | selected selected =>
    unfold decodeRenderInstructionForSlot displayDecisionForSlot
    dsimp only
    split
    next frame hframe =>
      obtain ⟨hold, hmatches⟩ := Option.filter_eq_some_iff.mp hframe
      obtain ⟨shown, hshown, -, hclient, hrun, -⟩ := displayedSlotMatchesSelected_iff.mp hmatches
      refine ⟨rfl, fun decoded hdecoded => ⟨_, rfl, ?_⟩⟩
      obtain ⟨found, hfound, hfrom⟩ := hprevious frame hold decoded hdecoded
      cases hshown.symm.trans hfound
      rw [hclient, hrun] at hfrom
      exact hfrom
    next => exact ⟨rfl, nofun⟩
  | noFrameAvailable =>
    cases previous with
    | none => trivial
    | some frame => exact hprevious frame rfl
  | waitingForFrameAtOrBeforeTarget =>
    cases previous with
    | none => trivial
    | some frame => exact hprevious frame rfl
  | handoffError => trivial

/-- A slot is connected with a picture of the frame that it names, if its decode call returns such. -/
theorem slotSourced_connect {δ : Type} {decode : H264DecodeRuntime δ} {runtime : δ}
    {instruction : SwitcherFourViewQuadCompositionSlotInstruction} (h : InstructionSourced caches instruction)
    (hdecode : ∀ selected decoded, (decode (selectedDecodeInput selected) runtime).1 = .decoded decoded →
      (connectSlotWithRuntime decode runtime instruction).2 =
          (decode (selectedDecodeInput selected) runtime).2 →
        DecodedFrom caches selected.frame.clientId selected.frame.runId decoded) :
    SlotSourced caches (connectSlotWithRuntime decode runtime instruction).1 := by
  cases instruction with
  | useUpdatedFrame placement frame selected consumed =>
    cases hkept : frame.decoded with
    | some decoded =>
      rw [connectSlotWithRuntime_kept decode runtime placement selected consumed (by rw [hkept]; rfl)]
      exact h
    | none =>
      have hconnect := connectSlotWithRuntime_decode decode runtime placement selected consumed hkept
      have hafter := congrArg Prod.snd hconnect
      rw [hconnect]
      cases hresult : (decode (selectedDecodeInput selected) runtime).1 with
      | decoded decoded =>
        refine ⟨h.1, fun picture hpicture => ⟨selected, h.1, ?_⟩⟩
        cases hpicture
        exact hdecode selected decoded hresult hafter
      | deferred reason => trivial
      | failed failure => trivial
  | useHeldPreviousFrame placement frame skipped holdDurationMicros =>
    unfold connectSlotWithRuntime
    dsimp only
    split
    next => exact h
    next => trivial
  | useNoDisplayPlaceholder placement skipped => trivial
  | useSourceErrorPlaceholder placement skipped => trivial

theorem slotSourced_reuse {slot : RenderSlot} (h : SlotSourced caches slot)
    (hrun : selection.selectedRunId = some runId) (hfor : DecodedFor caches selection decoded) :
    SlotSourced caches (reuseProgramFrameForOperatorPreviewSlot selection decoded slot) := by
  unfold reuseProgramFrameForOperatorPreviewSlot
  split
  next placement frame selected consumed =>
    split
    next hadmits =>
      refine ⟨h.1, fun picture hpicture => ⟨selected, h.1, ?_⟩⟩
      cases hpicture
      exact hfor.decodedFrom hrun hadmits.1
    next => exact h
  next placement selected consumed reason =>
    split
    next hadmits =>
      refine ⟨rfl, fun picture hpicture => ⟨selected, rfl, ?_⟩⟩
      cases hpicture
      exact hfor.decodedFrom hrun hadmits
    next => trivial
  next => exact h

theorem slotSourced_retain {slot : RenderSlot} (h : SlotSourced caches slot)
    {snapshot : Option SwitcherFourViewDisplayedSlot} (hsnapshot : ∀ frame ∈ snapshot, FrameSourced caches frame) :
    SlotSourced caches (retainSnapshot snapshot slot) := by
  unfold retainSnapshot
  split
  next => exact h
  next frame hframe =>
    split
    next => exact h
    next => exact hsnapshot frame (Option.filter_eq_some_iff.mp hframe).1

end Sources

/-- Whether the program takes the picture of a slot: unless the mode prefers the newest continuous picture or
the kept one, and there is such a picture for the selection. -/
def TakesSlotPicture (mode : ProgramContinuousDecodeMode) (selection : SwitcherProgramSelection)
    (lastValidProgramFrame : Option TwoRealCachedProgramOutputFrame)
    (programContinuousLatestFrame : Option TwoRealProgramContinuousLatestFrame) : Prop :=
  match mode with
  | .targetFrame => True
  | .smoothLatest =>
    (∀ latest ∈ programContinuousLatestFrame, latestProgramFrameMatchesSelection latest selection = false) ∧
      ∀ cached ∈ lastValidProgramFrame, cachedProgramFrameMatchesSelection cached selection = false

section Render

variable {caches : List DecodedCache} {decoded : SwitcherDecodedFrame} {selection : SwitcherProgramSelection}
  {mode : ProgramContinuousDecodeMode} {lastValid : Option TwoRealCachedProgramOutputFrame}
  {latest : Option TwoRealProgramContinuousLatestFrame}

/-- A chosen picture is the newest continuous one, the kept one, or the one offered for the selection. -/
theorem selectTwoRealProgramOutputRenderFrame_cases {selectedFrameId : Option UInt64}
    {selectedDecodedFrame : Option SwitcherDecodedFrame}
    (h : (selectTwoRealProgramOutputRenderFrame mode selection selectedFrameId selectedDecodedFrame lastValid
      latest).decodedFrame = some decoded) :
    (∃ found ∈ latest, latestProgramFrameMatchesSelection found selection = true ∧
        found.decodedFrame = decoded) ∨
      (∃ cached ∈ lastValid, cachedProgramFrameMatchesSelection cached selection = true ∧
        cached.decodedFrame = decoded) ∨
      (TakesSlotPicture mode selection lastValid latest ∧ selectedDecodedFrame = some decoded) := by
  have hlatest : ∀ found, latest.filter (latestProgramFrameMatchesSelection · selection) = some found →
      found ∈ latest ∧ latestProgramFrameMatchesSelection found selection = true :=
    fun found hfound => Option.filter_eq_some_iff.mp hfound
  have hcached : ∀ cached, lastValid.filter (cachedProgramFrameMatchesSelection · selection) = some cached →
      cached ∈ lastValid ∧ cachedProgramFrameMatchesSelection cached selection = true :=
    fun cached hfound => Option.filter_eq_some_iff.mp hfound
  unfold selectTwoRealProgramOutputRenderFrame at h
  dsimp only at h
  cases mode with
  | smoothLatest =>
    dsimp only at h
    split at h
    next _ _ found hfound =>
      left
      obtain ⟨hmem, hmatches⟩ := hlatest found hfound
      exact ⟨found, hmem, hmatches, Option.some.inj h⟩
    next _ cached _ hfound =>
      right
      left
      obtain ⟨hmem, hmatches⟩ := hcached cached hfound
      exact ⟨cached, hmem, hmatches, Option.some.inj h⟩
    next picture hnolatest hnocached =>
      right
      right
      refine ⟨⟨fun found hfound => ?_, fun cached hfound => ?_⟩, congrArg some (Option.some.inj h)⟩
      · exact Bool.eq_false_of_not_eq_true (Option.filter_eq_none_iff.mp hnolatest found hfound)
      · exact Bool.eq_false_of_not_eq_true (Option.filter_eq_none_iff.mp hnocached cached hfound)
    next => cases h
  | targetFrame =>
    dsimp only at h
    split at h
    next picture _ => exact .inr (.inr ⟨trivial, congrArg some (Option.some.inj h)⟩)
    next cached hfound =>
      right
      left
      obtain ⟨hmem, hmatches⟩ := hcached cached hfound
      exact ⟨cached, hmem, hmatches, Option.some.inj h⟩
    next => cases h

end Render

section Selection

variable {caches : List DecodedCache} {composition : FourSlots RenderSlot} {decoded : SwitcherDecodedFrame}
  {selection : SwitcherProgramSelection} {slots : FourSlots SwitcherFourViewTargetTimeSourceSlotConfig}
  {realSlotIndices : Fin 4 × Fin 4}

theorem requestedProgramSelection_client (clientId : ClientId) :
    (requestedProgramSelectionFromRealSlots slots realSlotIndices clientId).selectedClientId = clientId := by
  unfold requestedProgramSelectionFromRealSlots
  split <;> rfl

theorem requestedProgramSelection_run {clientId : ClientId} {slotIndex : Nat}
    (h : (requestedProgramSelectionFromRealSlots slots realSlotIndices clientId).selectedSlotIndex =
      some slotIndex) :
    ∃ runId, (requestedProgramSelectionFromRealSlots slots realSlotIndices clientId).selectedRunId =
      some runId := by
  unfold requestedProgramSelectionFromRealSlots at h ⊢
  split
  next slot _ => exact ⟨slot.runId, rfl⟩
  next hnone =>
    rw [hnone] at h
    cases h

theorem updatedSlotOfClient_source (hslots : ∀ index, SlotSourced caches (composition index))
    {clientId : ClientId} (h : updatedSlotOfClient composition clientId = some (selection, decoded)) :
    selection.selectedClientId = clientId ∧ DecodedFor caches selection decoded := by
  unfold updatedSlotOfClient at h
  have hclient := List.find?_some h
  obtain ⟨index, -, hindex⟩ := List.mem_filterMap.mp (List.mem_of_find?_eq_some h)
  exact ⟨of_decide_eq_true hclient, (hslots index).of_updated hindex⟩

/-- The picture for a request is of the selection reported for it, if the slot it comes from is of the run
that the request's own slot names. -/
theorem requestedProgramOutput_source (hslots : ∀ index, SlotSourced caches (composition index))
    {clientId : ClientId}
    (hserved : ∀ found ∈ updatedSlotOfClient composition clientId, ∀ runId ∈
      (requestedProgramSelectionFromRealSlots slots realSlotIndices clientId).selectedRunId,
        found.1.selectedRunId = some runId)
    (h : requestedProgramOutputSelectionAndFrame slots realSlotIndices composition clientId =
      (selection, some decoded)) : DecodedFor caches selection decoded := by
  unfold requestedProgramOutputSelectionAndFrame at h
  dsimp only at h
  split at h
  next found picture hfound =>
    obtain ⟨rfl, hpicture⟩ := Prod.mk.inj h
    cases hpicture
    obtain ⟨hclient, runId, hfrom, hruns⟩ := updatedSlotOfClient_source hslots hfound
    refine ⟨runId, hclient ▸ hfrom, fun selected hselected => ?_⟩
    cases hrun : (requestedProgramSelectionFromRealSlots slots realSlotIndices clientId).selectedRunId with
    | none =>
      rw [hrun, Option.none_or] at hselected
      exact hruns selected hselected
    | some named =>
      rw [hrun, Option.some_or] at hselected
      cases hselected
      exact hruns selected (hserved _ hfound selected hrun)
  next => cases (Prod.mk.inj h).2

/-- The selection for a request is the one its own slot gives, if that slot names a run or no slot has a
picture. -/
theorem requestedProgramOutput_selection {clientId : ClientId}
    (h : (∃ runId, (requestedProgramSelectionFromRealSlots slots realSlotIndices clientId).selectedRunId =
        some runId) ∨
      (requestedProgramOutputSelectionAndFrame slots realSlotIndices composition clientId).2 = none) :
    (requestedProgramOutputSelectionAndFrame slots realSlotIndices composition clientId).1 =
      requestedProgramSelectionFromRealSlots slots realSlotIndices clientId := by
  have hclient := @requestedProgramSelection_client slots realSlotIndices clientId
  unfold requestedProgramOutputSelectionAndFrame at h ⊢
  generalize requestedProgramSelectionFromRealSlots slots realSlotIndices clientId = requested at h hclient ⊢
  obtain ⟨requestedClientId, requestedRunId, slotIndex⟩ := requested
  dsimp only at h hclient ⊢
  cases hclient
  split
  next found picture hfound =>
    rw [hfound] at h
    rcases h with ⟨runId, rfl⟩ | hnone
    · rfl
    · cases hnone
  next => rfl

theorem fallbackProgramOutput_source (hslots : ∀ index, SlotSourced caches (composition index))
    (h : fallbackProgramOutputSelectionAndFrame slots realSlotIndices composition =
      (selection, some decoded)) : DecodedFor caches selection decoded := by
  unfold fallbackProgramOutputSelectionAndFrame at h
  split at h
  next found picture hfound =>
    obtain ⟨rfl, hpicture⟩ := Prod.mk.inj h
    cases hpicture
    obtain ⟨index, -, hindex⟩ := List.exists_of_findSome?_eq_some hfound
    exact (hslots index).of_program hindex
  next => cases (Prod.mk.inj h).2

theorem selectedProgramSlotFrame_admits
    {scheduler : FourSlots SwitcherSingleClientTargetTimeHandoffSourceResult}
    {found : Fin 4 × SwitcherSingleViewSelectedEncodedFrame}
    (h : selectedProgramSlotFrame scheduler selection = some found) : selection.admits found.2 = true := by
  obtain ⟨index, -, hindex⟩ := List.exists_of_findSome?_eq_some h
  split at hindex
  next selected _ =>
    split at hindex
    next hadmits =>
      cases hindex
      exact hadmits
    next => cases hindex
  next => cases hindex

/-- What the window renders, and what is kept of it, is of the selection that is reported. -/
theorem renderTwoRealProgramOutput_source (enabled : Bool)
    (scheduler : FourSlots SwitcherSingleClientTargetTimeHandoffSourceResult)
    (requestedClientId : Option ClientId) {lastValid : Option TwoRealCachedProgramOutputFrame}
    (mode : ProgramContinuousDecodeMode) {latest : Option TwoRealProgramContinuousLatestFrame}
    (bootstrap : Option SwitcherDecodedFrame) (renders : SwitcherDecodedFrame → Bool)
    (hlatest : ∀ found ∈ latest, DecodedFor caches found.selection found.decodedFrame)
    (hlastValid : ∀ cached ∈ lastValid, DecodedFor caches cached.selection cached.decodedFrame)
    {selected : SwitcherProgramSelection × Option SwitcherDecodedFrame}
    (hselected : programOutputSelectionAndFrame slots realSlotIndices composition requestedClientId = selected)
    (htaken : enabled = true → TakesSlotPicture mode selected.1 lastValid latest →
      ∀ picture ∈ selected.2.or bootstrap, DecodedFor caches selected.1 picture) :
    let tick := renderTwoRealProgramOutputIfEnabled enabled composition scheduler slots realSlotIndices
      requestedClientId lastValid mode latest bootstrap renders
    (∀ picture ∈ tick.rendered, ∃ selection ∈ tick.selection, DecodedFor caches selection picture) ∧
      ∀ cached ∈ tick.latestValidFrame, DecodedFor caches cached.selection cached.decodedFrame := by
  intro tick
  cases hselected
  cases enabled with
  | false => exact ⟨nofun, nofun⟩
  | true =>
    have hrendered : ∀ picture ∈ tick.rendered, DecodedFor caches
        (programOutputSelectionAndFrame slots realSlotIndices composition requestedClientId).1 picture := by
      intro picture hpicture
      have hchoice := (Option.filter_eq_some_iff.mp hpicture).1
      rcases selectTwoRealProgramOutputRenderFrame_cases hchoice with
        ⟨found, hfound, hmatches, rfl⟩ | ⟨cached, hcached, hmatches, rfl⟩ | ⟨htakes, hpicture⟩
      · exact (hlatest found hfound).of_matches hmatches
      · exact (hlastValid cached hcached).of_matches hmatches
      · exact htaken rfl htakes picture hpicture
    refine ⟨fun picture hpicture => ⟨_, rfl, hrendered picture hpicture⟩, fun cached hcached => ?_⟩
    have hkept : (if (selectTwoRealProgramOutputRenderFrame mode _ _ _ lastValid latest).reusedPreviousFrame
        then none else tick.rendered.map fun decoded => TwoRealCachedProgramOutputFrame.mk _ decoded _) =
          some cached := hcached
    split at hkept
    next => cases hkept
    next =>
      obtain ⟨picture, hpicture, rfl⟩ := Option.map_eq_some_iff.mp hkept
      exact hrendered picture hpicture

end Selection

/-- The pictures that the loop keeps for later ticks are of the frames and the selections they are kept
for. -/
structure SourcesKept {δ : Type} (state : TwoRealPreviewLoopState δ) : Prop where
  slots : ∀ index, ∀ frame ∈ state.previousSlots index, FrameSourced state.decodedCaches frame
  lastValid : ∀ cached ∈ state.lastValidProgramFrame,
    DecodedFor state.decodedCaches cached.selection cached.decodedFrame

section Loop

variable {δ : Type} (pictures : DecoderPictures) (decode : H264DecodeRuntime δ)
  (config : TwoRealPreviewLoopConfig) (policy : SwitcherFourViewQuadLayoutPolicy)

/-- Where the program takes the picture of a slot for a request, that slot is of the run which the first real
slot configured for the client names. -/
def ServedFromNamedRun (state : TwoRealPreviewLoopState δ) (tick : TwoRealPreviewLoopTick) : Prop :=
  config.programOutputWindowEnabled = true → ∀ clientId ∈ tick.requestedClientId,
    let requested := requestedProgramSelectionFromRealSlots config.slots config.realSlotIndices clientId
    TakesSlotPicture config.programContinuousDecodeMode requested state.lastValidProgramFrame
        (state.programFrames pictures decode config tick).1 →
      ∀ found ∈ updatedSlotOfClient (state.preComposition pictures decode config tick) clientId,
        ∀ runId ∈ requested.selectedRunId, found.1.selectedRunId = some runId

/-- Every picture rendered to the program window in a tick was decoded from a frame of the client and the run
that the tick reports. -/
def ProgramShowsSource (state : TwoRealPreviewLoopState δ) (tick : TwoRealPreviewLoopTick) : Prop :=
  let after := previewLoopStep pictures decode config policy state tick
  ∀ decoded ∈ after.2.program.rendered, ∃ selection ∈ after.2.program.selection,
    DecodedFor after.1.decodedCaches selection decoded

namespace TwoRealPreviewLoopState

variable {pictures decode config} {state : TwoRealPreviewLoopState δ} {tick : TwoRealPreviewLoopTick}

/-- The caches after the tick. -/
def nextDecodedCaches (pictures : DecoderPictures) (decode : H264DecodeRuntime δ)
    (config : TwoRealPreviewLoopConfig) (state : TwoRealPreviewLoopState δ) (tick : TwoRealPreviewLoopTick) :
    List DecodedCache :=
  state.decodedCaches ++
    (List.range 4).map (fun n => (state.slotsRuntime pictures decode config tick (n + 1)).decodedCache) ++
    [(state.programContinuousLatest pictures decode config tick).2.decodedCache,
      (state.programFrames pictures decode config tick).2.2.decodedCache]

theorem decodedCaches_subset :
    state.decodedCaches ⊆ state.nextDecodedCaches pictures decode config tick := by
  intro cache hcache
  unfold nextDecodedCaches
  simp [hcache]

theorem slotsRuntime_mem (index : Fin 4) :
    (state.slotsRuntime pictures decode config tick (index + 1)).decodedCache ∈
      state.nextDecodedCaches pictures decode config tick := by
  unfold nextDecodedCaches
  refine List.mem_append_left _ (List.mem_append_right _ ?_)
  exact List.mem_map.mpr ⟨index, List.mem_range.mpr index.isLt, rfl⟩

theorem slotsRuntime_succ (index : Fin 4) :
    state.slotsRuntime pictures decode config tick (index + 1) =
      (state.connectSlot pictures decode tick index
        (state.slotsRuntime pictures decode config tick index)).2 := by
  rw [slotsRuntime, dif_pos index.isLt]

theorem preComposition_sourced (h : SourcesKept state) (index : Fin 4) :
    SlotSourced (state.nextDecodedCaches pictures decode config tick)
      (state.preComposition pictures decode config tick index) := by
  have hprevious : ∀ frame ∈ state.previousSlots index,
      FrameSourced (state.nextDecodedCaches pictures decode config tick) frame :=
    fun frame hframe => (h.slots index frame hframe).mono decodedCaches_subset
  refine slotSourced_connect (instructionSourced index (tick.scheduler index) hprevious _) ?_
  intro selected decoded hdecoded hafter
  refine ⟨_, state.slotsRuntime_mem index, ?_⟩
  rw [slotsRuntime_succ]
  unfold connectSlot
  rw [hafter]
  exact TimedSwitcherH264DecodeRuntime.hasFrom_of_decodeForPurpose rfl hdecoded

theorem programContinuousLatest_sourced {latest : TwoRealProgramContinuousLatestFrame}
    (h : (state.programContinuousLatest pictures decode config tick).1 = some latest) :
    DecodedFor (state.nextDecodedCaches pictures decode config tick) latest.selection
      latest.decodedFrame := by
  have hmem : (state.programContinuousLatest pictures decode config tick).2.decodedCache ∈
      state.nextDecodedCaches pictures decode config tick := by
    unfold nextDecodedCaches
    simp
  unfold programContinuousLatest at h hmem
  dsimp only at h hmem
  split at h
  next source hmode hsource =>
    rw [hmode, hsource] at hmem
    obtain ⟨found, hfound, rfl⟩ := Option.map_eq_some_iff.mp h
    dsimp only at hmem ⊢
    generalize requestedProgramSelectionFromRealSlots config.slots config.realSlotIndices source.clientId =
      selection at hfound hmem ⊢
    cases hrun : selection.selectedRunId with
    | none =>
      rw [hrun] at hfound
      cases hfound
    | some runId =>
      rw [hrun] at hfound hmem
      have hfrom := TimedSwitcherH264DecodeRuntime.hasFrom_of_latestContinuousProgramFrame hfound
      refine ⟨runId, ⟨_, hmem, hfrom⟩, fun selected hselected => ?_⟩
      exact Option.some.inj (hrun.symm.trans hselected)
  next => cases h

theorem bootstrapFrame_requested {composition : FourSlots RenderSlot}
    {latest : Option TwoRealProgramContinuousLatestFrame} {frame : SwitcherSingleViewSelectedEncodedFrame}
    (h : state.bootstrapFrame config tick composition latest = some frame) :
    (∃ clientId, tick.requestedClientId = some clientId) ∧
      (config.currentProgramSelection tick.requestedClientId).admits frame = true ∧
      (programOutputSelectionAndFrame config.slots config.realSlotIndices composition
        tick.requestedClientId).2 = none := by
  unfold bootstrapFrame at h
  split at h
  next hallowed =>
    simp only [Bool.and_eq_true, Option.isNone_iff_eq_none] at hallowed
    obtain ⟨⟨⟨⟨-, hrequested⟩, -⟩, -⟩, hselected⟩ := hallowed
    obtain ⟨found, hfound, h⟩ := Option.bind_eq_some_iff.mp h
    split at h
    next =>
      cases h
      exact ⟨Option.isSome_iff_exists.mp hrequested, selectedProgramSlotFrame_admits hfound, hselected⟩
    next => cases h
  next => cases h

/-- The bootstrap's picture is of the client that is asked for, and no slot has one. -/
theorem programStartupBootstrap_sourced {decoded : SwitcherDecodedFrame}
    (h : (state.programFrames pictures decode config tick).2.1 = some decoded) :
    ∃ clientId, tick.requestedClientId = some clientId ∧
      DecodedFor (state.nextDecodedCaches pictures decode config tick)
        (requestedProgramSelectionFromRealSlots config.slots config.realSlotIndices clientId) decoded ∧
      (programOutputSelectionAndFrame config.slots config.realSlotIndices
        (state.preComposition pictures decode config tick) tick.requestedClientId).2 = none := by
  have hmem : (state.programFrames pictures decode config tick).2.2.decodedCache ∈
      state.nextDecodedCaches pictures decode config tick := by
    unfold nextDecodedCaches
    simp
  unfold programFrames at h hmem
  dsimp only at h hmem
  cases hframe : state.bootstrapFrame config tick (state.preComposition pictures decode config tick)
      (state.programContinuousLatest pictures decode config tick).1 with
  | none =>
    rw [hframe] at h
    cases h
  | some frame =>
    rw [hframe] at h hmem
    obtain ⟨⟨clientId, hclient⟩, hadmits, hnone⟩ := bootstrapFrame_requested hframe
    refine ⟨clientId, hclient, ?_, hnone⟩
    rw [hclient] at hadmits
    unfold programStartupBootstrap at h hmem
    dsimp only at h hmem
    split at h
    next picture after hcall =>
      cases h
      rw [hcall] at hmem
      have hinput : (programStartupBootstrapDecodeInput frame).sourceIdentity =
          some ⟨frame.clientId, frame.runId, frame.frameId, "selected"⟩ := rfl
      have hfrom := TimedSwitcherH264DecodeRuntime.hasFrom_of_decodeForPurpose hinput
        (congrArg Prod.fst hcall)
      rw [hcall] at hfrom
      exact DecodedFrom.decodedFor hadmits ⟨_, hmem, hfrom⟩
    next => cases h

theorem programTick_sourced (h : SourcesKept state)
    (hserved : ServedFromNamedRun pictures decode config state tick) :
    let program := state.programTick pictures decode config tick
    let caches := state.nextDecodedCaches pictures decode config tick
    (∀ decoded ∈ program.rendered, ∃ selection ∈ program.selection, DecodedFor caches selection decoded) ∧
      ∀ cached ∈ program.latestValidFrame, DecodedFor caches cached.selection cached.decodedFrame := by
  refine renderTwoRealProgramOutput_source _ _ _ _ _ _ (fun latest => programContinuousLatest_sourced)
    (fun cached hcached => (h.lastValid cached hcached).mono decodedCaches_subset) rfl ?_
  intro henabled htakes decoded hdecoded
  have hslots : ∀ index, SlotSourced (state.nextDecodedCaches pictures decode config tick)
      (state.preComposition pictures decode config tick index) := preComposition_sourced h
  rcases Option.or_eq_some_iff.mp hdecoded with hpicture | ⟨hnone, hbootstrap⟩
  · cases hrequested : tick.requestedClientId with
    | none =>
      rw [hrequested] at hpicture
      exact fallbackProgramOutput_source hslots (Prod.ext rfl hpicture)
    | some clientId =>
      rw [hrequested] at hpicture htakes
      refine requestedProgramOutput_source hslots ?_ (Prod.ext rfl hpicture)
      intro found hfound runId hrun
      unfold programOutputSelectionAndFrame at htakes
      rw [requestedProgramOutput_selection (.inl ⟨runId, hrun⟩)] at htakes
      exact hserved henabled clientId hrequested htakes found hfound runId hrun
  · obtain ⟨clientId, hrequested, hfor, -⟩ := programStartupBootstrap_sourced hbootstrap
    rw [hrequested] at hnone ⊢
    unfold programOutputSelectionAndFrame at hnone ⊢
    rw [requestedProgramOutput_selection (.inr hnone)]
    exact hfor

theorem nextLastValid_sourced (h : SourcesKept state)
    (hserved : ServedFromNamedRun pictures decode config state tick) :
    ∀ cached ∈ state.nextLastValidProgramFrame pictures decode config tick,
      DecodedFor (state.nextDecodedCaches pictures decode config tick) cached.selection
        cached.decodedFrame := by
  intro cached hcached
  rcases Option.or_eq_some_iff.mp hcached with hnew | ⟨-, hold⟩
  · exact (programTick_sourced h hserved).2 cached hnew
  · exact (h.lastValid cached hold).mono decodedCaches_subset

theorem operatorPreviewReuse_sourced (h : SourcesKept state)
    (hserved : ServedFromNamedRun pictures decode config state tick) {selection : SwitcherProgramSelection}
    {decoded : SwitcherDecodedFrame}
    (hreuse : state.operatorPreviewReuse pictures decode config tick = some (selection, decoded)) :
    DecodedFor (state.nextDecodedCaches pictures decode config tick) selection decoded ∧
      ∀ slotIndex, selection.selectedSlotIndex = some slotIndex →
        ∃ runId, selection.selectedRunId = some runId := by
  unfold operatorPreviewReuse at hreuse
  split at hreuse
  next =>
    obtain ⟨clientId, -, hreuse⟩ := Option.bind_eq_some_iff.mp hreuse
    obtain ⟨picture, hpicture, hreuse⟩ := Option.bind_eq_some_iff.mp hreuse
    obtain ⟨rfl, rfl⟩ := Prod.mk.inj (Option.some.inj hreuse)
    refine ⟨?_, fun slotIndex hslot => requestedProgramSelection_run hslot⟩
    unfold operatorPreviewProgramReuseCandidate at hpicture
    split at hpicture
    next latest hlatest =>
      obtain ⟨hfound, hmatches⟩ := Option.filter_eq_some_iff.mp hlatest
      cases hpicture
      exact (programContinuousLatest_sourced hfound).of_matches hmatches
    next =>
      obtain ⟨cached, hcached, rfl⟩ := Option.map_eq_some_iff.mp hpicture
      obtain ⟨hfound, hmatches⟩ := Option.filter_eq_some_iff.mp hcached
      exact (nextLastValid_sourced h hserved cached hfound).of_matches hmatches
  next => cases hreuse

theorem previewSlot_sourced (h : SourcesKept state)
    (hserved : ServedFromNamedRun pictures decode config state tick) (index : Fin 4) :
    SlotSourced (state.nextDecodedCaches pictures decode config tick)
      (state.previewSlot pictures decode config tick index) := by
  have hslot : SlotSourced (state.nextDecodedCaches pictures decode config tick)
      (state.preComposition pictures decode config tick index) := preComposition_sourced h index
  have hreused : SlotSourced (state.nextDecodedCaches pictures decode config tick)
      (state.reusedSlot pictures decode config tick index) := by
    unfold reusedSlot
    dsimp only
    split
    next selection decoded hreuse =>
      obtain ⟨hfor, hruns⟩ := operatorPreviewReuse_sourced h hserved hreuse
      split
      next hindex =>
        obtain ⟨runId, hrun⟩ := hruns _ hindex
        exact slotSourced_reuse hslot hrun hfor
      next => exact hslot
    next => exact hslot
  unfold previewSlot
  dsimp only
  split
  next =>
    exact slotSourced_retain hreused fun frame hframe =>
      (h.slots index frame hframe).mono decodedCaches_subset
  next => exact hreused

/-- One tick shows pictures of the source that it reports, and keeps its pictures with their sources. -/
theorem next_showsSource (h : SourcesKept state)
    (hserved : ServedFromNamedRun pictures decode config state tick) :
    ProgramShowsSource pictures decode config policy state tick ∧
      SourcesKept (previewLoopStep pictures decode config policy state tick).1 := by
  refine ⟨(programTick_sourced h hserved).1, ⟨fun index => ?_, nextLastValid_sourced h hserved⟩⟩
  exact (previewSlot_sourced h hserved index).updatePreviousSlot fun frame hframe =>
    (h.slots index frame hframe).mono decodedCaches_subset

end TwoRealPreviewLoopState

/-- In every run in which the program takes the pictures of slots only from the run that the request's own
slot names, every picture in the program window is of the source that is reported with it. -/
theorem program_output_shows_source (inner : δ) (ticks : List TwoRealPreviewLoopTick)
    (h : Along (previewLoopStep pictures decode config policy) (ServedFromNamedRun pictures decode config)
      (.start config inner) ticks) :
    Along (previewLoopStep pictures decode config policy) (ProgramShowsSource pictures decode config policy)
      (.start config inner) ticks := by
  have hstart : SourcesKept (TwoRealPreviewLoopState.start config inner) := ⟨fun _ => nofun, nofun⟩
  exact h.always (fun _ _ hkept hserved => TwoRealPreviewLoopState.next_showsSource policy hkept hserved) hstart

end Loop

theorem program_output_shows_source_once :
    Along (previewLoopStep emitsZeros decodesBlack twoCameras .default)
      (ProgramShowsSource emitsZeros decodesBlack twoCameras .default) (.start twoCameras ())
      [tickWith (handoffKeyframe "camera-0" "run-0" 7) (handoffNothing "camera-1" "run-1")] := by
  refine program_output_shows_source emitsZeros decodesBlack twoCameras .default () _ ⟨?_, trivial⟩
  intro _ clientId hclient _ _ found hfound runId hrun
  cases hclient
  have hslot : updatedSlotOfClient (TwoRealPreviewLoopState.preComposition emitsZeros decodesBlack twoCameras
      (.start twoCameras ())
      (tickWith (handoffKeyframe "camera-0" "run-0" 7) (handoffNothing "camera-1" "run-1"))) "camera-0" =
        some (⟨"camera-0", some "run-0", some 0⟩, blackPicture) := by
    decide +kernel
  cases hslot.symm.trans hfound
  have hnamed : (requestedProgramSelectionFromRealSlots twoCameras.slots twoCameras.realSlotIndices
      "camera-0").selectedRunId = some "run-0" := by
    decide +kernel
  exact hnamed.symm.trans hrun

/-- The camera in both slots, in two runs of it. -/
def oneCameraTwice : TwoRealPreviewLoopConfig := { twoCameras with client1Id := "camera-0" }

def secondRunTick : TwoRealPreviewLoopTick :=
  tickWith (handoffNothing "camera-0" "run-0") (handoffKeyframe "camera-0" "run-1" 7)

/-- The second slot's picture is on air and the first slot's run is reported with it. -/
theorem program_output_shows_other_run :
    ¬(∀ (pictures : DecoderPictures) (decode : H264DecodeRuntime Unit) (config : TwoRealPreviewLoopConfig)
      (policy : SwitcherFourViewQuadLayoutPolicy) (inner : Unit) (ticks : List TwoRealPreviewLoopTick),
      Along (previewLoopStep pictures decode config policy)
        (ProgramShowsSource pictures decode config policy) (.start config inner) ticks) := by
  intro h
  obtain ⟨hshows, -⟩ := h emitsZeros decodesBlack oneCameraTwice .default () [secondRunTick]
  have hrendered : ((TwoRealPreviewLoopState.start oneCameraTwice ()).programTick emitsZeros decodesBlack
      oneCameraTwice secondRunTick).rendered = some blackPicture := by
    decide +kernel
  have hreported : ((TwoRealPreviewLoopState.start oneCameraTwice ()).programTick emitsZeros decodesBlack
      oneCameraTwice secondRunTick).selection = some ⟨"camera-0", some "run-0", some 0⟩ := by
    decide +kernel
  have hcaches : ∀ cache ∈ (TwoRealPreviewLoopState.start oneCameraTwice ()).nextDecodedCaches emitsZeros
      decodesBlack oneCameraTwice secondRunTick, ∀ entry ∈ cache.entries,
        ∀ source ∈ entry.1.sourceIdentity, source.runId ≠ "run-0" := by
    decide +kernel
  obtain ⟨selection, hselection, runId, ⟨cache, hcache, key, source, hlookup, hsource, -, hrun⟩, hruns⟩ :=
    hshows blackPicture hrendered
  cases hreported.symm.trans hselection
  cases hruns "run-0" rfl
  exact hcaches cache hcache ⟨key, blackPicture⟩ (AList.mem_lookup_iff.mp hlookup) source hsource hrun

end StreamSync
