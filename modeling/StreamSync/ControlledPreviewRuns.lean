import StreamSync.ControlledPreviewSlots

namespace StreamSync

open Effect

/-- What the window is given for a view of the slots: all of them drawn, or the picture of the one that is
focused, at the size of the output. -/
inductive ViewPicture (slots : FourSlots RenderSlot) : ViewState → SwitcherDecodedFrameRenderInput → Prop where
  | allView {size : Nat × Nat} (ready : quadReady slots = .ok size) :
    ViewPicture slots .allView ⟨1280, 720, .bgra8, freshPixels .default slots size⟩
  | focused {slotIndex : Fin 4} {picture : SwitcherDecodedFrame} {pixels : List UInt8}
    (shown : (slots slotIndex).renderableFrame = some picture)
    (scaled : Rescaled picture.width.toNat picture.height.toNat 1280 720 picture.pixels pixels) :
    ViewPicture slots (.focused slotIndex) ⟨1280, 720, .bgra8, pixels⟩

section Pictures

variable {setup : ControlledPreviewSetup} {allowed : ServerQueuedVideoFrame → Prop}
  {world : PreviewWorld} {slots : FourSlots RenderSlot}

/-- The picture is the one of the view, made of slots that show their own frames. -/
structure ControlledPreviewSetup.Shows (setup : ControlledPreviewSetup)
    (allowed : ServerQueuedVideoFrame → Prop) (view : ViewState) (picture : ShownPicture) : Prop where
  asked : picture.view = view
  slots : setup.OwnSlots allowed picture.slots
  frame : ViewPicture picture.slots view picture.frame

/-- The window was given one picture, and answered it as the result says, or none. -/
def ControlledPreviewSetup.Presents (setup : ControlledPreviewSetup)
    (allowed : ServerQueuedVideoFrame → Prop) (view : ViewState) (before after : PreviewWorld)
    (answered : SwitcherWindowRenderResult → Prop) (unanswered : Prop) : Prop :=
  after.handoff = before.handoff ∧
    ((∃ picture, after.shown = before.shown ++ [picture] ∧ setup.Shows allowed view picture ∧
        answered picture.result) ∨
      after.shown = before.shown ∧ unanswered)

theorem composeQuadView_spec (hslots : setup.OwnSlots allowed slots) :
    Succeeds (ControlledPreviewSetup.composeQuadView slots) world fun composition world' =>
      world' = world ∧ composeFourViewQuadCanvas ⟨slots, hslots.placed⟩ .default = some composition := by
  obtain ⟨composition, hcomposed⟩ := Option.ne_none_iff_exists'.mp
    (composeFourViewQuadCanvas_ne_none ⟨slots, hslots.placed⟩ .default)
  refine ⟨composition, world, ?_, rfl, hcomposed⟩
  unfold ControlledPreviewSetup.composeQuadView
  rw [dif_pos hslots.placed, hcomposed]
  rfl

theorem renderOnce_spec {view : ViewState} {frame : SwitcherDecodedFrameRenderInput}
    (hslots : setup.OwnSlots allowed slots) (hframe : ViewPicture slots view frame) :
    Succeeds (setup.renderOnce view slots frame) world fun result world' =>
      setup.Presents allowed view world world' (· = result) False :=
  ⟨_, _, rfl, rfl, .inl ⟨_, rfl, ⟨rfl, hslots, hframe⟩, rfl⟩⟩

theorem scaleFourViewBgraFromSlice_same {frame : SwitcherDecodedFrameRenderInput}
    {scaled : SwitcherDecodedFrameRenderInput × BgraRenderBufferDiagnostics}
    (h : scaleFourViewBgraFromSlice frame.width frame.height frame.pixelFormat frame.pixels frame.width
      frame.height none = some scaled) : scaled.1 = frame := by
  unfold scaleFourViewBgraFromSlice at h
  dsimp only at h
  obtain ⟨taken, -, h⟩ := Option.bind_eq_some_iff.mp h
  rw [if_pos ⟨rfl, rfl⟩] at h
  split at h
  next =>
    cases h
    rfl
  next => cases h

theorem pixelFormat_scaleFourViewBgraFromSlice {width height outputWidth outputHeight : UInt32}
    {pixelFormat : SwitcherDecodedFramePixelFormat} {source : List UInt8} {slot : Option ReusableObsRenderBuffer}
    {scaled : SwitcherDecodedFrameRenderInput × BgraRenderBufferDiagnostics}
    (h : scaleFourViewBgraFromSlice width height pixelFormat source outputWidth outputHeight slot = some scaled) :
    scaled.1.pixelFormat = pixelFormat := by
  unfold scaleFourViewBgraFromSlice at h
  dsimp only at h
  obtain ⟨taken, -, h⟩ := Option.bind_eq_some_iff.mp h
  split at h
  next =>
    split at h
    next =>
      cases h
      rfl
    next => cases h
  next =>
    split at h
    next =>
      obtain ⟨pixels, -, h⟩ := Option.bind_eq_some_iff.mp h
      cases h
      rfl
    next =>
      obtain ⟨pixels, -, h⟩ := Option.bind_eq_some_iff.mp h
      cases h
      rfl

theorem fromComposedFrame_ok {frame : SwitcherFourViewComposedFrame} {input : SwitcherDecodedFrameRenderInput}
    (h : fromComposedFrame frame = .ok input) :
    frame.pixelFormat = .bgra8 ∧ input = ⟨frame.width, frame.height, .bgra8, frame.pixels⟩ := by
  unfold fromComposedFrame at h
  split at h
  next => cases h
  next hformat =>
    have hbgra := not_not.mp hformat
    split at h
    next => cases h
    next =>
      split at h
      next => cases h
      next =>
        split at h
        next => cases h
        next =>
          cases h
          exact ⟨hbgra, by rw [hbgra]⟩

theorem scaleToObsOutput_spec {frame : SwitcherDecodedFrameRenderInput}
    {scaled : SwitcherDecodedFrameRenderInput × BgraRenderBufferDiagnostics}
    (hscaled : scaleFourViewBgraFromSlice frame.width frame.height frame.pixelFormat frame.pixels 1280 720 none =
      some scaled) :
    Succeeds (ControlledPreviewSetup.scaleToObsOutput frame) world fun output world' =>
      output = scaled.1 ∧ world' = world := by
  refine ⟨scaled.1, world, ?_, rfl, rfl⟩
  unfold ControlledPreviewSetup.scaleToObsOutput
  rw [hscaled]
  rfl

theorem obsRenderOnce_spec {view : ViewState} {frame : SwitcherDecodedFrameRenderInput}
    (hslots : setup.OwnSlots allowed slots)
    (hsame : frame.width = 1280 ∧ frame.height = 720 → ViewPicture slots view frame)
    (hother : ¬ (frame.width = 1280 ∧ frame.height = 720) → ∃ scaled,
      scaleFourViewBgraFromSlice frame.width frame.height frame.pixelFormat frame.pixels 1280 720 none =
        some scaled ∧ ViewPicture slots view scaled.1) :
    Succeeds (setup.obsRenderOnce view slots frame) world fun result world' =>
      setup.Presents allowed view world world' (· = result) False := by
  unfold ControlledPreviewSetup.obsRenderOnce
  dsimp only
  split
  next h => exact Succeeds.bind (succeeds_pure (renderOnce_spec hslots (hsame h)))
  next h =>
    obtain ⟨scaled, hscaled, hframe⟩ := hother h
    refine Succeeds.bind ((scaleToObsOutput_spec hscaled).mono fun output world' h => ?_)
    obtain ⟨rfl, rfl⟩ := h
    exact renderOnce_spec hslots hframe

theorem renderCleanOutput_spec (hslots : setup.OwnSlots allowed slots)
    {composition : SwitcherFourViewQuadCompositionResult}
    (hcomposed : composeFourViewQuadCanvas ⟨slots, hslots.placed⟩ .default = some composition) :
    Succeeds (setup.renderCleanOutput slots composition) world fun cleanOutput world' =>
      setup.Presents allowed .allView world world' (cleanOutput = .renderReady ·)
        (∀ result, cleanOutput ≠ .renderReady result) := by
  cases composition with
  | noRenderableQuadView => exact succeeds_pure ⟨rfl, .inr ⟨rfl, fun _ h => by cases h⟩⟩
  | invalidQuadView => exact succeeds_pure ⟨rfl, .inr ⟨rfl, fun _ h => by cases h⟩⟩
  | composedFrame frame =>
    unfold ControlledPreviewSetup.renderCleanOutput
    dsimp only
    cases hinput : fromComposedFrame frame with
    | error => exact succeeds_pure ⟨rfl, .inr ⟨rfl, fun _ h => by cases h⟩⟩
    | ok input =>
      obtain ⟨hformat, rfl⟩ := fromComposedFrame_ok hinput
      obtain ⟨size, scaled, hready, hscaled, hwidth, hheight, hpixels⟩ :=
        directComposition_composed hcomposed none
      have hbgra := pixelFormat_scaleFourViewBgraFromSlice hscaled
      have hframe : ViewPicture slots .allView scaled.1 := by
        rw [show scaled.1 = ⟨scaled.1.width, scaled.1.height, scaled.1.pixelFormat, scaled.1.pixels⟩ from rfl,
          hwidth, hheight, hbgra, hformat, hpixels]
        exact .allView hready
      rw [hformat] at hscaled
      refine Succeeds.bind ((obsRenderOnce_spec hslots (fun hsame => ?_) fun _ => ⟨scaled, hscaled, hframe⟩).mono
        fun result world' h => ?_)
      · obtain ⟨hw, hh⟩ := hsame
        dsimp only at hw hh ⊢
        rw [← hw, ← hh] at hscaled
        rwa [← @scaleFourViewBgraFromSlice_same ⟨frame.width, frame.height, .bgra8, frame.pixels⟩ _ hscaled]
      · rcases h.2 with ⟨picture, hpicture, hshows, rfl⟩ | ⟨-, hfalse⟩
        · exact succeeds_pure ⟨h.1, .inl ⟨picture, hpicture, hshows, rfl⟩⟩
        · exact hfalse.elim

theorem fromDecodedFrame_spec {picture : SwitcherDecodedFrame} {input : SwitcherDecodedFrameRenderInput}
    (h : SwitcherDecodedFrameRenderInput.fromDecodedFrame picture = .ok input) :
    0 < picture.width.toNat ∧ 0 < picture.height.toNat ∧
      input = ⟨picture.width, picture.height, .bgra8, picture.pixels⟩ := by
  unfold SwitcherDecodedFrameRenderInput.fromDecodedFrame at h
  dsimp only at h
  split at h
  next => cases h
  next hformat =>
    split at h
    next => cases h
    next hsize =>
      split at h
      next => cases h
      next =>
        cases h
        have hwidth : picture.width.toNat ≠ 0 := fun h => hsize (.inl (UInt32.toNat_inj.mp h))
        have hheight : picture.height.toNat ≠ 0 := fun h => hsize (.inr (UInt32.toNat_inj.mp h))
        exact ⟨Nat.pos_of_ne_zero hwidth, Nat.pos_of_ne_zero hheight, by rw [not_not.mp hformat]⟩

theorem renderFocusedSlot_spec (hdecodes : setup.Decodable allowed) (hslots : setup.OwnSlots allowed slots)
    (index : Fin 4) :
    Succeeds (setup.renderFocusedSlot index slots) world fun kind world' =>
      setup.Presents allowed (.focused index) world world' (kind = ·.kind)
        (kind = "NoRenderableFocusedView" ∨ kind = "InvalidFrame") := by
  unfold ControlledPreviewSetup.renderFocusedSlot
  cases hpicture : (slots index).renderableFrame with
  | none => exact succeeds_pure ⟨rfl, .inr ⟨rfl, .inl rfl⟩⟩
  | some picture =>
    dsimp only
    cases hinput : SwitcherDecodedFrameRenderInput.fromDecodedFrame picture with
    | error => exact succeeds_pure ⟨rfl, .inr ⟨rfl, .inr rfl⟩⟩
    | ok input =>
      obtain ⟨hwidth, hheight, rfl⟩ := fromDecodedFrame_spec hinput
      obtain ⟨frame, count, hwanted, hdecoded⟩ := hslots.own index picture hpicture
      obtain ⟨hframeWidth, hframeHeight, hbytes⟩ := decodeWithOneShotFfmpegRuntime_decoded hdecoded
      have hlength : picture.pixels.length = picture.height.toNat * picture.width.toNat * 4 := by
        have hexact : picture.pixels.length = 4 * (frame.width.toNat * frame.height.toNat) :=
          hbytes.trans (hdecodes.wanted hwanted).2
        rw [hexact, hframeWidth, hframeHeight]
        change 4 * (frame.width.toNat * frame.height.toNat) = frame.height.toNat * frame.width.toNat * 4
        rw [Nat.mul_comm 4, Nat.mul_comm frame.width.toNat]
      have hscales : ScalesExactly picture.width picture.height 1280 720 :=
        scalesExactly_of_fits hwidth hheight (by decide) (by decide) (by decide)
          fun hdouble => absurd hdouble.2 (by decide)
      obtain ⟨scaled, hscaled, hw, hh, hbgra, hrescaled⟩ := hscales picture.pixels hlength .bgra8 none
      have hframe : ViewPicture slots (.focused index) scaled.1 := by
        rw [show scaled.1 = ⟨scaled.1.width, scaled.1.height, scaled.1.pixelFormat, scaled.1.pixels⟩ from rfl,
          hw, hh, hbgra]
        exact .focused hpicture hrescaled
      refine Succeeds.bind ((scaleToObsOutput_spec hscaled).mono fun output world' h => ?_)
      obtain ⟨rfl, rfl⟩ := h
      refine Succeeds.bind ((obsRenderOnce_spec hslots (fun _ => hframe) fun hother => ?_).mono
        fun result world' h => ?_)
      · exact (hother ⟨hw, hh⟩).elim
      · rcases h.2 with ⟨shown, hshown, hshows, rfl⟩ | ⟨-, hfalse⟩
        · exact succeeds_pure ⟨h.1, .inl ⟨shown, hshown, hshows, rfl⟩⟩
        · exact hfalse.elim

end Pictures

section Ticks

variable {setup : ControlledPreviewSetup} {allowed : ServerQueuedVideoFrame → Prop}

/-- The pictures of a view that the window was given meanwhile. -/
structure ControlledPreviewSetup.Gave (setup : ControlledPreviewSetup)
    (allowed : ServerQueuedVideoFrame → Prop) (view : ViewState) (before after : PreviewWorld)
    (pictures : List ShownPicture) : Prop where
  undisturbed : Undisturbed allowed before after
  shown : after.shown = before.shown ++ pictures
  shows : ∀ picture ∈ pictures, setup.Shows allowed view picture

theorem ControlledPreviewSetup.Gave.trans {view : ViewState} {first second third : PreviewWorld}
    {pictures pictures' : List ShownPicture} (h : setup.Gave allowed view first second pictures)
    (h' : setup.Gave allowed view second third pictures') :
    setup.Gave allowed view first third (pictures ++ pictures') where
  undisturbed := h.undisturbed.trans h'.undisturbed
  shown := by rw [h'.shown, h.shown, List.append_assoc]
  shows picture hpicture := (List.mem_append.mp hpicture).elim (h.shows picture) (h'.shows picture)

def ShownPicture.rendered (picture : ShownPicture) : Bool := picture.result = .rendered

/-- What counts as a failure of the window; only in a focused view does an invalid frame. -/
def ShownPicture.failed (picture : ShownPicture) : Bool :=
  picture.result = .renderFailed || picture.view ≠ .allView && picture.result = .invalidFrame

/-- What the counters of the ticks say of the pictures; some more ticks fail in a focused view, for a picture
that cannot be given to the window. -/
structure ControlledPreviewTicks.Counts (ticks : ControlledPreviewTicks) (view : ViewState) (n : Nat)
    (pictures : List ShownPicture) (unshown : Nat) : Prop where
  atMost : pictures.length + unshown ≤ n
  focused : view = .allView → unshown = 0
  rendered : ticks.framesRendered = UInt32.ofNat (pictures.countP ShownPicture.rendered)
  failures : ticks.renderFailures = UInt32.ofNat (pictures.countP ShownPicture.failed + unshown)

def ViewState.Valid (view : ViewState) : Prop := ∀ slotIndex, view = .focused slotIndex → slotIndex < 4

theorem ofNat_countP_snoc {pictures : List ShownPicture} {picture : ShownPicture} {p : ShownPicture → Bool} :
    UInt32.ofNat ((pictures ++ [picture]).countP p) =
      if p picture = true then UInt32.ofNat (pictures.countP p) + 1 else UInt32.ofNat (pictures.countP p) := by
  rw [List.countP_append, List.countP_singleton]
  split
  next => exact UInt32.ofNat_add _ _
  next => rw [Nat.add_zero]

theorem allView_counts {ticks ticks' : ControlledPreviewTicks} {n unshown : Nat} {pictures : List ShownPicture}
    (h : ticks.Counts .allView n pictures unshown) {before after : PreviewWorld}
    {cleanOutput : FourViewCleanOutput}
    (hpresents : setup.Presents allowed .allView before after (cleanOutput = .renderReady ·)
      (∀ result, cleanOutput ≠ .renderReady result)) (hwatch : Watchable allowed before.handoff)
    (hrendered : ticks'.framesRendered =
      if cleanOutput = .renderReady .rendered then ticks.framesRendered + 1 else ticks.framesRendered)
    (hfailures : ticks'.renderFailures =
      if cleanOutput = .renderReady .renderFailed then ticks.renderFailures + 1 else ticks.renderFailures) :
    ∃ more unshown', setup.Gave allowed .allView before after more ∧
      ticks'.Counts .allView (n + 1) (pictures ++ more) unshown' := by
  obtain ⟨hhandoff, ⟨picture, hshown, hshows, rfl⟩ | ⟨hshown, hnone⟩⟩ := hpresents
  · have hgave : setup.Gave allowed .allView before after [picture] :=
      ⟨.of_eq hwatch hhandoff, hshown, fun _ hp => by rwa [List.mem_singleton.mp hp]⟩
    refine ⟨[picture], unshown, hgave, ?_, h.focused, ?_, ?_⟩
    · have hlen := h.atMost
      rw [List.length_append, List.length_singleton]
      omega
    · rw [hrendered, h.rendered, ofNat_countP_snoc]
      simp [ShownPicture.rendered]
    · have hzero := h.focused rfl
      subst hzero
      rw [hfailures, h.failures, Nat.add_zero, Nat.add_zero, ofNat_countP_snoc]
      simp [ShownPicture.failed, hshows.asked]
  · have hgave : setup.Gave allowed .allView before after [] :=
      ⟨.of_eq hwatch hhandoff, by rw [hshown, List.append_nil], fun _ hp => by cases hp⟩
    refine ⟨[], unshown, hgave, ?_, h.focused, ?_, ?_⟩
    · have hlen := h.atMost
      rw [List.append_nil]
      omega
    · rw [hrendered, if_neg (hnone _), List.append_nil, h.rendered]
    · rw [hfailures, if_neg (hnone _), List.append_nil, h.failures]

theorem kind_eq_rendered_iff (result : SwitcherWindowRenderResult) :
    result.kind = "Rendered" ↔ result = .rendered := by
  cases result <;> simp [SwitcherWindowRenderResult.kind]

theorem kind_failed_iff (result : SwitcherWindowRenderResult) :
    (result.kind = "RenderFailed" ∨ result.kind = "InvalidFrame") ↔
      result = .renderFailed ∨ result = .invalidFrame := by
  cases result <;> simp [SwitcherWindowRenderResult.kind]

theorem focused_counts {ticks ticks' : ControlledPreviewTicks} {index : Fin 4} {n unshown : Nat}
    {pictures : List ShownPicture} (h : ticks.Counts (.focused index) n pictures unshown)
    {before after : PreviewWorld} {kind : String}
    (hpresents : setup.Presents allowed (.focused index) before after (kind = ·.kind)
      (kind = "NoRenderableFocusedView" ∨ kind = "InvalidFrame")) (hwatch : Watchable allowed before.handoff)
    (hrendered : ticks'.framesRendered =
      if kind = "Rendered" then ticks.framesRendered + 1 else ticks.framesRendered)
    (hfailures : ticks'.renderFailures =
      if kind = "RenderFailed" ∨ kind = "InvalidFrame" then ticks.renderFailures + 1 else ticks.renderFailures) :
    ∃ more unshown', setup.Gave allowed (.focused index) before after more ∧
      ticks'.Counts (.focused index) (n + 1) (pictures ++ more) unshown' := by
  have hlen := h.atMost
  obtain ⟨hhandoff, ⟨picture, hshown, hshows, rfl⟩ | ⟨hshown, hkind⟩⟩ := hpresents
  · refine ⟨[picture], unshown, ⟨.of_eq hwatch hhandoff, hshown, fun _ hp => by rwa [List.mem_singleton.mp hp]⟩, ?_,
      fun hview => (by cases hview), ?_, ?_⟩
    · rw [List.length_append, List.length_singleton]
      omega
    · rw [hrendered, h.rendered, ofNat_countP_snoc]
      simp [ShownPicture.rendered, kind_eq_rendered_iff]
    · rw [hfailures, h.failures, UInt32.ofNat_add, UInt32.ofNat_add, ofNat_countP_snoc]
      simp only [kind_failed_iff, ShownPicture.failed, hshows.asked, ne_eq, reduceCtorEq, not_false_eq_true,
        decide_true, Bool.true_and, Bool.or_eq_true, decide_eq_true_eq]
      split
      next => rw [UInt32.add_assoc, UInt32.add_comm (UInt32.ofNat unshown), UInt32.add_assoc]
      next => rfl
  · have hnotRendered : kind ≠ "Rendered" := by
      rcases hkind with rfl | rfl <;> decide
    have hgave : setup.Gave allowed (.focused index) before after [] :=
      ⟨.of_eq hwatch hhandoff, by rw [hshown, List.append_nil], fun _ hp => by cases hp⟩
    rcases hkind with rfl | rfl
    · refine ⟨[], unshown, hgave, ?_, fun hview => (by cases hview), ?_, ?_⟩
      · rw [List.append_nil]
        omega
      · rw [hrendered, if_neg hnotRendered, List.append_nil, h.rendered]
      · rw [hfailures, if_neg (by decide), List.append_nil, h.failures]
    · refine ⟨[], unshown + 1, hgave, ?_, fun hview => (by cases hview), ?_, ?_⟩
      · rw [List.append_nil]
        omega
      · rw [hrendered, if_neg hnotRendered, List.append_nil, h.rendered]
      · rw [hfailures, if_pos (.inr rfl), List.append_nil, h.failures, ← Nat.add_assoc]
        exact (UInt32.ofNat_add _ 1).symm

/-- The kinds that the ticks have noted are plain words. -/
structure ControlledPreviewTicks.Plain (ticks : ControlledPreviewTicks) : Prop where
  slots : ∀ index, PlainValue (ticks.slotResultKinds index)
  cleanOutput : PlainValue ticks.cleanOutputRenderResultKind
  allView : PlainValue ticks.allViewRenderResultKind

theorem SwitcherWindowRenderResult.kind_plain (result : SwitcherWindowRenderResult) : PlainValue result.kind := by
  cases result <;> decide

theorem FourViewCleanOutput.kind_plain (cleanOutput : FourViewCleanOutput) : PlainValue cleanOutput.kind := by
  cases cleanOutput with
  | renderReady render => exact render.kind_plain
  | noRenderableQuadView => decide
  | invalidQuadView => decide

theorem plainValue_slotKind (result : SwitcherSingleClientTargetTimeHandoffSourceResult) :
    PlainValue (formatFourViewRealHandoffSchedulerSlotKind result) := by
  cases result with
  | selected => exact (by decide : PlainValue "Selected")
  | noFrameAvailable => exact (by decide : PlainValue "NoFrameAvailable")
  | waitingForFrameAtOrBeforeTarget => exact (by decide : PlainValue "WaitingForFrameAtOrBeforeTarget")
  | handoffError => exact (by decide : PlainValue "HandoffError")

theorem plain_start (view : ViewState) : (ControlledPreviewTicks.start view).Plain where
  slots _ := (by decide : PlainValue "NoFrameAvailable")
  cleanOutput := by
    cases view with
    | allView => exact (by decide : PlainValue "NoRenderableQuadView")
    | focused => exact (by decide : PlainValue "NoRenderableFocusedView")
  allView := (by decide : PlainValue "not_applicable")

theorem ControlledPreviewTicks.Plain.rendered {ticks : ControlledPreviewTicks} (h : ticks.Plain)
    (view : ViewState) : PlainRender (ticks.rendered view).outcome where
  viewRenderMode := by
    cases view with
    | allView => exact (by decide : PlainValue "AllView")
    | focused => exact (by decide : PlainValue "Focused")
  outputLayout := by
    cases view with
    | allView => exact (by decide : PlainValue "QuadView")
    | focused => exact (by decide : PlainValue "FocusedFullWindow")
  selectedSlotResult := by
    cases view with
    | allView => exact (by decide : PlainValue "NotApplicable")
    | focused slotIndex =>
      change PlainValue (dite _ _ _)
      split
      next hslot => exact h.slots ⟨slotIndex, hslot⟩
      next => exact (by decide : PlainValue "NoFrameAvailable")
  cleanOutputRenderResultKind := h.cleanOutput
  allViewRenderResultKind := h.allView

/-- Where a run of ticks stands after some of them. -/
def ControlledPreviewSetup.TicksStand (setup : ControlledPreviewSetup)
    (allowed : ServerQueuedVideoFrame → Prop) (view : ViewState) (start : PreviewWorld) (n : Nat)
    (ticks : ControlledPreviewTicks) (world : PreviewWorld) : Prop :=
  ticks.Plain ∧
    ∃ pictures unshown, setup.Gave allowed view start world pictures ∧ ticks.Counts view n pictures unshown

theorem ControlledPreviewSetup.Gave.stand {view : ViewState} {start before after : PreviewWorld} {n : Nat}
    {ticks : ControlledPreviewTicks} {pictures : List ShownPicture}
    (h : setup.Gave allowed view start before pictures) (hplain : ticks.Plain)
    (hmore : ∃ more unshown, setup.Gave allowed view before after more ∧
      ticks.Counts view (n + 1) (pictures ++ more) unshown) :
    setup.TicksStand allowed view start (n + 1) ticks after := by
  obtain ⟨more, unshown, hgave, hcounts⟩ := hmore
  exact ⟨hplain, pictures ++ more, unshown, h.trans hgave, hcounts⟩

theorem tick_stands (hdecodes : setup.Decodable allowed) {view : ViewState} (hview : view.Valid)
    {start world : PreviewWorld} {n : Nat} {ticks : ControlledPreviewTicks}
    (h : setup.TicksStand allowed view start n ticks world) :
    Succeeds (setup.tick view ticks) world (setup.TicksStand allowed view start (n + 1)) := by
  obtain ⟨hplain, pictures, unshown, hgave, hcounts⟩ := h
  refine Succeeds.bind ((select_spec hgave.undisturbed.watchable).mono ?_)
  rintro results world1 ⟨⟨hselected, hshown1⟩, hwanted⟩
  refine Succeeds.bind ((connectSlots_spec hdecodes hwanted).mono ?_)
  rintro slots world2 ⟨⟨hhandoff2, hshown2⟩, hslots⟩
  refine Succeeds.bind ((composeQuadView_spec hslots).mono ?_)
  rintro composition world' ⟨rfl, hcomposed⟩
  have hwatch : Undisturbed allowed world world' :=
    ⟨by rw [hhandoff2]; exact hselected.watchable, by rw [hhandoff2]; exact hselected.watched⟩
  have hbefore : setup.Gave allowed view start world' pictures :=
    ⟨hgave.undisturbed.trans hwatch, by rw [hshown2, hshown1, hgave.shown], hgave.shows⟩
  cases view with
  | allView =>
    refine Succeeds.bind ((renderCleanOutput_spec hslots hcomposed).mono fun cleanOutput after hpresents => ?_)
    refine succeeds_pure (hbefore.stand ⟨fun index => plainValue_slotKind (results index), cleanOutput.kind_plain,
      cleanOutput.kind_plain⟩ (allView_counts hcounts hpresents hwatch.watchable ?_ ?_)) <;> rfl
  | focused slotIndex =>
    have hslot : slotIndex < 4 := hview slotIndex rfl
    dsimp only
    rw [dif_pos hslot]
    refine Succeeds.bind ((renderFocusedSlot_spec hdecodes hslots ⟨slotIndex, hslot⟩).mono
      fun kind after hpresents => ?_)
    have hkind : PlainValue kind := by
      rcases hpresents.2 with ⟨picture, -, -, rfl⟩ | ⟨-, rfl | rfl⟩
      · exact picture.result.kind_plain
      · decide
      · decide
    refine succeeds_pure (hbefore.stand ⟨fun index => plainValue_slotKind (results index), hkind, hplain.allView⟩
      (focused_counts hcounts hpresents hwatch.watchable ?_ ?_)) <;> rfl

end Ticks

end StreamSync
