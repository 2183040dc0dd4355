import StreamSync.Lib.Run
import StreamSync.QuadDrawing

namespace StreamSync

open Painting Run

def placeholderRowOf (width : Nat) (color : Vector UInt8 4) : List UInt8 :=
  (List.replicate width color.toList).flatten

theorem length_placeholderRowOf (width : Nat) (color : Vector UInt8 4) :
    (placeholderRowOf width color).length = width * 4 := by
  simp [placeholderRowOf]

theorem fillBgra_resized (bytes : List UInt8) (width : Nat) (color : Vector UInt8 4) :
    fillBgra (resized bytes (width * 4) 0) color = placeholderRowOf width color := by
  have hlen : (resized bytes (width * 4) 0).length = width * 4 := by
    simp only [resized, List.length_append, List.length_take, List.length_replicate]
    omega
  rw [fillBgra, hlen, Nat.mul_div_cancel _ (by decide), List.drop_eq_nil_of_le (by omega),
    List.append_nil, placeholderRowOf]

namespace TwoRealPreviewLoopQuadCompositionCache

/-- The row is the one its width and its color say. -/
def RowValid (cache : TwoRealPreviewLoopQuadCompositionCache) : Prop :=
  cache.placeholderRow = placeholderRowOf cache.placeholderRowWidth cache.placeholderRowBgra

theorem rowValid_default : default.RowValid := rfl

theorem placeholderRow_preparePlaceholderRow {cache : TwoRealPreviewLoopQuadCompositionCache}
    (h : cache.RowValid) (width : Nat) (color : Vector UInt8 4) :
    (cache.preparePlaceholderRow width color).placeholderRow = placeholderRowOf width color ∧
      (cache.preparePlaceholderRow width color).RowValid := by
  unfold preparePlaceholderRow
  dsimp only
  split
  next => exact ⟨fillBgra_resized _ width color, fillBgra_resized _ width color⟩
  next hsame =>
    rw [not_or, not_or] at hsame
    obtain ⟨-, hwidth, hcolor⟩ := hsame
    refine ⟨?_, h⟩
    rw [h, not_not.mp hwidth, not_not.mp hcolor]

theorem pixels_preparePlaceholderRow (cache : TwoRealPreviewLoopQuadCompositionCache) (width : Nat)
    (color : Vector UInt8 4) : (cache.preparePlaceholderRow width color).pixels = cache.pixels := by
  unfold preparePlaceholderRow
  dsimp only
  split
  next => rfl
  next => rfl

theorem prepareCanvas_row {cache : TwoRealPreviewLoopQuadCompositionCache} (h : cache.RowValid)
    (width height len : Nat) (color : Vector UInt8 4) :
    (cache.prepareCanvas width height len color).1.RowValid := by
  unfold prepareCanvas
  split
  next => exact h
  next => exact h

theorem length_prepareCanvas (cache : TwoRealPreviewLoopQuadCompositionCache)
    (width height len : Nat) (color : Vector UInt8 4) :
    (cache.prepareCanvas width height len color).1.pixels.length = len := by
  unfold prepareCanvas
  split
  next =>
    simp only [resized, List.length_append, List.length_take, List.length_replicate]
    omega
  next h => exact not_not.mp h

theorem prepareCanvas_kept {cache : TwoRealPreviewLoopQuadCompositionCache} {width height len : Nat}
    {color : Vector UInt8 4} (h : (cache.prepareCanvas width height len color).2 = false) :
    (cache.prepareCanvas width height len color).1.pixels = cache.pixels := by
  unfold prepareCanvas at h ⊢
  split at h
  next => cases h
  next hlen => rw [if_neg hlen]

end TwoRealPreviewLoopQuadCompositionCache

/-- The canvas of four slots drawn from nothing. -/
def freshPixels (policy : SwitcherFourViewQuadLayoutPolicy) (slots : FourSlots RenderSlot)
    (size : Nat × Nat) : List UInt8 :=
  drawSlots (List.finRange 4) slots (placeholderRowOf obsOutputWidth policy.placeholderBgra) size
    (List.replicate obsOutputLen 0)

section Drawing

variable {slots slots' : FourSlots RenderSlot} {row : List UInt8} {size size' : Nat × Nat}
  {canvas canvas' : List UInt8}

theorem overwrites_slots (hplaced : ∀ i, (slots i).placement = quadSlotPlacement i)
    (hrow : row.length = 5120) (i : Fin 4) :
    Overwrites obsOutputLen (slotRegion i) fun canvas =>
      updateQuadOutputSlot canvas obsOutputWidth obsOutputHeight (slots i) row size.1 size.2 :=
  overwrites_updateQuadOutputSlot i (hplaced i) hrow size

theorem drawSlots_all (hplaced : ∀ i, (slots i).placement = quadSlotPlacement i)
    (hrow : row.length = 5120) (hc : canvas.length = obsOutputLen)
    (hc' : canvas'.length = obsOutputLen) :
    drawSlots (List.finRange 4) slots row size canvas = drawSlots (List.finRange 4) slots row size canvas' :=
  paint_all slotRegion_disjoint slotRegion_cover (overwrites_slots hplaced hrow)
    (fun i => List.mem_finRange i) hc hc'

theorem length_drawSlots (hplaced : ∀ i, (slots i).placement = quadSlotPlacement i)
    (hrow : row.length = 5120) (indices : List (Fin 4)) (hc : canvas.length = obsOutputLen) :
    (drawSlots indices slots row size canvas).length = obsOutputLen :=
  length_foldl_paint (overwrites_slots hplaced hrow) indices hc

/-- The same picture at the same scale, or no picture, is drawn in the same way. -/
theorem updateQuadOutputSlot_congr {slot slot' : RenderSlot} (hplacement : slot.placement = slot'.placement)
    (hframe : slot.renderableFrame = slot'.renderableFrame)
    (hsize : slot'.renderableFrame.isSome → size = size') :
    (fun canvas => updateQuadOutputSlot canvas obsOutputWidth obsOutputHeight slot row size.1 size.2) =
      fun canvas => updateQuadOutputSlot canvas obsOutputWidth obsOutputHeight slot' row size'.1 size'.2 := by
  funext canvas
  unfold updateQuadOutputSlot
  rw [hplacement, hframe]
  cases hslot : slot'.renderableFrame with
  | none => rfl
  | some frame => rw [hsize (by rw [hslot]; rfl)]

end Drawing

theorem length_fillBgraRows_canvas {canvas row : List UInt8} (hc : canvas.length = obsOutputLen) :
    (fillBgraRows canvas obsOutputWidth 0 0 obsOutputWidth obsOutputHeight row).length = obsOutputLen := by
  have hacts : ActsWithin obsOutputLen Set.univ fun canvas =>
      fillBgraRows canvas obsOutputWidth 0 0 obsOutputWidth obsOutputHeight row := by
    refine actsWithin_foldl _ fun r hr => actsWithin_splice ?_ fun n _ _ => Set.mem_univ n
    have hrows : r < 720 := List.mem_range.mp hr
    have htake : (row.take (obsOutputWidth * 4)).length ≤ 5120 := List.length_take_le _ _
    have hlen : obsOutputLen = 3686400 := rfl
    have hstride : obsOutputWidth * 4 = 5120 := rfl
    rw [hstride] at htake ⊢
    omega
  exact hacts.length canvas hc

theorem quadSlotSize_of_quadReady {slots : FourSlots RenderSlot} {size : Nat × Nat}
    (h : quadReady slots = .ok size) : quadSlotSize slots = some size := by
  unfold quadReady at h
  split at h
  next => cases h
  next =>
    split at h
    next => cases h
    next found hfound =>
      split at h
      next => cases h
      next =>
        cases h
        exact hfound

/-- One call of the composer: the slots of a tick and what they look like. -/
structure QuadCompositionCall where
  connection : QuadConnection
  identities : FourSlots SlotVisualIdentity

/-- What a caller keeps between calls on one cache. -/
structure QuadCompositionState where
  cache : TwoRealPreviewLoopQuadCompositionCache
  previous : Option QuadCompositionCall
  previousComposed : Bool

def QuadCompositionState.start : QuadCompositionState := ⟨.default, none, false⟩

/-- Each call passes the identities of the call before it, and whether that one composed a frame. -/
def quadCompositionStep (policy : SwitcherFourViewQuadLayoutPolicy) (state : QuadCompositionState)
    (call : QuadCompositionCall) : QuadCompositionState × SwitcherFourViewQuadCompositionResult :=
  let output := composeQuadViewIncremental call.connection policy state.cache state.previousComposed
    (state.previous.map QuadCompositionCall.identities) call.identities
  (⟨output.2.2, some call, output.1.isComposedFrame⟩, output.1)

/-- The call on a fresh cache, with no previous output. -/
def freshComposition (policy : SwitcherFourViewQuadLayoutPolicy) (call : QuadCompositionCall) :
    SwitcherFourViewQuadCompositionResult :=
  (composeQuadViewIncremental call.connection policy .default false none call.identities).1

/-- A slot that looks like the slot before it holds the same picture. -/
def SameLookSameContent (state : QuadCompositionState) (call : QuadCompositionCall) : Prop :=
  ∀ previous, state.previous = some previous → ∀ i,
    slotVisualIdentityRenderEq (previous.identities i) (call.identities i) = true →
      (previous.connection.slots i).renderableFrame = (call.connection.slots i).renderableFrame

/-- Where the canvas of the call before is kept, a picture that stays has the slot size it was drawn
for. -/
def KeptPicturesKeepScale (state : QuadCompositionState) (call : QuadCompositionCall) : Prop :=
  state.previousComposed = true → ∀ previous, state.previous = some previous →
    ∀ size, quadReady call.connection.slots = .ok size → ∀ i,
      slotVisualIdentityRenderEq (previous.identities i) (call.identities i) = true →
        (call.connection.slots i).renderableFrame.isSome →
          quadSlotSize previous.connection.slots = some size

/-- The cache behind a composed call holds what a fresh cache would. -/
structure CacheShowsPrevious (policy : SwitcherFourViewQuadLayoutPolicy) (state : QuadCompositionState) :
    Prop where
  row : state.cache.RowValid
  canvas : state.previousComposed = true → ∃ previous size, state.previous = some previous ∧
    quadReady previous.connection.slots = .ok size ∧
      state.cache.pixels = freshPixels policy previous.connection.slots size

theorem cacheShowsPrevious_start (policy : SwitcherFourViewQuadLayoutPolicy) :
    CacheShowsPrevious policy .start :=
  ⟨TwoRealPreviewLoopQuadCompositionCache.rowValid_default, fun h => by cases h⟩

section Compose

variable {policy : SwitcherFourViewQuadLayoutPolicy} {cache : TwoRealPreviewLoopQuadCompositionCache}
  {connection : QuadConnection} {previousOutputAvailable : Bool}
  {previousIdentities : Option (FourSlots SlotVisualIdentity)} {identities : FourSlots SlotVisualIdentity}

/-- A call that is not ready to draw leaves the cache alone and returns nothing that depends on it. -/
theorem composeQuadViewIncremental_error (policy : SwitcherFourViewQuadLayoutPolicy)
    (cache : TwoRealPreviewLoopQuadCompositionCache) (previousOutputAvailable : Bool)
    (previousIdentities : Option (FourSlots SlotVisualIdentity)) (identities : FourSlots SlotVisualIdentity)
    {reason : Option SwitcherFourViewQuadCompositionInvalidReason}
    (hready : quadReady connection.slots = .error reason) :
    let output := composeQuadViewIncremental connection policy cache previousOutputAvailable
      previousIdentities identities
    output.1 = (composeQuadViewIncremental connection policy .default false none identities).1 ∧
      output.1.isComposedFrame = false ∧ output.2.2 = cache := by
  unfold composeQuadViewIncremental
  dsimp only
  rw [hready]
  cases reason with
  | none => exact ⟨rfl, rfl, rfl⟩
  | some reason => exact ⟨rfl, rfl, rfl⟩

theorem composeQuadViewIncremental_ok {size : Nat × Nat} (hready : quadReady connection.slots = .ok size) :
    let changedSlots := changedVisualSlots previousIdentities identities
    let incremental :=
      canIncrementalUpdate previousOutputAvailable (cache.prepared policy).2 changedSlots
    let pixels := updatedPixels incremental changedSlots connection.slots (cache.prepared policy).1 size
    composeQuadViewIncremental connection policy cache previousOutputAvailable previousIdentities
        identities =
      (.composedFrame (composedFrameOf connection.slots pixels),
        updateDiagnostics incremental previousOutputAvailable (cache.prepared policy).2 changedSlots
          connection.slots,
        { (cache.prepared policy).1 with pixels }) := by
  unfold composeQuadViewIncremental
  dsimp only
  rw [hready]

theorem prepared_row (hrow : cache.RowValid) (policy : SwitcherFourViewQuadLayoutPolicy) :
    (cache.prepared policy).1.placeholderRow = placeholderRowOf obsOutputWidth policy.placeholderBgra ∧
      (cache.prepared policy).1.RowValid :=
  TwoRealPreviewLoopQuadCompositionCache.placeholderRow_preparePlaceholderRow
    (TwoRealPreviewLoopQuadCompositionCache.prepareCanvas_row hrow _ _ _ _) _ _

theorem length_prepared (cache : TwoRealPreviewLoopQuadCompositionCache)
    (policy : SwitcherFourViewQuadLayoutPolicy) :
    (cache.prepared policy).1.pixels.length = obsOutputLen := by
  unfold TwoRealPreviewLoopQuadCompositionCache.prepared
  rw [TwoRealPreviewLoopQuadCompositionCache.pixels_preparePlaceholderRow]
  exact TwoRealPreviewLoopQuadCompositionCache.length_prepareCanvas cache _ _ _ _

theorem prepared_kept (h : (cache.prepared policy).2 = false) :
    (cache.prepared policy).1.pixels = cache.pixels := by
  unfold TwoRealPreviewLoopQuadCompositionCache.prepared
  rw [TwoRealPreviewLoopQuadCompositionCache.pixels_preparePlaceholderRow]
  exact TwoRealPreviewLoopQuadCompositionCache.prepareCanvas_kept h

/-- Drawing all slots is a fresh drawing, whatever the cache held. -/
theorem updatedPixels_full (hrow : cache.RowValid) (changedSlots : FourSlots Bool) (size : Nat × Nat) :
    updatedPixels false changedSlots connection.slots (cache.prepared policy).1 size =
      freshPixels policy connection.slots size := by
  unfold updatedPixels freshPixels
  rw [if_neg Bool.false_ne_true, (prepared_row hrow policy).1]
  exact drawSlots_all connection.placed (length_placeholderRowOf _ _)
    (length_fillBgraRows_canvas (length_prepared cache policy)) List.length_replicate

/-- Drawing the changed slots over the picture of the call before is a fresh drawing, where every slot that
stays shows the same picture at the same scale, or none. -/
theorem updatedPixels_incremental (hrow : cache.RowValid) {changedSlots : FourSlots Bool}
    {size size' : Nat × Nat} {previous : QuadConnection} (hkept : (cache.prepared policy).2 = false)
    (hpixels : cache.pixels = freshPixels policy previous.slots size')
    (hsame : ∀ i, changedSlots i = false →
      (previous.slots i).renderableFrame = (connection.slots i).renderableFrame ∧
        ((connection.slots i).renderableFrame.isSome → size' = size)) :
    updatedPixels true changedSlots connection.slots (cache.prepared policy).1 size =
      freshPixels policy connection.slots size := by
  unfold updatedPixels
  rw [if_pos rfl, (prepared_row hrow policy).1, prepared_kept hkept, hpixels]
  have hlen := length_placeholderRowOf obsOutputWidth policy.placeholderBgra
  refine repaint slotRegion_disjoint slotRegion_cover (overwrites_slots previous.placed hlen)
    (overwrites_slots connection.placed hlen) (fun i => List.mem_finRange i) ?_ List.length_replicate
    List.length_replicate
  intro i hi
  have hunchanged : changedSlots i = false := by simpa using hi
  obtain ⟨hframe, hsize⟩ := hsame i hunchanged
  exact updateQuadOutputSlot_congr ((previous.placed i).trans (connection.placed i).symm) hframe hsize

end Compose

/-- The pixels of a call that draws, on a cache in step with the call before. -/
theorem updatedPixels_fresh {policy : SwitcherFourViewQuadLayoutPolicy} {state : QuadCompositionState}
    {call : QuadCompositionCall} (h : CacheShowsPrevious policy state)
    (hcontent : SameLookSameContent state call) (hscale : KeptPicturesKeepScale state call)
    {size : Nat × Nat} (hready : quadReady call.connection.slots = .ok size) :
    let changedSlots :=
      changedVisualSlots (state.previous.map QuadCompositionCall.identities) call.identities
    updatedPixels
        (canIncrementalUpdate state.previousComposed (state.cache.prepared policy).2 changedSlots)
        changedSlots call.connection.slots (state.cache.prepared policy).1 size =
      freshPixels policy call.connection.slots size := by
  intro changedSlots
  cases hinc : canIncrementalUpdate state.previousComposed (state.cache.prepared policy).2 changedSlots with
  | false => exact updatedPixels_full h.row changedSlots size
  | true =>
    unfold canIncrementalUpdate at hinc
    simp only [Bool.and_eq_true, Bool.not_eq_true', decide_eq_true_eq] at hinc
    obtain ⟨⟨⟨hcomposed, hkept⟩, -⟩, -⟩ := hinc
    obtain ⟨previous, size', hprevious, hpreviousReady, hpixels⟩ := h.canvas hcomposed
    refine updatedPixels_incremental h.row hkept hpixels fun i hi => ?_
    have hlook : slotVisualIdentityRenderEq (previous.identities i) (call.identities i) = true := by
      simpa [changedSlots, changedVisualSlots, hprevious] using hi
    refine ⟨hcontent previous hprevious i hlook, fun hframe => ?_⟩
    have hsize := hscale hcomposed previous hprevious size hready i hlook hframe
    exact Option.some.inj ((quadSlotSize_of_quadReady hpreviousReady).symm.trans hsize)

/-- On a new cache, without an output before, all slots are drawn. -/
theorem composeQuadViewIncremental_fresh {policy : SwitcherFourViewQuadLayoutPolicy} {connection : QuadConnection}
    {previousIdentities : Option (FourSlots SlotVisualIdentity)} {identities : FourSlots SlotVisualIdentity}
    {size : Nat × Nat} (hready : quadReady connection.slots = .ok size) :
    (composeQuadViewIncremental connection policy .default false previousIdentities identities).1 =
      .composedFrame (composedFrameOf connection.slots (freshPixels policy connection.slots size)) := by
  rw [composeQuadViewIncremental_ok hready]
  show SwitcherFourViewQuadCompositionResult.composedFrame (composedFrameOf connection.slots
    (updatedPixels false _ connection.slots _ size)) = _
  rw [updatedPixels_full TwoRealPreviewLoopQuadCompositionCache.rowValid_default]

theorem freshComposition_ok {policy : SwitcherFourViewQuadLayoutPolicy} {call : QuadCompositionCall}
    {size : Nat × Nat} (hready : quadReady call.connection.slots = .ok size) :
    freshComposition policy call =
      .composedFrame
        (composedFrameOf call.connection.slots (freshPixels policy call.connection.slots size)) :=
  composeQuadViewIncremental_fresh hready

/-- Every call keeps the cache in step with what it returned, and returns what a fresh cache would. -/
theorem quadCompositionStep_fresh (policy : SwitcherFourViewQuadLayoutPolicy)
    (state : QuadCompositionState) (call : QuadCompositionCall) (h : CacheShowsPrevious policy state)
    (hcall : SameLookSameContent state call ∧ KeptPicturesKeepScale state call) :
    CacheShowsPrevious policy (quadCompositionStep policy state call).1 ∧
      (quadCompositionStep policy state call).2 = freshComposition policy call := by
  obtain ⟨hcontent, hscale⟩ := hcall
  cases hready : quadReady call.connection.slots with
  | error reason =>
    obtain ⟨hfresh, hnone, hcache⟩ := composeQuadViewIncremental_error policy state.cache
      state.previousComposed (state.previous.map QuadCompositionCall.identities) call.identities hready
    refine ⟨⟨?_, fun hcomposed => ?_⟩, hfresh⟩
    · show (composeQuadViewIncremental _ _ _ _ _ _).2.2.RowValid
      rw [hcache]
      exact h.row
    · exact absurd (hcomposed.symm.trans hnone) (by decide)
  | ok size =>
    have hpixels := updatedPixels_fresh h hcontent hscale hready
    rw [freshComposition_ok hready]
    unfold quadCompositionStep
    rw [composeQuadViewIncremental_ok hready]
    dsimp only at hpixels ⊢
    rw [hpixels]
    exact ⟨⟨(prepared_row h.row policy).2, fun _ => ⟨call, size, rfl, hready, rfl⟩⟩, rfl⟩

/-- Incremental composition is full composition in every run of calls in which slots that look alike hold
the same picture and a picture that stays keeps the slot size. -/
theorem quadComposition_incremental_eq_fresh (policy : SwitcherFourViewQuadLayoutPolicy)
    (calls : List QuadCompositionCall)
    (hcontent : Along (quadCompositionStep policy) SameLookSameContent .start calls)
    (hscale : Along (quadCompositionStep policy) KeptPicturesKeepScale .start calls) :
    (run (quadCompositionStep policy) .start calls).2 = calls.map (freshComposition policy) := by
  exact (hcontent.and hscale).outputs (quadCompositionStep_fresh policy) (cacheShowsPrevious_start policy)

/-- In a fresh drawing every slot shows what is drawn for it alone. -/
theorem getElem?_freshPixels (policy : SwitcherFourViewQuadLayoutPolicy) (connection : QuadConnection)
    (size : Nat × Nat) {i : Fin 4} {n : Nat} (hn : n ∈ slotRegion i) :
    (freshPixels policy connection.slots size)[n]? =
      (updateQuadOutputSlot (List.replicate obsOutputLen 0) obsOutputWidth obsOutputHeight
        (connection.slots i) (placeholderRowOf obsOutputWidth policy.placeholderBgra) size.1 size.2)[n]? :=
  foldl_tile slotRegion_disjoint (overwrites_slots connection.placed (length_placeholderRowOf _ _)) _
    (List.mem_finRange i) List.length_replicate List.length_replicate hn

/-- An incremental update leaves every slot that did not change as the canvas had it. -/
theorem getElem?_updatedPixels_unchanged {policy : SwitcherFourViewQuadLayoutPolicy}
    {cache : TwoRealPreviewLoopQuadCompositionCache} (connection : QuadConnection)
    (hrow : cache.RowValid) {changedSlots : FourSlots Bool} (size : Nat × Nat) {i : Fin 4}
    (hi : changedSlots i = false) {n : Nat} (hn : n ∈ slotRegion i) :
    (updatedPixels true changedSlots connection.slots (cache.prepared policy).1 size)[n]? =
      (cache.prepared policy).1.pixels[n]? := by
  unfold updatedPixels
  rw [if_pos rfl, (prepared_row hrow policy).1]
  exact foldl_other_tiles slotRegion_disjoint
    (overwrites_slots connection.placed (length_placeholderRowOf _ _)) _ (by simp [hi])
    (length_prepared cache policy) hn

/-- A slot with the picture, or a placeholder. -/
def slotShowing (index : Fin 4) : Option SwitcherDecodedFrame → RenderSlot
  | some frame =>
    .useHeldPreviousFrame (quadSlotPlacement index) ⟨index, none, some frame, 0⟩
      (.skipNoFrameAvailable index "c" "r" 0 0) 0
  | none => .useNoDisplayPlaceholder (quadSlotPlacement index) (.skipNoFrameAvailable index "c" "r" 0 0)

theorem slotShowing_placement (index : Fin 4) (picture : Option SwitcherDecodedFrame) :
    (slotShowing index picture).placement = quadSlotPlacement index := by
  cases picture <;> rfl

/-- A call whose first slot shows one pixel; the second slot is free. -/
def onePixelBeside (second : Option SwitcherDecodedFrame) (look : SlotVisualIdentity) :
    QuadCompositionCall where
  connection :=
    { slots := fun index => slotShowing index
        (match index with | 0 => some ⟨1, 1, .bgra8, [1, 2, 3, 4]⟩ | 1 => second | _ => none)
      placed := fun index => slotShowing_placement index _ }
  identities := fun index =>
    match index with
    | 0 => .sourceFrame "c" "r" 1 none
    | 1 => look
    | _ => .noDisplayPlaceholder "NoFrameAvailable"

def besideNothing : QuadCompositionCall := onePixelBeside none (.noDisplayPlaceholder "NoFrameAvailable")

def besideTwoPixels : QuadCompositionCall :=
  onePixelBeside (some ⟨2, 1, .bgra8, [5, 6, 7, 8, 9, 10, 11, 12]⟩) (.sourceFrame "d" "r" 1 none)

def besideError : QuadCompositionCall := onePixelBeside none (.sourceErrorPlaceholder "HandoffError")

theorem besideNothing_ready : quadReady besideNothing.connection.slots = .ok (1, 1) := rfl

theorem besideTwoPixels_ready : quadReady besideTwoPixels.connection.slots = .ok (2, 1) := rfl

theorem besideError_ready : quadReady besideError.connection.slots = .ok (1, 1) := rfl

theorem mem_slotRegion_middle : pixelStart 0 0 320 + 0 ∈ slotRegion 0 := by
  constructor
  · decide
  · decide

/-- The pixel in the middle of the first slot's first row, at the scale of the call before. -/
theorem besideNothing_middle (policy : SwitcherFourViewQuadLayoutPolicy) :
    (freshPixels policy besideNothing.connection.slots (1, 1))[pixelStart 0 0 320 + 0]? = some 1 := by
  rw [getElem?_freshPixels policy besideNothing.connection (1, 1) mem_slotRegion_middle]
  have hpixel : scaledPixel ⟨1, 1, .bgra8, [1, 2, 3, 4]⟩ (slotRect 0) 1 1 0 320 = some [1, 2, 3, 4] := by
    decide
  have hy : 0 < 360 := by decide
  have hx : 320 < 640 := by decide
  have hk : 0 < [(1 : UInt8), 2, 3, 4].length := by decide
  exact getElem?_updateQuadOutputSlot_picture (besideNothing.connection.placed 0)
    (length_placeholderRowOf _ _) List.length_replicate hy hx rfl hpixel hk

/-- The same pixel at the new scale is placeholder. -/
theorem besideTwoPixels_middle (policy : SwitcherFourViewQuadLayoutPolicy) :
    (freshPixels policy besideTwoPixels.connection.slots (2, 1))[pixelStart 0 0 320 + 0]? =
      (placeholderRowOf obsOutputWidth policy.placeholderBgra)[320 * 4 + 0]? := by
  rw [getElem?_freshPixels policy besideTwoPixels.connection (2, 1) mem_slotRegion_middle]
  refine getElem?_updateQuadOutputSlot_placeholder (besideTwoPixels.connection.placed 0)
    (length_placeholderRowOf _ _) List.length_replicate (by decide) (by decide) (by decide) ?_
  intro frame hframe
  cases hframe
  decide

theorem mem_placeholderRowOf {width : Nat} {color : Vector UInt8 4} {value : UInt8}
    (h : value ∈ placeholderRowOf width color) : value ∈ color.toList := by
  obtain ⟨chunk, hchunk, hvalue⟩ := List.mem_flatten.mp h
  rw [(List.mem_replicate.mp hchunk).2] at hvalue
  exact hvalue

theorem prepared_allocated_of_length {cache : TwoRealPreviewLoopQuadCompositionCache}
    (h : cache.pixels.length = obsOutputLen) (policy : SwitcherFourViewQuadLayoutPolicy) :
    (cache.prepared policy).2 = false := by
  unfold TwoRealPreviewLoopQuadCompositionCache.prepared TwoRealPreviewLoopQuadCompositionCache.prepareCanvas
  rw [if_neg (not_not.mpr h)]

theorem length_freshPixels (policy : SwitcherFourViewQuadLayoutPolicy) (connection : QuadConnection)
    (size : Nat × Nat) : (freshPixels policy connection.slots size).length = obsOutputLen :=
  length_drawSlots connection.placed (length_placeholderRowOf _ _) _ List.length_replicate

theorem sameLook_none (call : QuadCompositionCall) : SameLookSameContent .start call := by
  intro previous hprevious
  cases hprevious

theorem keptPicturesKeepScale_start (call : QuadCompositionCall) : KeptPicturesKeepScale .start call := by
  intro hcomposed
  cases hcomposed

/-- After `besideNothing`, on a fresh cache. -/
theorem quadCompositionStep_besideNothing (policy : SwitcherFourViewQuadLayoutPolicy) :
    let state := (quadCompositionStep policy .start besideNothing).1
    state.previous = some besideNothing ∧ state.previousComposed = true ∧
      CacheShowsPrevious policy state ∧
      state.cache.pixels = freshPixels policy besideNothing.connection.slots (1, 1) := by
  have hshows := (quadCompositionStep_fresh policy .start besideNothing (cacheShowsPrevious_start policy)
    ⟨sameLook_none _, keptPicturesKeepScale_start _⟩).1
  have hcomposed : (quadCompositionStep policy .start besideNothing).1.previousComposed = true := by
    unfold quadCompositionStep
    rw [composeQuadViewIncremental_ok besideNothing_ready]
    rfl
  obtain ⟨previous, size, hprevious, hready, hpixels⟩ := hshows.canvas hcomposed
  cases hprevious
  rw [besideNothing_ready] at hready
  cases hready
  exact ⟨rfl, hcomposed, hshows, hpixels⟩

theorem sameLook_besideTwoPixels (policy : SwitcherFourViewQuadLayoutPolicy) :
    SameLookSameContent (quadCompositionStep policy .start besideNothing).1 besideTwoPixels := by
  intro previous hprevious i hlook
  cases hprevious
  revert i
  decide

/-- The second slot gets a wider picture, the first one keeps its own: its old scale stays on the canvas. -/
theorem quadComposition_incremental_ne_fresh :
    ¬ ∀ policy calls, Along (quadCompositionStep policy) SameLookSameContent .start calls →
      (run (quadCompositionStep policy) .start calls).2 = calls.map (freshComposition policy) := by
  intro h
  have hrun := h .default [besideNothing, besideTwoPixels]
    ⟨sameLook_none _, sameLook_besideTwoPixels .default, trivial⟩
  obtain ⟨hprevious, hcomposed, hshows, hpixels⟩ := quadCompositionStep_besideNothing .default
  have hsecond := (List.cons.inj (List.cons.inj hrun).2).1
  rw [freshComposition_ok besideTwoPixels_ready] at hsecond
  generalize (quadCompositionStep .default .start besideNothing).1 = state at *
  have hkept : (state.cache.prepared .default).2 = false :=
    prepared_allocated_of_length (hpixels ▸ length_freshPixels _ _ _) .default
  unfold quadCompositionStep at hsecond
  have hincremental : canIncrementalUpdate true false
      (changedVisualSlots (some besideNothing.identities) besideTwoPixels.identities) = true := by
    decide
  rw [composeQuadViewIncremental_ok besideTwoPixels_ready, hprevious, hcomposed, hkept, Option.map_some]
    at hsecond
  dsimp only at hsecond
  rw [hincremental] at hsecond
  have hsame := (SwitcherFourViewComposedFrame.mk.inj
    (SwitcherFourViewQuadCompositionResult.composedFrame.inj hsecond)).2.2.2.1
  have hmiddle := besideTwoPixels_middle .default
  have hunchanged : changedVisualSlots (some besideNothing.identities) besideTwoPixels.identities 0 = false := by
    decide
  rw [← hsame, getElem?_updatedPixels_unchanged besideTwoPixels.connection hshows.row (2, 1) hunchanged
    mem_slotRegion_middle, prepared_kept hkept, hpixels, besideNothing_middle] at hmiddle
  have hvalue := mem_placeholderRowOf (List.mem_of_getElem? hmiddle.symm)
  revert hvalue
  decide

theorem sameLook_besideError (policy : SwitcherFourViewQuadLayoutPolicy) :
    SameLookSameContent (quadCompositionStep policy .start besideNothing).1 besideError := by
  intro previous hprevious i hlook
  cases hprevious
  revert i
  decide

theorem keepScale_besideError (policy : SwitcherFourViewQuadLayoutPolicy) :
    KeptPicturesKeepScale (quadCompositionStep policy .start besideNothing).1 besideError := by
  intro hcomposed previous hprevious size hready i hlook hframe
  cases hprevious
  rw [besideError_ready] at hready
  cases hready
  exact quadSlotSize_of_quadReady besideNothing_ready

/-- A second call that redraws one of the free slots. -/
theorem quadComposition_besideError :
    (run (quadCompositionStep .default) .start [besideNothing, besideError]).2 =
      [freshComposition .default besideNothing, freshComposition .default besideError] :=
  quadComposition_incremental_eq_fresh .default [besideNothing, besideError]
    ⟨sameLook_none _, sameLook_besideError _, trivial⟩
    ⟨keptPicturesKeepScale_start _, keepScale_besideError _, trivial⟩

end StreamSync
