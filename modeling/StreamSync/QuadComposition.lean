import StreamSync.FourViewSlots
import StreamSync.Lib.Painting
import StreamSync.RustStd

namespace StreamSync

open Painting

structure SwitcherFourViewQuadLayoutPolicy where
  placeholderBgra : Vector UInt8 4
deriving DecidableEq

def SwitcherFourViewQuadLayoutPolicy.default : SwitcherFourViewQuadLayoutPolicy := ⟨#v[16, 16, 16, 255]⟩

structure SwitcherFourViewQuadComposedSlotRect where
  placement : SwitcherFourViewQuadSlotPlacement
  x : Nat
  y : Nat
  width : Nat
  height : Nat
deriving DecidableEq, Repr

inductive SwitcherFourViewQuadComposedSlotKind where
  | updated (frame : SwitcherFourViewDisplayedSlot) (selected : SwitcherJitterBufferSelectedFrame)
      (consumed : Bool)
  | heldPrevious (frame : SwitcherFourViewDisplayedSlot) (skipped : SlotInstruction)
      (holdDurationMicros : UInt64)
  | noDisplayPlaceholder (skipped : SlotInstruction)
  | sourceErrorPlaceholder (skipped : SlotInstruction)
  | decodeDeferredPlaceholder (selected : SwitcherJitterBufferSelectedFrame) (consumed : Bool)
      (reason : SwitcherH264DecodeDeferredReason)
  | decodeFailedPlaceholder (selected : SwitcherJitterBufferSelectedFrame) (consumed : Bool)
      (failure : SwitcherH264DecodeFailure)
  | missingDecodedPixels (frame : SwitcherFourViewDisplayedSlot) (skipped : SlotInstruction)
      (holdDurationMicros : UInt64)
deriving DecidableEq

structure SwitcherFourViewQuadComposedSlotMetadata where
  placement : SwitcherFourViewQuadSlotPlacement
  rect : Option SwitcherFourViewQuadComposedSlotRect
  kind : SwitcherFourViewQuadComposedSlotKind
deriving DecidableEq

structure SwitcherFourViewComposedFrame where
  width : UInt32
  height : UInt32
  pixelFormat : SwitcherDecodedFramePixelFormat
  pixels : List UInt8
  slots : FourSlots SwitcherFourViewQuadComposedSlotMetadata

inductive SwitcherFourViewQuadCompositionInvalidReason where
  | missingDecodedPixels (placement : SwitcherFourViewQuadSlotPlacement)
  | unsupportedPixelFormat (placement : SwitcherFourViewQuadSlotPlacement)
      (actual : SwitcherDecodedFramePixelFormat)
  | invalidDimensions (placement : SwitcherFourViewQuadSlotPlacement)
  | invalidBufferLength (placement : SwitcherFourViewQuadSlotPlacement) (expected actual : Nat)
  | canvasTooLarge
deriving DecidableEq, Repr

inductive SwitcherFourViewQuadCompositionResult where
  | composedFrame (frame : SwitcherFourViewComposedFrame)
  | noRenderableQuadView (slots : FourSlots SwitcherFourViewQuadComposedSlotMetadata)
  | invalidQuadView (reason : SwitcherFourViewQuadCompositionInvalidReason)
      (slots : FourSlots SwitcherFourViewQuadComposedSlotMetadata)

def SwitcherFourViewQuadCompositionResult.isComposedFrame : SwitcherFourViewQuadCompositionResult → Bool
  | .composedFrame _ => true
  | _ => false

/-- What a slot looks like, as far as a redraw is concerned. -/
inductive TwoRealPreviewLoopSlotVisualIdentity where
  | sourceFrame (clientId : ClientId) (runId : RunId) (frameId : UInt64)
      (selectedFrameSource : Option String)
  | noDisplayPlaceholder (reason : String)
  | sourceErrorPlaceholder (reason : String)
  | decodeDeferredPlaceholder (clientId : ClientId) (runId : RunId) (frameId : UInt64)
      (selectedFrameSource : Option String) (reason : String)
  | decodeFailedPlaceholder (clientId : ClientId) (runId : RunId) (frameId : UInt64)
      (selectedFrameSource : Option String) (failure : String)
  | missingDecodedPixels (clientId : ClientId) (runId : RunId) (frameId : UInt64)
      (selectedFrameSource : Option String)
deriving DecidableEq, Repr

abbrev SlotVisualIdentity := TwoRealPreviewLoopSlotVisualIdentity

/-- `two_real_preview_loop_slot_visual_identity_render_eq`: the frame's source is not looked at. -/
def slotVisualIdentityRenderEq : SlotVisualIdentity → SlotVisualIdentity → Bool
  | .sourceFrame clientId runId frameId _, .sourceFrame clientId' runId' frameId' _ =>
    clientId = clientId' && runId = runId' && frameId = frameId'
  | .noDisplayPlaceholder reason, .noDisplayPlaceholder reason' => reason = reason'
  | .sourceErrorPlaceholder reason, .sourceErrorPlaceholder reason' => reason = reason'
  | .decodeDeferredPlaceholder clientId runId frameId _ reason,
      .decodeDeferredPlaceholder clientId' runId' frameId' _ reason' =>
    clientId = clientId' && runId = runId' && frameId = frameId' && reason = reason'
  | .decodeFailedPlaceholder clientId runId frameId _ failure,
      .decodeFailedPlaceholder clientId' runId' frameId' _ failure' =>
    clientId = clientId' && runId = runId' && frameId = frameId' && failure = failure'
  | .missingDecodedPixels clientId runId frameId _, .missingDecodedPixels clientId' runId' frameId' _ =>
    clientId = clientId' && runId = runId' && frameId = frameId'
  | _, _ => false

/-- `two_real_preview_loop_changed_visual_slots`. -/
def changedVisualSlots (previous : Option (FourSlots SlotVisualIdentity))
    (current : FourSlots SlotVisualIdentity) : FourSlots Bool := fun index =>
  match previous with
  | some previous => !slotVisualIdentityRenderEq (previous index) (current index)
  | none => true

def changedCount (changed : FourSlots Bool) : Nat := ((List.finRange 4).filter changed).length

def obsOutputWidth : Nat := 1280

def obsOutputHeight : Nat := 720

def obsOutputLen : Nat := obsOutputWidth * obsOutputHeight * 4

structure TwoRealPreviewLoopQuadCompositionCache where
  width : Nat
  height : Nat
  placeholderBgra : Vector UInt8 4
  pixels : List UInt8
  placeholderRowWidth : Nat
  placeholderRowBgra : Vector UInt8 4
  placeholderRow : List UInt8
  allocationCount : Nat
deriving DecidableEq

/-- `fill_two_real_bgra`: the color in every whole chunk of four bytes. -/
def fillBgra (pixels : List UInt8) (color : Vector UInt8 4) : List UInt8 :=
  (List.replicate (pixels.length / 4) color.toList).flatten ++ pixels.drop (pixels.length / 4 * 4)

namespace TwoRealPreviewLoopQuadCompositionCache

def default : TwoRealPreviewLoopQuadCompositionCache :=
  ⟨0, 0, Vector.replicate 4 0, [], 0, Vector.replicate 4 0, [], 0⟩

def prepareCanvas (cache : TwoRealPreviewLoopQuadCompositionCache) (width height len : Nat)
    (placeholderBgra : Vector UInt8 4) : TwoRealPreviewLoopQuadCompositionCache × Bool :=
  if cache.pixels.length ≠ len then
    ({ cache with
      pixels := resized cache.pixels len 0, allocationCount := cache.allocationCount + 1
      width, height, placeholderBgra }, true)
  else ({ cache with width, height, placeholderBgra }, false)

def preparePlaceholderRow (cache : TwoRealPreviewLoopQuadCompositionCache) (width : Nat)
    (placeholderBgra : Vector UInt8 4) : TwoRealPreviewLoopQuadCompositionCache :=
  let len := width * 4
  if cache.placeholderRow.length ≠ len ∨ cache.placeholderRowWidth ≠ width ∨
      cache.placeholderRowBgra ≠ placeholderBgra then
    { cache with
      placeholderRow := fillBgra (resized cache.placeholderRow len 0) placeholderBgra
      placeholderRowWidth := width
      placeholderRowBgra := placeholderBgra }
  else cache

end TwoRealPreviewLoopQuadCompositionCache

/-- `two_real_quad_slot_rect`. -/
def quadSlotRect (placement : SwitcherFourViewQuadSlotPlacement) (slotWidth slotHeight : Nat) :
    SwitcherFourViewQuadComposedSlotRect :=
  ⟨placement, placement.column * slotWidth, placement.row * slotHeight, slotWidth, slotHeight⟩

def quadComposedSlotKind : RenderSlot → SwitcherFourViewQuadComposedSlotKind
  | .useUpdatedFrame _ frame selected consumed => .updated frame selected consumed
  | .useHeldPreviousFrame _ frame skipped holdDurationMicros =>
    .heldPrevious frame skipped holdDurationMicros
  | .useHeldPreviousFrameWithoutDecoded _ frame skipped holdDurationMicros =>
    .missingDecodedPixels frame skipped holdDurationMicros
  | .useNoDisplayPlaceholder _ skipped => .noDisplayPlaceholder skipped
  | .useSourceErrorPlaceholder _ skipped => .sourceErrorPlaceholder skipped
  | .useDecodeDeferredPlaceholder _ selected consumed reason =>
    .decodeDeferredPlaceholder selected consumed reason
  | .useDecodeFailedPlaceholder _ selected consumed failure =>
    .decodeFailedPlaceholder selected consumed failure

def quadComposedSlotMetadataWithoutRect (slot : RenderSlot) : SwitcherFourViewQuadComposedSlotMetadata :=
  ⟨slot.placement, none, quadComposedSlotKind slot⟩

def quadComposedSlotMetadataWithRect (slotWidth slotHeight : Nat) (slot : RenderSlot) :
    SwitcherFourViewQuadComposedSlotMetadata :=
  ⟨slot.placement, some (quadSlotRect slot.placement slotWidth slotHeight), quadComposedSlotKind slot⟩

/-- `two_real_quad_slot_size`: the widest and the highest of the pictures. -/
def quadSlotSize (slots : FourSlots RenderSlot) : Option (Nat × Nat) :=
  match (List.finRange 4).filterMap fun index => (slots index).renderableFrame with
  | [] => none
  | frame :: frames =>
    some (frames.foldl (fun width frame => max width frame.width.toNat) frame.width.toNat,
      frames.foldl (fun height frame => max height frame.height.toNat) frame.height.toNat)

/-- `validate_two_real_quad_renderable_slot`. -/
def validateQuadRenderableSlot (slot : RenderSlot) :
    Except SwitcherFourViewQuadCompositionInvalidReason Unit :=
  match slot.renderableFrame with
  | none => .ok ()
  | some frame =>
    if frame.pixelFormat ≠ .bgra8 then .error (.unsupportedPixelFormat slot.placement frame.pixelFormat)
    else if frame.width = 0 ∨ frame.height = 0 then .error (.invalidDimensions slot.placement)
    else
      let expected := frame.width.toNat * frame.height.toNat * 4
      if UInt32.size ≤ expected then .error .canvasTooLarge
      else if frame.pixels.length ≠ expected then
        .error (.invalidBufferLength slot.placement expected frame.pixels.length)
      else .ok ()

/-- `fill_two_real_bgra_rows`. -/
def fillBgraRows (canvas : List UInt8) (canvasWidth dstX dstY width height : Nat)
    (placeholderRow : List UInt8) : List UInt8 :=
  (List.range height).foldl
    (fun canvas row =>
      splice canvas ((dstY + row) * (canvasWidth * 4) + dstX * 4) (placeholderRow.take (width * 4)))
    canvas

/-- One pixel of the scaled picture, where the picture has one there. -/
def scaledPixel (frame : SwitcherDecodedFrame) (rect : SwitcherFourViewQuadComposedSlotRect)
    (virtualSlotWidth virtualSlotHeight y x : Nat) : Option (List UInt8) :=
  let sourceY := y * virtualSlotHeight / rect.height
  let sourceX := x * virtualSlotWidth / rect.width
  if frame.height.toNat ≤ sourceY then none
  else if frame.width.toNat ≤ sourceX then none
  else some ((frame.pixels.drop ((sourceY * frame.width.toNat + sourceX) * 4)).take 4)

/-- `update_two_real_quad_output_slot`: the placeholder over the whole slot, then the picture by pixels. -/
def updateQuadOutputSlot (canvas : List UInt8) (canvasWidth canvasHeight : Nat) (slot : RenderSlot)
    (placeholderRow : List UInt8) (virtualSlotWidth virtualSlotHeight : Nat) : List UInt8 :=
  let rect := quadSlotRect slot.placement (canvasWidth / 2) (canvasHeight / 2)
  let canvas := fillBgraRows canvas canvasWidth rect.x rect.y rect.width rect.height placeholderRow
  match slot.renderableFrame with
  | none => canvas
  | some frame =>
    (List.range rect.height).foldl
      (fun canvas y =>
        (List.range rect.width).foldl
          (fun canvas x =>
            match scaledPixel frame rect virtualSlotWidth virtualSlotHeight y x with
            | none => canvas
            | some pixel =>
              splice canvas ((rect.y + y) * (canvasWidth * 4) + rect.x * 4 + x * 4) pixel)
          canvas)
      canvas

inductive TwoRealPreviewLoopQuadIncrementalSkipReason where
  | previousOutputMissing | profileOrSizeMismatch | allSlotsChanged | unknown
deriving DecidableEq, Repr

structure TwoRealPreviewLoopQuadCompositionUpdateDiagnostics where
  fullCompose : Bool
  incrementalUpdate : Bool
  changedSlotCount : Nat
  changedRealSlotCount : Nat
  changedPlaceholderSlotCount : Nat
  reusedSlotCount : Nat
  previousOutputAvailable : Bool
  profileOrSizeMismatch : Bool
  incrementalSkipReason : Option TwoRealPreviewLoopQuadIncrementalSkipReason
  allocationCount : Nat
deriving DecidableEq, Repr

def TwoRealPreviewLoopQuadCompositionUpdateDiagnostics.default :
    TwoRealPreviewLoopQuadCompositionUpdateDiagnostics :=
  ⟨false, false, 0, 0, 0, 0, false, false, none, 0⟩

/-- The four slots of a connection, each placed where its index says. -/
structure QuadConnection where
  slots : FourSlots RenderSlot
  placed : ∀ index, (slots index).placement = quadSlotPlacement index

/-- The checks before anything is drawn: the shared slot size, or why there is none. -/
def quadReady (slots : FourSlots RenderSlot) :
    Except (Option SwitcherFourViewQuadCompositionInvalidReason) (Nat × Nat) :=
  match (List.finRange 4).findSome? fun index => (slots index).missingDecodedPlacement with
  | some placement => .error (some (.missingDecodedPixels placement))
  | none =>
    match quadSlotSize slots with
    | none => .error none
    | some size =>
      match (List.finRange 4).findSome? fun index =>
        match validateQuadRenderableSlot (slots index) with
        | .error reason => some reason
        | .ok () => none with
      | some reason => .error (some reason)
      | none => .ok size

def drawSlots (indices : List (Fin 4)) (slots : FourSlots RenderSlot) (placeholderRow : List UInt8)
    (size : Nat × Nat) (canvas : List UInt8) : List UInt8 :=
  indices.foldl
    (fun canvas index => updateQuadOutputSlot canvas obsOutputWidth obsOutputHeight (slots index)
      placeholderRow size.1 size.2)
    canvas

/-- The cache with its canvas and its row prepared, and whether the canvas was allocated anew. -/
def TwoRealPreviewLoopQuadCompositionCache.prepared (cache : TwoRealPreviewLoopQuadCompositionCache)
    (policy : SwitcherFourViewQuadLayoutPolicy) : TwoRealPreviewLoopQuadCompositionCache × Bool :=
  let prepared := cache.prepareCanvas obsOutputWidth obsOutputHeight obsOutputLen policy.placeholderBgra
  (prepared.1.preparePlaceholderRow obsOutputWidth policy.placeholderBgra, prepared.2)

def canIncrementalUpdate (previousOutputAvailable allocated : Bool) (changedSlots : FourSlots Bool) :
    Bool :=
  previousOutputAvailable && !allocated && 0 < changedCount changedSlots && changedCount changedSlots < 4

/-- The canvas after the call: the changed slots drawn over it, or all of it drawn anew. -/
def updatedPixels (incremental : Bool) (changedSlots : FourSlots Bool) (slots : FourSlots RenderSlot)
    (cache : TwoRealPreviewLoopQuadCompositionCache) (size : Nat × Nat) : List UInt8 :=
  if incremental then
    drawSlots ((List.finRange 4).filter changedSlots) slots cache.placeholderRow size cache.pixels
  else
    drawSlots (List.finRange 4) slots cache.placeholderRow size
      (fillBgraRows cache.pixels obsOutputWidth 0 0 obsOutputWidth obsOutputHeight cache.placeholderRow)

def updateDiagnostics (incremental previousOutputAvailable allocated : Bool)
    (changedSlots : FourSlots Bool) (slots : FourSlots RenderSlot) :
    TwoRealPreviewLoopQuadCompositionUpdateDiagnostics :=
  let changedSlotCount := changedCount changedSlots
  let changedRealSlotCount := ((List.finRange 4).filter fun index =>
    changedSlots index && (slots index).renderableFrame.isSome).length
  { fullCompose := !incremental
    incrementalUpdate := incremental
    changedSlotCount
    changedRealSlotCount
    changedPlaceholderSlotCount := changedSlotCount - changedRealSlotCount
    reusedSlotCount := 4 - changedSlotCount
    previousOutputAvailable
    profileOrSizeMismatch := previousOutputAvailable && allocated
    incrementalSkipReason :=
      if incremental then none
      else if !previousOutputAvailable then some .previousOutputMissing
      else if allocated then some .profileOrSizeMismatch
      else if 4 ≤ changedSlotCount then some .allSlotsChanged
      else some .unknown
    allocationCount := if allocated then 1 else 0 }

/-- The frame a call returns, by its pixels. -/
def composedFrameOf (slots : FourSlots RenderSlot) (pixels : List UInt8) : SwitcherFourViewComposedFrame :=
  ⟨1280, 720, .bgra8, pixels, fun index =>
    quadComposedSlotMetadataWithRect (obsOutputWidth / 2) (obsOutputHeight / 2) (slots index)⟩

/-- `compose_two_real_preview_quad_view_incremental`, with the cache it leaves. -/
def composeQuadViewIncremental (connection : QuadConnection) (policy : SwitcherFourViewQuadLayoutPolicy)
    (cache : TwoRealPreviewLoopQuadCompositionCache) (previousOutputAvailable : Bool)
    (previousVisualIdentities : Option (FourSlots SlotVisualIdentity))
    (currentVisualIdentities : FourSlots SlotVisualIdentity) :
    SwitcherFourViewQuadCompositionResult × TwoRealPreviewLoopQuadCompositionUpdateDiagnostics ×
      TwoRealPreviewLoopQuadCompositionCache :=
  let slots := connection.slots
  let baseSlots := fun index => quadComposedSlotMetadataWithoutRect (slots index)
  match quadReady slots with
  | .error none => (.noRenderableQuadView baseSlots, .default, cache)
  | .error (some reason) => (.invalidQuadView reason baseSlots, .default, cache)
  | .ok size =>
    let changedSlots := changedVisualSlots previousVisualIdentities currentVisualIdentities
    let prepared := cache.prepared policy
    let incremental := canIncrementalUpdate previousOutputAvailable prepared.2 changedSlots
    let pixels := updatedPixels incremental changedSlots slots prepared.1 size
    (.composedFrame (composedFrameOf slots pixels),
      updateDiagnostics incremental previousOutputAvailable prepared.2 changedSlots slots,
      { prepared.1 with pixels })

end StreamSync
