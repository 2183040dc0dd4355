import StreamSync.Lib.Fallible
import StreamSync.Lib.Raster
import StreamSync.QuadComposition
import StreamSync.RustStd

namespace StreamSync

open Painting

/-- `copy_bgra_frame_into_canvas`; `none` is an index out of bounds. -/
def copyBgraFrameIntoCanvas (canvas : List UInt8) (canvasWidth : Nat) (frame : SwitcherDecodedFrame)
    (dstX dstY : Nat) : Option (List UInt8) :=
  let srcStride := frame.width.toNat * 4
  let canvasStride := canvasWidth * 4
  (List.range frame.height.toNat).foldlM
    (fun canvas row =>
      let srcStart := row * srcStride
      let dstStart := (dstY + row) * canvasStride + dstX * 4
      let dstEnd := dstStart + srcStride
      if dstEnd ≤ canvas.length ∧ srcStart + srcStride ≤ frame.pixels.length then
        some (splice canvas dstStart ((frame.pixels.drop srcStart).take srcStride))
      else none)
    canvas

inductive SwitcherTwoViewSide where
  | left | right
deriving DecidableEq, Repr

inductive SwitcherTwoViewManualDecodeRenderStatus where
  | rendered | skippedSelectionUnavailable | decodeDeferred | decodeFailed | renderDeferred
  | windowBackendUnavailable | invalidFrame | renderFailed
deriving DecidableEq, Repr

inductive SwitcherTwoViewLayoutSideInput where
  | decoded (side : SwitcherTwoViewSide) (selected : Option SwitcherJitterBufferSelectedFrame)
      (frame : SwitcherDecodedFrame)
  | skipped (side : SwitcherTwoViewSide) (reason : SwitcherTwoViewManualDecodeRenderStatus)
deriving DecidableEq

structure SwitcherTwoViewLayoutPolicy where
  placeholderBgra : Vector UInt8 4
deriving DecidableEq

structure SwitcherTwoViewCompositionInput where
  left : SwitcherTwoViewLayoutSideInput
  right : SwitcherTwoViewLayoutSideInput
  policy : SwitcherTwoViewLayoutPolicy
deriving DecidableEq

structure SwitcherTwoViewComposedSideMetadata where
  side : SwitcherTwoViewSide
  selected : Option SwitcherJitterBufferSelectedFrame
  x : UInt32
  y : UInt32
  width : UInt32
  height : UInt32
deriving DecidableEq

structure SwitcherTwoViewComposedFrame where
  width : UInt32
  height : UInt32
  pixelFormat : SwitcherDecodedFramePixelFormat
  pixels : List UInt8
  left : Option SwitcherTwoViewComposedSideMetadata
  right : Option SwitcherTwoViewComposedSideMetadata
deriving DecidableEq

inductive SwitcherTwoViewCompositionInvalidReason where
  | wrongSide (expected actual : SwitcherTwoViewSide)
  | unsupportedPixelFormat (side : SwitcherTwoViewSide) (actual : SwitcherDecodedFramePixelFormat)
  | invalidDimensions (side : SwitcherTwoViewSide)
  | invalidBufferLength (side : SwitcherTwoViewSide) (expected actual : Nat)
  | canvasTooLarge
deriving DecidableEq, Repr

inductive SwitcherTwoViewCompositionResult where
  | bothComposed (frame : SwitcherTwoViewComposedFrame)
  | leftOnly (frame : SwitcherTwoViewComposedFrame)
      (rightPlaceholderReason : SwitcherTwoViewManualDecodeRenderStatus)
  | rightOnly (frame : SwitcherTwoViewComposedFrame)
      (leftPlaceholderReason : SwitcherTwoViewManualDecodeRenderStatus)
  | emptyPlaceholder (leftReason rightReason : SwitcherTwoViewManualDecodeRenderStatus)
  | invalidDimensions (reason : SwitcherTwoViewCompositionInvalidReason)
deriving DecidableEq

structure DecodedTwoViewLayoutSide where
  selected : Option SwitcherJitterBufferSelectedFrame
  frame : SwitcherDecodedFrame
deriving DecidableEq

inductive ValidatedTwoViewLayoutSide where
  | decoded (side : DecodedTwoViewLayoutSide)
  | skipped (reason : SwitcherTwoViewManualDecodeRenderStatus)
deriving DecidableEq

def twoViewSlotSize (left right : Option DecodedTwoViewLayoutSide) : Option (Nat × Nat) := do
  let sides := left.toList ++ right.toList
  let width ← (sides.map fun side => side.frame.width.toNat).max?
  let height ← (sides.map fun side => side.frame.height.toNat).max?
  some (width, height)

def composedSideMetadata (side : SwitcherTwoViewSide) (x : Nat) (decoded : DecodedTwoViewLayoutSide) :
    SwitcherTwoViewComposedSideMetadata :=
  ⟨side, decoded.selected, UInt32.ofNat x, 0, decoded.frame.width, decoded.frame.height⟩

/-- The copy of one side, where there is one. -/
def copySide (canvas : List UInt8) (canvasWidth : Nat) (side : Option DecodedTwoViewLayoutSide) (dstX : Nat) :
    Option (List UInt8) :=
  match side with
  | some side => copyBgraFrameIntoCanvas canvas canvasWidth side.frame dstX 0
  | none => some canvas

/-- `compose_two_view_canvas`; `none` is an index out of bounds. -/
def composeTwoViewCanvas (left right : Option DecodedTwoViewLayoutSide) (policy : SwitcherTwoViewLayoutPolicy) :
    Option (Except SwitcherTwoViewCompositionInvalidReason SwitcherTwoViewComposedFrame) :=
  match twoViewSlotSize left right with
  | none => some (.ok ⟨0, 0, .bgra8, [], none, none⟩)
  | some (slotWidth, slotHeight) =>
    match checkedMul slotWidth 2 with
    | none => some (.error .canvasTooLarge)
    | some canvasWidth =>
      match (checkedMul canvasWidth slotHeight).bind fun pixels => checkedMul pixels 4 with
      | none => some (.error .canvasTooLarge)
      | some canvasLen => do
        let pixels := fillBgra (List.replicate canvasLen 0) policy.placeholderBgra
        let pixels ← copySide pixels canvasWidth left 0
        let pixels ← copySide pixels canvasWidth right slotWidth
        some (.ok {
          width := UInt32.ofNat canvasWidth
          height := UInt32.ofNat slotHeight
          pixelFormat := .bgra8
          pixels
          left := left.map (composedSideMetadata .left 0)
          right := right.map (composedSideMetadata .right slotWidth) })

def validateTwoViewDecodedFrame (side : SwitcherTwoViewSide) (frame : SwitcherDecodedFrame) :
    Except SwitcherTwoViewCompositionInvalidReason Unit :=
  if frame.pixelFormat ≠ .bgra8 then .error (.unsupportedPixelFormat side frame.pixelFormat)
  else if frame.width = 0 ∨ frame.height = 0 then .error (.invalidDimensions side)
  else
    match (checkedMul frame.width.toNat frame.height.toNat).bind fun pixels => checkedMul pixels 4 with
    | none => .error .canvasTooLarge
    | some expected =>
      if frame.pixels.length ≠ expected then
        .error (.invalidBufferLength side expected frame.pixels.length)
      else .ok ()

def validateTwoViewLayoutSide (expectedSide : SwitcherTwoViewSide) :
    SwitcherTwoViewLayoutSideInput → Except SwitcherTwoViewCompositionInvalidReason ValidatedTwoViewLayoutSide
  | .decoded side selected frame =>
    if side ≠ expectedSide then .error (.wrongSide expectedSide side)
    else (validateTwoViewDecodedFrame side frame).map fun () => .decoded ⟨selected, frame⟩
  | .skipped side reason =>
    if side ≠ expectedSide then .error (.wrongSide expectedSide side) else .ok (.skipped reason)

/-- `SwitcherTwoViewCompositionBoundary::compose_side_by_side`. -/
def composeSideBySide (input : SwitcherTwoViewCompositionInput) : Option SwitcherTwoViewCompositionResult :=
  match validateTwoViewLayoutSide .left input.left with
  | .error reason => some (.invalidDimensions reason)
  | .ok leftSide =>
    match validateTwoViewLayoutSide .right input.right with
    | .error reason => some (.invalidDimensions reason)
    | .ok rightSide =>
      let composed (left right : Option DecodedTwoViewLayoutSide)
          (shown : SwitcherTwoViewComposedFrame → SwitcherTwoViewCompositionResult) :=
        (composeTwoViewCanvas left right input.policy).map fun
          | .ok frame => shown frame
          | .error reason => .invalidDimensions reason
      match leftSide, rightSide with
      | .decoded left, .decoded right => composed (some left) (some right) .bothComposed
      | .decoded left, .skipped rightReason => composed (some left) none (.leftOnly · rightReason)
      | .skipped leftReason, .decoded right => composed none (some right) (.rightOnly · leftReason)
      | .skipped leftReason, .skipped rightReason => some (.emptyPlaceholder leftReason rightReason)

def SwitcherDecodedFrame.picture (frame : SwitcherDecodedFrame) : Picture UInt8 :=
  ⟨frame.width.toNat, frame.height.toNat, frame.pixels⟩

/-- A frame that has pixels, and four bytes for each of them. -/
structure SwitcherDecodedFrame.Valid (frame : SwitcherDecodedFrame) : Prop where
  width_pos : 0 < frame.width.toNat
  height_pos : 0 < frame.height.toNat
  length : frame.pixels.length = frame.width.toNat * frame.height.toNat * 4

theorem SwitcherDecodedFrame.Valid.sized {frame : SwitcherDecodedFrame} (h : frame.Valid) :
    frame.picture.Sized 4 := by
  rw [Picture.Sized]
  dsimp only [picture]
  rw [h.length, Nat.mul_comm frame.height.toNat]

section Canvas

variable {canvas : List UInt8} {canvasWidth canvasHeight dstX dstY : Nat} {frame : SwitcherDecodedFrame}

/-- In bounds the rows are those of the picture. -/
theorem copyBgraFrameIntoCanvas_eq (hvalid : frame.Valid) (hcolumn : dstX + frame.width.toNat ≤ canvasWidth)
    (hrow : dstY + frame.height.toNat ≤ canvasHeight)
    (hcanvas : canvas.length = canvasHeight * canvasWidth * 4) :
    copyBgraFrameIntoCanvas canvas canvasWidth frame dstX dstY =
      some (blit 4 canvas canvasWidth frame.picture dstY dstX) := by
  unfold copyBgraFrameIntoCanvas blit
  refine Fallible.foldlM_eq_some (P := fun canvas => canvas.length = canvasHeight * canvasWidth * 4)
    (fun canvas row hmem hcanvas => ?_) hcanvas
  have hlt : row < frame.height.toNat := List.mem_range.mp hmem
  have hpiece : (frame.picture.row 4 row).length = frame.width.toNat * 4 := Picture.length_row hvalid.sized hlt
  have hin : ((dstY + row) * canvasWidth + dstX) * 4 + frame.width.toNat * 4 ≤ canvasHeight * canvasWidth * 4 :=
    row_in_canvas hcolumn (by omega)
  have hstart : (dstY + row) * (canvasWidth * 4) + dstX * 4 = ((dstY + row) * canvasWidth + dstX) * 4 := by
    rw [Nat.add_mul _ dstX, Nat.mul_assoc]
  have hsource : row * (frame.width.toNat * 4) + frame.width.toNat * 4 ≤ frame.pixels.length := by
    have hnext : (row + 1) * (frame.width.toNat * 4) ≤ frame.height.toNat * (frame.width.toNat * 4) :=
      Nat.mul_le_mul_right _ hlt
    rw [Nat.succ_mul, ← Nat.mul_assoc frame.height.toNat, Nat.mul_comm frame.height.toNat] at hnext
    rwa [hvalid.length]
  dsimp only
  rw [hstart, if_pos ⟨by rw [hcanvas]; exact hin, hsource⟩, ← Nat.mul_assoc]
  exact ⟨rfl, (length_splice (by rw [hpiece, hcanvas]; exact hin)).trans hcanvas⟩

theorem fillBgra_replicate (count : Nat) (color : Vector UInt8 4) :
    fillBgra (List.replicate (count * 4) 0) color = (List.replicate count color.toList).flatten := by
  rw [fillBgra, List.length_replicate, Nat.mul_div_cancel _ (by decide), List.drop_eq_nil_of_le (by simp),
    List.append_nil]

/-- Both products of a length fit when it does. -/
theorem checkedLen_of_lt {width height : Nat} (hheight : 0 < height) (h : width * height * 4 < UInt32.size) :
    width < UInt32.size ∧
      ((checkedMul width height).bind fun pixels => checkedMul pixels 4) = some (width * height * 4) := by
  have hwidth : width ≤ width * height := Nat.le_mul_of_pos_right width hheight
  rw [checkedMul_eq_some (by omega), Option.bind_some, checkedMul_eq_some h]
  exact ⟨by omega, rfl⟩

theorem checkedLen_of_le {width height : Nat} (h : UInt32.size ≤ width * height * 4) :
    ((checkedMul width height).bind fun pixels => checkedMul pixels 4) = none := by
  unfold checkedMul
  split
  next => exact checkedMul_eq_none h
  next => rfl

end Canvas

/-- The left side, and the right side beside it. -/
def twoViewGrid (slotWidth slotHeight : Nat) : SlotGrid SwitcherTwoViewSide where
  origin
    | .left => (0, 0)
    | .right => (0, slotWidth)
  slotWidth
  slotHeight
  width := slotWidth * 2
  height := slotHeight
  inside side := by
    cases side <;> dsimp only <;> omega
  disjoint i j h := by
    cases i <;> cases j <;> first | contradiction | (dsimp only; omega)
  covered y x hy hx := by
    by_cases hleft : x < slotWidth
    · exact ⟨.left, by dsimp only; omega⟩
    · exact ⟨.right, by dsimp only; omega⟩

def twoViewPictures (left right : Option DecodedTwoViewLayoutSide) :
    SwitcherTwoViewSide → Option (Picture UInt8)
  | .left => left.map fun side => side.frame.picture
  | .right => right.map fun side => side.frame.picture

section TwoView

variable {left right : Option DecodedTwoViewLayoutSide}

/-- The slot is as wide as the widest and as high as the highest frame. -/
theorem le_twoViewSlotSize {size : Nat × Nat} (hsize : twoViewSlotSize left right = some size)
    {side : DecodedTwoViewLayoutSide} (hside : side ∈ left ∨ side ∈ right) :
    side.frame.width.toNat ≤ size.1 ∧ side.frame.height.toNat ≤ size.2 := by
  have hmem : side ∈ left.toList ++ right.toList := by
    rw [List.mem_append, Option.mem_toList, Option.mem_toList]
    exact hside
  obtain ⟨width, hwidth, h⟩ := Option.bind_eq_some_iff.mp hsize
  obtain ⟨height, hheight, h⟩ := Option.bind_eq_some_iff.mp h
  cases h
  exact ⟨(List.max?_eq_some_iff.mp hwidth).2 _ (List.mem_map_of_mem hmem),
    (List.max?_eq_some_iff.mp hheight).2 _ (List.mem_map_of_mem hmem)⟩

theorem exists_side_of_twoViewSlotSize {size : Nat × Nat} (hsize : twoViewSlotSize left right = some size) :
    ∃ side, side ∈ left ∨ side ∈ right := by
  obtain ⟨width, hwidth, -⟩ := Option.bind_eq_some_iff.mp hsize
  obtain ⟨side, hside, -⟩ := List.mem_map.mp (List.max?_eq_some_iff.mp hwidth).1
  rw [List.mem_append, Option.mem_toList, Option.mem_toList] at hside
  exact ⟨side, hside⟩

theorem twoViewGrid_fits (hleft : ∀ side ∈ left, side.frame.Valid) (hright : ∀ side ∈ right, side.frame.Valid)
    {size : Nat × Nat} (hsize : twoViewSlotSize left right = some size) (side : SwitcherTwoViewSide) :
    ∀ picture ∈ twoViewPictures left right side, (twoViewGrid size.1 size.2).Fits 4 picture := by
  intro picture hpicture
  cases side with
  | left =>
    obtain ⟨shown, hshown, rfl⟩ := Option.map_eq_some_iff.mp hpicture
    obtain ⟨hwidth, hheight⟩ := le_twoViewSlotSize hsize (.inl hshown)
    exact ⟨(hleft shown hshown).sized, hwidth, hheight⟩
  | right =>
    obtain ⟨shown, hshown, rfl⟩ := Option.map_eq_some_iff.mp hpicture
    obtain ⟨hwidth, hheight⟩ := le_twoViewSlotSize hsize (.inr hshown)
    exact ⟨(hright shown hshown).sized, hwidth, hheight⟩

/-- Copying a side is drawing it into its slot. -/
theorem copySide_eq (left right : Option DecodedTwoViewLayoutSide) (side : SwitcherTwoViewSide)
    {decoded : Option DecodedTwoViewLayoutSide}
    {size : Nat × Nat} {dstX : Nat} {canvas : List UInt8}
    (hpictures : twoViewPictures left right side = decoded.map fun decoded => decoded.frame.picture)
    (horigin : (twoViewGrid size.1 size.2).origin side = (0, dstX))
    (hvalid : ∀ shown ∈ decoded, shown.frame.Valid)
    (hsize : ∀ shown ∈ decoded, shown.frame.width.toNat ≤ size.1 ∧ shown.frame.height.toNat ≤ size.2)
    (hcanvas : canvas.length = size.2 * (size.1 * 2) * 4) :
    copySide canvas (size.1 * 2) decoded dstX =
      some ((twoViewGrid size.1 size.2).drawSlot 4 (twoViewPictures left right) canvas side) := by
  have hin := (twoViewGrid size.1 size.2).inside side
  unfold SlotGrid.drawSlot
  rw [hpictures, horigin]
  rw [horigin] at hin
  cases decoded with
  | none => rfl
  | some shown =>
    obtain ⟨hwidth, hheight⟩ := hsize shown rfl
    change 0 + size.2 ≤ size.2 ∧ dstX + size.1 ≤ size.1 * 2 at hin
    have hbottom : 0 + shown.frame.height.toNat ≤ size.2 := by omega
    exact copyBgraFrameIntoCanvas_eq (hvalid shown rfl) (by omega) hbottom hcanvas

/-- What composing two sides comes to. -/
structure TwoViewComposes (left right : Option DecodedTwoViewLayoutSide) (policy : SwitcherTwoViewLayoutPolicy) :
    Prop where
  inBounds : composeTwoViewCanvas left right policy ≠ none
  empty : twoViewSlotSize left right = none →
    composeTwoViewCanvas left right policy = some (.ok ⟨0, 0, .bgra8, [], none, none⟩)
  tooLarge : ∀ size, twoViewSlotSize left right = some size →
    (composeTwoViewCanvas left right policy = some (.error .canvasTooLarge) ↔
      UInt32.size ≤ size.1 * 2 * size.2 * 4)
  composed : ∀ size, twoViewSlotSize left right = some size → size.1 * 2 * size.2 * 4 < UInt32.size →
    ∃ frame, composeTwoViewCanvas left right policy = some (.ok frame) ∧
      frame.width.toNat = size.1 * 2 ∧ frame.height.toNat = size.2 ∧
      (twoViewGrid size.1 size.2).Shows 4 (twoViewPictures left right) policy.placeholderBgra.toList frame.pixels

theorem composeTwoViewCanvas_empty (hsize : twoViewSlotSize left right = none)
    (policy : SwitcherTwoViewLayoutPolicy) :
    composeTwoViewCanvas left right policy = some (.ok ⟨0, 0, .bgra8, [], none, none⟩) := by
  unfold composeTwoViewCanvas
  rw [hsize]

theorem composeTwoViewCanvas_tooLarge {size : Nat × Nat} (hsize : twoViewSlotSize left right = some size)
    (hlarge : UInt32.size ≤ size.1 * 2 * size.2 * 4) (policy : SwitcherTwoViewLayoutPolicy) :
    composeTwoViewCanvas left right policy = some (.error .canvasTooLarge) := by
  unfold composeTwoViewCanvas
  rw [hsize]
  dsimp only
  by_cases hwide : size.1 * 2 < UInt32.size
  · rw [checkedMul_eq_some hwide]
    dsimp only
    rw [checkedLen_of_le hlarge]
  · rw [checkedMul_eq_none (Nat.le_of_not_lt hwide)]

theorem composeTwoViewCanvas_composed (hleft : ∀ side ∈ left, side.frame.Valid)
    (hright : ∀ side ∈ right, side.frame.Valid) {size : Nat × Nat}
    (hsize : twoViewSlotSize left right = some size) (hfits : size.1 * 2 * size.2 * 4 < UInt32.size)
    (policy : SwitcherTwoViewLayoutPolicy) :
    ∃ frame, composeTwoViewCanvas left right policy = some (.ok frame) ∧
      frame.width.toNat = size.1 * 2 ∧ frame.height.toNat = size.2 ∧
      (twoViewGrid size.1 size.2).Shows 4 (twoViewPictures left right) policy.placeholderBgra.toList
        frame.pixels := by
  obtain ⟨shown, hshown⟩ := exists_side_of_twoViewSlotSize hsize
  have hvalid : shown.frame.Valid := hshown.elim (hleft shown) (hright shown)
  obtain ⟨hle, hle'⟩ := le_twoViewSlotSize hsize hshown
  have hheight : 0 < size.2 := Nat.lt_of_lt_of_le hvalid.height_pos hle'
  have hwidth : 0 < size.1 * 2 := Nat.mul_pos (Nat.lt_of_lt_of_le hvalid.width_pos hle) (by decide)
  obtain ⟨hwide, hlen⟩ := checkedLen_of_lt hheight hfits
  have hgrid : size.1 * 2 * size.2 = size.2 * (size.1 * 2) := Nat.mul_comm _ _
  have hfit := twoViewGrid_fits hleft hright hsize
  have hcolor : policy.placeholderBgra.toList.length = 4 := by simp
  have hsides : [SwitcherTwoViewSide.left, .right].Nodup := by decide
  have hshows := SlotGrid.shows_drawSlots hcolor hfit hsides (by rintro ⟨⟩ <;> decide)
  have hfilled : ((List.replicate (size.2 * (size.1 * 2)) policy.placeholderBgra.toList).flatten).length =
      size.2 * (size.1 * 2) * 4 := by
    simp
  have hcopyLeft := copySide_eq left right .left rfl rfl hleft
    (fun shown h => le_twoViewSlotSize hsize (.inl h)) hfilled
  have hcopyRight := copySide_eq left right .right rfl rfl hright
    (fun shown h => le_twoViewSlotSize hsize (.inr h)) (SlotGrid.length_drawSlot (hfit .left) hfilled)
  have hhigh : size.2 < UInt32.size := by
    have hle : size.2 ≤ size.1 * 2 * size.2 := Nat.le_mul_of_pos_left _ hwidth
    omega
  refine ⟨{
    width := UInt32.ofNat (size.1 * 2)
    height := UInt32.ofNat size.2
    pixelFormat := .bgra8
    pixels := _
    left := left.map (composedSideMetadata .left 0)
    right := right.map (composedSideMetadata .right size.1) }, ?_, ?_, ?_, hshows⟩
  · unfold composeTwoViewCanvas
    rw [hsize]
    dsimp only
    rw [checkedMul_eq_some hwide]
    dsimp only
    rw [hlen]
    dsimp only
    rw [hgrid, fillBgra_replicate, hcopyLeft, Option.bind_eq_bind, Option.bind_some, hcopyRight]
    rfl
  · exact UInt32.toNat_ofNat_of_lt' hwide
  · exact UInt32.toNat_ofNat_of_lt' hhigh

theorem twoViewComposes (hleft : ∀ side ∈ left, side.frame.Valid) (hright : ∀ side ∈ right, side.frame.Valid)
    (policy : SwitcherTwoViewLayoutPolicy) : TwoViewComposes left right policy := by
  have hcomposed {size : Nat × Nat} (hsize : twoViewSlotSize left right = some size)
      (hfits : size.1 * 2 * size.2 * 4 < UInt32.size) :=
    composeTwoViewCanvas_composed hleft hright hsize hfits policy
  refine ⟨?_, fun hsize => composeTwoViewCanvas_empty hsize policy, fun size hsize => ⟨fun hlarge => ?_, fun hlarge =>
    composeTwoViewCanvas_tooLarge hsize hlarge policy⟩, fun size => hcomposed⟩
  · cases hsize : twoViewSlotSize left right with
    | none => simp [composeTwoViewCanvas_empty hsize policy]
    | some size =>
      by_cases hfits : size.1 * 2 * size.2 * 4 < UInt32.size
      · obtain ⟨frame, hframe, -⟩ := hcomposed hsize hfits
        simp [hframe]
      · simp [composeTwoViewCanvas_tooLarge hsize (Nat.le_of_not_lt hfits) policy]
  · by_contra hfits
    obtain ⟨frame, hframe, -⟩ := hcomposed hsize (Nat.lt_of_not_le hfits)
    rw [hframe] at hlarge
    cases hlarge

end TwoView

section Boundary

/-- What passes the check of a side has four bytes for each of its pixels. -/
theorem valid_of_validateTwoViewDecodedFrame {side : SwitcherTwoViewSide} {frame : SwitcherDecodedFrame}
    (h : validateTwoViewDecodedFrame side frame = .ok ()) : frame.Valid := by
  unfold validateTwoViewDecodedFrame at h
  split at h
  next => cases h
  next =>
    split at h
    next => cases h
    next hpositive =>
      split at h
      next => cases h
      next expected hexpected =>
        split at h
        next => cases h
        next hlength =>
          obtain ⟨hwidth, hheight⟩ := not_or.mp hpositive
          obtain ⟨pixels, hpixels, hbytes⟩ := Option.bind_eq_some_iff.mp hexpected
          have hpixels : pixels = frame.width.toNat * frame.height.toNat := eq_of_checkedMul hpixels
          have hbytes : expected = pixels * 4 := eq_of_checkedMul hbytes
          refine ⟨Nat.pos_of_ne_zero fun h => hwidth (UInt32.toNat_inj.mp h),
            Nat.pos_of_ne_zero fun h => hheight (UInt32.toNat_inj.mp h), ?_⟩
          rw [not_not.mp hlength, hbytes, hpixels]

theorem valid_of_validateTwoViewLayoutSide {expectedSide : SwitcherTwoViewSide}
    {input : SwitcherTwoViewLayoutSideInput} {decoded : DecodedTwoViewLayoutSide}
    (h : validateTwoViewLayoutSide expectedSide input = .ok (.decoded decoded)) : decoded.frame.Valid := by
  unfold validateTwoViewLayoutSide at h
  split at h
  next side selected frame =>
    split at h
    next => cases h
    next =>
      cases hframe : validateTwoViewDecodedFrame side frame with
      | error reason =>
        rw [hframe] at h
        cases h
      | ok =>
        rw [hframe] at h
        cases h
        exact valid_of_validateTwoViewDecodedFrame hframe
  next =>
    split at h
    next => cases h
    next => cases h

/-- Behind its checks the boundary never leaves the bounds of a canvas. -/
theorem composeSideBySide_ne_none (input : SwitcherTwoViewCompositionInput) : composeSideBySide input ≠ none := by
  have hcomposed {left right : Option DecodedTwoViewLayoutSide} (hleft : ∀ side ∈ left, side.frame.Valid)
      (hright : ∀ side ∈ right, side.frame.Valid) := (twoViewComposes hleft hright input.policy).inBounds
  unfold composeSideBySide
  cases hleft : validateTwoViewLayoutSide .left input.left with
  | error reason => exact nofun
  | ok leftSide =>
    cases hright : validateTwoViewLayoutSide .right input.right with
    | error reason => exact nofun
    | ok rightSide =>
      have hl (decoded : DecodedTwoViewLayoutSide) (h : leftSide = .decoded decoded) : decoded.frame.Valid :=
        valid_of_validateTwoViewLayoutSide (h ▸ hleft)
      have hr (decoded : DecodedTwoViewLayoutSide) (h : rightSide = .decoded decoded) : decoded.frame.Valid :=
        valid_of_validateTwoViewLayoutSide (h ▸ hright)
      have hnothing : ∀ side ∈ (none : Option DecodedTwoViewLayoutSide), side.frame.Valid :=
        fun side hside => by cases hside
      cases leftSide with
      | decoded left =>
        have hleft : ∀ side ∈ some left, side.frame.Valid := fun side hside => by
          cases hside
          exact hl left rfl
        cases rightSide with
        | decoded right =>
          have hright : ∀ side ∈ some right, side.frame.Valid := fun side hside => by
            cases hside
            exact hr right rfl
          exact fun hnone => hcomposed hleft hright (Option.map_eq_none_iff.mp hnone)
        | skipped reason => exact fun hnone => hcomposed hleft hnothing (Option.map_eq_none_iff.mp hnone)
      | skipped reason =>
        cases rightSide with
        | decoded right =>
          have hright : ∀ side ∈ some right, side.frame.Valid := fun side hside => by
            cases hside
            exact hr right rfl
          exact fun hnone => hcomposed hnothing hright (Option.map_eq_none_iff.mp hnone)
        | skipped reason => exact nofun

end Boundary

end StreamSync
