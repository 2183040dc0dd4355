import Mathlib.Data.Fintype.Basic
import Mathlib.Tactic.FinCases
import StreamSync.QuadIncremental
import StreamSync.TwoViewComposition

namespace StreamSync

open Painting

/-- The copy of one slot, where it has a picture. -/
def copyQuadSlot (canvas : List UInt8) (canvasWidth : Nat) (slot : RenderSlot) (slotWidth slotHeight : Nat) :
    Option (List UInt8) :=
  match slot.renderableFrame with
  | some frame =>
    let rect := quadSlotRect slot.placement slotWidth slotHeight
    copyBgraFrameIntoCanvas canvas canvasWidth frame rect.x rect.y
  | none => some canvas

/-- `compose_four_view_quad_canvas`; `none` is an index out of bounds. What comes before the canvas is as
in the incremental composition. -/
def composeFourViewQuadCanvas (connection : QuadConnection) (policy : SwitcherFourViewQuadLayoutPolicy) :
    Option SwitcherFourViewQuadCompositionResult :=
  let slots := connection.slots
  let baseSlots := fun index => quadComposedSlotMetadataWithoutRect (slots index)
  match quadReady slots with
  | .error none => some (.noRenderableQuadView baseSlots)
  | .error (some reason) => some (.invalidQuadView reason baseSlots)
  | .ok (slotWidth, slotHeight) =>
    match checkedMul slotWidth 2 with
    | none => some (.invalidQuadView .canvasTooLarge baseSlots)
    | some canvasWidth =>
      match checkedMul slotHeight 2 with
      | none => some (.invalidQuadView .canvasTooLarge baseSlots)
      | some canvasHeight =>
        match (checkedMul canvasWidth canvasHeight).bind fun pixels => checkedMul pixels 4 with
        | none => some (.invalidQuadView .canvasTooLarge baseSlots)
        | some canvasLen => do
          let pixels ← (List.finRange 4).foldlM
            (fun pixels index => copyQuadSlot pixels canvasWidth (slots index) slotWidth slotHeight)
            (fillBgra (List.replicate canvasLen 0) policy.placeholderBgra)
          some (.composedFrame {
            width := UInt32.ofNat canvasWidth
            height := UInt32.ofNat canvasHeight
            pixelFormat := .bgra8
            pixels
            slots := fun index => quadComposedSlotMetadataWithRect slotWidth slotHeight (slots index) })

/-- The four slots, two in a row. -/
def quadGrid (slotWidth slotHeight : Nat) : SlotGrid (Fin 4) where
  origin index := (index.val / 2 * slotHeight, index.val % 2 * slotWidth)
  slotWidth
  slotHeight
  width := slotWidth * 2
  height := slotHeight * 2
  inside index := by
    fin_cases index <;> simp <;> omega
  disjoint i j h := by
    fin_cases i <;> fin_cases j <;> simp at h ⊢
  covered y x hy hx := by
    by_cases hrow : y < slotHeight
    · by_cases hcolumn : x < slotWidth
      · exact ⟨0, by simp; omega⟩
      · exact ⟨1, by simp; omega⟩
    · by_cases hcolumn : x < slotWidth
      · exact ⟨2, by simp; omega⟩
      · exact ⟨3, by simp; omega⟩

def quadPictures (slots : FourSlots RenderSlot) (index : Fin 4) : Option (Picture UInt8) :=
  (slots index).renderableFrame.map SwitcherDecodedFrame.picture

theorem le_foldl_max {ι : Type} (f : ι → Nat) (is : List ι) (start : Nat) :
    start ≤ is.foldl (fun most i => max most (f i)) start ∧
      ∀ i ∈ is, f i ≤ is.foldl (fun most i => max most (f i)) start := by
  induction is generalizing start with
  | nil => exact ⟨Nat.le_refl _, nofun⟩
  | cons first is ih =>
    obtain ⟨hstart, hrest⟩ := ih (max start (f first))
    refine ⟨Nat.le_trans (Nat.le_max_left _ _) hstart, fun i hi => ?_⟩
    rcases List.mem_cons.mp hi with rfl | hi
    · exact Nat.le_trans (Nat.le_max_right _ _) hstart
    · exact hrest i hi

section Size

variable {slots : FourSlots RenderSlot} {size : Nat × Nat}

theorem mem_quadFrames {frame : SwitcherDecodedFrame} :
    frame ∈ (List.finRange 4).filterMap (fun index => (slots index).renderableFrame) ↔
      ∃ index, (slots index).renderableFrame = some frame := by
  rw [List.mem_filterMap]
  exact ⟨fun ⟨index, _, h⟩ => ⟨index, h⟩, fun ⟨index, h⟩ => ⟨index, List.mem_finRange index, h⟩⟩

theorem le_quadSlotSize (hsize : quadSlotSize slots = some size) {index : Fin 4}
    {frame : SwitcherDecodedFrame} (hframe : (slots index).renderableFrame = some frame) :
    frame.width.toNat ≤ size.1 ∧ frame.height.toNat ≤ size.2 := by
  have hmem := mem_quadFrames.mpr ⟨index, hframe⟩
  unfold quadSlotSize at hsize
  split at hsize
  next => cases hsize
  next first frames heq =>
    cases hsize
    rw [heq] at hmem
    obtain ⟨hwidth, hwidths⟩ := le_foldl_max (fun frame : SwitcherDecodedFrame => frame.width.toNat) frames
      first.width.toNat
    obtain ⟨hheight, hheights⟩ := le_foldl_max (fun frame : SwitcherDecodedFrame => frame.height.toNat) frames
      first.height.toNat
    rcases List.mem_cons.mp hmem with rfl | hmem
    · exact ⟨hwidth, hheight⟩
    · exact ⟨hwidths frame hmem, hheights frame hmem⟩

theorem exists_frame_of_quadSlotSize (hsize : quadSlotSize slots = some size) :
    ∃ index frame, (slots index).renderableFrame = some frame := by
  unfold quadSlotSize at hsize
  split at hsize
  next => cases hsize
  next first frames heq =>
    obtain ⟨index, hindex⟩ := mem_quadFrames.mp (heq ▸ List.mem_cons_self : first ∈ _)
    exact ⟨index, first, hindex⟩

/-- A valid frame passes its check unless its own bytes are too many. -/
theorem validateQuadRenderableSlot_of_valid {slot : RenderSlot}
    (hvalid : ∀ frame ∈ slot.renderableFrame, frame.Valid) :
    validateQuadRenderableSlot slot = .ok () ∨
      validateQuadRenderableSlot slot = .error .canvasTooLarge ∧
        ∃ frame ∈ slot.renderableFrame, UInt32.size ≤ frame.width.toNat * frame.height.toNat * 4 := by
  unfold validateQuadRenderableSlot
  cases hframe : slot.renderableFrame with
  | none => exact .inl rfl
  | some frame =>
    obtain ⟨hwidth, hheight, hlength⟩ := hvalid frame hframe
    have hformat : ¬ frame.pixelFormat ≠ .bgra8 := by
      cases frame.pixelFormat
      exact not_not.mpr rfl
    have hpositive : ¬ (frame.width = 0 ∨ frame.height = 0) := by
      rintro (h | h)
      · rw [h] at hwidth
        exact absurd hwidth (by decide)
      · rw [h] at hheight
        exact absurd hheight (by decide)
    dsimp only
    rw [if_neg hformat, if_neg hpositive]
    by_cases hlarge : UInt32.size ≤ frame.width.toNat * frame.height.toNat * 4
    · rw [if_pos hlarge]
      exact .inr ⟨rfl, frame, rfl, hlarge⟩
    · rw [if_neg hlarge, if_neg (not_not.mpr hlength)]
      exact .inl rfl

/-- Valid frames are ready at the size of their slots unless one of them is too large. -/
theorem quadReady_of_valid (hheld : ∀ index, (slots index).missingDecodedPlacement = none)
    (hvalid : ∀ index, ∀ frame ∈ (slots index).renderableFrame, frame.Valid)
    (hsize : quadSlotSize slots = some size) :
    quadReady slots = .ok size ∨
      quadReady slots = .error (some .canvasTooLarge) ∧
        UInt32.size ≤ size.1 * 2 * (size.2 * 2) * 4 := by
  have hnone : ((List.finRange 4).findSome? fun index => (slots index).missingDecodedPlacement) = none :=
    List.findSome?_eq_none_iff.mpr fun index _ => hheld index
  unfold quadReady
  rw [hnone, hsize]
  dsimp only
  split
  next reason hreason =>
    obtain ⟨index, -, hindex⟩ := List.exists_of_findSome?_eq_some hreason
    rcases validateQuadRenderableSlot_of_valid (hvalid index) with hok | ⟨herror, frame, hframe, hlarge⟩
    · rw [hok] at hindex
      cases hindex
    · rw [herror] at hindex
      cases hindex
      obtain ⟨hwidth, hheight⟩ := le_quadSlotSize hsize hframe
      have hdoubled : frame.width.toNat * frame.height.toNat ≤ size.1 * 2 * (size.2 * 2) :=
        Nat.mul_le_mul (by omega) (by omega)
      exact .inr ⟨rfl, by omega⟩
  next => exact .inl rfl

end Size

section Quad

variable {slots : FourSlots RenderSlot} {size : Nat × Nat}

theorem quadGrid_fits (hvalid : ∀ index, ∀ frame ∈ (slots index).renderableFrame, frame.Valid)
    (hsize : quadSlotSize slots = some size) (index : Fin 4) :
    ∀ picture ∈ quadPictures slots index, (quadGrid size.1 size.2).Fits 4 picture := by
  intro picture hpicture
  obtain ⟨frame, hframe, rfl⟩ := Option.map_eq_some_iff.mp hpicture
  obtain ⟨hwidth, hheight⟩ := le_quadSlotSize hsize hframe
  exact ⟨(hvalid index frame hframe).sized, hwidth, hheight⟩

/-- Copying a slot is drawing it where its index says. -/
theorem copyQuadSlot_eq {index : Fin 4} (hplaced : (slots index).placement = quadSlotPlacement index)
    (hvalid : ∀ frame ∈ (slots index).renderableFrame, frame.Valid)
    (hfits : ∀ picture ∈ quadPictures slots index, (quadGrid size.1 size.2).Fits 4 picture)
    {canvas : List UInt8} (hcanvas : canvas.length = size.2 * 2 * (size.1 * 2) * 4) :
    copyQuadSlot canvas (size.1 * 2) (slots index) size.1 size.2 =
      some ((quadGrid size.1 size.2).drawSlot 4 (quadPictures slots) canvas index) := by
  have hin : index.val / 2 * size.2 + size.2 ≤ size.2 * 2 ∧ index.val % 2 * size.1 + size.1 ≤ size.1 * 2 :=
    (quadGrid size.1 size.2).inside index
  unfold copyQuadSlot SlotGrid.drawSlot
  rw [hplaced]
  cases hframe : (slots index).renderableFrame with
  | none =>
    have hnone : quadPictures slots index = none := by
      rw [quadPictures, hframe, Option.map_none]
    rw [hnone]
  | some frame =>
    have hsome : quadPictures slots index = some frame.picture := by
      rw [quadPictures, hframe, Option.map_some]
    have hfit := hfits _ hsome
    have hwidth : frame.width.toNat ≤ size.1 := hfit.width_le
    have hheight : frame.height.toNat ≤ size.2 := hfit.height_le
    rw [hsome]
    exact copyBgraFrameIntoCanvas_eq (hvalid frame hframe) (Nat.le_trans (Nat.add_le_add_left hwidth _) hin.2)
      (Nat.le_trans (Nat.add_le_add_left hheight _) hin.1) hcanvas

/-- The result where there is no canvas, for the reason there is none. -/
def quadRefusal (slots : FourSlots RenderSlot) :
    Option SwitcherFourViewQuadCompositionInvalidReason → SwitcherFourViewQuadCompositionResult
  | none => .noRenderableQuadView fun index => quadComposedSlotMetadataWithoutRect (slots index)
  | some reason => .invalidQuadView reason fun index => quadComposedSlotMetadataWithoutRect (slots index)

theorem composeFourViewQuadCanvas_error {connection : QuadConnection}
    {reason : Option SwitcherFourViewQuadCompositionInvalidReason}
    (hready : quadReady connection.slots = .error reason) (policy : SwitcherFourViewQuadLayoutPolicy) :
    composeFourViewQuadCanvas connection policy = some (quadRefusal connection.slots reason) := by
  unfold composeFourViewQuadCanvas
  dsimp only
  rw [hready]
  cases reason <;> rfl

theorem composeFourViewQuadCanvas_tooLarge {connection : QuadConnection}
    (hready : quadReady connection.slots = .ok size) (hlarge : UInt32.size ≤ size.1 * 2 * (size.2 * 2) * 4)
    (policy : SwitcherFourViewQuadLayoutPolicy) :
    composeFourViewQuadCanvas connection policy =
      some (quadRefusal connection.slots (some .canvasTooLarge)) := by
  unfold composeFourViewQuadCanvas
  dsimp only
  rw [hready]
  dsimp only
  by_cases hwide : size.1 * 2 < UInt32.size
  · rw [checkedMul_eq_some hwide]
    dsimp only
    by_cases hhigh : size.2 * 2 < UInt32.size
    · rw [checkedMul_eq_some hhigh]
      dsimp only
      rw [checkedLen_of_le hlarge]
      rfl
    · rw [checkedMul_eq_none (Nat.le_of_not_lt hhigh)]
      rfl
  · rw [checkedMul_eq_none (Nat.le_of_not_lt hwide)]
    rfl

/-- What composing four slots comes to. -/
structure QuadComposes (connection : QuadConnection) (policy : SwitcherFourViewQuadLayoutPolicy) : Prop where
  inBounds : composeFourViewQuadCanvas connection policy ≠ none
  missing : ∀ placement,
    ((List.finRange 4).findSome? fun index => (connection.slots index).missingDecodedPlacement) =
        some placement →
      composeFourViewQuadCanvas connection policy =
        some (quadRefusal connection.slots (some (.missingDecodedPixels placement)))
  noPicture : (∀ index, (connection.slots index).missingDecodedPlacement = none) →
    quadSlotSize connection.slots = none →
    composeFourViewQuadCanvas connection policy = some (quadRefusal connection.slots none)
  tooLarge : (∀ index, (connection.slots index).missingDecodedPlacement = none) →
    ∀ size, quadSlotSize connection.slots = some size →
    (composeFourViewQuadCanvas connection policy =
        some (quadRefusal connection.slots (some .canvasTooLarge)) ↔
      UInt32.size ≤ size.1 * 2 * (size.2 * 2) * 4)
  composed : (∀ index, (connection.slots index).missingDecodedPlacement = none) →
    ∀ size, quadSlotSize connection.slots = some size → size.1 * 2 * (size.2 * 2) * 4 < UInt32.size →
    ∃ frame, composeFourViewQuadCanvas connection policy = some (.composedFrame frame) ∧
      frame.width.toNat = size.1 * 2 ∧ frame.height.toNat = size.2 * 2 ∧
      (quadGrid size.1 size.2).Shows 4 (quadPictures connection.slots) policy.placeholderBgra.toList
        frame.pixels

section Connection

variable {connection : QuadConnection}

theorem quadReady_missing {placement : SwitcherFourViewQuadSlotPlacement}
    (hmissing : ((List.finRange 4).findSome? fun index => (slots index).missingDecodedPlacement) =
      some placement) :
    quadReady slots = .error (some (.missingDecodedPixels placement)) := by
  unfold quadReady
  rw [hmissing]

theorem quadReady_noPicture (hheld : ∀ index, (slots index).missingDecodedPlacement = none)
    (hsize : quadSlotSize slots = none) : quadReady slots = .error none := by
  unfold quadReady
  rw [List.findSome?_eq_none_iff.mpr fun index _ => hheld index, hsize]

theorem composeFourViewQuadCanvas_composed
    (hvalid : ∀ index, ∀ frame ∈ (connection.slots index).renderableFrame, frame.Valid)
    (hheld : ∀ index, (connection.slots index).missingDecodedPlacement = none)
    (hsize : quadSlotSize connection.slots = some size)
    (hfits : size.1 * 2 * (size.2 * 2) * 4 < UInt32.size) (policy : SwitcherFourViewQuadLayoutPolicy) :
    ∃ frame, composeFourViewQuadCanvas connection policy = some (.composedFrame frame) ∧
      frame.width.toNat = size.1 * 2 ∧ frame.height.toNat = size.2 * 2 ∧
      (quadGrid size.1 size.2).Shows 4 (quadPictures connection.slots) policy.placeholderBgra.toList
        frame.pixels := by
  obtain ⟨index, frame, hframe⟩ := exists_frame_of_quadSlotSize hsize
  have hshown := hvalid index frame hframe
  obtain ⟨hle, hle'⟩ := le_quadSlotSize hsize hframe
  have hwidth : 0 < size.1 * 2 := Nat.mul_pos (Nat.lt_of_lt_of_le hshown.width_pos hle) (by decide)
  have hheight : 0 < size.2 * 2 := Nat.mul_pos (Nat.lt_of_lt_of_le hshown.height_pos hle') (by decide)
  obtain ⟨hwide, hlen⟩ := checkedLen_of_lt hheight hfits
  have hhigh : size.2 * 2 < UInt32.size := by
    have hle : size.2 * 2 ≤ size.1 * 2 * (size.2 * 2) := Nat.le_mul_of_pos_left _ hwidth
    omega
  have hready : quadReady connection.slots = .ok size := by
    rcases quadReady_of_valid hheld hvalid hsize with hready | ⟨-, hlarge⟩
    · exact hready
    · omega
  have hfit := quadGrid_fits hvalid hsize
  have hcolor : policy.placeholderBgra.toList.length = 4 := by simp
  have hshows := SlotGrid.shows_drawSlots hcolor hfit
    (List.nodup_finRange 4) List.mem_finRange
  have hcopy {canvas : List UInt8} (hcanvas : canvas.length = size.2 * 2 * (size.1 * 2) * 4) :
      (List.finRange 4).foldlM
          (fun pixels index => copyQuadSlot pixels (size.1 * 2) (connection.slots index) size.1 size.2) canvas =
        some ((List.finRange 4).foldl
          ((quadGrid size.1 size.2).drawSlot 4 (quadPictures connection.slots)) canvas) :=
    Fallible.foldlM_eq_some (P := fun canvas => canvas.length = size.2 * 2 * (size.1 * 2) * 4)
      (fun canvas index _ hcanvas => ⟨copyQuadSlot_eq (connection.placed index) (hvalid index) (hfit index) hcanvas,
        SlotGrid.length_drawSlot (hfit index) hcanvas⟩) hcanvas
  refine ⟨{
    width := UInt32.ofNat (size.1 * 2)
    height := UInt32.ofNat (size.2 * 2)
    pixelFormat := .bgra8
    pixels := _
    slots := fun index => quadComposedSlotMetadataWithRect size.1 size.2 (connection.slots index) },
    ?_, UInt32.toNat_ofNat_of_lt' hwide, UInt32.toNat_ofNat_of_lt' hhigh, hshows⟩
  unfold composeFourViewQuadCanvas
  dsimp only
  rw [hready]
  dsimp only
  rw [checkedMul_eq_some hwide]
  dsimp only
  rw [checkedMul_eq_some hhigh]
  dsimp only
  rw [hlen]
  dsimp only
  rw [Nat.mul_comm (size.1 * 2) (size.2 * 2), fillBgra_replicate, hcopy (by simp)]
  rfl

theorem quadComposes (hvalid : ∀ index, ∀ frame ∈ (connection.slots index).renderableFrame, frame.Valid)
    (policy : SwitcherFourViewQuadLayoutPolicy) : QuadComposes connection policy := by
  have hmissing {placement : SwitcherFourViewQuadSlotPlacement}
      (h : ((List.finRange 4).findSome? fun index => (connection.slots index).missingDecodedPlacement) =
        some placement) :=
    composeFourViewQuadCanvas_error (quadReady_missing h) policy
  have hempty (hheld : ∀ index, (connection.slots index).missingDecodedPlacement = none)
      (hsize : quadSlotSize connection.slots = none) :=
    composeFourViewQuadCanvas_error (quadReady_noPicture hheld hsize) policy
  have hlarge (hheld : ∀ index, (connection.slots index).missingDecodedPlacement = none) {size : Nat × Nat}
      (hsize : quadSlotSize connection.slots = some size)
      (hlarge : UInt32.size ≤ size.1 * 2 * (size.2 * 2) * 4) :
      composeFourViewQuadCanvas connection policy =
        some (quadRefusal connection.slots (some .canvasTooLarge)) := by
    rcases quadReady_of_valid hheld hvalid hsize with hready | ⟨hready, -⟩
    · exact composeFourViewQuadCanvas_tooLarge hready hlarge policy
    · exact composeFourViewQuadCanvas_error hready policy
  have hcomposed (hheld : ∀ index, (connection.slots index).missingDecodedPlacement = none) {size : Nat × Nat}
      (hsize : quadSlotSize connection.slots = some size)
      (hfits : size.1 * 2 * (size.2 * 2) * 4 < UInt32.size) :=
    composeFourViewQuadCanvas_composed hvalid hheld hsize hfits policy
  refine ⟨?_, fun _ => hmissing, hempty, fun hheld size hsize => ⟨fun hresult => ?_, hlarge hheld hsize⟩,
    fun hheld size => hcomposed hheld⟩
  · cases hfirst : (List.finRange 4).findSome? fun index => (connection.slots index).missingDecodedPlacement with
    | some placement => simp [hmissing hfirst]
    | none =>
      have hheld (index : Fin 4) : (connection.slots index).missingDecodedPlacement = none :=
        List.findSome?_eq_none_iff.mp hfirst index (List.mem_finRange index)
      cases hsize : quadSlotSize connection.slots with
      | none => simp [hempty hheld hsize]
      | some size =>
        by_cases hfits : size.1 * 2 * (size.2 * 2) * 4 < UInt32.size
        · obtain ⟨frame, hframe, -⟩ := hcomposed hheld hsize hfits
          simp [hframe]
        · simp [hlarge hheld hsize (Nat.le_of_not_lt hfits)]
  · by_contra hfits
    obtain ⟨frame, hframe, -⟩ := hcomposed hheld hsize (Nat.lt_of_not_le hfits)
    rw [hframe] at hresult
    cases hresult

end Connection

end Quad

/-- Frames of any sizes on any of the two sides and of the four slots: the copies stay in bounds, and
each slot of the canvas shows its frame and the placeholder around it. -/
theorem canvasComposition_exact {left right : Option DecodedTwoViewLayoutSide}
    (hleft : ∀ side ∈ left, side.frame.Valid) (hright : ∀ side ∈ right, side.frame.Valid)
    {connection : QuadConnection}
    (hslots : ∀ index, ∀ frame ∈ (connection.slots index).renderableFrame, frame.Valid)
    (policy : SwitcherTwoViewLayoutPolicy) (quadPolicy : SwitcherFourViewQuadLayoutPolicy) :
    TwoViewComposes left right policy ∧ QuadComposes connection quadPolicy :=
  ⟨twoViewComposes hleft hright policy, quadComposes hslots quadPolicy⟩

def dotPicture : SwitcherDecodedFrame := ⟨1, 1, .bgra8, [1, 2, 3, 4]⟩

def widePicture : SwitcherDecodedFrame := ⟨2, 1, .bgra8, [5, 6, 7, 8, 9, 10, 11, 12]⟩

def tallPicture : SwitcherDecodedFrame := ⟨1, 2, .bgra8, [13, 14, 15, 16, 17, 18, 19, 20]⟩

/-- Three pictures of three sizes; the third slot is free. -/
def threeSizes : QuadConnection where
  slots index := slotShowing index
    (match index with | 0 => some dotPicture | 1 => some widePicture | 2 => none | 3 => some tallPicture)
  placed index := slotShowing_placement index _

theorem valid_threeSizes {index : Fin 4} {frame : SwitcherDecodedFrame}
    (h : frame ∈ (threeSizes.slots index).renderableFrame) : frame.Valid := by
  revert h
  fin_cases index
  · rintro ⟨⟩
    exact ⟨by decide, by decide, rfl⟩
  · rintro ⟨⟩
    exact ⟨by decide, by decide, rfl⟩
  · exact nofun
  · rintro ⟨⟩
    exact ⟨by decide, by decide, rfl⟩

theorem canvasComposition_exact_threeSizes :
    (∃ frame, composeTwoViewCanvas (some ⟨none, tallPicture⟩) (some ⟨none, widePicture⟩) ⟨#v[16, 16, 16, 255]⟩ =
        some (.ok frame) ∧ frame.width.toNat = 4 ∧ frame.height.toNat = 2 ∧
        (twoViewGrid 2 2).Shows 4 (twoViewPictures (some ⟨none, tallPicture⟩) (some ⟨none, widePicture⟩))
          [16, 16, 16, 255] frame.pixels) ∧
      ∃ frame, composeFourViewQuadCanvas threeSizes .default = some (.composedFrame frame) ∧
        frame.width.toNat = 4 ∧ frame.height.toNat = 4 ∧
        (quadGrid 2 2).Shows 4 (quadPictures threeSizes.slots)
          SwitcherFourViewQuadLayoutPolicy.default.placeholderBgra.toList frame.pixels := by
  have htall : ∀ side ∈ some (⟨none, tallPicture⟩ : DecodedTwoViewLayoutSide), side.frame.Valid := by
    rintro _ ⟨⟩
    exact ⟨by decide, by decide, rfl⟩
  have hwide : ∀ side ∈ some (⟨none, widePicture⟩ : DecodedTwoViewLayoutSide), side.frame.Valid := by
    rintro _ ⟨⟩
    exact ⟨by decide, by decide, rfl⟩
  obtain ⟨htwo, hquad⟩ := canvasComposition_exact htall hwide (fun _ _ => valid_threeSizes)
    ⟨#v[16, 16, 16, 255]⟩ .default
  refine ⟨htwo.composed (2, 2) rfl (by decide), hquad.composed (fun index => ?_) (2, 2) rfl (by decide)⟩
  fin_cases index <;> rfl

/-- Four placeholders. -/
def nothingShown : QuadConnection where
  slots index := slotShowing index none
  placed index := slotShowing_placement index none

/-- With no picture in any of the four slots there is neither a canvas nor one that is too large. -/
theorem not_quadCanvas_composed :
    ¬ ∀ connection policy, (∀ index, ∀ frame ∈ (connection.slots index).renderableFrame, frame.Valid) →
      composeFourViewQuadCanvas connection policy =
          some (quadRefusal connection.slots (some .canvasTooLarge)) ∨
        ∃ frame, composeFourViewQuadCanvas connection policy = some (.composedFrame frame) := by
  intro h
  have hrefused : composeFourViewQuadCanvas nothingShown .default = some (quadRefusal nothingShown.slots none) :=
    composeFourViewQuadCanvas_error (quadReady_noPicture (fun _ => rfl) rfl) .default
  rcases h nothingShown .default (fun _ _ hframe => by cases hframe) with hlarge | ⟨frame, hframe⟩
  · rw [hrefused] at hlarge
    cases hlarge
  · rw [hrefused] at hframe
    cases hframe

end StreamSync
