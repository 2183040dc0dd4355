import StreamSync.QuadComposition

namespace StreamSync

open Painting

/-- The bytes of the canvas that belong to a slot. -/
def slotRegion (index : Fin 4) : Set Nat :=
  {n | n / 5120 / 360 = index.val / 2 ∧ n % 5120 / 2560 = index.val % 2}

theorem slotRegion_disjoint (i j : Fin 4) (n : Nat) (hi : n ∈ slotRegion i) (hj : n ∈ slotRegion j) :
    i = j := by
  obtain ⟨hrow, hcol⟩ := hi
  obtain ⟨hrow', hcol'⟩ := hj
  apply Fin.ext
  omega

theorem slotRegion_cover (n : Nat) (hn : n < obsOutputLen) : ∃ i, n ∈ slotRegion i := by
  have hlen : obsOutputLen = 3686400 := rfl
  have hrow : n / 5120 / 360 < 2 := by omega
  have hcol : n % 5120 / 2560 < 2 := by omega
  refine ⟨⟨n / 5120 / 360 * 2 + n % 5120 / 2560, by omega⟩, ?_, ?_⟩
  · show n / 5120 / 360 = (n / 5120 / 360 * 2 + n % 5120 / 2560) / 2
    omega
  · show n % 5120 / 2560 = (n / 5120 / 360 * 2 + n % 5120 / 2560) % 2
    omega

/-- Where a row of the slot's fill begins. -/
def fillStart (index : Fin 4) (row : Nat) : Nat :=
  (index.val / 2 * 360 + row) * 5120 + index.val % 2 * 640 * 4

/-- Where a pixel of the slot begins. -/
def pixelStart (index : Fin 4) (y x : Nat) : Nat :=
  (index.val / 2 * 360 + y) * 5120 + index.val % 2 * 640 * 4 + x * 4

theorem fillStart_bounds (index : Fin 4) {row : Nat} (hrow : row < 360) :
    fillStart index row + 2560 ≤ obsOutputLen := by
  have hlen : obsOutputLen = 3686400 := rfl
  have hi := index.isLt
  unfold fillStart
  omega

theorem mem_slotRegion_of_fill (index : Fin 4) {row n : Nat} (hrow : row < 360)
    (hlow : fillStart index row ≤ n) (hhigh : n < fillStart index row + 2560) : n ∈ slotRegion index := by
  have hi := index.isLt
  unfold fillStart at hlow hhigh
  constructor
  · omega
  · omega

theorem fill_of_mem_slotRegion (index : Fin 4) {n : Nat} (hn : n ∈ slotRegion index) :
    n / 5120 % 360 < 360 ∧ fillStart index (n / 5120 % 360) ≤ n ∧
      n < fillStart index (n / 5120 % 360) + 2560 := by
  obtain ⟨hrow, hcol⟩ := hn
  have hi := index.isLt
  unfold fillStart
  omega

theorem pixelStart_in_fill (index : Fin 4) (y : Nat) {x : Nat} (hx : x < 640) :
    fillStart index y ≤ pixelStart index y x ∧ pixelStart index y x + 4 ≤ fillStart index y + 2560 := by
  unfold fillStart pixelStart
  omega

/-- The pieces the placeholder of a slot is drawn in. -/
def fillPieces (index : Fin 4) (placeholderRow : List UInt8) : List (Nat × List UInt8) :=
  (List.range 360).map fun row => (fillStart index row, placeholderRow.take 2560)

def slotRect (index : Fin 4) : SwitcherFourViewQuadComposedSlotRect :=
  ⟨quadSlotPlacement index, index.val % 2 * 640, index.val / 2 * 360, 640, 360⟩

theorem quadSlotRect_eq (index : Fin 4) :
    quadSlotRect (quadSlotPlacement index) (obsOutputWidth / 2) (obsOutputHeight / 2) = slotRect index :=
  rfl

/-- The pieces a slot's picture is drawn in. -/
def picturePieces (index : Fin 4) (frame : SwitcherDecodedFrame) (size : Nat × Nat) :
    List (Nat × List UInt8) :=
  (List.range 360).flatMap fun y =>
    (List.range 640).filterMap fun x =>
      (scaledPixel frame (slotRect index) size.1 size.2 y x).map
        fun pixel => (pixelStart index y x, pixel)

def spliceAll (pieces : List (Nat × List UInt8)) (canvas : List UInt8) : List UInt8 :=
  pieces.foldl (fun canvas piece => splice canvas piece.1 piece.2) canvas

@[simp] theorem spliceAll_nil (canvas : List UInt8) : spliceAll [] canvas = canvas := List.foldl_nil

theorem spliceAll_map {ι : Type} (is : List ι) (piece : ι → Nat × List UInt8) (canvas : List UInt8) :
    spliceAll (is.map piece) canvas =
      is.foldl (fun canvas i => splice canvas (piece i).1 (piece i).2) canvas :=
  List.foldl_map

theorem spliceAll_flatMap {ι : Type} (is : List ι) (pieces : ι → List (Nat × List UInt8))
    (canvas : List UInt8) :
    spliceAll (is.flatMap pieces) canvas = is.foldl (fun canvas i => spliceAll (pieces i) canvas) canvas :=
  List.foldl_flatMap

theorem spliceAll_filterMap {ι : Type} (is : List ι) (piece : ι → Option (Nat × List UInt8))
    (canvas : List UInt8) :
    spliceAll (is.filterMap piece) canvas =
      is.foldl (fun canvas i => match piece i with
        | some p => splice canvas p.1 p.2
        | none => canvas) canvas := by
  induction is generalizing canvas with
  | nil => rfl
  | cons i is ih =>
    cases h : piece i with
    | none => simp only [List.filterMap_cons_none h, List.foldl_cons, h, ih]
    | some p =>
      simp only [List.filterMap_cons_some h, List.foldl_cons, h]
      exact ih (splice canvas p.1 p.2)

theorem fillBgraRows_eq (index : Fin 4) (canvas placeholderRow : List UInt8) :
    fillBgraRows canvas obsOutputWidth (index.val % 2 * 640) (index.val / 2 * 360) 640 360
        placeholderRow = spliceAll (fillPieces index placeholderRow) canvas := by
  rw [fillPieces, spliceAll_map, fillBgraRows]
  congr 1

theorem length_of_scaledPixel {frame : SwitcherDecodedFrame} {rect : SwitcherFourViewQuadComposedSlotRect}
    {w h y x : Nat} {pixel : List UInt8} (hp : scaledPixel frame rect w h y x = some pixel) :
    pixel.length ≤ 4 := by
  unfold scaledPixel at hp
  dsimp only at hp
  split at hp
  next => cases hp
  next =>
    split at hp
    next => cases hp
    next =>
      cases hp
      exact List.length_take_le 4 _

/-- Drawing a slot is drawing the pieces of its placeholder, then those of its picture. -/
theorem updateQuadOutputSlot_eq (index : Fin 4) {slot : RenderSlot}
    (hplaced : slot.placement = quadSlotPlacement index) (canvas placeholderRow : List UInt8)
    (size : Nat × Nat) :
    updateQuadOutputSlot canvas obsOutputWidth obsOutputHeight slot placeholderRow size.1 size.2 =
      spliceAll ((slot.renderableFrame.map fun frame => picturePieces index frame size).getD [])
        (spliceAll (fillPieces index placeholderRow) canvas) := by
  unfold updateQuadOutputSlot
  rw [hplaced, quadSlotRect_eq]
  dsimp only [slotRect]
  rw [fillBgraRows_eq]
  cases slot.renderableFrame with
  | none =>
    rw [Option.map_none, Option.getD_none, spliceAll_nil]
  | some frame =>
    rw [Option.map_some, Option.getD_some, picturePieces, spliceAll_flatMap]
    refine List.foldl_ext _ _ _ fun canvas y _ => ?_
    rw [spliceAll_filterMap]
    refine List.foldl_ext _ _ _ fun canvas x _ => ?_
    rw [slotRect]
    cases scaledPixel frame _ size.1 size.2 y x with
    | none => rfl
    | some pixel => rfl

theorem picturePieces_bounds {index : Fin 4} {frame : SwitcherDecodedFrame} {size : Nat × Nat}
    {piece : Nat × List UInt8} (hp : piece ∈ picturePieces index frame size) :
    ∃ y x, y < 360 ∧ x < 640 ∧ piece.1 = pixelStart index y x ∧ piece.2.length ≤ 4 ∧
      scaledPixel frame (slotRect index) size.1 size.2 y x = some piece.2 := by
  unfold picturePieces at hp
  obtain ⟨y, hy, hp⟩ := List.mem_flatMap.mp hp
  obtain ⟨x, hx, hp⟩ := List.mem_filterMap.mp hp
  obtain ⟨pixel, hpixel, rfl⟩ := Option.map_eq_some_iff.mp hp
  exact ⟨y, x, List.mem_range.mp hy, List.mem_range.mp hx, rfl, length_of_scaledPixel hpixel, hpixel⟩

theorem overwrites_fillPieces (index : Fin 4) {placeholderRow : List UInt8}
    (hrow : placeholderRow.length = 5120) :
    Overwrites obsOutputLen (slotRegion index) (spliceAll (fillPieces index placeholderRow)) := by
  have hlen : (placeholderRow.take 2560).length = 2560 := by
    rw [List.length_take]
    omega
  refine overwrites_foldl_splice ?_ ?_ ?_
  · intro piece hp
    obtain ⟨row, hr, rfl⟩ := List.mem_map.mp hp
    have hb := fillStart_bounds index (List.mem_range.mp hr)
    simp only [hlen]
    exact hb
  · intro piece hp n hlow hhigh
    obtain ⟨row, hr, rfl⟩ := List.mem_map.mp hp
    simp only [hlen] at hhigh
    exact mem_slotRegion_of_fill index (List.mem_range.mp hr) hlow hhigh
  · intro n hn
    obtain ⟨hr, hlow, hhigh⟩ := fill_of_mem_slotRegion index hn
    refine ⟨_, List.mem_map.mpr ⟨n / 5120 % 360, List.mem_range.mpr hr, rfl⟩, hlow, ?_⟩
    simp only [hlen]
    exact hhigh

theorem actsWithin_picturePieces (index : Fin 4) (frame : SwitcherDecodedFrame) (size : Nat × Nat) :
    ActsWithin obsOutputLen (slotRegion index) (spliceAll (picturePieces index frame size)) := by
  refine actsWithin_foldl _ fun piece hp => ?_
  obtain ⟨y, x, hy, hx, hstart, hlen, -⟩ := picturePieces_bounds hp
  have hfill := fillStart_bounds index hy
  have hpixel := pixelStart_in_fill index y hx
  refine actsWithin_splice (by omega) fun n hlow hhigh => ?_
  exact mem_slotRegion_of_fill index hy (by omega) (by omega)

/-- Whatever stood in a slot, drawing it leaves the placeholder and the picture there, and nothing outside
changes. -/
theorem overwrites_updateQuadOutputSlot (index : Fin 4) {slot : RenderSlot}
    (hplaced : slot.placement = quadSlotPlacement index) {placeholderRow : List UInt8}
    (hrow : placeholderRow.length = 5120) (size : Nat × Nat) :
    Overwrites obsOutputLen (slotRegion index) fun canvas =>
      updateQuadOutputSlot canvas obsOutputWidth obsOutputHeight slot placeholderRow size.1 size.2 := by
  have hpicture : ActsWithin obsOutputLen (slotRegion index)
      (spliceAll ((slot.renderableFrame.map fun frame => picturePieces index frame size).getD [])) := by
    cases slot.renderableFrame with
    | none =>
      have hnil : spliceAll [] = fun canvas => canvas := funext spliceAll_nil
      rw [Option.map_none, Option.getD_none, hnil]
      exact actsWithin_id
    | some frame =>
      rw [Option.map_some, Option.getD_some]
      exact actsWithin_picturePieces index frame size
  have hboth := (overwrites_fillPieces index hrow).comp hpicture
  simp only [updateQuadOutputSlot_eq index hplaced]
  exact hboth

section Pixels

variable {index : Fin 4} {slot : RenderSlot} {canvas placeholderRow : List UInt8} {size : Nat × Nat}
  {y x k : Nat}

theorem pixelStart_injective {y' x' n : Nat} (hx : x < 640) (hx' : x' < 640)
    (hn : pixelStart index y x ≤ n ∧ n < pixelStart index y x + 4)
    (hn' : pixelStart index y' x' ≤ n ∧ n < pixelStart index y' x' + 4) : y = y' ∧ x = x' := by
  unfold pixelStart at hn hn'
  omega

theorem fillStart_injective {y' n : Nat} (hn : fillStart index y ≤ n ∧ n < fillStart index y + 2560)
    (hn' : fillStart index y' ≤ n ∧ n < fillStart index y' + 2560) : y = y' := by
  unfold fillStart at hn hn'
  omega

theorem getElem?_fill (hrow : placeholderRow.length = 5120) (hc : canvas.length = obsOutputLen)
    (hy : y < 360) (hx : x < 640) (hk : k < 4) :
    (spliceAll (fillPieces index placeholderRow) canvas)[pixelStart index y x + k]? =
      placeholderRow[x * 4 + k]? := by
  have hlen : (placeholderRow.take 2560).length = 2560 := by
    rw [List.length_take]
    omega
  have hin := pixelStart_in_fill index y hx
  have hoffset : pixelStart index y x + k - fillStart index y = x * 4 + k := by
    unfold pixelStart fillStart
    omega
  refine getElem?_foldl_splice ?_ ?_ (Or.inl ?_)
  · intro piece hp
    obtain ⟨row, hr, rfl⟩ := List.mem_map.mp hp
    have hb := fillStart_bounds index (List.mem_range.mp hr)
    simp only [hlen, hc]
    exact hb
  · intro piece hp hlow hhigh
    obtain ⟨row, hr, rfl⟩ := List.mem_map.mp hp
    simp only [hlen] at hlow hhigh ⊢
    have hown : fillStart index y ≤ pixelStart index y x + k ∧
        pixelStart index y x + k < fillStart index y + 2560 := ⟨by omega, by omega⟩
    rw [← fillStart_injective hown ⟨hlow, hhigh⟩, hoffset, List.getElem?_take_of_lt (by omega)]
  · refine ⟨_, List.mem_map.mpr ⟨y, List.mem_range.mpr hy, rfl⟩, ?_, ?_⟩
    · show fillStart index y ≤ _
      omega
    · show _ < fillStart index y + (placeholderRow.take 2560).length
      omega

/-- Where a slot has no picture, or the picture does not reach, it shows the placeholder. -/
theorem getElem?_updateQuadOutputSlot_placeholder (hplaced : slot.placement = quadSlotPlacement index)
    (hrow : placeholderRow.length = 5120) (hc : canvas.length = obsOutputLen)
    (hy : y < 360) (hx : x < 640) (hk : k < 4)
    (hnone : ∀ frame ∈ slot.renderableFrame, scaledPixel frame (slotRect index) size.1 size.2 y x = none) :
    (updateQuadOutputSlot canvas obsOutputWidth obsOutputHeight slot placeholderRow size.1
        size.2)[pixelStart index y x + k]? = placeholderRow[x * 4 + k]? := by
  rw [updateQuadOutputSlot_eq index hplaced]
  have hfill : (spliceAll (fillPieces index placeholderRow) canvas)[pixelStart index y x + k]? =
      placeholderRow[x * 4 + k]? := getElem?_fill hrow hc hy hx hk
  cases hslot : slot.renderableFrame with
  | none =>
    rw [Option.map_none, Option.getD_none, spliceAll_nil]
    exact hfill
  | some frame =>
    rw [Option.map_some, Option.getD_some]
    have hfilled := (overwrites_fillPieces index hrow).acts.length canvas hc
    refine getElem?_foldl_splice ?_ ?_ (Or.inr hfill)
    · intro piece hp
      obtain ⟨y', x', hy', hx', hstart, hlen, -⟩ := picturePieces_bounds hp
      have hb := fillStart_bounds index hy'
      have hin := pixelStart_in_fill index y' hx'
      omega
    · intro piece hp hlow hhigh
      obtain ⟨y', x', hy', hx', hstart, hlen, hpixel⟩ := picturePieces_bounds hp
      have hown : pixelStart index y x ≤ pixelStart index y x + k ∧
          pixelStart index y x + k < pixelStart index y x + 4 := ⟨by omega, by omega⟩
      have hother : pixelStart index y' x' ≤ pixelStart index y x + k ∧
          pixelStart index y x + k < pixelStart index y' x' + 4 := ⟨by omega, by omega⟩
      obtain ⟨rfl, rfl⟩ := pixelStart_injective hx hx' hown hother
      rw [hnone frame (by rw [hslot]; rfl)] at hpixel
      cases hpixel

/-- Where the scaled picture reaches, a slot shows it. -/
theorem getElem?_updateQuadOutputSlot_picture (hplaced : slot.placement = quadSlotPlacement index)
    (hrow : placeholderRow.length = 5120) (hc : canvas.length = obsOutputLen)
    (hy : y < 360) (hx : x < 640) {frame : SwitcherDecodedFrame} {pixel : List UInt8}
    (hframe : slot.renderableFrame = some frame)
    (hpixel : scaledPixel frame (slotRect index) size.1 size.2 y x = some pixel)
    (hk : k < pixel.length) :
    (updateQuadOutputSlot canvas obsOutputWidth obsOutputHeight slot placeholderRow size.1
        size.2)[pixelStart index y x + k]? = pixel[k]? := by
  rw [updateQuadOutputSlot_eq index hplaced, hframe, Option.map_some, Option.getD_some]
  have hfilled := (overwrites_fillPieces index hrow).acts.length canvas hc
  have hfour := length_of_scaledPixel hpixel
  refine getElem?_foldl_splice ?_ ?_ (Or.inl ?_)
  · intro piece hp
    obtain ⟨y', x', hy', hx', hstart, hlen, -⟩ := picturePieces_bounds hp
    have hb := fillStart_bounds index hy'
    have hin := pixelStart_in_fill index y' hx'
    omega
  · intro piece hp hlow hhigh
    obtain ⟨y', x', hy', hx', hstart, hlen, hpixel'⟩ := picturePieces_bounds hp
    have hown : pixelStart index y x ≤ pixelStart index y x + k ∧
        pixelStart index y x + k < pixelStart index y x + 4 := ⟨by omega, by omega⟩
    have hother : pixelStart index y' x' ≤ pixelStart index y x + k ∧
        pixelStart index y x + k < pixelStart index y' x' + 4 := ⟨by omega, by omega⟩
    obtain ⟨rfl, rfl⟩ := pixelStart_injective hx hx' hown hother
    rw [hstart, Nat.add_sub_cancel_left]
    rw [Option.some.inj (hpixel.symm.trans hpixel')]
  · refine ⟨(pixelStart index y x, pixel), ?_, by simp, by simpa using hk⟩
    unfold picturePieces
    refine List.mem_flatMap.mpr ⟨y, List.mem_range.mpr hy, ?_⟩
    refine List.mem_filterMap.mpr ⟨x, List.mem_range.mpr hx, ?_⟩
    rw [hpixel]
    rfl

end Pixels

end StreamSync
