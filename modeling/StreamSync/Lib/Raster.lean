import Mathlib.Algebra.Order.Ring.Nat
import Mathlib.Tactic.Ring
import StreamSync.Lib.Painting

namespace Painting

variable {α ι : Type}

/-- The `n` elements of the pixel in column `x` of row `y`. -/
def pixel (n : Nat) (xs : List α) (width y x : Nat) : List α := (xs.drop ((y * width + x) * n)).take n

section Pixel

variable {n width : Nat} {xs ys : List α}

theorem getElem?_pixel (y x : Nat) {k : Nat} (hk : k < n) :
    (pixel n xs width y x)[k]? = xs[(y * width + x) * n + k]? := by
  rw [pixel, List.getElem?_take_of_lt hk, List.getElem?_drop]

theorem pixel_ext {y x : Nat} {zs : List α} (hzs : zs.length ≤ n)
    (h : ∀ k < n, xs[(y * width + x) * n + k]? = zs[k]?) : pixel n xs width y x = zs := by
  apply List.ext_getElem?
  intro k
  by_cases hk : k < n
  · rw [getElem?_pixel y x hk, h k hk]
  · have hpixel : (pixel n xs width y x).length ≤ n := List.length_take_le n _
    rw [List.getElem?_eq_none (by omega), List.getElem?_eq_none (by omega)]

theorem length_pixel_le (y x : Nat) : (pixel n xs width y x).length ≤ n := List.length_take_le n _

/-- A pixel of a whole row. -/
theorem pixel_row {x : Nat} (y : Nat) (hx : x < width) :
    pixel n ((xs.drop (y * width * n)).take (width * n)) width 0 x = pixel n xs width y x := by
  refine pixel_ext (length_pixel_le y x) fun k hk => ?_
  have hin : (0 * width + x) * n + k < width * n := by
    have hnext : (x + 1) * n ≤ width * n := Nat.mul_le_mul_right n hx
    rw [Nat.zero_mul, Nat.zero_add]
    rw [Nat.succ_mul] at hnext
    omega
  rw [List.getElem?_take_of_lt hin, List.getElem?_drop, getElem?_pixel y x hk]
  congr 1
  ring

/-- The pixels of a canvas of one color. -/
theorem pixel_replicate {color : List α} (hcolor : color.length = n) {size y x : Nat}
    (hin : y * width + x < size) : pixel n (List.replicate size color).flatten width y x = color := by
  have hrest : size = (y * width + x) + (size - (y * width + x) - 1 + 1) := by omega
  have hfront : (List.replicate (y * width + x) color).flatten.length = (y * width + x) * n := by
    simp [hcolor]
  rw [hrest, ← List.replicate_append_replicate, List.flatten_append, pixel, List.drop_left' hfront, List.replicate_succ,
    List.flatten_cons, List.take_left' hcolor]

end Pixel

section Index

variable {n width : Nat}

/-- An index in a run of whole pixels is one of a pixel in the run. -/
theorem block_bounds_iff {first count index k : Nat} (hk : k < n) :
    first * n ≤ index * n + k ∧ index * n + k < first * n + count * n ↔
      first ≤ index ∧ index < first + count := by
  constructor
  · rintro ⟨hlow, hhigh⟩
    constructor
    · by_contra hbelow
      have hnext : (index + 1) * n ≤ first * n := Nat.mul_le_mul_right n (by omega)
      rw [Nat.succ_mul] at hnext
      omega
    · by_contra habove
      have hnext : (first + count) * n ≤ index * n := Nat.mul_le_mul_right n (by omega)
      rw [Nat.add_mul] at hnext
      omega
  · rintro ⟨hlow, hhigh⟩
    have hfirst : first * n ≤ index * n := Nat.mul_le_mul_right n hlow
    have hlast : (index + 1) * n ≤ (first + count) * n := Nat.mul_le_mul_right n hhigh
    rw [Nat.succ_mul, Nat.add_mul] at hlast
    omega

theorem row_in_canvas {height y x₀ count : Nat} (hcolumn : x₀ + count ≤ width) (hrow : y < height) :
    (y * width + x₀) * n + count * n ≤ height * width * n := by
  have hnext : (y + 1) * width ≤ height * width := Nat.mul_le_mul_right width hrow
  rw [Nat.succ_mul] at hnext
  rw [← Nat.add_mul]
  exact Nat.mul_le_mul_right n (by omega)

/-- Pixels of a part of a row, by row and column. -/
theorem row_bounds_iff {y₀ x₀ count y x : Nat} (hfit : x₀ + count ≤ width) (hx : x < width) :
    y₀ * width + x₀ ≤ y * width + x ∧ y * width + x < y₀ * width + x₀ + count ↔
      y = y₀ ∧ x₀ ≤ x ∧ x < x₀ + count := by
  constructor
  · rintro ⟨hlow, hhigh⟩
    rcases Nat.lt_trichotomy y y₀ with hy | rfl | hy
    · have hrow : (y + 1) * width ≤ y₀ * width := Nat.mul_le_mul_right width hy
      rw [Nat.succ_mul] at hrow
      omega
    · exact ⟨rfl, by omega, by omega⟩
    · have hrow : (y₀ + 1) * width ≤ y * width := Nat.mul_le_mul_right width hy
      rw [Nat.succ_mul] at hrow
      omega
  · rintro ⟨rfl, hlow, hhigh⟩
    omega

end Index

section Splice

variable {n width : Nat} {canvas row : List α} {y₀ x₀ count : Nat}

/-- A row put into a canvas changes the pixels under it and no others. -/
theorem pixel_splice (hrow : row.length = count * n) (hfit : x₀ + count ≤ width)
    (hin : (y₀ * width + x₀) * n + row.length ≤ canvas.length) (y : Nat) {x : Nat} (hx : x < width) :
    pixel n (splice canvas ((y₀ * width + x₀) * n) row) width y x =
      if y = y₀ ∧ x₀ ≤ x ∧ x < x₀ + count then pixel n row count 0 (x - x₀)
      else pixel n canvas width y x := by
  have hbounds {k : Nat} (hk : k < n) :
      (y₀ * width + x₀) * n ≤ (y * width + x) * n + k ∧
          (y * width + x) * n + k < (y₀ * width + x₀) * n + row.length ↔
        y = y₀ ∧ x₀ ≤ x ∧ x < x₀ + count := by
    rw [hrow, block_bounds_iff hk, row_bounds_iff hfit hx]
  split
  next hunder =>
    refine pixel_ext (length_pixel_le 0 _) fun k hk => ?_
    rw [getElem?_splice hin, if_pos ((hbounds hk).mpr hunder), getElem?_pixel 0 _ hk]
    obtain ⟨rfl, hlow, -⟩ := hunder
    congr 1
    obtain ⟨d, rfl⟩ := Nat.exists_eq_add_of_le hlow
    rw [Nat.add_sub_cancel_left, Nat.zero_mul, Nat.zero_add, ← Nat.add_assoc, Nat.add_mul _ d]
    omega
  next hbeside =>
    refine pixel_ext (length_pixel_le y x) fun k hk => ?_
    rw [getElem?_splice hin, if_neg fun h => hbeside ((hbounds hk).mp h), getElem?_pixel y x hk]

end Splice

theorem length_pixel {n width height : Nat} {xs : List α} (hxs : xs.length = height * width * n) {y x : Nat}
    (hy : y < height) (hx : x < width) : (pixel n xs width y x).length = n := by
  have hcolumn : x + 1 ≤ width := hx
  have hin := row_in_canvas (n := n) hcolumn hy
  rw [pixel, List.length_take, List.length_drop]
  omega

/-- Canvases with the same pixels are the same. -/
theorem ext_pixel {n width height : Nat} {xs ys : List α} (hxs : xs.length = height * width * n)
    (hys : ys.length = height * width * n)
    (h : ∀ y x, y < height → x < width → pixel n xs width y x = pixel n ys width y x) : xs = ys := by
  apply List.ext_getElem?
  intro index
  by_cases hindex : index < height * width * n
  · have hn : 0 < n := by
      by_contra hzero
      rw [Nat.eq_zero_of_not_pos hzero, Nat.mul_zero] at hindex
      exact Nat.not_lt_zero _ hindex
    have hcell : index / n < height * width := (Nat.div_lt_iff_lt_mul hn).mpr hindex
    have hwidth : 0 < width := by
      by_contra hzero
      rw [Nat.eq_zero_of_not_pos hzero, Nat.mul_zero] at hcell
      exact Nat.not_lt_zero _ hcell
    have hy : index / n / width < height := (Nat.div_lt_iff_lt_mul hwidth).mpr hcell
    have hx : index / n % width < width := Nat.mod_lt _ hwidth
    have hk : index % n < n := Nat.mod_lt _ hn
    have hsame := congrArg (fun bytes => bytes[index % n]?) (h _ _ hy hx)
    rwa [getElem?_pixel _ _ hk, getElem?_pixel _ _ hk, Nat.div_add_mod', Nat.div_add_mod'] at hsame
  · rw [List.getElem?_eq_none (by omega), List.getElem?_eq_none (by omega)]

/-- Paints every pixel of a canvas, row by row. -/
def paintPixels (n : Nat) (canvas : List α) (width height : Nat) (color : Nat → Nat → List α) : List α :=
  (List.range height).foldl
    (fun canvas y => (List.range width).foldl
      (fun canvas x => splice canvas ((y * width + x) * n) (color y x)) canvas)
    canvas

section PaintPixels

variable {n width height : Nat} {canvas : List α} {color : Nat → Nat → List α}

/-- The pixels of a row painted so far, by induction on how many they are. -/
theorem paintRow_spec {y₀ : Nat} (hy : y₀ < height) (hcolor : ∀ x < width, (color y₀ x).length = n)
    (hcanvas : canvas.length = height * width * n) {count : Nat} (hcount : count ≤ width) :
    ((List.range count).foldl (fun canvas x => splice canvas ((y₀ * width + x) * n) (color y₀ x)) canvas).length =
        height * width * n ∧
      ∀ y x, x < width →
        pixel n ((List.range count).foldl
            (fun canvas x => splice canvas ((y₀ * width + x) * n) (color y₀ x)) canvas) width y x =
          if y = y₀ ∧ x < count then color y₀ x else pixel n canvas width y x := by
  induction count with
  | zero => exact ⟨hcanvas, fun y x _ => (if_neg (by omega)).symm⟩
  | succ count ih =>
    obtain ⟨hlength, hpixel⟩ := ih (by omega)
    have hpiece : (color y₀ count).length = 1 * n := by
      rw [hcolor count (by omega), Nat.one_mul]
    have hfit : count + 1 ≤ width := hcount
    have hin : (y₀ * width + count) * n + (color y₀ count).length ≤ height * width * n := by
      rw [hpiece]
      exact row_in_canvas hfit hy
    rw [List.range_succ, List.foldl_append, List.foldl_cons, List.foldl_nil]
    refine ⟨(length_splice (by rw [hlength]; exact hin)).trans hlength, fun y x hx => ?_⟩
    rw [pixel_splice hpiece hfit (by rw [hlength]; exact hin) y hx, hpixel y x hx]
    split
    next hunder =>
      obtain ⟨rfl, hlow, hhigh⟩ := hunder
      obtain rfl : x = count := by omega
      rw [if_pos ⟨rfl, Nat.lt_succ_self x⟩, Nat.sub_self, pixel, Nat.zero_mul, List.drop_zero,
        List.take_of_length_le (by rw [hpiece, Nat.one_mul])]
    next hbeside =>
      by_cases hearlier : y = y₀ ∧ x < count
      · rw [if_pos hearlier, if_pos (by omega)]
      · rw [if_neg hearlier, if_neg (by omega)]

/-- The rows painted so far, by induction on how many they are. -/
theorem paintRows_spec (hcolor : ∀ y < height, ∀ x < width, (color y x).length = n)
    (hcanvas : canvas.length = height * width * n) {count : Nat} (hcount : count ≤ height) :
    (paintPixels n canvas width count color).length = height * width * n ∧
      ∀ y x, x < width →
        pixel n (paintPixels n canvas width count color) width y x =
          if y < count then color y x else pixel n canvas width y x := by
  unfold paintPixels
  induction count with
  | zero => exact ⟨hcanvas, fun y x _ => (if_neg (by omega)).symm⟩
  | succ count ih =>
    obtain ⟨hlength, hpixel⟩ := ih (by omega)
    rw [List.range_succ, List.foldl_append, List.foldl_cons, List.foldl_nil]
    have hrow : count < height := hcount
    obtain ⟨hlength', hpixel'⟩ := paintRow_spec hrow (hcolor count hrow) hlength (Nat.le_refl width)
    refine ⟨hlength', fun y x hx => ?_⟩
    rw [hpixel' y x hx, hpixel y x hx]
    by_cases hrow : y = count
    · subst hrow
      rw [if_pos ⟨rfl, hx⟩, if_pos (Nat.lt_succ_self y)]
    · rw [if_neg fun h => hrow h.1]
      by_cases hearlier : y < count
      · rw [if_pos hearlier, if_pos (by omega)]
      · rw [if_neg hearlier, if_neg (by omega)]

theorem length_paintPixels (hcolor : ∀ y < height, ∀ x < width, (color y x).length = n)
    (hcanvas : canvas.length = height * width * n) :
    (paintPixels n canvas width height color).length = height * width * n :=
  (paintRows_spec hcolor hcanvas (Nat.le_refl height)).1

theorem pixel_paintPixels (hcolor : ∀ y < height, ∀ x < width, (color y x).length = n)
    (hcanvas : canvas.length = height * width * n) {y x : Nat} (hy : y < height) (hx : x < width) :
    pixel n (paintPixels n canvas width height color) width y x = color y x := by
  rw [(paintRows_spec hcolor hcanvas (Nat.le_refl height)).2 y x hx, if_pos hy]

end PaintPixels

/-- A picture of `height` rows of `width` pixels. -/
structure Picture (α : Type) where
  width : Nat
  height : Nat
  pixels : List α

namespace Picture

def row (n : Nat) (picture : Picture α) (y : Nat) : List α :=
  (picture.pixels.drop (y * picture.width * n)).take (picture.width * n)

def Sized (n : Nat) (picture : Picture α) : Prop :=
  picture.pixels.length = picture.height * picture.width * n

theorem length_row {n : Nat} {picture : Picture α} (h : picture.Sized n) {y : Nat}
    (hy : y < picture.height) : (picture.row n y).length = picture.width * n := by
  have hrow : (y + 1) * (picture.width * n) ≤ picture.height * (picture.width * n) :=
    Nat.mul_le_mul_right _ hy
  rw [Nat.succ_mul, ← Nat.mul_assoc, ← Nat.mul_assoc] at hrow
  rw [row, List.length_take, List.length_drop, h]
  omega

end Picture

/-- Copies a picture row by row into a canvas, from row `y₀` and column `x₀` on. -/
def blit (n : Nat) (canvas : List α) (width : Nat) (picture : Picture α) (y₀ x₀ : Nat) : List α :=
  (List.range picture.height).foldl
    (fun canvas y => splice canvas (((y₀ + y) * width + x₀) * n) (picture.row n y)) canvas

section Blit

variable {n width height : Nat} {canvas : List α} {picture : Picture α} {y₀ x₀ : Nat}

/-- The rows copied so far, by induction on how many they are. -/
theorem blit_rows (hsized : picture.Sized n) (hcolumn : x₀ + picture.width ≤ width)
    (hrow : y₀ + picture.height ≤ height) (hcanvas : canvas.length = height * width * n) {count : Nat}
    (hcount : count ≤ picture.height) :
    ((List.range count).foldl
        (fun canvas y => splice canvas (((y₀ + y) * width + x₀) * n) (picture.row n y)) canvas).length =
        height * width * n ∧
      ∀ y x, x < width →
        pixel n ((List.range count).foldl
            (fun canvas y => splice canvas (((y₀ + y) * width + x₀) * n) (picture.row n y)) canvas) width y x =
          if y₀ ≤ y ∧ y < y₀ + count ∧ x₀ ≤ x ∧ x < x₀ + picture.width then
            pixel n picture.pixels picture.width (y - y₀) (x - x₀)
          else pixel n canvas width y x := by
  induction count with
  | zero => exact ⟨hcanvas, fun y x _ => (if_neg (by omega)).symm⟩
  | succ count ih =>
    obtain ⟨hlength, hpixel⟩ := ih (by omega)
    have hpiece := Picture.length_row hsized (Nat.lt_of_succ_le hcount)
    have hin : ((y₀ + count) * width + x₀) * n + (picture.row n count).length ≤ height * width * n := by
      rw [hpiece]
      exact row_in_canvas hcolumn (by omega)
    rw [List.range_succ, List.foldl_append, List.foldl_cons, List.foldl_nil]
    refine ⟨(length_splice (by rw [hlength]; exact hin)).trans hlength, fun y x hx => ?_⟩
    rw [pixel_splice hpiece hcolumn (by rw [hlength]; exact hin) y hx, hpixel y x hx]
    split
    next hunder =>
      obtain ⟨rfl, hlow, hhigh⟩ := hunder
      rw [if_pos ⟨by omega, by omega, hlow, hhigh⟩, Picture.row, pixel_row count (by omega),
        Nat.add_sub_cancel_left]
    next hbeside =>
      by_cases hearlier : y₀ ≤ y ∧ y < y₀ + count ∧ x₀ ≤ x ∧ x < x₀ + picture.width
      · rw [if_pos hearlier, if_pos (by omega)]
      · rw [if_neg hearlier, if_neg (by omega)]

theorem length_blit (hsized : picture.Sized n) (hcolumn : x₀ + picture.width ≤ width)
    (hrow : y₀ + picture.height ≤ height) (hcanvas : canvas.length = height * width * n) :
    (blit n canvas width picture y₀ x₀).length = height * width * n :=
  (blit_rows hsized hcolumn hrow hcanvas (Nat.le_refl _)).1

/-- A picture shows where it was copied to, and the canvas everywhere else. -/
theorem pixel_blit (hsized : picture.Sized n) (hcolumn : x₀ + picture.width ≤ width)
    (hrow : y₀ + picture.height ≤ height) (hcanvas : canvas.length = height * width * n) (y : Nat) {x : Nat}
    (hx : x < width) :
    pixel n (blit n canvas width picture y₀ x₀) width y x =
      if y₀ ≤ y ∧ y < y₀ + picture.height ∧ x₀ ≤ x ∧ x < x₀ + picture.width then
        pixel n picture.pixels picture.width (y - y₀) (x - x₀)
      else pixel n canvas width y x :=
  (blit_rows hsized hcolumn hrow hcanvas (Nat.le_refl _)).2 y x hx

end Blit

/-- Slots of one size, by their first rows and columns, that tile a canvas. -/
structure SlotGrid (ι : Type) where
  origin : ι → Nat × Nat
  slotWidth : Nat
  slotHeight : Nat
  width : Nat
  height : Nat
  inside : ∀ i, (origin i).1 + slotHeight ≤ height ∧ (origin i).2 + slotWidth ≤ width
  disjoint : ∀ i j, i ≠ j →
    (origin i).1 + slotHeight ≤ (origin j).1 ∨ (origin j).1 + slotHeight ≤ (origin i).1 ∨
      (origin i).2 + slotWidth ≤ (origin j).2 ∨ (origin j).2 + slotWidth ≤ (origin i).2
  covered : ∀ y x, y < height → x < width → ∃ i,
    ((origin i).1 ≤ y ∧ y < (origin i).1 + slotHeight) ∧ (origin i).2 ≤ x ∧ x < (origin i).2 + slotWidth

/-- What a slot shows of its picture, over what was there before. -/
def slotPixel (n : Nat) (picture : Option (Picture α)) (under : List α) (y x : Nat) : List α :=
  match picture with
  | none => under
  | some picture =>
    if y < picture.height ∧ x < picture.width then pixel n picture.pixels picture.width y x else under

namespace SlotGrid

variable {n : Nat} (grid : SlotGrid ι)

structure Fits (n : Nat) (picture : Picture α) : Prop where
  sized : picture.Sized n
  width_le : picture.width ≤ grid.slotWidth
  height_le : picture.height ≤ grid.slotHeight

/-- The pixel of a canvas in row `y` and column `x` of a slot. -/
def pixelIn (n : Nat) (canvas : List α) (i : ι) (y x : Nat) : List α :=
  pixel n canvas grid.width ((grid.origin i).1 + y) ((grid.origin i).2 + x)

def drawSlot (n : Nat) (pictures : ι → Option (Picture α)) (canvas : List α) (i : ι) : List α :=
  match pictures i with
  | none => canvas
  | some picture => blit n canvas grid.width picture (grid.origin i).1 (grid.origin i).2

section Draw

variable {grid} {pictures : ι → Option (Picture α)} {canvas : List α}

theorem length_drawSlot {i : ι} (hfits : ∀ picture ∈ pictures i, grid.Fits n picture)
    (hcanvas : canvas.length = grid.height * grid.width * n) :
    (grid.drawSlot n pictures canvas i).length = grid.height * grid.width * n := by
  have hin := grid.inside i
  unfold drawSlot
  split
  next => exact hcanvas
  next picture hpicture =>
    have hfit := hfits picture hpicture
    have hwidth := hfit.width_le
    have hheight := hfit.height_le
    exact length_blit hfit.sized (by omega) (by omega) hcanvas

/-- Drawing a slot shows its picture there and leaves the other slots as they are. -/
theorem pixelIn_drawSlot [DecidableEq ι] {j : ι} (hfits : ∀ picture ∈ pictures j, grid.Fits n picture)
    (hcanvas : canvas.length = grid.height * grid.width * n) (i : ι) {y x : Nat} (hy : y < grid.slotHeight)
    (hx : x < grid.slotWidth) :
    grid.pixelIn n (grid.drawSlot n pictures canvas j) i y x =
      slotPixel n (if i = j then pictures j else none) (grid.pixelIn n canvas i y x) y x := by
  have hin := grid.inside i
  have hin' := grid.inside j
  unfold drawSlot
  cases hpicture : pictures j with
  | none =>
    rw [ite_self]
    rfl
  | some picture =>
    have hfit := hfits picture hpicture
    have hwidth := hfit.width_le
    have hheight := hfit.height_le
    dsimp only
    rw [pixelIn, pixel_blit hfit.sized (by omega) (by omega) hcanvas _ (by omega)]
    by_cases hij : i = j
    · subst hij
      rw [if_pos rfl]
      dsimp only [slotPixel]
      by_cases hshown : y < picture.height ∧ x < picture.width
      · rw [if_pos hshown, if_pos (by omega), Nat.add_sub_cancel_left, Nat.add_sub_cancel_left]
      · rw [if_neg hshown, if_neg (by omega), pixelIn]
    · have hapart := grid.disjoint i j hij
      rw [if_neg hij, if_neg (by omega)]
      rfl

/-- Drawing slots one after the other shows in each of them its own picture. -/
theorem drawSlots_spec [DecidableEq ι] (hfits : ∀ i, ∀ picture ∈ pictures i, grid.Fits n picture)
    {is : List ι} (hnodup : is.Nodup) (hcanvas : canvas.length = grid.height * grid.width * n) :
    (is.foldl (grid.drawSlot n pictures) canvas).length = grid.height * grid.width * n ∧
      ∀ i y x, y < grid.slotHeight → x < grid.slotWidth →
        grid.pixelIn n (is.foldl (grid.drawSlot n pictures) canvas) i y x =
          slotPixel n (if i ∈ is then pictures i else none) (grid.pixelIn n canvas i y x) y x := by
  induction is generalizing canvas with
  | nil => exact ⟨hcanvas, fun i y x _ _ => by simp [slotPixel]⟩
  | cons j is ih =>
    obtain ⟨hj, hnodup⟩ := List.nodup_cons.mp hnodup
    have hdrawn := length_drawSlot (hfits j) hcanvas
    obtain ⟨hlength, hpixel⟩ := ih hnodup hdrawn
    refine ⟨hlength, fun i y x hy hx => ?_⟩
    rw [List.foldl_cons, hpixel i y x hy hx, pixelIn_drawSlot (hfits j) hcanvas i hy hx]
    by_cases hij : i = j
    · subst hij
      rw [if_neg hj, if_pos rfl, if_pos List.mem_cons_self]
      rfl
    · rw [if_neg hij]
      simp only [List.mem_cons, hij, false_or]
      rfl

end Draw

/-- Each slot of a canvas shows its picture, and the color where it has none. -/
structure Shows (n : Nat) (pictures : ι → Option (Picture α)) (color canvas : List α) : Prop where
  length : canvas.length = grid.height * grid.width * n
  pixels : ∀ i y x, y < grid.slotHeight → x < grid.slotWidth →
    grid.pixelIn n canvas i y x = slotPixel n (pictures i) color y x

/-- All slots drawn on a canvas of one color. -/
theorem shows_drawSlots [DecidableEq ι] {grid : SlotGrid ι} {pictures : ι → Option (Picture α)}
    {color : List α} (hcolor : color.length = n)
    (hfits : ∀ i, ∀ picture ∈ pictures i, grid.Fits n picture) {is : List ι} (hnodup : is.Nodup)
    (hall : ∀ i, i ∈ is) :
    grid.Shows n pictures color (is.foldl (grid.drawSlot n pictures)
      (List.replicate (grid.height * grid.width) color).flatten) := by
  have hcanvas : (List.replicate (grid.height * grid.width) color).flatten.length =
      grid.height * grid.width * n := by
    simp [hcolor]
  obtain ⟨hlength, hpixel⟩ := drawSlots_spec hfits hnodup hcanvas
  refine ⟨hlength, fun i y x hy hx => ?_⟩
  have hin := grid.inside i
  have hcolumn : (grid.origin i).2 + x + 1 ≤ grid.width := by omega
  have hbelow : (grid.origin i).1 + y < grid.height := by omega
  have hrow := row_in_canvas (n := 1) hcolumn hbelow
  have hcolored : grid.pixelIn n (List.replicate (grid.height * grid.width) color).flatten i y x = color := by
    refine pixel_replicate hcolor ?_
    simp only [Nat.mul_one] at hrow
    omega
  rw [hpixel i y x hy hx, if_pos (hall i), hcolored]

end SlotGrid

end Painting
