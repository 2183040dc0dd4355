import StreamSync.DecodedFrameSizes
import StreamSync.QuadCanvas

namespace StreamSync

open Painting Saturating

/-- What a scaled copy counts, less its times. -/
structure BgraRenderBufferDiagnostics where
  allocationCount : Nat
  reuseCount : Nat
  bytesCopiedTotal : Nat
  passthroughCount : Nat
  sameSizeCopyCount : Nat
  halfScaleCount : Nat
  genericScaleCount : Nat
deriving DecidableEq, Repr

def BgraRenderBufferDiagnostics.default : BgraRenderBufferDiagnostics := ⟨0, 0, 0, 0, 0, 0, 0⟩

/-- The buffer kept from an earlier render. -/
structure ReusableObsRenderBuffer where
  pixels : List UInt8
  capacity : Nat
  fits : pixels.length ≤ capacity

/-- `take_reusable_obs_render_buffer`; `none` is a capacity overflow. -/
def takeReusableObsRenderBuffer (slot : Option ReusableObsRenderBuffer) (expectedLen : Nat) :
    Option (List UInt8 × BgraRenderBufferDiagnostics) :=
  if isizeMax < expectedLen then none
  else
    match slot with
    | some buffer =>
      some (resized buffer.pixels expectedLen 0,
        if expectedLen ≤ buffer.capacity then { BgraRenderBufferDiagnostics.default with reuseCount := 1 }
        else { BgraRenderBufferDiagnostics.default with allocationCount := 1 })
    | none =>
      some (List.replicate expectedLen 0, { BgraRenderBufferDiagnostics.default with allocationCount := 1 })

/-- `copy_from_slice` on the four bytes of a pixel; `none` is an index out of bounds. -/
def copyPixel (pixels source : List UInt8) (destinationIndex sourceIndex : Nat) : Option (List UInt8) :=
  if destinationIndex + 4 ≤ pixels.length ∧ sourceIndex + 4 ≤ source.length then
    some (splice pixels destinationIndex ((source.drop sourceIndex).take 4))
  else none

/-- The loops of the two scaling branches, each with its own indexes. An index past the bytes is met
before one that wraps. -/
def scaleLoop (pixels source : List UInt8) (outputWidth outputHeight : Nat)
    (destinationIndex sourceIndex : Nat → Nat → Nat) : Option (List UInt8) :=
  (List.range outputHeight).foldlM
    (fun pixels y => (List.range outputWidth).foldlM
      (fun pixels x => copyPixel pixels source (destinationIndex y x) (sourceIndex y x)) pixels)
    pixels

/-- `scale_four_view_bgra_to_obs_validation_profile_from_slice`; `none` is a panic. -/
def scaleFourViewBgraFromSlice (width height : UInt32) (pixelFormat : SwitcherDecodedFramePixelFormat)
    (pixelsSource : List UInt8) (outputWidth outputHeight : UInt32) (slot : Option ReusableObsRenderBuffer) :
    Option (SwitcherDecodedFrameRenderInput × BgraRenderBufferDiagnostics) := do
  let expectedLen := outputWidth.toNat * outputHeight.toNat * 4 % (usizeMax + 1)
  let (pixels, diagnostics) ← takeReusableObsRenderBuffer slot expectedLen
  let copied (pixels : List UInt8) (diagnostics : BgraRenderBufferDiagnostics) :
      SwitcherDecodedFrameRenderInput × BgraRenderBufferDiagnostics :=
    (⟨outputWidth, outputHeight, pixelFormat, pixels⟩,
      { diagnostics with bytesCopiedTotal := min (diagnostics.bytesCopiedTotal + pixels.length) usizeMax })
  if width = outputWidth ∧ height = outputHeight then
    if pixels.length = pixelsSource.length then
      some (copied pixelsSource { diagnostics with sameSizeCopyCount := 1 })
    else none
  else if width = saturatingMul32 outputWidth 2 ∧ height = saturatingMul32 outputHeight 2 then do
    let sourceStride := width.toNat * 4
    let destinationStride := outputWidth.toNat * 4
    let pixels ← scaleLoop pixels pixelsSource outputWidth.toNat outputHeight.toNat
      (fun y x => y * destinationStride + x * 4) (fun y x => y * 2 * sourceStride + x * 2 * 4)
    some (copied pixels { diagnostics with halfScaleCount := 1 })
  else do
    let pixels ← scaleLoop pixels pixelsSource outputWidth.toNat outputHeight.toNat
      (fun y x => (y * outputWidth.toNat + x) * 4)
      (fun y x =>
        let sourceY := y * height.toNat / outputHeight.toNat
        let sourceX := x * width.toNat / outputWidth.toNat
        (sourceY * width.toNat + sourceX) * 4)
    some (copied pixels { diagnostics with genericScaleCount := 1 })

/-- Each pixel of a picture of one size is the pixel of a source at the same place of its own size. -/
structure Rescaled (width height outputWidth outputHeight : Nat) (source pixels : List UInt8) : Prop where
  length : pixels.length = outputHeight * outputWidth * 4
  pixels : ∀ y x, y < outputHeight → x < outputWidth →
    pixel 4 pixels outputWidth y x = pixel 4 source width (y * height / outputHeight) (x * width / outputWidth)

/-- What the loop reads and writes is in bounds. -/
def LoopInBounds (length sourceLength outputWidth outputHeight : Nat) (sourceIndex : Nat → Nat → Nat) : Prop :=
  ∀ y ∈ List.range outputHeight, ∀ x ∈ List.range outputWidth,
    (y * outputWidth + x) * 4 + 4 ≤ length ∧ sourceIndex y x + 4 ≤ sourceLength

section Index

theorem rowIndex_eq (width y x : Nat) : y * (width * 4) + x * 4 = (y * width + x) * 4 := by
  ring

/-- Where a side is twice another, the half scale reads the pixel at the same place. -/
theorem halfScale_index {width height outputWidth outputHeight : Nat} (hwidth : width = outputWidth * 2)
    (hheight : height = outputHeight * 2) (houtputWidth : 0 < outputWidth) (houtputHeight : 0 < outputHeight)
    (y x : Nat) :
    y * 2 * (width * 4) + x * 2 * 4 =
      (y * height / outputHeight * width + x * width / outputWidth) * 4 := by
  have hrow : y * height / outputHeight = y * 2 := by
    rw [hheight, Nat.mul_comm outputHeight, ← Nat.mul_assoc, Nat.mul_div_cancel _ houtputHeight]
  have hcolumn : x * width / outputWidth = x * 2 := by
    rw [hwidth, Nat.mul_comm outputWidth, ← Nat.mul_assoc, Nat.mul_div_cancel _ houtputWidth]
  rw [hrow, hcolumn, rowIndex_eq]

end Index

section Loop

variable {source pixels : List UInt8} {outputWidth outputHeight : Nat}
  {destinationIndex sourceIndex : Nat → Nat → Nat}

/-- The loop copies every pixel when all indexes are in bounds, and panics otherwise. -/
theorem scaleLoop_spec (hdestination : ∀ y x, destinationIndex y x = (y * outputWidth + x) * 4) :
    (LoopInBounds pixels.length source.length outputWidth outputHeight sourceIndex →
      scaleLoop pixels source outputWidth outputHeight destinationIndex sourceIndex =
        some (paintPixels 4 pixels outputWidth outputHeight
          fun y x => (source.drop (sourceIndex y x)).take 4)) ∧
    (¬ LoopInBounds pixels.length source.length outputWidth outputHeight sourceIndex →
      scaleLoop pixels source outputWidth outputHeight destinationIndex sourceIndex = none) := by
  have hstep (canvas : List UInt8) (y : Nat) (hcanvas : canvas.length = pixels.length) :=
    @Fallible.foldlM_some_or_none _ _
      (fun pixels x => copyPixel pixels source (destinationIndex y x) (sourceIndex y x))
      (fun pixels x => splice pixels ((y * outputWidth + x) * 4) ((source.drop (sourceIndex y x)).take 4))
      (fun canvas => canvas.length = pixels.length)
      (fun x => (y * outputWidth + x) * 4 + 4 ≤ pixels.length ∧ sourceIndex y x + 4 ≤ source.length)
      (List.range outputWidth)
      (fun canvas x _ hcanvas => by
        rw [copyPixel, hdestination, hcanvas]
        refine ⟨fun hin => ?_, fun hout => if_neg hout⟩
        have hpiece : ((source.drop (sourceIndex y x)).take 4).length = 4 := by
          rw [List.length_take, List.length_drop]
          omega
        rw [if_pos hin]
        exact ⟨rfl, (length_splice (by rw [hpiece, hcanvas]; exact hin.1)).trans hcanvas⟩)
      canvas hcanvas
  have hrows (canvas : List UInt8) (y : Nat) (_ : y ∈ List.range outputHeight)
      (hcanvas : canvas.length = pixels.length) := hstep canvas y hcanvas
  have hloop := Fallible.foldlM_some_or_none hrows (b := pixels) rfl
  exact ⟨fun hin => (hloop.1 hin).1, hloop.2⟩

/-- Indexes of the source's own pixels, taken for a picture of the output's size. -/
theorem rescaled_of_scaleLoop {width height : Nat}
    (hdestination : ∀ y x, destinationIndex y x = (y * outputWidth + x) * 4)
    (hpixels : pixels.length = outputHeight * outputWidth * 4)
    (hsource : source.length = height * width * 4)
    (hindex : ∀ y x, y < outputHeight → x < outputWidth →
      sourceIndex y x = (y * height / outputHeight * width + x * width / outputWidth) * 4)
    (hwidth : 0 < width) (hheight : 0 < height) :
    ∃ output, scaleLoop pixels source outputWidth outputHeight destinationIndex sourceIndex = some output ∧
      Rescaled width height outputWidth outputHeight source output := by
  have hin (y x : Nat) (hy : y < outputHeight) (hx : x < outputWidth) : sourceIndex y x + 4 ≤ source.length := by
    have hrow : y * height / outputHeight < height := by
      rw [Nat.div_lt_iff_lt_mul (Nat.zero_lt_of_lt hy), Nat.mul_comm]
      exact Nat.mul_lt_mul_of_pos_left hy hheight
    have hcolumn : x * width / outputWidth + 1 ≤ width := by
      rw [Nat.succ_le_iff, Nat.div_lt_iff_lt_mul (Nat.zero_lt_of_lt hx), Nat.mul_comm]
      exact Nat.mul_lt_mul_of_pos_left hx hwidth
    have hcell := row_in_canvas (n := 4) hcolumn hrow
    rw [hindex y x hy hx, hsource]
    exact hcell
  have hbounds : LoopInBounds pixels.length source.length outputWidth outputHeight sourceIndex := by
    intro y hy x hx
    rw [List.mem_range] at hy hx
    refine ⟨?_, hin y x hy hx⟩
    have hcolumn : x + 1 ≤ outputWidth := hx
    rw [hpixels]
    exact row_in_canvas (n := 4) hcolumn hy
  have hcolor (y : Nat) (hy : y < outputHeight) (x : Nat) (hx : x < outputWidth) :
      ((source.drop (sourceIndex y x)).take 4).length = 4 := by
    have := hin y x hy hx
    rw [List.length_take, List.length_drop]
    omega
  refine ⟨_, (scaleLoop_spec hdestination).1 hbounds, length_paintPixels hcolor hpixels, fun y x hy hx => ?_⟩
  rw [pixel_paintPixels hcolor hpixels hy hx, hindex y x hy hx]
  rfl

/-- A buffer that is too short for the output is left by the last pixel at the latest. -/
theorem scaleLoop_short (hdestination : ∀ y x, destinationIndex y x = (y * outputWidth + x) * 4)
    (hwidth : 0 < outputWidth) (hheight : 0 < outputHeight)
    (hshort : pixels.length < outputHeight * outputWidth * 4) :
    scaleLoop pixels source outputWidth outputHeight destinationIndex sourceIndex = none := by
  refine (scaleLoop_spec hdestination).2 fun hin => ?_
  obtain ⟨hlast, -⟩ := hin (outputHeight - 1) (List.mem_range.mpr (by omega)) (outputWidth - 1)
    (List.mem_range.mpr (by omega))
  obtain ⟨rows, rfl⟩ := Nat.exists_eq_add_of_lt hheight
  rw [Nat.zero_add, Nat.succ_mul] at hshort
  rw [Nat.zero_add, Nat.add_sub_cancel] at hlast
  omega

end Loop

section Buffer

variable (slot : Option ReusableObsRenderBuffer) {expectedLen : Nat}

/-- Whatever the buffer held, it comes at the length asked for. -/
theorem takeReusableObsRenderBuffer_length (h : expectedLen ≤ isizeMax) :
    ∃ pixels diagnostics, takeReusableObsRenderBuffer slot expectedLen = some (pixels, diagnostics) ∧
      pixels.length = expectedLen := by
  unfold takeReusableObsRenderBuffer
  rw [if_neg (Nat.not_lt.mpr h)]
  cases slot with
  | none => exact ⟨_, _, rfl, List.length_replicate⟩
  | some buffer =>
    refine ⟨_, _, rfl, ?_⟩
    rw [resized, List.length_append, List.length_take, List.length_replicate]
    omega

theorem takeReusableObsRenderBuffer_none (h : isizeMax < expectedLen) :
    takeReusableObsRenderBuffer slot expectedLen = none := if_pos h

end Buffer

/-- Every frame of the size is scaled as it should be, whatever the kept buffer holds. -/
def ScalesExactly (width height outputWidth outputHeight : UInt32) : Prop :=
  ∀ source : List UInt8, source.length = height.toNat * width.toNat * 4 → ∀ pixelFormat slot, ∃ output,
    scaleFourViewBgraFromSlice width height pixelFormat source outputWidth outputHeight slot = some output ∧
      output.1.width = outputWidth ∧ output.1.height = outputHeight ∧ output.1.pixelFormat = pixelFormat ∧
      Rescaled width.toNat height.toNat outputWidth.toNat outputHeight.toNat source output.1.pixels

/-- The frame passes for one of twice the output's size, and a product of that size saturated. -/
def SaturatedDouble (width height outputWidth outputHeight : UInt32) : Prop :=
  (width = saturatingMul32 outputWidth 2 ∧ height = saturatingMul32 outputHeight 2) ∧
    (UInt32.size ≤ outputWidth.toNat * 2 ∨ UInt32.size ≤ outputHeight.toNat * 2)

/-- Bytes that change at one place. -/
theorem exists_edge (edge length : Nat) : ∃ bytes : List UInt8, bytes.length = length ∧
    (∀ k < edge, k < length → bytes[k]? = some 0) ∧ ∀ k, edge ≤ k → k < length → bytes[k]? = some 255 := by
  refine ⟨(List.range length).map fun k => if k < edge then 0 else 255, by simp, fun k hk hlt => ?_,
    fun k hk hlt => ?_⟩
  · rw [List.getElem?_map, List.getElem?_range hlt, Option.map_some, if_pos hk]
  · rw [List.getElem?_map, List.getElem?_range hlt, Option.map_some, if_neg (Nat.not_lt.mpr hk)]

section Sizes

variable {width height outputWidth outputHeight : UInt32}

theorem toNat_doubled {output : UInt32} (h : output.toNat * 2 < UInt32.size) :
    (saturatingMul32 output 2).toNat = output.toNat * 2 := by
  have hsize : UInt32.size = 4294967296 := rfl
  rw [toNat_saturatingMul32]
  change min (output.toNat * 2) 4294967295 = output.toNat * 2
  omega

theorem scalesExactly_of_fits (hwidth : 0 < width.toNat) (hheight : 0 < height.toNat)
    (houtputWidth : 0 < outputWidth.toNat) (houtputHeight : 0 < outputHeight.toNat)
    (hfits : outputWidth.toNat * outputHeight.toNat * 4 ≤ isizeMax)
    (hdouble : ¬ SaturatedDouble width height outputWidth outputHeight) :
    ScalesExactly width height outputWidth outputHeight := by
  intro source hsource pixelFormat slot
  have hmax : isizeMax < usizeMax + 1 := by decide
  obtain ⟨pixels, diagnostics, htake, hpixels⟩ := takeReusableObsRenderBuffer_length slot hfits
  rw [Nat.mul_comm outputWidth.toNat] at hpixels
  unfold scaleFourViewBgraFromSlice
  dsimp only
  rw [Nat.mod_eq_of_lt (Nat.lt_of_le_of_lt hfits hmax), htake, Option.bind_eq_bind, Option.bind_some]
  dsimp only
  split
  next hsame =>
    obtain ⟨rfl, rfl⟩ := hsame
    rw [if_pos (hpixels.trans hsource.symm)]
    refine ⟨_, rfl, rfl, rfl, rfl, hsource, fun y x _ _ => ?_⟩
    rw [Nat.mul_div_cancel y hheight, Nat.mul_div_cancel x hwidth]
  next =>
    split
    next hhalf =>
      have hnot : ¬ (UInt32.size ≤ outputWidth.toNat * 2 ∨ UInt32.size ≤ outputHeight.toNat * 2) :=
        fun hlarge => hdouble ⟨hhalf, hlarge⟩
      have hw : width.toNat = outputWidth.toNat * 2 := by
        rw [hhalf.1]
        exact toNat_doubled (by omega)
      have hh : height.toNat = outputHeight.toNat * 2 := by
        rw [hhalf.2]
        exact toNat_doubled (by omega)
      obtain ⟨output, hloop, hscaled⟩ := rescaled_of_scaleLoop (rowIndex_eq outputWidth.toNat) hpixels hsource
        (fun y x _ _ => halfScale_index hw hh houtputWidth houtputHeight y x) hwidth hheight
      rw [hloop]
      exact ⟨_, rfl, rfl, rfl, rfl, hscaled⟩
    next =>
      have hdestination (y x : Nat) :
          (y * outputWidth.toNat + x) * 4 = (y * outputWidth.toNat + x) * 4 := rfl
      obtain ⟨output, hloop, hscaled⟩ := rescaled_of_scaleLoop hdestination hpixels hsource
        (fun y x _ _ => rfl) hwidth hheight
      rw [hloop]
      exact ⟨_, rfl, rfl, rfl, rfl, hscaled⟩

/-- An output of more bytes than a vector can have is never returned. -/
theorem not_scalesExactly_of_large (houtputWidth : 0 < outputWidth.toNat) (houtputHeight : 0 < outputHeight.toNat)
    (hlarge : isizeMax < outputWidth.toNat * outputHeight.toNat * 4) :
    ¬ ScalesExactly width height outputWidth outputHeight := by
  intro h
  obtain ⟨output, houtput, -⟩ :=
    h (List.replicate (height.toNat * width.toNat * 4) 0) List.length_replicate .bgra8 none
  unfold scaleFourViewBgraFromSlice at houtput
  dsimp only at houtput
  by_cases hwrapped : outputWidth.toNat * outputHeight.toNat * 4 % (usizeMax + 1) ≤ isizeMax
  · obtain ⟨pixels, diagnostics, htake, hpixels⟩ := takeReusableObsRenderBuffer_length none hwrapped
    have hshort : pixels.length < outputHeight.toNat * outputWidth.toNat * 4 := by
      rw [hpixels, Nat.mul_comm outputHeight.toNat]
      omega
    rw [htake, Option.bind_eq_bind, Option.bind_some] at houtput
    dsimp only at houtput
    split at houtput
    next hsame =>
      obtain ⟨rfl, rfl⟩ := hsame
      rw [List.length_replicate, if_neg (Nat.ne_of_lt hshort)] at houtput
      cases houtput
    next =>
      split at houtput
      next =>
        rw [scaleLoop_short (rowIndex_eq outputWidth.toNat) houtputWidth houtputHeight hshort] at houtput
        cases houtput
      next =>
        rw [scaleLoop_short (fun y x => rfl) houtputWidth houtputHeight hshort] at houtput
        cases houtput
  · rw [takeReusableObsRenderBuffer_none none (Nat.lt_of_not_le hwrapped)] at houtput
    cases houtput

/-- Where the half scale reads past the pixel at the same place, a frame that changes there shows it. -/
theorem not_scalesExactly_of_shift (hfits : outputWidth.toNat * outputHeight.toNat * 4 ≤ isizeMax)
    (hother : ¬ (width = outputWidth ∧ height = outputHeight))
    (hdouble : width = saturatingMul32 outputWidth 2 ∧ height = saturatingMul32 outputHeight 2) {y x : Nat}
    (hy : y < outputHeight.toNat) (hx : x < outputWidth.toNat)
    (hshift : y * height.toNat / outputHeight.toNat * width.toNat + x * width.toNat / outputWidth.toNat <
      y * 2 * width.toNat + x * 2) :
    ¬ ScalesExactly width height outputWidth outputHeight := by
  intro h
  have hmax : isizeMax < usizeMax + 1 := by decide
  obtain ⟨source, hsource, hblack, hwhite⟩ :=
    exists_edge ((y * 2 * width.toNat + x * 2) * 4) (height.toNat * width.toNat * 4)
  obtain ⟨output, houtput, -, -, -, hscaled⟩ := h source hsource .bgra8 none
  obtain ⟨pixels, diagnostics, htake, hpixels⟩ := takeReusableObsRenderBuffer_length none hfits
  rw [Nat.mul_comm outputWidth.toNat] at hpixels
  unfold scaleFourViewBgraFromSlice at houtput
  dsimp only at houtput
  rw [Nat.mod_eq_of_lt (Nat.lt_of_le_of_lt hfits hmax), htake, Option.bind_eq_bind, Option.bind_some] at houtput
  dsimp only at houtput
  rw [if_neg hother, if_pos hdouble] at houtput
  by_cases hin : LoopInBounds pixels.length source.length outputWidth.toNat outputHeight.toNat
      fun y x => y * 2 * (width.toNat * 4) + x * 2 * 4
  · rw [(scaleLoop_spec (rowIndex_eq outputWidth.toNat)).1 hin] at houtput
    cases houtput
    have hread {y x : Nat} (hy : y < outputHeight.toNat) (hx : x < outputWidth.toNat) :
        y * 2 * (width.toNat * 4) + x * 2 * 4 + 4 ≤ source.length :=
      (hin y (List.mem_range.mpr hy) x (List.mem_range.mpr hx)).2
    have hindex := rowIndex_eq width.toNat (y * 2) (x * 2)
    have hcolor (y : Nat) (hy : y < outputHeight.toNat) (x : Nat) (hx : x < outputWidth.toNat) :
        ((source.drop (y * 2 * (width.toNat * 4) + x * 2 * 4)).take 4).length = 4 := by
      have hread := hread hy hx
      rw [List.length_take, List.length_drop]
      omega
    have hread := hread hy hx
    have hpixel := hscaled.pixels y x hy hx
    dsimp only at hpixel
    rw [pixel_paintPixels hcolor hpixels hy hx, hindex] at hpixel
    rw [hindex, hsource] at hread
    have hfirst := congrArg (fun bytes => bytes[0]?) hpixel
    rw [getElem?_pixel _ _ (by decide), List.getElem?_take_of_lt (by decide), List.getElem?_drop, Nat.add_zero,
      Nat.add_zero, hwhite _ (Nat.le_refl _) (by omega), hblack _ (by omega) (by omega)] at hfirst
    exact absurd hfirst (by decide)
  · rw [(scaleLoop_spec (rowIndex_eq outputWidth.toNat)).2 hin] at houtput
    cases houtput

/-- The half scale of a saturated size takes every second pixel where it should take every one. -/
theorem not_scalesExactly_of_saturated (hwidth : 0 < width.toNat) (houtputWidth : 0 < outputWidth.toNat)
    (houtputHeight : 0 < outputHeight.toNat)
    (hfits : outputWidth.toNat * outputHeight.toNat * 4 ≤ isizeMax)
    (hdouble : SaturatedDouble width height outputWidth outputHeight) :
    ¬ ScalesExactly width height outputWidth outputHeight := by
  obtain ⟨⟨hw, hh⟩, hlarge⟩ := hdouble
  have hsize : UInt32.size = 4294967296 := rfl
  have hbound := outputWidth.toNat_lt
  have hbound' := outputHeight.toNat_lt
  have hw' : width.toNat = min (outputWidth.toNat * 2) 4294967295 := by
    rw [hw]
    exact toNat_saturatingMul32 _ _
  have hh' : height.toNat = min (outputHeight.toNat * 2) 4294967295 := by
    rw [hh]
    exact toNat_saturatingMul32 _ _
  have hother : ¬ (width = outputWidth ∧ height = outputHeight) := by
    rintro ⟨rfl, rfl⟩
    have hmax : isizeMax < 4294967295 * 4294967295 * 4 := by decide
    have hfull : width.toNat = 4294967295 := by omega
    have hfull' : height.toNat = 4294967295 := by omega
    rw [hfull, hfull'] at hfits
    exact absurd hfits (Nat.not_le.mpr hmax)
  have hcopy {y x : Nat} := not_scalesExactly_of_shift (y := y) (x := x) hfits hother ⟨hw, hh⟩
  rcases hlarge with hwide | hhigh
  · have hone : 1 * width.toNat / outputWidth.toNat = 1 := by
      rw [Nat.one_mul]
      exact Nat.div_eq_of_lt_le (by omega) (by omega)
    refine @hcopy 0 1 houtputHeight (by omega) ?_
    rw [hone]
    simp
  · have hone : 1 * height.toNat / outputHeight.toNat = 1 := by
      rw [Nat.one_mul]
      exact Nat.div_eq_of_lt_le (by omega) (by omega)
    refine @hcopy 1 0 (by omega) houtputWidth ?_
    rw [hone]
    simp only [Nat.zero_mul, Nat.zero_div]
    omega

theorem scalesExactly_iff (hwidth : 0 < width.toNat) (hheight : 0 < height.toNat)
    (houtputWidth : 0 < outputWidth.toNat) (houtputHeight : 0 < outputHeight.toNat) :
    ScalesExactly width height outputWidth outputHeight ↔
      outputWidth.toNat * outputHeight.toNat * 4 ≤ isizeMax ∧
        ¬ SaturatedDouble width height outputWidth outputHeight := by
  constructor
  · intro h
    have hfits : outputWidth.toNat * outputHeight.toNat * 4 ≤ isizeMax := by
      by_contra hlarge
      exact not_scalesExactly_of_large houtputWidth houtputHeight (Nat.lt_of_not_le hlarge) h
    exact ⟨hfits, fun hdouble =>
      not_scalesExactly_of_saturated hwidth houtputWidth houtputHeight hfits hdouble h⟩
  · rintro ⟨hfits, hdouble⟩
    exact scalesExactly_of_fits hwidth hheight houtputWidth houtputHeight hfits hdouble

end Sizes

section Ready

variable {slots : FourSlots RenderSlot} {size : Nat × Nat}

theorem valid_of_validateQuadRenderableSlot {slot : RenderSlot} (h : validateQuadRenderableSlot slot = .ok ()) :
    ∀ frame ∈ slot.renderableFrame, frame.Valid := by
  intro frame hframe
  have hframe : slot.renderableFrame = some frame := hframe
  unfold validateQuadRenderableSlot at h
  rw [hframe] at h
  dsimp only at h
  split at h
  next => cases h
  next =>
    split at h
    next => cases h
    next hpositive =>
      split at h
      next => cases h
      next =>
        split at h
        next => cases h
        next hlength =>
          obtain ⟨hwidth, hheight⟩ := not_or.mp hpositive
          refine ⟨Nat.pos_of_ne_zero fun h => hwidth ?_, Nat.pos_of_ne_zero fun h => hheight ?_, not_not.mp hlength⟩
          · exact UInt32.toNat_inj.mp h
          · exact UInt32.toNat_inj.mp h

/-- What is ready to be drawn has passed every check. -/
theorem valid_of_quadReady (h : quadReady slots = .ok size) :
    (∀ index, (slots index).missingDecodedPlacement = none) ∧
      ∀ index, ∀ frame ∈ (slots index).renderableFrame, frame.Valid := by
  unfold quadReady at h
  split at h
  next => cases h
  next hheld =>
    split at h
    next => cases h
    next =>
      split at h
      next => cases h
      next hchecks =>
        refine ⟨fun index => List.findSome?_eq_none_iff.mp hheld index (List.mem_finRange index), fun index => ?_⟩
        have hcheck := List.findSome?_eq_none_iff.mp hchecks index (List.mem_finRange index)
        split at hcheck
        next => cases hcheck
        next hok => exact valid_of_validateQuadRenderableSlot hok

end Ready

section Fresh

variable {connection : QuadConnection} {size : Nat × Nat}

theorem getElem?_placeholderRowOf {width x k : Nat} (hx : x < width) (hk : k < 4) (color : Vector UInt8 4) :
    (placeholderRowOf width color)[x * 4 + k]? = color.toList[k]? := by
  have hpixel : pixel 4 (placeholderRowOf width color) width 0 x = color.toList :=
    pixel_replicate (by simp) (by omega)
  rw [← hpixel, getElem?_pixel 0 x hk, Nat.zero_mul, Nat.zero_add]

section Scaled

variable {frame : SwitcherDecodedFrame} {rect : SwitcherFourViewQuadComposedSlotRect} {w h y x : Nat}

theorem scaledPixel_shown
    (hshown : y * h / rect.height < frame.height.toNat ∧ x * w / rect.width < frame.width.toNat) :
    scaledPixel frame rect w h y x =
      some (pixel 4 frame.pixels frame.width.toNat (y * h / rect.height) (x * w / rect.width)) := by
  unfold scaledPixel
  dsimp only
  rw [if_neg (Nat.not_le.mpr hshown.1), if_neg (Nat.not_le.mpr hshown.2)]
  rfl

theorem scaledPixel_outside
    (hout : ¬ (y * h / rect.height < frame.height.toNat ∧ x * w / rect.width < frame.width.toNat)) :
    scaledPixel frame rect w h y x = none := by
  unfold scaledPixel
  dsimp only
  by_cases hbelow : frame.height.toNat ≤ y * h / rect.height
  · rw [if_pos hbelow]
  · rw [if_neg hbelow, if_pos (Nat.le_of_not_lt fun hbeside => hout ⟨Nat.lt_of_not_le hbelow, hbeside⟩)]

end Scaled

section Slot

variable (policy : SwitcherFourViewQuadLayoutPolicy) (size : Nat × Nat) {index : Fin 4} {y x k : Nat}

theorem pixelStart_eq (index : Fin 4) (y x : Nat) :
    pixelStart index y x = ((index.val / 2 * 360 + y) * obsOutputWidth + (index.val % 2 * 640 + x)) * 4 := by
  have hwidth : obsOutputWidth = 1280 := rfl
  unfold pixelStart
  rw [hwidth]
  omega

/-- A byte of a slot's pixel is the one that drawing the slot alone leaves there. -/
theorem getElem?_freshPixels_slot (hy : y < 360) (hx : x < 640) (hk : k < 4) :
    (freshPixels policy connection.slots size)[pixelStart index y x + k]? =
      (updateQuadOutputSlot (List.replicate obsOutputLen 0) obsOutputWidth obsOutputHeight
        (connection.slots index) (placeholderRowOf obsOutputWidth policy.placeholderBgra) size.1
        size.2)[pixelStart index y x + k]? := by
  have hfill := pixelStart_in_fill index y hx
  exact getElem?_freshPixels policy connection size (mem_slotRegion_of_fill index hy (by omega) (by omega))

theorem getElem?_freshPixels_placeholder (hy : y < 360) (hx : x < 640) (hk : k < 4)
    (hnone : ∀ frame ∈ (connection.slots index).renderableFrame,
      scaledPixel frame (slotRect index) size.1 size.2 y x = none) :
    (freshPixels policy connection.slots size)[pixelStart index y x + k]? = policy.placeholderBgra.toList[k]? := by
  rw [getElem?_freshPixels_slot policy size hy hx hk,
    getElem?_updateQuadOutputSlot_placeholder (connection.placed index) (length_placeholderRowOf _ _)
      List.length_replicate hy hx hk hnone]
  exact getElem?_placeholderRowOf (Nat.lt_trans hx (by decide)) hk policy.placeholderBgra

/-- A drawing of all slots shows in each of them its picture, at the scale of the slot. -/
theorem pixel_freshPixels (hvalid : ∀ index, ∀ frame ∈ (connection.slots index).renderableFrame, frame.Valid)
    (index : Fin 4) (hy : y < 360) (hx : x < 640) :
    pixel 4 (freshPixels policy connection.slots size) obsOutputWidth (index.val / 2 * 360 + y)
        (index.val % 2 * 640 + x) =
      slotPixel 4 (quadPictures connection.slots index) policy.placeholderBgra.toList (y * size.2 / 360)
        (x * size.1 / 640) := by
  have hcolor : policy.placeholderBgra.toList.length ≤ 4 := by simp
  cases hframe : (connection.slots index).renderableFrame with
  | none =>
    rw [quadPictures, hframe]
    refine pixel_ext hcolor fun k hk => ?_
    rw [← pixelStart_eq, getElem?_freshPixels_placeholder policy size hy hx hk]
    · rfl
    · rw [hframe]
      exact fun _ h => by cases h
  | some frame =>
    rw [quadPictures, hframe]
    dsimp only [Option.map_some, slotPixel, SwitcherDecodedFrame.picture]
    by_cases hshown : y * size.2 / 360 < frame.height.toNat ∧ x * size.1 / 640 < frame.width.toNat
    · have hscaled : scaledPixel frame (slotRect index) size.1 size.2 y x =
          some (pixel 4 frame.pixels frame.width.toNat (y * size.2 / 360) (x * size.1 / 640)) :=
        scaledPixel_shown hshown
      have hfull := length_pixel (hvalid index frame hframe).sized hshown.1 hshown.2
      rw [if_pos hshown]
      refine pixel_ext (length_pixel_le _ _) fun k hk => ?_
      rw [← pixelStart_eq, getElem?_freshPixels_slot policy size hy hx hk,
        getElem?_updateQuadOutputSlot_picture (connection.placed index) (length_placeholderRowOf _ _)
          List.length_replicate hy hx hframe hscaled (Nat.lt_of_lt_of_eq hk hfull.symm)]
    · have hscaled : scaledPixel frame (slotRect index) size.1 size.2 y x = none := scaledPixel_outside hshown
      rw [if_neg hshown]
      refine pixel_ext hcolor fun k hk => ?_
      rw [← pixelStart_eq, getElem?_freshPixels_placeholder policy size hy hx hk fun other hother => ?_]
      rw [hframe] at hother
      cases hother
      exact hscaled

end Slot

/-- The scaled canvas and the direct drawing have the same pixels. -/
theorem freshPixels_eq_of_rescaled (policy : SwitcherFourViewQuadLayoutPolicy)
    (hvalid : ∀ index, ∀ frame ∈ (connection.slots index).renderableFrame, frame.Valid)
    (hwidth : 0 < size.1) (hheight : 0 < size.2) {canvas pixels : List UInt8}
    (hshows : (quadGrid size.1 size.2).Shows 4 (quadPictures connection.slots) policy.placeholderBgra.toList
      canvas)
    (hscaled : Rescaled (size.1 * 2) (size.2 * 2) obsOutputWidth obsOutputHeight canvas pixels) :
    pixels = freshPixels policy connection.slots size := by
  refine ext_pixel hscaled.length (length_freshPixels policy connection size) fun Y X hY hX => ?_
  have houtputHeight : obsOutputHeight = 720 := rfl
  have houtputWidth : obsOutputWidth = 1280 := rfl
  obtain ⟨row, hrow, y, hy, rfl⟩ : ∃ row < 2, ∃ y < 360, Y = row * 360 + y :=
    ⟨Y / 360, by omega, Y % 360, by omega, by omega⟩
  obtain ⟨column, hcolumn, x, hx, rfl⟩ : ∃ column < 2, ∃ x < 640, X = column * 640 + x :=
    ⟨X / 640, by omega, X % 640, by omega, by omega⟩
  obtain ⟨index, hindex, hindex'⟩ : ∃ index : Fin 4, index.val / 2 = row ∧ index.val % 2 = column := by
    refine ⟨⟨row * 2 + column, by omega⟩, ?_, ?_⟩
    · show (row * 2 + column) / 2 = row
      omega
    · show (row * 2 + column) % 2 = column
      omega
  have hsourceY : (row * 360 + y) * (size.2 * 2) / 720 = row * size.2 + y * size.2 / 360 := by
    have hdouble : (row * 360 + y) * (size.2 * 2) = (row * size.2 * 360 + y * size.2) * 2 := by
      ring
    rw [hdouble, Nat.mul_div_mul_right _ 360 (by decide), Nat.add_comm, Nat.add_mul_div_right _ _ (by decide),
      Nat.add_comm]
  have hsourceX : (column * 640 + x) * (size.1 * 2) / 1280 = column * size.1 + x * size.1 / 640 := by
    have hdouble : (column * 640 + x) * (size.1 * 2) = (column * size.1 * 640 + x * size.1) * 2 := by
      ring
    rw [hdouble, Nat.mul_div_mul_right _ 640 (by decide), Nat.add_comm, Nat.add_mul_div_right _ _ (by decide),
      Nat.add_comm]
  have hinY : y * size.2 / 360 < size.2 := by
    rw [Nat.div_lt_iff_lt_mul (by decide), Nat.mul_comm]
    exact Nat.mul_lt_mul_of_pos_left hy hheight
  have hinX : x * size.1 / 640 < size.1 := by
    rw [Nat.div_lt_iff_lt_mul (by decide), Nat.mul_comm]
    exact Nat.mul_lt_mul_of_pos_left hx hwidth
  have hslot : pixel 4 canvas (size.1 * 2) (index.val / 2 * size.2 + y * size.2 / 360)
      (index.val % 2 * size.1 + x * size.1 / 640) =
        slotPixel 4 (quadPictures connection.slots index) policy.placeholderBgra.toList (y * size.2 / 360)
          (x * size.1 / 640) :=
    hshows.pixels index _ _ hinY hinX
  have hfresh := pixel_freshPixels policy size hvalid index hy hx
  rw [hindex, hindex'] at hslot hfresh
  rw [hscaled.pixels _ _ hY hX, hfresh, ← hslot, houtputHeight, houtputWidth, hsourceY, hsourceX]

end Fresh

/-- What drawing four slots directly has to do with composing them and scaling the canvas. -/
structure DirectCompositionAgrees (connection : QuadConnection) (policy : SwitcherFourViewQuadLayoutPolicy)
    (previousIdentities : Option (FourSlots SlotVisualIdentity)) (identities : FourSlots SlotVisualIdentity) :
    Prop where
  composed : ∀ canvas, composeFourViewQuadCanvas connection policy = some (.composedFrame canvas) →
    ∃ output,
      (composeQuadViewIncremental connection policy .default false previousIdentities identities).1 =
        .composedFrame output ∧
      output.width = 1280 ∧ output.height = 720 ∧
      ∀ slot, ∃ scaled, scaleFourViewBgraFromSlice canvas.width canvas.height canvas.pixelFormat canvas.pixels
          1280 720 slot = some scaled ∧
        scaled.1.width = 1280 ∧ scaled.1.height = 720 ∧ scaled.1.pixels = output.pixels
  refused : ∀ result, composeFourViewQuadCanvas connection policy = some result →
    result.isComposedFrame = false → (∀ slots, result ≠ .invalidQuadView .canvasTooLarge slots) →
    (composeQuadViewIncremental connection policy .default false previousIdentities identities).1 = result
  inBounds : composeFourViewQuadCanvas connection policy ≠ none

section Agree

variable {connection : QuadConnection} {policy : SwitcherFourViewQuadLayoutPolicy}

theorem composeQuadViewIncremental_refusal {cache : TwoRealPreviewLoopQuadCompositionCache}
    {previousOutputAvailable : Bool} {previousIdentities : Option (FourSlots SlotVisualIdentity)}
    {identities : FourSlots SlotVisualIdentity} {reason : Option SwitcherFourViewQuadCompositionInvalidReason}
    (hready : quadReady connection.slots = .error reason) :
    (composeQuadViewIncremental connection policy cache previousOutputAvailable previousIdentities identities).1 =
      quadRefusal connection.slots reason := by
  unfold composeQuadViewIncremental
  dsimp only
  rw [hready]
  cases reason <;> rfl

/-- A canvas comes from four slots that are ready, at a size whose double fits. -/
theorem composedFrame_spec {canvas : SwitcherFourViewComposedFrame}
    (h : composeFourViewQuadCanvas connection policy = some (.composedFrame canvas)) :
    ∃ size, quadReady connection.slots = .ok size ∧
      canvas.width.toNat = size.1 * 2 ∧ canvas.height.toNat = size.2 * 2 ∧
      (quadGrid size.1 size.2).Shows 4 (quadPictures connection.slots) policy.placeholderBgra.toList
        canvas.pixels := by
  cases hready : quadReady connection.slots with
  | error reason =>
    rw [composeFourViewQuadCanvas_error hready] at h
    cases reason <;> cases h
  | ok size =>
    obtain ⟨hheld, hvalid⟩ := valid_of_quadReady hready
    by_cases hfits : size.1 * 2 * (size.2 * 2) * 4 < UInt32.size
    · obtain ⟨frame, hframe, hwidth, hheight, hshows⟩ :=
        composeFourViewQuadCanvas_composed hvalid hheld (quadSlotSize_of_quadReady hready) hfits policy
      rw [hframe] at h
      cases h
      exact ⟨size, rfl, hwidth, hheight, hshows⟩
    · rw [composeFourViewQuadCanvas_tooLarge hready (Nat.le_of_not_lt hfits)] at h
      cases h

/-- The direct drawing of what composes has the pixels of the scaled canvas. -/
theorem directComposition_composed {canvas : SwitcherFourViewComposedFrame}
    (hcanvas : composeFourViewQuadCanvas connection policy = some (.composedFrame canvas))
    (slot : Option ReusableObsRenderBuffer) :
    ∃ size scaled, quadReady connection.slots = .ok size ∧
      scaleFourViewBgraFromSlice canvas.width canvas.height canvas.pixelFormat canvas.pixels 1280 720 slot =
        some scaled ∧
      scaled.1.width = 1280 ∧ scaled.1.height = 720 ∧
      scaled.1.pixels = freshPixels policy connection.slots size := by
  obtain ⟨size, hready, hwidth, hheight, hshows⟩ := composedFrame_spec hcanvas
  obtain ⟨-, hvalid⟩ := valid_of_quadReady hready
  obtain ⟨index, frame, hframe⟩ := exists_frame_of_quadSlotSize (quadSlotSize_of_quadReady hready)
  obtain ⟨hle, hle'⟩ := le_quadSlotSize (quadSlotSize_of_quadReady hready) hframe
  have hslotWidth : 0 < size.1 := Nat.lt_of_lt_of_le (hvalid index frame hframe).width_pos hle
  have hslotHeight : 0 < size.2 := Nat.lt_of_lt_of_le (hvalid index frame hframe).height_pos hle'
  have hlength : canvas.pixels.length = canvas.height.toNat * canvas.width.toNat * 4 := by
    rw [hwidth, hheight]
    exact hshows.length
  have hscales : ScalesExactly canvas.width canvas.height 1280 720 :=
    scalesExactly_of_fits (by omega) (by omega) (by decide) (by decide) (by decide)
      fun hdouble => absurd hdouble.2 (by decide)
  obtain ⟨scaled, hscaled, hscaledWidth, hscaledHeight, -, hrescaled⟩ :=
    hscales canvas.pixels hlength canvas.pixelFormat slot
  rw [hwidth, hheight] at hrescaled
  exact ⟨size, scaled, hready, hscaled, hscaledWidth, hscaledHeight,
    freshPixels_eq_of_rescaled policy hvalid hslotWidth hslotHeight hshows hrescaled⟩

/-- Where there is no canvas, and not because it would be too large, both say the same. -/
theorem directComposition_refused {previousIdentities : Option (FourSlots SlotVisualIdentity)}
    {identities : FourSlots SlotVisualIdentity} {result : SwitcherFourViewQuadCompositionResult}
    (hresult : composeFourViewQuadCanvas connection policy = some result)
    (hrefused : result.isComposedFrame = false)
    (hfits : ∀ slots, result ≠ .invalidQuadView .canvasTooLarge slots) :
    (composeQuadViewIncremental connection policy .default false previousIdentities identities).1 = result := by
  cases hready : quadReady connection.slots with
  | error reason =>
    rw [composeFourViewQuadCanvas_error hready] at hresult
    rw [composeQuadViewIncremental_refusal hready]
    exact Option.some.inj hresult
  | ok size =>
    obtain ⟨hheld, hvalid⟩ := valid_of_quadReady hready
    by_cases hlarge : UInt32.size ≤ size.1 * 2 * (size.2 * 2) * 4
    · rw [composeFourViewQuadCanvas_tooLarge hready hlarge] at hresult
      cases hresult
      exact absurd rfl (hfits _)
    · obtain ⟨frame, hframe, -⟩ := composeFourViewQuadCanvas_composed hvalid hheld
        (quadSlotSize_of_quadReady hready) (Nat.lt_of_not_le hlarge) policy
      rw [hframe] at hresult
      cases hresult
      cases hrefused

theorem composeFourViewQuadCanvas_ne_none (connection : QuadConnection)
    (policy : SwitcherFourViewQuadLayoutPolicy) : composeFourViewQuadCanvas connection policy ≠ none := by
  cases hready : quadReady connection.slots with
  | error reason =>
    rw [composeFourViewQuadCanvas_error hready]
    exact Option.some_ne_none _
  | ok size =>
    obtain ⟨-, hvalid⟩ := valid_of_quadReady hready
    exact (quadComposes hvalid policy).inBounds

theorem directCompositionAgrees (connection : QuadConnection) (policy : SwitcherFourViewQuadLayoutPolicy)
    (previousIdentities : Option (FourSlots SlotVisualIdentity)) (identities : FourSlots SlotVisualIdentity) :
    DirectCompositionAgrees connection policy previousIdentities identities where
  composed canvas hcanvas := by
    obtain ⟨size, hready, -⟩ := composedFrame_spec hcanvas
    refine ⟨_, composeQuadViewIncremental_fresh hready, rfl, rfl, fun slot => ?_⟩
    obtain ⟨size', scaled, hready', hscaled⟩ := directComposition_composed hcanvas slot
    cases hready.symm.trans hready'
    exact ⟨scaled, hscaled⟩
  refused _ hresult hrefused hfits := directComposition_refused hresult hrefused hfits
  inBounds := composeFourViewQuadCanvas_ne_none connection policy

end Agree

/-- Drawing four slots directly is composing them and scaling the canvas; frames of a size are scaled as
they should be exactly when the output fits in memory and its doubled size does not saturate to theirs. -/
theorem directComposition_exact_iff (connection : QuadConnection) (policy : SwitcherFourViewQuadLayoutPolicy)
    (previousIdentities : Option (FourSlots SlotVisualIdentity)) (identities : FourSlots SlotVisualIdentity)
    {width height outputWidth outputHeight : UInt32} (hwidth : 0 < width.toNat) (hheight : 0 < height.toNat)
    (houtputWidth : 0 < outputWidth.toNat) (houtputHeight : 0 < outputHeight.toNat) :
    DirectCompositionAgrees connection policy previousIdentities identities ∧
      (ScalesExactly width height outputWidth outputHeight ↔
        outputWidth.toNat * outputHeight.toNat * 4 ≤ isizeMax ∧
          ¬ SaturatedDouble width height outputWidth outputHeight) :=
  ⟨directCompositionAgrees connection policy previousIdentities identities,
    scalesExactly_iff hwidth hheight houtputWidth houtputHeight⟩

theorem directComposition_exact_iff_half :
    DirectCompositionAgrees besideTwoPixels.connection .default none besideTwoPixels.identities ∧
      (ScalesExactly 2560 1440 1280 720 ↔
        (1280 : UInt32).toNat * (720 : UInt32).toNat * 4 ≤ isizeMax ∧ ¬ SaturatedDouble 2560 1440 1280 720) :=
  directComposition_exact_iff besideTwoPixels.connection .default none besideTwoPixels.identities (by decide)
    (by decide) (by decide) (by decide)

/-- A frame as wide as a `u32` allows passes for one of twice the width, and one pixel has no output that
does not fit. -/
theorem not_scalesExactly_saturated :
    ¬ ScalesExactly 4294967295 2 2147483648 1 ∧ ¬ ScalesExactly 1 1 2147483648 2147483648 :=
  ⟨not_scalesExactly_of_saturated (by decide) (by decide) (by decide) (by decide)
      ⟨⟨by decide, by decide⟩, .inl (by decide)⟩,
    not_scalesExactly_of_large (by decide) (by decide) (by decide)⟩

end StreamSync
