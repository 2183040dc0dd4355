import Mathlib.Data.List.GetD
import StreamSync.ContinuousSession
import StreamSync.Lib.Fallible
import StreamSync.Lib.Stretching
import StreamSync.RustStd

namespace StreamSync

open Painting Stretching Fallible

/-- The value of a `usize` expression. Where it does not fit, a build with debug assertions panics and
another one wraps. -/
def usizeResult (debug : Bool) (value : Nat) : Option Nat :=
  if value ≤ usizeMax then some value else if debug then none else some (value % (usizeMax + 1))

/-- A `[u8]`, which is never longer than `isize::MAX`. -/
structure ByteSlice where
  bytes : List UInt8
  fits : bytes.length ≤ isizeMax
deriving DecidableEq

/-- A pixel of BGR24 with the alpha byte behind it. -/
def withAlpha (pixel : List UInt8) : List UInt8 := pixel ++ [255]

theorem widens_withAlpha : Widens 3 4 withAlpha :=
  ⟨by decide, fun pixel h => by rw [withAlpha, List.length_append, h]; rfl⟩

theorem convertPixel_eq_stretchCell {pixels : List UInt8} {k : Nat} (hroom : k * 4 + 4 ≤ pixels.length) :
    convertPixel pixels k = stretchCell 3 4 withAlpha pixels k := by
  have hcell : cell 3 pixels k =
      [pixels.getD (k * 3) 0, pixels.getD (k * 3 + 1) 0, pixels.getD (k * 3 + 2) 0] := by
    rw [cell, List.drop_eq_getElem_cons (by omega), List.drop_eq_getElem_cons (by omega),
      List.drop_eq_getElem_cons (by omega), List.getD_eq_getElem _ _ (by omega),
      List.getD_eq_getElem _ _ (by omega), List.getD_eq_getElem _ _ (by omega)]
    rfl
  rw [stretchCell, hcell, withAlpha, List.cons_append, List.cons_append, List.cons_append, List.nil_append,
    splice_cons (by omega), splice_cons (by rw [List.length_set]; omega),
    splice_cons (by rw [List.length_set, List.length_set]; omega),
    splice_cons (by rw [List.length_set, List.length_set, List.length_set]; omega), splice_nil]
  rfl

namespace ByteSlice

/-- An assignment to one element; `none` is an index out of bounds. -/
def store (slice : ByteSlice) (index : Nat) (value : UInt8) : Option ByteSlice :=
  if index < slice.bytes.length then
    some ⟨slice.bytes.set index value, List.length_set.trans_le slice.fits⟩
  else none

/-- One turn of the loop in `convert_bgr24_to_bgra8_in_place`, with the checks of its indexes. -/
def convertPixel (debug : Bool) (pixels : ByteSlice) (pixelIndex : Nat) : Option ByteSlice := do
  let sourceIndex ← usizeResult debug (pixelIndex * 3)
  let targetIndex ← usizeResult debug (pixelIndex * 4)
  let b ← pixels.bytes[sourceIndex]?
  let g ← pixels.bytes[← usizeResult debug (sourceIndex + 1)]?
  let r ← pixels.bytes[← usizeResult debug (sourceIndex + 2)]?
  let pixels ← pixels.store targetIndex b
  let pixels ← pixels.store (← usizeResult debug (targetIndex + 1)) g
  let pixels ← pixels.store (← usizeResult debug (targetIndex + 2)) r
  pixels.store (← usizeResult debug (targetIndex + 3)) 255

/-- `convert_bgr24_to_bgra8_in_place`: the slice behind it and the length it returns; `none` is a panic. -/
def convertBgr24ToBgra8InPlace (debug : Bool) (pixels : ByteSlice) (bgrLen : Nat) :
    Option (ByteSlice × Nat) := do
  if debug && bgrLen % 3 ≠ 0 then none
  let pixelCount := bgrLen / 3
  let bgraLen ← usizeResult debug (pixelCount * 4)
  if debug && pixels.bytes.length < bgraLen then none
  let converted ← (List.range pixelCount).reverse.foldlM (convertPixel debug) pixels
  return (converted, bgraLen)

theorem usizeResult_eq (slice : ByteSlice) (debug : Bool) {value : Nat} (h : value ≤ slice.bytes.length) :
    usizeResult debug value = some value := by
  have hmax : isizeMax ≤ usizeMax := by decide
  exact if_pos ((h.trans slice.fits).trans hmax)

theorem store_eq_some {slice : ByteSlice} {index : Nat} (h : index < slice.bytes.length) (value : UInt8) :
    ∃ stored, slice.store index value = some stored ∧ stored.bytes = slice.bytes.set index value :=
  ⟨_, if_pos h, rfl⟩

theorem length_of_store {slice stored : ByteSlice} {index : Nat} {value : UInt8}
    (h : slice.store index value = some stored) :
    index < slice.bytes.length ∧ stored.bytes.length = slice.bytes.length := by
  unfold store at h
  split at h
  next hin =>
    cases h
    exact ⟨hin, List.length_set⟩
  next => cases h

/-- With room for its four bytes a turn passes all its checks, and does what the loop does without them. -/
theorem convertPixel_eq_some (debug : Bool) {pixels : ByteSlice} {k : Nat}
    (hroom : k * 4 + 4 ≤ pixels.bytes.length) :
    ∃ converted, pixels.convertPixel debug k = some converted ∧
      converted.bytes = StreamSync.convertPixel pixels.bytes k := by
  have hvalue {value : Nat} (h : value ≤ k * 4 + 4) : usizeResult debug value = some value :=
    pixels.usizeResult_eq debug (h.trans hroom)
  have hread {index : Nat} (h : index < k * 4 + 4) :
      pixels.bytes[index]? = some (pixels.bytes.getD index 0) := by
    have hin : index < pixels.bytes.length := h.trans_le hroom
    rw [List.getD_eq_getElem?_getD, List.getElem?_eq_getElem hin, Option.getD_some]
  obtain ⟨first, hfirst, hfirstBytes⟩ :=
    store_eq_some (show k * 4 < pixels.bytes.length by omega) (pixels.bytes.getD (k * 3) 0)
  have hfirstLen := (length_of_store hfirst).2
  obtain ⟨second, hsecond, hsecondBytes⟩ :=
    store_eq_some (show k * 4 + 1 < first.bytes.length by omega) (pixels.bytes.getD (k * 3 + 1) 0)
  have hsecondLen := (length_of_store hsecond).2
  obtain ⟨third, hthird, hthirdBytes⟩ :=
    store_eq_some (show k * 4 + 2 < second.bytes.length by omega) (pixels.bytes.getD (k * 3 + 2) 0)
  have hthirdLen := (length_of_store hthird).2
  obtain ⟨fourth, hfourth, hfourthBytes⟩ :=
    store_eq_some (show k * 4 + 3 < third.bytes.length by omega) 255
  refine ⟨fourth, ?_, ?_⟩
  · have hblue := hread (show k * 3 < k * 4 + 4 by omega)
    have hgreen := hread (show k * 3 + 1 < k * 4 + 4 by omega)
    have hred := hread (show k * 3 + 2 < k * 4 + 4 by omega)
    unfold convertPixel
    rw [hvalue (by omega), hvalue (by omega)]
    simp only [Option.bind_eq_bind, Option.bind_some, hblue, hvalue (show k * 3 + 1 ≤ k * 4 + 4 by omega), hgreen,
      hvalue (show k * 3 + 2 ≤ k * 4 + 4 by omega), hred, hfirst, hvalue (show k * 4 + 1 ≤ k * 4 + 4 by omega),
      hsecond, hvalue (show k * 4 + 2 ≤ k * 4 + 4 by omega), hthird,
      hvalue (show k * 4 + 3 ≤ k * 4 + 4 by omega), hfourth]
  · rw [hfourthBytes, hthirdBytes, hsecondBytes, hfirstBytes]
    rfl

end ByteSlice

/-- The turns that a loop over `n` pixels has done, and what they have left of the bytes before them. -/
theorem convertTurns_stretched {n : Nat} {pixels : List UInt8} (hroom : n * 4 ≤ pixels.length) {turns : Nat}
    (hturns : turns ≤ n) :
    StretchedFrom 3 4 withAlpha n (n - turns) pixels
      (((List.range n).reverse.take turns).foldl convertPixel pixels) :=
  stretchedFrom_foldl widens_withAlpha hroom
    (fun _ _ hk hlen => convertPixel_eq_stretchCell (by omega)) hturns

namespace ByteSlice

theorem convertTurns_eq_some (debug : Bool) {n : Nat} {buffer : ByteSlice}
    (hroom : n * 4 ≤ buffer.bytes.length) (turns : Nat) :
    ∃ between, ((List.range n).reverse.take turns).foldlM (convertPixel debug) buffer = some between ∧
      between.bytes = ((List.range n).reverse.take turns).foldl StreamSync.convertPixel buffer.bytes := by
  have hturn (pixels : ByteSlice) (k : Nat) (hk : k ∈ (List.range n).reverse.take turns)
      (hlen : pixels.bytes.length = buffer.bytes.length) :
      ∃ converted, pixels.convertPixel debug k = some converted ∧
        converted.bytes = StreamSync.convertPixel pixels.bytes k ∧
        converted.bytes.length = buffer.bytes.length := by
    have hin : k < n := List.mem_range.mp (List.mem_reverse.mp (List.mem_of_mem_take hk))
    obtain ⟨converted, hconverted, hbytes⟩ :=
      convertPixel_eq_some debug (show k * 4 + 4 ≤ pixels.bytes.length by omega)
    refine ⟨converted, hconverted, hbytes, ?_⟩
    rw [hbytes, ← hlen]
    simp [StreamSync.convertPixel]
  exact foldlM_view (P := fun bytes : List UInt8 => bytes.length = buffer.bytes.length) hturn rfl

theorem convertBgr24ToBgra8InPlace_eq_some {debug : Bool} {buffer : ByteSlice} {bgrLen : Nat}
    (hwhole : debug = true → bgrLen % 3 = 0) (hroom : bgrLen / 3 * 4 ≤ buffer.bytes.length) :
    ∃ converted, buffer.convertBgr24ToBgra8InPlace debug bgrLen = some (converted, bgrLen / 3 * 4) ∧
      converted.bytes = StreamSync.convertBgr24ToBgra8InPlace buffer.bytes bgrLen := by
  obtain ⟨converted, hloop, hbytes⟩ := convertTurns_eq_some debug hroom (bgrLen / 3)
  rw [List.take_of_length_le (by simp)] at hloop hbytes
  refine ⟨converted, ?_, hbytes⟩
  have hpixels : (debug && decide (bgrLen % 3 ≠ 0)) = false := by
    cases debug with
    | false => rfl
    | true => simp [hwhole rfl]
  have hlong : (debug && decide (buffer.bytes.length < bgrLen / 3 * 4)) = false := by
    simp only [Bool.and_eq_false_iff, decide_eq_false_iff_not]
    exact Or.inr (Nat.not_lt.mpr hroom)
  unfold convertBgr24ToBgra8InPlace
  simp only [hpixels, usizeResult_eq buffer debug hroom, hlong, hloop, Option.bind_eq_bind, Option.bind_some,
    Option.pure_def, Bool.false_eq_true, if_false]

theorem usizeResult_fits {value result : Nat} {debug : Bool} (hfits : value ≤ usizeMax)
    (h : usizeResult debug value = some result) : result = value := by
  rw [usizeResult, if_pos hfits] at h
  exact (Option.some.inj h).symm

/-- A turn that passes its checks has room for its four bytes, also where `usize` wraps. -/
theorem room_of_convertPixel {debug : Bool} {pixels converted : ByteSlice} {k : Nat}
    (hsource : k * 3 ≤ usizeMax) (h : pixels.convertPixel debug k = some converted) :
    k * 4 + 4 ≤ pixels.bytes.length := by
  have hmax : usizeMax = 18446744073709551615 := rfl
  have hlen : pixels.bytes.length ≤ 9223372036854775807 := pixels.fits
  unfold convertPixel at h
  simp only [Option.bind_eq_bind, Option.bind_eq_some_iff] at h
  obtain ⟨sourceIndex, hsourceIndex, targetIndex, htargetIndex, b, hb, _, -, g, -, _, -, r, -, first, hfirst,
    _, -, second, hsecond, _, -, third, hthird, last, hlast, hfourth⟩ := h
  have hread : sourceIndex < pixels.bytes.length := (List.getElem?_eq_some_iff.mp hb).1
  rw [usizeResult_fits hsource hsourceIndex] at hread
  have htarget : targetIndex = k * 4 := usizeResult_fits (by omega) htargetIndex
  have hend : last = k * 4 + 3 := by
    rw [← htarget]
    exact usizeResult_fits (by omega) hlast
  have hin := (length_of_store hfourth).1
  rw [(length_of_store hthird).2, (length_of_store hsecond).2, (length_of_store hfirst).2, hend] at hin
  exact hin

/-- The checks that a conversion has passed which did not panic. -/
theorem checks_of_convertBgr24ToBgra8InPlace {debug : Bool} {buffer converted : ByteSlice} {bgrLen bgraLen : Nat}
    (h : buffer.convertBgr24ToBgra8InPlace debug bgrLen = some (converted, bgraLen)) :
    (debug = true → bgrLen % 3 = 0) ∧
      (List.range (bgrLen / 3)).reverse.foldlM (convertPixel debug) buffer = some converted := by
  unfold convertBgr24ToBgra8InPlace at h
  simp only [Option.bind_eq_bind] at h
  split at h
  next => cases h
  next hwhole =>
    obtain ⟨len, -, h⟩ := Option.bind_eq_some_iff.mp h
    split at h
    next => cases h
    next =>
      obtain ⟨last, hloop, h⟩ := Option.bind_eq_some_iff.mp h
      cases h
      exact ⟨fun hdebug => by simpa [hdebug] using hwhole, hloop⟩

/-- The conversion panics exactly when the slice is too short for the pixels, or a build with debug
assertions is given a part of a pixel. -/
theorem convertBgr24ToBgra8InPlace_eq_none_iff {debug : Bool} {buffer : ByteSlice} {bgrLen : Nat}
    (husize : bgrLen ≤ usizeMax) :
    buffer.convertBgr24ToBgra8InPlace debug bgrLen = none ↔
      buffer.bytes.length < bgrLen / 3 * 4 ∨ (debug = true ∧ bgrLen % 3 ≠ 0) := by
  constructor
  · intro hnone
    by_contra hgood
    obtain ⟨hroom, hwhole⟩ := not_or.mp hgood
    have hpixels : debug = true → bgrLen % 3 = 0 := fun hdebug => by_contra fun hpart => hwhole ⟨hdebug, hpart⟩
    obtain ⟨converted, hsome, -⟩ := convertBgr24ToBgra8InPlace_eq_some hpixels (Nat.le_of_not_lt hroom)
    rw [hnone] at hsome
    cases hsome
  · intro hbad
    rw [Option.eq_none_iff_forall_ne_some]
    rintro ⟨converted, bgraLen⟩ hsome
    obtain ⟨hwhole, hloop⟩ := checks_of_convertBgr24ToBgra8InPlace hsome
    rcases hbad with hshort | ⟨hdebug, hpart⟩
    · -- The first turn is that of the last pixel, which needs the whole room.
      obtain ⟨last, hcount⟩ : ∃ last, bgrLen / 3 = last + 1 := Nat.exists_eq_add_one.mpr (by omega)
      rw [hcount, List.range_succ, List.reverse_append, List.reverse_singleton, List.singleton_append,
        List.foldlM_cons] at hloop
      obtain ⟨first, hfirst, -⟩ := Option.bind_eq_some_iff.mp hloop
      have hroom := room_of_convertPixel (by omega) hfirst
      omega
    · exact hpart (hwhole hdebug)

end ByteSlice

/-- What is to become of a buffer that starts with `n` pixels of BGR24. -/
structure ConvertsPixels (n : Nat) (before after : List UInt8) : Prop where
  length : after.length = before.length
  color : ∀ k < n, ∀ i < 3, after[4 * k + i]? = before[3 * k + i]?
  alpha : ∀ k < n, after[4 * k + 3]? = some 255
  behind : ∀ i, 4 * n ≤ i → after[i]? = before[i]?

theorem convertsPixels_of_stretched {n : Nat} {before after : List UInt8} (hroom : n * 4 ≤ before.length)
    (h : StretchedFrom 3 4 withAlpha n 0 before after) : ConvertsPixels n before after := by
  have hpixel {k : Nat} (hk : k < n) : (cell 3 before k).length = 3 := length_cell (by omega)
  refine ⟨h.length, fun k hk i hi => ?_, fun k hk => ?_, fun i hi => h.behind i (by omega)⟩
  · have hcell := congrArg (fun pixel => pixel[i]?) (h.done k (Nat.zero_le k) hk)
    rw [getElem?_cell (by omega), withAlpha, List.getElem?_append_left (by rw [hpixel hk]; exact hi),
      getElem?_cell hi] at hcell
    rwa [Nat.mul_comm 4, Nat.mul_comm 3]
  · have hcell := congrArg (fun pixel => pixel[3]?) (h.done k (Nat.zero_le k) hk)
    rw [getElem?_cell (by decide), withAlpha, List.getElem?_append_right (by rw [hpixel hk]), hpixel hk] at hcell
    rwa [Nat.mul_comm 4]

/-- In a buffer with room for them, the conversion of `n` pixels passes every check and is exact; and
whatever turns of its loop are done, the bytes that the next ones read are as they were. -/
theorem convertBgr24ToBgra8InPlace_exact (debug : Bool) {n : Nat} {buffer : ByteSlice}
    (hroom : 4 * n ≤ buffer.bytes.length) :
    (∃ converted, buffer.convertBgr24ToBgra8InPlace debug (3 * n) = some (converted, 4 * n) ∧
        ConvertsPixels n buffer.bytes converted.bytes) ∧
      ∀ turns ≤ n, ∃ between,
        ((List.range n).reverse.take turns).foldlM (ByteSlice.convertPixel debug) buffer = some between ∧
          ∀ i < 3 * (n - turns), between.bytes[i]? = buffer.bytes[i]? := by
  have hroom' : n * 4 ≤ buffer.bytes.length := by omega
  have hcount : 3 * n / 3 = n := Nat.mul_div_cancel_left n (by decide)
  constructor
  · have hwhole : debug = true → 3 * n % 3 = 0 := fun _ => Nat.mul_mod_right 3 n
    have hpixels : 3 * n / 3 * 4 ≤ buffer.bytes.length := by omega
    obtain ⟨converted, hsome, hbytes⟩ := ByteSlice.convertBgr24ToBgra8InPlace_eq_some hwhole hpixels
    rw [hcount, Nat.mul_comm n 4] at hsome
    refine ⟨converted, hsome, convertsPixels_of_stretched hroom' ?_⟩
    have hall := convertTurns_stretched hroom' (Nat.le_refl n)
    rw [Nat.sub_self, List.take_of_length_le (by simp)] at hall
    rw [hbytes, convertBgr24ToBgra8InPlace, hcount]
    exact hall
  · intro turns hturns
    obtain ⟨between, hsome, hbytes⟩ := ByteSlice.convertTurns_eq_some debug hroom' turns
    refine ⟨between, hsome, fun i hi => ?_⟩
    rw [hbytes]
    exact (convertTurns_stretched hroom' hturns).unread i (by omega)

theorem convertBgr24ToBgra8InPlace_exact_two_pixels :
    (∃ converted,
        ByteSlice.convertBgr24ToBgra8InPlace true ⟨[10, 20, 30, 40, 50, 60, 0, 0], by decide⟩ (3 * 2) =
            some (converted, 4 * 2) ∧
          ConvertsPixels 2 [10, 20, 30, 40, 50, 60, 0, 0] converted.bytes) ∧
      ∀ turns ≤ 2, ∃ between,
        ((List.range 2).reverse.take turns).foldlM (ByteSlice.convertPixel true)
            ⟨[10, 20, 30, 40, 50, 60, 0, 0], by decide⟩ = some between ∧
          ∀ i < 3 * (2 - turns), between.bytes[i]? = [10, 20, 30, 40, 50, 60, 0, 0][i]? :=
  convertBgr24ToBgra8InPlace_exact true (by decide)

example : (ByteSlice.convertBgr24ToBgra8InPlace true ⟨[10, 20, 30, 40, 50, 60, 0, 0], by decide⟩ 6).map
    (fun converted => (converted.1.bytes, converted.2)) = some ([10, 20, 30, 255, 40, 50, 60, 255], 8) := by
  decide

namespace TwoRealContinuousDecodeSession

/-- The step of the reader loop: the picture it sends is the converted buffer. -/
theorem outputFrame_converts {session : TwoRealContinuousDecodeSession} {bytes : List UInt8} {buffer : ByteSlice}
    (hmode : session.outputPipelineExperimentMode = .scaledBgr24)
    (hlen : session.expectedLen = session.outputWidth.toNat * session.outputHeight.toNat * 3)
    (hread : bytes.length = session.expectedLen)
    (hbuffer : buffer.bytes = bytes ++
      List.replicate (session.outputWidth.toNat * session.outputHeight.toNat * 4 - bytes.length) 0)
    (debug : Bool) :
    ∃ converted, buffer.convertBgr24ToBgra8InPlace debug session.expectedLen =
        some (converted, session.outputWidth.toNat * session.outputHeight.toNat * 4) ∧
      (session.outputFrame bytes).pixels = converted.bytes := by
  have hcount : session.expectedLen / 3 = session.outputWidth.toNat * session.outputHeight.toNat := by
    rw [hlen, Nat.mul_div_cancel _ (by decide)]
  have hroom : session.expectedLen / 3 * 4 ≤ buffer.bytes.length := by
    rw [hcount, hbuffer, List.length_append, List.length_replicate]
    omega
  have hwhole : debug = true → session.expectedLen % 3 = 0 := fun _ => by rw [hlen, Nat.mul_mod_left]
  obtain ⟨converted, hsome, hbytes⟩ := ByteSlice.convertBgr24ToBgra8InPlace_eq_some hwhole hroom
  rw [hcount] at hsome
  refine ⟨converted, hsome, ?_⟩
  rw [hbytes, hbuffer, outputFrame, hmode]

end TwoRealContinuousDecodeSession

end StreamSync
