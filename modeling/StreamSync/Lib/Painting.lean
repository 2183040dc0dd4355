import Mathlib.Data.List.Induction
import Mathlib.Order.Interval.Set.Basic

namespace Painting

variable {α ι : Type}

/-- Puts the bytes in place of what stands from the index on. -/
def splice (canvas : List α) (start : Nat) (bytes : List α) : List α :=
  canvas.take start ++ bytes ++ canvas.drop (start + bytes.length)

section Splice

variable {canvas bytes : List α} {start : Nat}

theorem length_splice (h : start + bytes.length ≤ canvas.length) :
    (splice canvas start bytes).length = canvas.length := by
  simp only [splice, List.length_append, List.length_take, List.length_drop]
  omega

theorem getElem?_splice (h : start + bytes.length ≤ canvas.length) (n : Nat) :
    (splice canvas start bytes)[n]? =
      if start ≤ n ∧ n < start + bytes.length then bytes[n - start]? else canvas[n]? := by
  have htake : (canvas.take start).length = start := by
    rw [List.length_take]
    omega
  rw [splice, List.append_assoc]
  by_cases hbefore : n < start
  · rw [if_neg (by omega), List.getElem?_append_left (by omega), List.getElem?_take_of_lt hbefore]
  · rw [List.getElem?_append_right (by omega), htake]
    by_cases hin : n < start + bytes.length
    · rw [if_pos ⟨by omega, hin⟩, List.getElem?_append_left (by omega)]
    · rw [if_neg (by omega), List.getElem?_append_right (by omega), List.getElem?_drop]
      congr 1
      omega

theorem splice_nil (canvas : List α) (start : Nat) : splice canvas start [] = canvas := by
  rw [splice, List.append_nil, List.length_nil, Nat.add_zero, List.take_append_drop]

theorem splice_cons (h : start < canvas.length) (byte : α) (bytes : List α) :
    splice canvas start (byte :: bytes) = splice (canvas.set start byte) (start + 1) bytes := by
  have hfront : (canvas.set start byte).take (start + 1) = canvas.take start ++ [byte] := by
    rw [List.take_add_one, List.getElem?_set_self h, List.take_set_of_le (Nat.le_refl _)]
    rfl
  have hbehind : (canvas.set start byte).drop (start + 1 + bytes.length) =
      canvas.drop (start + (byte :: bytes).length) := by
    rw [List.drop_set_of_lt (by omega), List.length_cons]
    congr 1
    omega
  rw [splice, splice, hfront, hbehind, List.append_assoc _ [byte]]
  rfl

end Splice

/-- A function on canvases of one size that looks at a region only and changes nothing else. -/
structure ActsWithin (size : Nat) (R : Set Nat) (f : List α → List α) : Prop where
  length : ∀ xs, xs.length = size → (f xs).length = size
  outside : ∀ xs, xs.length = size → ∀ n, n ∉ R → (f xs)[n]? = xs[n]?
  local_of : ∀ xs ys, xs.length = size → ys.length = size → (∀ n ∈ R, xs[n]? = ys[n]?) →
    ∀ n ∈ R, (f xs)[n]? = (f ys)[n]?

/-- One that also leaves nothing of what stood in the region. -/
structure Overwrites (size : Nat) (R : Set Nat) (f : List α → List α) : Prop where
  acts : ActsWithin size R f
  inside : ∀ xs ys, xs.length = size → ys.length = size → ∀ n ∈ R, (f xs)[n]? = (f ys)[n]?

section Rules

variable {size : Nat} {R : Set Nat} {f g : List α → List α}

theorem actsWithin_id : ActsWithin (α := α) size R fun c => c :=
  ⟨fun _ h => h, fun _ _ _ _ => rfl, fun _ _ _ _ h => h⟩

theorem ActsWithin.comp (hf : ActsWithin size R f) (hg : ActsWithin size R g) :
    ActsWithin size R fun c => g (f c) where
  length c hc := hg.length _ (hf.length c hc)
  outside c hc n hn := (hg.outside _ (hf.length c hc) n hn).trans (hf.outside c hc n hn)
  local_of c c' hc hc' h :=
    hg.local_of _ _ (hf.length c hc) (hf.length c' hc') (hf.local_of c c' hc hc' h)

theorem actsWithin_foldl (is : List ι) {step : List α → ι → List α}
    (h : ∀ i ∈ is, ActsWithin size R fun c => step c i) :
    ActsWithin size R fun c => is.foldl step c := by
  induction is with
  | nil => exact actsWithin_id
  | cons i is ih => exact (h i (by simp)).comp (ih fun j hj => h j (by simp [hj]))

theorem actsWithin_splice {start : Nat} {bytes : List α} (hsize : start + bytes.length ≤ size)
    (hR : ∀ n, start ≤ n → n < start + bytes.length → n ∈ R) :
    ActsWithin size R fun c => splice c start bytes where
  length c hc := (length_splice (by omega)).trans hc
  outside c hc n hn := by
    rw [getElem?_splice (by omega), if_neg]
    rintro ⟨hlow, hhigh⟩
    exact hn (hR n hlow hhigh)
  local_of c c' hc hc' h n hn := by
    rw [getElem?_splice (by omega), getElem?_splice (by omega)]
    split
    next => rfl
    next => exact h n hn

/-- What acts behind an overwrite sees nothing of the canvas before it. -/
theorem Overwrites.comp (hf : Overwrites size R f) (hg : ActsWithin size R g) :
    Overwrites size R fun c => g (f c) where
  acts := hf.acts.comp hg
  inside c c' hc hc' :=
    hg.local_of _ _ (hf.acts.length c hc) (hf.acts.length c' hc') (hf.inside c c' hc hc')

/-- Pieces that lie in a region and cover it overwrite it. -/
theorem overwrites_foldl_splice {pieces : List (Nat × List α)}
    (hsize : ∀ p ∈ pieces, p.1 + p.2.length ≤ size)
    (hwithin : ∀ p ∈ pieces, ∀ n, p.1 ≤ n → n < p.1 + p.2.length → n ∈ R)
    (hcover : ∀ n ∈ R, ∃ p ∈ pieces, p.1 ≤ n ∧ n < p.1 + p.2.length) :
    Overwrites size R fun c => pieces.foldl (fun c p => splice c p.1 p.2) c := by
  refine ⟨actsWithin_foldl pieces fun p hp => actsWithin_splice (hsize p hp) (hwithin p hp),
    fun c c' hc hc' n hn => ?_⟩
  have hpainted := hcover n hn
  clear hcover
  induction pieces using List.reverseRecOn with
  | nil =>
    obtain ⟨p, hp, -⟩ := hpainted
    simp at hp
  | append_singleton pieces last ih =>
    have hearlier : ActsWithin size R fun c => pieces.foldl (fun c p => splice c p.1 p.2) c :=
      actsWithin_foldl pieces fun p hp =>
        actsWithin_splice (hsize p (by simp [hp])) (hwithin p (by simp [hp]))
    have hl : last.1 + last.2.length ≤ size := hsize last (by simp)
    rw [List.foldl_append, List.foldl_append]
    simp only [List.foldl_cons, List.foldl_nil]
    rw [getElem?_splice (by rw [hearlier.length c hc]; exact hl),
      getElem?_splice (by rw [hearlier.length c' hc']; exact hl)]
    split
    next => rfl
    next hnot =>
      refine ih (fun p hp => hsize p (by simp [hp])) (fun p hp => hwithin p (by simp [hp])) ?_
      obtain ⟨p, hp, hin⟩ := hpainted
      rcases List.mem_append.mp hp with hp | hp
      · exact ⟨p, hp, hin⟩
      · rw [List.mem_singleton.mp hp] at hin
        exact absurd hin hnot

/-- An index shows what the pieces over it agree on. -/
theorem getElem?_foldl_splice {pieces : List (Nat × List α)} {canvas : List α} {n : Nat} {v : Option α}
    (hsize : ∀ p ∈ pieces, p.1 + p.2.length ≤ canvas.length)
    (hagree : ∀ p ∈ pieces, p.1 ≤ n → n < p.1 + p.2.length → p.2[n - p.1]? = v)
    (hpainted : (∃ p ∈ pieces, p.1 ≤ n ∧ n < p.1 + p.2.length) ∨ canvas[n]? = v) :
    (pieces.foldl (fun c p => splice c p.1 p.2) canvas)[n]? = v := by
  induction pieces generalizing canvas with
  | nil =>
    rcases hpainted with ⟨p, hp, -⟩ | h
    · simp at hp
    · exact h
  | cons first pieces ih =>
    have hfirst := hsize first (by simp)
    have hlen := length_splice hfirst
    refine ih (fun p hp => (hsize p (by simp [hp])).trans hlen.ge)
      (fun p hp => hagree p (by simp [hp])) ?_
    rw [getElem?_splice hfirst]
    by_cases hin : first.1 ≤ n ∧ n < first.1 + first.2.length
    · right
      rw [if_pos hin]
      exact hagree first (by simp) hin.1 hin.2
    · rw [if_neg hin]
      rcases hpainted with ⟨p, hp, hover⟩ | h
      · rcases List.mem_cons.mp hp with rfl | hp
        · exact absurd hover hin
        · exact Or.inl ⟨p, hp, hover⟩
      · exact Or.inr h

end Rules

section Tiles

variable {size : Nat} {tiles : ι → Set Nat} {paint paint' : ι → List α → List α}

theorem length_foldl_paint (hpaint : ∀ i, Overwrites size (tiles i) (paint i)) (is : List ι)
    {c : List α} (hc : c.length = size) : (is.foldl (fun c i => paint i c) c).length = size := by
  induction is generalizing c with
  | nil => exact hc
  | cons i is ih => exact ih ((hpaint i).acts.length c hc)

/-- A tile shows what its own painter puts there, whatever the other painters do. -/
theorem foldl_tile (hdisjoint : ∀ i j n, n ∈ tiles i → n ∈ tiles j → i = j)
    (hpaint : ∀ i, Overwrites size (tiles i) (paint i)) (is : List ι) {i : ι} (hi : i ∈ is)
    {c c' : List α} (hc : c.length = size) (hc' : c'.length = size) {n : Nat} (hn : n ∈ tiles i) :
    (is.foldl (fun c i => paint i c) c)[n]? = (paint i c')[n]? := by
  induction is using List.reverseRecOn with
  | nil => simp at hi
  | append_singleton is last ih =>
    have hlen := length_foldl_paint hpaint is hc
    rw [List.foldl_append]
    simp only [List.foldl_cons, List.foldl_nil]
    by_cases hlast : last = i
    · rw [hlast]
      exact (hpaint i).inside _ _ hlen hc' n hn
    · rw [(hpaint last).acts.outside _ hlen n fun h => hlast (hdisjoint last i n h hn)]
      refine ih ?_
      rcases List.mem_append.mp hi with hi | hi
      · exact hi
      · exact absurd (List.mem_singleton.mp hi).symm hlast

/-- Painting every tile leaves nothing of the canvas. -/
theorem paint_all (hdisjoint : ∀ i j n, n ∈ tiles i → n ∈ tiles j → i = j)
    (hcover : ∀ n, n < size → ∃ i, n ∈ tiles i)
    (hpaint : ∀ i, Overwrites size (tiles i) (paint i)) {all : List ι} (hall : ∀ i, i ∈ all)
    {c c' : List α} (hc : c.length = size) (hc' : c'.length = size) :
    all.foldl (fun c i => paint i c) c = all.foldl (fun c i => paint i c) c' := by
  apply List.ext_getElem?
  intro n
  by_cases hn : n < size
  · obtain ⟨i, hi⟩ := hcover n hn
    rw [foldl_tile hdisjoint hpaint all (hall i) hc hc' hi,
      foldl_tile hdisjoint hpaint all (hall i) hc' hc' hi]
  · have hlen := length_foldl_paint hpaint all hc
    have hlen' := length_foldl_paint hpaint all hc'
    rw [List.getElem?_eq_none (by omega), List.getElem?_eq_none (by omega)]

/-- Painters of tiles that are not named leave a tile as it is. -/
theorem foldl_other_tiles (hdisjoint : ∀ i j n, n ∈ tiles i → n ∈ tiles j → i = j)
    (hpaint : ∀ i, Overwrites size (tiles i) (paint i)) (is : List ι) {i : ι} (hi : i ∉ is)
    {xs : List α} (hxs : xs.length = size) {n : Nat} (hn : n ∈ tiles i) :
    (is.foldl (fun xs i => paint i xs) xs)[n]? = xs[n]? := by
  induction is generalizing xs with
  | nil => rfl
  | cons j is ih =>
    have hj : j ≠ i := fun h => hi (by simp [h])
    rw [List.foldl_cons, ih (fun h => hi (by simp [h])) ((hpaint j).acts.length xs hxs),
      (hpaint j).acts.outside xs hxs n fun h => hj (hdisjoint j i n h hn)]

/-- Painting the changed tiles anew over an old painting is painting all of them, where the others would
be painted as they were. -/
theorem repaint (hdisjoint : ∀ i j n, n ∈ tiles i → n ∈ tiles j → i = j)
    (hcover : ∀ n, n < size → ∃ i, n ∈ tiles i)
    (hpaint : ∀ i, Overwrites size (tiles i) (paint i))
    (hpaint' : ∀ i, Overwrites size (tiles i) (paint' i))
    {all changed : List ι} (hall : ∀ i, i ∈ all)
    (hsame : ∀ i, i ∉ changed → paint i = paint' i)
    {c c' : List α} (hc : c.length = size) (hc' : c'.length = size) :
    changed.foldl (fun c i => paint' i c) (all.foldl (fun c i => paint i c) c) =
      all.foldl (fun c i => paint' i c) c' := by
  have hold : (all.foldl (fun c i => paint i c) c).length = size := length_foldl_paint hpaint all hc
  apply List.ext_getElem?
  intro n
  by_cases hn : n < size
  · obtain ⟨i, hi⟩ := hcover n hn
    rw [foldl_tile hdisjoint hpaint' all (hall i) hc' hc' hi]
    by_cases hchanged : i ∈ changed
    · exact foldl_tile hdisjoint hpaint' changed hchanged hold hc' hi
    · rw [foldl_other_tiles hdisjoint hpaint' changed hchanged hold hi,
        foldl_tile hdisjoint hpaint all (hall i) hc hc' hi, hsame i hchanged]
  · have hnew := length_foldl_paint hpaint' changed hold
    have hall' := length_foldl_paint hpaint' all hc'
    rw [List.getElem?_eq_none (by omega), List.getElem?_eq_none (by omega)]

end Tiles

end Painting
