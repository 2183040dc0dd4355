import StreamSync.Lib.Painting

namespace Stretching

open Painting

variable {α : Type}

/-- The `k`-th cell of a list that is cut into cells of one width. -/
def cell (width : Nat) (xs : List α) (k : Nat) : List α := (xs.drop (k * width)).take width

section Cell

variable {width : Nat} {xs ys : List α} {k : Nat}

theorem getElem?_cell {i : Nat} (hi : i < width) : (cell width xs k)[i]? = xs[k * width + i]? := by
  rw [cell, List.getElem?_take_of_lt hi, List.getElem?_drop]

theorem cell_congr (h : ∀ i, i < width → xs[k * width + i]? = ys[k * width + i]?) :
    cell width xs k = cell width ys k := by
  apply List.ext_getElem?
  intro i
  by_cases hi : i < width
  · rw [getElem?_cell hi, getElem?_cell hi, h i hi]
  · have hxs : (cell width xs k).length ≤ width := List.length_take_le width _
    have hys : (cell width ys k).length ≤ width := List.length_take_le width _
    rw [List.getElem?_eq_none (by omega), List.getElem?_eq_none (by omega)]

theorem length_cell (h : (k + 1) * width ≤ xs.length) : (cell width xs k).length = width := by
  rw [Nat.succ_mul] at h
  rw [cell, List.length_take, List.length_drop]
  omega

theorem cell_append_succ {front : List α} (hfront : front.length = width) (xs : List α) (k : Nat) :
    cell width (front ++ xs) (k + 1) = cell width xs k := by
  have hskip : (k + 1) * width = front.length + k * width := by rw [hfront, Nat.succ_mul, Nat.add_comm]
  rw [cell, cell, hskip, ← List.drop_drop, List.drop_left]

/-- A list of whole cells is known by them. -/
theorem eq_of_cells {n : Nat} (hxs : xs.length = n * width) (hys : ys.length = n * width)
    (h : ∀ k, k < n → cell width xs k = cell width ys k) : xs = ys := by
  apply List.ext_getElem?
  intro i
  by_cases hi : i < n * width
  · have hpos : 0 < width := Nat.pos_of_mul_pos_left (Nat.zero_lt_of_lt hi)
    have hin : i % width < width := Nat.mod_lt i hpos
    have hcell := congrArg (fun ys => ys[i % width]?) (h (i / width) (Nat.div_lt_of_lt_mul (Nat.mul_comm n width ▸ hi)))
    rw [getElem?_cell hin, getElem?_cell hin, Nat.div_add_mod'] at hcell
    exact hcell
  · rw [List.getElem?_eq_none (by omega), List.getElem?_eq_none (by omega)]

end Cell

/-- A function that makes a narrow cell a wide one. -/
structure Widens (narrow wide : Nat) (grow : List α → List α) : Prop where
  le : narrow ≤ wide
  length : ∀ ys, ys.length = narrow → (grow ys).length = wide

/-- The `k`-th narrow cell becomes the `k`-th wide one, in the same list. -/
def stretchCell (narrow wide : Nat) (grow : List α → List α) (xs : List α) (k : Nat) : List α :=
  splice xs (k * wide) (grow (cell narrow xs k))

/-- What has become of the list when the cells from `k` on up to `n` are wide. -/
structure StretchedFrom (narrow wide : Nat) (grow : List α → List α) (n k : Nat) (before xs : List α) :
    Prop where
  length : xs.length = before.length
  unread : ∀ i, i < k * wide → xs[i]? = before[i]?
  done : ∀ j, k ≤ j → j < n → cell wide xs j = grow (cell narrow before j)
  behind : ∀ i, n * wide ≤ i → xs[i]? = before[i]?

section Stretch

variable {narrow wide n k : Nat} {grow : List α → List α} {before xs : List α}

theorem stretchedFrom_self : StretchedFrom narrow wide grow n n before before :=
  ⟨rfl, fun _ _ => rfl, fun _ hlow hhigh => absurd hhigh (Nat.not_lt.mpr hlow), fun _ _ => rfl⟩

/-- The narrow cell is in front of all that is written. -/
theorem StretchedFrom.cell_eq (hwidens : Widens narrow wide grow)
    (h : StretchedFrom narrow wide grow n (k + 1) before xs) : cell narrow xs k = cell narrow before k := by
  refine cell_congr fun i hi => h.unread _ ?_
  have hnarrow : (k + 1) * narrow ≤ (k + 1) * wide := Nat.mul_le_mul_left _ hwidens.le
  rw [Nat.succ_mul k narrow] at hnarrow
  omega

theorem StretchedFrom.step (hwidens : Widens narrow wide grow) (hroom : n * wide ≤ before.length) (hk : k < n)
    (h : StretchedFrom narrow wide grow n (k + 1) before xs) :
    StretchedFrom narrow wide grow n k before (stretchCell narrow wide grow xs k) := by
  have hend : (k + 1) * wide ≤ n * wide := Nat.mul_le_mul_right wide hk
  have hsource : (k + 1) * narrow ≤ before.length :=
    (Nat.mul_le_mul_left _ hwidens.le).trans (hend.trans hroom)
  have hwide : (grow (cell narrow before k)).length = wide := hwidens.length _ (length_cell hsource)
  rw [Nat.succ_mul] at hend
  have hin : k * wide + (grow (cell narrow before k)).length ≤ xs.length := by
    rw [hwide, h.length]
    omega
  have hget := getElem?_splice hin
  rw [hwide] at hget
  unfold stretchCell
  rw [h.cell_eq hwidens]
  refine ⟨(length_splice hin).trans h.length, fun i hi => ?_, fun j hlow hhigh => ?_, fun i hi => ?_⟩
  · rw [hget, if_neg (by omega), h.unread i (by rw [Nat.succ_mul]; omega)]
  · rcases Nat.eq_or_lt_of_le hlow with rfl | hlater
    · apply List.ext_getElem?
      intro i
      by_cases hi : i < wide
      · rw [getElem?_cell hi, hget, if_pos (by omega), Nat.add_sub_cancel_left]
      · have hcell : (cell wide (splice xs (k * wide) (grow (cell narrow before k))) k).length ≤ wide :=
          List.length_take_le wide _
        rw [List.getElem?_eq_none (by omega), List.getElem?_eq_none (by omega)]
    · rw [← h.done j hlater hhigh]
      have hbehind : (k + 1) * wide ≤ j * wide := Nat.mul_le_mul_right wide hlater
      rw [Nat.succ_mul] at hbehind
      exact cell_congr fun i hi => by rw [hget, if_neg (by omega)]
  · rw [hget, if_neg (by omega), h.behind i hi]

theorem take_reverse_range_succ {m : Nat} (hm : m < n) :
    (List.range n).reverse.take (m + 1) = (List.range n).reverse.take m ++ [n - m - 1] := by
  have hlen : m < (List.range n).length := by rwa [List.length_range]
  have hlast : n - 1 - m = n - m - 1 := by omega
  rw [List.take_add_one, List.getElem?_reverse hlen, List.length_range, List.getElem?_range (by omega), hlast]
  rfl

/-- The last cells first, so that each is still narrow when its turn comes. -/
theorem stretchedFrom_foldl (hwidens : Widens narrow wide grow) (hroom : n * wide ≤ before.length)
    {turn : List α → Nat → List α}
    (hturn : ∀ xs k, k < n → xs.length = before.length → turn xs k = stretchCell narrow wide grow xs k)
    {m : Nat} (hm : m ≤ n) :
    StretchedFrom narrow wide grow n (n - m) before (((List.range n).reverse.take m).foldl turn before) := by
  induction m with
  | zero => exact stretchedFrom_self
  | succ m ih =>
    have hlast : n - m = n - (m + 1) + 1 := by omega
    have hlater := ih (by omega)
    rw [hlast] at hlater
    rw [take_reverse_range_succ hm, List.foldl_append, List.foldl_cons, List.foldl_nil,
      show n - m - 1 = n - (m + 1) by omega, hturn _ _ (by omega) hlater.length]
    exact hlater.step hwidens hroom (by omega)

end Stretch

end Stretching
