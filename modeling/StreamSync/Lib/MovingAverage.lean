import Mathlib.Algebra.Order.Group.Int
import Mathlib.Data.Int.Order.Basic
import Mathlib.Logic.Function.Iterate
import Mathlib.Order.Lattice
import Mathlib.Order.MinMax

namespace MovingAverage

/-- One step of the average of weight `1 / d`, in integers that divide towards zero. -/
def step (d previous latest : Int) : Int := previous + (latest - previous).tdiv d

variable {d : Int}

section Tdiv

theorem tdiv_between (x : Int) (hd : 0 < d) : min 0 x ≤ x.tdiv d ∧ x.tdiv d ≤ max 0 x := by
  rcases le_total 0 x with hx | hx
  · rw [Int.tdiv_eq_ediv_of_nonneg hx]
    have hnonneg : 0 ≤ x / d := Int.ediv_nonneg hx hd.le
    have hle : x / d ≤ x := Int.ediv_le_self d hx
    omega
  · obtain ⟨y, rfl⟩ : ∃ y : Int, x = -y := ⟨-x, by omega⟩
    have hy : 0 ≤ y := by omega
    rw [Int.neg_tdiv, Int.tdiv_eq_ediv_of_nonneg hy]
    have hnonneg : 0 ≤ y / d := Int.ediv_nonneg hy hd.le
    have hle : y / d ≤ y := Int.ediv_le_self d hy
    omega

theorem ediv_growth {x y : Int} (hd : 0 < d) (h : x ≤ y) : x / d ≤ y / d ∧ y / d ≤ x / d + (y - x) := by
  refine ⟨Int.ediv_le_ediv hd h, ?_⟩
  have hone : (y - x) * 1 ≤ (y - x) * d := Int.mul_le_mul_of_nonneg_left (by omega) (by omega)
  calc y / d ≤ (x + (y - x) * d) / d := Int.ediv_le_ediv hd (by omega)
    _ = x / d + (y - x) := Int.add_mul_ediv_right x (y - x) hd.ne'

/-- A quotient grows with the dividend, and by no more than the dividend does. -/
theorem tdiv_growth {x y : Int} (hd : 0 < d) (h : x ≤ y) :
    x.tdiv d ≤ y.tdiv d ∧ y.tdiv d ≤ x.tdiv d + (y - x) := by
  rcases le_total 0 x with hx | hx
  · have hy : 0 ≤ y := hx.trans h
    rw [Int.tdiv_eq_ediv_of_nonneg hx, Int.tdiv_eq_ediv_of_nonneg hy]
    exact ediv_growth hd h
  · rcases le_total 0 y with hy | hy
    · have hxb := tdiv_between x hd
      have hyb := tdiv_between y hd
      omega
    · obtain ⟨a, rfl⟩ : ∃ a : Int, x = -a := ⟨-x, by omega⟩
      obtain ⟨b, rfl⟩ : ∃ b : Int, y = -b := ⟨-y, by omega⟩
      have hgrowth := ediv_growth hd (show b ≤ a by omega)
      rw [Int.neg_tdiv, Int.neg_tdiv, Int.tdiv_eq_ediv_of_nonneg (show 0 ≤ a by omega),
        Int.tdiv_eq_ediv_of_nonneg (show 0 ≤ b by omega)]
      omega

theorem one_le_tdiv {x : Int} (hd : 0 < d) (h : d ≤ x) : 1 ≤ x.tdiv d := by
  rw [Int.tdiv_eq_ediv_of_nonneg (show 0 ≤ x by omega), Int.le_ediv_iff_mul_le hd]
  omega

theorem tdiv_le_neg_one {x : Int} (hd : 0 < d) (h : x ≤ -d) : x.tdiv d ≤ -1 := by
  obtain ⟨y, rfl⟩ : ∃ y : Int, x = -y := ⟨-x, by omega⟩
  have hone := one_le_tdiv hd (show d ≤ y by omega)
  rw [Int.neg_tdiv]
  omega

theorem tdiv_eq_zero {x : Int} (h : x.natAbs < d) : x.tdiv d = 0 := by
  rcases le_total 0 x with hx | hx
  · exact Int.tdiv_eq_zero_of_lt hx (by omega)
  · obtain ⟨y, rfl⟩ : ∃ y : Int, x = -y := ⟨-x, by omega⟩
    rw [Int.neg_tdiv, Int.tdiv_eq_zero_of_lt (by omega) (by omega)]
    rfl

/-- Halving what is twice `x` up to `y` finds `x` up to half of `y`, rounded up. -/
theorem tdiv_two_near (x y : Int) : ((2 * x + y).tdiv 2 - x).natAbs ≤ (y.natAbs + 1) / 2 := by
  rcases le_total 0 (2 * x + y) with hsign | hsign
  · rw [Int.tdiv_eq_ediv_of_nonneg hsign]
    omega
  · have hneg : (2 * x + y).tdiv 2 = -((-(2 * x + y)) / 2) := by
      rw [← Int.tdiv_eq_ediv_of_nonneg (show 0 ≤ -(2 * x + y) by omega), Int.neg_tdiv, Int.neg_neg]
    rw [hneg]
    omega

end Tdiv

section Step

theorem step_between (hd : 0 < d) (previous latest : Int) :
    min previous latest ≤ step d previous latest ∧ step d previous latest ≤ max previous latest := by
  have hbetween := tdiv_between (latest - previous) hd
  unfold step
  omega

theorem step_mono (hd : 0 < d) {previous previous' latest latest' : Int} (hprevious : previous ≤ previous')
    (hlatest : latest ≤ latest') : step d previous latest ≤ step d previous' latest' := by
  have hfirst := tdiv_growth hd (show latest - previous' ≤ latest - previous by omega)
  have hsecond := tdiv_growth hd (show latest - previous' ≤ latest' - previous' by omega)
  unfold step
  omega

/-- A sample at a distance of `d` or more draws the average nearer. -/
theorem step_closer (hd : 0 < d) {previous latest : Int} (h : d ≤ (latest - previous).natAbs) :
    (latest - step d previous latest).natAbs < (latest - previous).natAbs := by
  have hbetween := tdiv_between (latest - previous) hd
  unfold step
  rcases le_total 0 (latest - previous) with hsign | hsign
  · have hone := one_le_tdiv hd (show d ≤ latest - previous by omega)
    omega
  · have hone := tdiv_le_neg_one hd (show latest - previous ≤ -d by omega)
    omega

/-- A nearer sample leaves it. -/
theorem step_eq_self {previous latest : Int} (h : (latest - previous).natAbs < d) :
    step d previous latest = previous := by
  unfold step
  rw [tdiv_eq_zero h, Int.add_zero]

/-- Either the average is within `d` of the repeated sample, or each sample has drawn it nearer. -/
theorem iterate_closer (hd : 0 < d) (previous latest : Int) (n : Nat) :
    (latest - (step d · latest)^[n] previous).natAbs < d ∨
      (latest - (step d · latest)^[n] previous).natAbs + n ≤ (latest - previous).natAbs := by
  induction n with
  | zero => exact .inr (by simp)
  | succ n ih =>
    rw [Function.iterate_succ_apply']
    generalize (step d · latest)^[n] previous = current at ih ⊢
    by_cases hnear : (latest - current).natAbs < d
    · exact .inl (by rw [step_eq_self hnear]; exact hnear)
    · have hcloser := step_closer hd (show d ≤ (latest - current).natAbs by omega)
      omega

theorem iterate_settles (hd : 0 < d) {previous latest : Int} {n : Nat} (h : (latest - previous).natAbs ≤ n) :
    (latest - (step d · latest)^[n] previous).natAbs < d := by
  have hcloser := iterate_closer hd previous latest n
  omega

end Step

section Values

variable {α : Type} {value : α → Int} {next : α → α → α}

/-- The values that `next` goes through approach the samples and do not go past them. -/
structure Approaches (d : Int) (value : α → Int) (next : α → α → α) : Prop where
  between : ∀ previous latest, min (value previous) (value latest) ≤ value (next previous latest) ∧
    value (next previous latest) ≤ max (value previous) (value latest)
  mono : ∀ previous previous' latest latest', value previous ≤ value previous' →
    value latest ≤ value latest' → value (next previous latest) ≤ value (next previous' latest')
  closer : ∀ previous latest, d ≤ (value latest - value previous).natAbs →
    (value latest - value (next previous latest)).natAbs < (value latest - value previous).natAbs
  settles : ∀ previous latest n, (value latest - value previous).natAbs ≤ n →
    (value latest - value ((next · latest)^[n] previous)).natAbs < d

theorem approaches_of_step (hd : 0 < d)
    (h : ∀ previous latest, value (next previous latest) = step d (value previous) (value latest)) :
    Approaches d value next where
  between previous latest := by
    rw [h]
    exact step_between hd _ _
  mono previous previous' latest latest' hprevious hlatest := by
    rw [h, h]
    exact step_mono hd hprevious hlatest
  closer previous latest hfar := by
    rw [h]
    exact step_closer hd hfar
  settles previous latest n hn := by
    have hiterate : value ((next · latest)^[n] previous) =
        (step d · (value latest))^[n] (value previous) :=
      Function.Semiconj.iterate_right (f := value) (fun current => h current latest) n previous
    rw [hiterate]
    exact iterate_settles hd hn

end Values

end MovingAverage

namespace Hull

variable {α ι : Type} [LinearOrder α]

/-- The value lies between the least and the greatest of the samples. -/
def InHull (f : ι → α) (samples : List ι) (x : α) : Prop :=
  (∃ low ∈ samples, f low ≤ x) ∧ ∃ high ∈ samples, x ≤ f high

theorem inHull_singleton (f : ι → α) (s : ι) : InHull f [s] (f s) :=
  ⟨⟨s, by simp, le_refl _⟩, ⟨s, by simp, le_refl _⟩⟩

/-- A value between an old one and a new sample stays in the hull of all samples. -/
theorem InHull.concat {f : ι → α} {samples : List ι} {x z : α} {s : ι} (h : InHull f samples x)
    (hlow : min x (f s) ≤ z) (hhigh : z ≤ max x (f s)) : InHull f (samples ++ [s]) z := by
  obtain ⟨⟨low, hlowMem, hlow'⟩, high, hhighMem, hhigh'⟩ := h
  constructor
  · rcases min_le_iff.mp hlow with hx | hs
    · exact ⟨low, by simp [hlowMem], le_trans hlow' hx⟩
    · exact ⟨s, by simp, hs⟩
  · rcases le_max_iff.mp hhigh with hx | hs
    · exact ⟨high, by simp [hhighMem], le_trans hx hhigh'⟩
    · exact ⟨s, by simp, hs⟩

end Hull
