import Mathlib.Data.List.Basic

namespace StoppingRun

variable {σ ι : Type}

/-- The state after inputs that are taken in turn until the state says that it is over. -/
def runUntil (stop : σ → Bool) (step : σ → ι → σ) (s : σ) : List ι → σ
  | [] => s
  | i :: ins => if stop s then s else runUntil stop step (step s i) ins

variable {stop : σ → Bool} {step : σ → ι → σ} {s : σ}

theorem runUntil_of_stop (h : stop s = true) (ins : List ι) : runUntil stop step s ins = s := by
  cases ins with
  | nil => rfl
  | cons i ins => exact if_pos h

theorem runUntil_cons (h : stop s = false) (i : ι) (ins : List ι) :
    runUntil stop step s (i :: ins) = runUntil stop step (step s i) ins := by
  rw [runUntil, if_neg (by simp [h])]

theorem runUntil_append (ins ins' : List ι) :
    runUntil stop step s (ins ++ ins') = runUntil stop step (runUntil stop step s ins) ins' := by
  induction ins generalizing s with
  | nil => rfl
  | cons i ins ih =>
    cases hs : stop s with
    | true => rw [List.cons_append, runUntil_of_stop hs, runUntil_of_stop hs, runUntil_of_stop hs]
    | false => rw [List.cons_append, runUntil_cons hs, runUntil_cons hs, ih]

/-- What every step from a state that is not over keeps holds in the end. -/
theorem runUntil_invariant {I : σ → Prop} {ins : List ι}
    (next : ∀ s, ∀ i ∈ ins, I s → stop s = false → I (step s i)) (init : I s) :
    I (runUntil stop step s ins) := by
  induction ins generalizing s with
  | nil => exact init
  | cons i ins ih =>
    cases hs : stop s with
    | true => rwa [runUntil_of_stop hs]
    | false =>
      rw [runUntil_cons hs]
      exact ih (fun s j hj => next s j (List.mem_cons_of_mem i hj)) (next s i List.mem_cons_self init hs)

/-- Of the inputs a first part is taken in turn, all of them unless the state is over. -/
theorem runUntil_eq_foldl (stop : σ → Bool) (step : σ → ι → σ) (s : σ) (ins : List ι) :
    ∃ taken rest, ins = taken ++ rest ∧ runUntil stop step s ins = taken.foldl step s ∧
      (stop (runUntil stop step s ins) = true ∨ rest = []) := by
  induction ins generalizing s with
  | nil => exact ⟨[], [], rfl, rfl, .inr rfl⟩
  | cons i ins ih =>
    cases hs : stop s with
    | true =>
      rw [runUntil_of_stop hs]
      exact ⟨[], i :: ins, rfl, rfl, .inl hs⟩
    | false =>
      rw [runUntil_cons hs]
      obtain ⟨taken, rest, rfl, hfold, hend⟩ := ih (step s i)
      exact ⟨i :: taken, rest, rfl, hfold, hend⟩

section Count

variable (taken : σ → Nat) (count : ∀ s i, taken (step s i) = taken s + 1)

include count

theorem taken_le (ins : List ι) : taken (runUntil stop step s ins) ≤ taken s + ins.length := by
  induction ins generalizing s with
  | nil => exact Nat.le_refl _
  | cons i ins ih =>
    rw [List.length_cons]
    cases hs : stop s with
    | true =>
      rw [runUntil_of_stop hs]
      omega
    | false =>
      rw [runUntil_cons hs]
      have hrest := ih (s := step s i)
      rw [count] at hrest
      omega

theorem le_taken (ins : List ι) : taken s ≤ taken (runUntil stop step s ins) := by
  induction ins generalizing s with
  | nil => exact Nat.le_refl _
  | cons i ins ih =>
    cases hs : stop s with
    | true => exact Nat.le_of_eq (congrArg taken (runUntil_of_stop hs (i :: ins))).symm
    | false =>
      rw [runUntil_cons hs]
      have hrest := ih (s := step s i)
      rw [count] at hrest
      omega

/-- A run that is not over has taken all its inputs. -/
theorem taken_of_not_stop {ins : List ι} (h : stop (runUntil stop step s ins) = false) :
    taken (runUntil stop step s ins) = taken s + ins.length := by
  induction ins generalizing s with
  | nil => rfl
  | cons i ins ih =>
    rw [List.length_cons]
    cases hs : stop s with
    | true =>
      rw [runUntil_of_stop hs, hs] at h
      cases h
    | false =>
      rw [runUntil_cons hs] at h ⊢
      rw [ih h, count]
      omega

/-- A run takes more inputs than a bound unless there are no more, or it is over within as many. -/
theorem taken_le_iff (n : Nat) (ins : List ι) :
    taken (runUntil stop step s ins) ≤ taken s + n ↔
      ins.length ≤ n ∨ stop (runUntil stop step s (ins.take n)) = true := by
  have hsplit : runUntil stop step s ins =
      runUntil stop step (runUntil stop step s (ins.take n)) (ins.drop n) := by
    rw [← runUntil_append, List.take_append_drop]
  cases hstop : stop (runUntil stop step s (ins.take n)) with
  | true =>
    rw [hsplit, runUntil_of_stop hstop]
    have hle : taken (runUntil stop step s (ins.take n)) ≤ _ := taken_le taken count (ins.take n)
    rw [List.length_take] at hle
    simp only [or_true, iff_true]
    omega
  | false =>
    have htaken := taken_of_not_stop taken count hstop
    rw [List.length_take] at htaken
    simp only [Bool.false_eq_true, or_false]
    constructor
    · intro hle
      refine Nat.le_of_not_lt fun hlong => ?_
      obtain ⟨i, later, hdrop⟩ := List.exists_cons_of_ne_nil
        (List.ne_nil_of_length_pos (by rw [List.length_drop]; omega) : ins.drop n ≠ [])
      rw [hsplit, hdrop, runUntil_cons hstop] at hle
      have hmore : taken (step (runUntil stop step s (ins.take n)) i) ≤
          taken (runUntil stop step (step (runUntil stop step s (ins.take n)) i) later) :=
        le_taken taken count later
      rw [count] at hmore
      omega
    · intro hle
      have hall : taken (runUntil stop step s ins) ≤ _ := taken_le taken count ins
      omega

end Count

end StoppingRun
