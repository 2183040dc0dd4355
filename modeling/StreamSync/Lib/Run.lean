import Mathlib.Data.List.Induction

namespace Run

variable {σ ι ο : Type}

/-- The state after a list of inputs, and the outputs in order. -/
def run (step : σ → ι → σ × ο) (s : σ) : List ι → σ × List ο
  | [] => (s, [])
  | i :: ins =>
    let here := step s i
    let later := run step here.1 ins
    (later.1, here.2 :: later.2)

variable {step : σ → ι → σ × ο} {s : σ}

@[simp] theorem run_nil : run step s [] = (s, []) := rfl

theorem run_cons (i : ι) (ins : List ι) :
    run step s (i :: ins) =
      ((run step (step s i).1 ins).1, (step s i).2 :: (run step (step s i).1 ins).2) := rfl

theorem run_append (ins ins' : List ι) :
    run step s (ins ++ ins') =
      ((run step (run step s ins).1 ins').1, (run step s ins).2 ++ (run step (run step s ins).1 ins').2) := by
  induction ins generalizing s with
  | nil => rfl
  | cons i ins ih =>
    rw [List.cons_append, run_cons, ih, run_cons]
    rfl

theorem run_concat (ins : List ι) (i : ι) :
    run step s (ins ++ [i]) =
      ((step (run step s ins).1 i).1, (run step s ins).2 ++ [(step (run step s ins).1 i).2]) :=
  run_append ins [i]

/-- What holds at the start and is kept by every admissible step holds after every run, also of
the inputs and outputs so far. -/
theorem run_invariant {P : ι → Prop} (I : List ι → σ → List ο → Prop) (init : I [] s [])
    (next : ∀ ins t outs i, P i → I ins t outs → I (ins ++ [i]) (step t i).1 (outs ++ [(step t i).2]))
    (ins : List ι) (hP : ∀ i ∈ ins, P i) : I ins (run step s ins).1 (run step s ins).2 := by
  induction ins using List.reverseRecOn with
  | nil => exact init
  | append_singleton ins i ih =>
    have hi : P i := hP i (by simp)
    have hins := ih fun j hj => hP j (by simp [hj])
    rw [run_concat]
    exact next ins _ _ i hi hins

/-- Every step of a run starts in a state that meets the condition on it. -/
def Along (step : σ → ι → σ × ο) (P : σ → ι → Prop) (s : σ) : List ι → Prop
  | [] => True
  | i :: ins => P s i ∧ Along step P (step s i).1 ins

instance Along.decidable {P : σ → ι → Prop} [∀ s i, Decidable (P s i)] :
    (s : σ) → (ins : List ι) → Decidable (Along step P s ins)
  | _, [] => .isTrue trivial
  | s, i :: ins =>
    have : Decidable (Along step P (step s i).1 ins) := Along.decidable (step s i).1 ins
    instDecidableAnd

section Along

variable {P : σ → ι → Prop}

@[simp] theorem along_nil : Along step P s [] := trivial

theorem along_append {ins ins' : List ι} :
    Along step P s (ins ++ ins') ↔ Along step P s ins ∧ Along step P (run step s ins).1 ins' := by
  induction ins generalizing s with
  | nil => simp
  | cons i ins ih =>
    rw [List.cons_append, run_cons]
    simp only [Along]
    rw [ih, and_assoc]

theorem along_concat {ins : List ι} {i : ι} :
    Along step P s (ins ++ [i]) ↔ Along step P s ins ∧ P (run step s ins).1 i := by
  rw [along_append]
  simp [Along]

theorem Along.and {Q : σ → ι → Prop} {ins : List ι} (hP : Along step P s ins) (hQ : Along step Q s ins) :
    Along step (fun s i => P s i ∧ Q s i) s ins := by
  induction ins generalizing s with
  | nil => trivial
  | cons i ins ih => exact ⟨⟨hP.1, hQ.1⟩, ih hP.2 hQ.2⟩

theorem along_of_mem {Q : ι → Prop} {ins : List ι} (h : ∀ i ∈ ins, Q i) :
    Along step (fun _ i => Q i) s ins := by
  induction ins generalizing s with
  | nil => trivial
  | cons i ins ih => exact ⟨h i List.mem_cons_self, ih fun j hj => h j (List.mem_cons_of_mem i hj)⟩

/-- A condition that asks less is met by the same runs. -/
theorem Along.mono {Q : σ → ι → Prop} (hPQ : ∀ s i, P s i → Q s i) {ins : List ι}
    (h : Along step P s ins) : Along step Q s ins := by
  induction ins generalizing s with
  | nil => trivial
  | cons i ins ih => exact ⟨hPQ _ _ h.1, ih h.2⟩

/-- What every admissible step keeps holds after a run of admissible steps. -/
theorem Along.keeps {I : σ → Prop} (next : ∀ s i, I s → P s i → I (step s i).1) {ins : List ι}
    (h : Along step P s ins) (init : I s) : I (run step s ins).1 := by
  induction ins generalizing s with
  | nil => exact init
  | cons i ins ih => exact ih h.2 (next s i init h.1)

/-- What an admissible step shows in a state that meets an invariant, a run of such steps shows at every
step. -/
theorem Along.always {I : σ → Prop} {Q : σ → ι → Prop}
    (next : ∀ s i, I s → P s i → Q s i ∧ I (step s i).1) {ins : List ι} (h : Along step P s ins)
    (init : I s) : Along step Q s ins := by
  induction ins generalizing s with
  | nil => trivial
  | cons i ins ih =>
    obtain ⟨hshown, hkept⟩ := next s i init h.1
    exact ⟨hshown, ih h.2 hkept⟩

/-- A run of admissible steps gives out what a function of each input says. -/
theorem Along.outputs {I : σ → Prop} {out : ι → ο}
    (next : ∀ s i, I s → P s i → I (step s i).1 ∧ (step s i).2 = out i) {ins : List ι}
    (h : Along step P s ins) (init : I s) : (run step s ins).2 = ins.map out := by
  induction ins generalizing s with
  | nil => rfl
  | cons i ins ih =>
    obtain ⟨hkeep, hout⟩ := next s i init h.1
    rw [run_cons, List.map_cons, ih h.2 hkeep, hout]

/-- Where a step keeps a property exactly when it meets a condition, and what is lost once stays lost,
the property holds after a run exactly when every step of it meets the condition. -/
theorem run_iff_along {I : σ → Prop} (init : I s)
    (next : ∀ s i, I (step s i).1 ↔ I s ∧ P s i) (ins : List ι) :
    I (run step s ins).1 ↔ Along step P s ins := by
  induction ins using List.reverseRecOn with
  | nil => simp [init]
  | append_singleton ins i ih => rw [run_concat, along_concat, next, ih]

/-- Where, in a state that meets `I`, a step meets `Q` and keeps `I` exactly when it meets the condition,
a run has `Q` at every step and `I` in every state exactly when every step of it meets the condition. -/
theorem always_iff_along {I : σ → Prop} {Q : σ → ι → Prop}
    (next : ∀ s i, I s → (Q s i ∧ I (step s i).1 ↔ P s i)) (init : I s) (ins : List ι) :
    (Along step Q s ins ∧ ∀ done, done <+: ins → I (run step s done).1) ↔ Along step P s ins := by
  induction ins generalizing s with
  | nil =>
    refine ⟨fun _ => trivial, fun _ => ⟨trivial, fun done hd => ?_⟩⟩
    rw [List.prefix_nil.mp hd]
    exact init
  | cons i ins ih =>
    constructor
    · rintro ⟨⟨hq, hqs⟩, hstates⟩
      have hnext : I (step s i).1 := hstates [i] (by simp)
      have hp : P s i := (next s i init).mp ⟨hq, hnext⟩
      refine ⟨hp, (ih hnext).mp ⟨hqs, fun done hd => ?_⟩⟩
      exact hstates (i :: done) (List.prefix_cons_inj i |>.mpr hd)
    · rintro ⟨hp, hps⟩
      obtain ⟨hq, hnext⟩ := (next s i init).mpr hp
      obtain ⟨hqs, hstates⟩ := (ih hnext).mpr hps
      refine ⟨⟨hq, hqs⟩, fun done hd => ?_⟩
      cases done with
      | nil => exact init
      | cons j done =>
        obtain ⟨rfl, hd'⟩ := List.cons_prefix_cons.mp hd
        exact hstates done hd'

end Along

end Run
