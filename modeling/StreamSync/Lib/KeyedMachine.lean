import Mathlib.Data.List.Basic
import StreamSync.Lib.Run

namespace Run

/-- A machine whose inputs are keyed, and where an input touches the view of its own key only, as
a machine of that view alone would. -/
structure KeyedMachine (σ ι ο κ ν ω : Type) where
  step : σ → ι → σ × ο
  key : ι → κ
  view : σ → κ → ν
  localStep : ν → ι → ν × ω
  observe : ο → ω
  view_same : ∀ s i, view (step s i).1 (key i) = (localStep (view s (key i)) i).1
  view_other : ∀ s i k, key i ≠ k → view (step s i).1 k = view s k
  observe_step : ∀ s i, observe (step s i).2 = (localStep (view s (key i)) i).2

namespace KeyedMachine

variable {σ ι ο κ ν ω : Type} [DecidableEq κ] (m : KeyedMachine σ ι ο κ ν ω)

/-- The inputs of one key, in order. -/
def inputsOf (k : κ) (ins : List ι) : List ι := ins.filter fun i => m.key i = k

/-- What is observed of the outputs to the inputs of one key, in order. -/
def outputsOf (k : κ) (ins : List ι) (outs : List ο) : List ω :=
  ((ins.zip outs).filter fun p => m.key p.1 = k).map fun p => m.observe p.2

theorem inputsOf_cons_same {k : κ} {i : ι} (ins : List ι) (h : m.key i = k) :
    m.inputsOf k (i :: ins) = i :: m.inputsOf k ins := by
  simp [inputsOf, h]

theorem inputsOf_cons_other {k : κ} {i : ι} (ins : List ι) (h : m.key i ≠ k) :
    m.inputsOf k (i :: ins) = m.inputsOf k ins := by
  simp [inputsOf, h]

theorem inputsOf_append (k : κ) (ins ins' : List ι) :
    m.inputsOf k (ins ++ ins') = m.inputsOf k ins ++ m.inputsOf k ins' := by
  simp [inputsOf]

theorem mem_inputsOf {k : κ} {i : ι} {ins : List ι} : i ∈ m.inputsOf k ins ↔ i ∈ ins ∧ m.key i = k := by
  simp [inputsOf]

/-- The view of a key after a run is the local run over the inputs of that key. -/
theorem view_run (s : σ) (ins : List ι) (k : κ) :
    m.view (run m.step s ins).1 k = (run m.localStep (m.view s k) (m.inputsOf k ins)).1 := by
  induction ins generalizing s with
  | nil => rfl
  | cons i ins ih =>
    rw [run_cons, ih]
    by_cases h : m.key i = k
    · subst h
      rw [m.view_same, m.inputsOf_cons_same ins rfl, run_cons]
    · rw [m.view_other s i k h, m.inputsOf_cons_other ins h]

/-- What is observed of the outputs of a key is the output of the local run. -/
theorem outputs_run (s : σ) (ins : List ι) (k : κ) :
    m.outputsOf k ins (run m.step s ins).2 = (run m.localStep (m.view s k) (m.inputsOf k ins)).2 := by
  induction ins generalizing s with
  | nil => rfl
  | cons i ins ih =>
    have hrest := ih (m.step s i).1
    by_cases h : m.key i = k
    · subst h
      rw [m.view_same] at hrest
      rw [m.inputsOf_cons_same ins rfl, run_cons, run_cons, ← hrest]
      simp [outputsOf, m.observe_step]
    · rw [m.view_other s i k h] at hrest
      rw [m.inputsOf_cons_other ins h, run_cons, ← hrest]
      simp [outputsOf, h]

/-- What is read off the observed outputs of a key is what names that key among all outputs, when
it always names the key of its input. -/
theorem outputsOf_filterMap {γ : Type} (pick : ω → Option γ) (keyOf : γ → κ)
    (named : ∀ v i c, pick (m.localStep v i).2 = some c → keyOf c = m.key i)
    (s : σ) (ins : List ι) (k : κ) :
    (m.outputsOf k ins (run m.step s ins).2).filterMap pick =
      ((run m.step s ins).2.filterMap fun out => pick (m.observe out)).filter fun c => keyOf c = k := by
  induction ins generalizing s with
  | nil => rfl
  | cons i ins ih =>
    have hrest := ih (m.step s i).1
    have hout := m.observe_step s i
    rw [run_cons, List.filterMap_cons]
    cases hp : pick (m.observe (m.step s i).2) with
    | none =>
      rw [← hrest]
      by_cases h : m.key i = k <;> simp [outputsOf, h, hp]
    | some c =>
      have hc : keyOf c = m.key i := named _ i c (hout ▸ hp)
      rw [List.filter_cons, ← hrest, hc]
      by_cases h : m.key i = k <;> simp [outputsOf, h, hp]

/-- Inputs of other keys make no difference to the view of a key. -/
theorem view_run_eq_of_inputs {s t : σ} {ins ins' : List ι} {k : κ} (hv : m.view s k = m.view t k)
    (hi : m.inputsOf k ins = m.inputsOf k ins') :
    m.view (run m.step s ins).1 k = m.view (run m.step t ins').1 k := by
  rw [m.view_run, m.view_run, hv, hi]

end KeyedMachine

end Run
