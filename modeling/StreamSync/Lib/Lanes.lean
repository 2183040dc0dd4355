import Mathlib.Data.List.Basic
import Mathlib.Data.List.Perm.Basic

namespace Lanes

section Lane

variable {α κ : Type} [DecidableEq κ] (tag : α → κ)

/-- The entries that carry the tag `k`, in order. -/
def lane (k : κ) (xs : List α) : List α := xs.filter fun x => tag x = k

@[simp] theorem lane_nil (k : κ) : lane tag k [] = [] := rfl

@[simp] theorem lane_append (k : κ) (xs ys : List α) :
    lane tag k (xs ++ ys) = lane tag k xs ++ lane tag k ys := by
  simp [lane]

theorem lane_cons (k : κ) (x : α) (xs : List α) :
    lane tag k (x :: xs) = lane tag k [x] ++ lane tag k xs := lane_append tag k [x] xs

theorem lane_singleton_self (x : α) : lane tag (tag x) [x] = [x] := by
  simp [lane]

theorem lane_singleton_ne {k : κ} {x : α} (h : tag x ≠ k) : lane tag k [x] = [] := by
  simp [lane, h]

theorem mem_lane {k : κ} {x : α} {xs : List α} : x ∈ lane tag k xs ↔ x ∈ xs ∧ tag x = k := by
  simp [lane]

/-- Taking the first entry of a lane out of the whole list takes the head off that lane only. -/
theorem lane_eraseP {k : κ} {x : α} {xs : List α} (h : xs.find? (fun x => tag x = k) = some x)
    (j : κ) : lane tag j xs = lane tag j [x] ++ lane tag j (xs.eraseP fun x => tag x = k) := by
  induction xs with
  | nil => cases h
  | cons y ys ih =>
    by_cases hy : tag y = k
    · rw [List.find?_cons_of_pos (by simpa using hy)] at h
      cases Option.some.inj h
      rw [List.eraseP_cons_of_pos (by simpa using hy), ← lane_cons]
    · rw [List.find?_cons_of_neg (by simpa using hy)] at h
      have hx : tag x = k := by simpa using List.find?_some h
      rw [List.eraseP_cons_of_neg (by simpa using hy), lane_cons tag j y, ih h,
        lane_cons tag j y (ys.eraseP _)]
      by_cases hj : tag y = j
      · have hn : tag x ≠ j := fun he => hy (hj.trans (he.symm.trans hx))
        rw [lane_singleton_ne tag hn, List.nil_append, List.nil_append]
      · rw [lane_singleton_ne tag hj, List.nil_append, List.nil_append]

end Lane

section Ledger

variable {ω α κ : Type} [DecidableEq κ]

/-- One event of a store with lanes: an entry comes in, or leaves for a reason. -/
inductive Move (ω α : Type) where
  | enter (entry : α)
  | leave (reason : ω) (entry : α)

def entered : List (Move ω α) → List α :=
  List.filterMap fun
    | .enter entry => some entry
    | .leave _ _ => none

/-- What left, in the order of leaving, with the reason of each. -/
def departures : List (Move ω α) → List (ω × α) :=
  List.filterMap fun
    | .enter _ => none
    | .leave reason entry => some (reason, entry)

def left (log : List (Move ω α)) : List α := (departures log).map Prod.snd

def leftFor [DecidableEq ω] (reason : ω) (log : List (Move ω α)) : List α :=
  ((departures log).filter fun d => d.1 = reason).map Prod.snd

@[simp] theorem entered_append (log log' : List (Move ω α)) :
    entered (log ++ log') = entered log ++ entered log' := List.filterMap_append

@[simp] theorem departures_append (log log' : List (Move ω α)) :
    departures (log ++ log') = departures log ++ departures log' := List.filterMap_append

@[simp] theorem left_append (log log' : List (Move ω α)) :
    left (log ++ log') = left log ++ left log' := by
  simp [left]

theorem leftFor_sublist [DecidableEq ω] (reason : ω) (log : List (Move ω α)) :
    List.Sublist (leftFor reason log) (left log) :=
  List.filter_sublist.map _

/-- In every lane, what came in is what left, in that order, and then what is still there. -/
def Ledger (tag : α → κ) (log : List (Move ω α)) (present : κ → List α) : Prop :=
  ∀ k, lane tag k (entered log) = lane tag k (left log) ++ present k

variable {tag : α → κ} {log : List (Move ω α)} {present : κ → List α}

theorem ledger_nil (h : ∀ k, present k = []) : Ledger tag ([] : List (Move ω α)) present := by
  intro k
  rw [h k]
  rfl

/-- A step keeps the ledger when it balances in every lane. -/
theorem Ledger.step {moves : List (Move ω α)} {present' : κ → List α} (h : Ledger tag log present)
    (hs : ∀ k, present k ++ lane tag k (entered moves) = lane tag k (left moves) ++ present' k) :
    Ledger tag (log ++ moves) present' := by
  intro k
  calc lane tag k (entered (log ++ moves))
      = lane tag k (left log) ++ (present k ++ lane tag k (entered moves)) := by
        rw [entered_append, lane_append, h k, List.append_assoc]
    _ = lane tag k (left (log ++ moves)) ++ present' k := by
        rw [hs k, left_append, lane_append, List.append_assoc]

theorem Ledger.perm (h : Ledger tag log present) (k : κ) :
    (lane tag k (entered log)).Perm (present k ++ lane tag k (left log)) := by
  rw [h k]
  exact List.perm_append_comm

theorem Ledger.inOrder [DecidableEq ω] (h : Ledger tag log present) (reason : ω) (k : κ) :
    List.Sublist (lane tag k (leftFor reason log) ++ present k) (lane tag k (entered log)) := by
  rw [h k]
  exact ((leftFor_sublist reason log).filter _).append_right _

end Ledger

end Lanes
