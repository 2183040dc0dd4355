import Mathlib.Data.Finset.Range
import Mathlib.Data.List.Induction

namespace Assembly

/-- The parts collected so far of a whole of `n` parts, once part `i` has come; the whole starts
over when all are there. -/
def collect (n : Nat) (s : Finset Nat) (i : Nat) : Finset Nat :=
  if Finset.range n ⊆ insert i s then ∅ else insert i s

def completes (n : Nat) (s : Finset Nat) (i : Nat) : Prop := Finset.range n ⊆ insert i s

instance (n : Nat) (s : Finset Nat) (i : Nat) : Decidable (completes n s i) :=
  inferInstanceAs (Decidable (Finset.range n ⊆ insert i s))

/-- The parts that are there after `parts` came, in order, to what was there before. -/
def pendingFrom (n : Nat) (s : Finset Nat) (parts : List Nat) : Finset Nat := parts.foldl (collect n) s

/-- How often the parts complete a whole. -/
def roundsFrom (n : Nat) : Finset Nat → List Nat → Nat
  | _, [] => 0
  | s, i :: parts => (if completes n s i then 1 else 0) + roundsFrom n (collect n s i) parts

def pending (n : Nat) (parts : List Nat) : Finset Nat := pendingFrom n ∅ parts

def rounds (n : Nat) (parts : List Nat) : Nat := roundsFrom n ∅ parts

theorem collect_of_completes {n i : Nat} {s : Finset Nat} (h : completes n s i) : collect n s i = ∅ :=
  if_pos h

theorem collect_of_not_completes {n i : Nat} {s : Finset Nat} (h : ¬completes n s i) :
    collect n s i = insert i s := if_neg h

theorem roundsFrom_append (n : Nat) (s : Finset Nat) (parts parts' : List Nat) :
    roundsFrom n s (parts ++ parts') =
      roundsFrom n s parts + roundsFrom n (pendingFrom n s parts) parts' := by
  induction parts generalizing s with
  | nil => simp [roundsFrom, pendingFrom]
  | cons i parts ih =>
    rw [List.cons_append, roundsFrom, ih, roundsFrom, Nat.add_assoc]
    rfl

theorem pendingFrom_append (n : Nat) (s : Finset Nat) (parts parts' : List Nat) :
    pendingFrom n s (parts ++ parts') = pendingFrom n (pendingFrom n s parts) parts' :=
  List.foldl_append

theorem rounds_concat (n : Nat) (parts : List Nat) (i : Nat) :
    rounds n (parts ++ [i]) = rounds n parts + if completes n (pending n parts) i then 1 else 0 :=
  roundsFrom_append n ∅ parts [i]

theorem pending_concat (n : Nat) (parts : List Nat) (i : Nat) :
    pending n (parts ++ [i]) = collect n (pending n parts) i :=
  pendingFrom_append n ∅ parts [i]

/-- Every part has come. -/
def Covers (n : Nat) (parts : List Nat) : Prop := ∀ i < n, i ∈ parts

instance (n : Nat) (parts : List Nat) : Decidable (Covers n parts) :=
  inferInstanceAs (Decidable (∀ i < n, i ∈ parts))

theorem covers_iff_subset {n : Nat} {parts : List Nat} :
    Covers n parts ↔ Finset.range n ⊆ parts.toFinset := by
  simp [Covers, Finset.subset_iff]

theorem toFinset_concat (parts : List Nat) (i : Nat) : (parts ++ [i]).toFinset = insert i parts.toFinset := by
  ext j
  simp only [List.mem_toFinset, List.mem_append, List.mem_singleton, Finset.mem_insert, or_comm]

/-- As long as a part is missing nothing is completed and everything is kept. -/
theorem incomplete {n : Nat} {parts : List Nat} (h : ¬Covers n parts) :
    rounds n parts = 0 ∧ pending n parts = parts.toFinset := by
  induction parts using List.reverseRecOn with
  | nil => exact ⟨rfl, rfl⟩
  | append_singleton parts i ih =>
    have hsub : ¬Covers n parts := fun hc => h fun j hj => List.mem_append_left _ (hc j hj)
    obtain ⟨hr, hp⟩ := ih hsub
    have hnot : ¬completes n (pending n parts) i := by
      rw [completes, hp, ← toFinset_concat, ← covers_iff_subset]
      exact h
    refine ⟨?_, ?_⟩
    · rw [rounds_concat, hr, if_neg hnot]
    · rw [pending_concat, collect_of_not_completes hnot, hp, toFinset_concat]

/-- The first time that all parts are there completes the one whole and leaves nothing. -/
theorem first_complete {n : Nat} {parts : List Nat} {i : Nat} (h : ¬Covers n parts)
    (hc : Covers n (parts ++ [i])) :
    completes n (pending n parts) i ∧ rounds n (parts ++ [i]) = 1 ∧ pending n (parts ++ [i]) = ∅ := by
  obtain ⟨hr, hp⟩ := incomplete h
  have hnow : completes n (pending n parts) i := by
    rw [completes, hp, ← toFinset_concat]
    exact covers_iff_subset.mp hc
  refine ⟨hnow, ?_, ?_⟩
  · rw [rounds_concat, hr, if_pos hnow]
  · rw [pending_concat, collect_of_completes hnow]

/-- No part comes after the whole was complete for the first time. -/
def NoneAfterComplete (n : Nat) (parts : List Nat) : Prop :=
  ∀ earlier later, parts = earlier ++ later → later ≠ [] → ¬Covers n earlier

theorem Covers.of_prefix {n : Nat} {earlier parts : List Nat} (h : earlier <+: parts)
    (hc : Covers n earlier) : Covers n parts :=
  fun i hi => h.subset (hc i hi)

theorem noneAfterComplete_of_dropLast {n : Nat} {parts : List Nat} (h : ¬Covers n parts.dropLast) :
    NoneAfterComplete n parts := by
  intro earlier later he hne hc
  have hd : earlier <+: parts.dropLast := by
    rw [he, List.dropLast_append_of_ne_nil hne]
    exact List.prefix_append earlier later.dropLast
  exact h (hc.of_prefix hd)

/-- Without late parts the whole is completed once when all parts came, and never otherwise. -/
theorem rounds_of_noneAfterComplete {n : Nat} {parts : List Nat} (hn : 0 < n)
    (h : NoneAfterComplete n parts) :
    rounds n parts ≤ 1 ∧ (Covers n parts → rounds n parts = 1 ∧ pending n parts = ∅) := by
  by_cases hc : Covers n parts
  · cases parts using List.reverseRecOn with
    | nil => exact absurd (hc 0 hn) (by simp)
    | append_singleton parts i =>
      have hbefore : ¬Covers n parts := h parts [i] rfl (by simp)
      obtain ⟨-, hr, hp⟩ := first_complete hbefore hc
      exact ⟨hr.le, fun _ => ⟨hr, hp⟩⟩
  · exact ⟨by rw [(incomplete hc).1]; omega, fun hc' => absurd hc' hc⟩

end Assembly
