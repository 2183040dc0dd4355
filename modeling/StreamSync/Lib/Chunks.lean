import Mathlib.Data.List.Basic

namespace Chunks

/-- Division rounded up. -/
def divCeil (a b : Nat) : Nat := (a + b - 1) / b

variable {α : Type}

/-- The list cut into pieces of the given size, the last one possibly shorter. -/
def chunks (size : Nat) (xs : List α) : List (List α) :=
  (List.range (divCeil xs.length size)).map fun i => (xs.drop (i * size)).take size

theorem le_divCeil_mul {a b : Nat} (hb : 0 < b) : a ≤ divCeil a b * b := by
  have hlt : a + b - 1 < ((a + b - 1) / b + 1) * b := Nat.lt_mul_of_div_lt (Nat.lt_succ_self _) hb
  rw [Nat.add_mul, Nat.one_mul] at hlt
  rw [divCeil]
  omega

theorem divCeil_pos {a b : Nat} (ha : 0 < a) (hb : 0 < b) : 0 < divCeil a b :=
  Nat.div_pos (by omega) hb

theorem length_chunks (size : Nat) (xs : List α) :
    (chunks size xs).length = divCeil xs.length size := by
  simp [chunks]

theorem chunks_ne_nil {size : Nat} (hs : 0 < size) {xs : List α} (hx : xs ≠ []) :
    chunks size xs ≠ [] := by
  rw [← List.length_pos_iff, length_chunks]
  exact divCeil_pos (List.length_pos_iff.mpr hx) hs

theorem length_chunk_le {size : Nat} {xs chunk : List α} (h : chunk ∈ chunks size xs) :
    chunk.length ≤ size := by
  obtain ⟨i, -, rfl⟩ := List.mem_map.mp h
  exact List.length_take_le _ _

theorem flatten_windows (size : Nat) (xs : List α) (k : Nat) :
    ((List.range k).map fun i => (xs.drop (i * size)).take size).flatten = xs.take (k * size) := by
  induction k with
  | zero => simp
  | succ k ih =>
    rw [List.range_succ, List.map_append, List.flatten_append, ih, Nat.succ_mul, List.take_add]
    simp

/-- Nothing is lost and nothing is repeated. -/
theorem flatten_chunks {size : Nat} (hs : 0 < size) (xs : List α) : (chunks size xs).flatten = xs := by
  rw [chunks, flatten_windows]
  exact List.take_of_length_le (le_divCeil_mul hs)

end Chunks
