import Mathlib.Data.List.Infix

namespace BlockStream

variable {α : Type} {length : Nat}

/-- The first blocks of a sequence, one behind the other. -/
def stream (blocks : Nat → Vector α length) (n : Nat) : List α :=
  (List.range n).flatMap fun i => (blocks i).toList

variable (blocks : Nat → Vector α length)

theorem stream_succ (n : Nat) : stream blocks (n + 1) = stream blocks n ++ (blocks n).toList := by
  simp [stream, List.range_succ]

theorem length_stream (n : Nat) : (stream blocks n).length = n * length := by
  induction n with
  | zero => simp [stream]
  | succ n ih => rw [stream_succ, List.length_append, ih, Vector.length_toList, Nat.succ_mul]

theorem prefix_stream {m n : Nat} (h : m ≤ n) : stream blocks m <+: stream blocks n := by
  induction n, h using Nat.le_induction with
  | base => exact List.prefix_refl _
  | succ n _ ih =>
    rw [stream_succ]
    exact ih.trans (List.prefix_append _ _)

variable {blocks}

/-- Bytes read behind the first blocks come from a block that the stream has. -/
theorem lt_of_prefix {n m : Nat} {part : List α} (hpart : 0 < part.length)
    (h : stream blocks n ++ part <+: stream blocks m) : n < m := by
  have hle := h.length_le
  rw [List.length_append, length_stream, length_stream] at hle
  exact Nat.lt_of_mul_lt_mul_right (a := length) (by omega)

/-- As many bytes as a block has, read behind the first blocks, are the next block, however they were
cut. -/
theorem eq_block_of_prefix {n m : Nat} {part : List α} (hlen : part.length = length)
    (h : stream blocks n ++ part <+: stream blocks m) : part = (blocks n).toList := by
  rcases Nat.eq_zero_or_pos length with hzero | hpos
  · have hpart : part = [] := List.length_eq_zero_iff.mp (hlen.trans hzero)
    have hblock : (blocks n).toList = [] := List.length_eq_zero_iff.mp (by rw [Vector.length_toList, hzero])
    rw [hpart, hblock]
  · have hnm : n < m := lt_of_prefix (hlen ▸ hpos) h
    have hnext : stream blocks n ++ (blocks n).toList <+: stream blocks m := by
      rw [← stream_succ]
      exact prefix_stream blocks hnm
    have hprefix : stream blocks n ++ part <+: stream blocks n ++ (blocks n).toList :=
      List.prefix_of_prefix_length_le h hnext (by simp [hlen])
    exact ((List.prefix_append_right_inj _).mp hprefix).eq_of_length (by simp [hlen])

end BlockStream
