import StreamSync.Lib.Run

namespace Run

variable {σ ι ο κ β : Type} (write : ι → Option β) (key : β → κ)

/-- One of the inputs wrote the value, and no later one wrote to its key. -/
def LatestWrite (ins : List ι) (b : β) : Prop :=
  ∃ earlier i later, ins = earlier ++ i :: later ∧ write i = some b ∧
    ∀ j ∈ later, ∀ c, write j = some c → key c ≠ key b

variable {write key}

theorem LatestWrite.of_write {i : ι} {b : β} (h : write i = some b) (ins : List ι) :
    LatestWrite write key (ins ++ [i]) b :=
  ⟨ins, i, [], rfl, h, by simp⟩

theorem LatestWrite.concat {ins : List ι} {b : β} (h : LatestWrite write key ins b) {i : ι}
    (hi : ∀ c, write i = some c → key c ≠ key b) : LatestWrite write key (ins ++ [i]) b := by
  obtain ⟨earlier, first, later, rfl, hw, hlater⟩ := h
  refine ⟨earlier, first, later ++ [i], by simp, hw, ?_⟩
  intro j hj c hc
  rcases List.mem_append.mp hj with hj | hj
  · exact hlater j hj c hc
  · exact hi c (List.mem_singleton.mp hj ▸ hc)

/-- What an input wrote to a cell, or else what the cell held. -/
def written [DecidableEq κ] (write : ι → Option β) (key : β → κ) (i : ι) (k : κ) (old : Option β) :
    Option β :=
  ((write i).filter fun b => key b = k).or old

theorem written_eq_some_iff [DecidableEq κ] {i : ι} {k : κ} {old : Option β} {b : β} :
    written write key i k old = some b ↔
      (write i = some b ∧ key b = k) ∨ (old = some b ∧ ∀ c, write i = some c → key c ≠ k) := by
  unfold written
  cases write i with
  | none => simp
  | some c =>
    by_cases hc : key c = k
    · simp [Option.filter, hc]
      rintro rfl
      exact hc
    · simp [Option.filter, hc]
      rintro rfl h
      exact absurd h hc

/-- A cell that a step leaves as it was, empties, or writes to holds what the latest write put
there. -/
theorem latestWrite_run [DecidableEq κ] {step : σ → ι → σ × ο} {s : σ} (view : σ → κ → Option β)
    (init : ∀ k, view s k = none)
    (next : ∀ t i k b, view (step t i).1 k = some b → written write key i k (view t k) = some b)
    (ins : List ι) (k : κ) (b : β) (h : view (run step s ins).1 k = some b) :
    key b = k ∧ LatestWrite write key ins b := by
  refine run_invariant (P := fun _ => True) (fun ins (t : σ) (_ : List ο) =>
    ∀ k b, view t k = some b → key b = k ∧ LatestWrite write key ins b)
    ?_ ?_ ins (fun _ _ => trivial) k b h
  · intro k b hb
    rw [init k] at hb
    cases hb
  · intro ins t _ i _ ih k b hb
    rcases written_eq_some_iff.mp (next t i k b hb) with ⟨hw, hk⟩ | ⟨hold, hother⟩
    · exact ⟨hk, .of_write hw ins⟩
    · obtain ⟨hk, hlatest⟩ := ih k b hold
      exact ⟨hk, hlatest.concat fun c hc => hk ▸ hother c hc⟩

/-- What a cell holds after inputs that did not write to it, it held before them. -/
theorem unwritten_run [DecidableEq κ] {step : σ → ι → σ × ο} {s : σ} (view : σ → κ → Option β)
    (next : ∀ t i k b, view (step t i).1 k = some b → written write key i k (view t k) = some b)
    {ins : List ι} {k : κ} {b : β} (hins : ∀ i ∈ ins, ∀ c, write i = some c → key c ≠ k)
    (h : view (run step s ins).1 k = some b) : view s k = some b := by
  induction ins generalizing s with
  | nil => exact h
  | cons i ins ih =>
    have hafter : view (step s i).1 k = some b := ih (fun j hj => hins j (by simp [hj])) h
    rcases written_eq_some_iff.mp (next s i k b hafter) with ⟨hw, hk⟩ | ⟨hold, -⟩
    · exact absurd hk (hins i (by simp) b hw)
    · exact hold

section Stateful

variable {step : σ → ι → σ × ο} {s : σ} {write : σ → ι → Option β}

/-- One of the inputs wrote the value in the state it met, and no later one wrote to its key in the
state that one met. -/
def LatestWriteAt (step : σ → ι → σ × ο) (s : σ) (write : σ → ι → Option β) (key : β → κ)
    (ins : List ι) (b : β) : Prop :=
  ∃ earlier i later, ins = earlier ++ i :: later ∧ write (run step s earlier).1 i = some b ∧
    ∀ mid j rest c, later = mid ++ j :: rest → write (run step s (earlier ++ i :: mid)).1 j = some c →
      key c ≠ key b

theorem LatestWriteAt.of_write {ins : List ι} {i : ι} {b : β}
    (h : write (run step s ins).1 i = some b) : LatestWriteAt step s write key (ins ++ [i]) b := by
  refine ⟨ins, i, [], rfl, h, ?_⟩
  intro mid j rest c hlater
  simp at hlater

theorem LatestWriteAt.concat {ins : List ι} {b : β} (h : LatestWriteAt step s write key ins b) {i : ι}
    (hi : ∀ c, write (run step s ins).1 i = some c → key c ≠ key b) :
    LatestWriteAt step s write key (ins ++ [i]) b := by
  obtain ⟨earlier, first, later, rfl, hw, hlater⟩ := h
  refine ⟨earlier, first, later ++ [i], by simp, hw, ?_⟩
  intro mid j rest c hsplit hc
  rcases rest.eq_nil_or_concat with rfl | ⟨rest, last, rfl⟩
  · obtain ⟨rfl, hij⟩ := List.append_inj' hsplit rfl
    cases hij
    exact hi c hc
  · have hsplit' : later ++ [i] = (mid ++ j :: rest) ++ [last] := by simpa using hsplit
    obtain ⟨hmid, -⟩ := List.append_inj' hsplit' rfl
    exact hlater mid j rest c hmid hc

/-- The cells of a machine whose writes depend on its state hold what the latest write put there. -/
theorem latestWriteAt_run [DecidableEq κ] (view : σ → κ → Option β) (init : ∀ k, view s k = none)
    (next : ∀ t i k b, view (step t i).1 k = some b → written (write t) key i k (view t k) = some b)
    (ins : List ι) (k : κ) (b : β) (h : view (run step s ins).1 k = some b) :
    key b = k ∧ LatestWriteAt step s write key ins b := by
  induction ins using List.reverseRecOn generalizing k b with
  | nil =>
    rw [run_nil, init k] at h
    cases h
  | append_singleton ins i ih =>
    rw [run_concat] at h
    rcases written_eq_some_iff.mp (next _ i k b h) with ⟨hw, hk⟩ | ⟨hold, hother⟩
    · exact ⟨hk, .of_write hw⟩
    · obtain ⟨hk, hlatest⟩ := ih k b hold
      exact ⟨hk, hlatest.concat fun c hc => hk ▸ hother c hc⟩

end Stateful

end Run
