import Mathlib.Init

namespace BoundedQueue

variable {α : Type}

/-- A queue that takes an item while it holds fewer than its capacity, and drops it otherwise. -/
def push (capacity : Nat) (queue : List α) (item : α) : List α :=
  if queue.length < capacity then queue ++ [item] else queue

def pushAll (capacity : Nat) (queue items : List α) : List α := items.foldl (push capacity) queue

variable {capacity : Nat} {queue : List α}

theorem push_of_lt (h : queue.length < capacity) (item : α) :
    push capacity queue item = queue ++ [item] := if_pos h

theorem push_of_full (h : capacity ≤ queue.length) (item : α) : push capacity queue item = queue :=
  if_neg (by omega)

@[simp] theorem pushAll_nil (capacity : Nat) (queue : List α) : pushAll capacity queue [] = queue := rfl

@[simp] theorem pushAll_cons (item : α) (items : List α) :
    pushAll capacity queue (item :: items) = pushAll capacity (push capacity queue item) items := rfl

theorem pushAll_eq (capacity : Nat) (queue items : List α) :
    pushAll capacity queue items = queue ++ items.take (capacity - queue.length) := by
  induction items generalizing queue with
  | nil => simp
  | cons item items ih =>
    rw [pushAll_cons, ih]
    by_cases h : queue.length < capacity
    · obtain ⟨room, hroom⟩ : ∃ room, capacity - queue.length = room + 1 := ⟨capacity - queue.length - 1, by omega⟩
      have hless : capacity - (queue ++ [item]).length = room := by
        rw [List.length_append, List.length_singleton]
        omega
      rw [push_of_lt h, hless, hroom, List.take_succ_cons, List.append_assoc]
      rfl
    · have hnone : capacity - queue.length = 0 := by omega
      rw [push_of_full (by omega), hnone]
      rfl

theorem length_pushAll_le (capacity : Nat) (queue items : List α) :
    (pushAll capacity queue items).length ≤ max queue.length capacity := by
  rw [pushAll_eq, List.length_append, List.length_take]
  omega

/-- An item that comes while there is room is among those that find it. -/
theorem mem_take_of_room {before after : List α} {item : α}
    (h : (pushAll capacity queue before).length < capacity) :
    item ∈ (before ++ item :: after).take (capacity - queue.length) := by
  rw [pushAll_eq, List.length_append, List.length_take] at h
  obtain ⟨room, hroom⟩ : ∃ room, capacity - queue.length - before.length = room + 1 :=
    ⟨capacity - queue.length - before.length - 1, by omega⟩
  rw [List.take_append, hroom, List.take_succ_cons]
  exact List.mem_append_right _ List.mem_cons_self

end BoundedQueue
