import Mathlib.Data.List.Basic

namespace PipeReading

/-- What the reads on a pipe meet in turn. -/
inductive Delivery (α ε : Type) where
  | piece (xs : List α)
  | error (e : ε)
deriving DecidableEq

/-- A pipe by what it still delivers. A read behind that blocks while the pipe is held open, and else
finds the end of the stream. -/
structure Pipe (α ε : Type) where
  deliveries : List (Delivery α ε)
  heldOpen : Bool
deriving DecidableEq

inductive Ending (ε : Type) where
  | done | blocked
  | failed (e : ε)
deriving DecidableEq

/-- What a loop of reads got, how it ended and what it left. -/
structure Reading (α ε : Type) where
  got : List α
  ending : Ending ε
  rest : List (Delivery α ε)

variable {α ε : Type}

/-- How a read that finds nothing more ends. -/
def atEnd (heldOpen : Bool) : Ending ε := if heldOpen then .blocked else .done

/-- Reads until there are `limit` elements or the stream ends. A read whose error is one to try again on
is repeated. -/
def readUpTo (again : ε → Bool) (heldOpen : Bool) : List (Delivery α ε) → Nat → Reading α ε
  | deliveries, 0 => ⟨[], .done, deliveries⟩
  | [], _ + 1 => ⟨[], atEnd heldOpen, []⟩
  | .piece xs :: deliveries, limit + 1 =>
    if limit + 1 < xs.length then
      ⟨xs.take (limit + 1), .done, .piece (xs.drop (limit + 1)) :: deliveries⟩
    else
      let later := readUpTo again heldOpen deliveries (limit + 1 - xs.length)
      { later with got := xs ++ later.got }
  | .error e :: deliveries, limit + 1 =>
    if again e then readUpTo again heldOpen deliveries (limit + 1) else ⟨[], .failed e, deliveries⟩

/-- Reads until the stream ends. -/
def readOut (heldOpen : Bool) : List (Delivery α ε) → Reading α ε
  | [] => ⟨[], atEnd heldOpen, []⟩
  | .piece xs :: deliveries =>
    let later := readOut heldOpen deliveries
    { later with got := xs ++ later.got }
  | .error e :: deliveries => ⟨[], .failed e, deliveries⟩

section Pieces

variable {again : ε → Bool} {heldOpen : Bool}

/-- Pieces that hold enough give exactly what is wanted and keep what is behind it. -/
theorem readUpTo_enough (again : ε → Bool) (heldOpen : Bool) {pieces : List (List α)} {limit : Nat}
    (h : limit ≤ pieces.flatten.length) :
    ∃ later : List (List α), readUpTo again heldOpen (pieces.map .piece) limit =
        ⟨pieces.flatten.take limit, .done, later.map .piece⟩ ∧ later.flatten = pieces.flatten.drop limit := by
  induction pieces generalizing limit with
  | nil =>
    obtain rfl : limit = 0 := Nat.le_zero.mp h
    exact ⟨[], rfl, rfl⟩
  | cons xs pieces ih =>
    cases limit with
    | zero => exact ⟨xs :: pieces, rfl, rfl⟩
    | succ limit =>
      rw [List.flatten_cons, List.length_append] at h
      rw [List.flatten_cons, List.map_cons, readUpTo]
      split
      next hlong =>
        refine ⟨xs.drop (limit + 1) :: pieces, ?_, ?_⟩
        · rw [List.take_append_of_le_length (Nat.le_of_lt hlong)]
          rfl
        · rw [List.flatten_cons, List.drop_append_of_le_length (Nat.le_of_lt hlong)]
      next hshort =>
        have hlen : xs.length ≤ limit + 1 := Nat.le_of_not_lt hshort
        have hless : limit + 1 - xs.length ≤ pieces.flatten.length := by omega
        obtain ⟨later, hread, hlater⟩ := ih hless
        refine ⟨later, ?_, ?_⟩
        · rw [hread, List.take_append, List.take_of_length_le hlen]
        · rw [hlater, List.drop_append, List.drop_of_length_le hlen, List.nil_append]

/-- Pieces that hold too little give all they have. -/
theorem readUpTo_short {pieces : List (List α)} {limit : Nat} (h : pieces.flatten.length < limit) :
    readUpTo again heldOpen (pieces.map .piece) limit = ⟨pieces.flatten, atEnd heldOpen, []⟩ := by
  induction pieces generalizing limit with
  | nil =>
    obtain ⟨limit, rfl⟩ := Nat.exists_eq_add_of_lt h
    rfl
  | cons xs pieces ih =>
    rw [List.flatten_cons, List.length_append] at h
    cases limit with
    | zero => exact absurd h (Nat.not_lt_zero _)
    | succ limit =>
      rw [List.map_cons, readUpTo, if_neg (by omega), ih (by omega)]
      rfl

theorem readOut_pieces (pieces : List (List α)) :
    readOut heldOpen (pieces.map (.piece (ε := ε))) = ⟨pieces.flatten, atEnd heldOpen, []⟩ := by
  induction pieces with
  | nil => rfl
  | cons xs pieces ih =>
    rw [List.map_cons, readOut, ih]
    rfl

end Pieces

/-- A pipe that is closed in the end lets every loop of reads end. -/
theorem readUpTo_closed (again : ε → Bool) (deliveries : List (Delivery α ε)) (limit : Nat) :
    (readUpTo again false deliveries limit).ending ≠ .blocked := by
  induction deliveries generalizing limit with
  | nil => cases limit <;> simp [readUpTo, atEnd]
  | cons delivery deliveries ih =>
    cases limit with
    | zero => simp [readUpTo]
    | succ limit =>
      cases delivery with
      | piece xs =>
        rw [readUpTo]
        split
        next => simp
        next => exact ih _
      | error e =>
        rw [readUpTo]
        split
        next => exact ih _
        next => simp

theorem readOut_closed (deliveries : List (Delivery α ε)) : (readOut false deliveries).ending ≠ .blocked := by
  induction deliveries with
  | nil => simp [readOut, atEnd]
  | cons delivery deliveries ih =>
    cases delivery with
    | piece xs => exact ih
    | error e => simp [readOut]

end PipeReading
