import StreamSync.Lib.Framing

namespace Framing

variable {α : Type}

/-- No mark begins in the part of a mark that a cut leaves. -/
def Marker.CutClean (m : Marker α) : Prop :=
  ∀ {part rest : List α} {n : Nat}, m.mark part = none → m.mark (part ++ rest) = some n →
    ∀ later, later <:+ part → m.mark later = none

/-- What stands before the first mark, and from each mark on the piece up to the next one, with the length
of its mark. The first `skip` elements belong to a mark that began earlier. -/
def split (m : Marker α) (skip : Nat) : List α → List α × List (Nat × List α)
  | [] => ([], [])
  | x :: xs =>
    match skip with
    | skip + 1 => (x :: (split m skip xs).1, (split m skip xs).2)
    | 0 =>
      match m.mark (x :: xs) with
      | some length =>
        ([], (length, x :: (split m (length - 1) xs).1) :: (split m (length - 1) xs).2)
      | none => (x :: (split m 0 xs).1, (split m 0 xs).2)

def joined (pieces : List (Nat × List α)) : List α := (pieces.map Prod.snd).flatten

/-- The marks of pieces that stand one behind the other from the index on. -/
def pieceMarks (index : Nat) : List (Nat × List α) → List (Nat × Nat)
  | [] => []
  | (length, piece) :: pieces => (index, length) :: pieceMarks (index + piece.length) pieces

section Joined

@[simp] theorem joined_nil : joined ([] : List (Nat × List α)) = [] := rfl

@[simp] theorem joined_cons (piece : Nat × List α) (pieces : List (Nat × List α)) :
    joined (piece :: pieces) = piece.2 ++ joined pieces := rfl

theorem joined_append (pieces pieces' : List (Nat × List α)) :
    joined (pieces ++ pieces') = joined pieces ++ joined pieces' := by
  rw [joined, List.map_append, List.flatten_append]
  rfl

end Joined

section Split

variable {m : Marker α}

@[simp] theorem split_nil (skip : Nat) : split m skip ([] : List α) = ([], []) := rfl

theorem split_skip (skip : Nat) (x : α) (xs : List α) :
    split m (skip + 1) (x :: xs) = (x :: (split m skip xs).1, (split m skip xs).2) := rfl

theorem split_marked {x : α} {xs : List α} {n : Nat} (h : m.mark (x :: xs) = some n) :
    split m 0 (x :: xs) = ([], (n, x :: (split m (n - 1) xs).1) :: (split m (n - 1) xs).2) := by
  rw [split, h]

theorem split_unmarked {x : α} {xs : List α} (h : m.mark (x :: xs) = none) :
    split m 0 (x :: xs) = (x :: (split m 0 xs).1, (split m 0 xs).2) := by
  rw [split, h]

theorem joined_split (skip : Nat) (xs : List α) :
    (split m skip xs).1 ++ joined (split m skip xs).2 = xs := by
  induction xs generalizing skip with
  | nil => rfl
  | cons x xs ih =>
    cases skip with
    | succ skip => rw [split_skip, List.cons_append, ih]
    | zero =>
      cases h : m.mark (x :: xs) with
      | some n => rw [split_marked h, List.nil_append, joined_cons, List.cons_append, ih]
      | none => rw [split_unmarked h, List.cons_append, ih]

theorem split_clean {xs : List α} (h : ∀ later, later <:+ xs → m.mark later = none) :
    split m 0 xs = (xs, []) := by
  induction xs with
  | nil => rfl
  | cons x xs ih =>
    rw [split_unmarked (h _ (List.suffix_refl _)), ih fun later hl => h later (hl.trans (List.suffix_cons x xs))]

/-- From each of its pieces on, a list splits as it did before. -/
theorem split_later {skip : Nat} {xs : List α} {later : List (Nat × List α)}
    (h : later <:+ (split m skip xs).2) : split m 0 (joined later) = ([], later) := by
  induction xs generalizing skip with
  | nil =>
    rw [split_nil, List.suffix_nil] at h
    rw [h]
    rfl
  | cons x xs ih =>
    cases skip with
    | succ skip => exact ih h
    | zero =>
      cases hmark : m.mark (x :: xs) with
      | none =>
        rw [split_unmarked hmark] at h
        exact ih h
      | some n =>
        rw [split_marked hmark] at h
        rcases List.suffix_cons_iff.mp h with rfl | h
        · rw [joined_cons, List.cons_append, joined_split, split_marked hmark]
        · exact ih h

/-- What follows changes nothing before the last piece. -/
theorem split_append (hm : m.CutClean) {skip n : Nat} {xs before tail : List α}
    {closed : List (Nat × List α)} (h : split m skip xs = (before, closed ++ [(n, tail)])) (ys : List α) :
    split m skip (xs ++ ys) = (before, closed ++ (split m 0 (tail ++ ys)).2) := by
  induction xs generalizing skip before closed with
  | nil =>
    have hpieces : [] = closed ++ [(n, tail)] := congrArg Prod.snd h
    exact absurd hpieces.symm (List.append_ne_nil_of_right_ne_nil closed (List.cons_ne_nil _ _))
  | cons x xs ih =>
    cases skip with
    | succ skip =>
      rw [split_skip] at h
      obtain ⟨hbefore, hpieces⟩ := Prod.mk.inj h
      have hrest := ih (Prod.ext rfl hpieces)
      rw [List.cons_append, split_skip, hrest, ← hbefore]
    | zero =>
      cases hmark : m.mark (x :: xs) with
      | some length =>
        rw [split_marked hmark] at h
        obtain ⟨rfl, hpieces⟩ := Prod.mk.inj h
        have hmark' := m.mark_append ys hmark
        rw [List.cons_append] at hmark'
        cases closed with
        | nil =>
          obtain ⟨hpiece, hnone⟩ := List.cons.inj hpieces
          obtain ⟨rfl, htail⟩ := Prod.mk.inj hpiece
          have hjoined := joined_split (m := m) (length - 1) xs
          rw [hnone, joined_nil, List.append_nil] at hjoined
          rw [← htail, hjoined, List.cons_append, split_marked hmark']
          rfl
        | cons piece closed =>
          obtain ⟨hpiece, hclosed⟩ := List.cons.inj hpieces
          have hrest := ih (Prod.ext rfl hclosed)
          rw [List.cons_append, split_marked hmark', hrest, ← hpiece]
          rfl
      | none =>
        cases hmark' : m.mark (x :: xs ++ ys) with
        | none =>
          rw [split_unmarked hmark] at h
          obtain ⟨hbefore, hpieces⟩ := Prod.mk.inj h
          have hrest := ih (Prod.ext rfl hpieces)
          rw [List.cons_append] at hmark' ⊢
          rw [split_unmarked hmark', hrest, ← hbefore]
        | some length =>
          rw [split_clean (hm hmark hmark')] at h
          have hpieces : [] = closed ++ [(n, tail)] := congrArg Prod.snd h
          exact absurd hpieces.symm (List.append_ne_nil_of_right_ne_nil closed (List.cons_ne_nil _ _))

/-- A list that begins with a mark splits without a rest before the first piece. -/
theorem mark_of_split {xs piece : List α} {n : Nat} {pieces : List (Nat × List α)}
    (h : split m 0 xs = ([], (n, piece) :: pieces)) : m.mark xs = some n := by
  cases xs with
  | nil => cases h
  | cons x xs =>
    cases hmark : m.mark (x :: xs) with
    | some length =>
      rw [split_marked hmark] at h
      obtain ⟨hpiece, _⟩ := List.cons.inj (congrArg Prod.snd h)
      exact congrArg some (Prod.mk.inj hpiece).1
    | none =>
      rw [split_unmarked hmark] at h
      cases h

theorem marks_eq_pieceMarks (index skip : Nat) (xs : List α) :
    marks m index skip xs = pieceMarks (index + (split m skip xs).1.length) (split m skip xs).2 := by
  induction xs generalizing index skip with
  | nil => rfl
  | cons x xs ih =>
    cases skip with
    | succ skip =>
      rw [marks, ih, split_skip, List.length_cons]
      congr 1
      omega
    | zero =>
      cases hmark : m.mark (x :: xs) with
      | some length =>
        rw [marks, hmark, split_marked hmark, pieceMarks]
        dsimp only
        rw [ih, List.length_nil, List.length_cons]
        congr 2
        omega
      | none =>
        rw [marks, hmark, split_unmarked hmark]
        dsimp only
        rw [ih, List.length_cons]
        congr 1
        omega

end Split

end Framing
