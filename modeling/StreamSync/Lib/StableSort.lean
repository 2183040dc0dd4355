import Mathlib.Data.List.Sort

namespace StableSort

variable {α δ : Type} {r : α → α → Prop} [DecidableRel r] {before : α → α → Prop}

/-- In order by `r`, and in the order `before` where `r` does not tell two apart. -/
def Ordered (r before : α → α → Prop) (a b : α) : Prop := r a b ∧ (r b a → before a b)

theorem pairwise_orderedInsert (htotal : ∀ a b, r a b ∨ r b a) (htrans : ∀ a b c, r a b → r b c → r a c)
    {a : α} {l : List α} (hl : l.Pairwise (Ordered r before)) (ha : ∀ b ∈ l, before a b) :
    (l.orderedInsert r a).Pairwise (Ordered r before) := by
  induction l with
  | nil => simp
  | cons b l ih =>
    obtain ⟨hb, hl⟩ := List.pairwise_cons.mp hl
    by_cases hab : r a b
    · rw [List.orderedInsert_cons_of_le r l hab]
      refine List.pairwise_cons.mpr ⟨?_, List.pairwise_cons.mpr ⟨hb, hl⟩⟩
      intro c hc
      refine ⟨?_, fun _ => ha c hc⟩
      rcases List.mem_cons.mp hc with rfl | hc
      · exact hab
      · exact htrans a b c hab (hb c hc).1
    · rw [List.orderedInsert_of_not_le r l hab]
      refine List.pairwise_cons.mpr ⟨?_, ih hl fun c hc => ha c (List.mem_cons_of_mem b hc)⟩
      intro c hc
      rcases (List.mem_orderedInsert r).mp hc with rfl | hc
      · exact ⟨(htotal c b).resolve_left hab, fun h => absurd h hab⟩
      · exact hb c hc

/-- An insertion sort keeps the order of what it does not tell apart. -/
theorem pairwise_insertionSort (htotal : ∀ a b, r a b ∨ r b a) (htrans : ∀ a b c, r a b → r b c → r a c)
    {l : List α} (hl : l.Pairwise before) : (l.insertionSort r).Pairwise (Ordered r before) := by
  induction l with
  | nil => simp
  | cons a l ih =>
    obtain ⟨ha, hl⟩ := List.pairwise_cons.mp hl
    refine pairwise_orderedInsert htotal htrans (ih hl) ?_
    intro b hb
    exact ha b ((List.mem_insertionSort r).mp hb)

variable {distance : α → Nat}

/-- The first of the nearest elements of a list. -/
def FirstLeast (distance : α → Nat) (l : List α) (best : α) : Prop :=
  ∃ l₁ l₂, l = l₁ ++ best :: l₂ ∧ (∀ a ∈ l₁, distance best < distance a) ∧
    ∀ a ∈ l₂, distance best ≤ distance a

theorem FirstLeast.of_map {β : Type} {f : β → α} {l : List β} {best : α}
    (h : FirstLeast distance (l.map f) best) : ∃ b, f b = best ∧ FirstLeast (distance ∘ f) l b := by
  obtain ⟨l₁, l₂, heq, hbefore, hafter⟩ := h
  obtain ⟨m₁, m, hm, rfl, hrest⟩ := List.map_eq_append_iff.mp heq
  obtain ⟨b, m₂, rfl, rfl, rfl⟩ := List.map_eq_cons_iff.mp hrest
  refine ⟨b, rfl, m₁, m₂, hm, ?_, ?_⟩
  · exact fun a ha => hbefore _ (List.mem_map_of_mem ha)
  · exact fun a ha => hafter _ (List.mem_map_of_mem ha)

/-- The first of the nearest in a stable sort is the nearest, then the first by `r`, then the first of the
list. -/
theorem FirstLeast.least (htotal : ∀ a b, r a b ∨ r b a) (htrans : ∀ a b c, r a b → r b c → r a c)
    {l : List α} {p : α → Bool} {best : α} (hl : l.Pairwise before)
    (h : FirstLeast distance ((l.insertionSort r).filter p) best) :
    best ∈ l ∧ p best = true ∧ ∀ a ∈ l, p a = true → a = best ∨ distance best < distance a ∨
      distance best = distance a ∧ Ordered r before best a := by
  have hsorted := (pairwise_insertionSort htotal htrans hl).filter p
  have hmem : ∀ a, a ∈ (l.insertionSort r).filter p ↔ a ∈ l ∧ p a = true := fun a => by
    rw [List.mem_filter, List.mem_insertionSort]
  obtain ⟨l₁, l₂, heq, hbefore, hafter⟩ := h
  have hbest := (hmem best).mp (by rw [heq]; simp)
  refine ⟨hbest.1, hbest.2, fun a ha hp => ?_⟩
  have hin := (hmem a).mpr ⟨ha, hp⟩
  rw [heq] at hin hsorted
  rcases List.mem_append.mp hin with hin | hin
  · exact .inr (.inl (hbefore a hin))
  · rcases List.mem_cons.mp hin with rfl | hin
    · exact .inl rfl
    · have horder := (List.pairwise_cons.mp (List.pairwise_append.mp hsorted).2.1).1 a hin
      rcases (hafter a hin).lt_or_eq with hlt | heq
      · exact .inr (.inl hlt)
      · exact .inr (.inr ⟨heq, horder⟩)

end StableSort
