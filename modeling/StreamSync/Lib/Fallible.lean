import Mathlib.Data.List.Basic

namespace Fallible

variable {ε α β : Type}

theorem bind_eq_ok_iff {x : Except ε α} {f : α → Except ε β} {b : β} :
    x >>= f = .ok b ↔ ∃ a, x = .ok a ∧ f a = .ok b := by
  cases x with
  | error e => simp [bind, Except.bind]
  | ok a => simp [bind, Except.bind]

theorem mapError_eq_ok_iff {ε' : Type} {x : Except ε α} {f : ε → ε'} {a : α} :
    x.mapError f = .ok a ↔ x = .ok a := by
  cases x with
  | error e => simp [Except.mapError]
  | ok b => simp [Except.mapError]

/-- When every success is the value of a function, so is the success of the whole list. -/
theorem mapM_eq_ok {f : α → Except ε β} {g : α → β} (hg : ∀ a b, f a = .ok b → b = g a)
    {as : List α} {bs : List β} (h : as.mapM f = .ok bs) : bs = as.map g := by
  induction as generalizing bs with
  | nil => exact (Except.ok.inj h).symm
  | cons a as ih =>
    rw [List.mapM_cons] at h
    obtain ⟨b, hb, h⟩ := bind_eq_ok_iff.mp h
    obtain ⟨rest, hrest, h⟩ := bind_eq_ok_iff.mp h
    cases Except.ok.inj h
    rw [hg a b hb, ih hrest, List.map_cons]

/-- Every result comes from one of the items. -/
theorem mem_of_mapM_ok {f : α → Except ε β} {as : List α} {bs : List β}
    (h : as.mapM f = .ok bs) {b : β} (hb : b ∈ bs) : ∃ a ∈ as, f a = .ok b := by
  induction as generalizing bs with
  | nil =>
    cases Except.ok.inj h
    simp at hb
  | cons a as ih =>
    rw [List.mapM_cons] at h
    obtain ⟨first, hfirst, h⟩ := bind_eq_ok_iff.mp h
    obtain ⟨rest, hrest, h⟩ := bind_eq_ok_iff.mp h
    cases Except.ok.inj h
    rcases List.mem_cons.mp hb with rfl | hb
    · exact ⟨a, by simp, hfirst⟩
    · obtain ⟨a', ha', hf⟩ := ih hrest hb
      exact ⟨a', by simp [ha'], hf⟩

/-- Every item of a successful list has its result. -/
theorem ok_of_mapM_ok {f : α → Except ε β} {as : List α} {bs : List β}
    (h : as.mapM f = .ok bs) {a : α} (ha : a ∈ as) : ∃ b, f a = .ok b := by
  induction as generalizing bs with
  | nil => simp at ha
  | cons first as ih =>
    rw [List.mapM_cons] at h
    obtain ⟨b, hb, h⟩ := bind_eq_ok_iff.mp h
    obtain ⟨rest, hrest, -⟩ := bind_eq_ok_iff.mp h
    rcases List.mem_cons.mp ha with rfl | ha
    · exact ⟨b, hb⟩
    · exact ih hrest ha

theorem mapM_ok_of_forall {f : α → Except ε β} {as : List α} (h : ∀ a ∈ as, ∃ b, f a = .ok b) :
    ∃ bs, as.mapM f = .ok bs := by
  induction as with
  | nil => exact ⟨[], rfl⟩
  | cons a as ih =>
    obtain ⟨b, hb⟩ := h a (by simp)
    obtain ⟨rest, hrest⟩ := ih fun a' ha' => h a' (by simp [ha'])
    refine ⟨b :: rest, ?_⟩
    rw [List.mapM_cons]
    exact bind_eq_ok_iff.mpr ⟨b, hb, bind_eq_ok_iff.mpr ⟨rest, hrest, rfl⟩⟩

/-- Where a test on the results says what another says of the items, the first result that passes is
the result of the first item that passes. -/
theorem find?_mapM_ok {f : α → Except ε β} {p : α → Bool} {q : β → Bool}
    (hpq : ∀ a b, f a = .ok b → q b = p a) {as : List α} {bs : List β} (h : as.mapM f = .ok bs) :
    (as.find? p = none ∧ bs.find? q = none) ∨
      ∃ a b, as.find? p = some a ∧ bs.find? q = some b ∧ f a = .ok b := by
  induction as generalizing bs with
  | nil =>
    cases Except.ok.inj h
    exact Or.inl ⟨rfl, rfl⟩
  | cons a as ih =>
    rw [List.mapM_cons] at h
    obtain ⟨b, hb, h⟩ := bind_eq_ok_iff.mp h
    obtain ⟨rest, hrest, h⟩ := bind_eq_ok_iff.mp h
    cases Except.ok.inj h
    have hq := hpq a b hb
    cases hp : p a with
    | true =>
      right
      exact ⟨a, b, by simp [hp], by simp [hq, hp], hb⟩
    | false => simpa [List.find?_cons, hq, hp] using ih hrest

/-- A loop whose steps fail on some of the items: it succeeds when it meets none of them. -/
theorem foldlM_some_or_none {f : β → α → Option β} {g : β → α → β} {P : β → Prop} {Q : α → Prop}
    {as : List α} (h : ∀ b, ∀ a ∈ as, P b → (Q a → f b a = some (g b a) ∧ P (g b a)) ∧ (¬ Q a → f b a = none))
    {b : β} (hb : P b) :
    ((∀ a ∈ as, Q a) → as.foldlM f b = some (as.foldl g b) ∧ P (as.foldl g b)) ∧
      (¬ (∀ a ∈ as, Q a) → as.foldlM f b = none) := by
  induction as generalizing b with
  | nil => exact ⟨fun _ => ⟨rfl, hb⟩, fun hnot => absurd nofun hnot⟩
  | cons a as ih =>
    obtain ⟨hsome, hnone⟩ := h b a List.mem_cons_self hb
    rw [List.foldlM_cons, List.foldl_cons]
    by_cases ha : Q a
    · obtain ⟨hstep, hnext⟩ := hsome ha
      obtain ⟨hall, hsomewhere⟩ := ih (fun b a' ha' => h b a' (List.mem_cons_of_mem a ha')) hnext
      rw [hstep]
      refine ⟨fun hq => hall fun a' ha' => hq a' (List.mem_cons_of_mem a ha'), fun hnot => hsomewhere fun hq => ?_⟩
      exact hnot (List.forall_mem_cons.mpr ⟨ha, hq⟩)
    · rw [hnone ha]
      exact ⟨fun hq => absurd (hq a List.mem_cons_self) ha, fun _ => rfl⟩

/-- A loop that finds its invariant before every step never fails. -/
theorem foldlM_eq_some {f : β → α → Option β} {g : β → α → β} {P : β → Prop} {as : List α}
    (h : ∀ b, ∀ a ∈ as, P b → f b a = some (g b a) ∧ P (g b a)) {b : β} (hb : P b) :
    as.foldlM f b = some (as.foldl g b) := by
  have hsteps (b : β) (a : α) (ha : a ∈ as) (hb : P b) :
      (True → f b a = some (g b a) ∧ P (g b a)) ∧ (¬ True → f b a = none) :=
    ⟨fun _ => h b a ha hb, fun hnot => absurd trivial hnot⟩
  exact ((foldlM_some_or_none hsteps hb).1 fun _ _ => trivial).1

/-- A loop over states of which `g` is what a step does to the part in view. -/
theorem foldlM_view {σ : Type} {f : σ → α → Option σ} {view : σ → β} {g : β → α → β} {P : β → Prop}
    {as : List α}
    (h : ∀ s, ∀ a ∈ as, P (view s) → ∃ s', f s a = some s' ∧ view s' = g (view s) a ∧ P (view s'))
    {s : σ} (hs : P (view s)) : ∃ s', as.foldlM f s = some s' ∧ view s' = as.foldl g (view s) := by
  induction as generalizing s with
  | nil => exact ⟨s, rfl, rfl⟩
  | cons a as ih =>
    obtain ⟨next, hstep, hview, hnext⟩ := h s a List.mem_cons_self hs
    obtain ⟨last, hrest, hlast⟩ := ih (fun s a' ha' => h s a' (List.mem_cons_of_mem a ha')) hnext
    rw [List.foldlM_cons, List.foldl_cons, hstep, ← hview]
    exact ⟨last, hrest, hlast⟩

end Fallible
