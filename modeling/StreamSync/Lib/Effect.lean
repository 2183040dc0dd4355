import StreamSync.Lib.Fallible

namespace Effect

/-- A computation over a state that may give up with an error. -/
abbrev Eff (σ ε α : Type) := StateT σ (Except ε) α

variable {σ τ ε ε' α β γ δ : Type}

theorem bind_eq_ok_iff {p : Eff σ ε α} {f : α → Eff σ ε β} {s s' : σ} {b : β} :
    (p >>= f) s = .ok (b, s') ↔ ∃ a t, p s = .ok (a, t) ∧ f a t = .ok (b, s') := by
  change (p s >>= fun x => f x.1 x.2) = .ok (b, s') ↔ _
  rw [Fallible.bind_eq_ok_iff]
  constructor
  · rintro ⟨⟨a, t⟩, hp, hf⟩
    exact ⟨a, t, hp, hf⟩
  · rintro ⟨a, t, hp, hf⟩
    exact ⟨(a, t), hp, hf⟩

theorem bind_of_ok {p : Eff σ ε α} {f : α → Eff σ ε β} {s t : σ} {a : α} (h : p s = .ok (a, t)) :
    (p >>= f) s = f a t := by
  change (p s >>= fun x => f x.1 x.2) = f a t
  rw [h]
  rfl

theorem bind_of_error {p : Eff σ ε α} {f : α → Eff σ ε β} {s : σ} {e : ε} (h : p s = .error e) :
    (p >>= f) s = .error e := by
  change (p s >>= fun x => f x.1 x.2) = .error e
  rw [h]
  rfl

/-- On the states of an invariant, `p` does what `q` does, seen through `π` and up to a relation of the
results, or gives up with one of the errors of `E`. -/
def Simulates (π : τ → σ) (I : σ → Prop) (E : ε → Prop) (R : α → β → Prop) (p : Eff τ ε β)
    (q : Eff σ ε' α) : Prop :=
  ∀ t, I (π t) →
    (∃ a b t', p t = .ok (b, t') ∧ q (π t) = .ok (a, π t') ∧ I (π t') ∧ R a b) ∨
      ∃ e, p t = .error e ∧ E e

variable {π : τ → σ} {I : σ → Prop} {E : ε → Prop} {R : α → β → Prop} {S : γ → δ → Prop}

theorem simulates_pure {a : α} {b : β} (h : R a b) :
    Simulates π I E R (pure b : Eff τ ε β) (pure a : Eff σ ε' α) :=
  fun t hI => .inl ⟨a, b, t, rfl, rfl, hI, h⟩

theorem Simulates.bind {p : Eff τ ε β} {q : Eff σ ε' α} {k : β → Eff τ ε δ} {l : α → Eff σ ε' γ}
    (h : Simulates π I E R p q) (hk : ∀ a b, R a b → Simulates π I E S (k b) (l a)) :
    Simulates π I E S (p >>= k) (q >>= l) := by
  intro t hI
  rcases h t hI with ⟨a, b, t', hp, hq, hI', hR⟩ | ⟨e, hp, hE⟩
  · rw [bind_of_ok hp, bind_of_ok hq]
    exact hk a b hR t' hI'
  · exact .inr ⟨e, bind_of_error hp, hE⟩

/-- From the state the computation does not give up, and ends as the condition says. -/
def Succeeds (p : Eff σ ε α) (s : σ) (post : α → σ → Prop) : Prop :=
  ∃ a s', p s = .ok (a, s') ∧ post a s'

section Rules

variable {p : Eff σ ε α} {s : σ} {post post' : α → σ → Prop}

theorem succeeds_pure {a : α} (h : post a s) : Succeeds (pure a : Eff σ ε α) s post := ⟨a, s, rfl, h⟩

theorem Succeeds.mono (h : Succeeds p s post) (hpost : ∀ a s', post a s' → post' a s') :
    Succeeds p s post' := by
  obtain ⟨a, s', hp, ha⟩ := h
  exact ⟨a, s', hp, hpost a s' ha⟩

theorem Succeeds.bind {f : α → Eff σ ε β} {post : β → σ → Prop}
    (h : Succeeds p s fun a s' => Succeeds (f a) s' post) : Succeeds (p >>= f) s post := by
  obtain ⟨a, s', hp, b, s'', hf, hpost⟩ := h
  exact ⟨b, s'', (bind_of_ok hp).trans hf, hpost⟩

/-- A step that keeps an invariant is taken any number of times. -/
theorem succeeds_iterate {I : Nat → α → σ → Prop} {step : α → Eff σ ε α} {run : Nat → α → Eff σ ε α}
    (zero : ∀ a, run 0 a = pure a) (succ : ∀ n a, run (n + 1) a = step a >>= run n)
    (next : ∀ n a s, I n a s → Succeeds (step a) s (I (n + 1))) {n : Nat} {a : α} (h : I n a s) (m : Nat) :
    Succeeds (run m a) s (I (n + m)) := by
  induction m generalizing n a s with
  | zero =>
    rw [zero]
    exact succeeds_pure h
  | succ m ih =>
    rw [succ]
    refine ((next n a s h).mono fun b s' hb => ?_).bind
    have hrest := ih hb
    rwa [show n + 1 + m = n + (m + 1) by omega] at hrest

end Rules

end Effect
