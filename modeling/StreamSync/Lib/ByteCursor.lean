import Mathlib.Data.List.Basic

namespace ByteCursor

/-- A read position in a byte buffer, never past its end. -/
structure Cursor where
  buffer : List UInt8
  offset : Nat
  inBounds : offset ≤ buffer.length
deriving DecidableEq

def Cursor.start (buffer : List UInt8) : Cursor := ⟨buffer, 0, Nat.zero_le _⟩

/-- The bytes that are still to be read. -/
def Cursor.rest (c : Cursor) : List UInt8 := c.buffer.drop c.offset

@[simp] theorem Cursor.rest_start (buffer : List UInt8) : (Cursor.start buffer).rest = buffer := rfl

@[simp] theorem Cursor.length_rest (c : Cursor) :
    c.rest.length = c.buffer.length - c.offset := List.length_drop

/-- Reading exactly `bs` takes the cursor `c` to `c'`. -/
def Cursor.Advances (c : Cursor) (bs : List UInt8) (c' : Cursor) : Prop :=
  c'.buffer = c.buffer ∧ c.rest = bs ++ c'.rest

theorem Cursor.Advances.offset_eq {c c' : Cursor} {bs : List UInt8} (h : c.Advances bs c') :
    c'.offset = c.offset + bs.length := by
  have hl := congrArg List.length h.2
  have hc := c.inBounds
  have hc' := c'.inBounds
  rw [h.1] at hc'
  simp only [Cursor.length_rest, List.length_append, h.1] at hl
  omega

theorem Cursor.Advances.unique {c d e : Cursor} {bs : List UInt8}
    (hd : c.Advances bs d) (he : c.Advances bs e) : d = e := by
  have ho := hd.offset_eq.trans he.offset_eq.symm
  have hb := hd.1.trans he.1.symm
  cases d; cases e
  simp_all

theorem Cursor.advances_exists {c : Cursor} {xs ys : List UInt8} (h : c.rest = xs ++ ys) :
    ∃ c', c.Advances xs c' ∧ c'.rest = ys := by
  have hl := congrArg List.length h
  simp only [Cursor.length_rest, List.length_append] at hl
  have hb := c.inBounds
  have hr : c.buffer.drop (c.offset + xs.length) = ys := by
    rw [← List.drop_drop]
    exact (congrArg (List.drop xs.length) h).trans List.drop_left
  exact ⟨⟨c.buffer, c.offset + xs.length, by omega⟩, ⟨rfl, h.trans (by rw [Cursor.rest, hr])⟩, hr⟩

theorem Cursor.Advances.trans {c d e : Cursor} {xs ys : List UInt8} (hd : c.Advances xs d)
    (he : d.Advances ys e) : c.Advances (xs ++ ys) e :=
  ⟨he.1.trans hd.1, by rw [hd.2, he.2, List.append_assoc]⟩

theorem Cursor.Advances.split {c e : Cursor} {xs ys : List UInt8} (h : c.Advances (xs ++ ys) e) :
    ∃ d, c.Advances xs d ∧ d.Advances ys e := by
  obtain ⟨d, hd, hr⟩ := Cursor.advances_exists (h.2.trans (List.append_assoc _ _ _))
  exact ⟨d, hd, h.1.trans hd.1.symm, hr⟩

/-- The bytes a value is written as, when it can be written at all. -/
abbrev Layout := Option (List UInt8)

def Layout.cat : List Layout → Layout
  | [] => some []
  | l :: ls => l.bind fun xs => (Layout.cat ls).map (xs ++ ·)

@[simp] theorem Layout.cat_nil : Layout.cat [] = some [] := rfl

@[simp] theorem Layout.cat_cons (l : Layout) (ls : List Layout) :
    Layout.cat (l :: ls) = l.bind fun xs => (Layout.cat ls).map (xs ++ ·) := rfl

theorem Layout.cat_cons_eq_some {l : Layout} {ls : List Layout} {bs : List UInt8} :
    Layout.cat (l :: ls) = some bs ↔
      ∃ xs ys, l = some xs ∧ Layout.cat ls = some ys ∧ bs = xs ++ ys := by
  simp only [Layout.cat_cons, Option.bind_eq_some_iff, Option.map_eq_some_iff, eq_comm (a := bs)]
  exact ⟨fun ⟨xs, hx, ys, hy, h⟩ => ⟨xs, ys, hx, hy, h⟩, fun ⟨xs, ys, hx, hy, h⟩ => ⟨xs, hx, ys, hy, h⟩⟩

theorem Layout.cat_eq_none {ls : List Layout} (h : none ∈ ls) : Layout.cat ls = none := by
  induction ls with
  | nil => cases h
  | cons l ls ih =>
    rcases List.mem_cons.mp h with rfl | h
    · rfl
    · simp [ih h]

section Read

variable {ε α β : Type}

abbrev ByteReader (ε α : Type) := StateT Cursor (Except ε) α

/-- The reader takes the next `len` bytes, or fails with what `short` says of offset and length. -/
def take (short : Nat → Nat → ε) (len : Nat) : ByteReader ε {bs : List UInt8 // bs.length = len} := fun c =>
  if h : c.offset + len ≤ c.buffer.length then
    .ok (⟨(c.buffer.drop c.offset).take len, by rw [List.length_take, List.length_drop]; omega⟩,
      ⟨c.buffer, c.offset + len, h⟩)
  else .error (short (c.offset + len) c.buffer.length)

/-- The reader succeeds exactly at the end of the buffer. -/
def atEnd (long : Nat → Nat → ε) : ByteReader ε Unit := fun c =>
  if c.offset = c.buffer.length then .ok ((), c) else .error (long c.offset c.buffer.length)

/-- `p` returns a value exactly when the next bytes are the layout of that value. -/
def Inverts (p : ByteReader ε α) (lay : α → Layout) : Prop :=
  ∀ c a c', p c = .ok (a, c') ↔ ∃ bs, lay a = some bs ∧ c.Advances bs c'

/-- `p` returns the values of `K`, each exactly when the next bytes are its layout `ls` and the
cursor behind them satisfies `E`. -/
def Reads (p : ByteReader ε α) (K : α → Prop) (ls : α → List Layout) (E : Cursor → Prop) : Prop :=
  ∀ c a c', p c = .ok (a, c') ↔
    K a ∧ ∃ bs, Layout.cat (ls a) = some bs ∧ c.Advances bs c' ∧ E c'

theorem bind_ok_iff {p : ByteReader ε α} {f : α → ByteReader ε β} {c c' : Cursor} {b : β} :
    (p >>= f) c = .ok (b, c') ↔ ∃ a d, p c = .ok (a, d) ∧ f a d = .ok (b, c') := by
  change (p c >>= fun x => f x.1 x.2) = .ok (b, c') ↔ _
  cases p c with
  | error e => simp [bind, Except.bind]
  | ok x => exact ⟨fun h => ⟨x.1, x.2, rfl, h⟩, fun ⟨a, d, hx, h⟩ => by cases hx; exact h⟩

theorem pure_ok_iff {a b : α} {c c' : Cursor} :
    (pure a : ByteReader ε α) c = .ok (b, c') ↔ a = b ∧ c = c' := by
  change Except.ok (a, c) = Except.ok (b, c') ↔ _
  simp

theorem run'_eq_ok_iff {p : ByteReader ε α} {c : Cursor} {a : α} :
    p.run' c = .ok a ↔ ∃ c', p c = .ok (a, c') := by
  change (Prod.fst <$> p c) = .ok a ↔ _
  cases p c with
  | error e => simp [Functor.map, Except.map]
  | ok x => cases x; simp [Functor.map, Except.map]

theorem atEnd_ok_iff {long : Nat → Nat → ε} {c c' : Cursor} {u : Unit} :
    atEnd long c = .ok (u, c') ↔ c.rest = [] ∧ c' = c := by
  have hrest : c.rest = [] ↔ c.offset = c.buffer.length := by
    have hb := c.inBounds
    rw [Cursor.rest, List.drop_eq_nil_iff]
    omega
  unfold atEnd
  rw [hrest]
  split
  next h => simp [h, eq_comm]
  next h => simp [h]

theorem take_inverts (short : Nat → Nat → ε) (len : Nat) :
    Inverts (take short len) fun bs => some bs.1 := by
  intro c bs c'
  unfold take
  split
  next h =>
    have ha : c.Advances ((c.buffer.drop c.offset).take len) ⟨c.buffer, c.offset + len, h⟩ :=
      ⟨rfl, by simp only [Cursor.rest, ← List.drop_drop, List.take_append_drop]⟩
    constructor
    · intro heq
      cases heq
      exact ⟨_, rfl, ha⟩
    · rintro ⟨xs, hx, hadv⟩
      cases Option.some.inj hx
      have hbs : (c.buffer.drop c.offset).take len = bs.1 := by
        rw [← Cursor.rest, hadv.2, List.take_left' bs.2]
      rw [hbs] at ha
      simp only [hbs, ha.unique hadv]
  next h =>
    constructor
    · intro heq
      cases heq
    · rintro ⟨xs, hx, hadv⟩
      cases Option.some.inj hx
      have hb := c'.inBounds
      rw [hadv.1, hadv.offset_eq, bs.2] at hb
      exact absurd hb h

theorem Inverts.congr {p : ByteReader ε α} {lay lay' : α → Layout} (hp : Inverts p lay)
    (h : ∀ a, lay a = lay' a) : Inverts p lay' := by
  intro c a c'
  rw [hp c a c', h a]

/-- A reader whose value is converted, where `enc` is the partial inverse of the conversion. -/
theorem Inverts.convert {p : ByteReader ε α} {lay : α → Layout} {conv : α → Except ε β}
    (enc : β → Option α) (hp : Inverts p lay) (hconv : ∀ a b, conv a = .ok b ↔ enc b = some a) :
    Inverts (p >>= fun a => liftM (conv a)) fun b => (enc b).bind lay := by
  intro c b c'
  have hlift : ∀ a d, (liftM (conv a) : ByteReader ε β) d = .ok (b, c') ↔ enc b = some a ∧ d = c' := by
    intro a d
    rw [← hconv]
    change (conv a >>= fun x => Except.ok (x, d)) = .ok (b, c') ↔ _
    cases conv a with
    | error e => simp [bind, Except.bind]
    | ok x => simp [bind, Except.bind]
  simp only [bind_ok_iff, hlift, hp c _ _, Option.bind_eq_some_iff]
  constructor
  · rintro ⟨a, d, ⟨bs, hlay, hadv⟩, henc, rfl⟩
    exact ⟨bs, ⟨a, henc, hlay⟩, hadv⟩
  · rintro ⟨bs, ⟨a, henc, hlay⟩, hadv⟩
    exact ⟨a, c', ⟨bs, hlay, hadv⟩, henc, rfl⟩

theorem Inverts.map {p : ByteReader ε α} {lay : α → Layout} {g : α → β} (enc : β → Option α)
    (hp : Inverts p lay) (hg : ∀ a b, g a = b ↔ enc b = some a) :
    Inverts (p >>= fun a => pure (g a)) fun b => (enc b).bind lay :=
  Inverts.convert enc hp fun a b => by
    rw [← hg, Except.ok.injEq]

theorem Inverts.reads {p : ByteReader ε α} {lay lay' : α → Layout} {K : α → Prop} (hp : Inverts p lay)
    (h : ∀ a bs, lay a = some bs ↔ K a ∧ lay' a = some bs) :
    Reads p K (fun a => [lay' a]) fun _ => True := by
  intro c a c'
  rw [hp c a c']
  simp only [h, Layout.cat_cons_eq_some, Layout.cat_nil, Option.some_inj, and_true]
  constructor
  · rintro ⟨bs, ⟨hK, hlay⟩, hadv⟩
    exact ⟨hK, bs, ⟨bs, [], hlay, rfl, by simp⟩, hadv⟩
  · rintro ⟨hK, _, ⟨bs, _, hlay, rfl, rfl⟩, hadv⟩
    exact ⟨bs, ⟨hK, hlay⟩, by simpa using hadv⟩

theorem Inverts.reads_bind {p : ByteReader ε α} {lay : α → Layout} {f : α → ByteReader ε β}
    {K : β → Prop} {ls : β → List Layout} {E : Cursor → Prop} (π : β → α) (hp : Inverts p lay)
    (hf : ∀ a, Reads (f a) (fun b => K b ∧ π b = a) ls E) :
    Reads (p >>= f) K (fun b => lay (π b) :: ls b) E := by
  intro c b c'
  simp only [bind_ok_iff, hp c _ _, hf _ _ _ _, Layout.cat_cons_eq_some]
  constructor
  · rintro ⟨_, d, ⟨xs, hlay, hadv⟩, ⟨hK, rfl⟩, ys, hls, hadv', hE⟩
    exact ⟨hK, xs ++ ys, ⟨xs, ys, hlay, hls, rfl⟩, hadv.trans hadv', hE⟩
  · rintro ⟨hK, _, ⟨xs, ys, hlay, hls, rfl⟩, hadv, hE⟩
    obtain ⟨d, hd, hd'⟩ := hadv.split
    exact ⟨π b, d, ⟨xs, hlay, hd⟩, ⟨hK, rfl⟩, ys, hls, hd', hE⟩

theorem reads_pure {K : α → Prop} {x : α} (hK : ∀ a, K a ↔ a = x) :
    Reads (pure x : ByteReader ε α) K (fun _ => []) fun _ => True := by
  intro c a c'
  simp only [hK, Layout.cat_nil, Option.some_inj, pure_ok_iff, and_true]
  constructor
  · rintro ⟨rfl, rfl⟩
    exact ⟨rfl, [], rfl, rfl, rfl⟩
  · rintro ⟨rfl, _, rfl, hadv⟩
    exact ⟨rfl, Cursor.Advances.unique ⟨rfl, rfl⟩ hadv⟩

theorem reads_atEnd {K : α → Prop} {x : α} (long : Nat → Nat → ε) (hK : ∀ a, K a ↔ a = x) :
    Reads (atEnd long >>= fun _ => pure x) K (fun _ => []) fun c => c.rest = [] := by
  intro c a c'
  simp only [bind_ok_iff, atEnd_ok_iff, reads_pure hK _ _ _, Layout.cat_nil, Option.some_inj, and_true]
  constructor
  · rintro ⟨_, _, ⟨hend, rfl⟩, hK', bs, rfl, hadv⟩
    cases Cursor.Advances.unique ⟨rfl, rfl⟩ hadv
    exact ⟨hK', [], rfl, hadv, hend⟩
  · rintro ⟨hK', _, rfl, hadv, hend⟩
    cases Cursor.Advances.unique ⟨rfl, rfl⟩ hadv
    exact ⟨(), c, ⟨hend, rfl⟩, hK', [], rfl, hadv⟩

theorem Reads.congr {p : ByteReader ε α} {K : α → Prop} {ls ls' : α → List Layout}
    {E : Cursor → Prop} (h : Reads p K ls E) (hls : ∀ a, K a → ls a = ls' a) : Reads p K ls' E := by
  intro c a c'
  rw [h c a c']
  exact and_congr_right fun hK => by rw [hls a hK]

theorem Reads.inverts {p : ByteReader ε α} {K : α → Prop} {ls : α → List Layout} {lay : α → Layout}
    (h : Reads p K ls fun _ => True)
    (hlay : ∀ a bs, lay a = some bs ↔ K a ∧ Layout.cat (ls a) = some bs) : Inverts p lay := by
  intro c a c'
  rw [h c a c']
  simp only [hlay, and_true]
  exact ⟨fun ⟨hK, bs, hbs, hadv⟩ => ⟨bs, ⟨hK, hbs⟩, hadv⟩, fun ⟨bs, ⟨hK, hbs⟩, hadv⟩ => ⟨hK, bs, hbs, hadv⟩⟩

/-- A reader that checks for the end accepts exactly the layouts of its values. -/
theorem Reads.run_start {p : ByteReader ε α} {K : α → Prop} {ls : α → List Layout}
    (h : Reads p K ls fun c => c.rest = []) {bs : List UInt8} {a : α} :
    p.run' (Cursor.start bs) = .ok a ↔ K a ∧ Layout.cat (ls a) = some bs := by
  simp only [run'_eq_ok_iff, h _ _ _]
  constructor
  · rintro ⟨c', hK, xs, hls, hadv, hend⟩
    have hxs := hadv.2
    rw [hend, List.append_nil, Cursor.rest_start] at hxs
    exact ⟨hK, hxs ▸ hls⟩
  · rintro ⟨hK, hls⟩
    obtain ⟨c', hadv, hend⟩ := Cursor.advances_exists (c := Cursor.start bs) (List.append_nil bs).symm
    exact ⟨c', hK, bs, hls, hadv, hend⟩

theorem reads_throw {K : α → Prop} (ls : α → List Layout) (E : Cursor → Prop) (e : ε)
    (hK : ∀ a, ¬ K a) : Reads (throw e : ByteReader ε α) K ls E := by
  intro c a c'
  exact iff_of_false (fun he => by cases he) (fun ⟨hKa, _⟩ => hK a hKa)

/-- Where a form `a` is read and the value `g a` returned, the buffer holds the layout of such a form. -/
theorem Inverts.run_start_map {p : ByteReader ε α} {lay : α → Layout} (hp : Inverts p lay) (g : α → β)
    (long : Nat → Nat → ε) {bs : List UInt8} {b : β} :
    (p >>= fun a => atEnd long >>= fun _ => pure (g a)).run' (Cursor.start bs) = .ok b ↔
      ∃ a, g a = b ∧ lay a = some bs := by
  simp only [run'_eq_ok_iff, bind_ok_iff, hp _ _ _, atEnd_ok_iff, pure_ok_iff]
  constructor
  · rintro ⟨_, a, c, ⟨xs, hlay, hadv⟩, _, _, ⟨hend, rfl⟩, hvalue, rfl⟩
    have hxs := hadv.2
    rw [hend, List.append_nil, Cursor.rest_start] at hxs
    exact ⟨a, hvalue, hxs ▸ hlay⟩
  · rintro ⟨a, hvalue, hlay⟩
    obtain ⟨c, hadv, hend⟩ := Cursor.advances_exists (c := Cursor.start bs) (List.append_nil bs).symm
    exact ⟨c, a, c, ⟨bs, hlay, hadv⟩, (), c, ⟨hend, rfl⟩, hvalue, rfl⟩

theorem Inverts.run_start {p : ByteReader ε α} {lay : α → Layout} (hp : Inverts p lay)
    (long : Nat → Nat → ε) {bs : List UInt8} {a : α} :
    (p >>= fun a => atEnd long >>= fun _ => pure a).run' (Cursor.start bs) = .ok a ↔ lay a = some bs :=
  (hp.run_start_map id long).trans (by simp)

/-- The bytes of neither layout are a proper initial part of the bytes of the other. -/
def Layout.Delimits (l l' : Layout) : Prop :=
  ∀ xs ys s t, l = some xs → l' = some ys → xs ++ s = ys ++ t → xs = ys

/-- Where a reader stops depends only on the bytes in front of it. -/
theorem Inverts.delimits {p : ByteReader ε α} {lay : α → Layout} (hp : Inverts p lay) (a b : α) :
    (lay a).Delimits (lay b) := by
  intro xs ys s t hxs hys heq
  obtain ⟨c, hadv, -⟩ := @Cursor.advances_exists (Cursor.start (xs ++ s)) xs s rfl
  obtain ⟨d, hadv', -⟩ := @Cursor.advances_exists (Cursor.start (xs ++ s)) ys t heq
  have ha := (hp _ a c).mpr ⟨xs, hxs, hadv⟩
  have hb := (hp _ b d).mpr ⟨ys, hys, hadv'⟩
  obtain ⟨rfl, rfl⟩ : a = b ∧ c = d := by simpa using ha.symm.trans hb
  exact Option.some.inj (hxs.symm.trans hys)

theorem Layout.Delimits.cat {ls ls' : List Layout} (h : List.Forall₂ Layout.Delimits ls ls') :
    (Layout.cat ls).Delimits (Layout.cat ls') := by
  induction h with
  | nil =>
    intro xs ys s t hxs hys _
    exact Option.some.inj (hxs.symm.trans hys)
  | cons hl _ ih =>
    intro xs ys s t hxs hys heq
    obtain ⟨x, xs', hx, hxs', rfl⟩ := Layout.cat_cons_eq_some.mp hxs
    obtain ⟨y, ys', hy, hys', rfl⟩ := Layout.cat_cons_eq_some.mp hys
    rw [List.append_assoc, List.append_assoc] at heq
    have hhead : x = y := hl x y _ _ hx hy heq
    subst hhead
    rw [ih xs' ys' s t hxs' hys' (List.append_cancel_left heq)]

/-- Whenever the first layout exists, so does the second, in as many bytes. -/
def Layout.SameLength (l l' : Layout) : Prop :=
  ∀ xs, l = some xs → ∃ ys, l' = some ys ∧ ys.length = xs.length

theorem Layout.SameLength.refl (l : Layout) : l.SameLength l := fun xs h => ⟨xs, h, rfl⟩

theorem Layout.SameLength.cat {ls ls' : List Layout} (h : List.Forall₂ Layout.SameLength ls ls') :
    (Layout.cat ls).SameLength (Layout.cat ls') := by
  induction h with
  | nil => exact Layout.SameLength.refl _
  | cons hl _ ih =>
    intro bs hbs
    obtain ⟨x, xs, hx, hxs, rfl⟩ := Layout.cat_cons_eq_some.mp hbs
    obtain ⟨y, hy, hlength⟩ := hl x hx
    obtain ⟨ys, hys, hlengths⟩ := ih xs hxs
    refine ⟨y ++ ys, Layout.cat_cons_eq_some.mpr ⟨y, ys, hy, hys, rfl⟩, ?_⟩
    rw [List.length_append, List.length_append, hlength, hlengths]

/-- From the bytes of the layouts `p` reads the value back, whatever else it may accept. -/
def ReadsBack (p : ByteReader ε α) (ls : List Layout) (a : α) : Prop :=
  ∀ c bs c', Layout.cat ls = some bs → c.Advances bs c' → p c = .ok (a, c')

theorem Inverts.readsBack {p : ByteReader ε α} {lay : α → Layout} (hp : Inverts p lay) (a : α) :
    ReadsBack p [lay a] a := by
  intro c bs c' hbs hadv
  obtain ⟨xs, ys, hlay, hnil, rfl⟩ := Layout.cat_cons_eq_some.mp hbs
  cases Option.some.inj hnil
  rw [List.append_nil] at hadv
  exact (hp c a c').mpr ⟨xs, hlay, hadv⟩

theorem readsBack_pure (a : α) : ReadsBack (pure a : ByteReader ε α) [] a := by
  intro c bs c' hbs hadv
  cases Option.some.inj hbs
  cases Cursor.Advances.unique ⟨rfl, rfl⟩ hadv
  rfl

theorem ReadsBack.bind {p : ByteReader ε α} {f : α → ByteReader ε β} {l : Layout} {ls : List Layout}
    {a : α} {b : β} (hp : ReadsBack p [l] a) (hf : ReadsBack (f a) ls b) :
    ReadsBack (p >>= f) (l :: ls) b := by
  intro c bs c' hbs hadv
  obtain ⟨xs, ys, hl, hls, rfl⟩ := Layout.cat_cons_eq_some.mp hbs
  obtain ⟨d, hd, hd'⟩ := hadv.split
  have hxs : Layout.cat [l] = some xs := Layout.cat_cons_eq_some.mpr ⟨xs, [], hl, rfl, by simp⟩
  exact bind_ok_iff.mpr ⟨a, d, hp c xs d hxs hd, hf d ys c' hls hd'⟩

/-- A value that uses up the buffer is read back by the reader that checks for the end. -/
theorem ReadsBack.run_start {p : ByteReader ε α} {ls : List Layout} {a : α} (hp : ReadsBack p ls a)
    (long : Nat → Nat → ε) {bs : List UInt8} (hbs : Layout.cat ls = some bs) :
    (p >>= fun a => atEnd long >>= fun _ => pure a).run' (Cursor.start bs) = .ok a := by
  obtain ⟨c, hadv, hend⟩ := Cursor.advances_exists (c := Cursor.start bs) (List.append_nil bs).symm
  have hread := hp _ bs c hbs hadv
  rw [run'_eq_ok_iff]
  exact ⟨c, bind_ok_iff.mpr ⟨a, c, hread, bind_ok_iff.mpr ⟨(), c, atEnd_ok_iff.mpr ⟨hend, rfl⟩, rfl⟩⟩⟩

end Read

section Write

variable {ε : Type}

abbrev ByteWriter (ε α : Type) := StateT (List UInt8) (Except ε) α

/-- Writes `bs` behind what the output already holds. -/
def extend (bs : List UInt8) : ByteWriter ε Unit := fun out => .ok ((), out ++ bs)

/-- `w` succeeds exactly when every layout of `ls` exists, and appends them in order. -/
def Appends (w : ByteWriter ε Unit) (ls : List Layout) : Prop :=
  ∀ out out', w out = .ok ((), out') ↔ ∃ bs, Layout.cat ls = some bs ∧ out' = out ++ bs

theorem extend_appends (bs : List UInt8) : Appends (extend bs : ByteWriter ε Unit) [some bs] := by
  intro out out'
  simp [extend, eq_comm]

theorem writer_bind_ok_iff {v w : ByteWriter ε Unit} {out out' : List UInt8} :
    (v >>= fun _ => w) out = .ok ((), out') ↔ ∃ mid, v out = .ok ((), mid) ∧ w mid = .ok ((), out') := by
  change (v out >>= fun x => w x.2) = .ok ((), out') ↔ _
  cases v out with
  | error e => simp [bind, Except.bind]
  | ok x => cases x; simp [bind, Except.bind]

theorem Appends.seq {v w : ByteWriter ε Unit} {l : Layout} {ls : List Layout}
    (hv : Appends v [l]) (hw : Appends w ls) : Appends (v >>= fun _ => w) (l :: ls) := by
  intro out out'
  simp only [writer_bind_ok_iff, hv _ _, hw _ _, Layout.cat_cons_eq_some, Layout.cat_nil,
    Option.some_inj]
  constructor
  · rintro ⟨_, ⟨_, ⟨xs, _, hl, rfl, rfl⟩, rfl⟩, ys, hls, rfl⟩
    exact ⟨xs ++ ys, ⟨xs, ys, hl, hls, rfl⟩, by simp⟩
  · rintro ⟨_, ⟨xs, ys, hl, hls, rfl⟩, rfl⟩
    exact ⟨out ++ xs, ⟨xs, ⟨xs, [], hl, rfl, by simp⟩, rfl⟩, ys, hls, by simp⟩

theorem Appends.congr {w : ByteWriter ε Unit} {ls ls' : List Layout} (h : Appends w ls)
    (hls : Layout.cat ls = Layout.cat ls') : Appends w ls' := by
  intro out out'
  rw [h out out', hls]

theorem throw_appends (e : ε) {ls : List Layout} (h : none ∈ ls) :
    Appends (throw e : ByteWriter ε Unit) ls := by
  intro out out'
  rw [Layout.cat_eq_none h]
  exact iff_of_false (fun he => by cases he) (fun ⟨_, hbs, _⟩ => by cases hbs)

theorem Appends.output_eq {w : ByteWriter ε Unit} {ls : List Layout} (h : Appends w ls) {bs : List UInt8} :
    w [] = .ok ((), bs) ↔ Layout.cat ls = some bs := by
  rw [h [] bs]
  simp

end Write

end ByteCursor
