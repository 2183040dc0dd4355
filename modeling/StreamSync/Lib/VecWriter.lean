import StreamSync.Lib.ByteCursor

namespace ByteCursor

/-- A writer into a buffer the caller owns: what was written before an error stays written. -/
abbrev VecWriter (ε α : Type) := ExceptT ε (StateM (List UInt8)) α

namespace VecWriter

variable {ε α : Type}

def extendFromSlice (bs : List UInt8) : VecWriter ε Unit := fun out => (.ok (), out ++ bs)

/-- Runs `w` on a new buffer, which an error throws away, and leaves the caller's buffer alone. -/
def intoNew (w : VecWriter ε Unit) : VecWriter ε (List UInt8) := fun out =>
  match w.run.run [] with
  | (.ok (), written) => (.ok written, out)
  | (.error e, _) => (.error e, out)

/-- The writer's result, and the buffer afterwards. -/
def runOn (w : VecWriter ε α) (out : List UInt8) : Except ε α × List UInt8 := w.run.run out

theorem runOn_bind_ok {β : Type} {v : VecWriter ε α} {f : α → VecWriter ε β} {out mid : List UInt8} {a : α}
    (h : v.runOn out = (.ok a, mid)) : (v >>= f).runOn out = (f a).runOn mid := by
  change (fun x : Except ε α × List UInt8 => (ExceptT.bindCont f x.1).run x.2) (v.runOn out) = _
  rw [h]
  rfl

theorem runOn_bind_error {β : Type} {v : VecWriter ε α} {f : α → VecWriter ε β} {out mid : List UInt8} {e : ε}
    (h : v.runOn out = (.error e, mid)) : (v >>= f).runOn out = (.error e, mid) := by
  change (fun x : Except ε α × List UInt8 => (ExceptT.bindCont f x.1).run x.2) (v.runOn out) = _
  rw [h]
  rfl

theorem runOn_check_ok {β : Type} (a : α) (f : α → VecWriter ε β) (out : List UInt8) :
    (MonadExcept.ofExcept (.ok a : Except ε α) >>= f).runOn out = (f a).runOn out :=
  runOn_bind_ok rfl

theorem runOn_check_error {β : Type} (e : ε) (f : α → VecWriter ε β) (out : List UInt8) :
    (MonadExcept.ofExcept (.error e : Except ε α) >>= f).runOn out = (.error e, out) :=
  runOn_bind_error rfl

end VecWriter

section Follow

variable {ε α : Type} {P : ε → Prop}

/-- The writer does to the buffer what `w` says, and each of its errors is one that `P` allows. -/
def Follows (P : ε → Prop) (v : VecWriter ε Unit) (w : ByteWriter ε Unit) : Prop :=
  ∀ out, match w out with
    | .ok (_, out') => v.runOn out = (.ok (), out')
    | .error e => (v.runOn out).1 = .error e ∧ P e

theorem follows_extend (bs : List UInt8) :
    Follows P (VecWriter.extendFromSlice bs : VecWriter ε Unit) (extend bs) := fun _ => rfl

theorem follows_throw {e : ε} (he : P e) : Follows P (throw e : VecWriter ε Unit) (throw e) :=
  fun _ => ⟨rfl, he⟩

theorem Follows.seq {v v' : VecWriter ε Unit} {w w' : ByteWriter ε Unit} (h : Follows P v w)
    (h' : Follows P v' w') : Follows P (v >>= fun _ => v') (w >>= fun _ => w') := by
  intro out
  have hout := h out
  have hbind : (w >>= fun _ => w') out = (w out >>= fun x => w' x.2) := rfl
  rw [hbind]
  cases hw : w out with
  | error e =>
    rw [hw] at hout
    obtain ⟨herror, he⟩ := hout
    have hrun : v.runOn out = (.error e, (v.runOn out).2) := Prod.ext herror rfl
    exact ⟨by rw [VecWriter.runOn_bind_error hrun], he⟩
  | ok x =>
    rw [hw] at hout
    have hrun : v.runOn out = (.ok (), x.2) := hout
    have hnext := h' x.2
    rw [← VecWriter.runOn_bind_ok (f := fun _ => v') hrun] at hnext
    exact hnext

/-- A checked value in front of the writer that uses it. -/
theorem Follows.check {x : Except ε α} {v : α → VecWriter ε Unit} {w : α → ByteWriter ε Unit}
    (hx : ∀ e, x = .error e → P e) (h : ∀ a, x = .ok a → Follows P (v a) (w a)) :
    Follows P (MonadExcept.ofExcept x >>= v) (liftM x >>= w) := by
  cases x with
  | error e => exact fun out => ⟨rfl, hx e rfl⟩
  | ok a => exact h a rfl

/-- In a new buffer the writer either fills it or is forgotten. -/
theorem Follows.intoNew {v : VecWriter ε Unit} {w : ByteWriter ε Unit} (h : Follows P v w)
    (out : List UInt8) : match w [] with
      | .ok (_, written) => v.intoNew.runOn out = (.ok written, out)
      | .error e => v.intoNew.runOn out = (.error e, out) ∧ P e := by
  have hrun : v.intoNew.runOn out = match v.runOn [] with
      | (.ok (), written) => (.ok written, out)
      | (.error e, _) => (.error e, out) := rfl
  have hnew := h []
  rw [hrun]
  split at hnew
  next => rw [hnew]
  next e _ =>
    obtain ⟨herror, he⟩ := hnew
    have hpair : v.runOn [] = (.error e, (v.runOn []).2) := Prod.ext herror rfl
    rw [hpair]
    exact ⟨rfl, he⟩

end Follow

end ByteCursor
