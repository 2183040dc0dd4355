import StreamSync.Lib.ByteCursor

namespace ByteCursor

/-- A reader that indexes a borrowed buffer by hand: `none` is a read out of bounds. -/
abbrev RawReader (ε α : Type) := ReaderT (List UInt8) (StateT Nat (ExceptT ε Option)) α

/-- The bytes `buffer[offset]`, `buffer[offset + 1]`, … of an array literal of `len` indexings. -/
def indexBytes (buffer : List UInt8) (offset : Nat) : Nat → Option (List UInt8)
  | 0 => some []
  | len + 1 => do
    let byte ← buffer[offset]?
    let bytes ← indexBytes buffer (offset + 1) len
    some (byte :: bytes)

/-- The subslice `buffer[start..stop]`. -/
def sliceBytes (buffer : List UInt8) (start stop : Nat) : Option (List UInt8) :=
  if start ≤ stop ∧ stop ≤ buffer.length then some ((buffer.drop start).take (stop - start)) else none

theorem indexBytes_eq {buffer : List UInt8} {len : Nat} :
    ∀ {offset : Nat}, offset + len ≤ buffer.length →
      indexBytes buffer offset len = some ((buffer.drop offset).take len) := by
  induction len with
  | zero =>
    intro offset _
    rfl
  | succ len ih =>
    intro offset h
    have hbyte : offset < buffer.length := by omega
    rw [indexBytes, List.getElem?_eq_getElem hbyte, ih (by omega), List.drop_eq_getElem_cons hbyte]
    rfl

theorem sliceBytes_eq {buffer : List UInt8} {offset len : Nat} (h : offset + len ≤ buffer.length) :
    sliceBytes buffer offset (offset + len) = some ((buffer.drop offset).take len) := by
  rw [sliceBytes, if_pos ⟨Nat.le_add_right _ _, h⟩, Nat.add_sub_cancel_left]

namespace RawReader

variable {ε α β : Type}

/-- Runs the reader from the front of the buffer and drops where it ended. -/
def decode (raw : RawReader ε α) (buffer : List UInt8) : Option (Except ε α) :=
  (((raw.run buffer).run 0).run).map fun result => result.map Prod.fst

/-- Fails with what `short` says of the offset and the buffer length when `len` bytes are not there. -/
def ensureAvailable (short : Nat → Nat → ε) (len : Nat) : RawReader ε Unit := do
  let buffer ← read
  let offset ← get
  if offset + len ≤ buffer.length then pure () else throw (short (offset + len) buffer.length)

/-- A function that indexes the buffer from the current offset on. -/
def indexed (f : List UInt8 → Nat → Option α) : RawReader ε α := fun buffer offset =>
  ExceptT.mk ((f buffer offset).map fun a => .ok (a, offset))

def advance (len : Nat) : RawReader ε Unit := modify (· + len)

/-- The reader succeeds exactly at the end of the buffer. -/
def finish (long : Nat → Nat → ε) : RawReader ε Unit := do
  let buffer ← read
  let offset ← get
  if offset = buffer.length then pure () else throw (long offset buffer.length)

/-- The check, the reads it makes safe, and the step behind them. -/
def guarded (short : Nat → Nat → ε) (len : Nat) (f : List UInt8 → Nat → Option α) : RawReader ε α := do
  ensureAvailable short len
  let value ← indexed f
  advance len
  pure value

theorem bind_run (raw : RawReader ε α) (f : α → RawReader ε β) (buffer : List UInt8) (offset : Nat) :
    (((raw >>= f).run buffer).run offset).run = (((raw.run buffer).run offset).run).bind fun result =>
      match result with
      | .ok (a, offset') => (((f a).run buffer).run offset').run
      | .error e => some (.error e) := by
  change (((raw.run buffer).run offset).run).bind _ = _
  congr 1
  funext result
  cases result <;> rfl

theorem decode_map (raw : RawReader ε α) (g : α → β) (buffer : List UInt8) :
    (raw >>= fun a => pure (g a)).decode buffer = (raw.decode buffer).map fun result => result.map g := by
  rw [decode, bind_run, decode]
  cases ((raw.run buffer).run 0).run with
  | none => rfl
  | some result => cases result <;> rfl

end RawReader

section Simulation

variable {ε α β : Type}

/-- From every cursor the raw reader stays in bounds and does what the bounded one does. -/
def Simulates (raw : RawReader ε α) (p : ByteReader ε α) : Prop :=
  ∀ c : Cursor, ((raw.run c.buffer).run c.offset).run = some ((p c).map fun x => (x.1, x.2.offset)) ∧
    ∀ a c', p c = .ok (a, c') → c'.buffer = c.buffer

theorem simulates_pure (a : α) : Simulates (pure a : RawReader ε α) (pure a) := fun c =>
  ⟨rfl, fun _ _ h => by cases h; rfl⟩

theorem simulates_throw (e : ε) : Simulates (throw e : RawReader ε α) (throw e) := fun c =>
  ⟨rfl, fun _ _ h => by cases h⟩

theorem simulates_ofExcept (x : Except ε α) :
    Simulates (MonadExcept.ofExcept x : RawReader ε α) (liftM x : ByteReader ε α) := by
  cases x with
  | error e => exact simulates_throw e
  | ok a => exact simulates_pure a

theorem Simulates.bind {raw : RawReader ε α} {p : ByteReader ε α} {f : α → RawReader ε β}
    {g : α → ByteReader ε β} (h : Simulates raw p) (hf : ∀ a, Simulates (f a) (g a)) :
    Simulates (raw >>= f) (p >>= g) := by
  intro c
  obtain ⟨hrun, hkeep⟩ := h c
  have hbind : (p >>= g) c = (p c >>= fun x => g x.1 x.2) := rfl
  rw [RawReader.bind_run, hrun, hbind]
  cases hp : p c with
  | error e => exact ⟨rfl, fun _ _ h => by cases h⟩
  | ok x =>
    obtain ⟨a, d⟩ := x
    have hd : d.buffer = c.buffer := hkeep a d hp
    obtain ⟨hrun', hkeep'⟩ := hf a d
    rw [hd] at hrun' hkeep'
    exact ⟨hrun', hkeep'⟩

/-- A guarded read is in bounds when its indexings need no more bytes than the check saw. -/
theorem simulates_guarded {short : Nat → Nat → ε} {len : Nat} {f : List UInt8 → Nat → Option α}
    (g : {bytes : List UInt8 // bytes.length = len} → α)
    (hf : ∀ (buffer : List UInt8) (offset : Nat) (bytes : {bytes : List UInt8 // bytes.length = len}),
      offset + len ≤ buffer.length → bytes.1 = (buffer.drop offset).take len →
        f buffer offset = some (g bytes)) :
    Simulates (RawReader.guarded short len f) (take short len >>= fun bytes => pure (g bytes)) := by
  intro c
  have hguard : ((RawReader.ensureAvailable short len).run c.buffer).run c.offset =
      ExceptT.mk (some (if c.offset + len ≤ c.buffer.length then .ok ((), c.offset)
        else .error (short (c.offset + len) c.buffer.length))) := by
    change (((if c.offset + len ≤ c.buffer.length then pure ()
      else throw (short (c.offset + len) c.buffer.length) : RawReader ε Unit).run c.buffer).run c.offset) = _
    split <;> rfl
  have htake : (take short len >>= fun bytes => pure (g bytes) : ByteReader ε α) c =
      (take short len c >>= fun x => .ok (g x.1, x.2)) := rfl
  rw [RawReader.guarded, RawReader.bind_run, hguard, htake, take]
  split
  next h =>
    have hbytes := hf c.buffer c.offset ⟨(c.buffer.drop c.offset).take len,
      by rw [List.length_take, List.length_drop]; omega⟩ h rfl
    refine ⟨?_, fun a c' h => by cases h; rfl⟩
    change ((((RawReader.indexed f >>= fun value => RawReader.advance len >>= fun _ =>
      pure value).run c.buffer).run c.offset).run) = _
    rw [RawReader.bind_run]
    change ((f c.buffer c.offset).map _).bind _ = _
    rw [hbytes]
    rfl
  next => exact ⟨rfl, fun a c' h => by cases h⟩

theorem simulates_finish (long : Nat → Nat → ε) :
    Simulates (RawReader.finish long) (atEnd long) := by
  intro c
  have hrun : ((RawReader.finish long).run c.buffer).run c.offset =
      (((if c.offset = c.buffer.length then pure () else throw (long c.offset c.buffer.length) :
        RawReader ε Unit).run c.buffer).run c.offset) := rfl
  rw [hrun, atEnd]
  split
  next => exact ⟨rfl, fun a c' h => by cases h; rfl⟩
  next => exact ⟨rfl, fun a c' h => by cases h⟩

/-- Decoding a whole buffer never reads out of bounds. -/
theorem Simulates.decode {raw : RawReader ε α} {p : ByteReader ε α} (h : Simulates raw p)
    (buffer : List UInt8) : raw.decode buffer = some (p.run' (Cursor.start buffer)) := by
  have hrun : ((raw.run buffer).run 0).run = _ := (h (Cursor.start buffer)).1
  rw [RawReader.decode, hrun]
  change some (((p (Cursor.start buffer)).map _).map _) = some ((p (Cursor.start buffer)).map Prod.fst)
  cases p (Cursor.start buffer) <;> rfl

/-- The reader returns a value only at the end of the buffer. -/
def UsesUp (raw : RawReader ε α) : Prop :=
  ∀ buffer offset a offset', ((raw.run buffer).run offset).run = some (.ok (a, offset')) →
    offset' = buffer.length

theorem UsesUp.bind {raw : RawReader ε α} {f : α → RawReader ε β} (hf : ∀ a, UsesUp (f a)) :
    UsesUp (raw >>= f) := by
  intro buffer offset b offset' h
  rw [RawReader.bind_run] at h
  obtain ⟨result, -, h⟩ := Option.bind_eq_some_iff.mp h
  cases result with
  | error e => cases h
  | ok x => exact hf x.1 buffer x.2 b offset' h

theorem UsesUp.map {raw : RawReader ε α} (h : UsesUp raw) (g : α → β) :
    UsesUp (raw >>= fun a => pure (g a)) := by
  intro buffer offset b offset' hb
  rw [RawReader.bind_run] at hb
  obtain ⟨result, hresult, hb⟩ := Option.bind_eq_some_iff.mp hb
  cases result with
  | error e => cases hb
  | ok x =>
    cases hb
    exact h buffer offset x.1 x.2 hresult

theorem usesUp_finish (long : Nat → Nat → ε) (a : α) :
    UsesUp (RawReader.finish long >>= fun _ => pure a) := by
  intro buffer offset a' offset' h
  have hrun : ((RawReader.finish long).run buffer).run offset =
      (((if offset = buffer.length then pure () else throw (long offset buffer.length) :
        RawReader ε Unit).run buffer).run offset) := rfl
  rw [RawReader.bind_run, hrun] at h
  split at h
  next hend =>
    cases h
    exact hend
  next => cases h

end Simulation

end ByteCursor
