import StreamSync.Lib.PipeReading

namespace PipeReading

variable {α ε : Type}

/-- What reads can give before an error that is none to try again on. -/
def readable (again : ε → Bool) : List (Delivery α ε) → List α
  | [] => []
  | .piece xs :: deliveries => xs ++ readable again deliveries
  | .error e :: deliveries => if again e then readable again deliveries else []

/-- The first error that is none to try again on. -/
def failure (again : ε → Bool) : List (Delivery α ε) → Option ε
  | [] => none
  | .piece _ :: deliveries => failure again deliveries
  | .error e :: deliveries => if again e then failure again deliveries else some e

/-- How reads that want more than there is end. -/
def shortEnding (again : ε → Bool) (heldOpen : Bool) (deliveries : List (Delivery α ε)) : Ending ε :=
  match failure again deliveries with
  | some e => .failed e
  | none => atEnd heldOpen

theorem readUpTo_of_le (again : ε → Bool) (heldOpen : Bool) {deliveries : List (Delivery α ε)} {limit : Nat}
    (h : limit ≤ (readable again deliveries).length) :
    ∃ rest, readUpTo again heldOpen deliveries limit =
        ⟨(readable again deliveries).take limit, .done, rest⟩ ∧
      readable again rest = (readable again deliveries).drop limit ∧
      failure again rest = failure again deliveries := by
  induction deliveries generalizing limit with
  | nil =>
    obtain rfl : limit = 0 := Nat.le_zero.mp h
    exact ⟨[], rfl, rfl, rfl⟩
  | cons delivery deliveries ih =>
    cases limit with
    | zero => exact ⟨delivery :: deliveries, rfl, rfl, rfl⟩
    | succ limit =>
      cases delivery with
      | error e =>
        unfold readUpTo
        cases he : again e with
        | true =>
          rw [readable, he, if_pos rfl] at h
          rw [readable, failure, he, if_pos rfl, if_pos rfl, if_pos rfl]
          exact ih h
        | false =>
          rw [readable, he] at h
          exact absurd h (Nat.not_succ_le_zero limit)
      | piece xs =>
        rw [readable, List.length_append] at h
        rw [readUpTo, readable, failure]
        split
        next hlong =>
          refine ⟨.piece (xs.drop (limit + 1)) :: deliveries, ?_, ?_, rfl⟩
          · rw [List.take_append_of_le_length (Nat.le_of_lt hlong)]
          · rw [readable, List.drop_append_of_le_length (Nat.le_of_lt hlong)]
        next hshort =>
          have hlen : xs.length ≤ limit + 1 := Nat.le_of_not_lt hshort
          have hleft : limit + 1 - xs.length ≤ (readable again deliveries).length := by omega
          obtain ⟨rest, hread, hrest, hfail⟩ := ih hleft
          refine ⟨rest, ?_, ?_, hfail⟩
          · rw [hread, List.take_append, List.take_of_length_le hlen]
          · rw [hrest, List.drop_append, List.drop_of_length_le hlen, List.nil_append]

theorem readUpTo_of_lt (again : ε → Bool) (heldOpen : Bool) {deliveries : List (Delivery α ε)} {limit : Nat}
    (h : (readable again deliveries).length < limit) :
    (readUpTo again heldOpen deliveries limit).got = readable again deliveries ∧
      (readUpTo again heldOpen deliveries limit).ending = shortEnding again heldOpen deliveries := by
  obtain ⟨limit, rfl⟩ := Nat.exists_eq_add_one_of_ne_zero (Nat.ne_of_gt (Nat.zero_lt_of_lt h))
  induction deliveries generalizing limit with
  | nil => exact ⟨rfl, rfl⟩
  | cons delivery deliveries ih =>
    cases delivery with
    | error e =>
      rw [readable] at h
      rw [readUpTo, readable, shortEnding, failure]
      cases he : again e with
      | true =>
        rw [he, if_pos rfl] at h
        rw [if_pos rfl, if_pos rfl, if_pos rfl]
        exact ih limit h
      | false => exact ⟨rfl, rfl⟩
    | piece xs =>
      rw [readable, List.length_append] at h
      rw [readUpTo, readable, if_neg (by omega)]
      obtain ⟨limit', hlimit⟩ : ∃ limit', limit + 1 - xs.length = limit' + 1 :=
        Nat.exists_eq_add_one_of_ne_zero (by omega)
      obtain ⟨hgot, hending⟩ := ih limit' (by omega)
      rw [hlimit]
      exact ⟨congrArg (xs ++ ·) hgot, hending⟩

/-- How the reads of `read_exact` come out. -/
inductive ExactRead (α ε : Type) where
  | full (xs : List α)
  | short
  | blocked
  | failed (e : ε)
deriving DecidableEq

/-- What is said where fewer elements are there than are wanted. -/
def ExactRead.ofEnding : Ending ε → ExactRead α ε
  | .done => .short
  | .blocked => .blocked
  | .failed e => .failed e

/-- Reads until there are as many elements as wanted. -/
def readExact (again : ε → Bool) (heldOpen : Bool) (deliveries : List (Delivery α ε)) (len : Nat) :
    ExactRead α ε × List (Delivery α ε) :=
  let reading := readUpTo again heldOpen deliveries len
  (if reading.got.length < len then .ofEnding reading.ending else .full reading.got, reading.rest)

theorem readExact_of_le (again : ε → Bool) (heldOpen : Bool) {deliveries : List (Delivery α ε)} {len : Nat}
    (h : len ≤ (readable again deliveries).length) :
    ∃ rest, readExact again heldOpen deliveries len =
        (.full ((readable again deliveries).take len), rest) ∧
      readable again rest = (readable again deliveries).drop len ∧
      failure again rest = failure again deliveries := by
  obtain ⟨rest, hread, hrest⟩ := readUpTo_of_le again heldOpen h
  refine ⟨rest, ?_, hrest⟩
  unfold readExact
  rw [hread]
  dsimp only
  rw [List.length_take, Nat.min_eq_left h, if_neg (Nat.lt_irrefl len)]

theorem readExact_of_lt (again : ε → Bool) (heldOpen : Bool) {deliveries : List (Delivery α ε)} {len : Nat}
    (h : (readable again deliveries).length < len) :
    (readExact again heldOpen deliveries len).1 = .ofEnding (shortEnding again heldOpen deliveries) := by
  obtain ⟨hgot, hending⟩ := readUpTo_of_lt again heldOpen h
  unfold readExact
  dsimp only
  rw [hgot, if_pos h, hending]

/-- A format whose head has a fixed length and tells how long the body is. -/
structure PrefixFormat (α : Type) where
  headLen : Nat
  bodyLen : List α → Nat

namespace PrefixFormat

variable (format : PrefixFormat α)

/-- The frame has its head, and a body as long as the head says. -/
def IsFrame (frame : List α) : Prop :=
  format.headLen ≤ frame.length ∧
    frame.length = format.headLen + format.bodyLen (frame.take format.headLen)

/-- Reads a head, and then the body that it announces. -/
def read (again : ε → Bool) (heldOpen : Bool) (deliveries : List (Delivery α ε)) :
    ExactRead α ε × List (Delivery α ε) :=
  match readExact again heldOpen deliveries format.headLen with
  | (.full head, rest) =>
    match readExact again heldOpen rest (format.bodyLen head) with
    | (.full body, rest) => (.full (head ++ body), rest)
    | short => short
  | short => short

/-- A frame tells by its own front where it ends. -/
theorem IsFrame.eq_of_prefix {format : PrefixFormat α} {frame frame' : List α} (h : format.IsFrame frame)
    (h' : format.IsFrame frame') (hfront : frame <+: frame') : frame = frame' := by
  obtain ⟨behind, rfl⟩ := hfront
  have hlength := h'.2
  rw [List.take_append_of_le_length h.1, ← h.2, List.length_append] at hlength
  have hnone : behind = [] := List.length_eq_zero_iff.mp (by omega)
  rw [hnone, List.append_nil]

section Read

variable {format} (again : ε → Bool) (heldOpen : Bool) {deliveries : List (Delivery α ε)}

/-- A frame that is there is read, however it is cut, and what is behind it stays. -/
theorem read_frame {frame behind : List α} (hframe : format.IsFrame frame)
    (h : readable again deliveries = frame ++ behind) :
    ∃ rest, format.read again heldOpen deliveries = (.full frame, rest) ∧
      readable again rest = behind ∧ failure again rest = failure again deliveries := by
  obtain ⟨hhead, hlength⟩ := hframe
  have hle : format.headLen ≤ (readable again deliveries).length := by
    rw [h, List.length_append]
    omega
  obtain ⟨rest, hread, hrest, hfail⟩ := readExact_of_le again heldOpen hle
  rw [h, List.take_append_of_le_length hhead] at hread
  rw [h, List.drop_append_of_le_length hhead] at hrest
  have hbody : (frame.drop format.headLen).length = format.bodyLen (frame.take format.headLen) := by
    rw [List.length_drop]
    omega
  have hleft : format.bodyLen (frame.take format.headLen) ≤ (readable again rest).length := by
    rw [hrest, List.length_append, hbody]
    omega
  obtain ⟨rest', hread', hrest', hfail'⟩ := readExact_of_le again heldOpen hleft
  refine ⟨rest', ?_, ?_, hfail'.trans hfail⟩
  · unfold read
    rw [hread]
    dsimp only
    rw [hread', hrest, List.take_left' hbody]
    dsimp only
    rw [List.take_append_drop]
  · rw [hrest', hrest, List.drop_left' hbody]

/-- Where no frame is there the reads end as a read that wants more than there is. -/
theorem read_short (h : ∀ frame, format.IsFrame frame → ¬frame <+: readable again deliveries) :
    (format.read again heldOpen deliveries).1 = .ofEnding (shortEnding again heldOpen deliveries) := by
  unfold read
  rcases Nat.lt_or_ge (readable again deliveries).length format.headLen with hlt | hle
  · have hshort := readExact_of_lt again heldOpen hlt
    generalize readExact again heldOpen deliveries format.headLen = result at hshort
    obtain ⟨first, rest⟩ := result
    subst hshort
    cases shortEnding again heldOpen deliveries <;> rfl
  · obtain ⟨rest, hread, hrest, hfail⟩ := readExact_of_le again heldOpen hle
    rw [hread]
    dsimp only
    have hfew : (readable again rest).length <
        format.bodyLen ((readable again deliveries).take format.headLen) := by
      refine Nat.lt_of_not_le fun hmany => ?_
      rw [hrest, List.length_drop] at hmany
      have htake : ((readable again deliveries).take (format.headLen + format.bodyLen
          ((readable again deliveries).take format.headLen))).take format.headLen =
          (readable again deliveries).take format.headLen := by
        rw [List.take_take, Nat.min_eq_left (Nat.le_add_right _ _)]
      refine h _ ⟨?_, ?_⟩ (List.take_prefix (format.headLen + format.bodyLen
        ((readable again deliveries).take format.headLen)) _)
      · rw [List.length_take]
        omega
      · rw [htake, List.length_take]
        omega
    have hshort := readExact_of_lt again heldOpen hfew
    rw [show shortEnding again heldOpen rest = shortEnding again heldOpen deliveries by
      unfold shortEnding; rw [hfail]] at hshort
    generalize readExact again heldOpen rest
      (format.bodyLen ((readable again deliveries).take format.headLen)) = result at hshort
    obtain ⟨second, rest'⟩ := result
    subst hshort
    cases shortEnding again heldOpen deliveries <;> rfl

/-- What is read is a frame at the front of what can be read. -/
theorem read_full_iff {frame : List α} :
    (format.read again heldOpen deliveries).1 = .full frame ↔
      format.IsFrame frame ∧ frame <+: readable again deliveries := by
  constructor
  · intro h
    by_cases hsome : ∃ found, format.IsFrame found ∧ found <+: readable again deliveries
    · obtain ⟨found, hfound, behind, hbehind⟩ := hsome
      obtain ⟨rest, hread, -⟩ := read_frame again heldOpen hfound hbehind.symm
      rw [hread] at h
      cases h
      exact ⟨hfound, behind, hbehind⟩
    · have hnone : ∀ found, format.IsFrame found → ¬ found <+: readable again deliveries :=
        fun found hfound hfront => hsome ⟨found, hfound, hfront⟩
      have hshort := read_short again heldOpen hnone
      rw [hshort] at h
      cases hending : shortEnding again heldOpen deliveries <;> rw [hending] at h <;> cases h
  · rintro ⟨hframe, behind, hbehind⟩
    obtain ⟨rest, hread, -⟩ := read_frame again heldOpen hframe hbehind.symm
    exact congrArg Prod.fst hread

end Read

end PrefixFormat

end PipeReading
