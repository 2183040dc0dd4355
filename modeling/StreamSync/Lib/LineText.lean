import Mathlib.Data.List.DropRight
import StreamSync.Lib.Fallible

namespace LineText

/-- The lines of a text, each without its line feed and the carriage return before that. -/
def lines : List Char → List (List Char)
  | [] => []
  | '\r' :: '\n' :: rest => [] :: lines rest
  | '\n' :: rest => [] :: lines rest
  | c :: rest => (c :: (lines rest).headD []) :: (lines rest).tail

theorem lines_cons {c : Char} {rest : List Char} (hc : c ≠ '\n') (hrest : c = '\r' → rest.head? ≠ some '\n') :
    lines (c :: rest) = (c :: (lines rest).headD []) :: (lines rest).tail := by
  rw [lines.eq_def]
  split
  next h => cases h
  next h =>
    cases h
    exact absurd rfl (hrest rfl)
  next h =>
    cases h
    exact absurd rfl hc
  next h =>
    cases h
    rfl

theorem lines_ne_nil {text : List Char} (h : text ≠ []) : lines text ≠ [] := by
  rw [lines.eq_def]
  split
  next => exact absurd rfl h
  all_goals exact List.cons_ne_nil _ _

/-- A line feed ends its line, whatever follows. -/
theorem lines_append_newline (text more : List Char) :
    lines (text ++ '\n' :: more) = lines (text ++ ['\n']) ++ lines more := by
  induction text using lines.induct with
  | case1 => rfl
  | case2 rest ih => simp only [List.cons_append, lines, ih]
  | case3 rest ih => simp only [List.cons_append, lines, ih]
  | case4 c rest hcr hlf ih =>
    have hc : c ≠ '\n' := fun h => hlf h
    by_cases hend : c = '\r' ∧ rest = []
    · obtain ⟨rfl, rfl⟩ := hend
      rfl
    · have hhead (tail : List Char) : c = '\r' → (rest ++ '\n' :: tail).head? ≠ some '\n' := by
        intro h
        cases rest with
        | nil => exact absurd ⟨h, rfl⟩ hend
        | cons d rest =>
          intro hd
          cases Option.some.inj hd
          exact hcr rest h rfl
      have hsome : lines (rest ++ ['\n']) ≠ [] := lines_ne_nil (by simp)
      obtain ⟨line, others, hlines⟩ := List.exists_cons_of_ne_nil hsome
      rw [List.cons_append, List.cons_append, lines_cons hc (hhead more), lines_cons hc (hhead []), ih, hlines]
      rfl

theorem lines_line {line : List Char} (hlf : '\n' ∉ line) (hcr : line.getLast? ≠ some '\r') :
    lines (line ++ ['\n']) = [line] := by
  induction line with
  | nil => rfl
  | cons c line ih =>
    have hc : c ≠ '\n' := fun h => hlf (by simp [h])
    have hhead : c = '\r' → (line ++ ['\n']).head? ≠ some '\n' := by
      rintro rfl hd
      cases line with
      | nil => exact hcr rfl
      | cons d line =>
        cases Option.some.inj hd
        exact hlf (by simp)
    have hrest : lines (line ++ ['\n']) = [line] := by
      refine ih (fun h => hlf (List.mem_cons_of_mem _ h)) fun h => ?_
      cases line with
      | nil => cases h
      | cons d line => exact hcr (by simpa using h)
    rw [List.cons_append, lines_cons hc hhead, hrest]
    rfl

theorem lines_line_append {line : List Char} (hlf : '\n' ∉ line) (hcr : line.getLast? ≠ some '\r')
    (more : List Char) : lines (line ++ '\n' :: more) = line :: lines more := by
  rw [lines_append_newline, lines_line hlf hcr]
  rfl

section Slices

variable {α : Type}

/-- `str::trim`, for the characters to take away. -/
def trim (p : α → Bool) (l : List α) : List α := (l.dropWhile p).rdropWhile p

theorem trim_eq_self {p : α → Bool} {l : List α} (hhead : ∀ a, l.head? = some a → p a = false)
    (hlast : ∀ a, l.getLast? = some a → p a = false) : trim p l = l := by
  have hleft : l.dropWhile p = l := by
    cases l with
    | nil => rfl
    | cons a l => exact List.dropWhile_cons_of_neg (by simp [hhead a rfl])
  unfold trim
  rw [hleft, List.rdropWhile_eq_self_iff]
  intro hl
  simp [hlast _ (List.getLast?_eq_some_getLast hl)]

theorem getLast?_trim {p : α → Bool} {l : List α} {a : α} (h : (trim p l).getLast? = some a) : p a = false := by
  have hne : trim p l ≠ [] := fun hnil => by simp [hnil] at h
  rw [List.getLast?_eq_some_getLast hne, Option.some.injEq] at h
  exact h ▸ Bool.eq_false_iff.mpr (List.rdropWhile_last_not p _ hne)

/-- A kept element keeps everything before it. -/
theorem rdropWhile_append_cons {p : α → Bool} {a : α} (h : p a = false) (before after : List α) :
    (before ++ a :: after).rdropWhile p = before ++ a :: after.rdropWhile p := by
  unfold List.rdropWhile
  rw [List.reverse_append, List.reverse_cons, List.append_assoc, List.dropWhile_append]
  split
  next hall =>
    rw [List.isEmpty_iff.mp hall, List.singleton_append, List.dropWhile_cons_of_neg (by simp [h])]
    simp
  next => simp

theorem trim_append_cons {p : α → Bool} {a : α} (h : p a = false) {before : List α}
    (hhead : ∀ b, before.head? = some b → p b = false) (after : List α) :
    trim p (before ++ a :: after) = before ++ a :: after.rdropWhile p := by
  have hleft : (before ++ a :: after).dropWhile p = before ++ a :: after := by
    cases before with
    | nil => exact List.dropWhile_cons_of_neg (by simp [h])
    | cons b before => exact List.dropWhile_cons_of_neg (by simp [hhead b rfl])
  unfold trim
  rw [hleft, rdropWhile_append_cons h]

variable [DecidableEq α]

/-- `str::split_once`, at the first occurrence. -/
def splitOnce (separator : α) : List α → Option (List α × List α)
  | [] => none
  | a :: l => if a = separator then some ([], l) else (splitOnce separator l).map fun (x, y) => (a :: x, y)

theorem splitOnce_append {separator : α} {before : List α} (h : separator ∉ before) (after : List α) :
    splitOnce separator (before ++ separator :: after) = some (before, after) := by
  induction before with
  | nil => exact if_pos rfl
  | cons a before ih =>
    have ha : a ≠ separator := fun heq => h (by simp [heq])
    rw [List.cons_append, splitOnce, if_neg ha, ih fun hmem => h (List.mem_cons_of_mem _ hmem)]
    rfl

theorem splitOnce_eq_none {separator : α} {l : List α} (h : separator ∉ l) : splitOnce separator l = none := by
  induction l with
  | nil => rfl
  | cons a l ih =>
    have ha : a ≠ separator := fun heq => h (by simp [heq])
    rw [splitOnce, if_neg ha, ih fun hmem => h (List.mem_cons_of_mem _ hmem)]
    rfl

/-- What stands before the first separator, or everything. -/
def beforeFirst (separator : α) (l : List α) : List α :=
  match splitOnce separator l with
  | some (before, _) => before
  | none => l

theorem beforeFirst_eq_takeWhile (separator : α) (l : List α) :
    beforeFirst separator l = l.takeWhile fun a => a ≠ separator := by
  unfold beforeFirst
  by_cases h : separator ∈ l
  · obtain ⟨before, after, rfl, hbefore⟩ := List.eq_append_cons_of_mem h
    have hkeep : ∀ a ∈ before, decide (a ≠ separator) = true := fun a ha =>
      decide_eq_true fun heq => hbefore (heq ▸ ha)
    rw [splitOnce_append hbefore, List.takeWhile_append_of_pos hkeep, List.takeWhile_cons_of_neg (by simp)]
    simp
  · have hkeep : ∀ a ∈ l, decide (a ≠ separator) = true := fun a ha =>
      decide_eq_true fun heq => h (heq ▸ ha)
    rw [splitOnce_eq_none h]
    exact (List.takeWhile_eq_self_iff.mpr hkeep).symm

theorem beforeFirst_append {separator : α} {before : List α} (h : separator ∉ before) (l : List α) :
    beforeFirst separator (before ++ l) = before ++ beforeFirst separator l := by
  have hkeep : ∀ a ∈ before, decide (a ≠ separator) = true := fun a ha =>
    decide_eq_true fun heq => h (heq ▸ ha)
  rw [beforeFirst_eq_takeWhile, beforeFirst_eq_takeWhile, List.takeWhile_append_of_pos hkeep]

def stripPrefix : List α → List α → Option (List α)
  | [], l => some l
  | _ :: _, [] => none
  | a :: start, b :: l => if a = b then stripPrefix start l else none

theorem stripPrefix_append (start l : List α) : stripPrefix start (start ++ l) = some l := by
  induction start with
  | nil => rfl
  | cons a start ih => exact (if_pos rfl).trans ih

def stripSuffix (ending l : List α) : Option (List α) :=
  (stripPrefix ending.reverse l.reverse).map List.reverse

theorem stripSuffix_append (l ending : List α) : stripSuffix ending (l ++ ending) = some l := by
  unfold stripSuffix
  rw [List.reverse_append, stripPrefix_append, Option.map_some, List.reverse_reverse]

/-- What stands between an opening and a closing character. -/
def enclosed (opening closing : α) (l : List α) : Option (List α) :=
  (stripPrefix [opening] l).bind (stripSuffix [closing])

theorem enclosed_append (opening closing : α) (inner : List α) :
    enclosed opening closing (opening :: (inner ++ [closing])) = some inner := by
  unfold enclosed
  rw [show stripPrefix [opening] (opening :: (inner ++ [closing])) = some (inner ++ [closing]) from if_pos rfl]
  exact stripSuffix_append inner [closing]

theorem enclosed_of_head {opening closing a : α} (h : a ≠ opening) (l : List α) :
    enclosed opening closing (a :: l) = none := by
  unfold enclosed stripPrefix
  rw [if_neg (Ne.symm h)]
  rfl

/-- Nothing is closed without its closing character. -/
theorem enclosed_of_not_mem {opening closing : α} {l : List α} (h : closing ∉ l) :
    enclosed opening closing (opening :: l) = none := by
  unfold enclosed
  rw [show stripPrefix [opening] (opening :: l) = some l from if_pos rfl, Option.bind_some]
  unfold stripSuffix
  cases hrev : l.reverse with
  | nil => rfl
  | cons a rest =>
    have ha : a ≠ closing := by
      rintro rfl
      exact h (List.mem_reverse.mp (by simp [hrev]))
    rw [List.reverse_singleton, stripPrefix, if_neg (Ne.symm ha)]
    rfl

end Slices

section Fold

variable {σ ε : Type}

/-- A parser that takes one numbered line after the other. -/
def foldLines (step : Nat → List Char → σ → Except ε σ) : Nat → List (List Char) → σ → Except ε σ
  | _, [], state => .ok state
  | lineNumber, line :: rest, state => do
    let state ← step lineNumber line state
    foldLines step (lineNumber + 1) rest state

theorem foldLines_append (step : Nat → List Char → σ → Except ε σ) (first second : List (List Char)) :
    ∀ (lineNumber : Nat) (state : σ), foldLines step lineNumber (first ++ second) state =
      foldLines step lineNumber first state >>= foldLines step (lineNumber + first.length) second := by
  induction first with
  | nil => exact fun _ _ => rfl
  | cons line first ih =>
    intro lineNumber state
    simp only [List.cons_append, foldLines, List.length_cons]
    cases step lineNumber line state with
    | error e => rfl
    | ok state' =>
      show foldLines step (lineNumber + 1) (first ++ second) state' = _
      rw [ih, Nat.add_right_comm, Nat.add_assoc lineNumber]
      rfl

end Fold

end LineText
