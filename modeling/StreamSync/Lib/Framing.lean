import Mathlib.Data.List.Infix

namespace Framing

variable {α : Type}

/-- A test for a mark at the head of a list, which gives the length of the mark. More that follows
does not change a mark that is there. -/
structure Marker (α : Type) where
  mark : List α → Option Nat
  mark_pos : ∀ {xs : List α} {n : Nat}, mark xs = some n → 0 < n
  mark_append : ∀ {xs : List α} {n : Nat} (ys : List α), mark xs = some n → mark (xs ++ ys) = some n

/-- The first mark at or after the index, in the list from there on. -/
def scan (m : Marker α) (index : Nat) : List α → Option (Nat × Nat)
  | [] => none
  | x :: xs =>
    match m.mark (x :: xs) with
    | some length => some (index, length)
    | none => scan m (index + 1) xs

/-- All marks in turn, each searched for behind the one before. -/
def marks (m : Marker α) (index skip : Nat) : List α → List (Nat × Nat)
  | [] => []
  | x :: xs =>
    match skip with
    | skip + 1 => marks m (index + 1) skip xs
    | 0 =>
      match m.mark (x :: xs) with
      | some length => (index, length) :: marks m (index + 1) (length - 1) xs
      | none => marks m (index + 1) 0 xs

/-- A mark and what follows it up to the next one. -/
structure Frame (m : Marker α) where
  head : List α
  body : List α
  head_ne : head ≠ []
  head_marked : m.mark head = some head.length
  /-- A part of the mark is not a mark. -/
  head_partial : ∀ part rest, part ≠ [] → rest ≠ [] → part ++ rest <:+ head → m.mark part = none
  /-- No mark begins in the body, whatever follows. -/
  body_clean : ∀ part rest, part ≠ [] → part <:+ body → m.mark (part ++ rest) = none

def Frame.elements {m : Marker α} (f : Frame m) : List α := f.head ++ f.body

def stream {m : Marker α} (fs : List (Frame m)) : List α := (fs.map Frame.elements).flatten

section Marks

variable {m : Marker α}

theorem marks_drop (xs : List α) (index skip : Nat) :
    marks m index skip xs = marks m (index + skip) 0 (xs.drop skip) := by
  induction xs generalizing index skip with
  | nil => rw [List.drop_nil]; rfl
  | cons x xs ih =>
    cases skip with
    | zero => rfl
    | succ skip =>
      rw [marks, ih, List.drop_succ_cons]
      congr 1
      omega

theorem scan_bounds {index i n : Nat} {xs : List α} (h : scan m index xs = some (i, n)) :
    index ≤ i ∧ i < index + xs.length ∧ 0 < n := by
  induction xs generalizing index with
  | nil => cases h
  | cons x xs ih =>
    rw [scan] at h
    split at h
    next length hmark =>
      cases h
      have hpos := m.mark_pos hmark
      rw [List.length_cons]
      omega
    next =>
      have hrest := ih h
      rw [List.length_cons]
      omega

theorem marks_of_scan_none {index : Nat} {xs : List α} (h : scan m index xs = none) :
    marks m index 0 xs = [] := by
  induction xs generalizing index with
  | nil => rfl
  | cons x xs ih =>
    rw [scan] at h
    split at h
    next => cases h
    next hmark =>
      rw [marks, hmark]
      exact ih h

theorem marks_of_scan_some {index i n : Nat} {xs : List α} (h : scan m index xs = some (i, n)) :
    marks m index 0 xs = (i, n) :: marks m (i + n) 0 (xs.drop (i + n - index)) := by
  induction xs generalizing index with
  | nil => cases h
  | cons x xs ih =>
    rw [scan] at h
    split at h
    next length hmark =>
      cases h
      obtain ⟨before, hbefore⟩ := Nat.exists_eq_add_one_of_ne_zero (m.mark_pos hmark).ne'
      rw [marks, hmark]
      dsimp only
      rw [marks_drop, Nat.add_sub_cancel_left, hbefore, Nat.add_sub_cancel, List.drop_succ_cons]
      congr 2
      omega
    next hmark =>
      obtain ⟨hle, -, -⟩ := scan_bounds h
      rw [marks, hmark]
      dsimp only
      rw [ih h, show i + n - index = (i + n - (index + 1)) + 1 by omega, List.drop_succ_cons]

theorem scan_of_marks_cons {index i n : Nat} {xs : List α} {rest : List (Nat × Nat)}
    (h : marks m index 0 xs = (i, n) :: rest) :
    scan m index xs = some (i, n) ∧ marks m (i + n) 0 (xs.drop (i + n - index)) = rest := by
  cases hscan : scan m index xs with
  | none => cases (marks_of_scan_none hscan).symm.trans h
  | some found =>
    have hmarks := (marks_of_scan_some hscan).symm.trans h
    cases hmarks
    exact ⟨rfl, rfl⟩

theorem scan_of_marks_nil {index : Nat} {xs : List α} (h : marks m index 0 xs = []) :
    scan m index xs = none := by
  cases hscan : scan m index xs with
  | none => rfl
  | some found => cases (marks_of_scan_some hscan).symm.trans h

/-- A stretch in which no mark begins is passed over. -/
theorem marks_clean {xs ys : List α} (h : ∀ part, part ≠ [] → part <:+ xs → m.mark (part ++ ys) = none)
    (index : Nat) : marks m index 0 (xs ++ ys) = marks m (index + xs.length) 0 ys := by
  induction xs generalizing index with
  | nil => rfl
  | cons x xs ih =>
    have hhead : m.mark (x :: (xs ++ ys)) = none :=
      h (x :: xs) (List.cons_ne_nil x xs) (List.suffix_refl _)
    rw [List.cons_append, marks, hhead]
    dsimp only
    rw [ih (fun part hne hpart => h part hne (hpart.trans (List.suffix_cons x xs)))]
    congr 1
    rw [List.length_cons]
    omega

theorem marks_head (f : Frame m) (rest : List α) (index : Nat) :
    marks m index 0 (f.head ++ rest) =
      (index, f.head.length) :: marks m (index + f.head.length) 0 rest := by
  obtain ⟨x, xs, hhead⟩ := List.exists_cons_of_ne_nil f.head_ne
  have hmark : m.mark (x :: (xs ++ rest)) = some (xs.length + 1) := by
    have h := m.mark_append rest f.head_marked
    rwa [hhead] at h
  rw [hhead, List.cons_append, marks, hmark]
  dsimp only
  rw [Nat.add_sub_cancel, marks_drop, List.drop_left, List.length_cons]
  congr 2
  omega

theorem marks_frame (f : Frame m) (rest : List α) (index : Nat) :
    marks m index 0 (f.elements ++ rest) =
      (index, f.head.length) :: marks m (index + f.elements.length) 0 rest := by
  rw [Frame.elements, List.append_assoc, marks_head]
  rw [marks_clean (fun part hne hpart => f.body_clean part rest hne hpart)]
  rw [List.length_append, Nat.add_assoc]

theorem mark_eq_none_of_append {xs ys : List α} (h : m.mark (xs ++ ys) = none) : m.mark xs = none := by
  cases hx : m.mark xs with
  | none => rfl
  | some n => cases h.symm.trans (m.mark_append ys hx)

/-- Of a frame that is cut in its body the mark shows. -/
theorem marks_cut_body (f : Frame m) {body rest : List α} (h : body ++ rest = f.body) (index : Nat) :
    marks m index 0 (f.head ++ body) = [(index, f.head.length)] := by
  have hclean : ∀ part, part ≠ [] → part <:+ body → m.mark (part ++ []) = none := by
    intro part hne hpart
    obtain ⟨before, rfl⟩ := hpart
    have hsuffix : part ++ rest <:+ f.body := ⟨before, by rw [← h, List.append_assoc]⟩
    have hnone := f.body_clean (part ++ rest) [] (List.append_ne_nil_of_left_ne_nil hne rest) hsuffix
    rw [List.append_assoc] at hnone
    rw [List.append_nil]
    exact mark_eq_none_of_append hnone
  have hbody := marks_clean hclean (index + f.head.length)
  rw [List.append_nil] at hbody
  rw [marks_head, hbody]
  rfl

/-- Of a frame that is cut in its mark nothing shows. -/
theorem marks_cut_head (f : Frame m) {head rest : List α} (h : head ++ rest = f.head) (hrest : rest ≠ [])
    (index : Nat) : marks m index 0 head = [] := by
  have hclean : ∀ part, part ≠ [] → part <:+ head → m.mark (part ++ []) = none := by
    intro part hne hpart
    obtain ⟨before, rfl⟩ := hpart
    rw [List.append_nil]
    exact f.head_partial part rest hne hrest ⟨before, by rw [← h, List.append_assoc]⟩
  have hhead := marks_clean hclean index
  rw [List.append_nil] at hhead
  exact hhead

end Marks

/-- A cut of a stream is some whole frames, and a part of the next that is cut in its mark or in its
body. -/
inductive Cut {m : Marker α} : List (Frame m) → List α → Prop
  | whole (fs later : List (Frame m)) : Cut (fs ++ later) (stream fs)
  | inHead (fs : List (Frame m)) (f : Frame m) (later : List (Frame m)) (head rest : List α)
    (split : head ++ rest = f.head) (left : rest ≠ []) : Cut (fs ++ f :: later) (stream fs ++ head)
  | inBody (fs : List (Frame m)) (f : Frame m) (later : List (Frame m)) (body rest : List α)
    (split : body ++ rest = f.body) (left : rest ≠ []) :
    Cut (fs ++ f :: later) (stream fs ++ (f.head ++ body))

section Cuts

variable {m : Marker α}

@[simp] theorem stream_nil : stream ([] : List (Frame m)) = [] := rfl

@[simp] theorem stream_cons (f : Frame m) (fs : List (Frame m)) : stream (f :: fs) = f.elements ++ stream fs := rfl

theorem stream_append (fs fs' : List (Frame m)) : stream (fs ++ fs') = stream fs ++ stream fs' := by
  simp [stream]

theorem Cut.cons (f : Frame m) {fs : List (Frame m)} {xs : List α} (h : Cut fs xs) :
    Cut (f :: fs) (f.elements ++ xs) := by
  cases h with
  | whole fs later => exact .whole (f :: fs) later
  | inHead fs g later head rest split left =>
    rw [← List.append_assoc]
    exact .inHead (f :: fs) g later head rest split left
  | inBody fs g later body rest split left =>
    rw [← List.append_assoc]
    exact .inBody (f :: fs) g later body rest split left

theorem cut_body (f : Frame m) (later : List (Frame m)) {body rest : List α} (h : body ++ rest = f.body) :
    Cut (f :: later) (f.head ++ body) := by
  by_cases hrest : rest = []
  · have hwhole : f.head ++ body = stream [f] := by
      rw [stream_cons, stream_nil, List.append_nil, Frame.elements, ← h, hrest, List.append_nil]
    rw [hwhole]
    exact .whole [f] later
  · exact .inBody [] f later body rest h hrest

theorem cut_of_prefix {fs : List (Frame m)} {xs : List α} (h : xs <+: stream fs) : Cut fs xs := by
  induction fs generalizing xs with
  | nil =>
    cases List.prefix_nil.mp h
    exact .whole [] []
  | cons f fs ih =>
    obtain ⟨after, hafter⟩ := h
    rcases List.append_eq_append_iff.mp hafter with ⟨rest, hf, -⟩ | ⟨xs', rfl, hxs⟩
    · rcases List.append_eq_append_iff.mp hf.symm with ⟨rest', hhead, hrest⟩ | ⟨body, rfl, hbody⟩
      · by_cases hne : rest' = []
        · rw [hne, List.append_nil] at hhead
          rw [← hhead, ← List.append_nil f.head]
          exact cut_body f fs rfl
        · exact .inHead [] f fs xs rest' hhead.symm hne
      · exact cut_body f fs hbody.symm
    · exact (ih ⟨after, hxs.symm⟩).cons f

/-- The marks of whole frames stand where the frames begin. -/
def offsets (index : Nat) : List (Frame m) → List (Nat × Nat)
  | [] => []
  | f :: fs => (index, f.head.length) :: offsets (index + f.elements.length) fs

theorem marks_stream (fs : List (Frame m)) (rest : List α) (index : Nat) :
    marks m index 0 (stream fs ++ rest) =
      offsets index fs ++ marks m (index + (stream fs).length) 0 rest := by
  induction fs generalizing index with
  | nil => rfl
  | cons f fs ih =>
    rw [stream_cons, List.append_assoc, marks_frame, ih, offsets, List.length_append, Nat.add_assoc]
    rfl

theorem offsets_append (fs fs' : List (Frame m)) (index : Nat) :
    offsets index (fs ++ fs') = offsets index fs ++ offsets (index + (stream fs).length) fs' := by
  induction fs generalizing index with
  | nil => rfl
  | cons f fs ih =>
    rw [List.cons_append, offsets, ih, offsets, stream_cons, List.length_append, Nat.add_assoc]
    rfl

theorem stream_dropLast (fs : List (Frame m)) : ∃ rest, stream fs = stream fs.dropLast ++ rest := by
  rcases List.eq_nil_or_concat fs with rfl | ⟨before, f, rfl⟩
  · exact ⟨[], rfl⟩
  · exact ⟨f.elements, by rw [List.concat_eq_append, List.dropLast_concat, stream_append]; simp⟩

/-- In a cut of a stream the marks are those of its first frames, of which all but the last are
there in full. -/
theorem marks_of_prefix {fs : List (Frame m)} {xs : List α} (h : xs <+: stream fs) :
    ∃ shown later, fs = shown ++ later ∧ marks m 0 0 xs = offsets 0 shown ∧
      ∃ rest, xs = stream shown.dropLast ++ rest := by
  cases cut_of_prefix h with
  | whole shown later =>
    refine ⟨shown, later, rfl, ?_, ?_⟩
    · have hmarks := marks_stream shown [] 0
      rw [List.append_nil] at hmarks
      rw [hmarks]
      exact List.append_nil _
    · exact stream_dropLast shown
  | inHead shown f later head rest split left =>
    refine ⟨shown, f :: later, rfl, ?_, ?_⟩
    · rw [marks_stream, marks_cut_head f split left, List.append_nil]
    · obtain ⟨last, hlast⟩ := stream_dropLast shown
      exact ⟨last ++ head, by rw [hlast, List.append_assoc]⟩
  | inBody shown f later body rest split left =>
    refine ⟨shown ++ [f], later, by simp, ?_, ?_⟩
    · rw [marks_stream, marks_cut_body f split, offsets_append]
      rfl
    · rw [List.dropLast_concat]
      exact ⟨_, rfl⟩

end Cuts

end Framing
