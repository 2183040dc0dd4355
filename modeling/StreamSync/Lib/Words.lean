import StreamSync.Lib.LineText

namespace Words

open LineText

variable {α : Type}

/-- `str::split_whitespace`, for the characters that separate. -/
def words (sep : α → Bool) (l : List α) : List (List α) := (l.splitOnP sep).filter fun w => !w.isEmpty

/-- What of a value belongs to the word it is put behind. -/
def attached (sep : α → Bool) (value : List α) : List α := value.takeWhile fun a => !sep a

/-- The words of a value behind its first separator. They stand alone wherever the value is put. -/
def loose (sep : α → Bool) (value : List α) : List (List α) := words sep (value.dropWhile fun a => !sep a)

section

variable {sep : α → Bool}

@[simp] theorem words_nil : words sep [] = [] := rfl

theorem words_append_cons {a : α} (ha : sep a = true) (l m : List α) :
    words sep (l ++ a :: m) = words sep l ++ words sep m := by
  unfold words
  rw [List.splitOnP_append_cons l m ha, List.filter_append]

theorem words_cons {a : α} (ha : sep a = true) (l : List α) : words sep (a :: l) = words sep l :=
  words_append_cons ha [] l

theorem mem_of_mem_splitOnP {l w : List α} (hw : w ∈ l.splitOnP sep) {a : α} (ha : a ∈ w) : a ∈ l := by
  induction l generalizing w with
  | nil =>
    rw [List.splitOnP_nil, List.mem_singleton] at hw
    exact hw ▸ ha
  | cons b l ih =>
    rw [List.splitOnP_cons_eq_if_modifyHead] at hw
    obtain ⟨part, parts, hparts⟩ := List.exists_cons_of_ne_nil (List.splitOnP_ne_nil sep l)
    split at hw
    next =>
      rcases List.mem_cons.mp hw with rfl | hw
      · cases ha
      · exact List.mem_cons_of_mem b (ih hw ha)
    next =>
      rw [hparts, List.modifyHead_cons] at hw
      rcases List.mem_cons.mp hw with rfl | hw
      · rcases List.mem_cons.mp ha with rfl | ha
        · exact List.mem_cons_self
        · exact List.mem_cons_of_mem b (ih (hparts ▸ List.mem_cons_self) ha)
      · exact List.mem_cons_of_mem b (ih (hparts ▸ List.mem_cons_of_mem part hw) ha)

theorem mem_of_mem_words {l w : List α} (hw : w ∈ words sep l) {a : α} (ha : a ∈ w) : a ∈ l :=
  mem_of_mem_splitOnP (List.mem_filter.mp hw).1 ha

theorem words_of_clean {l : List α} (hne : l ≠ []) (h : ∀ a ∈ l, sep a = false) : words sep l = [l] := by
  unfold words
  rw [List.splitOnP_eq_singleton h, List.filter_cons_of_pos (by simpa using hne)]
  rfl

theorem attached_append_dropWhile (sep : α → Bool) (value : List α) :
    attached sep value ++ value.dropWhile (fun a => !sep a) = value := List.takeWhile_append_dropWhile

theorem clean_attached (sep : α → Bool) (value : List α) : ∀ a ∈ attached sep value, sep a = false :=
  fun a ha => by simpa using List.mem_takeWhile_imp ha

theorem attached_eq_self {value : List α} (h : ∀ a ∈ value, sep a = false) : attached sep value = value :=
  List.takeWhile_eq_self_iff.mpr fun a ha => by simp [h a ha]

theorem loose_of_clean {value : List α} (h : ∀ a ∈ value, sep a = false) : loose sep value = [] := by
  unfold loose
  rw [List.dropWhile_eq_nil_iff.mpr fun a ha => by simp [h a ha]]
  rfl

/-- A word with a value behind it takes in the first part of the value. -/
theorem words_append_value {word : List α} (hne : word ≠ []) (hword : ∀ a ∈ word, sep a = false)
    (value : List α) : words sep (word ++ value) = (word ++ attached sep value) :: loose sep value := by
  have hclean : ∀ a ∈ word ++ attached sep value, sep a = false := fun a ha =>
    (List.mem_append.mp ha).elim (hword a) (clean_attached sep value a)
  have hone := words_of_clean (List.append_ne_nil_of_left_ne_nil hne _) hclean
  cases hrest : value.dropWhile (fun a => !sep a) with
  | nil =>
    have hvalue : attached sep value = value := by
      have h := attached_append_dropWhile sep value
      rwa [hrest, List.append_nil] at h
    rw [loose, hrest, words_nil, ← hone, hvalue]
  | cons a rest =>
    have ha : sep a = true := by
      have hhead := List.head?_dropWhile_not (fun a => !sep a) value
      rw [hrest] at hhead
      simpa using hhead
    have hvalue : word ++ value = word ++ attached sep value ++ a :: rest := by
      rw [List.append_assoc, ← hrest, attached_append_dropWhile]
    rw [hvalue, words_append_cons ha, hone, loose, hrest, words_cons ha]
    rfl

end

/-- What a value after the equals sign of a name spells. -/
def assignment (eq : α) (name value : List α) : List α := name ++ eq :: value

/-- A line of named values behind a first text, with a separator in front of each. -/
def line (space eq : α) (first : List α) (fields : List (List α × List α)) : List α :=
  first ++ fields.flatMap fun field => space :: assignment eq field.1 field.2

section

variable {sep : α → Bool} {space eq : α}

/-- The words of a line are those of its first text and, for each field, the name with what is attached
to it and the loose words of the value. -/
theorem words_line (hspace : sep space = true) (heq : sep eq = false) (first : List α)
    {fields : List (List α × List α)} (hfields : ∀ field ∈ fields, ∀ a ∈ field.1, sep a = false) :
    words sep (line space eq first fields) = words sep first ++ fields.flatMap fun field =>
      assignment eq field.1 (attached sep field.2) :: loose sep field.2 := by
  induction fields generalizing first with
  | nil => rw [line, List.flatMap_nil, List.flatMap_nil, List.append_nil, List.append_nil]
  | cons field fields ih =>
    obtain ⟨hfield, hrest⟩ := List.forall_mem_cons.mp hfields
    have hword : ∀ a ∈ field.1 ++ [eq], sep a = false := fun a ha =>
      (List.mem_append.mp ha).elim (hfield a) fun hmem => (List.mem_singleton.mp hmem) ▸ heq
    have hsplit : line space eq first (field :: fields) =
        line space eq (first ++ space :: assignment eq field.1 field.2) fields := by
      unfold line
      rw [List.flatMap_cons, List.append_assoc]
    have hvalue := words_append_value (by simp) hword field.2
    rw [List.append_assoc, List.append_assoc, List.singleton_append, List.singleton_append] at hvalue
    rw [hsplit, ih _ hrest, words_append_cons hspace, assignment, hvalue, List.flatMap_cons,
      List.append_assoc]
    rfl

end

section

variable [DecidableEq α] {sep : α → Bool} {space eq : α}

/-- The value of a name: what is behind the name and the equals sign in the first word that begins
with them. -/
def extract (sep : α → Bool) (eq : α) (name l : List α) : Option (List α) :=
  (words sep l).findSome? (stripPrefix (name ++ [eq]))

/-- The first of the loose words of some values that reads as the name with a value. -/
def intruder (sep : α → Bool) (eq : α) (name : List α) (values : List (List α)) : Option (List α) :=
  (values.flatMap (loose sep)).findSome? (stripPrefix (name ++ [eq]))

theorem stripPrefix_assignment_self (name value : List α) :
    stripPrefix (name ++ [eq]) (assignment eq name value) = some value := by
  have h := stripPrefix_append (name ++ [eq]) value
  rwa [List.append_assoc] at h

theorem stripPrefix_of_not_mem {w : List α} (h : eq ∉ w) (name : List α) :
    stripPrefix (name ++ [eq]) w = none := by
  induction name generalizing w with
  | nil =>
    cases w with
    | nil => rfl
    | cons b w =>
      refine if_neg ?_
      rintro rfl
      exact h List.mem_cons_self
  | cons a name ih =>
    cases w with
    | nil => rfl
    | cons b w =>
      rw [List.cons_append, stripPrefix]
      split
      next => exact ih fun hmem => h (List.mem_cons_of_mem b hmem)
      next => rfl

/-- A word that names one value is not taken for another. -/
theorem stripPrefix_assignment_ne {name other : List α} (hne : other ≠ name) (hname : eq ∉ name)
    (hother : eq ∉ other) (value : List α) :
    stripPrefix (name ++ [eq]) (assignment eq other value) = none := by
  induction name generalizing other with
  | nil =>
    cases other with
    | nil => exact absurd rfl hne
    | cons b other =>
      refine if_neg ?_
      rintro rfl
      exact hother List.mem_cons_self
  | cons a name ih =>
    cases other with
    | nil =>
      refine if_neg ?_
      rintro rfl
      exact hname List.mem_cons_self
    | cons b other =>
      by_cases hab : a = b
      · subst hab
        exact (if_pos rfl).trans (ih (fun h => hne (congrArg (a :: ·) h))
          (fun h => hname (List.mem_cons_of_mem _ h)) fun h => hother (List.mem_cons_of_mem _ h))
      · exact if_neg hab

/-- Of the words of other fields only the loose ones can be taken for the name. -/
theorem findSome?_other_fields {name : List α} (hname : eq ∉ name) {fields : List (List α × List α)}
    (hfields : ∀ field ∈ fields, field.1 ≠ name ∧ eq ∉ field.1) :
    (fields.flatMap fun field => assignment eq field.1 (attached sep field.2) ::
        loose sep field.2).findSome? (stripPrefix (name ++ [eq])) =
      intruder sep eq name (fields.map Prod.snd) := by
  unfold intruder
  induction fields with
  | nil => rfl
  | cons field fields ih =>
    obtain ⟨⟨hne, hfree⟩, hrest⟩ := List.forall_mem_cons.mp hfields
    rw [List.flatMap_cons, List.cons_append, List.findSome?_cons, stripPrefix_assignment_ne hne hname hfree]
    dsimp only
    rw [List.findSome?_append, ih hrest, List.map_cons, List.flatMap_cons, List.findSome?_append]

/-- In a line whose first text does not name the value, the reader finds the first intruder among the
values in front of the field, and else the field itself, as far as its first separator. -/
theorem extract_line (hspace : sep space = true) (heq : sep eq = false) {first name : List α}
    (hfirst : (words sep first).findSome? (stripPrefix (name ++ [eq])) = none)
    (before after : List (List α × List α)) (value : List α) (hname : eq ∉ name)
    (hbefore : ∀ field ∈ before, field.1 ≠ name ∧ eq ∉ field.1)
    (hclean : ∀ field ∈ before ++ (name, value) :: after, ∀ a ∈ field.1, sep a = false) :
    extract sep eq name (line space eq first (before ++ (name, value) :: after)) =
      some ((intruder sep eq name (before.map Prod.snd)).getD (attached sep value)) := by
  unfold extract
  rw [words_line hspace heq first hclean, List.findSome?_append, hfirst, Option.none_or,
    List.flatMap_append, List.findSome?_append, findSome?_other_fields hname hbefore, List.flatMap_cons,
    List.cons_append, List.findSome?_cons, stripPrefix_assignment_self]
  cases intruder sep eq name (before.map Prod.snd) with
  | none => rfl
  | some found => rfl

end

end Words
