import StreamSync.ControlResponse
import StreamSync.Lib.TextSlices

namespace StreamSync

open LineText TextSlices

def windowsLocalNamedPipePrefix : String := "\\\\.\\pipe\\"

/-- `strip_windows_local_named_pipe_prefix`; the outer `none` is a panic. -/
def stripWindowsLocalNamedPipePrefix (value : String) : Option (Option String) :=
  if windowsLocalNamedPipePrefix.utf8ByteSize ≤ value.utf8ByteSize then do
    let (start, _) ← cutAt value.toList windowsLocalNamedPipePrefix.utf8ByteSize
    if eqIgnoreAsciiCase start windowsLocalNamedPipePrefix.toList then
      let (_, suffix) ← cutAt value.toList windowsLocalNamedPipePrefix.utf8ByteSize
      return some (String.ofList suffix)
    else return none
  else some none

def emptyPipeNameError : IoError := ⟨.other "InvalidInput", "named pipe name must not be empty"⟩

/-- `normalize_windows_local_named_pipe_path`; `none` is a panic. -/
def normalizeWindowsLocalNamedPipePath (pipeName : String) : Option (Except IoError String) :=
  let trimmed := trimText pipeName
  if trimmed.isEmpty then some (.error emptyPipeNameError)
  else do
    let suffix := (← stripWindowsLocalNamedPipePrefix trimmed).getD trimmed
    if suffix.isEmpty then return .error emptyPipeNameError
    else return .ok (windowsLocalNamedPipePrefix ++ suffix)

/-- The path in the summaries of the server and of the switcher. -/
def formatActualHandoffPipePath (pipeName : String) : Option String := do
  match ← normalizeWindowsLocalNamedPipePath pipeName with
  | .ok path => return path
  | .error _ => return "invalid"

theorem toList_windowsLocalNamedPipePrefix :
    windowsLocalNamedPipePrefix.toList = ['\\', '\\', '.', '\\', 'p', 'i', 'p', 'e', '\\'] :=
  String.toList_ofList

example : windowsLocalNamedPipePrefix.utf8ByteSize = 9 := rfl

/-- A value is cut where its first bytes are compared with the prefix, whatever they are. -/
theorem stripWindowsLocalNamedPipePrefix_eq_none_iff {value : String} :
    stripWindowsLocalNamedPipePrefix value = none ↔
      windowsLocalNamedPipePrefix.utf8ByteSize ≤ value.utf8ByteSize ∧
        ¬windowsLocalNamedPipePrefix.rawEndPos.IsValid value := by
  have hvalid : windowsLocalNamedPipePrefix.rawEndPos.IsValid value ↔
      (cutAt value.toList windowsLocalNamedPipePrefix.utf8ByteSize).isSome := isSome_cutAt_iff.symm
  rw [hvalid, stripWindowsLocalNamedPipePrefix]
  split
  next hlong =>
    cases hcut : cutAt value.toList windowsLocalNamedPipePrefix.utf8ByteSize with
    | none => simp [hlong]
    | some parts =>
      simp only [Option.bind_eq_bind, Option.bind_some, Option.isSome_some, not_true_eq_false, and_false, iff_false]
      split <;> exact Option.some_ne_none _
  next hshort => simp [hshort]

theorem stripWindowsLocalNamedPipePrefix_append {start : String}
    (hstart : eqIgnoreAsciiCase start.toList windowsLocalNamedPipePrefix.toList = true) (suffix : String) :
    stripWindowsLocalNamedPipePrefix (start ++ suffix) = some (some suffix) := by
  have hlen : windowsLocalNamedPipePrefix.utf8ByteSize = byteLen start.toList := by
    rw [utf8ByteSize_eq, byteLen_eq_of_eqIgnoreAsciiCase hstart]
  have hlong : windowsLocalNamedPipePrefix.utf8ByteSize ≤ (start ++ suffix).utf8ByteSize := by
    rw [String.utf8ByteSize_append, utf8ByteSize_eq start]
    omega
  have hcut : cutAt (start ++ suffix).toList windowsLocalNamedPipePrefix.utf8ByteSize =
      some (start.toList, suffix.toList) := by
    rw [hlen, String.toList_append, cutAt_append]
  rw [stripWindowsLocalNamedPipePrefix, if_pos hlong, hcut]
  simp only [Option.bind_eq_bind, Option.bind_some, hstart, if_true, String.ofList_toList]
  rfl

/-- What is stripped off stands in front of what is left. -/
theorem toList_of_strip {value suffix : String}
    (h : stripWindowsLocalNamedPipePrefix value = some (some suffix)) :
    ∃ start, value.toList = start ++ suffix.toList := by
  unfold stripWindowsLocalNamedPipePrefix at h
  split at h
  next =>
    obtain ⟨⟨start, back⟩, hcut, h⟩ := Option.bind_eq_some_iff.mp h
    dsimp only at h
    split at h
    next =>
      rw [hcut] at h
      cases h
      exact ⟨start, by rw [String.toList_ofList]; exact (cutAt_eq_some_iff.mp hcut).1⟩
    next => cases h
  next => cases h

/-- A name behind the prefix is one that `str::trim` and the next call leave as it is. -/
structure IsPipeSuffix (suffix : String) : Prop where
  nonempty : suffix.toList ≠ []
  last : ∀ c, suffix.toList.getLast? = some c → isWhitespace c = false

theorem isWhitespace_of_head {start : String}
    (hstart : eqIgnoreAsciiCase start.toList windowsLocalNamedPipePrefix.toList = true) {c : Char}
    (hc : start.toList.head? = some c) : isWhitespace c = false := by
  have hfold := congrArg List.head? (of_decide_eq_true hstart)
  rw [List.head?_map, hc, toList_windowsLocalNamedPipePrefix] at hfold
  have hslash : c.toLower = '\\' := Option.some.inj hfold
  rcases toLower_cases c with hsame | ⟨hlow, -, hlower⟩
  · rw [← hsame, hslash]
    decide
  · rw [hslash] at hlower
    have hcode : ('\\' : Char).val.toNat = 92 := rfl
    omega

theorem trimText_append {start suffix : String}
    (hstart : eqIgnoreAsciiCase start.toList windowsLocalNamedPipePrefix.toList = true)
    (h : IsPipeSuffix suffix) : trimText (start ++ suffix) = start ++ suffix := by
  have htrim : trim isWhitespace (start ++ suffix).toList = (start ++ suffix).toList := by
    refine trim_eq_self (fun c hc => ?_) (fun c hc => h.last c ?_)
    · cases htext : start.toList with
      | nil =>
        rw [htext] at hstart
        cases hstart
      | cons d rest =>
        rw [String.toList_append, htext] at hc
        exact isWhitespace_of_head hstart (by rw [htext]; exact hc)
    · rwa [String.toList_append, List.getLast?_append_of_ne_nil _ h.nonempty] at hc
  rw [trimText, htrim, String.ofList_toList]

/-- Behind the prefix, in whatever case that is written, the name is taken as it is. -/
theorem normalizeWindowsLocalNamedPipePath_append {start suffix : String}
    (hstart : eqIgnoreAsciiCase start.toList windowsLocalNamedPipePrefix.toList = true)
    (h : IsPipeSuffix suffix) :
    normalizeWindowsLocalNamedPipePath (start ++ suffix) =
      some (.ok (windowsLocalNamedPipePrefix ++ suffix)) := by
  have hpath : ¬(start ++ suffix).isEmpty = true := by
    rw [isEmpty_text_iff, String.toList_append]
    exact List.append_ne_nil_of_right_ne_nil _ h.nonempty
  have hsuffix : ¬suffix.isEmpty = true := by
    rw [isEmpty_text_iff]
    exact h.nonempty
  unfold normalizeWindowsLocalNamedPipePath
  dsimp only
  rw [trimText_append hstart h, if_neg hpath, stripWindowsLocalNamedPipePrefix_append hstart, Option.bind_eq_bind,
    Option.bind_some, Option.getD_some, if_neg hsuffix]
  rfl

theorem suffix_of_normalize {pipeName path : String}
    (h : normalizeWindowsLocalNamedPipePath pipeName = some (.ok path)) :
    ∃ suffix, IsPipeSuffix suffix ∧ path = windowsLocalNamedPipePrefix ++ suffix := by
  have hlast : ∀ c, (trimText pipeName).toList.getLast? = some c → isWhitespace c = false := by
    intro c hc
    rw [trimText, String.toList_ofList] at hc
    exact getLast?_trim hc
  unfold normalizeWindowsLocalNamedPipePath at h
  dsimp only at h
  split at h
  next => cases h
  next =>
    obtain ⟨stripped, hstrip, h⟩ := Option.bind_eq_some_iff.mp h
    split at h
    next => cases h
    next hsuffix =>
      cases h
      have hnonempty := mt isEmpty_text_iff.mpr hsuffix
      refine ⟨stripped.getD (trimText pipeName), ⟨hnonempty, fun c hc => hlast c ?_⟩, rfl⟩
      cases stripped with
      | none => exact hc
      | some suffix =>
        obtain ⟨start, hvalue⟩ := toList_of_strip hstrip
        rw [Option.getD_some] at hc hnonempty
        rw [hvalue, List.getLast?_append_of_ne_nil _ hnonempty]
        exact hc

theorem normalizeWindowsLocalNamedPipePath_eq_none_iff {pipeName : String} :
    normalizeWindowsLocalNamedPipePath pipeName = none ↔
      windowsLocalNamedPipePrefix.utf8ByteSize ≤ (trimText pipeName).utf8ByteSize ∧
        ¬windowsLocalNamedPipePrefix.rawEndPos.IsValid (trimText pipeName) := by
  rw [← stripWindowsLocalNamedPipePrefix_eq_none_iff, normalizeWindowsLocalNamedPipePath]
  dsimp only
  split
  next hempty =>
    have hshort : stripWindowsLocalNamedPipePrefix (trimText pipeName) = some none := by
      refine if_neg (Nat.not_le.mpr ?_)
      rw [utf8ByteSize_eq (trimText pipeName), isEmpty_text_iff.mp hempty]
      decide
    rw [hshort]
    exact iff_of_false (Option.some_ne_none _) (Option.some_ne_none _)
  next =>
    cases hstrip : stripWindowsLocalNamedPipePrefix (trimText pipeName) with
    | none => exact iff_of_true rfl rfl
    | some stripped =>
      rw [Option.bind_eq_bind, Option.bind_some]
      split <;> exact iff_of_false (Option.some_ne_none _) (Option.some_ne_none _)

/-- The summaries panic on the names on which the path does. -/
theorem formatActualHandoffPipePath_eq_none_iff {pipeName : String} :
    formatActualHandoffPipePath pipeName = none ↔ normalizeWindowsLocalNamedPipePath pipeName = none := by
  unfold formatActualHandoffPipePath
  cases normalizeWindowsLocalNamedPipePath pipeName with
  | none => exact iff_of_true rfl rfl
  | some result => cases result <;> exact iff_of_false (Option.some_ne_none _) (Option.some_ne_none _)

/-- A path that was returned once is returned again. -/
theorem normalizeWindowsLocalNamedPipePath_idem {pipeName path : String}
    (h : normalizeWindowsLocalNamedPipePath pipeName = some (.ok path)) :
    normalizeWindowsLocalNamedPipePath path = some (.ok path) := by
  obtain ⟨suffix, hsuffix, rfl⟩ := suffix_of_normalize h
  exact normalizeWindowsLocalNamedPipePath_append (eqIgnoreAsciiCase_self _) hsuffix

/-- A name is normalized, and its path then stays as it is, exactly when the prefix does not end within
a character of the trimmed name. -/
theorem normalizeWindowsLocalNamedPipePath_total_iff (pipeName : String) :
    (∃ result, normalizeWindowsLocalNamedPipePath pipeName = some result ∧
        ∀ path, result = .ok path → normalizeWindowsLocalNamedPipePath path = some (.ok path)) ↔
      (trimText pipeName).utf8ByteSize < windowsLocalNamedPipePrefix.utf8ByteSize ∨
        windowsLocalNamedPipePrefix.rawEndPos.IsValid (trimText pipeName) := by
  have hreturns : (∃ result, normalizeWindowsLocalNamedPipePath pipeName = some result) ↔
      (trimText pipeName).utf8ByteSize < windowsLocalNamedPipePrefix.utf8ByteSize ∨
        windowsLocalNamedPipePrefix.rawEndPos.IsValid (trimText pipeName) := by
    rw [← Option.ne_none_iff_exists', ne_eq, normalizeWindowsLocalNamedPipePath_eq_none_iff, not_and_or, not_not,
      Nat.not_le]
  rw [← hreturns]
  refine exists_congr fun result => and_iff_left_of_imp fun hresult path hpath => ?_
  exact normalizeWindowsLocalNamedPipePath_idem (hpath ▸ hresult)

theorem normalizeWindowsLocalNamedPipePath_panics :
    ¬∃ result, normalizeWindowsLocalNamedPipePath "handoff-é" = some result ∧
      ∀ path, result = .ok path → normalizeWindowsLocalNamedPipePath path = some (.ok path) := by
  have hname : "handoff-é".toList = ['h', 'a', 'n', 'd', 'o', 'f', 'f', '-', 'é'] := String.toList_ofList
  have htrim : trimText "handoff-é" = "handoff-é" := by
    rw [trimText, hname]
    rfl
  have hpanic : normalizeWindowsLocalNamedPipePath "handoff-é" = none := by
    rw [normalizeWindowsLocalNamedPipePath_eq_none_iff, htrim]
    have hcut : ¬(cutAt "handoff-é".toList windowsLocalNamedPipePrefix.utf8ByteSize).isSome := by
      rw [hname]
      decide
    refine ⟨?_, fun hvalid => hcut (isSome_cutAt_iff.mpr hvalid)⟩
    rw [utf8ByteSize_eq "handoff-é", hname]
    decide
  rintro ⟨result, hresult, -⟩
  rw [hpanic] at hresult
  cases hresult

end StreamSync
