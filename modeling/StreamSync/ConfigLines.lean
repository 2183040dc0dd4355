import StreamSync.Lib.LineText
import StreamSync.RustStd

namespace StreamSync

open Fallible LineText

/-- What both config parsers read of a line: the text before the comment, trimmed. -/
def readLine (rawLine : List Char) : List Char := trim isWhitespace (beforeFirst '#' rawLine)

def tableHeader (rawLine : List Char) : Option (List Char) := enclosed '[' ']' (readLine rawLine)

def lineKey (rawLine : List Char) : Option String :=
  (splitOnce '=' (readLine rawLine)).map fun (key, _) => String.ofList (trim isWhitespace key)

/-- Some line gives a token inside one of the named tables. -/
def writesToken (isTable : List Char → Bool) : Bool → List (List Char) → Bool
  | _, [] => false
  | inTable, line :: rest =>
    match tableHeader line with
    | some header => writesToken isTable (isTable header) rest
    | none => (inTable && lineKey line = some "shared_token") || writesToken isTable inTable rest

theorem writesToken_cons {isTable : List Char → Bool} {inTable : Bool} {line : List Char}
    {rest : List (List Char)} (h : writesToken isTable inTable (line :: rest) = false) :
    (inTable = true → tableHeader line = none → lineKey line ≠ some "shared_token") ∧
      writesToken isTable (((tableHeader line).map isTable).getD inTable) rest = false := by
  unfold writesToken at h
  cases hheader : tableHeader line with
  | some header =>
    rw [hheader] at h
    exact ⟨fun _ hnone => absurd hnone (by simp), h⟩
  | none =>
    rw [hheader] at h
    obtain ⟨hline, hrest⟩ := Bool.or_eq_false_iff.mp h
    refine ⟨fun hin _ hkey => ?_, hrest⟩
    simp [hin, hkey] at hline

/-- A config file around the line that gives a token: what precedes the table, the table's lines before
the token, and the rest of the file. -/
structure TokenFile where
  before : String
  entries : String
  after : String
deriving DecidableEq, Repr

/-- A token that is not blank and has no quote and no line break. -/
structure PlainToken (token : String) : Prop where
  noQuote : '"' ∉ token.toList
  noLineFeed : '\n' ∉ token.toList
  noCarriageReturn : '\r' ∉ token.toList
  notBlank : isBlank token = false

/-- A name that a table header can hold as it is. -/
structure UsableTableName (name : String) : Prop where
  notEmpty : name ≠ ""
  trimmed : trim isWhitespace name.toList = name.toList
  noComment : '#' ∉ name.toList
  noLineFeed : '\n' ∉ name.toList

def tableLine (header : String) : List Char := '[' :: (header.toList ++ [']'])

def tokenAssignment : List Char := "shared_token = ".toList

def tokenLine (token : String) : List Char := tokenAssignment ++ '"' :: (token.toList ++ ['"'])

namespace TokenFile

def text (file : TokenFile) (header token : String) : String :=
  String.ofList (file.before.toList ++ '\n' :: (tableLine header ++ '\n' ::
    (file.entries.toList ++ '\n' :: (tokenLine token ++ '\n' :: file.after.toList))))

/-- The lines of a file that come before its token. -/
def linesBefore (file : TokenFile) (header : String) : List (List Char) :=
  lines (file.before.toList ++ ['\n']) ++ tableLine header :: lines (file.entries.toList ++ ['\n'])

/-- The token stands in the table that the file puts it in, and the rest of the file does not give that
table another one. -/
structure GivesToken (file : TokenFile) (isTable : List Char → Bool) : Prop where
  entries : ∀ line ∈ lines (file.entries.toList ++ ['\n']), tableHeader line = none
  after : writesToken isTable true (lines file.after.toList) = false

theorem getLast?_tableLine (header : String) : (tableLine header).getLast? = some ']' := by
  unfold tableLine
  rw [← List.cons_append, List.getLast?_concat]

theorem getLast?_tokenLine (token : String) : (tokenLine token).getLast? = some '"' := by
  unfold tokenLine
  rw [← List.cons_append, ← List.append_assoc, List.getLast?_concat]

theorem lines_text (file : TokenFile) {header token : String} (hheader : '\n' ∉ header.toList)
    (htoken : '\n' ∉ token.toList) :
    lines (file.text header token).toList =
      file.linesBefore header ++ tokenLine token :: lines file.after.toList := by
  have htable : lines (tableLine header ++ ['\n']) = [tableLine header] :=
    lines_line (by simp [tableLine, hheader]) (by simp [getLast?_tableLine])
  have hassignment : '\n' ∉ tokenAssignment := by decide
  have hline : lines (tokenLine token ++ ['\n']) = [tokenLine token] :=
    lines_line (by simp [tokenLine, hassignment, htoken]) (by simp [getLast?_tokenLine])
  unfold text linesBefore
  rw [String.toList_ofList, lines_append_newline, lines_append_newline (tableLine header),
    lines_append_newline file.entries.toList, lines_append_newline (tokenLine token), htable, hline]
  simp

end TokenFile

theorem readLine_tableLine {header : String} (h : '#' ∉ header.toList) :
    readLine (tableLine header) = tableLine header := by
  have hhash : '#' ∉ tableLine header := by simp [tableLine, h]
  have hwhole : beforeFirst '#' (tableLine header) = tableLine header := by
    unfold beforeFirst
    rw [splitOnce_eq_none hhash]
  unfold readLine
  rw [hwhole]
  refine trim_eq_self (fun c hc => ?_) fun c hc => ?_
  · cases Option.some.inj hc
    rfl
  · rw [TokenFile.getLast?_tableLine] at hc
    cases Option.some.inj hc
    rfl

theorem tableHeader_tableLine {header : String} (h : '#' ∉ header.toList) :
    tableHeader (tableLine header) = some header.toList := by
  unfold tableHeader
  rw [readLine_tableLine h]
  exact enclosed_append ..

/-- A comment may start inside the quotes; then they are not closed. -/
theorem enclosed_value {token : String} (hquote : '"' ∉ token.toList) :
    enclosed '"' '"' ('"' :: (beforeFirst '#' (token.toList ++ ['"'])).rdropWhile isWhitespace) =
      if '#' ∈ token.toList then none else some token.toList := by
  split
  next hhash =>
    refine enclosed_of_not_mem fun hmem => ?_
    have hmem := (List.rdropWhile_prefix isWhitespace _).subset hmem
    obtain ⟨before, after, htoken, hbefore⟩ := List.eq_append_cons_of_mem hhash
    rw [htoken, List.append_assoc, beforeFirst, List.cons_append, splitOnce_append hbefore] at hmem
    exact hquote (by simp [htoken, hmem])
  next hhash =>
    have hwhole : beforeFirst '#' (token.toList ++ ['"']) = token.toList ++ ['"'] := by
      unfold beforeFirst
      rw [splitOnce_eq_none (by simp [hhash])]
    rw [hwhole, rdropWhile_append_cons (by decide)]
    exact enclosed_append ..

/-- How the token's line is read: it is an entry, and its value is quoted unless a comment cuts it. -/
theorem readLine_tokenLine {token : String} (hquote : '"' ∉ token.toList) :
    ∃ key rawValue,
      readLine (tokenLine token) ≠ [] ∧
      enclosed '[' ']' (readLine (tokenLine token)) = none ∧
      splitOnce '=' (readLine (tokenLine token)) = some (key, rawValue) ∧
      String.ofList (trim isWhitespace key) = "shared_token" ∧
      enclosed '"' '"' (trim isWhitespace rawValue) =
        if '#' ∈ token.toList then none else some token.toList := by
  have hline : readLine (tokenLine token) = tokenAssignment ++ '"' ::
      (beforeFirst '#' (token.toList ++ ['"'])).rdropWhile isWhitespace := by
    have hhead : ∀ b, tokenAssignment.head? = some b → isWhitespace b = false := by
      intro b hb
      have hfirst : tokenAssignment.head? = some 's' := by decide
      cases Option.some.inj (hfirst.symm.trans hb)
      decide
    unfold readLine tokenLine
    rw [beforeFirst_append (by decide), ← List.singleton_append, beforeFirst_append (by decide),
      List.singleton_append, trim_append_cons (by decide) hhead]
  have hsplit : tokenAssignment = "shared_token ".toList ++ ['=', ' '] := by decide
  refine ⟨"shared_token ".toList, ' ' :: '"' ::
    (beforeFirst '#' (token.toList ++ ['"'])).rdropWhile isWhitespace, ?_, ?_, ?_, by decide, ?_⟩
  · rw [hline]
    exact List.append_ne_nil_of_right_ne_nil _ (List.cons_ne_nil _ _)
  · rw [hline]
    exact enclosed_of_head (by decide) _
  · rw [hline, hsplit, List.append_assoc]
    exact splitOnce_append (by decide) _
  · rw [← enclosed_value hquote]
    unfold trim
    rw [List.dropWhile_cons_of_pos (by decide), List.dropWhile_cons_of_neg (by decide),
      ← List.nil_append ('"' :: _), rdropWhile_append_cons (by decide), List.rdropWhile_idempotent]

/-- A parser of config lines, with what it makes of a token: it tracks the table it stands in, and what it
reads elsewhere does not depend on the token it has read. -/
structure TokenParser (σ ε : Type) where
  step : Nat → List Char → σ → Except ε σ
  isTable : List Char → Bool
  inTable : σ → Bool
  withToken : σ → String → σ
  unquoted : Nat → ε
  withToken_again : ∀ state first second, withToken (withToken state first) second = withToken state second
  inTable_withToken : ∀ state token, inTable (withToken state token) = inTable state
  inTable_step : ∀ {lineNumber line state state'}, step lineNumber line state = .ok state' →
    inTable state' = ((tableHeader line).map isTable).getD (inTable state)
  step_withToken : ∀ {lineNumber line state state'} (token : String),
    step lineNumber line state = .ok state' →
    (inTable state = true → tableHeader line = none → lineKey line ≠ some "shared_token") →
    step lineNumber line (withToken state token) = .ok (withToken state' token)
  step_tokenLine : ∀ (lineNumber : Nat) (state : σ) (token : String), inTable state = true →
    '"' ∉ token.toList →
    step lineNumber (tokenLine token) state =
      if '#' ∈ token.toList then .error (unquoted lineNumber) else .ok (withToken state token)

namespace TokenParser

variable {σ ε : Type} (parser : TokenParser σ ε)

/-- The rest of the file keeps the token, where it does not give the table another. -/
theorem foldLines_withToken (token : String) (rest : List (List Char)) :
    ∀ (lineNumber : Nat) (state state' : σ), foldLines parser.step lineNumber rest state = .ok state' →
      writesToken parser.isTable (parser.inTable state) rest = false →
      foldLines parser.step lineNumber rest (parser.withToken state token) =
        .ok (parser.withToken state' token) := by
  induction rest with
  | nil =>
    intro lineNumber state state' h _
    cases Except.ok.inj h
    rfl
  | cons line rest ih =>
    intro lineNumber state state' h hrest
    obtain ⟨next, hline, h⟩ := bind_eq_ok_iff.mp h
    obtain ⟨hkeep, hthen⟩ := writesToken_cons hrest
    rw [← parser.inTable_step hline] at hthen
    exact bind_eq_ok_iff.mpr ⟨parser.withToken next token, parser.step_withToken token hline hkeep,
      ih _ _ _ h hthen⟩

/-- A table's own lines leave the parser in that table. -/
theorem inTable_foldLines (rest : List (List Char)) :
    ∀ (lineNumber : Nat) (state state' : σ), (∀ line ∈ rest, tableHeader line = none) →
      foldLines parser.step lineNumber rest state = .ok state' →
      parser.inTable state' = parser.inTable state := by
  induction rest with
  | nil =>
    intro lineNumber state state' _ h
    cases Except.ok.inj h
    rfl
  | cons line rest ih =>
    intro lineNumber state state' hlines h
    obtain ⟨next, hline, h⟩ := bind_eq_ok_iff.mp h
    rw [ih _ _ _ (fun other hother => hlines other (List.mem_cons_of_mem _ hother)) h,
      parser.inTable_step hline, hlines line (by simp)]
    rfl

variable {file : TokenFile} {header token placeholder : String}

/-- The header and the lines before the token leave the parser in the token's table. -/
theorem inTable_linesBefore (hhash : '#' ∉ header.toList) (htable : parser.isTable header.toList = true)
    (hgives : file.GivesToken parser.isTable) {lineNumber : Nat} {start state : σ}
    (h : foldLines parser.step lineNumber (file.linesBefore header) start = .ok state) :
    parser.inTable state = true := by
  unfold TokenFile.linesBefore at h
  rw [foldLines_append] at h
  obtain ⟨before, -, h⟩ := bind_eq_ok_iff.mp h
  obtain ⟨opened, hopened, hentries⟩ := bind_eq_ok_iff.mp h
  rw [parser.inTable_foldLines _ _ _ _ hgives.entries hentries, parser.inTable_step hopened,
    tableHeader_tableLine hhash]
  exact htable

/-- The same file with one token and with another: the parser keeps what it has read of the rest, unless a
comment starts in the token. -/
theorem foldLines_text (hhash : '#' ∉ header.toList) (hlf : '\n' ∉ header.toList)
    (htable : parser.isTable header.toList = true) (hgives : file.GivesToken parser.isTable)
    (hplaceholder : PlainToken placeholder) (hnohash : '#' ∉ placeholder.toList) (htoken : PlainToken token)
    {start state : σ}
    (h : foldLines parser.step 1 (lines (file.text header placeholder).toList) start = .ok state) :
    state = parser.withToken state placeholder ∧
      ∃ lineNumber, foldLines parser.step 1 (lines (file.text header token).toList) start =
        if '#' ∈ token.toList then .error (parser.unquoted lineNumber)
        else .ok (parser.withToken state token) := by
  rw [file.lines_text hlf hplaceholder.noLineFeed, foldLines_append] at h
  obtain ⟨middle, hmiddle, h⟩ := bind_eq_ok_iff.mp h
  obtain ⟨next, hline, hafter⟩ := bind_eq_ok_iff.mp h
  have hin := parser.inTable_linesBefore hhash htable hgives hmiddle
  rw [parser.step_tokenLine _ _ _ hin hplaceholder.noQuote, if_neg hnohash] at hline
  have hnext := Except.ok.inj hline
  have hwrites : writesToken parser.isTable (parser.inTable next) (lines file.after.toList) = false := by
    rw [← hnext, parser.inTable_withToken, hin]
    exact hgives.after
  have hthen (other : String) := parser.foldLines_withToken other _ _ _ _ hafter hwrites
  have hnextToken (other : String) : parser.withToken next other = parser.withToken middle other := by
    rw [← hnext, parser.withToken_again]
  refine ⟨?_, 1 + (file.linesBefore header).length, ?_⟩
  · have hsame := hthen placeholder
    rw [hnextToken, hnext, hafter] at hsame
    exact Except.ok.inj hsame
  · rw [file.lines_text hlf htoken.noLineFeed, foldLines_append, hmiddle]
    show (parser.step _ (tokenLine token) middle >>= _) = _
    rw [parser.step_tokenLine _ _ _ hin htoken.noQuote]
    by_cases hcut : '#' ∈ token.toList
    · rw [if_pos hcut, if_pos hcut]
      rfl
    · rw [if_neg hcut, if_neg hcut, ← hnextToken]
      exact hthen token

end TokenParser

end StreamSync
