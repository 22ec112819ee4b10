import BuildReport.Proofs.Reading
import BuildReport.Report.Assembler
import BuildReport.Report.Linker

/-!
# Printing a diagnostic and reading it back

A tool prints a diagnostic with a place as one line: its kind and code, the line number, the file
name in quotes, a colon and the text. Both reports read such a line as one diagnostic. The name is
read up to the last `":` of the line, so the fields come back as they were printed exactly when
the text holds no `":` itself. Otherwise the name runs on into the text.

- `PrintedDiagnostic`: the fields, each of a form that the line can carry.
- `PrintedDiagnostic.text`, `PrintedDiagnostic.diagnostic`: the line, and what it is to say.
- `assembler_parse_text`, `linker_parse_text`: the diagnostic that is read, wherever the name ends.
- `parse_text_iff`: when the printed diagnostic is read back.
- `quoting_misread`: a line that is read as something else.
-/

namespace BuildReport

open Text

/-! ## Printed diagnostics -/

/-- What a printed diagnostic is called. -/
inductive PrintedKind
  | error
  | warning
  | message
  deriving DecidableEq, Repr

namespace PrintedKind

def label : PrintedKind → String
  | .error => "error"
  | .warning => "warning"
  | .message => "message"

def severity : PrintedKind → Severity
  | .error => .error
  | .warning => .warning
  | .message => .other "message"

end PrintedKind

/-- The fields of a diagnostic as it is printed on one line. The two numbers are ASCII digits, the
line number fits 64 bits with a sign, the name is not empty, and the text does not start with a
blank. Neither holds a line end. -/
structure PrintedDiagnostic where
  kind : PrintedKind
  code : String
  line : String
  file : String
  rest : String
  code_ne_nil : code.toList ≠ []
  code_digits : ∀ c ∈ code.toList, c.isDigit = true
  line_ne_nil : line.toList ≠ []
  line_digits : ∀ c ∈ line.toList, c.isDigit = true
  line_le : Nat.ofDigitChars 10 line.toList 0 ≤ 9223372036854775807
  file_ne_nil : file.toList ≠ []
  file_no_newline : '\n' ∉ file.toList
  rest_no_newline : '\n' ∉ rest.toList
  rest_head : ∀ c ∈ rest.toList.head?, isBlank c = false
  rest_last : rest.toList.getLast? ≠ some '\r'

namespace PrintedDiagnostic

/-- The line that is printed. -/
def text (p : PrintedDiagnostic) : String :=
  p.kind.label ++ " " ++ p.code ++ " in line " ++ p.line ++ " of \"" ++ p.file ++ "\": " ++ p.rest

/-- The diagnostic with the number, code and kind that were printed, about a given file and with a
given text. -/
def about (p : PrintedDiagnostic) (file rest : String) : Diagnostic where
  file := file
  line := Nat.ofDigitChars 10 p.line.toList 0
  column := 0
  message := p.kind.label ++ " " ++ p.code ++ ": " ++ rest
  severity := p.kind.severity

/-- The diagnostic that was printed. -/
def diagnostic (p : PrintedDiagnostic) : Diagnostic :=
  p.about p.file p.rest

variable (p : PrintedDiagnostic)

/-! ## The characters of the line -/

/-- The name as it stands in the line, with all that follows it. -/
def nameOn : List Char :=
  p.file.toList ++ '"' :: ':' :: ' ' :: p.rest.toList

/-- The line from the code on. -/
def codeOn : List Char :=
  p.code.toList ++ ' ' :: ("in".toList ++ ' ' :: ("line".toList ++ ' ' ::
    (p.line.toList ++ ' ' :: ("of".toList ++ ' ' :: ('"' :: p.nameOn)))))

theorem text_toList : p.text.toList = p.kind.label.toList ++ ' ' :: p.codeOn := by
  simp [text, codeOn, nameOn]

theorem no_newline : '\n' ∉ p.text.toList := by
  have hdigit : ∀ s : List Char, (∀ c ∈ s, c.isDigit = true) → '\n' ∉ s :=
    fun s h hmem => absurd (h _ hmem) (by decide)
  have hkind : '\n' ∉ p.kind.label.toList := by
    cases p.kind <;> decide
  simp [text, hkind, hdigit _ p.code_digits, hdigit _ p.line_digits, p.file_no_newline,
    p.rest_no_newline]

theorem getLast?_text : p.text.toList.getLast? ≠ some '\r' := by
  have htext : p.text.toList = (p.kind.label.toList ++ ' ' :: p.code.toList ++
      " in line ".toList ++ p.line.toList ++ " of \"".toList ++ p.file.toList ++ ['"', ':']) ++
      ' ' :: p.rest.toList := by
    simp [text]
  -- the blank before the text is the last character if there is no text
  rw [htext, List.getLast?_append_cons]
  cases hrest : p.rest.toList with
  | nil => decide
  | cons c rest =>
    rw [List.getLast?_cons_cons, ← hrest]
    exact p.rest_last

theorem reportLines_text : reportLines p.text.toList = [p.text.toList] :=
  reportLines_of_line p.no_newline p.getLast?_text

/-! ## The fields that are read -/

theorem code_isDigit : ∀ c ∈ p.code.toList, isDigit c = true :=
  fun c hc => isDigit_of_ascii (p.code_digits c hc)

theorem line_isDigit : ∀ c ∈ p.line.toList, isDigit c = true :=
  fun c hc => isDigit_of_ascii (p.line_digits c hc)

theorem lineNumber?_line :
    lineNumber? p.line.toList = some (Nat.ofDigitChars 10 p.line.toList 0) :=
  lineNumber?_eq_ofDigitChars p.line_ne_nil p.line_digits p.line_le

theorem kind?_label (k : PrintedKind) (s : List Char) :
    AssemblerReport.kind? (k.label.toList ++ s) = some (k.label.toList, s) := by
  cases k <;> simp [AssemblerReport.kind?, AssemblerReport.kinds, PrintedKind.label, afterWord]

theorem blank : isBlank ' ' = true := by decide

theorem blank_not_digit : isDigit ' ' = false := by decide

/-- The assembler's reader finds the printed fields, and the name as far as it goes. -/
theorem assembler_located?_text {name after : List Char}
    (h : quotedName? p.nameOn = some (name, after)) :
    AssemblerReport.located? p.text.toList =
      some ⟨p.kind.label.toList, p.code.toList, p.line.toList, name, trimStart after⟩ := by
  have hquote : afterWord ['"'] ('"' :: p.nameOn) = some p.nameOn := afterWord_append ['"'] _
  simp only [AssemblerReport.located?, text_toList, codeOn, kind?_label, Option.bind_eq_bind,
    Option.bind_some, afterBlank_cons blank, digits?_append p.code_ne_nil p.code_isDigit
      blank_not_digit, digits?_append p.line_ne_nil p.line_isDigit blank_not_digit,
    afterWord_append, hquote, h]
  rfl

theorem isBlank_of_isDigit {c : Char} (h : c.isDigit = true) : isBlank c = false :=
  isBlank_of_digit (isDigit_of_ascii h)

/-- A word behind a blank, where the blank is passed over. -/
theorem afterBlanks_word {word : List Char} (hne : word ≠ []) (h : ∀ c ∈ word, isBlank c = false)
    (rest : List Char) : afterBlanks (' ' :: (word ++ rest)) = some (word ++ rest) := by
  refine afterBlanks_cons blank fun c hc => ?_
  rw [List.head?_append_of_ne_nil _ hne] at hc
  exact h c (List.mem_of_mem_head? hc)

theorem afterBlanks_digits {digits : List Char} (hne : digits ≠ [])
    (h : ∀ c ∈ digits, c.isDigit = true) (rest : List Char) :
    afterBlanks (' ' :: (digits ++ rest)) = some (digits ++ rest) :=
  afterBlanks_word hne (fun c hc => isBlank_of_isDigit (h c hc)) rest

/-- The linker's reader finds the printed fields of a warning, and the name as far as it goes. -/
theorem linker_located?_text (hkind : p.kind = .warning) {name after : List Char}
    (h : quotedName? p.nameOn = some (name, after)) :
    LinkerReport.located? none p.text.toList =
      some ⟨p.code.toList, p.line.toList, name, trimStart after⟩ := by
  have hquote : afterWord ['"'] ('"' :: p.nameOn) = some p.nameOn := afterWord_append ['"'] _
  have hlabel : p.kind.label.toList = "warning".toList := by rw [hkind]; rfl
  have hstart : (guard (wordStarts none = true) : Option Unit) = some () := rfl
  -- this reader passes over any run of blanks, and between two words the line has one
  have hin := afterBlanks_word (show "in".toList ≠ [] by decide) (by simp [isBlank])
  have hline := afterBlanks_word (show "line".toList ≠ [] by decide) (by simp [isBlank])
  have hof := afterBlanks_word (show "of".toList ≠ [] by decide) (by simp [isBlank])
  have hmark : afterBlanks (' ' :: '"' :: p.nameOn) = some ('"' :: p.nameOn) :=
    afterBlanks_word (List.cons_ne_nil '"' []) (by simp [isBlank]) p.nameOn
  rw [LinkerReport.located?, hstart]
  simp only [text_toList, codeOn, hlabel, Option.bind_eq_bind, Option.bind_some,
    afterWordAnyCase_append,
    afterBlanks_digits p.code_ne_nil p.code_digits, afterBlanks_digits p.line_ne_nil p.line_digits,
    digits?_append p.code_ne_nil p.code_isDigit blank_not_digit,
    digits?_append p.line_ne_nil p.line_isDigit blank_not_digit, hin, hline, hof, hmark, hquote, h]
  rfl

/-! ## What the reports say -/

theorem length_le_byteLength (line : List Char) :
    line.length ≤ AssemblerReport.byteLength line := by
  unfold AssemblerReport.byteLength
  induction line with
  | nil => exact Nat.le_refl 0
  | cons c line ih =>
    have hc : 0 < c.utf8Size := c.utf8Size_pos
    rw [List.map_cons, List.foldr_cons, List.length_cons]
    omega

theorem not_isNoise_text : AssemblerReport.isNoise p.text.toList = false := by
  have hlen := length_le_byteLength p.text.toList
  rw [AssemblerReport.isNoise, Bool.or_eq_false_iff, decide_eq_false_iff_not]
  constructor
  · have hlabel : 1 < p.kind.label.toList.length := by cases p.kind <;> decide
    rw [text_toList, List.length_append] at hlen
    rw [text_toList]
    omega
  · rw [text_toList]
    cases p.kind <;> simp [PrintedKind.label]

theorem ofLabel_label (k : PrintedKind) : Severity.ofLabel k.label = k.severity := by
  cases k <;> decide

theorem message_toList (rest : List Char) :
    (p.kind.label ++ " " ++ p.code ++ ": " ++ String.ofList rest).toList =
      p.kind.label.toList ++ ' ' :: p.code.toList ++ ':' :: ' ' :: rest := by
  simp

theorem assembler_diagnostic? (name rest : List Char) :
    AssemblerReport.Located.diagnostic?
      ⟨p.kind.label.toList, p.code.toList, p.line.toList, name, rest⟩ =
      some (p.about (String.ofList name) (String.ofList rest)) := by
  rw [AssemblerReport.Located.diagnostic?, lineNumber?_line, Option.map_some, ← message_toList,
    String.ofList_toList, String.ofList_toList, ofLabel_label]
  rfl

theorem linker_diagnostic? (hkind : p.kind = .warning) (name rest : List Char) :
    LinkerReport.Located.diagnostic? ⟨p.code.toList, p.line.toList, name, rest⟩ =
      some (p.about (String.ofList name) (String.ofList rest)) := by
  have hmessage : "warning ".toList ++ p.code.toList ++ ':' :: ' ' :: rest =
      (p.kind.label ++ " " ++ p.code ++ ": " ++ String.ofList rest).toList := by
    rw [message_toList, hkind]
    rfl
  have hseverity : Severity.warning = p.kind.severity := by rw [hkind]; rfl
  rw [LinkerReport.Located.diagnostic?, lineNumber?_line, Option.map_some, hmessage,
    String.ofList_toList, hseverity]
  rfl

/-- **An assembler's report of the printed line** is one diagnostic, about the name and the text
that were read. -/
theorem assembler_parse_text {name after : List Char}
    (h : quotedName? p.nameOn = some (name, after)) :
    AssemblerReport.parse p.text.toList =
      [p.about (String.ofList name) (String.ofList (trimStart after))] := by
  have hfind : AssemblerReport.findLocated p.text.toList = _ :=
    search_of_eq_some (p.assembler_located?_text h)
  simp only [AssemblerReport.parse, reportLines_text, List.filterMap_cons, not_isNoise_text,
    Bool.false_eq_true, if_false, AssemblerReport.ofLine?, hfind, assembler_diagnostic?,
    List.filterMap_nil]

/-- **A linker's report of a printed warning** is one diagnostic, about the name and the text that
were read. -/
theorem linker_parse_text (hkind : p.kind = .warning) {name after : List Char}
    (h : quotedName? p.nameOn = some (name, after)) :
    LinkerReport.parse p.text.toList =
      [p.about (String.ofList name) (String.ofList (trimStart after))] := by
  have hfind : search LinkerReport.located? none p.text.toList = _ :=
    search_of_eq_some (p.linker_located?_text hkind h)
  have hheader : LinkerReport.header? p.text.toList =
      some (p.about (String.ofList name) (String.ofList (trimStart after))) := by
    rw [LinkerReport.header?, hfind]
    exact p.linker_diagnostic? hkind name _
  rw [LinkerReport.parse, reportLines_text, List.foldl_cons, List.foldl_nil, LinkerReport.step,
    hheader]
  rfl

/-! ## How far the name goes -/

theorem not_mark_of_rest {s : List Char} (h : ¬ ['"', ':'] <:+: s) :
    ¬ ['"', ':'] <:+: ' ' :: s := by
  rw [List.infix_cons_iff, not_or]
  exact ⟨by simp, h⟩

/-- Without a mark in the text the name comes back as it was printed. -/
theorem quotedName?_nameOn (h : ¬ ['"', ':'] <:+: p.rest.toList) :
    quotedName? p.nameOn = some (p.file.toList, ' ' :: p.rest.toList) :=
  quotedName?_append p.file_ne_nil (not_mark_of_rest h)

/-- With marks in the text the name runs on to the last of them. -/
theorem quotedName?_nameOn_of_mark {before after : List Char}
    (hrest : p.rest.toList = before ++ '"' :: ':' :: after) (h : ¬ ['"', ':'] <:+: after) :
    quotedName? p.nameOn = some (p.file.toList ++ '"' :: ':' :: ' ' :: before, after) := by
  have hname : p.nameOn =
      (p.file.toList ++ '"' :: ':' :: ' ' :: before) ++ '"' :: ':' :: after := by
    simp [nameOn, hrest]
  rw [hname]
  exact quotedName?_append (by simp) h

theorem trimStart_rest : trimStart (' ' :: p.rest.toList) = p.rest.toList := by
  show trimStart p.rest.toList = p.rest.toList
  exact trimStart_of_head p.rest_head

/-- A name that has run on is not the one that was printed. -/
theorem about_ne_diagnostic (before : List Char) (rest : String) :
    p.about (String.ofList (p.file.toList ++ '"' :: ':' :: ' ' :: before)) rest ≠
      p.diagnostic := by
  intro heq
  have hfile : String.ofList (p.file.toList ++ '"' :: ':' :: ' ' :: before) = p.file :=
    congrArg Diagnostic.file heq
  -- it is longer
  have hlen := congrArg (fun s => s.toList.length) hfile
  simp at hlen

/-- Whatever reads the name as far as it goes reads one diagnostic, and it is the printed one
exactly when the text holds no mark. -/
theorem read_iff {found : List Diagnostic}
    (hread : ∀ name after, quotedName? p.nameOn = some (name, after) →
      found = [p.about (String.ofList name) (String.ofList (trimStart after))]) :
    (∃ file rest, found = [p.about file rest]) ∧
      (found = [p.diagnostic] ↔ ¬ ['"', ':'] <:+: p.rest.toList) := by
  by_cases hmark : ['"', ':'] <:+: p.rest.toList
  · obtain ⟨before, after, hrest, hafter⟩ := exists_last_mark hmark
    have hfound := hread _ _ (p.quotedName?_nameOn_of_mark hrest hafter)
    refine ⟨⟨_, _, hfound⟩, ?_⟩
    rw [hfound]
    constructor
    · intro heq
      exact absurd (List.cons.inj heq).1 (p.about_ne_diagnostic before _)
    · exact fun h => absurd hmark h
  · have hfound := hread _ _ (p.quotedName?_nameOn hmark)
    rw [trimStart_rest, String.ofList_toList, String.ofList_toList] at hfound
    exact ⟨⟨_, _, hfound⟩, fun _ => hmark, fun _ => hfound⟩

/-- The same fields, printed as a warning. -/
def asWarning : PrintedDiagnostic :=
  { p with kind := .warning }

/-- **A printed diagnostic is read back exactly when its text holds no `":`.** Both reports always
read one diagnostic with the number, code and kind that were printed; the file and the text are
those that were printed when the name does not run on. -/
theorem parse_text_iff :
    ((∃ file rest, AssemblerReport.parse p.text.toList = [p.about file rest]) ∧
      (AssemblerReport.parse p.text.toList = [p.diagnostic] ↔
        ¬ ['"', ':'] <:+: p.rest.toList)) ∧
    ((∃ file rest, LinkerReport.parse p.asWarning.text.toList = [p.asWarning.about file rest]) ∧
      (LinkerReport.parse p.asWarning.text.toList = [p.asWarning.diagnostic] ↔
        ¬ ['"', ':'] <:+: p.rest.toList)) := by
  constructor
  · exact p.read_iff fun _ _ h => p.assembler_parse_text h
  · exact p.asWarning.read_iff fun _ _ h => p.asWarning.linker_parse_text rfl h

/-- A warning whose text quotes something and goes on with a colon. -/
def quoting : PrintedDiagnostic where
  kind := .warning
  code := "2"
  line := "7"
  file := "a.s"
  rest := "expected \"x\": got y"
  code_ne_nil := by decide
  code_digits := List.all_eq_true.mp (by decide)
  line_ne_nil := by decide
  line_digits := List.all_eq_true.mp (by decide)
  line_le := by decide
  file_ne_nil := by decide
  file_no_newline := by decide
  rest_no_newline := by decide
  rest_head := by simp [isBlank]
  rest_last := by decide

/-- Both reports take part of its text for its file name. -/
theorem quoting_misread : AssemblerReport.parse quoting.text.toList ≠ [quoting.diagnostic] ∧
    LinkerReport.parse quoting.text.toList ≠ [quoting.diagnostic] := by
  decide +kernel

end PrintedDiagnostic

end BuildReport
