import Understudy.Import
import Understudy.Proofs.SyntaxTree.Getter
import Understudy.Proofs.Text.Lines
import Understudy.Proofs.Text.Runs

/-!
# The module that an import statement names

A text in which the keyword `import` has a space behind it names its last word. For the text of a
statement this is the path of the module. A line with a comment behind the statement is read in the
same way, and so it names the last word of the comment.
-/

namespace Understudy.Import

open Text
open scoped List

section Text

variable {text : List Char}

theorem module?_ofList (text : List Char) :
    module? (String.ofList text) = (cutAt? "import ".toList text).bind fun parts =>
      (words parts.2).getLast?.map String.ofList := by
  have hparts : module? (String.ofList text) =
      (cutAt? "import ".toList (String.ofList text).toList).bind fun parts =>
        (words parts.2).getLast?.bind fun word => some (String.ofList word) := rfl
  rw [hparts, String.toList_ofList (l := text)]
  simp only [Option.map_eq_bind, Function.comp_def]

/-- A text with the keyword in it names its last word. -/
theorem module?_eq_last_word (h : "import ".toList <:+: text)
    (hlast : ∀ c ∈ text.getLast?, isBlank c = false) :
    module? (String.ofList text) = (words text).getLast?.map String.ofList := by
  obtain ⟨⟨before, rest⟩, hcut⟩ :=
    Option.isSome_iff_exists.mp (contains_eq_true_iff.mpr h)
  have htext := eq_append_of_cutAt? hcut
  have hne : rest ≠ [] := by
    rintro rfl
    exact absurd (hlast ' ' (by simp [htext])) (by decide)
  have hword : words rest ≠ [] := by
    have hend : rest.getLast hne ∈ text.getLast? := by
      rw [htext, List.getLast?_append_of_ne_nil _ hne, List.getLast?_eq_some_getLast hne]
      rfl
    exact words_ne_nil (List.getLast_mem hne) (hlast _ hend)
  have hspace : ∀ c ∈ (before ++ "import ".toList).getLast?, isBlank c = true := by
    simp +decide
  rw [module?_ofList, hcut, htext, getLast?_words_append hspace hword]
  rfl

theorem module?_eq_none (h : ¬"import ".toList <:+: text) :
    module? (String.ofList text) = none := by
  have hcut : cutAt? "import ".toList text = none := by
    rw [← Option.not_isSome_iff_eq_none]
    exact fun hsome => h (contains_eq_true_iff.mp hsome)
  rw [module?_ofList, hcut]
  rfl

end Text

def kindWords : List String :=
  ["typealias", "struct", "class", "enum", "protocol", "let", "var", "func"]

/-- The parts of an import statement. -/
structure Statement where
  /-- The attributes with the blanks behind them. -/
  attributes : List Char
  /-- What stands behind the keyword. -/
  gap : List Char
  /-- The kind of what is imported, with the blanks behind the word. -/
  kind : Option (String × List Char)
  path : List Char
deriving DecidableEq

namespace Statement

def kindText (statement : Statement) : List Char :=
  statement.kind.elim [] fun (word, blanks) => word.toList ++ blanks

/-- What stands before the path. -/
def start (statement : Statement) : List Char :=
  statement.attributes ++ "import".toList ++ statement.gap ++ statement.kindText

def text (statement : Statement) : List Char :=
  statement.start ++ statement.path

def module (statement : Statement) : String :=
  String.ofList statement.path

/-- The path holds names of letters, numerals, underscores and backticks with dots between them. -/
structure IsWritten (statement : Statement) : Prop where
  attributes : ∀ c ∈ statement.attributes.head?, c = '@'
  gap_ne_nil : statement.gap ≠ []
  gap : ∀ c ∈ statement.gap, isBlank c = true
  kind : ∀ entry ∈ statement.kind,
    entry.1 ∈ kindWords ∧ entry.2 ≠ [] ∧ ∀ c ∈ entry.2, isBlank c = true
  path_ne_nil : statement.path ≠ []
  path : ∀ c ∈ statement.path, SyntaxTree.isPropertyNameChar c = true ∨ c = '.'

namespace IsWritten

variable {statement : Statement}

theorem isBlank_path (h : statement.IsWritten) {c : Char} (hc : c ∈ statement.path) :
    isBlank c = false := by
  rcases h.path c hc with hname | rfl
  · exact isBlank_eq_false_of SyntaxTree.isPropertyNameChar_eq_false_of_isBlank hname
  · decide

theorem isUnbroken_path (h : statement.IsWritten) : isUnbroken statement.path = true := by
  have hsolid : ∀ c ∈ statement.path, isBlank c = false := fun c hc => h.isBlank_path hc
  simpa [isUnbroken, h.path_ne_nil] using hsolid

theorem words_path (h : statement.IsWritten) : words statement.path = [statement.path] :=
  words_eq_singleton h.isUnbroken_path

theorem getLast?_start (h : statement.IsWritten) :
    ∀ c ∈ statement.start.getLast?, isBlank c = true := by
  intro c hc
  cases hkind : statement.kind with
  | none =>
      have hstart : statement.start = statement.attributes ++ "import".toList ++ statement.gap := by
        simp [start, kindText, hkind]
      rw [hstart, List.getLast?_append_of_ne_nil _ h.gap_ne_nil] at hc
      exact h.gap c (List.mem_of_mem_getLast? hc)
  | some entry =>
      obtain ⟨word, blanks⟩ := entry
      obtain ⟨_, hne, hblanks⟩ := h.kind _ hkind
      have hstart : statement.start = statement.attributes ++ "import".toList ++ statement.gap ++
          word.toList ++ blanks := by
        simp [start, kindText, hkind]
      rw [hstart, List.getLast?_append_of_ne_nil _ hne] at hc
      exact hblanks c (List.mem_of_mem_getLast? hc)

theorem getLast?_text (h : statement.IsWritten) :
    ∀ c ∈ statement.text.getLast?, isBlank c = false := by
  intro c hc
  rw [text, List.getLast?_append_of_ne_nil _ h.path_ne_nil] at hc
  exact h.isBlank_path (List.mem_of_mem_getLast? hc)

theorem exists_head (h : statement.IsWritten) :
    ∃ c rest, statement.text = c :: rest ∧ isBlank c = false := by
  cases hattributes : statement.attributes with
  | nil =>
      refine ⟨'i', "mport".toList ++ statement.gap ++ statement.kindText ++ statement.path, ?_,
        by decide⟩
      simp [text, start, hattributes]
  | cons c rest =>
      obtain rfl : c = '@' := h.attributes c (by simp [hattributes])
      refine ⟨'@', rest ++ "import".toList ++ statement.gap ++ statement.kindText ++
        statement.path, ?_, by decide⟩
      simp [text, start, hattributes]

theorem trim_text (h : statement.IsWritten) : trim statement.text = statement.text := by
  obtain ⟨c, rest, htext, hc⟩ := h.exists_head
  refine trim_of_ends (fun other hother => ?_) h.getLast?_text
  obtain rfl : c = other := by simpa [htext] using hother
  exact hc

/-- The text of a statement names its module if the keyword has a space behind it. -/
theorem module?_text_iff (h : statement.IsWritten) :
    module? (String.ofList statement.text) = some statement.module ↔
      "import ".toList <:+: statement.text := by
  constructor
  · intro hmodule
    by_contra hnone
    rw [module?_eq_none hnone] at hmodule
    cases hmodule
  · intro hkeyword
    rw [module?_eq_last_word hkeyword h.getLast?_text, text,
      getLast?_words_append h.getLast?_start (by simp [h.words_path]), h.words_path]
    rfl

end IsWritten

end Statement

/-- A line with an import statement on it, and maybe a comment behind the statement. -/
structure Line where
  indent : List Char
  statement : Statement
  blanks : List Char
  /-- From the two slashes to the end of the line. -/
  comment : Option (List Char)
deriving DecidableEq

namespace Line

def tail (line : Line) : List Char :=
  line.blanks ++ line.comment.getD []

def text (line : Line) : List Char :=
  line.indent ++ (line.statement.text ++ line.tail)

structure IsWritten (line : Line) : Prop where
  statement : line.statement.IsWritten
  indent : ∀ c ∈ line.indent, isBlank c = true
  blanks : ∀ c ∈ line.blanks, isBlank c = true
  comment : ∀ comment ∈ line.comment, "//".toList <+: comment ∧ line.blanks ≠ []
  oneLine : '\n' ∉ line.text

/-- The keyword is found: with a space behind it and, after attributes, one before it. -/
def IsSpaced (line : Line) : Prop :=
  if line.statement.attributes = [] then line.statement.gap.head? = some ' '
  else " import ".toList <:+: trim line.text

/-- A comment ends in the path of the module, or there is none. -/
def EndsInPath (line : Line) : Prop :=
  ∀ comment ∈ line.comment, (words comment).getLast? = some line.statement.path

instance (line : Line) : Decidable line.IsSpaced :=
  inferInstanceAs (Decidable (ite _ _ _))

instance (line : Line) : Decidable line.EndsInPath :=
  inferInstanceAs (Decidable (∀ comment ∈ line.comment, _))

end Line

/-- The module that is read from a line, if it looks like an import. -/
def lineModule? (line : List Char) : Option String :=
  if isImportLine (trim line) then module? (String.ofList (trim line)) else none

theorem keyword_infix_of_isImportLine {line : List Char} (h : isImportLine line = true) :
    "import ".toList <:+: line := by
  rw [isImportLine, Bool.or_eq_true, Bool.and_eq_true, List.isPrefixOf_iff_prefix,
    contains_eq_true_iff] at h
  rcases h with hstart | ⟨_, hinside⟩
  · exact hstart.isInfix
  · have hspaced : "import ".toList <:+: " import ".toList := ⟨[' '], [], rfl⟩
    exact hspaced.trans hinside

/-- A line that looks like an import names its last word. -/
theorem lineModule?_of_isImportLine {line : List Char} (h : isImportLine (trim line) = true) :
    lineModule? line = (words line).getLast?.map String.ofList := by
  have hlast := (trim_eq_self_iff.mp (trim_trim line)).2
  rw [lineModule?, if_pos h, module?_eq_last_word (keyword_infix_of_isImportLine h) hlast, words,
    fields_trim (fun _ hc => hc)]
  rfl

theorem lineModule?_eq_none_iff {line : List Char} :
    lineModule? line = none ↔ isImportLine (trim line) = false := by
  constructor
  · intro hnone
    by_contra hline
    have himport : isImportLine (trim line) = true := by simpa using hline
    -- such a line is not blank, so that it has a last word
    have hwords : words (trim line) ≠ [] := by
      obtain ⟨before, after, htext⟩ := keyword_infix_of_isImportLine himport
      exact words_ne_nil (c := 'i') (by simp [← htext]) (by decide)
    rw [lineModule?_of_isImportLine himport, Option.map_eq_none_iff, List.getLast?_eq_none_iff]
      at hnone
    rw [words, fields_trim (fun _ hc => hc)] at hwords
    exact hwords hnone
  · intro hline
    rw [lineModule?, if_neg (by simp [hline])]

namespace Line.IsWritten

variable {line : Line}

/-- The statement stays when the line is trimmed. -/
theorem trim_text (h : line.IsWritten) :
    trim line.text = line.statement.text ++ trimEnd line.tail := by
  obtain ⟨c, rest, htext, hc⟩ := h.statement.exists_head
  have hstart : trimStart (line.statement.text ++ line.tail) =
      line.statement.text ++ line.tail := by
    rw [htext]
    exact trimStart_append_cons hc [] (rest ++ line.tail)
  have hne : line.statement.text ≠ [] := by simp [htext]
  have hend := h.statement.getLast?_text _ (List.getLast?_eq_some_getLast hne)
  rw [Line.text, trim_append_of_forall_isBlank h.indent, trim, hstart]
  conv_lhs => rw [← List.dropLast_append_getLast hne]
  rw [List.append_assoc, List.singleton_append, trimEnd_append_cons hend, List.append_cons,
    List.dropLast_append_getLast]

/-- A line looks like an import if its keyword is found. -/
theorem isImportLine_iff (h : line.IsWritten) :
    isImportLine (trim line.text) = true ↔ line.IsSpaced := by
  cases hattributes : line.statement.attributes with
  | nil =>
      obtain ⟨c, gap, hgap⟩ := List.exists_cons_of_ne_nil h.statement.gap_ne_nil
      rw [Line.IsSpaced, if_pos hattributes, h.trim_text, Statement.text, Statement.start,
        hattributes, hgap]
      simp [isImportLine, List.isPrefixOf, @eq_comm _ ' ' c]
  | cons c rest =>
      obtain rfl : c = '@' := h.statement.attributes c (by simp [hattributes])
      have hat : ∃ later, trim line.text = '@' :: later := by
        rw [h.trim_text, Statement.text, Statement.start, hattributes]
        exact ⟨_, rfl⟩
      obtain ⟨later, hlater⟩ := hat
      rw [Line.IsSpaced, if_neg (by simp [hattributes]), ← contains_eq_true_iff, hlater]
      simp [isImportLine, List.isPrefixOf]

theorem getLast?_words (h : line.IsWritten) :
    (words line.text).getLast? =
      (line.comment.elim [line.statement.path] words).getLast? := by
  have hpath := h.statement.words_path
  have hparts : line.text = (line.indent ++ line.statement.start) ++
      (line.statement.path ++ line.tail) := by
    simp [Line.text, Statement.text]
  have hstart : ∀ c ∈ (line.indent ++ line.statement.start).getLast?, isBlank c = true := by
    have hne : line.statement.start ≠ [] := by simp [Statement.start]
    rw [List.getLast?_append_of_ne_nil _ hne]
    exact h.statement.getLast?_start
  have hword : words (line.statement.path ++ line.tail) ≠ [] := by
    obtain ⟨c, rest, hcons⟩ := List.exists_cons_of_ne_nil h.statement.path_ne_nil
    exact words_ne_nil (c := c) (by simp [hcons]) (h.statement.isBlank_path (by simp [hcons]))
  rw [hparts, getLast?_words_append hstart hword]
  cases hcomment : line.comment with
  | none =>
      have hblanks : ∀ c ∈ line.blanks.head?, isBlank c = true :=
        fun c hc => h.blanks c (List.mem_of_mem_head? hc)
      have hwords : words (line.statement.path ++ line.blanks) =
          words line.statement.path ++ [] := by
        rw [words, fields_append_of_head? hblanks, fields_eq_nil h.blanks]
        rfl
      simp [Line.tail, hcomment, hwords, hpath]
  | some comment =>
      obtain ⟨hslashes, hne⟩ := h.comment comment hcomment
      have hblanks : ∀ c ∈ (line.statement.path ++ line.blanks).getLast?, isBlank c = true := by
        rw [List.getLast?_append_of_ne_nil _ hne]
        exact fun c hc => h.blanks c (List.mem_of_mem_getLast? hc)
      have hslash : words comment ≠ [] :=
        words_ne_nil (hslashes.subset (List.mem_cons_self (a := '/'))) (by decide)
      rw [Line.tail, hcomment, Option.getD_some, ← List.append_assoc,
        getLast?_words_append hblanks hslash]
      rfl

/-- A line names the module of its statement exactly if the keyword is found and no comment ends in
another word. -/
theorem lineModule?_eq_iff (h : line.IsWritten) :
    lineModule? line.text = some line.statement.module ↔ line.IsSpaced ∧ line.EndsInPath := by
  by_cases hspaced : line.IsSpaced
  · have hmodule := lineModule?_of_isImportLine (h.isImportLine_iff.mpr hspaced)
    have hname (word : Option (List Char)) :
        word.map String.ofList = some (String.ofList line.statement.path) ↔
          word = some line.statement.path := by
      rw [← Option.map_some, Option.map_inj_right fun _ _ => String.ofList_inj.mp]
    rw [hmodule, h.getLast?_words, and_iff_right hspaced, Line.EndsInPath, Statement.module, hname]
    cases line.comment with
    | none => simp
    | some comment => simp
  · have himport : isImportLine (trim line.text) = false := by
      rw [Bool.eq_false_iff, ne_eq, h.isImportLine_iff]
      exact hspaced
    simp [lineModule?_eq_none_iff.mpr himport, hspaced]

end Line.IsWritten

end Understudy.Import
