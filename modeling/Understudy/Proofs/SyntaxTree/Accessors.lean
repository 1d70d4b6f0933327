import Understudy.Proofs.SyntaxTree.Variable
import Understudy.Proofs.Text.Cut

/-!
# Setters among the accessors of a property

A property can be set when one of its accessors is introduced by `set`, `didSet` or `willSet`. Its
text does not show which of its words introduce accessors, so a block is given by its parts: the
statements of a getter, or accessors with what stands around them. The reader looks for the letters
of the three words anywhere in the block. So it never misses a setter, and it finds one that is not
there exactly when some other part of the block happens to spell such a word
(`AccessorProperty.settable_iff`).
-/

namespace Understudy

open Text

open scoped List

/-- The words that make a property settable when they introduce one of its accessors. -/
def setterWords : List (List Char) :=
  ["set".toList, "didSet".toList, "willSet".toList]

/-- Letters of the text, one after the other, spell one of the words. -/
def SpellsSetter (text : List Char) : Prop :=
  ∃ word ∈ setterWords, word <:+: text

theorem hasSetter_eq_true_iff {text : List Char} :
    SyntaxTree.hasSetter text = true ↔ SpellsSetter text := by
  simp only [SyntaxTree.hasSetter, Bool.or_eq_true, contains_eq_true_iff, SpellsSetter, setterWords,
    List.exists_mem_cons_iff, List.not_mem_nil, false_and, exists_false, or_false, or_assoc]

instance : DecidablePred SpellsSetter := fun _ =>
  decidable_of_iff _ hasSetter_eq_true_iff

/-- A character that no word for a setter has. -/
def IsApart (c : Char) : Prop :=
  ∀ word ∈ setterWords, c ∉ word

instance : DecidablePred IsApart := fun c =>
  inferInstanceAs (Decidable (∀ word ∈ setterWords, c ∉ word))

theorem isApart_of_isWordChar_eq_false {c : Char} (hc : isWordChar c = false) : IsApart c := by
  intro word hword hmem
  have hletters : ∀ word ∈ setterWords, word.all isWordChar = true := by decide
  rw [List.all_eq_true.mp (hletters word hword) c hmem] at hc
  cases hc

/-- All characters of the text are apart. -/
def AreApart (text : List Char) : Prop :=
  ∀ c ∈ text, IsApart c

instance : DecidablePred AreApart := fun text =>
  List.decidableBAll IsApart text

def BeginsApart (text : List Char) : Prop :=
  ∀ c, text.head? = some c → IsApart c

def EndsApart (text : List Char) : Prop :=
  ∀ c, text.getLast? = some c → IsApart c

instance : DecidablePred BeginsApart := fun text =>
  decidable_of_iff (AreApart text.head?.toList) (by simp [AreApart, BeginsApart])

instance : DecidablePred EndsApart := fun text =>
  decidable_of_iff (AreApart text.getLast?.toList) (by simp [AreApart, EndsApart])

theorem beginsApart_cons_iff {c : Char} {rest : List Char} :
    BeginsApart (c :: rest) ↔ IsApart c := by
  simp [BeginsApart]

theorem endsApart_concat_iff {c : Char} {front : List Char} :
    EndsApart (front ++ [c]) ↔ IsApart c := by
  simp [EndsApart]

theorem AreApart.beginsApart {text : List Char} (h : AreApart text) : BeginsApart text :=
  fun c hc => h c (List.mem_of_head? hc)

theorem BeginsApart.append {left : List Char} (h : BeginsApart left) (hne : left ≠ [])
    (right : List Char) : BeginsApart (left ++ right) := by
  intro c hc
  rw [List.head?_append_of_ne_nil _ hne] at hc
  exact h c hc

namespace SpellsSetter

variable {left right text : List Char} {c : Char}

theorem of_infix (htext : left <:+: text) (h : SpellsSetter left) : SpellsSetter text := by
  obtain ⟨word, hword, hinfix⟩ := h
  exact ⟨word, hword, hinfix.trans htext⟩

theorem append_cons_iff (hc : IsApart c) :
    SpellsSetter (left ++ c :: right) ↔ SpellsSetter left ∨ SpellsSetter right := by
  constructor
  · rintro ⟨word, hword, hinfix⟩
    rcases infix_of_infix_append_cons (hc word hword) hinfix with hleft | hright
    · exact .inl ⟨word, hword, hleft⟩
    · exact .inr ⟨word, hword, hright⟩
  · rintro (hleft | hright)
    · exact hleft.of_infix (List.prefix_append _ _).isInfix
    · exact hright.of_infix ((List.suffix_cons c right).trans (List.suffix_append _ _)).isInfix

theorem cons_iff (hc : IsApart c) : SpellsSetter (c :: right) ↔ SpellsSetter right := by
  have hnil : ¬SpellsSetter [] := by decide
  rw [← List.nil_append (c :: right), append_cons_iff hc]
  exact or_iff_right hnil

theorem concat_iff (hc : IsApart c) : SpellsSetter (left ++ [c]) ↔ SpellsSetter left := by
  have hnil : ¬SpellsSetter [] := by decide
  rw [append_cons_iff hc]
  exact or_iff_left hnil

/-- A word is not spelled across the beginning of a text that begins apart. -/
theorem append_iff_of_beginsApart (h : BeginsApart right) :
    SpellsSetter (left ++ right) ↔ SpellsSetter left ∨ SpellsSetter right := by
  cases right with
  | nil =>
      have hnil : ¬SpellsSetter [] := by decide
      rw [List.append_nil]
      exact (or_iff_left hnil).symm
  | cons c rest =>
      have hc : IsApart c := beginsApart_cons_iff.mp h
      rw [append_cons_iff hc, cons_iff hc]

/-- A word is not spelled across the end of a text that ends apart. -/
theorem append_iff_of_endsApart (h : EndsApart left) :
    SpellsSetter (left ++ right) ↔ SpellsSetter left ∨ SpellsSetter right := by
  rcases List.eq_nil_or_concat' left with rfl | ⟨front, c, rfl⟩
  · have hnil : ¬SpellsSetter [] := by decide
    exact (or_iff_right hnil).symm
  · have hc : IsApart c := endsApart_concat_iff.mp h
    rw [List.append_assoc, List.singleton_append, append_cons_iff hc, concat_iff hc]

theorem append_iff_of_areApart (h : AreApart left) :
    SpellsSetter (left ++ right) ↔ SpellsSetter right := by
  induction left with
  | nil => exact Iff.rfl
  | cons c rest ih =>
      obtain ⟨hc, hrest⟩ := List.forall_mem_cons.mp h
      rw [List.cons_append, cons_iff hc, ih hrest]

theorem intercalate_iff {separator : List Char} (hne : separator ≠ [])
    (h : AreApart separator) (pieces : List (List Char)) :
    SpellsSetter (separator.intercalate pieces) ↔ ∃ piece ∈ pieces, SpellsSetter piece := by
  have hnil : ¬SpellsSetter [] := by decide
  induction pieces with
  | nil => simpa using hnil
  | cons first later ih =>
      cases later with
      | nil => simp
      | cons second rest =>
          rw [List.intercalate_cons_cons, List.append_assoc,
            append_iff_of_beginsApart (h.beginsApart.append hne _), append_iff_of_areApart h,
            List.exists_mem_cons_iff]
          exact or_congr_right ih

end SpellsSetter

/-- One accessor, from its word up to the word of the next one. -/
structure Accessor where
  /-- `get`, `set` or any other word that introduces an accessor. -/
  word : List Char
  /-- The parameter and the effects. -/
  clause : List Char
  body? : Option (List Char)
  /-- Blanks, comments, and the attributes and modifiers of the next accessor. -/
  margin : List Char

/-- What follows the word of an accessor. -/
def Accessor.rest (accessor : Accessor) : List Char :=
  accessor.clause ++ (accessor.body?.map fun body => '\x7b' :: body ++ ['\x7d']).getD [] ++
    accessor.margin

/-- The block of a property: the statements of its getter, or a list of accessors with what stands
before the first one. -/
inductive AccessorBlock where
  | getter (statements : List Char)
  | accessors (lead : List Char) (list : List Accessor)

namespace AccessorBlock

/-- Accessors up to the brace that closes their block. -/
def textFrom (lead : List Char) : List Accessor → List Char
  | [] => lead ++ ['\x7d']
  | accessor :: later => lead ++ (accessor.word ++ textFrom accessor.rest later)

def text : AccessorBlock → List Char
  | getter statements => '\x7b' :: (statements ++ ['\x7d'])
  | accessors lead list => '\x7b' :: textFrom lead list

/-- A word that no letter stands next to. -/
structure IsWhole (before word after : List Char) : Prop where
  ne_nil : word ≠ []
  word : ∀ c ∈ word, isWordChar c = true
  before : ∀ c, before.getLast? = some c → isWordChar c = false
  after : ∀ c, after.head? = some c → isWordChar c = false

theorem isWhole_between_blanks (front rest : List Char) {word : List Char}
    (hword : word ≠ [] ∧ word.all isWordChar = true) :
    IsWhole (front ++ [' ']) word (' ' :: rest) where
  ne_nil := hword.1
  word := List.all_eq_true.mp hword.2
  before := by
    intro c hc
    obtain rfl : ' ' = c := by simpa using hc
    decide
  after := by
    intro c hc
    obtain rfl : ' ' = c := by simpa using hc
    decide

/-- The word of each accessor is a whole one. -/
def AreWhole (lead : List Char) : List Accessor → Prop
  | [] => True
  | accessor :: later =>
      IsWhole lead accessor.word (textFrom accessor.rest later) ∧ AreWhole accessor.rest later

def IsWritten : AccessorBlock → Prop
  | getter _ => True
  | accessors lead list => AreWhole lead list

/-- One of the accessors is introduced by `set`, `didSet` or `willSet`. -/
def DeclaresSetter : AccessorBlock → Prop
  | getter _ => False
  | accessors _ list => ∃ accessor ∈ list, accessor.word ∈ setterWords

/-- No part of the block spells a word for a setter. -/
def IsSilent : AccessorBlock → Prop
  | getter statements => ¬SpellsSetter statements
  | accessors lead list =>
      ¬SpellsSetter lead ∧
        ∀ accessor ∈ list, ¬SpellsSetter accessor.word ∧ ¬SpellsSetter accessor.rest

variable {block : AccessorBlock} {lead : List Char} {list : List Accessor}

theorem exists_text_eq_cons (block : AccessorBlock) : ∃ inside, block.text = '\x7b' :: inside := by
  cases block <;> exact ⟨_, rfl⟩

theorem spellsSetter_textFrom_iff (h : AreWhole lead list) :
    SpellsSetter (textFrom lead list) ↔
      SpellsSetter lead ∨
        ∃ accessor ∈ list, SpellsSetter accessor.word ∨ SpellsSetter accessor.rest := by
  induction list generalizing lead with
  | nil => simpa [textFrom] using SpellsSetter.concat_iff (by decide)
  | cons accessor later ih =>
      obtain ⟨hwhole, hlater⟩ := h
      have hbefore : EndsApart lead := fun c hc =>
        isApart_of_isWordChar_eq_false (hwhole.before c hc)
      have hafter : BeginsApart (textFrom accessor.rest later) := fun c hc =>
        isApart_of_isWordChar_eq_false (hwhole.after c hc)
      rw [textFrom, SpellsSetter.append_iff_of_endsApart hbefore,
        SpellsSetter.append_iff_of_beginsApart hafter, ih hlater, List.exists_mem_cons_iff,
        or_assoc]

theorem spellsSetter_text_iff (h : block.IsWritten) :
    SpellsSetter block.text ↔ ¬block.IsSilent := by
  have hbrace : IsApart '\x7b' := by decide
  cases block with
  | getter statements =>
      rw [text, SpellsSetter.cons_iff hbrace, SpellsSetter.concat_iff (by decide), IsSilent,
        not_not]
  | accessors lead list =>
      rw [text, SpellsSetter.cons_iff hbrace, spellsSetter_textFrom_iff h, IsSilent, not_and_or,
        not_not]
      apply or_congr_right
      simp only [not_forall, not_and_or, not_not, exists_prop]

theorem not_isSilent_of_declaresSetter (h : block.DeclaresSetter) : ¬block.IsSilent := by
  cases block with
  | getter statements => exact h.elim
  | accessors lead list =>
      obtain ⟨accessor, haccessor, hword⟩ := h
      intro hsilent
      exact (hsilent.2 accessor haccessor).1 ⟨accessor.word, hword, List.infix_rfl⟩

end AccessorBlock

namespace SyntaxTree

/-- From the first brace or equals sign on. -/
def fromMark (clause : List Char) : List Char :=
  clause.dropWhile fun c => c != '\x7b' && c != '='

/-- An equals sign comes before any brace, as in front of an initial value. -/
def givesValue (clause : List Char) : Bool :=
  (fromMark clause).head? == some '='

theorem eq_of_fromMark {clause rest : List Char} {c : Char} (h : fromMark clause = c :: rest) :
    c = '\x7b' ∨ c = '=' := by
  have hstop := List.head?_dropWhile_not (fun c => c != '\x7b' && c != '=') clause
  rw [← fromMark, h] at hstop
  by_contra hother
  simp_all

/-- What is read as the block begins at the first brace, unless a value comes before it. -/
theorem accessorBlock?_append (clause inside : List Char) :
    accessorBlock? (clause ++ '\x7b' :: inside) =
      if givesValue clause then none else some (fromMark clause ++ '\x7b' :: inside) := by
  rw [accessorBlock?, List.dropWhile_append, givesValue, ← fromMark]
  cases hmark : fromMark clause with
  | nil => simp
  | cons c rest => rcases eq_of_fromMark hmark with rfl | rfl <;> simp

end SyntaxTree

/-! ### Properties with accessors -/

/-- A variable property with a block of accessors, as it is written after its modifiers: what stands
before the keyword, the blanks after it, the name, what stands between the name and the block, and
the block. -/
structure AccessorProperty where
  gap : List Char
  margin : List Char
  name : List Char
  clause : List Char
  block : AccessorBlock

namespace AccessorProperty

def toVariable (property : AccessorProperty) : VariableProperty :=
  { gap := property.gap
    margin := property.margin
    name := property.name
    rest := property.clause ++ property.block.text }

def text (property : AccessorProperty) : List Char :=
  property.toVariable.text

structure IsWritten (property : AccessorProperty) : Prop where
  parts : property.toVariable.IsWritten
  block : property.block.IsWritten

/-- No word for a setter is found: no value seems to be given before the block, and neither the
block nor what a brace before it opens spells such a word. -/
def IsSilent (property : AccessorProperty) : Prop :=
  SyntaxTree.givesValue property.clause = false ∧
    ¬SpellsSetter (SyntaxTree.fromMark property.clause) ∧ property.block.IsSilent

variable {property : AccessorProperty}

/-- What is read of a property with accessors. -/
theorem exists_property? (h : property.IsWritten) {source : List Char} {tree : SyntaxTree}
    (hslice : slice? source ((Modifiers.ofTree source true tree).stop.getD tree.start) tree.stop =
      some property.text) :
    ∃ declaration, SyntaxTree.property? source tree = some declaration ∧
      declaration.name = String.ofList property.name ∧
      (declaration.settable = true ↔ ¬property.IsSilent) ∧
      declaration.computed = !declaration.settable := by
  obtain ⟨declaration, hproperty, _, hname, _, _, _, hsettable, hcomputed⟩ :=
    SyntaxTree.exists_property?_of_variable h.parts rfl hslice
  obtain ⟨inside, hinside⟩ := property.block.exists_text_eq_cons
  have hblock : SyntaxTree.accessorBlock? property.toVariable.rest =
      if SyntaxTree.givesValue property.clause then none
      else some (SyntaxTree.fromMark property.clause ++ property.block.text) := by
    rw [hinside, ← SyntaxTree.accessorBlock?_append, ← hinside, toVariable]
  have hbrace : BeginsApart property.block.text :=
    hinside ▸ beginsApart_cons_iff.mpr (by decide)
  refine ⟨declaration, hproperty, hname, ?_, ?_⟩
  · rw [hsettable, hblock]
    by_cases hvalue : SyntaxTree.givesValue property.clause = true
    · simp [hvalue, IsSilent]
    · rw [if_neg hvalue, Option.map_some, Option.getD_some, hasSetter_eq_true_iff,
        SpellsSetter.append_iff_of_beginsApart hbrace, AccessorBlock.spellsSetter_text_iff h.block]
      simp only [IsSilent, hvalue, true_and]
      tauto
  · rw [hcomputed, hsettable, hblock]
    by_cases hvalue : SyntaxTree.givesValue property.clause = true <;> simp [hvalue]

/-- A property is read with the setter that its block declares, and as computed otherwise, exactly
if it declares one or no part of it spells a word for a setter. -/
theorem settable_iff (h : property.IsWritten) {source : List Char} {tree : SyntaxTree}
    (hslice : slice? source ((Modifiers.ofTree source true tree).stop.getD tree.start) tree.stop =
      some property.text) :
    ∃ declaration, SyntaxTree.property? source tree = some declaration ∧
      declaration.name = String.ofList property.name ∧
      (((declaration.settable = true ↔ property.block.DeclaresSetter) ∧
          (declaration.computed = true ↔ ¬property.block.DeclaresSetter)) ↔
        property.block.DeclaresSetter ∨ property.IsSilent) := by
  obtain ⟨declaration, hproperty, hname, hsettable, hcomputed⟩ := exists_property? h hslice
  have hmissed : property.block.DeclaresSetter → ¬property.IsSilent := fun hsetter hsilent =>
    AccessorBlock.not_isSilent_of_declaresSetter hsetter hsilent.2.2
  have hopposite : declaration.computed = true ↔ ¬declaration.settable = true := by
    simp [hcomputed]
  refine ⟨declaration, hproperty, hname, ?_⟩
  rw [hopposite, hsettable]
  tauto

end AccessorProperty

end Understudy
