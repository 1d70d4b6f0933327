import Understudy.Proofs.Method.Names
import Understudy.Proofs.Mock.ReadBack
import Understudy.Proofs.SyntaxTree.Positions
import Understudy.Proofs.SyntaxTree.Variable

/-!
# Effects of a computed property

The effects of a computed property are those on its `get` accessor. They are looked for in two
places: between the name and the block, where the type stands, and then on the first `get` of the
block that has any. So effects of a function type are taken for those of the property, and so is a
`get` with effects elsewhere in the block; `Method.effects_getter_iff` says exactly when this gives
other effects than the accessor has.
-/

namespace Understudy

open Text

namespace Effects

theorem leading_append_word (before after : List Token) :
    leading (before ++ .word "get".toList :: after) = leading before := by
  fun_induction leading before with
  | case1 rest ih =>
      rw [List.cons_append, List.cons_append, leading]
      exact ih
  | case2 text rest haccessor ih =>
      rw [List.cons_append, List.cons_append, leading, if_pos haccessor, ih]
  | case3 text rest haccessor =>
      rw [List.cons_append, List.cons_append, leading, if_neg haccessor]
  | case4 before hblanks hword =>
      cases before with
      | nil => rfl
      | cons first rest =>
          cases first with
          | word | mark => rfl
          | blank =>
              cases rest with
              | nil => rfl
              | cons second later =>
                  cases second with
                  | blank => exact absurd rfl (hblanks later)
                  | word text => exact absurd rfl (hword text later)
                  | mark => rfl

theorem ofGetter_get (after : List Token) :
    ofGetter (.word "get".toList :: after) =
      if leading after = [] then ofGetter after else leading after := by
  rw [ofGetter]
  by_cases hnone : leading after = [] <;> simp [hnone]

/-- Of two `get`s with effects the first one counts. -/
theorem ofGetter_append (before after : List Token) :
    ofGetter (before ++ .word "get".toList :: after) =
      if ofGetter before = [] then ofGetter (.word "get".toList :: after) else ofGetter before := by
  induction before with
  | nil => simp [ofGetter]
  | cons token rest ih =>
      cases token with
      | word text =>
          rw [List.cons_append, ofGetter, leading_append_word, ofGetter, ih]
          by_cases hget : (text == "get".toList && !(leading rest).isEmpty) = true
          · have hsome : leading rest ≠ [] := by
              simp only [Bool.and_eq_true, Bool.not_eq_true', List.isEmpty_eq_false_iff] at hget
              exact hget.2
            simp only [hget, if_true, hsome, if_false]
          · simp only [hget, Bool.false_eq_true, if_false]
      | blank => exact ih
      | mark c => exact ih

/-- The effects of an accessor as they are written, each after some blanks. -/
def clauseText (clause : List (List Char × List Char)) : List Char :=
  clause.flatMap fun entry => entry.1 ++ entry.2

/-- Each entry is an effect with the blanks before it. -/
def IsClause (clause : List (List Char × List Char)) : Prop :=
  ∀ entry ∈ clause, entry.1 ≠ [] ∧ (∀ c ∈ entry.1, isBlank c = true) ∧
    entry.2 ∈ accessorKeywords

variable {clause : List (List Char × List Char)} {rest : List Char}

theorem tokens_blanks {blanks : List Char} (h : ∀ c ∈ blanks, isBlank c = true)
    (rest : List Char) :
    tokens (blanks ++ rest) = List.replicate blanks.length .blank ++ tokens rest := by
  induction blanks with
  | nil => rfl
  | cons c later ih =>
      obtain ⟨hc, hlater⟩ := List.forall_mem_cons.mp h
      rw [List.cons_append, tokens_blank hc (isWordChar_eq_false_of_isBlank hc), ih hlater]
      rfl

theorem leading_replicate (count : Nat) {word : List Char} (hword : word ∈ accessorKeywords)
    (rest : List Token) :
    leading (List.replicate (count + 1) .blank ++ .word word :: rest) = word :: leading rest := by
  induction count with
  | zero => exact if_pos (List.contains_iff_mem.mpr hword)
  | succ count ih =>
      rw [List.replicate_succ, List.replicate_succ, List.cons_append, List.cons_append, leading]
      exact ih

/-- What follows an effect does not go on with its word. -/
theorem exists_clauseText_append (h : IsClause clause)
    (hrest : ∃ c later, rest = c :: later ∧ isWordChar c = false) :
    ∃ c later, clauseText clause ++ rest = c :: later ∧ isWordChar c = false := by
  cases clause with
  | nil => exact hrest
  | cons entry others =>
      obtain ⟨hne, hblank, _⟩ := h entry List.mem_cons_self
      obtain ⟨c, later, hcons⟩ := List.exists_cons_of_ne_nil hne
      refine ⟨c, later ++ entry.2 ++ clauseText others ++ rest, ?_, ?_⟩
      · simp [clauseText, hcons]
      · exact isWordChar_eq_false_of_isBlank (hblank c (hcons ▸ List.mem_cons_self))

theorem leading_clause (h : IsClause clause)
    (hrest : ∃ c later, rest = c :: later ∧ isWordChar c = false)
    (hend : leading (tokens rest) = []) :
    leading (tokens (clauseText clause ++ rest)) = clause.map Prod.snd := by
  induction clause with
  | nil => exact hend
  | cons entry others ih =>
      obtain ⟨⟨hne, hblank, hkeyword⟩, hothers⟩ := List.forall_mem_cons.mp h
      have hword := isKeyword_of_mem (mem_keywords_of_mem hkeyword)
      obtain ⟨count, hcount⟩ : ∃ count, entry.1.length = count + 1 :=
        Nat.exists_eq_succ_of_ne_zero (by simpa using hne)
      have htext : clauseText (entry :: others) ++ rest =
          entry.1 ++ (entry.2 ++ (clauseText others ++ rest)) := by
        simp [clauseText]
      have hlater := ih hothers
      obtain ⟨c, later, hcons, hc⟩ := exists_clauseText_append hothers hrest
      rw [hcons] at hlater
      rw [htext, tokens_blanks hblank, hcons, tokens_word hword.ne_nil hword.is_word hc, hcount,
        leading_replicate count hkeyword, hlater]
      rfl

theorem IsKeyword.isUnbroken {word : List Char} (h : IsKeyword word) : isUnbroken word = true := by
  simp only [Text.isUnbroken, Bool.and_eq_true, Bool.not_eq_true', List.isEmpty_eq_false_iff,
    List.all_eq_true]
  refine ⟨h.ne_nil, fun c hc => ?_⟩
  exact isBlank_eq_false_of isWordChar_eq_false_of_isBlank (h.is_word c hc)

/-- Effects that are written with blanks between them can be told apart again. -/
theorem words_spaced {found : List (List Char)} (h : ∀ word ∈ found, IsKeyword word) :
    words (spaced found).toList = found := by
  cases found with
  | nil => rfl
  | cons word later =>
      rw [toList_spaced_cons]
      induction later generalizing word with
      | nil =>
          rw [following, List.flatMap_nil, List.append_nil]
          exact words_eq_singleton (h word List.mem_cons_self).isUnbroken
      | cons next others ih =>
          obtain ⟨hword, hlater⟩ := List.forall_mem_cons.mp h
          have htext : word ++ following (next :: others) =
              word ++ ' ' :: (next ++ following others) := by
            simp [following]
          rw [htext, words_append (by decide), words_eq_singleton hword.isUnbroken, ih next hlater]
          rfl

theorem spaced_inj {left right : List (List Char)} (hleft : ∀ word ∈ left, IsKeyword word)
    (hright : ∀ word ∈ right, IsKeyword word) : spaced left = spaced right ↔ left = right := by
  refine ⟨fun heq => ?_, congrArg spaced⟩
  rw [← words_spaced hleft, heq, words_spaced hright]

end Effects

/-! ### Properties with a getter -/

/-- A block with a getter alone, as it is written: the body of the getter itself, or a `get`
accessor with its effects between what comes before and after it. -/
inductive GetterBlock where
  | body (statements : List Char)
  | accessor (lead : List Char) (clause : List (List Char × List Char)) (rest : List Char)

namespace GetterBlock

open Effects

def text : GetterBlock → List Char
  | body statements => '\x7b' :: statements
  | accessor lead clause rest => '\x7b' :: (lead ++ "get".toList ++ clauseText clause ++ rest)

/-- The effects on the accessor. -/
def effects : GetterBlock → List (List Char)
  | body _ => []
  | accessor _ clause _ => clause.map Prod.snd

/-- The word `get` stands alone, and no more effects follow those of the clause. -/
def IsWritten : GetterBlock → Prop
  | body _ => True
  | accessor lead clause rest =>
      (∀ c, lead.getLast? = some c → isWordChar c = false) ∧ IsClause clause ∧
        (∃ c later, rest = c :: later ∧ isWordChar c = false) ∧ leading (tokens rest) = []

/-- No `get` with other effects comes in the place of the accessor: none before it, and none after
it if it has no effects itself. -/
def IsFirst : GetterBlock → Prop
  | body statements => ofGetter (tokens statements) = []
  | accessor lead clause rest =>
      (ofGetter (tokens lead) = [] ∨ ofGetter (tokens lead) = clause.map Prod.snd) ∧
        (clause = [] → ofGetter (tokens rest) = [])

theorem ofGetter_text_iff {block : GetterBlock} (h : block.IsWritten) :
    ofGetter (tokens block.text) = block.effects ↔ block.IsFirst := by
  have hbrace (rest : List Char) :
      ofGetter (tokens ('\x7b' :: rest)) = ofGetter (tokens rest) := rfl
  cases block with
  | body statements => exact Iff.of_eq (congrArg (· = []) (hbrace statements))
  | accessor lead clause rest =>
      obtain ⟨hlead, hclause, hrest, hend⟩ := h
      have hleading := leading_clause hclause hrest hend
      obtain ⟨c, later, hcons, hc⟩ := exists_clauseText_append hclause hrest
      have hget : tokens ("get".toList ++ (clauseText clause ++ rest)) =
          .word "get".toList :: tokens (clauseText clause ++ rest) := by
        rw [hcons]
        exact tokens_word (by decide) (List.all_eq_true.mp (by decide)) hc later
      have htokens : ofGetter (tokens (text (accessor lead clause rest))) =
          ofGetter (tokens lead ++ .word "get".toList :: tokens (clauseText clause ++ rest)) := by
        rw [text, hbrace, List.append_assoc, List.append_assoc, tokens_append_of_getLast? hlead,
          hget]
      rw [htokens, ofGetter_append, ofGetter_get, hleading, effects, IsFirst]
      by_cases hnone : clause = []
      · subst hnone
        by_cases hbefore : ofGetter (tokens lead) = [] <;> simp [hbefore, clauseText]
      · have hsome : clause.map Prod.snd ≠ [] := by simpa using hnone
        by_cases hbefore : ofGetter (tokens lead) = [] <;> simp [hbefore, hsome, hnone]

theorem isKeyword_of_mem_effects {block : GetterBlock} (h : block.IsWritten) :
    ∀ word ∈ block.effects, IsKeyword word := by
  cases block with
  | body statements => simp [effects]
  | accessor lead clause rest =>
      intro word hword
      obtain ⟨entry, hentry, rfl⟩ := List.mem_map.mp hword
      exact isKeyword_of_mem (mem_keywords_of_mem (h.2.1 entry hentry).2.2)

end GetterBlock

/-- A property with a getter alone, as it is written after its modifiers. -/
structure GetterProperty where
  gap : List Char
  margin : List Char
  name : List Char
  space : List Char
  type : List Char
  block : GetterBlock

namespace GetterProperty

/-- The text up to the end of the name. -/
def heading (property : GetterProperty) : List Char :=
  property.gap ++ "var ".toList ++ property.margin ++ property.name

def typeClause (property : GetterProperty) : List Char :=
  property.space ++ ':' :: property.type

def text (property : GetterProperty) : List Char :=
  property.heading ++ property.typeClause ++ property.block.text

/-- The effects in the type before its first arrow. -/
def typeEffects (property : GetterProperty) : List (List Char) :=
  ((tokens (upTo "->".toList property.type)).filterMap Token.word?).filter Effects.keywords.contains

structure IsWritten (property : GetterProperty) : Prop where
  gap : SyntaxTree.cutAtKeyword? property.gap = none
  margin : ∀ c ∈ property.margin, isBlank c = true
  name_ne_nil : property.name ≠ []
  name : ∀ c ∈ property.name, SyntaxTree.isPropertyNameChar c = true
  space : ∀ c ∈ property.space, isBlank c = true
  type : ∀ c ∈ property.type, c ≠ '=' ∧ c ≠ '\x7b'
  block : property.block.IsWritten

/-- The property with all that follows its name in one. -/
def toVariable (property : GetterProperty) : VariableProperty :=
  { gap := property.gap
    margin := property.margin
    name := property.name
    rest := property.typeClause ++ property.block.text }

theorem IsWritten.isBlank_name {property : GetterProperty} (h : property.IsWritten) :
    ∀ c ∈ property.name, isBlank c = false := fun c hc =>
  isBlank_eq_false_of SyntaxTree.isPropertyNameChar_eq_false_of_isBlank (h.name c hc)

end GetterProperty

namespace SyntaxTree

variable {source : List Char} {tree : SyntaxTree} {property : GetterProperty}

theorem exists_typeClause_append (h : property.IsWritten) (rest : List Char) :
    ∃ c later, property.typeClause ++ rest = c :: later ∧ isPropertyNameChar c = false := by
  rw [GetterProperty.typeClause]
  cases hspace : property.space with
  | nil => exact ⟨':', property.type ++ rest, rfl, by decide⟩
  | cons c later =>
      have hc : isBlank c = true := h.space c (hspace ▸ List.mem_cons_self)
      exact ⟨c, later ++ ':' :: property.type ++ rest, by simp,
        isPropertyNameChar_eq_false_of_isBlank hc⟩

theorem accessorBlock?_typeClause (h : property.IsWritten) :
    accessorBlock? (property.typeClause ++ property.block.text) = some property.block.text := by
  obtain ⟨inside, hblock⟩ : ∃ inside, property.block.text = '\x7b' :: inside := by
    cases property.block <;> exact ⟨_, rfl⟩
  have hclause : ∀ c ∈ property.typeClause, (c != '\x7b' && c != '=') = true := by
    have hblank {c : Char} (hc : isBlank c = true) : (c != '\x7b' && c != '=') = true :=
      of_isBlank (P := fun c => (c != '\x7b' && c != '=') = true) (by decide) hc
    intro c hc
    rcases List.mem_append.mp hc with hspace | hrest
    · exact hblank (h.space c hspace)
    · rcases List.mem_cons.mp hrest with rfl | htype
      · decide
      · simp [h.type c htype]
  rw [accessorBlock?, hblock, dropWhile_append_of_head? hclause (by simp)]
  rfl

/-- The property that is read from a getter, with the positions of its name's end and its block. -/
theorem exists_property? (h : property.IsWritten) {start : Nat}
    (hstart : (Modifiers.ofTree source true tree).stop.getD tree.start = start)
    (hslice : slice? source start tree.stop = some property.text) :
    ∃ declaration, property? source tree = some declaration ∧
      declaration.kind = .property ∧ declaration.name = String.ofList property.name ∧
      declaration.children = [] ∧
      declaration.signatureEnd = start + byteLength property.heading ∧
      declaration.bodyOffset = some (tree.stop - byteLength property.block.text) := by
  have hwritten : property.toVariable.IsWritten :=
    { gap := h.gap
      margin := h.margin
      name_ne_nil := h.name_ne_nil
      name := h.name
      rest := by
        obtain ⟨c, later, htail, hc⟩ := exists_typeClause_append h property.block.text
        intro first hfirst
        obtain rfl : c = first := by simpa [GetterProperty.toVariable, htail] using hfirst
        exact hc }
  have htext : property.text = property.toVariable.text := List.append_assoc _ _ _
  obtain ⟨declaration, hproperty, hkind, hname, hchildren, hend, hbody, _⟩ :=
    exists_property?_of_variable hwritten hstart (htext ▸ hslice)
  refine ⟨declaration, hproperty, hkind, hname, hchildren, hend, ?_⟩
  rw [hbody, GetterProperty.toVariable, accessorBlock?_typeClause h]
  rfl

end SyntaxTree

/-! ### The method of a getter -/

namespace GetterProperty

open Effects

variable {property : GetterProperty}

theorem isKeyword_of_mem_typeEffects : ∀ word ∈ property.typeEffects, IsKeyword word :=
  fun _ hword => isKeyword_of_mem (List.contains_iff_mem.mp (List.mem_filter.mp hword).2)

/-- Before the block the effects of the type are found. -/
theorem afterSignature_typeClause (h : property.IsWritten) {source : String} {start stop : Nat}
    (hslice : slice? source.toList start stop = some property.typeClause) :
    afterSignature source start stop = spaced property.typeEffects := by
  have hstop := stop_of_slice? hslice
  have hspace : '-' ∉ property.space ++ [':'] := by
    intro hmem
    rcases List.mem_append.mp hmem with hblank | hmark
    · exact absurd (h.space '-' hblank) (by decide)
    · simp at hmark
  have hcut : upTo "->".toList property.typeClause =
      property.space ++ ':' :: upTo "->".toList property.type := by
    have htext : property.typeClause = property.space ++ [':'] ++ property.type := by
      simp [typeClause]
    have hkept : upTo "->".toList (property.space ++ [':'] ++ property.type) =
        property.space ++ [':'] ++ upTo "->".toList property.type :=
      upTo_append_left hspace property.type
    rw [htext, hkept, List.append_assoc]
    rfl
  have htokens : tokens (property.space ++ ':' :: upTo "->".toList property.type) =
      List.replicate property.space.length .blank ++
        .mark ':' :: tokens (upTo "->".toList property.type) := tokens_blanks h.space _
  have hwords : (tokens (upTo "->".toList property.typeClause)).filterMap Token.word? =
      (tokens (upTo "->".toList property.type)).filterMap Token.word? := by
    rw [hcut, htokens, List.filterMap_append, List.filterMap_replicate_of_none rfl]
    rfl
  rw [afterSignature, max_eq_left (by omega), hslice]
  exact congrArg (fun found => spaced (found.filter keywords.contains)) hwords

end GetterProperty

theorem DeclaredName.read_property {property : GetterProperty} (h : property.IsWritten) :
    read (String.ofList property.name) = ⟨String.ofList property.name, []⟩ := by
  have hdelimiter : ∀ c ∈ property.name, isDelimiter c = false := by
    intro c hc
    by_contra hsplits
    have hmark : (c = ':' ∨ c = '(') ∨ c = ')' := by
      simpa only [isDelimiter, Bool.not_eq_false, Bool.or_eq_true, beq_iff_eq] using hsplits
    have hname := h.name c hc
    rcases hmark with (rfl | rfl) | rfl <;> exact absurd hname (by decide)
  have hkept : (!property.name.isEmpty) = true := by simp [h.name_ne_nil]
  rw [read, String.toList_ofList, splitWhere_eq_singleton hdelimiter]
  simp only [List.map_cons, List.map_nil, trim_of_forall_isBlank_eq_false h.isBlank_name,
    List.filter_cons, hkept, if_true, List.filter_nil]

namespace Method

open Effects SyntaxTree

variable {context : SourceContext} {tree : SyntaxTree} {property : GetterProperty}

theorem effectsOf_getter (h : property.IsWritten) {source : String} {declaration : Declaration}
    {start : Nat} (hslice : slice? source.toList start declaration.stop = some property.text)
    (hend : declaration.signatureEnd = start + byteLength property.heading)
    (hbody : declaration.bodyOffset = some (declaration.stop - byteLength property.block.text)) :
    effectsOf source .computedProperty declaration =
      if property.typeEffects = [] then spaced (ofGetter (tokens property.block.text))
      else spaced property.typeEffects := by
  have hstop := stop_of_slice? hslice
  rw [GetterProperty.text, byteLength_append, byteLength_append] at hstop
  have hbegins : declaration.stop - byteLength property.block.text =
      declaration.signatureEnd + byteLength property.typeClause := by omega
  have hclause : slice? source.toList declaration.signatureEnd
      (declaration.signatureEnd + byteLength property.typeClause) = some property.typeClause :=
    hend ▸ slice?_part hslice
  have hblock : slice? source.toList (declaration.signatureEnd + byteLength property.typeClause)
      declaration.stop = some property.block.text := by
    rw [GetterProperty.text, ← List.append_nil (_ ++ property.block.text)] at hslice
    have hpart := slice?_part hslice
    rw [byteLength_append] at hpart
    have hfrom : start + (byteLength property.heading + byteLength property.typeClause) =
        declaration.signatureEnd + byteLength property.typeClause := by omega
    have hto : declaration.signatureEnd + byteLength property.typeClause +
        byteLength property.block.text = declaration.stop := by omega
    rwa [hfrom, hto] at hpart
  have hsignature := GetterProperty.afterSignature_typeClause h hclause
  have haccessor : onAccessor source (declaration.signatureEnd + byteLength property.typeClause)
      declaration.stop = spaced (ofGetter (tokens property.block.text)) := by
    rw [onAccessor, max_eq_left (by omega), hblock]
  have hnone : spaced property.typeEffects = spaced [] ↔ property.typeEffects = [] :=
    spaced_inj GetterProperty.isKeyword_of_mem_typeEffects (by simp)
  have hempty : spaced [] = "" := rfl
  simp only [effectsOf, hbody, Option.getD_some, hbegins, hsignature, haccessor,
    MethodKind.hasAccessors, Bool.and_true, beq_iff_eq, ← hempty, hnone]

/-- **Effects of a getter.** A computed property with a getter alone becomes a method of its name.
Where its type has no effects before the first arrow, the method has those of the accessor exactly
if no other `get` with effects is taken for it. Otherwise the method has the effects of the type. -/
theorem effects_getter_iff (h : property.IsWritten) (hspan : tree.start ≤ tree.stop)
    (hslice : slice? context.source.toList
      ((Modifiers.ofTree context.source.toList true tree).stop.getD tree.start) tree.stop =
        some property.text) :
    ∃ declaration method, property? context.source.toList tree = some declaration ∧
      ofDeclaration context declaration = .ok method ∧ method.name = String.ofList property.name ∧
      (method.effects = spaced property.block.effects ↔
        if property.typeEffects = [] then property.block.IsFirst
        else property.typeEffects = property.block.effects) := by
  obtain ⟨declaration, hproperty, hkind, hname, hchildren, hend, hbody⟩ :=
    exists_property? h rfl hslice
  obtain ⟨_, hoffset, hlength⟩ := range_of_property? hproperty
  have hstop : declaration.stop = tree.stop := by
    rw [Declaration.stop, hoffset, hlength, SyntaxTree.length]
    omega
  have hread : DeclaredName.read declaration.name = ⟨String.ofList property.name, []⟩ := by
    rw [hname, DeclaredName.read_property h]
  have heffects : (build context declaration ⟨String.ofList property.name, []⟩).effects =
      if property.typeEffects = [] then spaced (ofGetter (tokens property.block.text))
      else spaced property.typeEffects := by
    rw [← hstop] at hslice hbody
    rw [build, hkind]
    exact effectsOf_getter h hslice hend hbody
  refine ⟨declaration, build context declaration ⟨String.ofList property.name, []⟩, hproperty, ?_,
    rfl, ?_⟩
  · rw [ofDeclaration, hread, if_pos]
    simp [Declaration.params, hchildren]
  · rw [heffects]
    split_ifs with hnone
    · rw [spaced_inj (fun _ hword => isKeyword_of_mem (subset_ofGetter _ hword))
        (GetterBlock.isKeyword_of_mem_effects h.block), GetterBlock.ofGetter_text_iff h.block]
    · rw [spaced_inj GetterProperty.isKeyword_of_mem_typeEffects
        (GetterBlock.isKeyword_of_mem_effects h.block)]

def contextOf (source : List Char) : SourceContext :=
  { path := ⟨"Api.swift"⟩
    source := String.ofList source
    processed := false
    marker := "@mockable"
    policy := {} }

def plainGetter (name type : String) (clause : List (List Char × List Char)) : GetterProperty :=
  { gap := []
    margin := []
    name := name.toList
    space := []
    type := type.toList
    block := .accessor [' '] clause " \x7d".toList }

theorem isWritten_plainGetter {name type : String} {clause : List (List Char × List Char)}
    (hne : name.toList ≠ []) (hname : name.toList.all isPropertyNameChar = true)
    (htype : '=' ∉ type.toList ∧ '\x7b' ∉ type.toList) (hclause : IsClause clause) :
    (plainGetter name type clause).IsWritten :=
  { gap := rfl
    margin := by simp [plainGetter]
    name_ne_nil := hne
    name := List.all_eq_true.mp hname
    space := by simp [plainGetter]
    type := fun _ hc => ⟨fun heq => htype.1 (heq ▸ hc), fun heq => htype.2 (heq ▸ hc)⟩
    block := ⟨fun _ hlast => Option.some.inj hlast ▸ by decide, hclause,
      ⟨' ', ['\x7d'], rfl, by decide⟩, by decide⟩ }

/-- `var relay: () -> () throws -> Void { get async throws }` -/
def relay : GetterProperty :=
  plainGetter "relay" " () -> () throws -> Void "
    [([' '], "async".toList), ([' '], "throws".toList)]

def relayTree : SyntaxTree :=
  .node "protocol_property_declaration" true 0 55 none []

theorem effects_getter_of_relay :
    relay.IsWritten ∧ relayTree.start ≤ relayTree.stop ∧
    slice? (contextOf relay.text).source.toList
      ((Modifiers.ofTree (contextOf relay.text).source.toList true relayTree).stop.getD
        relayTree.start) relayTree.stop = some relay.text ∧
    ∃ declaration method,
      property? (contextOf relay.text).source.toList relayTree = some declaration ∧
      ofDeclaration (contextOf relay.text) declaration = .ok method ∧
      method.effects = "async throws" := by
  have hclause : IsClause [([' '], "async".toList), ([' '], "throws".toList)] := by
    simp [IsClause, isBlank, accessorKeywords]
  have h : relay.IsWritten := isWritten_plainGetter (by decide) (by decide) (by decide) hclause
  have hslice : slice? (contextOf relay.text).source.toList
      ((Modifiers.ofTree (contextOf relay.text).source.toList true relayTree).stop.getD
        relayTree.start) relayTree.stop = some relay.text := by decide
  obtain ⟨declaration, method, hproperty, hmethod, _, heffects⟩ :=
    effects_getter_iff h (by decide) hslice
  have hfirst : if relay.typeEffects = [] then relay.block.IsFirst
      else relay.typeEffects = relay.block.effects := by
    rw [if_pos (by decide)]
    exact ⟨by decide, by decide⟩
  exact ⟨h, by decide, hslice, declaration, method, hproperty, hmethod, heffects.mpr hfirst⟩

/-- `var handler: () throws -> Void { get }` -/
def thrower : GetterProperty :=
  plainGetter "handler" " () throws -> Void " []

def throwerTree : SyntaxTree :=
  .node "protocol_property_declaration" true 0 38 none
    [.node "pattern" true 0 11 (some "name")
      [.node "value_binding_pattern" true 0 3 none [.node "var" false 0 3 none []],
        .node "simple_identifier" true 4 11 none []],
      .node "type_annotation" true 11 30 none
        [.node ":" false 11 12 none [],
          .node "function_type" true 13 30 (some "name")
            [.node "tuple_type" true 13 15 none
              [.node "(" false 13 14 none [], .node ")" false 14 15 none []],
              .node "throws" true 16 22 none [],
              .node "->" false 23 25 none [],
              .node "user_type" true 26 30 (some "name")
                [.node "type_identifier" true 26 30 none []]]],
      .node "protocol_property_requirements" true 31 38 none
        [.node "\x7b" false 31 32 none [],
          .node "getter_specifier" true 33 36 none [.node "get" false 33 36 none []],
          .node "\x7d" false 37 38 none []]]

/-- The effects of a function type are taken for those of the getter. -/
theorem not_effects_of_getter :
    ¬∀ (context : SourceContext) (tree : SyntaxTree) (property : GetterProperty),
      property.IsWritten → tree.start ≤ tree.stop →
      slice? context.source.toList
        ((Modifiers.ofTree context.source.toList true tree).stop.getD tree.start) tree.stop =
          some property.text →
      ∀ declaration method, property? context.source.toList tree = some declaration →
        ofDeclaration context declaration = .ok method →
        method.effects = spaced property.block.effects := by
  intro hall
  have h : thrower.IsWritten :=
    isWritten_plainGetter (by decide) (by decide) (by decide) (by simp [IsClause])
  have heffects := hall (contextOf thrower.text) throwerTree thrower h (by decide) (by decide) _ _
    rfl rfl
  exact absurd heffects (by decide)

end Method

end Understudy
