import Understudy.Proofs.Mock.ReadBack
import Understudy.Proofs.SyntaxTree.Accessors

/-!
# Rendered getters and their setters

A computed property is rendered with a getter alone. Its text is read back with a setter exactly
when one of the fragments it is put together from spells a word for one
(`SyntaxTree.exists_property?_of_rendered`): the identifier of its recorders, a forwarded argument,
or the sentence that is printed when the type has no default value, which says that the handler must
be `set`.
-/

namespace Understudy

open Text Layout

theorem spellsSetter_intercalate_iff {separator : String} (hne : separator.toList ≠ [])
    (h : AreApart separator.toList) (items : List String) :
    SpellsSetter (separator.intercalate items).toList ↔
      ∃ item ∈ items, SpellsSetter item.toList := by
  rw [String.toList_intercalate, SpellsSetter.intercalate_iff hne h]
  simp

theorem spellsSetter_joinLines_iff (lines : List String) :
    SpellsSetter (joinLines lines).toList ↔ ∃ line ∈ lines, SpellsSetter line.toList :=
  spellsSetter_intercalate_iff (by decide) (by decide) lines

theorem spellsSetter_commaList_iff (items : List String) :
    SpellsSetter (commaList items).toList ↔ ∃ item ∈ items, SpellsSetter item.toList :=
  spellsSetter_intercalate_iff (by decide) (by decide) items

theorem areApart_tab (level : Nat) : AreApart (tab level).toList := by
  intro c hc
  obtain rfl : c = ' ' := List.eq_of_mem_replicate (by simpa [tab] using hc)
  decide

theorem spellsSetter_tab_append_iff (level : Nat) (text : String) :
    SpellsSetter (tab level ++ text).toList ↔ SpellsSetter text.toList := by
  rw [String.toList_append, SpellsSetter.append_iff_of_areApart (areApart_tab level)]

theorem spellsSetter_spaced_iff (text : String) :
    SpellsSetter (spaced text).toList ↔ SpellsSetter text.toList := by
  by_cases hempty : text = ""
  · simp [spaced, hempty]
  · have hspaced : (spaced text).toList = ' ' :: text.toList := by
      simp [spaced, hempty, String.toList_append]
    rw [hspaced, SpellsSetter.cons_iff (by decide)]

/-- A capital tells the name of a recorder, and what follows it, apart from the identifier. -/
theorem spellsSetter_append_recorder_iff {identifier word rest : List Char} {c : Char}
    (hword : word = "CallCount".toList ∨ word = "Handler".toList) (hc : IsApart c) :
    SpellsSetter (identifier ++ (word ++ c :: rest)) ↔
      SpellsSetter identifier ∨ SpellsSetter rest := by
  have hrecorder : word ≠ [] ∧ BeginsApart word ∧ ¬SpellsSetter word := by
    rcases hword with rfl | rfl <;> decide
  obtain ⟨hne, hcapital, hsilent⟩ := hrecorder
  rw [SpellsSetter.append_iff_of_beginsApart (hcapital.append hne _),
    SpellsSetter.append_cons_iff hc, or_iff_right hsilent]

/-- A blank comes next after a word of the getter. -/
theorem exists_spaced_append (text : String) (rest : List Char) :
    ∃ tail, (spaced text).toList ++ ' ' :: rest = ' ' :: tail := by
  by_cases hempty : text = ""
  · exact ⟨rest, by simp [spaced, hempty]⟩
  · exact ⟨text.toList ++ ' ' :: rest, by simp [spaced, hempty, String.toList_append]⟩

namespace Handler

/-- No word for a setter is spelled by what is forwarded, by the type that a result is cast to, or
by the default value, which there must be. -/
structure IsSilent (handler : Handler) (known : KnownLiterals) : Prop where
  arguments : ∀ argument ∈ handler.arguments, ¬SpellsSetter argument.toList
  cast : handler.returns = true → handler.isGeneric handler.returnType = true →
    ¬SpellsSetter handler.returnType.text.toList
  default : ∃ literal, handler.returnType.default? known = some literal ∧
    ¬SpellsSetter literal.toList

variable (handler : Handler) (identifier : String) (known : KnownLiterals) (level : Nat)

/-- A call, from its keywords to the cast of its result. -/
theorem exists_call_eq : ∃ front tail : List Char,
    (handler.call (Callable.slotName identifier)).toList =
      front ++ (identifier.toList ++ ("Handler".toList ++
        '(' :: ((commaList handler.arguments).toList ++ ')' :: tail))) ∧
    ¬SpellsSetter front ∧ EndsApart front ∧
    (SpellsSetter tail ↔ handler.returns = true ∧ handler.isGeneric handler.returnType = true ∧
      SpellsSetter handler.returnType.text.toList) := by
  let front := (if handler.returns then "return " else "") ++
    (if handler.isThrowing then "try " else "") ++ (if handler.isAsync then "await " else "")
  let tail := if handler.returns && handler.isGeneric handler.returnType then
    " as! " ++ handler.returnType.text else ""
  have hfront : ¬SpellsSetter front.toList ∧ EndsApart front.toList := by
    -- one text for each choice of keywords
    cases hreturns : handler.returns <;> cases hthrowing : handler.isThrowing <;>
      cases hasync : handler.isAsync <;> simp only [front, hreturns, hthrowing, hasync] <;> decide
  have htail : SpellsSetter tail.toList ↔ handler.returns = true ∧
      handler.isGeneric handler.returnType = true ∧
        SpellsSetter handler.returnType.text.toList := by
    rw [← and_assoc, ← Bool.and_eq_true]
    by_cases hcast : (handler.returns && handler.isGeneric handler.returnType) = true
    · simp only [tail, if_pos hcast]
      rw [String.toList_append, SpellsSetter.append_iff_of_endsApart (by decide),
        or_iff_right (by decide), and_iff_right hcast]
    · simp only [tail, if_neg hcast]
      exact iff_of_false (by decide) fun h => hcast h.1
  refine ⟨front.toList, tail.toList, ?_, hfront.1, hfront.2, htail⟩
  simp [call, front, tail, Callable.slotName, String.toList_append]

theorem spellsSetter_call_iff :
    SpellsSetter (handler.call (Callable.slotName identifier)).toList ↔
      SpellsSetter identifier.toList ∨
      (∃ argument ∈ handler.arguments, SpellsSetter argument.toList) ∨
      (handler.returns = true ∧ handler.isGeneric handler.returnType = true ∧
        SpellsSetter handler.returnType.text.toList) := by
  obtain ⟨front, tail, hcall, hfront, hends, htail⟩ := exists_call_eq handler identifier
  rw [hcall, SpellsSetter.append_iff_of_endsApart hends, or_iff_right hfront,
    spellsSetter_append_recorder_iff (.inr rfl) (by decide),
    SpellsSetter.append_cons_iff (by decide), spellsSetter_commaList_iff, htail]

/-- Without a default value the printed sentence spells a word for a setter. -/
theorem spellsSetter_fallback_iff :
    (∃ line ∈ handler.fallback (Callable.slotName identifier) known level,
        SpellsSetter line.toList) ↔
      ¬∃ literal, handler.returnType.default? known = some literal ∧
        ¬SpellsSetter literal.toList := by
  rw [fallback]
  split
  · next hnothing => simpa [hnothing] using (by decide : ¬SpellsSetter [])
  · next literal _ hliteral =>
    have hline : SpellsSetter (tab level ++ "return " ++ literal).toList ↔
        SpellsSetter literal.toList := by
      rw [String.append_assoc, spellsSetter_tab_append_iff, String.toList_append,
        SpellsSetter.append_iff_of_endsApart (by decide), or_iff_right (by decide)]
    simp only [hliteral, Option.some.injEq, exists_eq_left', not_not, List.mem_singleton,
      exists_eq_left, hline]
  · next hnone =>
    have hset : SpellsSetter (tab level ++ "fatalError(\"" ++ Callable.slotName identifier ++
        " returns can't have a default value thus its handler must be set\")").toList := by
      rw [String.toList_append]
      exact SpellsSetter.of_infix (List.suffix_append _ _).isInfix (by decide)
    simpa [hnone] using hset

theorem not_isSilent_iff :
    ¬handler.IsSilent known ↔
      (∃ argument ∈ handler.arguments, SpellsSetter argument.toList) ∨
      (handler.returns = true ∧ handler.isGeneric handler.returnType = true ∧
        SpellsSetter handler.returnType.text.toList) ∨
      ¬∃ literal, handler.returnType.default? known = some literal ∧
        ¬SpellsSetter literal.toList := by
  constructor
  · intro hspelled
    by_contra hnone
    simp only [not_or, not_exists, not_and, not_not] at hnone
    obtain ⟨harguments, hcast, hdefault⟩ := hnone
    exact hspelled ⟨harguments, hcast, by simpa using hdefault⟩
  · rintro (⟨argument, hargument, hspelled⟩ | ⟨hreturns, hgeneric, hspelled⟩ | hnone) hsilent
    · exact hsilent.arguments argument hargument hspelled
    · exact hsilent.cast hreturns hgeneric hspelled
    · exact hnone hsilent.default

/-- The slot is bound to a name of its own. -/
theorem spellsSetter_binding_iff :
    SpellsSetter (tab level ++ "if let " ++ Callable.slotName identifier ++ " = " ++
      Callable.slotName identifier ++ " \x7b").toList ↔ SpellsSetter identifier.toList := by
  have htext : (tab level ++ "if let " ++ Callable.slotName identifier ++ " = " ++
      Callable.slotName identifier ++ " \x7b").toList = (tab level).toList ++
        ("if let ".toList ++ (identifier.toList ++ ("Handler".toList ++
          ' ' :: ("= ".toList ++ (identifier.toList ++ ("Handler".toList ++
            ' ' :: ['\x7b'])))))) := by
    simp [Callable.slotName, String.toList_append]
  rw [htext, SpellsSetter.append_iff_of_areApart (areApart_tab level),
    SpellsSetter.append_iff_of_endsApart (by decide), or_iff_right (by decide),
    spellsSetter_append_recorder_iff (.inr rfl) (by decide),
    SpellsSetter.append_iff_of_areApart (by decide),
    spellsSetter_append_recorder_iff (.inr rfl) (by decide)]
  have hbrace : ¬SpellsSetter ['\x7b'] := by decide
  tauto

theorem spellsSetter_invocation_iff :
    (∃ line ∈ handler.invocation (Callable.slotName identifier) known level,
        SpellsSetter line.toList) ↔
      SpellsSetter identifier.toList ∨ ¬handler.IsSilent known := by
  have hclosing : ¬SpellsSetter "\x7d".toList := by decide
  rw [invocation, not_isSilent_iff, ← spellsSetter_fallback_iff handler identifier known level]
  simp only [List.mem_append, List.mem_cons, List.not_mem_nil, or_false, or_and_right, exists_or,
    exists_eq_left, spellsSetter_binding_iff, spellsSetter_tab_append_iff, spellsSetter_call_iff,
    hclosing, false_or, or_assoc, or_self_left]

end Handler

namespace Callable

variable (member : Callable) (identifier : String) (known : KnownLiterals)

theorem spellsSetter_recordingLines_iff (level : Nat) :
    (∃ line ∈ member.recordingLines identifier known level, SpellsSetter line.toList) ↔
      SpellsSetter identifier.toList ∨ ∃ handler ∈ member.handler, ¬handler.IsSilent known := by
  have hcounter : SpellsSetter (tab level ++ counterName identifier ++ " += 1").toList ↔
      SpellsSetter identifier.toList := by
    have htext : (tab level ++ counterName identifier ++ " += 1").toList =
        (tab level).toList ++ (identifier.toList ++
          ("CallCount".toList ++ ' ' :: "+= 1".toList)) := by
      simp [counterName, String.toList_append]
    rw [htext, SpellsSetter.append_iff_of_areApart (areApart_tab level),
      spellsSetter_append_recorder_iff (.inl rfl) (by decide), or_iff_left (by decide)]
  rw [recordingLines, List.exists_mem_cons_iff, hcounter]
  cases member.handler with
  | none => simp
  | some handler =>
      rw [Handler.spellsSetter_invocation_iff]
      simp

/-- A computed property up to the end of its block, from its keyword on. -/
def ownText : String :=
  member.heading ++ member.beforeBlock ++ member.block identifier known

/-- The getter of a computed property. -/
def getter : Accessor :=
  { word := "get".toList
    clause := (spaced member.effects).toList ++ [' ']
    body? := some ('\n' :: (joinLines (member.recordingLines identifier known 3)).toList ++
      "\n        ".toList)
    margin := "\n    ".toList }

/-- A rendered computed property with what stands before its keyword. -/
def rendered (gap : List Char) : AccessorProperty :=
  { gap
    margin := []
    name := member.name.toList
    clause := ": ".toList ++ (member.returnType.text.toList ++ [' '])
    block := .accessors "\n        ".toList [member.getter identifier known] }

/-- No fragment of a rendered computed property spells a word for a setter or looks like a value. -/
structure IsSilent : Prop where
  type : SyntaxTree.givesValue member.returnType.text.toList = false ∧
    ¬SpellsSetter (SyntaxTree.fromMark member.returnType.text.toList)
  identifier : ¬SpellsSetter identifier.toList
  effects : ¬SpellsSetter member.effects.toList
  handler : ∀ handler ∈ member.handler, handler.IsSilent known

variable {member}

theorem block_eq (hkind : member.kind = .computedProperty) :
    member.block identifier known = "\x7b\n" ++ tab 2 ++ "get" ++ spaced member.effects ++
      " \x7b\n" ++ joinLines (member.recordingLines identifier known 3) ++ "\n" ++ tab 2 ++
      "\x7d\n" ++ tab 1 ++ "\x7d" := by
  have hrecording : member.recordingLines identifier known 3 ≠ [] := List.cons_ne_nil _ _
  have hlines : "\x7b" :: (member.bodyLines identifier known ++ [tab 1 ++ "\x7d"]) =
      ["\x7b", tab 2 ++ "get" ++ spaced member.effects ++ " \x7b"] ++
        (member.recordingLines identifier known 3 ++ [tab 2 ++ "\x7d", tab 1 ++ "\x7d"]) := by
    simp [bodyLines, hkind]
  rw [block, hlines, joinLines, String.intercalate_append_of_ne_nil (by simp) (by simp),
    String.intercalate_append_of_ne_nil hrecording (by simp)]
  simp [joinLines, String.append_assoc]

theorem text_rendered (hkind : member.kind = .computedProperty) (gap : List Char) :
    (member.rendered identifier known gap).text =
      gap ++ (member.ownText identifier known).toList := by
  rw [ownText, block_eq identifier known hkind]
  simp [AccessorProperty.text, AccessorProperty.toVariable, VariableProperty.text,
    VariableProperty.heading, rendered, getter, AccessorBlock.text, AccessorBlock.textFrom,
    Accessor.rest, heading, beforeBlock, hkind, MethodKind.hasAccessors, tab, String.toList_append]

theorem isWritten_rendered {gap : List Char} (hgap : SyntaxTree.cutAtKeyword? gap = none)
    (hname : member.name ≠ "")
    (hchars : ∀ c ∈ member.name.toList, SyntaxTree.isPropertyNameChar c = true) :
    (member.rendered identifier known gap).IsWritten := by
  have hcolon : ∀ c, (member.rendered identifier known gap).toVariable.rest.head? = some c →
      SyntaxTree.isPropertyNameChar c = false := by
    intro c hc
    obtain rfl : ':' = c := by simpa [rendered, AccessorProperty.toVariable] using hc
    decide
  have hget : AccessorBlock.IsWhole "\n        ".toList "get".toList
      (AccessorBlock.textFrom (member.getter identifier known).rest []) := by
    obtain ⟨tail, htail⟩ := exists_spaced_append member.effects
      ('\x7b' :: ('\n' :: (joinLines (member.recordingLines identifier known 3)).toList ++
        "\n        ".toList) ++ ['\x7d'] ++ "\n    ".toList ++ ['\x7d'])
    have hafter :
        AccessorBlock.textFrom (member.getter identifier known).rest [] = ' ' :: tail := by
      rw [← htail]
      simp [AccessorBlock.textFrom, Accessor.rest, getter]
    rw [hafter]
    exact AccessorBlock.isWhole_between_blanks "\n       ".toList tail (by decide)
  refine ⟨⟨hgap, ?_, ?_, hchars, hcolon⟩, hget, trivial⟩
  · simp [rendered, AccessorProperty.toVariable]
  · simpa [rendered, AccessorProperty.toVariable] using hname

theorem spellsSetter_rest_getter_iff :
    SpellsSetter (member.getter identifier known).rest ↔
      SpellsSetter member.effects.toList ∨ SpellsSetter identifier.toList ∨
        ∃ handler ∈ member.handler, ¬handler.IsSilent known := by
  have hrest : (member.getter identifier known).rest =
      (spaced member.effects).toList ++ ' ' :: ("\x7b\n".toList ++
        ((joinLines (member.recordingLines identifier known 3)).toList ++
          '\n' :: "        \x7d\n    ".toList)) := by
    simp [Accessor.rest, getter]
  have hclosing : ¬SpellsSetter "        \x7d\n    ".toList := by decide
  rw [hrest, SpellsSetter.append_cons_iff (by decide), spellsSetter_spaced_iff,
    SpellsSetter.append_iff_of_areApart (by decide), SpellsSetter.append_cons_iff (by decide),
    or_iff_left hclosing, spellsSetter_joinLines_iff, spellsSetter_recordingLines_iff]

theorem fromMark_clause (type : List Char) :
    SyntaxTree.fromMark (": ".toList ++ (type ++ [' '])) =
      if SyntaxTree.fromMark type = [] then [] else SyntaxTree.fromMark type ++ [' '] := by
  have hcolon : SyntaxTree.fromMark (": ".toList ++ (type ++ [' '])) =
      SyntaxTree.fromMark (type ++ [' ']) := by
    simp [SyntaxTree.fromMark]
  rw [hcolon, SyntaxTree.fromMark, List.dropWhile_append, ← SyntaxTree.fromMark]
  simp

theorem isSilent_rendered_iff (gap : List Char) :
    (member.rendered identifier known gap).IsSilent ↔ member.IsSilent identifier known := by
  have hlead : ¬SpellsSetter "\n        ".toList := by decide
  have hword : ¬SpellsSetter "get".toList := by decide
  have hvalue : SyntaxTree.givesValue (member.rendered identifier known gap).clause =
      SyntaxTree.givesValue member.returnType.text.toList := by
    simp only [SyntaxTree.givesValue, rendered, fromMark_clause]
    split
    · next hnil => rw [hnil]
    · next hne => rw [List.head?_append_of_ne_nil _ hne]
  have hclause : SpellsSetter (SyntaxTree.fromMark (member.rendered identifier known gap).clause) ↔
      SpellsSetter (SyntaxTree.fromMark member.returnType.text.toList) := by
    simp only [rendered, fromMark_clause]
    split
    · next hnil => rw [hnil]
    · exact SpellsSetter.concat_iff (by decide)
  have hblock : (member.rendered identifier known gap).block.IsSilent ↔
      ¬SpellsSetter (member.getter identifier known).rest := by
    rw [rendered, AccessorBlock.IsSilent, and_iff_right hlead, List.forall_mem_singleton]
    exact and_iff_right hword
  rw [AccessorProperty.IsSilent, hvalue, hclause, hblock, spellsSetter_rest_getter_iff]
  constructor
  · rintro ⟨htype, hmark, hrest⟩
    simp only [not_or, not_exists, not_and, not_not] at hrest
    obtain ⟨heffects, hidentifier, hhandler⟩ := hrest
    exact ⟨⟨htype, hmark⟩, hidentifier, heffects, hhandler⟩
  · intro h
    refine ⟨h.type.1, h.type.2, ?_⟩
    simp only [not_or, not_exists, not_and, not_not]
    exact ⟨h.effects, h.identifier, h.handler⟩

end Callable

/-! ### Reading setters -/

namespace SyntaxTree

variable {member : Callable} {identifier : String} {known : KnownLiterals}

/-- What is read of a rendered computed property. -/
theorem exists_property?_of_rendered (hkind : member.kind = .computedProperty) {gap : List Char}
    (hgap : cutAtKeyword? gap = none) (hname : member.name ≠ "")
    (hchars : ∀ c ∈ member.name.toList, isPropertyNameChar c = true) {source : List Char}
    {tree : SyntaxTree}
    (hslice : slice? source ((Modifiers.ofTree source true tree).stop.getD tree.start) tree.stop =
      some (gap ++ (member.ownText identifier known).toList)) :
    ∃ declaration, property? source tree = some declaration ∧ declaration.name = member.name ∧
      (declaration.computed = true ∧ declaration.settable = false ↔
        member.IsSilent identifier known) := by
  have hwritten := Callable.isWritten_rendered identifier known hgap hname hchars
  rw [← Callable.text_rendered identifier known hkind] at hslice
  obtain ⟨declaration, hproperty, hread, hsettable, hcomputed⟩ :=
    AccessorProperty.exists_property? hwritten hslice
  refine ⟨declaration, hproperty, ?_, ?_⟩
  · rw [hread]
    exact String.ofList_toList
  · rw [← Callable.isSilent_rendered_iff identifier known gap, hcomputed]
    cases hread : declaration.settable <;> simp_all

/-- **Setters are read from all that a block holds.** A variable with a block of accessors is read
with the setter that the block declares, and as computed if it declares none, exactly if it declares
one or no part of it spells a word for one. The text that a computed property is rendered to ends
with the property itself, which is read back as computed exactly if none of its fragments spells
such a word; so its type must have a default value, since the sentence that is printed otherwise
says `set`. -/
theorem reads_setters_iff (source : List Char) (tree : SyntaxTree) :
    (∀ property : AccessorProperty, property.IsWritten →
      slice? source ((Modifiers.ofTree source true tree).stop.getD tree.start) tree.stop =
        some property.text →
      ∃ declaration, property? source tree = some declaration ∧
        declaration.name = String.ofList property.name ∧
        (((declaration.settable = true ↔ property.block.DeclaresSetter) ∧
            (declaration.computed = true ↔ ¬property.block.DeclaresSetter)) ↔
          property.block.DeclaresSetter ∨ property.IsSilent)) ∧
    ∀ (member : Callable) (identifier : String) (known : KnownLiterals) (gap : List Char),
      member.kind = .computedProperty → cutAtKeyword? gap = none → member.name ≠ "" →
      (∀ c ∈ member.name.toList, isPropertyNameChar c = true) →
      member.mockText identifier known =
          member.leadIn identifier ++ member.ownText identifier known ∧
        (slice? source ((Modifiers.ofTree source true tree).stop.getD tree.start) tree.stop =
          some (gap ++ (member.ownText identifier known).toList) →
        ∃ declaration, property? source tree = some declaration ∧
          declaration.name = member.name ∧
          (declaration.computed = true ∧ declaration.settable = false ↔
            member.IsSilent identifier known)) := by
  refine ⟨fun property h hslice => AccessorProperty.settable_iff h hslice, ?_⟩
  intro member identifier known gap hkind hgap hname hchars
  refine ⟨?_, exists_property?_of_rendered hkind hgap hname hchars⟩
  rw [Callable.mockText_eq_parts identifier known (by simp [hkind]), Callable.ownText]
  simp only [String.append_assoc]

def intProperty (name : String) (block : AccessorBlock) : AccessorProperty :=
  { gap := []
    margin := []
    name := name.toList
    clause := ": Int ".toList
    block }

theorem isWritten_intProperty {name : String} {block : AccessorBlock} (hne : name.toList ≠ [])
    (hname : name.toList.all isPropertyNameChar = true) (hblock : block.IsWritten) :
    (intProperty name block).IsWritten :=
  { parts :=
      { gap := rfl
        margin := by simp [intProperty, AccessorProperty.toVariable]
        name_ne_nil := hne
        name := List.all_eq_true.mp hname
        rest := fun _ hc => Option.some.inj hc ▸ by decide }
    block := hblock }

/-- `var limit: Int { get { offset } set { } }` -/
def limit : AccessorProperty :=
  intProperty "limit" (.accessors [' ']
    [{ word := "get".toList, clause := [' '], body? := some " offset ".toList, margin := [' '] },
      { word := "set".toList, clause := [' '], body? := some [' '], margin := [' '] }])

/-- `var total: Int { return offset }` -/
def total : AccessorProperty :=
  intProperty "total" (.getter " return offset ".toList)

/-- A computed property of type `Int`. -/
def computedInt (name : String) : Callable :=
  { name
    kind := .computedProperty
    generics := []
    params := []
    returnType := .ofText "Int"
    isStatic := false
    accessLevel := ""
    effects := ""
    attributes := []
    handler := some (.ofParams [] [] (.ofText "Int") "" false) }

/-- The tree of a property that is all of its text. -/
def propertyTree (text : List Char) : SyntaxTree :=
  .node "property_declaration" true 0 (byteLength text) none []

theorem slice?_propertyTree (text : List Char) :
    slice? text
      ((Modifiers.ofTree text true (propertyTree text)).stop.getD (propertyTree text).start)
      (propertyTree text).stop = some text := by
  have hslice : slice? text 0 (byteLength text) = some text := by
    simpa [byteLength] using slice?_append [] text []
  exact hslice

theorem isSilent_computedInt {name identifier : String} (h : ¬SpellsSetter identifier.toList) :
    (computedInt name).IsSilent identifier [] := by
  have htype : givesValue "Int".toList = false ∧ ¬SpellsSetter (fromMark "Int".toList) := by decide
  have heffects : ¬SpellsSetter "".toList := by decide
  have hzero : (TypeName.ofText "Int").default? [] = some "0" := by
    rw [TypeName.default?, TypeName.defaultOf_eq]
    rfl
  refine ⟨htype, h, heffects, ?_⟩
  intro handler hhandler
  obtain rfl : Handler.ofParams [] [] (.ofText "Int") "" false = handler := Option.some.inj hhandler
  exact ⟨by decide, by decide, "0", hzero, by decide⟩

/-- A word for a setter in the body of the other accessor does no harm where a setter is declared,
and a rendered `count` is read back as computed. -/
theorem reads_setters_of_limit :
    limit.IsWritten ∧ limit.block.DeclaresSetter ∧
    (∃ declaration, property? limit.text (propertyTree limit.text) = some declaration ∧
      declaration.settable = true ∧ ¬declaration.computed = true) ∧
    ∃ text declaration, text = ((computedInt "count").ownText "count" []).toList ∧
      property? text (propertyTree text) = some declaration ∧
      declaration.name = "count" ∧ declaration.computed = true ∧ declaration.settable = false := by
  have hget : AccessorBlock.IsWhole [' '] "get".toList
      " \x7b offset \x7d set \x7b \x7d \x7d".toList :=
    AccessorBlock.isWhole_between_blanks [] "\x7b offset \x7d set \x7b \x7d \x7d".toList (by decide)
  have hset : AccessorBlock.IsWhole " \x7b offset \x7d ".toList "set".toList
      " \x7b \x7d \x7d".toList :=
    AccessorBlock.isWhole_between_blanks " \x7b offset \x7d".toList "\x7b \x7d \x7d".toList
      (by decide)
  have hwritten : limit.IsWritten :=
    isWritten_intProperty (by decide) (by decide) ⟨hget, hset, trivial⟩
  have hsetter : limit.block.DeclaresSetter :=
    ⟨_, List.mem_cons_of_mem _ List.mem_cons_self, by decide⟩
  obtain ⟨declaration, hproperty, _, hread⟩ :=
    (reads_setters_iff limit.text (propertyTree limit.text)).1 limit hwritten
      (slice?_propertyTree limit.text)
  obtain ⟨hsettable, hcomputed⟩ := hread.mpr (.inl hsetter)
  let text := ((computedInt "count").ownText "count" []).toList
  obtain ⟨_, hcount⟩ := (reads_setters_iff text (propertyTree text)).2 (computedInt "count") "count"
    [] [] rfl rfl (by decide) (List.all_eq_true.mp (by decide))
  obtain ⟨counted, hrendered, hname, hsilent⟩ := hcount (slice?_propertyTree text)
  exact ⟨hwritten, hsetter,
    ⟨declaration, hproperty, hsettable.mpr hsetter, fun h => hcomputed.mp h hsetter⟩,
    text, counted, rfl, hrendered, hname, hsilent.mpr (isSilent_computedInt (by decide))⟩

theorem exists_settable_of_not_isSilent {property : AccessorProperty} (h : property.IsWritten)
    (hspelled : ¬property.IsSilent) :
    ∃ declaration, property? property.text (propertyTree property.text) = some declaration ∧
      declaration.settable = true ∧ declaration.computed = false := by
  obtain ⟨declaration, hproperty, _, hsettable, hcomputed⟩ :=
    AccessorProperty.exists_property? h (slice?_propertyTree property.text)
  have htrue : declaration.settable = true := hsettable.mpr hspelled
  exact ⟨declaration, hproperty, htrue, by simp [hcomputed, htrue]⟩

/-- A getter that returns `offset` is read with a setter, and so is a rendered property of that
name. -/
theorem not_reads_setters_of_body :
    total.IsWritten ∧ ¬total.block.DeclaresSetter ∧
    (∃ declaration, property? total.text (propertyTree total.text) = some declaration ∧
      declaration.settable = true ∧ declaration.computed = false) ∧
    ∃ text declaration, text = ((computedInt "offset").ownText "offset" []).toList ∧
      property? text (propertyTree text) = some declaration ∧
      declaration.settable = true ∧ declaration.computed = false := by
  have hwritten : total.IsWritten := isWritten_intProperty (by decide) (by decide) trivial
  have hbody : ¬total.IsSilent := fun hsilent => hsilent.2.2 (by decide)
  let offset := (computedInt "offset").rendered "offset" [] []
  have hoffset : offset.IsWritten :=
    Callable.isWritten_rendered "offset" [] rfl (by decide) (List.all_eq_true.mp (by decide))
  have hrecorders : ¬offset.IsSilent := fun hsilent =>
    ((Callable.isSilent_rendered_iff "offset" [] []).mp hsilent).identifier (by decide)
  have htext : offset.text = ((computedInt "offset").ownText "offset" []).toList :=
    Callable.text_rendered "offset" [] rfl []
  obtain ⟨declaration, hread⟩ := exists_settable_of_not_isSilent hoffset hrecorders
  exact ⟨hwritten, id, exists_settable_of_not_isSilent hwritten hbody,
    offset.text, declaration, htext, hread⟩

end SyntaxTree

end Understudy
