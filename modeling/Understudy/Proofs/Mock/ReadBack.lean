import Understudy.Mock.Class
import Understudy.Proofs.Text.Words
import Understudy.SyntaxTree.Callable

/-!
# Members read back from their text

What a fresh method is rendered to can be read back: its parameters and generic parameters from the
fragments that declare them, its effects and its return type from what stands between the parameter
list and the body, and the effects of a subscript or computed property from its accessor block
(`Method.reads_back`). The types may hold arrows, colons and effects of their own.
-/

namespace Understudy

open Text

/-- One word without a colon. -/
structure IsLabel (text : String) : Prop where
  unbroken : isUnbroken text.toList = true
  no_colon : ':' ∉ text.toList

instance : DecidablePred IsLabel := fun text =>
  decidable_of_iff (isUnbroken text.toList = true ∧ ':' ∉ text.toList)
    ⟨fun ⟨hunbroken, hcolon⟩ => ⟨hunbroken, hcolon⟩, fun h => ⟨h.unbroken, h.no_colon⟩⟩

def IsTrimmed (text : String) : Prop :=
  trim text.toList = text.toList

instance : DecidablePred IsTrimmed := fun text =>
  inferInstanceAs (Decidable (trim text.toList = text.toList))

namespace Param

structure IsPlain (param : Param) : Prop where
  plain : param.isGeneric = false
  label : IsLabel param.label
  name : IsLabel param.name
  type : IsTrimmed param.type.text

instance : DecidablePred IsPlain := fun param =>
  decidable_of_iff
    (param.isGeneric = false ∧ IsLabel param.label ∧ IsLabel param.name ∧
      IsTrimmed param.type.text)
    ⟨fun ⟨hplain, hlabel, hname, htype⟩ => ⟨hplain, hlabel, hname, htype⟩,
      fun h => ⟨h.plain, h.label, h.name, h.type⟩⟩

structure IsPlainGeneric (param : Param) : Prop where
  generic : param.isGeneric = true
  name : IsTrimmed param.name
  no_colon : ':' ∉ param.name.toList
  constraint : IsTrimmed param.type.text

instance : DecidablePred IsPlainGeneric := fun param =>
  decidable_of_iff
    (param.isGeneric = true ∧ IsTrimmed param.name ∧ ':' ∉ param.name.toList ∧
      IsTrimmed param.type.text)
    ⟨fun ⟨hgeneric, hname, hcolon, hconstraint⟩ => ⟨hgeneric, hname, hcolon, hconstraint⟩,
      fun h => ⟨h.generic, h.name, h.no_colon, h.constraint⟩⟩

end Param

theorem IsLabel.ne_empty {text : String} (h : IsLabel text) : text ≠ "" := by
  rintro rfl
  exact Bool.false_ne_true h.unbroken

namespace SyntaxTree

variable {source : List Char} {tree : SyntaxTree}

theorem aroundColon_append {names type : List Char} (h : ':' ∉ names) :
    aroundColon (names ++ ':' :: type) = (names, type) := by
  have hcut : cutAt? [':'] (names ++ [':'] ++ type) = some (names, type) := cutAt?_append h
  rw [List.append_assoc, List.singleton_append] at hcut
  rw [aroundColon, hcut]
  rfl

theorem aroundColon_eq_self {names : List Char} (h : ':' ∉ names) :
    aroundColon names = (names, []) := by
  rw [aroundColon, cutAt?_eq_none h]
  rfl

theorem trim_blank_cons {type : String} (h : IsTrimmed type) :
    String.ofList (trim (' ' :: type.toList)) = type := by
  rw [trim_cons_of_isBlank (by decide), h, String.ofList_toList]

theorem parameter_of_written {param : Param} (h : param.IsPlain)
    (htext : tree.text source = param.written.toList) :
    parameter source tree = (param.label,
      { kind := .parameter
        name := param.name
        offset := tree.start
        length := tree.length
        typeText := param.type.text }) := by
  have hword {text : String} (htext : IsLabel text) : words text.toList = [text.toList] :=
    words_eq_singleton htext.unbroken
  -- the names before the colon, as they are written for equal and for different names
  obtain ⟨names, hwritten, hcolon, hnames⟩ : ∃ names,
      param.written.toList = names ++ ':' :: ' ' :: param.type.text.toList ∧ ':' ∉ names ∧
        labelAndName names = (param.label, param.name) := by
    by_cases hsame : param.label = param.name
    · refine ⟨param.name.toList, ?_, h.name.no_colon, ?_⟩
      · simp [Param.written, h.plain, hsame, String.toList_append]
      · rw [labelAndName, hword h.name, hsame]
        simp
    · refine ⟨param.label.toList ++ ' ' :: param.name.toList, ?_, ?_, ?_⟩
      · simp [Param.written, h.plain, hsame, h.label.ne_empty, String.toList_append]
      · simp [h.label.no_colon, h.name.no_colon]
      · rw [labelAndName, words_append (by decide), hword h.label, hword h.name]
        simp
  rw [parameter, htext, hwritten, aroundColon_append hcolon]
  simp only [hnames, trim_blank_cons h.type]

theorem genericParameter_of_written {generic : Param} (h : generic.IsPlainGeneric)
    (htext : tree.text source = generic.written.toList) :
    genericParameter source tree =
      { kind := .genericParameter
        name := generic.name
        offset := tree.start
        length := tree.length
        typeText := generic.type.text } := by
  have hname : String.ofList (trim generic.name.toList) = generic.name := by
    rw [h.name, String.ofList_toList]
  by_cases hunwritten : generic.type.isUnwritten = true
  · have hnone : generic.type.text = "" := by simpa [TypeName.isUnwritten] using hunwritten
    have hwritten : generic.written.toList = generic.name.toList := by
      simp [Param.written, h.generic, hunwritten]
    rw [genericParameter, htext, hwritten, aroundColon_eq_self h.no_colon]
    simp only [hname, hnone]
    rfl
  · have hwritten : generic.written.toList =
        generic.name.toList ++ ':' :: ' ' :: generic.type.text.toList := by
      simp [Param.written, h.generic, hunwritten, String.toList_append]
    rw [genericParameter, htext, hwritten, aroundColon_append h.no_colon]
    simp only [hname, trim_blank_cons h.constraint]

end SyntaxTree

namespace Effects

variable {keywords : List (List Char)}

/-- Effects as they follow a parameter list or `get`. -/
def following (found : List (List Char)) : List Char :=
  found.flatMap fun word => ' ' :: word

/-- Effect keywords are made of word characters. -/
structure IsKeyword (word : List Char) : Prop where
  ne_nil : word ≠ []
  is_word : ∀ c ∈ word, isWordChar c = true

theorem isKeyword_of_mem {word : List Char} (h : word ∈ Effects.keywords) : IsKeyword word := by
  simp only [Effects.keywords, List.mem_cons, List.not_mem_nil, or_false] at h
  rcases h with rfl | rfl | rfl <;> exact ⟨by decide, List.all_eq_true.mp (by decide)⟩

theorem mem_keywords_of_mem {word : List Char} (h : word ∈ accessorKeywords) :
    word ∈ Effects.keywords := by
  simp only [accessorKeywords, List.mem_cons, List.not_mem_nil, or_false] at h
  rcases h with rfl | rfl <;> decide

theorem toList_spaced_cons (word : List Char) (later : List (List Char)) :
    (spaced (word :: later)).toList = word ++ following later := by
  induction later generalizing word with
  | nil => simp [spaced, following]
  | cons next rest ih =>
      have hjoined : spaced (word :: next :: rest) =
          String.ofList word ++ " " ++ spaced (next :: rest) :=
        String.intercalate_cons_of_ne_nil (List.cons_ne_nil _ _)
      rw [hjoined, String.toList_append, String.toList_append, ih]
      simp [following]

theorem toList_spaced {found : List (List Char)} (h : ∀ word ∈ found, IsKeyword word) :
    (Layout.spaced (spaced found)).toList = following found := by
  cases found with
  | nil => rfl
  | cons word later =>
      have hne : spaced (word :: later) ≠ "" := by
        intro hempty
        have hnil := congrArg String.toList hempty
        rw [toList_spaced_cons] at hnil
        exact (h word List.mem_cons_self).ne_nil (List.append_eq_nil_iff.mp hnil).1
      rw [Layout.spaced, if_neg (by simpa using hne), String.toList_append, toList_spaced_cons]
      rfl

/-- A blank comes next after a keyword. -/
theorem exists_following_append (found : List (List Char)) (rest : List Char) :
    ∃ tail, following found ++ ' ' :: rest = ' ' :: tail := by
  cases found with
  | nil => exact ⟨rest, rfl⟩
  | cons word later => exact ⟨word ++ following later ++ ' ' :: rest, by simp [following]⟩

theorem tokens_following_cons {word : List Char} (h : IsKeyword word) (later : List (List Char))
    (rest : List Char) :
    tokens (following (word :: later) ++ ' ' :: rest) =
      .blank :: .word word :: tokens (following later ++ ' ' :: rest) := by
  have htext : following (word :: later) ++ ' ' :: rest =
      ' ' :: (word ++ (following later ++ ' ' :: rest)) := by
    simp [following]
  obtain ⟨tail, htail⟩ := exists_following_append later rest
  rw [htext, htail, tokens_blank (by decide) (by decide),
    tokens_word h.ne_nil h.is_word (by decide)]

theorem filterMap_word?_tokens {found : List (List Char)} (h : ∀ word ∈ found, IsKeyword word) :
    (tokens (following found ++ [' '])).filterMap Token.word? = found := by
  induction found with
  | nil => decide
  | cons word later ih =>
      obtain ⟨hword, hlater⟩ := List.forall_mem_cons.mp h
      rw [tokens_following_cons hword]
      simp only [List.filterMap_cons, Token.word?, ih hlater]

theorem dash_not_mem_following {found : List (List Char)} (h : ∀ word ∈ found, IsKeyword word) :
    '-' ∉ following found ++ [' '] := by
  intro hmem
  rcases List.mem_append.mp hmem with hmem | hmem
  · obtain ⟨word, hword, hdash⟩ := List.mem_flatMap.mp hmem
    rcases List.mem_cons.mp hdash with hblank | hdash
    · simp at hblank
    · have hnot : isWordChar '-' = false := by decide
      rw [(h word hword).is_word '-' hdash] at hnot
      exact Bool.false_ne_true hnot.symm
  · simp at hmem

/-- The keywords that follow a parameter list are read up to an arrow, if there is one. -/
theorem upTo_arrow {found : List (List Char)} (h : ∀ word ∈ found, IsKeyword word)
    (type : List Char) :
    upTo "->".toList (following found ++ [' ']) = following found ++ [' '] ∧
      upTo "->".toList (following found ++ [' '] ++ "->".toList ++ type) =
        following found ++ [' '] :=
  ⟨upTo_eq_self (dash_not_mem_following h), upTo_append (dash_not_mem_following h)⟩

theorem leading_tokens {found : List (List Char)} (h : ∀ word ∈ found, word ∈ accessorKeywords)
    (rest : List Char) :
    leading (tokens (following found ++ ' ' :: '\x7b' :: rest)) = found := by
  induction found with
  | nil =>
      have htokens : tokens (' ' :: '\x7b' :: rest) = .blank :: .mark '\x7b' :: tokens rest := rfl
      rw [following, List.flatMap_nil, List.nil_append, htokens]
      rfl
  | cons word later ih =>
      obtain ⟨hword, hlater⟩ := List.forall_mem_cons.mp h
      rw [tokens_following_cons (isKeyword_of_mem (mem_keywords_of_mem hword)), leading,
        if_pos (by simpa using hword), ih hlater]

/-- The blanks and the brace before `get` hold no word. -/
theorem ofGetter_block {found : List (List Char)} (hne : found ≠ [])
    (h : ∀ word ∈ found, word ∈ accessorKeywords) (rest : List Char) :
    ofGetter (tokens ("\x7b\n        get".toList ++ (following found ++ ' ' :: '\x7b' :: rest))) =
      found := by
  obtain ⟨tail, htail⟩ := exists_following_append found ('\x7b' :: rest)
  have hget : tokens ("get".toList ++ (following found ++ ' ' :: '\x7b' :: rest)) =
      .word "get".toList :: tokens (following found ++ ' ' :: '\x7b' :: rest) := by
    rw [htail]
    exact tokens_word (by decide) (List.all_eq_true.mp (by decide)) (by decide) tail
  have hblock : ofGetter (tokens ("\x7b\n        get".toList ++
      (following found ++ ' ' :: '\x7b' :: rest))) =
        ofGetter (tokens ("get".toList ++ (following found ++ ' ' :: '\x7b' :: rest))) := rfl
  have hleading := leading_tokens h rest
  rw [hblock, hget, ofGetter, if_pos, hleading]
  rw [hleading]
  simp [hne]

end Effects

namespace Header

theorem beforeWhere_eq_self {text : List Char} (h : "where".toList ∉ words text) :
    beforeWhere text = text :=
  upTo_eq_self_of_not_infix fun hmark => h (mem_words_of_spaced (by decide) hmark)

theorem returnType_of_arrow {before : List Char} {type : String} (hdash : '-' ∉ before)
    (htrimmed : IsTrimmed type) (hwhere : "where".toList ∉ words type.toList) :
    returnType (before ++ "->".toList ++ (' ' :: type.toList ++ [' '])) = type := by
  have hblank : isBlank ' ' = true := by decide
  have hwords : words (' ' :: type.toList ++ [' ']) = words type.toList := by
    rw [List.cons_append, ← List.nil_append (' ' :: _), words_append hblank, words_append hblank]
    simp [words, fields, splitWhere]
  have hbefore := beforeWhere_eq_self (hwords ▸ hwhere)
  have hcut : cutAt? "->".toList (before ++ "->".toList ++ (' ' :: type.toList ++ [' '])) =
      some (before, ' ' :: type.toList ++ [' ']) := cutAt?_append hdash
  rw [returnType, hcut]
  simp only [hbefore]
  rw [trim_append_of_isBlank hblank, trim_cons_of_isBlank hblank, htrimmed, String.ofList_toList]

theorem returnType_of_no_dash {header : List Char} (h : '-' ∉ header) : returnType header = "" := by
  have hcut : cutAt? "->".toList header = none := cutAt?_eq_none h
  rw [returnType, hcut]

end Header

/-! ### The parts of a rendered member -/

namespace Callable

open Layout

variable (member : Callable) (identifier : String) (known : KnownLiterals)

/-- The recorders, the attributes and the modifiers. -/
def leadIn : String :=
  joinLines (member.recorderLines identifier ++ member.attributes.map (tab 1 ++ ·)) ++ "\n" ++
    tab 1 ++ member.modifiers

/-- A function up to the end of its parameter list; any other member up to its block. -/
def heading : String :=
  match member.kind with
  | .subscript => "subscript" ++ member.genericClause ++ member.paramClause ++ member.returnClause
  | .computedProperty => "var " ++ member.name ++ ": " ++ member.returnType.text
  | _ => "func " ++ member.name ++ member.genericClause ++ member.paramClause

/-- What stands between the heading and the block. -/
def beforeBlock : String :=
  (if member.kind.hasAccessors then "" else spaced member.effects ++ member.returnClause) ++ " "

/-- The block with its braces. -/
def block : String :=
  joinLines ("\x7b" :: (member.bodyLines identifier known ++ [tab 1 ++ "\x7d"]))

variable {member}

theorem joinLines_append_line {before : List String} (hbefore : before ≠ []) (front rest : String)
    (after : List String) :
    joinLines (before ++ (front ++ rest) :: after) =
      joinLines before ++ "\n" ++ front ++ joinLines (rest :: after) := by
  have hfirst : joinLines ((front ++ rest) :: after) = front ++ joinLines (rest :: after) := by
    cases after with
    | nil => simp [joinLines]
    | cons next later =>
        have hne : next :: later ≠ [] := List.cons_ne_nil _ _
        simp only [joinLines, String.intercalate_cons_of_ne_nil hne, String.append_assoc]
  have hjoined : joinLines (before ++ (front ++ rest) :: after) =
      joinLines before ++ "\n" ++ joinLines ((front ++ rest) :: after) :=
    String.intercalate_append_of_ne_nil hbefore (List.cons_ne_nil _ _)
  rw [hjoined, hfirst, String.append_assoc, String.append_assoc, String.append_assoc]

theorem openingLine_eq (h : member.kind ≠ .initializer) :
    member.openingLine =
      tab 1 ++ member.modifiers ++ member.heading ++ member.beforeBlock ++ "\x7b" := by
  cases hkind : member.kind with
  | initializer => exact absurd hkind h
  | _ =>
      simp only [openingLine, heading, beforeBlock, hkind, MethodKind.hasAccessors, if_true,
        Bool.false_eq_true, if_false, String.append_assoc]
      rfl

theorem mockText_eq_parts (h : member.kind ≠ .initializer) :
    member.mockText identifier known =
      member.leadIn identifier ++ member.heading ++ member.beforeBlock ++
        member.block identifier known := by
  have hlines : member.mockText identifier known =
      joinLines (member.recorderLines identifier ++ member.attributes.map (tab 1 ++ ·) ++
        member.openingLine :: (member.bodyLines identifier known ++ [tab 1 ++ "\x7d"])) := by
    cases hkind : member.kind with
    | initializer => exact absurd hkind h
    | _ => simp [mockText, mockLines, hkind]
  have hbefore : member.recorderLines identifier ++ member.attributes.map (tab 1 ++ ·) ≠ [] := by
    simp [recorderLines]
  rw [hlines, openingLine_eq h, joinLines_append_line hbefore]
  simp only [leadIn, block, String.append_assoc]

theorem exists_block_eq (h : member.kind.hasAccessors = true) :
    ∃ rest, (member.block identifier known).toList =
      "\x7b\n        get".toList ++ ((spaced member.effects).toList ++ ' ' :: '\x7b' :: rest) := by
  obtain ⟨more, hne, hlines⟩ : ∃ more, more ≠ [] ∧
      member.bodyLines identifier known ++ [tab 1 ++ "\x7d"] =
        (tab 2 ++ "get" ++ spaced member.effects ++ " \x7b") :: more := by
    cases hkind : member.kind with
    | function | initializer => simp [hkind, MethodKind.hasAccessors] at h
    | subscript =>
        exact ⟨member.recordingLines identifier known 3 ++
          [tab 2 ++ "\x7d", tab 2 ++ "set \x7b \x7d", tab 1 ++ "\x7d"], by simp,
          by simp [bodyLines, hkind]⟩
    | computedProperty =>
        exact ⟨member.recordingLines identifier known 3 ++ [tab 2 ++ "\x7d", tab 1 ++ "\x7d"],
          by simp, by simp [bodyLines, hkind]⟩
  have hblock : member.block identifier known =
      "\x7b" ++ "\n" ++ (tab 2 ++ "get" ++ spaced member.effects ++ " \x7b" ++ "\n" ++
        joinLines more) := by
    rw [block, hlines]
    simp only [joinLines, String.intercalate_cons_of_ne_nil hne,
      String.intercalate_cons_of_ne_nil (List.cons_ne_nil _ _)]
  refine ⟨'\n' :: (joinLines more).toList, ?_⟩
  rw [hblock]
  simp [tab, String.toList_append]

theorem exists_block_eq_cons (member : Callable) :
    ∃ rest, (member.block identifier known).toList = '\x7b' :: rest := by
  have hne : member.bodyLines identifier known ++ [tab 1 ++ "\x7d"] ≠ [] := by simp
  refine ⟨("\n" ++ joinLines (member.bodyLines identifier known ++ [tab 1 ++ "\x7d"])).toList, ?_⟩
  rw [block, joinLines, String.intercalate_cons_of_ne_nil hne, joinLines]
  simp [String.toList_append]

/-- The names are words, the types have no blanks at their ends, the effects are keywords, and no
`where` stands in the return type. -/
structure IsPlain (member : Callable) : Prop where
  params : ∀ param ∈ member.params, param.IsPlain
  generics : ∀ generic ∈ member.generics, generic.IsPlainGeneric
  effects : ∃ found, (∀ word ∈ found, word ∈ Effects.keywords) ∧
    member.effects = Effects.spaced found
  returnType : IsTrimmed member.returnType.text
  no_where : "where".toList ∉ words member.returnType.text.toList

theorem toList_beforeBlock (hkind : member.kind = .function) {found : List (List Char)}
    (hfound : ∀ word ∈ found, Effects.IsKeyword word)
    (heffects : member.effects = Effects.spaced found) :
    member.beforeBlock.toList =
      if member.returnType.isVoid then Effects.following found ++ [' ']
      else Effects.following found ++ [' '] ++ "->".toList ++
        (' ' :: member.returnType.text.toList ++ [' ']) := by
  simp only [beforeBlock, hkind, MethodKind.hasAccessors, heffects, returnClause,
    Bool.false_eq_true, if_false, String.toList_append, Effects.toList_spaced hfound]
  split <;> simp [String.toList_append]

/-- The effects and the return type stand between the parameter list and the body. -/
theorem read_function (h : member.IsPlain) (hkind : member.kind = .function) :
    ∃ front between block,
      (member.mockText identifier known).toList = front ++ between ++ '\x7b' :: block ∧
      front = (member.leadIn identifier ++ "func " ++ member.name ++ member.genericClause ++
        member.paramClause).toList ∧
      Effects.afterSignature (member.mockText identifier known) (byteLength front)
        (byteLength (front ++ between)) = member.effects ∧
      Header.returnType between =
        if member.returnType.isVoid then "" else member.returnType.text := by
  obtain ⟨found, hkeywords, heffects⟩ := h.effects
  have hfound : ∀ word ∈ found, Effects.IsKeyword word :=
    fun word hword => Effects.isKeyword_of_mem (hkeywords word hword)
  have hbetween := toList_beforeBlock hkind hfound heffects
  obtain ⟨block, hblock⟩ := exists_block_eq_cons identifier known member
  have htext : (member.mockText identifier known).toList =
      (member.leadIn identifier ++ member.heading).toList ++ member.beforeBlock.toList ++
        '\x7b' :: block := by
    rw [mockText_eq_parts identifier known (by simp [hkind]), ← hblock]
    simp only [String.toList_append]
  refine ⟨_, member.beforeBlock.toList, block, htext, ?_, ?_, ?_⟩
  · simp only [heading, hkind, String.append_assoc]
  · have hupTo : upTo "->".toList member.beforeBlock.toList = Effects.following found ++ [' '] := by
      rw [hbetween]
      split
      · exact (Effects.upTo_arrow hfound []).1
      · exact (Effects.upTo_arrow hfound _).2
    rw [Effects.afterSignature, Nat.max_eq_left (byteLength_le_append _ _), htext, slice?_append]
    simp only [hupTo, Effects.filterMap_word?_tokens hfound]
    rw [List.filter_eq_self.mpr (by simpa using hkeywords), heffects]
  · rw [hbetween]
    split
    · exact Header.returnType_of_no_dash (Effects.dash_not_mem_following hfound)
    · exact Header.returnType_of_arrow (Effects.dash_not_mem_following hfound)
        h.returnType h.no_where

/-- The effects stand on the getter in the block. -/
theorem read_accessors (hkind : member.kind.hasAccessors = true) {found : List (List Char)}
    (hne : found ≠ []) (hkeywords : ∀ word ∈ found, word ∈ Effects.accessorKeywords)
    (heffects : member.effects = Effects.spaced found) :
    ∃ front block,
      (member.mockText identifier known).toList = front ++ '\x7b' :: block ∧
      front = (member.leadIn identifier ++ member.heading ++ " ").toList ∧
      Effects.onAccessor (member.mockText identifier known) (byteLength front)
        (byteLength (member.mockText identifier known).toList) = member.effects := by
  have hfound : ∀ word ∈ found, Effects.IsKeyword word :=
    fun word hword => Effects.isKeyword_of_mem (Effects.mem_keywords_of_mem (hkeywords word hword))
  have hcallable : member.kind ≠ .initializer := by
    intro hinitializer
    simp [hinitializer, MethodKind.hasAccessors] at hkind
  obtain ⟨block, hblock⟩ := exists_block_eq_cons identifier known member
  obtain ⟨rest, hget⟩ := exists_block_eq identifier known hkind
  have htext : (member.mockText identifier known).toList =
      (member.leadIn identifier ++ member.heading ++ " ").toList ++
        (member.block identifier known).toList := by
    rw [mockText_eq_parts identifier known hcallable]
    simp [beforeBlock, hkind, String.toList_append]
  have hslice := slice?_append (member.leadIn identifier ++ member.heading ++ " ").toList
    (member.block identifier known).toList []
  rw [List.append_nil, ← htext] at hslice
  have hle := byteLength_le_append (member.leadIn identifier ++ member.heading ++ " ").toList
    (member.block identifier known).toList
  rw [← htext] at hle
  refine ⟨_, block, hblock ▸ htext, rfl, ?_⟩
  rw [Effects.onAccessor, Nat.max_eq_left hle, hslice, hget, heffects, Effects.toList_spaced hfound]
  simp only [Effects.ofGetter_block hne hkeywords]

end Callable

/-! ### Reading back -/

namespace Method

variable {method : Method}

/-- **A fresh method is read back from its text.** Each fragment of a parameter or generic parameter
gives the label, name and type it was written from. What stands between the parameter list of a
function and its body gives the effects and the return type, which is empty if nothing is returned.
The block of a subscript or computed property gives the effects of its `get`. -/
theorem reads_back (hfresh : method.isProcessed = false) (hplain : method.IsPlain) (disk : Disk)
    (known : KnownLiterals) (identifier : String) (cache : SourceCache) :
    ∃ text, Mock.methodText disk known identifier method cache = (.ok (some text), cache) ∧
      (∀ source tree, ∀ param ∈ method.params,
        SyntaxTree.text tree source = param.written.toList →
          SyntaxTree.parameter source tree = (param.label,
            { kind := .parameter
              name := param.name
              offset := tree.start
              length := tree.length
              typeText := param.type.text })) ∧
      (∀ source tree, ∀ generic ∈ method.generics,
        SyntaxTree.text tree source = generic.written.toList →
          SyntaxTree.genericParameter source tree =
            { kind := .genericParameter
              name := generic.name
              offset := tree.start
              length := tree.length
              typeText := generic.type.text }) ∧
      (method.kind = .function → ∃ front between block,
        text.toList = front ++ between ++ '\x7b' :: block ∧
        front = (method.leadIn identifier ++ "func " ++ method.name ++ method.genericClause ++
          method.paramClause).toList ∧
        Effects.afterSignature text (byteLength front) (byteLength (front ++ between)) =
          method.effects ∧
        Header.returnType between =
          if method.returnType.isVoid then "" else method.returnType.text) ∧
      (method.kind.hasAccessors = true → ∀ found, found ≠ [] →
        (∀ word ∈ found, word ∈ Effects.accessorKeywords) →
        method.effects = Effects.spaced found → ∃ front block,
          text.toList = front ++ '\x7b' :: block ∧
          front = (method.leadIn identifier ++ method.heading ++ " ").toList ∧
          Effects.onAccessor text (byteLength front) (byteLength text.toList) =
            method.effects) := by
  refine ⟨method.mockText identifier known, ?_, ?_, ?_, ?_, ?_⟩
  · simp [Mock.methodText, hfresh]
  · intro source tree param hparam htext
    exact SyntaxTree.parameter_of_written (hplain.params param hparam) htext
  · intro source tree generic hgeneric htext
    exact SyntaxTree.genericParameter_of_written (hplain.generics generic hgeneric) htext
  · exact Callable.read_function identifier known hplain
  · intro hkind found hne hkeywords heffects
    exact Callable.read_accessors identifier known hkind hne hkeywords heffects

/-- A member whose types hold colons, arrows and effects of their own. -/
def loader (kind : MethodKind) : Method :=
  { name := "load"
    kind
    generics := [.generic "T" (.ofText "Codable"), .generic "U" (.ofText "")]
    params :=
      [.value "id" "id" (.ofText "Int"),
        .value "with" "completion" (.ofText "@escaping (Result<T, U>) async throws -> Void")]
    returnType := .ofText "[String: (Int) throws -> T]"
    isStatic := false
    accessLevel := "public"
    effects := "async throws"
    attributes := []
    handler := none
    declaredName := "load(id:with:)"
    origin := { path := ⟨"Api.swift"⟩, offset := 0, length := 0, processed := false }
    components := [] }

theorem loader_isPlain (kind : MethodKind) : (loader kind).IsPlain := by
  -- no part but the kind depends on the kind
  have hparams : ∀ param ∈ (loader .function).params, param.IsPlain := by decide
  have hgenerics : ∀ generic ∈ (loader .function).generics, generic.IsPlainGeneric := by decide
  have hreturn : IsTrimmed (loader .function).returnType.text := by decide
  have hwhere : "where".toList ∉ words (loader .function).returnType.text.toList := by decide
  exact ⟨hparams, hgenerics, ⟨["async".toList, "throws".toList], by decide, rfl⟩, hreturn, hwhere⟩

/-- The function is read back from its signature, the subscript from its accessor block. -/
theorem reads_back_of_loader :
    (∀ kind, (loader kind).isProcessed = false ∧ (loader kind).IsPlain) ∧
    (∃ text front between, Mock.methodText (fun _ => .error .notFound) [] "load" (loader .function)
        .empty = (.ok (some text), .empty) ∧
      Effects.afterSignature text (byteLength front) (byteLength (front ++ between)) =
        "async throws" ∧
      Header.returnType between = "[String: (Int) throws -> T]") ∧
    ∃ text front, Mock.methodText (fun _ => .error .notFound) [] "load" (loader .subscript)
        .empty = (.ok (some text), .empty) ∧
      Effects.onAccessor text (byteLength front) (byteLength text.toList) = "async throws" := by
  have hplain := loader_isPlain
  obtain ⟨text, htext, _, _, hfunction, _⟩ :=
    reads_back rfl (hplain .function) (fun _ => .error .notFound) [] "load" .empty
  obtain ⟨block, hblock, _, _, _, hsubscript⟩ :=
    reads_back rfl (hplain .subscript) (fun _ => .error .notFound) [] "load" .empty
  obtain ⟨front, between, _, _, _, heffects, hreturn⟩ := hfunction rfl
  obtain ⟨front', _, _, _, haccessor⟩ :=
    hsubscript rfl ["async".toList, "throws".toList] (by decide)
    (by decide) (by decide)
  exact ⟨fun kind => ⟨rfl, hplain kind⟩, ⟨text, front, between, htext, heffects, hreturn⟩,
    block, front', hblock, haccessor⟩

end Method

end Understudy
