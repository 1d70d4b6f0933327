import Understudy.Proofs.TypeName.Expression
import Understudy.Proofs.TypeName.Search

/-!
# Literals that are values of their types

The literal of a type is found by how the type is written. For optionals, collections and tuples it
is a value of the type. A function type begins as a tuple does and ends as its result, so it can get
a literal that is none of its values, and a void element leaves a tuple literal with an empty entry.
-/

namespace Understudy

open Text

namespace TypeName

variable {text inner : List Char} {opening closing c : Char}

theorem enclosed?_brackets (opening closing : Char) (inner : List Char) :
    enclosed? opening closing (opening :: inner ++ [closing]) = some inner := by
  simp [enclosed?]

theorem enclosed?_eq_none_of_head? (h : text.head? = some c) (hc : c ≠ opening) :
    enclosed? opening closing text = none := by
  cases text with
  | nil => rfl
  | cons head rest =>
      obtain rfl : head = c := by simpa using h
      simp [enclosed?, hc]

theorem enclosed?_eq_none_of_getLast? (h : text.getLast? = some c) (hc : c ≠ closing) :
    enclosed? opening closing text = none := by
  cases text with
  | nil => rfl
  | cons head rest =>
      have hlast : rest.getLast? ≠ some closing := by
        intro hlast
        rw [List.getLast?_cons, hlast] at h
        exact hc (Option.some.inj h).symm
      simp [enclosed?, hlast]

/-- The names with a literal of their own, or none, that are compared as a whole. -/
def scalarNames : List String :=
  ["", "Void", "Bool", "String", "Substring"] ++ integerNames ++ floatNames

theorem isSuffixOf_singleton (c : Char) (text : List Char) :
    [c].isSuffixOf text = (text.getLast? == some c) := by
  rw [Bool.eq_iff_iff, List.isSuffixOf_iff_suffix, beq_iff_eq, List.getLast?_eq_some_iff]
  exact ⟨fun ⟨front, h⟩ => ⟨front, h.symm⟩, fun ⟨front, h⟩ => ⟨front, h.symm⟩⟩

theorem isPrefixOf_eq_false_of_not_mem {word : List Char} (hword : c ∈ word) (htext : c ∉ text) :
    word.isPrefixOf text = false :=
  Bool.eq_false_iff.mpr fun h => htext ((List.isPrefixOf_iff_prefix.mp h).subset hword)

/-- The beginnings by which a generic type is told. -/
def genericStarts : List String :=
  ["Optional<", "Array<", "Dictionary<", "Set<"]

theorem not_isPrefixOf_of_angle (hangle : '<' ∉ text) :
    ∀ start ∈ genericStarts, start.toList.isPrefixOf text = false := by
  intro start hstart
  have hmem : ∀ start ∈ genericStarts, '<' ∈ start.toList := by decide
  exact isPrefixOf_eq_false_of_not_mem (hmem start hstart) hangle

/-- A text that is none of the names is told by its ends. -/
theorem scalarDefault?_of_not_mem (hname : String.ofList text ∉ scalarNames)
    (hunit : text ≠ "()".toList)
    (hstart : ∀ start ∈ genericStarts, start.toList.isPrefixOf text = false) :
    scalarDefault? text =
      if text.getLast? = some '?' ∨ text.getLast? = some '!' then some "nil"
      else (enclosed? '[' ']' text).map fun inner =>
        if 1 < (splitTopLevel ':' inner).length then "[:]" else "[]" := by
  have hunit : String.ofList text ≠ "()" := fun h => hunit (by rw [← h, String.toList_ofList])
  have hquestion : "?".toList.isSuffixOf text = (text.getLast? == some '?') :=
    isSuffixOf_singleton '?' text
  have hexclamation : "!".toList.isSuffixOf text = (text.getLast? == some '!') :=
    isSuffixOf_singleton '!' text
  have hoptional : "Optional<".toList.isPrefixOf text = false := hstart _ (by decide)
  have harray : "Array<".toList.isPrefixOf text = false := hstart _ (by decide)
  have hdictionary : "Dictionary<".toList.isPrefixOf text = false := hstart _ (by decide)
  have hset : "Set<".toList.isPrefixOf text = false := hstart _ (by decide)
  simp only [scalarNames, List.cons_append, List.nil_append, List.mem_cons, List.mem_append,
    not_or] at hname
  obtain ⟨hempty, hvoid, hbool, hstring, hsubstring, hinteger, hfloat⟩ := hname
  simp only [scalarDefault?, isVoid, isOptional, String.toList_ofList, hquestion, hexclamation,
    hoptional, harray, hdictionary, hset, beq_eq_false_iff_ne.mpr hempty,
    beq_eq_false_iff_ne.mpr hvoid, beq_eq_false_iff_ne.mpr hunit, beq_eq_false_iff_ne.mpr hbool,
    beq_eq_false_iff_ne.mpr hstring, beq_eq_false_iff_ne.mpr hsubstring, List.contains_iff_mem,
    hinteger, hfloat, Bool.or_false, Bool.false_eq_true, if_false, Bool.or_eq_true, beq_iff_eq]
  cases enclosed? '[' ']' text <;> rfl

theorem ofList_not_mem_of_head? {names : List String} (h : text.head? = some c)
    (hnames : ∀ name ∈ names, name.toList.head? ≠ some c) : String.ofList text ∉ names :=
  fun hmem => hnames _ hmem (String.toList_ofList.symm ▸ h)

theorem ofList_not_mem_of_getLast? {names : List String} (h : text.getLast? = some c)
    (hnames : ∀ name ∈ names, name.toList.getLast? ≠ some c) : String.ofList text ∉ names :=
  fun hmem => hnames _ hmem (String.toList_ofList.symm ▸ h)

/-- Without known literals a type is told by its form and then by its elements. -/
theorem defaultOf_nil (text : List Char) :
    defaultOf [] text =
      (scalarDefault? text).or ((enclosed? '(' ')' text).bind fun inner =>
        ((splitTopLevel ',' inner).mapM fun element => defaultOf [] (elementType element)).map
          tupleLiteral) := by
  rw [defaultOf_eq]
  rfl

theorem ne_unit_of_getLast? (h : text.getLast? = some c) (hc : c ≠ ')') : text ≠ "()".toList := by
  rintro rfl
  exact hc (Option.some.inj h).symm

theorem defaultOf_of_question (h : text.getLast? = some '?') (hangle : '<' ∉ text) :
    defaultOf [] text = some "nil" := by
  rw [defaultOf_nil, scalarDefault?_of_not_mem (ofList_not_mem_of_getLast? h (by decide))
    (ne_unit_of_getLast? h (by decide)) (not_isPrefixOf_of_angle hangle), if_pos (.inl h)]
  rfl

theorem defaultOf_of_square (hangle : '<' ∉ '[' :: inner ++ [']']) :
    defaultOf [] ('[' :: inner ++ [']']) =
      some (if 1 < (splitTopLevel ':' inner).length then "[:]" else "[]") := by
  have hlast : ('[' :: inner ++ [']']).getLast? = some ']' := List.getLast?_concat
  rw [defaultOf_nil, scalarDefault?_of_not_mem (ofList_not_mem_of_getLast? hlast (by decide))
    (ne_unit_of_getLast? hlast (by decide)) (not_isPrefixOf_of_angle hangle),
    if_neg (by rw [hlast]; decide), enclosed?_brackets]
  rfl

/-- A text that begins as a tuple type and is not void is no scalar. -/
theorem scalarDefault?_of_round (hhead : text.head? = some '(') (hunit : text ≠ "()".toList)
    (hlast : text.getLast? ≠ some '?' ∧ text.getLast? ≠ some '!') :
    scalarDefault? text = none := by
  have hstart : ∀ start ∈ genericStarts, start.toList.isPrefixOf text = false := by
    obtain ⟨rest, rfl⟩ : ∃ rest, text = '(' :: rest := List.head?_eq_some_iff.mp hhead
    simp [genericStarts, List.isPrefixOf]
  rw [scalarDefault?_of_not_mem (ofList_not_mem_of_head? hhead (by decide)) hunit hstart,
    if_neg (by simp [hlast]), enclosed?_eq_none_of_head? hhead (by decide)]
  rfl

/-- Unless it is void or has a known literal, a tuple type has the literal of its elements. -/
theorem defaultOf_of_round {known : KnownLiterals}
    (hunknown : known.lookup (String.ofList ('(' :: inner ++ [')'])) = none) (hne : inner ≠ []) :
    defaultOf known ('(' :: inner ++ [')']) =
      ((splitTopLevel ',' inner).mapM fun element => defaultOf known (elementType element)).map
        tupleLiteral := by
  have hlast : ('(' :: inner ++ [')']).getLast? = some ')' := List.getLast?_concat
  have hunit : '(' :: inner ++ [')'] ≠ "()".toList := by
    obtain ⟨c, rest, rfl⟩ := List.exists_cons_of_ne_nil hne
    simp
  rw [defaultOf_eq, hunknown, scalarDefault?_of_round rfl hunit (by rw [hlast]; decide),
    enclosed?_brackets]
  rfl

/-- A text that ends with an opening bracket is no type. -/
theorem defaultOf_of_open (hlast : text.getLast? = some '(') (hangle : '<' ∉ text) :
    defaultOf [] text = none := by
  rw [defaultOf_nil, scalarDefault?_of_not_mem (ofList_not_mem_of_getLast? hlast (by decide))
    (ne_unit_of_getLast? hlast (by decide)) (not_isPrefixOf_of_angle hangle),
    if_neg (by simp [hlast]), enclosed?_eq_none_of_getLast? hlast (by decide),
    enclosed?_eq_none_of_getLast? hlast (by decide)]
  rfl

theorem mem_of_mem_elementType (h : c ∈ elementType text) : c ∈ text := by
  unfold elementType at h
  split at h
  · next label type hpieces =>
    have hmem : type ∈ splitTopLevel ':' text := by simp [hpieces]
    exact mem_of_mem_splitTopLevelFrom hmem (trim_subset type h)
  · exact trim_subset text h

theorem exists_elementType_concat (hblank : isBlank c = false) (hc : c ≠ ':')
    (text : List Char) : ∃ front, elementType (text ++ [c]) = front ++ [c] := by
  unfold elementType
  split
  · next label type hpieces =>
    obtain ⟨front, last, hlast⟩ := exists_splitTopLevelFrom_concat hc 0 none text
    rw [splitTopLevel, hlast] at hpieces
    have htype := congrArg List.getLast? hpieces
    rw [List.getLast?_concat] at htype
    obtain rfl : last ++ [c] = type := Option.some.inj htype
    exact exists_trim_append_eq hblank last
  · exact exists_trim_append_eq hblank text

end TypeName

namespace TypeExpr

open Understudy.TypeName

variable {expr : TypeExpr} {literal : String}

/-! ### Values -/

/-- A literal is a value of a type, told by the outermost form of the type. -/
inductive IsValue : TypeExpr → String → Prop
  | bool : IsValue (.name "Bool") "false"
  | integer {text : String} : text ∈ integerNames → IsValue (.name text) "0"
  | float {text : String} : text ∈ floatNames → IsValue (.name text) "0.0"
  | string {text : String} : text = "String" ∨ text = "Substring" → IsValue (.name text) "\"\""
  | optional {wrapped : TypeExpr} : IsValue (.optional wrapped) "nil"
  | array {element : TypeExpr} : IsValue (.array element) "[]"
  | dictionary {key value : TypeExpr} : IsValue (.dictionary key value) "[:]"
  /-- One type in parentheses has the values of the type. -/
  | inside {label : Option String} {type : TypeExpr} {literal : String} :
      IsValue type literal → IsValue (.tuple [(label, type)]) literal
  | tuple {elements : List (Option String × TypeExpr)} {values : List String} :
      2 ≤ elements.length → "" ∉ values →
      List.Forall₂ (fun element value => IsValue element.2 value) elements values →
      IsValue (.tuple elements) ("(" ++ ", ".intercalate values ++ ")")

/-- The types without a value to return, `Void` and `()`, also in parentheses. -/
def isVoid : TypeExpr → Bool
  | .name text => text == "Void"
  | .tuple [] => true
  | .tuple [(_, type)] => type.isVoid
  | _ => false

/-- The type is no function type, and no element of the tuples that it is made of is one or is
void. -/
inductive IsPlain : TypeExpr → Prop
  | name {text : String} : IsPlain (.name text)
  | optional {wrapped : TypeExpr} : IsPlain (.optional wrapped)
  | array {element : TypeExpr} : IsPlain (.array element)
  | dictionary {key value : TypeExpr} : IsPlain (.dictionary key value)
  | tuple {elements : List (Option String × TypeExpr)} :
      (∀ element ∈ elements, element.2.isVoid = false) → (∀ element ∈ elements, IsPlain element.2) →
      IsPlain (.tuple elements)

theorem isVoid_of_isValue (h : expr.IsValue literal) : expr.isVoid = false := by
  induction expr generalizing literal with
  | name text =>
      cases h with
      | bool => decide
      | string hname => rcases hname with rfl | rfl <;> decide
      | integer hname | float hname =>
          rw [isVoid, beq_eq_false_iff_ne]
          rintro rfl
          exact absurd hname (by decide)
  | tuple elements ih =>
      cases h with
      | inside hvalue => exact ih _ List.mem_cons_self hvalue
      | tuple hmany =>
          match elements with
          | [] | [_] => simp at hmany
          | _ :: _ :: _ => rfl
  | optional | array | dictionary | function => rfl

theorem isPlain_of_isValue (h : expr.IsValue literal) : expr.IsPlain := by
  induction expr generalizing literal with
  | name => exact .name
  | optional => exact .optional
  | array => exact .array
  | dictionary => exact .dictionary
  | tuple elements ih =>
      have hvalues : ∀ element ∈ elements, ∃ value, element.2.IsValue value := by
        intro element hmem
        cases h with
        | inside hvalue =>
            obtain rfl := List.mem_singleton.mp hmem
            exact ⟨_, hvalue⟩
        | tuple _ _ hvalues =>
            obtain ⟨value, _, hvalue⟩ := exists_mem_of_forall₂ hvalues element hmem
            exact ⟨value, hvalue⟩
      refine .tuple (fun element hmem => ?_) (fun element hmem => ?_)
      · obtain ⟨value, hvalue⟩ := hvalues element hmem
        exact isVoid_of_isValue hvalue
      · obtain ⟨value, hvalue⟩ := hvalues element hmem
        exact ih element hmem hvalue
  | function => cases h

/-! ### The literal of each form -/

section Forms

variable {elements : List (Option String × TypeExpr)}

theorem defaultOf_optional {wrapped : TypeExpr} (h : (TypeExpr.optional wrapped).IsWritten) :
    defaultOf [] (text (.optional wrapped)) = some "nil" := by
  refine defaultOf_of_question ?_ (angle_not_mem_text h)
  rw [text, List.getLast?_concat]

theorem defaultOf_array {element : TypeExpr} (h : (TypeExpr.array element).IsWritten) :
    defaultOf [] (text (.array element)) = some "[]" := by
  have hangle := angle_not_mem_text h
  cases h with
  | array helement =>
      rw [text] at hangle ⊢
      rw [defaultOf_of_square hangle, (passes_text helement (.inr rfl)).splitTopLevel_eq_singleton]
      rfl

theorem defaultOf_dictionary {key value : TypeExpr}
    (h : (TypeExpr.dictionary key value).IsWritten) :
    defaultOf [] (text (.dictionary key value)) = some "[:]" := by
  have hangle := angle_not_mem_text h
  cases h with
  | dictionary hkey hvalue =>
      have hlater : Passes ':' 0 (' ' :: value.text) :=
        (Passes.blank 0 (by decide)).append (passes_text hvalue (.inr rfl))
      rw [text] at hangle ⊢
      rw [defaultOf_of_square hangle,
        (passes_text hkey (.inr rfl)).splitTopLevel_append (by decide),
        hlater.splitTopLevel_eq_singleton]
      rfl

theorem defaultOf_unit : defaultOf [] (text (.tuple [])) = some "" := by
  have hscalar : scalarDefault? (text (.tuple [])) = some "" := by decide
  rw [defaultOf_nil, hscalar]
  rfl

theorem spacedItems_elementTexts_ne_nil (h : (TypeExpr.tuple elements).IsWritten)
    (hne : elements ≠ []) : spacedItems (elementTexts elements) ≠ [] := by
  intro hnil
  have hread := map_elementType_tuple h hne
  cases h with
  | tuple _ htypes =>
      have hmem : [] ∈ elements.map fun element => element.2.text := by
        rw [← hread, hnil]
        decide
      obtain ⟨element, helement, htext⟩ := List.mem_map.mp hmem
      exact text_ne_nil (htypes element helement) htext

theorem defaultOf_tuple (h : (TypeExpr.tuple elements).IsWritten) (hne : elements ≠ []) :
    defaultOf [] (text (.tuple elements)) =
      (elements.mapM fun element => defaultOf [] element.2.text).map tupleLiteral := by
  rw [text, defaultOf_of_round rfl (spacedItems_elementTexts_ne_nil h hne)]
  have hread : (splitTopLevel ',' (spacedItems (elementTexts elements))).mapM
      (fun element => defaultOf [] (elementType element)) =
        ((splitTopLevel ',' (spacedItems (elementTexts elements))).map elementType).mapM
          (defaultOf []) := List.mapM_map.symm
  have hmap : (elements.map fun element => element.2.text).mapM (defaultOf []) =
      elements.mapM fun element => defaultOf [] element.2.text := List.mapM_map
  rw [hread, map_elementType_tuple h hne, hmap]

theorem defaultOf_of_isVoid (h : expr.IsWritten) (hvoid : expr.isVoid = true) :
    defaultOf [] expr.text = some "" := by
  induction expr with
  | name word =>
      obtain rfl : word = "Void" := by simpa [isVoid] using hvoid
      have hscalar : scalarDefault? "Void".toList = some "" := by decide
      rw [text, defaultOf_nil, hscalar]
      rfl
  | tuple elements ih =>
      cases elements with
      | nil => exact defaultOf_unit
      | cons element others =>
          cases others with
          | cons => cases hvoid
          | nil =>
              rw [defaultOf_tuple h (List.cons_ne_nil _ _)]
              cases h with
              | tuple _ htypes =>
                  have htype := ih _ List.mem_cons_self (htypes _ List.mem_cons_self) hvoid
                  simp [List.mapM_cons, htype, tupleLiteral]
  | optional | array | dictionary | function => cases hvoid

/-- A name that is no scalar has no literal. -/
theorem defaultOf_of_isTypeWord {word : String} (hword : isTypeWord word = true)
    (hscalar : word ∉ scalarNames) : defaultOf [] word.toList = none := by
  obtain ⟨hne, hchars⟩ := isTypeWord_iff.mp hword
  have hangle : '<' ∉ word.toList := fun hmem => absurd (hchars _ hmem).2.1 (by decide)
  have hunit : word.toList ≠ "()".toList := by
    intro heq
    exact absurd (hchars '(' (heq ▸ by decide)).2.1 (by decide)
  have hquestion : word.toList.getLast? ≠ some '?' := fun hlast =>
    (hchars '?' (List.mem_of_mem_getLast? hlast)).2.2.2.2.2.2.1 rfl
  have hexclamation : word.toList.getLast? ≠ some '!' := fun hlast =>
    (hchars '!' (List.mem_of_mem_getLast? hlast)).2.2.2.2.2.2.2 rfl
  obtain ⟨first, rest, htext⟩ : ∃ first rest, word.toList = first :: rest :=
    List.exists_cons_of_ne_nil (by simpa using hne)
  have hopening : isOpening first = false := (hchars first (htext ▸ List.mem_cons_self)).2.1
  have hnone (opening closing : Char) (h : isOpening opening = true) :
      enclosed? opening closing word.toList = none := by
    refine enclosed?_eq_none_of_head? (by rw [htext, List.head?_cons]) ?_
    rintro rfl
    exact absurd h (Bool.eq_false_iff.mp hopening)
  rw [defaultOf_nil, scalarDefault?_of_not_mem (by rwa [String.ofList_toList]) hunit
    (not_isPrefixOf_of_angle hangle), if_neg (not_or.mpr ⟨hquestion, hexclamation⟩),
    hnone '[' ']' (by decide), hnone '(' ')' (by decide)]
  rfl

theorem isValue_of_name {word : String} (hword : isTypeWord word = true) (hvoid : word ≠ "Void")
    (h : defaultOf [] word.toList = some literal) :
    literal ≠ "" ∧ IsValue (.name word) literal := by
  have hliteral (found : String) (hfound : scalarDefault? word.toList = some found) :
      found = literal := by
    rw [defaultOf_nil, hfound] at h
    exact Option.some.inj h
  have hmem : word ∈ scalarNames := by
    by_contra hmem
    rw [defaultOf_of_isTypeWord hword hmem] at h
    cases h
  simp only [scalarNames, List.cons_append, List.nil_append, List.mem_cons, List.mem_append,
    (isTypeWord_iff.mp hword).1, hvoid, false_or] at hmem
  rcases hmem with rfl | rfl | rfl | hinteger | hfloat
  · obtain rfl := hliteral "false" (by decide)
    exact ⟨by decide, .bool⟩
  · obtain rfl := hliteral "\"\"" (by decide)
    exact ⟨by decide, .string (.inl rfl)⟩
  · obtain rfl := hliteral "\"\"" (by decide)
    exact ⟨by decide, .string (.inr rfl)⟩
  · have hscalar : ∀ name ∈ integerNames, scalarDefault? name.toList = some "0" := by decide
    obtain rfl := hliteral "0" (hscalar word hinteger)
    exact ⟨by decide, .integer hinteger⟩
  · have hscalar : ∀ name ∈ floatNames, scalarDefault? name.toList = some "0.0" := by decide
    obtain rfl := hliteral "0.0" (hscalar word hfloat)
    exact ⟨by decide, .float hfloat⟩

theorem isValue_tupleLiteral {values : List String} (hne : elements ≠ [])
    (h : List.Forall₂ (fun element value => value ≠ "" ∧ element.2.IsValue value) elements values) :
    tupleLiteral values ≠ "" ∧ IsValue (.tuple elements) (tupleLiteral values) := by
  have hvalues : ∀ value ∈ values, value ≠ "" := fun value hmem => by
    obtain ⟨_, _, hvalue, _⟩ := exists_mem_of_forall₂ h.flip value hmem
    exact hvalue
  have htyped := h.imp fun _ _ hboth => hboth.2
  match elements, values, htyped with
  | [], _, _ => exact absurd rfl hne
  | [(label, type)], [value], htyped =>
      exact ⟨hvalues value List.mem_cons_self, .inside (List.forall₂_cons.mp htyped).1⟩
  | _ :: _ :: _, first :: second :: others, htyped =>
      refine ⟨fun hempty => ?_, .tuple (by simp) (fun hmem => hvalues "" hmem rfl) htyped⟩
      have hlength := congrArg String.length hempty
      simp [tupleLiteral] at hlength

/-- The literal of a plain type that is not void is a value of the type. -/
theorem isValue_of_defaultOf (h : expr.IsWritten) (hplain : expr.IsPlain)
    (hvoid : expr.isVoid = false) (hliteral : defaultOf [] expr.text = some literal) :
    literal ≠ "" ∧ expr.IsValue literal := by
  induction expr generalizing literal with
  | name word =>
      cases h with
      | name hword => exact isValue_of_name hword (by simpa [isVoid] using hvoid) hliteral
  | optional wrapped =>
      rw [defaultOf_optional h] at hliteral
      cases hliteral
      exact ⟨by decide, .optional⟩
  | array element =>
      rw [defaultOf_array h] at hliteral
      cases hliteral
      exact ⟨by decide, .array⟩
  | dictionary key value =>
      rw [defaultOf_dictionary h] at hliteral
      cases hliteral
      exact ⟨by decide, .dictionary⟩
  | tuple elements ih =>
      have hne : elements ≠ [] := by
        rintro rfl
        cases hvoid
      rw [defaultOf_tuple h hne] at hliteral
      obtain ⟨values, hvalues, rfl⟩ := Option.map_eq_some_iff.mp hliteral
      have hfound := mapM_eq_some_iff.mp hvalues
      cases h with
      | tuple _ htypes =>
          cases hplain with
          | tuple hnonvoid hplains =>
              have hsound : ∀ element ∈ elements, ∀ value,
                  defaultOf [] element.2.text = some value →
                    value ≠ "" ∧ element.2.IsValue value := fun element hmem value hvalue =>
                ih element hmem (htypes element hmem) (hplains element hmem)
                  (hnonvoid element hmem) hvalue
              exact isValue_tupleLiteral hne
                (((List.forall₂_and_left _ _).mpr ⟨hsound, hfound⟩).imp
                  fun element value ⟨helement, hvalue⟩ => helement value hvalue)
  | function => cases hplain

def isOptional : TypeExpr → Bool
  | .optional _ => true
  | _ => false

/-- A tuple type other than `()`. -/
def hasElements : TypeExpr → Bool
  | .tuple (_ :: _) => true
  | _ => false

variable {params : List TypeExpr} {result : TypeExpr}

theorem exists_text_function (params : List TypeExpr) (result : TypeExpr) :
    ∃ front, text (.function params result) = '(' :: front ++ result.final.text := by
  obtain ⟨front, htext⟩ := exists_text_eq_append_final result
  refine ⟨spacedItems (paramTexts params) ++ [')'] ++ " -> ".toList ++ front, ?_⟩
  rw [text, htext]
  simp

/-- A function type whose result ends with another mark than a tuple type or an optional has no
literal. -/
theorem defaultOf_function_of_getLast? {c : Char} (h : (TypeExpr.function params result).IsWritten)
    (hlast : result.final.text.getLast? = some c) (hc : c ≠ '?' ∧ c ≠ '!' ∧ c ≠ ')') :
    defaultOf [] (text (.function params result)) = none := by
  have hend : (text (.function params result)).getLast? = some c :=
    (getLast?_text_final h).trans hlast
  have hhead : (text (.function params result)).head? = some '(' := rfl
  have hmarks : (text (.function params result)).getLast? ≠ some '?' ∧
      (text (.function params result)).getLast? ≠ some '!' := by
    rw [hend]
    simpa using ⟨hc.1, hc.2.1⟩
  rw [defaultOf_nil, scalarDefault?_of_round hhead (ne_unit_of_getLast? hend hc.2.2) hmarks,
    enclosed?_eq_none_of_getLast? hend hc.2.2]
  rfl

/-- A function type that returns nothing has no literal. -/
theorem defaultOf_function_unit (h : (TypeExpr.function params result).IsWritten)
    (hfinal : result.final = .tuple []) : defaultOf [] (text (.function params result)) = none := by
  obtain ⟨front, htext⟩ := exists_text_function params result
  have hangle := angle_not_mem_text h
  have hunit : text (.function params result) = '(' :: (front ++ ['(']) ++ [')'] := by
    rw [htext, hfinal]
    simp [text, elementTexts, spacedItems]
  rw [hunit] at hangle ⊢
  rw [defaultOf_of_round rfl (by simp)]
  -- the last piece ends with the bracket that opens the result
  have hcomma : '(' ≠ ',' := by decide
  obtain ⟨pieces, last, hpieces⟩ := exists_splitTopLevelFrom_concat hcomma 0 none front
  have hmem : last ++ ['('] ∈ splitTopLevel ',' (front ++ ['(']) := by
    rw [splitTopLevel, hpieces]
    exact List.mem_append_right _ List.mem_cons_self
  have hnone : defaultOf [] (elementType (last ++ ['('])) = none := by
    have hinside : '<' ∉ elementType (last ++ ['(']) := fun hmark => by
      have hpiece := mem_of_mem_splitTopLevelFrom hmem (mem_of_mem_elementType hmark)
      exact hangle (List.mem_append_left _ (List.mem_cons_of_mem _ hpiece))
    have hmark : isBlank '(' = false ∧ '(' ≠ ':' := by decide
    obtain ⟨kept, hkept⟩ := exists_elementType_concat hmark.1 hmark.2 last
    exact defaultOf_of_open (hkept ▸ List.getLast?_concat) hinside
  rw [mapM_eq_none_of_mem hmem hnone]
  rfl

/-- A function type is told by the end of its result unless that is a tuple. -/
theorem defaultOf_function (h : (TypeExpr.function params result).IsWritten)
    (hfinal : result.final.hasElements = false) :
    defaultOf [] (text (.function params result)) =
      if result.final.isOptional then some "nil" else none := by
  have hwritten : result.final.IsWritten := by
    cases h with
    | function _ hresult => exact isWritten_final hresult
  have hlast : (text (.function params result)).getLast? = result.final.text.getLast? :=
    getLast?_text_final h
  generalize hresult : result.final = final at hwritten hlast hfinal
  cases final with
  | name word =>
      cases hwritten with
      | name hword =>
          obtain ⟨hne, hchars⟩ := isTypeWord_iff.mp hword
          obtain ⟨c, hc⟩ : ∃ c, word.toList.getLast? = some c :=
            Option.isSome_iff_exists.mp (by simpa using hne)
          obtain ⟨_, _, hclosing, _, _, _, hquestion, hexclamation⟩ :=
            hchars c (List.mem_of_mem_getLast? hc)
          refine defaultOf_function_of_getLast? h (hresult ▸ hc) ⟨hquestion, hexclamation, ?_⟩
          rintro rfl
          cases hclosing
  | optional wrapped =>
      refine defaultOf_of_question (hlast.trans ?_) (angle_not_mem_text h)
      rw [text, List.getLast?_concat]
  | array | dictionary =>
      have hsquare : result.final.text.getLast? = some ']' := by
        rw [hresult, text, List.getLast?_concat]
      exact defaultOf_function_of_getLast? h hsquare (by decide)
  | tuple elements =>
      cases elements with
      | nil => exact defaultOf_function_unit h hresult
      | cons element others => cases hfinal
  | function params _ => exact absurd hresult (final_ne_function result)

end Forms

/-- **Default literals.** A literal other than the empty text that is returned for a type is a value
of the type exactly if no function type and no void element was met in the search. The literal of a
function type whose result is no tuple with elements is told by its result: `nil` for an optional,
else none. -/
theorem default?_isValue_iff (h : expr.IsWritten) :
    (∀ literal, expr.typeName.default? [] = some literal → literal ≠ "" →
      (expr.IsValue literal ↔ expr.IsPlain)) ∧
    (expr.isFunction = true → expr.final.hasElements = false →
      expr.typeName.default? [] = if expr.final.isOptional then some "nil" else none) := by
  have hsearch : expr.typeName.default? [] = defaultOf [] expr.text := by
    rw [default?, typeName, String.toList_ofList]
  rw [hsearch]
  refine ⟨fun literal hliteral hne => ⟨isPlain_of_isValue, fun hplain => ?_⟩, fun hfunction => ?_⟩
  · have hvoid : expr.isVoid = false := by
      by_contra hvoid
      rw [defaultOf_of_isVoid h (Bool.of_not_eq_false hvoid)] at hliteral
      exact hne (Option.some.inj hliteral).symm
    exact (isValue_of_defaultOf h hplain hvoid hliteral).2
  · cases expr with
    | function params result => exact defaultOf_function h
    | _ => cases hfunction

/-- `(count: Int, [String: User], (() -> Int)?)` -/
def samples : TypeExpr :=
  .tuple [(some "count", .name "Int"), (none, .dictionary (.name "String") (.name "User")),
    (none, .optional (.function [] (.name "Int")))]

theorem isWritten_samples : samples.IsWritten := by
  refine .tuple (by decide) ?_
  simp only [List.forall_mem_cons, List.not_mem_nil, false_implies, implies_true, and_true]
  exact ⟨.name (by decide), .dictionary (.name (by decide)) (.name (by decide)),
    .optional (.function (by simp) (.name (by decide)))⟩

theorem default?_samples : samples.typeName.default? [] = some "(0, [:], nil)" := by
  have hscalar : scalarDefault? "Int".toList = some "0" := by decide
  have hcount : defaultOf [] (text (.name "Int")) = some "0" := by
    rw [text, defaultOf_nil, hscalar]
    rfl
  rw [default?, typeName, String.toList_ofList]
  cases isWritten_samples with
  | tuple hlabels htypes =>
      obtain ⟨_, hindex, hfactory, _⟩ := by
        simpa only [List.forall_mem_cons] using htypes
      rw [samples, defaultOf_tuple (.tuple hlabels htypes) (List.cons_ne_nil _ _)]
      simp [List.mapM_cons, hcount, defaultOf_dictionary hindex, defaultOf_optional hfactory,
        tupleLiteral]

theorem default?_isValue_of_samples :
    samples.IsWritten ∧ samples.typeName.default? [] = some "(0, [:], nil)" ∧
    samples.IsValue "(0, [:], nil)" := by
  have hplain : samples.IsPlain := by
    refine .tuple (by decide) ?_
    simp only [List.forall_mem_cons, List.not_mem_nil, false_implies, implies_true, and_true]
    exact ⟨.name, .dictionary, .optional⟩
  have hvalue := (default?_isValue_iff isWritten_samples).1 _ default?_samples (by decide)
  exact ⟨isWritten_samples, default?_samples, hvalue.mpr hplain⟩

/-- `() -> Int?` gets the literal of an optional. -/
theorem not_isValue_of_function :
    ¬∀ (expr : TypeExpr) (literal : String), expr.IsWritten →
      expr.typeName.default? [] = some literal → literal ≠ "" → expr.IsValue literal := by
  intro hall
  have hwritten : (TypeExpr.function [] (.optional (.name "Int"))).IsWritten :=
    .function (by simp) (.optional (.name (by decide)))
  have hliteral : (TypeExpr.function [] (.optional (.name "Int"))).typeName.default? [] =
      some "nil" := by
    rw [default?, typeName, String.toList_ofList]
    exact defaultOf_of_question (by decide) (by decide)
  have hvalue := hall _ _ hwritten hliteral (by decide)
  cases hvalue

end TypeExpr

end Understudy
