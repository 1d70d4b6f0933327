import Understudy.Proofs.Text.Depth
import Understudy.Proofs.Text.Nested
import Understudy.Proofs.TypeName.Default

/-!
# Literals of tuple types

The elements of a tuple type are flat texts between commas, each after a label if it has one and
with blanks around it. Splitting finds them again, so the literal of the tuple is told by the
literals of its elements. The search for it asks for shorter texts alone.
-/

namespace Understudy

open Text

namespace Text

/-- Brackets and the marks that stand between the parts of a tuple type. -/
def isTupleMark (c : Char) : Bool :=
  isOpening c || isClosing c || c == ',' || c == ':'

theorem isTupleMark_of_isBlank {c : Char} (h : isBlank c = true) : isTupleMark c = false :=
  of_isBlank (P := fun c => isTupleMark c = false) (by decide) h

theorem isFlat_of_all {separator : Char} {text : List Char}
    (hseparator : isTupleMark separator = true)
    (h : text.all (fun c => !isTupleMark c) = true) : IsFlat separator text := by
  apply isFlat_of_forall
  intro c hc
  have hmark : isTupleMark c = false := by simpa using List.all_eq_true.mp h c hc
  refine ⟨?_, ?_, ?_⟩
  · simp_all [isTupleMark]
  · simp_all [isTupleMark]
  · rintro rfl
    exact absurd hseparator (Bool.eq_false_iff.mp hmark)

end Text

theorem TypeName.tupleLiteral_of_two_le {values : List String} (h : 2 ≤ values.length) :
    tupleLiteral values = "(" ++ ", ".intercalate values ++ ")" := by
  match values with
  | [] | [_] => simp at h
  | _ :: _ :: _ => simp only [tupleLiteral]

/-- An element of a tuple type as it is written. The label goes up to the colon, so it includes the
blanks around it; the type has net depth zero, and no comma or colon splits it. -/
structure TupleElement where
  label : Option (List Char)
  before : List Char
  type : List Char
  after : List Char
  label_unmarked : ∀ name ∈ label, name.all (fun c => !isTupleMark c) = true
  before_blank : before.all isBlank = true
  after_blank : after.all isBlank = true
  comma_flat : IsFlat ',' type
  colon_flat : IsFlat ':' type

namespace TupleElement

variable {separator : Char} {elements : List TupleElement}

def spacedType (element : TupleElement) : List Char :=
  element.before ++ element.type ++ element.after

def text (element : TupleElement) : List Char :=
  match element.label with
  | none => element.spacedType
  | some name => name ++ ':' :: element.spacedType

/-- The type alone, as if it were the type of a member. -/
def typeName (element : TupleElement) : TypeName :=
  TypeName.ofText (String.ofList element.type)

theorem isFlat_spacedType (element : TupleElement) (hseparator : isTupleMark separator = true)
    (htype : IsFlat separator element.type) : IsFlat separator element.spacedType :=
  htype.between_blanks (isBlank_eq_false_of isTupleMark_of_isBlank hseparator)
    (List.all_eq_true.mp element.before_blank) (List.all_eq_true.mp element.after_blank)

/-- No comma splits an element. -/
theorem isFlat_text (element : TupleElement) : IsFlat ',' element.text := by
  have hspaced := element.isFlat_spacedType (by decide) element.comma_flat
  unfold text
  cases hlabel : element.label with
  | none => exact hspaced
  | some name =>
      have hname : IsFlat ',' name :=
        isFlat_of_all (by decide) (element.label_unmarked name hlabel)
      have hcolon : IsFlat ',' [':'] :=
        isFlat_of_forall (List.forall_mem_singleton.mpr (by decide))
      exact hname.append (hcolon.append hspaced (by simp)) (by simp)

theorem trim_spacedType (element : TupleElement) : trim element.spacedType = trim element.type := by
  rw [spacedType, List.append_assoc,
    trim_append_of_forall_isBlank (List.all_eq_true.mp element.before_blank),
    trim_append_blanks (List.all_eq_true.mp element.after_blank)]

/-- The colon after the label is the only one that splits an element. -/
theorem elementType_text (element : TupleElement) :
    TypeName.elementType element.text = trim element.type := by
  have hspaced := element.isFlat_spacedType (by decide) element.colon_flat
  cases hlabel : element.label with
  | none =>
      simp only [text, hlabel]
      rw [TypeName.elementType, hspaced.splitTopLevel_eq]
      exact element.trim_spacedType
  | some name =>
      have hname : IsFlat ':' name :=
        isFlat_of_all (by decide) (element.label_unmarked name hlabel)
      have hpieces : splitTopLevel ':' (name ++ ':' :: element.spacedType) =
          [name, element.spacedType] := by
        rw [splitTopLevel_append_of_netDepth hname.netDepth_eq (by decide),
          hname.splitTopLevel_eq, hspaced.splitTopLevel_eq]
        rfl
      simp only [text, hlabel]
      rw [TypeName.elementType, hpieces]
      exact element.trim_spacedType

theorem default?_typeName (element : TupleElement) (known : KnownLiterals) :
    element.typeName.default? known = TypeName.defaultOf known (trim element.type) := by
  simp [typeName, TypeName.ofText, TypeName.default?]

/-- The elements with commas between them. -/
def inside (elements : List TupleElement) : List Char :=
  commaJoined (elements.map text)

def tupleText (elements : List TupleElement) : String :=
  String.ofList ('(' :: inside elements ++ [')'])

def tupleType (elements : List TupleElement) : TypeName :=
  TypeName.ofText (tupleText elements)

theorem splitTopLevel_inside (hne : elements ≠ []) :
    splitTopLevel ',' (inside elements) = elements.map text := by
  apply splitTopLevel_intercalate
  · simpa using hne
  · decide
  · simpa using fun element _ => element.isFlat_text

/-- Only a single empty element leaves nothing between the brackets. -/
theorem inside_ne_nil (hne : elements ≠ []) (hempty : elements.map text ≠ [[]]) :
    inside elements ≠ [] := by
  intro hnil
  have hpieces := splitTopLevel_inside hne
  rw [hnil] at hpieces
  exact hempty hpieces.symm

theorem default?_tupleType_eq {known : KnownLiterals} (hne : elements ≠ [])
    (hempty : elements.map text ≠ [[]]) (hunknown : known.lookup (tupleText elements) = none) :
    (tupleType elements).default? known =
      (elements.mapM fun element : TupleElement => element.typeName.default? known).map
        TypeName.tupleLiteral := by
  have htrim : trim ('(' :: inside elements ++ [')']) = '(' :: inside elements ++ [')'] :=
    trim_eq_self (by decide) (by decide) (inside elements)
  have hround := TypeName.defaultOf_of_round hunknown (inside_ne_nil hne hempty)
  have hread : (fun element : TupleElement =>
      TypeName.defaultOf known (TypeName.elementType element.text)) =
        fun element => element.typeName.default? known := by
    funext element
    rw [elementType_text, default?_typeName]
  calc (tupleType elements).default? known
      = TypeName.defaultOf known ('(' :: inside elements ++ [')']) := by
        rw [tupleType, tupleText, TypeName.ofText, TypeName.default?, String.toList_ofList,
          String.toList_ofList, htrim]
    _ = ((elements.map text).mapM fun element =>
          TypeName.defaultOf known (TypeName.elementType element)).map TypeName.tupleLiteral := by
        rw [hround, splitTopLevel_inside hne]
    _ = (elements.mapM fun element : TupleElement => element.typeName.default? known).map
          TypeName.tupleLiteral := by
        rw [List.mapM_map, Function.comp_def, hread]

/-- **Literals of tuples.** The literal of a type is found by one step that asks for the literals of
shorter types alone, so steps nested deeper than the type is long never come to what stands below
them. A tuple type without a known literal has one if all of its elements have: that of the only
element, or else those of all in parentheses. -/
theorem default?_tupleType (known : KnownLiterals) :
    (∀ text, TypeName.defaultOf known text =
      TypeName.searchStep known (TypeName.defaultOf known) text) ∧
    (∀ text inner element, TypeName.enclosed? '(' ')' text = some inner →
      element ∈ splitTopLevel ',' inner →
      (TypeName.elementType element).length < text.length) ∧
    (∀ text depth bottom, text.length < depth →
      (TypeName.searchStep known)^[depth] bottom text = TypeName.defaultOf known text) ∧
    ∀ elements : List TupleElement, elements ≠ [] → elements.map text ≠ [[]] →
      known.lookup (tupleText elements) = none →
      ((∃ element ∈ elements, element.typeName.default? known = none) →
        (tupleType elements).default? known = none) ∧
      (∀ element, elements = [element] →
        (tupleType elements).default? known = element.typeName.default? known) ∧
      ∀ values, 2 ≤ elements.length →
        List.Forall₂ (fun element value => element.typeName.default? known = some value)
          elements values →
        (tupleType elements).default? known = some ("(" ++ ", ".intercalate values ++ ")") := by
  refine ⟨TypeName.defaultOf_eq_searchStep known,
    fun _ _ _ hinner helement => TypeName.elementType_length_lt hinner helement,
    fun _ _ bottom hdepth => TypeName.iterate_searchStep bottom hdepth,
    fun elements hne hempty hunknown => ?_⟩
  rw [default?_tupleType_eq hne hempty hunknown]
  refine ⟨?_, ?_, ?_⟩
  · rintro ⟨element, hmem, hnone⟩
    exact Option.map_eq_none_iff.mpr (mapM_eq_none_of_mem hmem hnone)
  · rintro element rfl
    cases hvalue : element.typeName.default? known with
    | none => simp [hvalue]
    | some value => simp [hvalue, TypeName.tupleLiteral]
  · intro values hmany hvalues
    rw [mapM_eq_some_iff.mpr hvalues, Option.map_some,
      TypeName.tupleLiteral_of_two_le (hvalues.length_eq ▸ hmany)]

/-- `(pair: (Int, at: [String: Bool]), ((Int, Int) -> Void)? ,table : Dictionary<Key, (a: A)> )` -/
def nestedElements : List TupleElement :=
  [{ label := some "pair".toList, before := [' '], type := "(Int, at: [String: Bool])".toList,
     after := [], label_unmarked := by decide, before_blank := by decide, after_blank := by decide,
     comma_flat := ⟨by decide, by decide⟩, colon_flat := ⟨by decide, by decide⟩ },
   { label := none, before := [' '], type := "((Int, Int) -> Void)?".toList, after := [' '],
     label_unmarked := by decide, before_blank := by decide, after_blank := by decide,
     comma_flat := ⟨by decide, by decide⟩, colon_flat := ⟨by decide, by decide⟩ },
   { label := some "table ".toList, before := [' '], type := "Dictionary<Key, (a: A)>".toList,
     after := [' '], label_unmarked := by decide, before_blank := by decide,
     after_blank := by decide, comma_flat := ⟨by decide, by decide⟩,
     colon_flat := ⟨by decide, by decide⟩ }]

theorem forall₂_nestedElements :
    List.Forall₂ (fun element value => element.typeName.default? [("Int", "42")] = some value)
      nestedElements ["(42, [:])", "nil", "[:]"] := by
  have hsearch {type : List Char} {value : String} (hlength : type.length < 30)
      (hvalue : (TypeName.searchStep [("Int", "42")])^[30] (fun _ => none) type = some value) :
      TypeName.defaultOf [("Int", "42")] type = some value :=
    (TypeName.iterate_searchStep _ hlength).symm.trans hvalue
  refine .cons ?_ (.cons ?_ (.cons ?_ .nil)) <;>
    exact (default?_typeName _ _).trans (hsearch (by decide) (by decide))

theorem default?_nestedElements :
    nestedElements ≠ [] ∧ nestedElements.map text ≠ [[]] ∧
    [("Int", "42")].lookup (tupleText nestedElements) = none ∧
    (tupleType nestedElements).default? [("Int", "42")] = some "((42, [:]), nil, [:])" := by
  have hne : nestedElements ≠ [] := List.cons_ne_nil _ _
  have hempty : nestedElements.map text ≠ [[]] := by decide
  have hunknown : [("Int", "42")].lookup (tupleText nestedElements) = none := by decide
  have hmany : 2 ≤ nestedElements.length := by decide
  obtain ⟨_, _, _, htuple⟩ := default?_tupleType [("Int", "42")]
  obtain ⟨_, _, hvalues⟩ := htuple nestedElements hne hempty hunknown
  refine ⟨hne, hempty, hunknown, (hvalues _ hmany forall₂_nestedElements).trans ?_⟩
  decide

end TupleElement

end Understudy
