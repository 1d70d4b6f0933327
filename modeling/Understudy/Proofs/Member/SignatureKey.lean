import Mathlib.Data.List.Basic
import Mathlib.Tactic.MkIffOfInductiveProp
import Understudy.Member
import Understudy.Proofs.Text.Nested

/-!
# What a signature key tells

The key of a function, an initializer or a subscript holds all that it declares but its effects:
from a well-spelled one the name, the labels, the generic constraints, the types and whether it is
static can be read back. The key of a property, stored or computed, holds its name alone.
-/

namespace Understudy

open Text

/-- A name is not empty and has no blanks and none of the marks around labels and types. -/
def isSimpleName (name : String) : Bool :=
  name != "" && name.toList.all fun c =>
    !isBlank c && c != ':' && c != ',' && c != '(' && c != ')'

section Names

variable {name : String}

theorem isSimpleName_iff :
    isSimpleName name = true ↔ name ≠ "" ∧ ∀ c ∈ name.toList,
      isBlank c = false ∧ c ≠ ':' ∧ c ≠ ',' ∧ c ≠ '(' ∧ c ≠ ')' := by
  simp [isSimpleName, and_assoc]

theorem not_mem_of_isSimpleName (h : isSimpleName name = true) {c : Char}
    (hc : isBlank c = true ∨ c = ':' ∨ c = ',' ∨ c = '(' ∨ c = ')') : c ∉ name.toList := by
  intro hmem
  obtain ⟨hblank, hcolon, hcomma, hopen, hclose⟩ := (isSimpleName_iff.mp h).2 c hmem
  simp_all

/-- A text is found again before the first character that it does not have. -/
theorem eq_of_append_cons {stop : Char} {left right after later : List Char}
    (hleft : stop ∉ left) (hright : stop ∉ right)
    (heq : left ++ stop :: after = right ++ stop :: later) : left = right ∧ after = later := by
  have hcut {text rest : List Char} (hstop : stop ∉ text) :
      (text ++ stop :: rest).takeWhile (· != stop) = text := by
    have hne : ∀ c ∈ text, (c != stop) = true := by
      intro c hmem
      simp only [bne_iff_ne, ne_eq]
      rintro rfl
      exact hstop hmem
    simp [List.takeWhile_append_of_pos hne]
  have hsame : left = right := by
    rw [← @hcut left after hleft, heq, hcut hright]
  subst hsame
  exact ⟨rfl, by simpa using heq⟩

def labelText (labels : List String) : List Char :=
  labels.flatMap fun label => label.toList ++ [':']

theorem toList_written (declared : DeclaredName) :
    declared.written.toList =
      declared.name.toList ++ '(' :: (labelText declared.labels ++ [')']) := by
  simp [DeclaredName.written, labelText, List.flatMap_map, String.toList_append]

theorem not_mem_labelText {labels : List String} (h : ∀ label ∈ labels, isSimpleName label = true)
    {c : Char} (hc : isBlank c = true ∨ c = '(' ∨ c = ')') (hcolon : c ≠ ':') :
    c ∉ labelText labels := by
  intro hmem
  obtain ⟨label, hlabel, hchar⟩ := List.mem_flatMap.mp hmem
  rcases List.mem_append.mp hchar with hchar | hchar
  · refine not_mem_of_isSimpleName (h label hlabel) ?_ hchar
    tauto
  · exact hcolon (List.mem_singleton.mp hchar)

theorem eq_of_labelText_eq {left right : List String}
    (hleft : ∀ label ∈ left, isSimpleName label = true)
    (hright : ∀ label ∈ right, isSimpleName label = true)
    (heq : labelText left = labelText right) : left = right := by
  induction left generalizing right with
  | nil =>
      cases right with
      | nil => rfl
      | cons label rest => simp [labelText] at heq
  | cons label rest ih =>
      cases right with
      | nil => simp [labelText] at heq
      | cons other others =>
          obtain ⟨hlabel, hrest⟩ := List.forall_mem_cons.mp hleft
          obtain ⟨hother, hothers⟩ := List.forall_mem_cons.mp hright
          have hcut : label.toList ++ ':' :: labelText rest =
              other.toList ++ ':' :: labelText others := by
            simpa [labelText] using heq
          obtain ⟨hsame, hlater⟩ := eq_of_append_cons
            (not_mem_of_isSimpleName hlabel (.inr (.inl rfl)))
            (not_mem_of_isSimpleName hother (.inr (.inl rfl))) hcut
          rw [String.toList_inj.mp hsame, ih hrest hothers hlater]

end Names

theorem TypeName.toList_text_injective :
    Function.Injective fun type : TypeName => type.text.toList := by
  intro left right heq
  cases left
  cases right
  simpa [String.toList_inj] using heq

namespace Method

/-- A function, an initializer or a subscript is spelled so that its key can be read: its declared
name is made of its name and labels, and its types are nested. -/
@[mk_iff]
structure WellSpelled (method : Method) : Prop where
  name : isSimpleName method.name = true
  labels : ∀ param ∈ method.params, isSimpleName param.label = true
  declaredName : method.declaredName =
    DeclaredName.written ⟨method.name, method.params.map Param.label⟩
  genericNames : ∀ generic ∈ method.generics, isSimpleName generic.name = true ∧
    ∀ c ∈ generic.name.toList, isOpening c = false ∧ isClosing c = false
  constraints : ∀ generic ∈ method.generics, isNested generic.type.text.toList = true
  types : ∀ param ∈ method.params, isNested param.type.text.toList = true

/-- The characters of a name are gone through, and not all that there are. -/
instance (name : String) :
    Decidable (∀ c ∈ name.toList, isOpening c = false ∧ isClosing c = false) :=
  List.decidableBAll _ _

instance (method : Method) : Decidable method.WellSpelled :=
  decidable_of_iff' _ (wellSpelled_iff method)

/-- Two callables declare the same up to their effects and the names of their parameters. -/
structure SameSignature (left right : Method) : Prop where
  isStatic : left.isStatic = right.isStatic
  name : left.name = right.name
  declaredName : left.declaredName = right.declaredName
  labels : left.params.map Param.label = right.params.map Param.label
  genericNames : left.generics.map Param.name = right.generics.map Param.name
  constraints : left.generics.map Param.type = right.generics.map Param.type
  types : left.params.map Param.type = right.params.map Param.type
  returnType : left.returnType = right.returnType

/-- The key can be read: the declared name has as many labels as there are parameters, and the types
are nested. The name and the labels need not be those of the method and its parameters. -/
structure SpelledAs (method : Method) (declared : DeclaredName) : Prop where
  name : isSimpleName declared.name = true
  labels : ∀ label ∈ declared.labels, isSimpleName label = true
  length_labels : declared.labels.length = method.params.length
  declaredName : method.declaredName = declared.written
  genericNames : ∀ generic ∈ method.generics, isSimpleName generic.name = true ∧
    ∀ c ∈ generic.name.toList, isOpening c = false ∧ isClosing c = false
  constraints : ∀ generic ∈ method.generics, isNested generic.type.text.toList = true
  types : ∀ param ∈ method.params, isNested param.type.text.toList = true

/-- Two callables agree in all that their keys hold. -/
structure DeclaresAlike (left right : Method) : Prop where
  isStatic : left.isStatic = right.isStatic
  declaredName : left.declaredName = right.declaredName
  genericNames : left.generics.map Param.name = right.generics.map Param.name
  constraints : left.generics.map Param.type = right.generics.map Param.type
  types : left.params.map Param.type = right.params.map Param.type
  returnType : left.returnType = right.returnType

def genericText (generic : Param) : List Char :=
  generic.name.toList ++ ':' :: generic.type.text.toList

/-- The key up to the parenthesis that closes the labels. -/
def keyHead (isStatic : Bool) (declared : DeclaredName) : List Char :=
  (Layout.keyword (Layout.staticWord isStatic)).toList ++
    (declared.name.toList ++ '(' :: labelText declared.labels)

variable {left right method : Method} {declared first second : DeclaredName}

theorem WellSpelled.spelledAs (h : method.WellSpelled) :
    method.SpelledAs ⟨method.name, method.params.map Param.label⟩ where
  name := h.name
  labels := List.forall_mem_map.mpr h.labels
  length_labels := List.length_map _
  declaredName := h.declaredName
  genericNames := h.genericNames
  constraints := h.constraints
  types := h.types

theorem SameSignature.declaresAlike (h : left.SameSignature right) : left.DeclaresAlike right :=
  ⟨h.isStatic, h.declaredName, h.genericNames, h.constraints, h.types, h.returnType⟩

theorem toList_signatureKey (hspelled : method.SpelledAs declared)
    (hkind : method.kind ≠ .computedProperty) :
    method.signatureKey.toList = keyHead method.isStatic declared ++ ')' :: '<' ::
      (commaJoined (method.generics.map genericText) ++ '>' :: '(' ::
        (commaJoined (method.params.map fun param => param.type.text.toList) ++ ')' :: '-' :: '>' ::
          method.returnType.text.toList)) := by
  have hgenerics : (method.generics.map fun generic =>
      generic.name ++ ":" ++ generic.type.text).map String.toList =
        method.generics.map genericText := by
    simp [genericText, String.toList_append]
  have hkind : (method.kind == .computedProperty) = false := beq_eq_false_iff_ne.mpr hkind
  rw [signatureKey, hkind, hspelled.declaredName]
  simp only [Bool.false_eq_true, if_false, String.toList_append, toList_written,
    String.toList_intercalate, hgenerics, List.map_map, keyHead, commaJoined, List.append_assoc]
  simp [Function.comp_def]

/-! ### Reading a key -/

theorem SpelledAs.not_mem_nameAndLabels (h : method.SpelledAs declared) {c : Char}
    (hc : isBlank c = true ∨ c = ')') :
    c ∉ declared.name.toList ++ '(' :: labelText declared.labels := by
  have hmarks : c ≠ '(' ∧ c ≠ ':' := by
    rcases hc with hblank | rfl
    · constructor <;> rintro rfl <;> simp [isBlank] at hblank
    · decide
  simp only [List.mem_append, List.mem_cons, not_or]
  refine ⟨not_mem_of_isSimpleName h.name (by tauto), hmarks.1, ?_⟩
  exact not_mem_labelText h.labels (by tauto) hmarks.2

theorem closing_not_mem_keyHead (h : method.SpelledAs declared) (isStatic : Bool) :
    ')' ∉ keyHead isStatic declared := by
  rw [keyHead, List.mem_append, not_or]
  refine ⟨?_, h.not_mem_nameAndLabels (.inr rfl)⟩
  cases isStatic <;> decide

/-- A blank stands in the head of a key only after the word that makes it static. -/
theorem blank_mem_keyHead_iff (h : method.SpelledAs declared) (isStatic : Bool) :
    ' ' ∈ keyHead isStatic declared ↔ isStatic = true := by
  have hblank := h.not_mem_nameAndLabels (c := ' ') (.inl rfl)
  rw [keyHead, List.mem_append]
  cases isStatic with
  | true => simp [Layout.keyword, Layout.staticWord]
  | false => simpa [Layout.keyword, Layout.staticWord] using hblank

theorem eq_of_keyHead_eq (hleft : left.SpelledAs first) (hright : right.SpelledAs second)
    (heq : keyHead left.isStatic first = keyHead right.isStatic second) :
    left.isStatic = right.isStatic ∧ first = second := by
  have hstatic : left.isStatic = right.isStatic := by
    rw [Bool.eq_iff_iff, ← blank_mem_keyHead_iff hleft, ← blank_mem_keyHead_iff hright, heq]
  rw [keyHead, keyHead, hstatic, List.append_cancel_left_eq] at heq
  obtain ⟨hname, hlabels⟩ := eq_of_append_cons
    (not_mem_of_isSimpleName hleft.name (by simp)) (not_mem_of_isSimpleName hright.name (by simp))
    heq
  refine ⟨hstatic, ?_⟩
  cases first
  cases second
  exact congrArg₂ DeclaredName.mk (String.toList_inj.mp hname)
    (eq_of_labelText_eq hleft.labels hright.labels hlabels)

theorem isNested_genericText (h : method.SpelledAs declared) :
    ∀ item ∈ method.generics.map genericText, isNested item = true := by
  intro item hmem
  obtain ⟨generic, hgeneric, rfl⟩ := List.mem_map.mp hmem
  obtain ⟨hname, hbrackets⟩ := h.genericNames generic hgeneric
  have hplain : ∀ c ∈ generic.name.toList ++ [':'], isOpening c = false ∧ isEnd c = false := by
    intro c hc
    rcases List.mem_append.mp hc with hc | hc
    · have hcomma := ((isSimpleName_iff.mp hname).2 c hc).2.2.1
      simpa [isEnd, hcomma] using hbrackets c hc
    · rw [List.mem_singleton.mp hc]
      decide
  rw [isNested, genericText, isNestedFrom_append_of_plain hplain (by decide)]
  exact h.constraints generic hgeneric

theorem eq_of_genericText_eq {first second : Param} (hfirst : isSimpleName first.name = true)
    (hsecond : isSimpleName second.name = true) (heq : genericText first = genericText second) :
    first.name = second.name ∧ first.type = second.type := by
  obtain ⟨hname, htype⟩ := eq_of_append_cons (not_mem_of_isSimpleName hfirst (by simp))
    (not_mem_of_isSimpleName hsecond (by simp)) heq
  exact ⟨String.toList_inj.mp hname, TypeName.toList_text_injective htype⟩

theorem eq_of_map_genericText_eq {first second : List Param}
    (hfirst : ∀ generic ∈ first, isSimpleName generic.name = true)
    (hsecond : ∀ generic ∈ second, isSimpleName generic.name = true)
    (heq : first.map genericText = second.map genericText) :
    first.map Param.name = second.map Param.name ∧
      first.map Param.type = second.map Param.type := by
  induction first generalizing second with
  | nil =>
      obtain rfl := List.map_eq_nil_iff.mp heq.symm
      simp
  | cons generic rest ih =>
      cases second with
      | nil => simp at heq
      | cons other others =>
          obtain ⟨hgeneric, hrest⟩ := List.forall_mem_cons.mp hfirst
          obtain ⟨hother, hothers⟩ := List.forall_mem_cons.mp hsecond
          obtain ⟨hhead, htail⟩ := List.cons.inj heq
          obtain ⟨hname, htype⟩ := eq_of_genericText_eq hgeneric hother hhead
          obtain ⟨hnames, htypes⟩ := ih hrest hothers htail
          simp [hname, htype, hnames, htypes]

theorem map_genericKey_eq (generics : List Param) :
    generics.map (fun generic => generic.name ++ ":" ++ generic.type.text) =
      List.zipWith (fun name (type : TypeName) => name ++ ":" ++ type.text)
        (generics.map Param.name) (generics.map Param.type) := by
  simp [List.zipWith_map, List.zipWith_self]

theorem signatureKey_eq_of_declaresAlike (hfunction : left.kind ≠ .computedProperty)
    (hother : right.kind ≠ .computedProperty) (h : left.DeclaresAlike right) :
    left.signatureKey = right.signatureKey := by
  have htexts (method : Method) : method.params.map (fun param => param.type.text) =
      (method.params.map Param.type).map TypeName.text := by
    simp
  simp only [signatureKey, beq_eq_false_iff_ne.mpr hfunction, beq_eq_false_iff_ne.mpr hother,
    map_genericKey_eq, htexts, h.isStatic, h.declaredName, h.genericNames, h.constraints, h.types,
    h.returnType]

/-- The parts of a key end one after the other where the next mark stands outside brackets. -/
theorem declaresAlike_of_signatureKey_eq (hleft : left.SpelledAs first)
    (hright : right.SpelledAs second) (hfunction : left.kind ≠ .computedProperty)
    (hother : right.kind ≠ .computedProperty) (hkey : left.signatureKey = right.signatureKey) :
    left.DeclaresAlike right ∧ first = second := by
  have htext := congrArg String.toList hkey
  rw [toList_signatureKey hleft hfunction, toList_signatureKey hright hother] at htext
  obtain ⟨hhead, htail⟩ := eq_of_append_cons (closing_not_mem_keyHead hleft left.isStatic)
    (closing_not_mem_keyHead hright right.isStatic) htext
  obtain ⟨hstatic, rfl⟩ := eq_of_keyHead_eq hleft hright hhead
  have hgenericTexts :
      [] ∉ left.generics.map genericText ∧ [] ∉ right.generics.map genericText := by
    simp [genericText]
  obtain ⟨hgenerics, hafter⟩ := eq_of_commaJoined_append_of_nonempty (isNested_genericText hleft)
    (isNested_genericText hright) hgenericTexts.1 hgenericTexts.2 (by decide)
    (List.cons.inj htail).2
  obtain ⟨hgenericNames, hconstraints⟩ := eq_of_map_genericText_eq
    (fun generic hmem => (hleft.genericNames generic hmem).1)
    (fun generic hmem => (hright.genericNames generic hmem).1) hgenerics
  -- the labels say how many parameters there are, also when the only type is not written
  have hcount : left.params.length = right.params.length :=
    hleft.length_labels.symm.trans hright.length_labels
  have hparamsEmpty : left.params.map (fun param => param.type.text.toList) = [] ↔
      right.params.map (fun param => param.type.text.toList) = [] := by
    simp only [← List.length_eq_zero_iff, List.length_map, hcount]
  obtain ⟨htypes, hreturn⟩ := eq_of_commaJoined_append (List.forall_mem_map.mpr hleft.types)
    (List.forall_mem_map.mpr hright.types) (by decide) hparamsEmpty (List.cons.inj hafter).2
  refine ⟨⟨hstatic, ?_, hgenericNames, hconstraints, ?_, ?_⟩, rfl⟩
  · rw [hleft.declaredName, hright.declaredName]
  · refine List.map_injective_iff.mpr TypeName.toList_text_injective ?_
    rw [List.map_map, List.map_map]
    exact htypes
  · refine TypeName.toList_text_injective ?_
    simpa using hreturn

/-- A key tells callables apart exactly up to their effects. -/
theorem signatureKey_eq_iff (hleft : left.WellSpelled) (hright : right.WellSpelled)
    (hfunction : left.kind ≠ .computedProperty) (hother : right.kind ≠ .computedProperty) :
    left.signatureKey = right.signatureKey ↔ left.SameSignature right := by
  constructor
  · intro hkey
    obtain ⟨h, hdeclared⟩ := declaresAlike_of_signatureKey_eq hleft.spelledAs hright.spelledAs
      hfunction hother hkey
    obtain ⟨hname, hlabels⟩ := DeclaredName.mk.inj hdeclared
    exact ⟨h.isStatic, hname, h.declaredName, hlabels, h.genericNames, h.constraints, h.types,
      h.returnType⟩
  · intro hsame
    exact signatureKey_eq_of_declaresAlike hfunction hother hsame.declaresAlike

/-- **Keys separate callables.** Where the declared names of two functions, initializers or
subscripts have simple names and a label for each parameter, and the constraints and types are
nested, their keys are equal exactly if both are static or neither is and they agree in the declared
name, the generic parameters with their constraints, the types of the parameters and the return
type. -/
theorem signatureKey_eq_iff_declaresAlike (hfunction : left.kind ≠ .computedProperty)
    (hother : right.kind ≠ .computedProperty) (hleft : left.SpelledAs first)
    (hright : right.SpelledAs second) :
    left.signatureKey = right.signatureKey ↔ left.DeclaresAlike right := by
  constructor
  · intro hkey
    exact (declaresAlike_of_signatureKey_eq hleft hright hfunction hother hkey).1
  · intro hsame
    exact signatureKey_eq_of_declaresAlike hfunction hother hsame

/-- `static func < <T: Pair<A, B>, …>(_ lhs: (T, T) -> Bool, by rhs: [K: V])` -/
def lessThan (others : List Param) : Method where
  name := "<"
  kind := .function
  generics := .generic "T" ⟨"Pair<A, B>"⟩ :: others
  params := [.value "_" "lhs" ⟨"(T, T) -> Bool"⟩, .value "by" "rhs" ⟨"[K: V]"⟩]
  returnType := .unwritten
  isStatic := true
  accessLevel := ""
  effects := ""
  attributes := []
  handler := none
  declaredName := "<(_:by:)"
  origin := { path := ⟨"Api.swift"⟩, offset := 0, length := 0, processed := false }
  components := []

theorem spelledAs_lessThan : (lessThan []).SpelledAs ⟨"<", ["_", "by"]⟩ ∧
    (lessThan [.generic "U" .unwritten]).SpelledAs ⟨"<", ["_", "by"]⟩ := by
  have hspelled : (lessThan []).WellSpelled ∧
      (lessThan [.generic "U" .unwritten]).WellSpelled := by decide
  exact ⟨hspelled.1.spelledAs, hspelled.2.spelledAs⟩

theorem signatureKey_lessThan_ne :
    (lessThan []).kind ≠ .computedProperty ∧
    (lessThan []).SpelledAs ⟨"<", ["_", "by"]⟩ ∧
    (lessThan [.generic "U" .unwritten]).SpelledAs ⟨"<", ["_", "by"]⟩ ∧
    (lessThan []).signatureKey ≠ (lessThan [.generic "U" .unwritten]).signatureKey := by
  obtain ⟨hleft, hright⟩ := spelledAs_lessThan
  have hkind (others : List Param) : (lessThan others).kind ≠ .computedProperty := by
    simp [lessThan]
  refine ⟨hkind [], hleft, hright, fun hkey => ?_⟩
  have hsame :=
    (signatureKey_eq_iff_declaresAlike (hkind _) (hkind _) hleft hright).mp hkey
  exact absurd hsame.genericNames (by decide)

end Method

end Understudy
