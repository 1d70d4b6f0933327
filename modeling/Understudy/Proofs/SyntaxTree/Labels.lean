import Mathlib.Data.List.Forall2
import Understudy.Proofs.Member.SignatureKey
import Understudy.Proofs.Mock.ReadBack

/-!
# Labels and parameters agree

A callable carries its labels in its declared name, from which they are read again, while its
parameters are declarations below it. What is written in front of a parameter's colon always gives
one label: its first word, or `_` when there is none. So a name without colons and parentheses is
read again with all labels in order, and the callable becomes a method that has each parameter with
its label, name and type (`Method.ofDeclaration_callable`).
-/

namespace Understudy

open Text

namespace DeclaredName

/-- A text that is read again as it stands between the marks of a declared name. -/
structure IsPiece (text : String) : Prop where
  ne_empty : text ≠ ""
  trimmed : IsTrimmed text
  undelimited : ∀ c ∈ text.toList, isDelimiter c = false

theorem splitWhere_labelText {labels : List String}
    (h : ∀ label ∈ labels, ∀ c ∈ label.toList, isDelimiter c = false) :
    splitWhere isDelimiter (labelText labels ++ [')']) = labels.map String.toList ++ [[], []] := by
  induction labels with
  | nil => rfl
  | cons label rest ih =>
      obtain ⟨hlabel, hrest⟩ := List.forall_mem_cons.mp h
      have htext : labelText (label :: rest) ++ [')'] =
          label.toList ++ ':' :: (labelText rest ++ [')']) := by
        simp [labelText]
      rw [htext, splitWhere_append (by decide), splitWhere_eq_singleton hlabel, ih hrest]
      rfl

theorem read_written {declared : DeclaredName} (hname : IsPiece declared.name)
    (hlabels : ∀ label ∈ declared.labels, IsPiece label) : read declared.written = declared := by
  have hsplit : splitWhere isDelimiter declared.written.toList =
      (declared.name :: declared.labels).map String.toList ++ [[], []] := by
    rw [toList_written, splitWhere_append (by decide), splitWhere_eq_singleton hname.undelimited,
      splitWhere_labelText fun label hlabel => (hlabels label hlabel).undelimited]
    rfl
  have hpieces : ∀ piece ∈ declared.name :: declared.labels, IsPiece piece :=
    List.forall_mem_cons.mpr ⟨hname, hlabels⟩
  have htrim : ((declared.name :: declared.labels).map String.toList).map trim =
      (declared.name :: declared.labels).map String.toList := by
    rw [List.map_map]
    exact List.map_congr_left fun piece hpiece => (hpieces piece hpiece).trimmed
  have hkept : ((declared.name :: declared.labels).map String.toList).filter
      (fun piece => !piece.isEmpty) = (declared.name :: declared.labels).map String.toList := by
    refine List.filter_eq_self.mpr fun text htext => ?_
    obtain ⟨piece, hpiece, rfl⟩ := List.mem_map.mp htext
    simpa using (hpieces piece hpiece).ne_empty
  rw [read, hsplit, List.map_append, htrim, List.filter_append, hkept]
  simp [trim, trimStart, trimEnd]

end DeclaredName

/-- The label and the internal name that the words before the colon of a parameter give. -/
inductive IsNamedBy : List (List Char) → String → String → Prop
  | unnamed : IsNamedBy [] "_" ""
  | single (name : List Char) : IsNamedBy [name] (.ofList name) (.ofList name)
  | labelled (label name : List Char) (others : List (List Char)) :
      IsNamedBy (label :: name :: others) (.ofList label) (.ofList name)

/-- A parameter is what its text declares: names up to the first colon, and the type after it. -/
inductive Param.IsDeclaredBy (text : List Char) (param : Param) : Prop
  | typed {names type : List Char} (htext : text = names ++ ':' :: type) (hcolon : ':' ∉ names)
      (hnames : IsNamedBy (words names) param.label param.name)
      (htype : param.type.text = String.ofList (trim type)) (hplain : param.isGeneric = false)
  | untyped (hcolon : ':' ∉ text) (hnames : IsNamedBy (words text) param.label param.name)
      (htype : param.type.text = "") (hplain : param.isGeneric = false)

namespace SyntaxTree

variable {source names : List Char} {tree : SyntaxTree}

theorem isNamedBy_labelAndName (names : List Char) :
    IsNamedBy (words names) (labelAndName names).1 (labelAndName names).2 := by
  unfold labelAndName
  match words names with
  | [] => exact .unnamed
  | [name] => exact .single name
  | label :: name :: others => exact .labelled label name others

/-- What a text declares before its first colon and after it. -/
theorem exists_aroundColon (text : List Char) :
    ∃ names type, aroundColon text = (names, type) ∧ ':' ∉ names ∧
      (text = names ++ ':' :: type ∨ text = names ∧ type = []) := by
  by_cases hcolon : ':' ∈ text
  · obtain ⟨names, type, rfl, hnames⟩ := List.eq_append_cons_of_mem hcolon
    exact ⟨names, type, aroundColon_append hnames, hnames, .inl rfl⟩
  · exact ⟨text, [], aroundColon_eq_self hcolon, hcolon, .inr ⟨rfl, rfl⟩⟩

/-- A label is a word in front of the colon, or the mark of a missing one. -/
theorem isPiece_label {label name : String} (h : IsNamedBy (words names) label name)
    (hcolon : ':' ∉ names) (hparens : '(' ∉ label.toList ∧ ')' ∉ label.toList) :
    DeclaredName.IsPiece label := by
  have hword {word : List Char} (hmem : word ∈ words names)
      (hparens : '(' ∉ word ∧ ')' ∉ word) : DeclaredName.IsPiece (String.ofList word) := by
    have hunbroken := isUnbroken_of_mem_words hmem
    simp only [isUnbroken, Bool.and_eq_true, Bool.not_eq_true', List.isEmpty_eq_false_iff,
      List.all_eq_true] at hunbroken
    refine ⟨?_, ?_, ?_⟩
    · simpa using hunbroken.1
    · rw [IsTrimmed, String.toList_ofList]
      exact trim_of_forall_isBlank_eq_false hunbroken.2
    · rw [String.toList_ofList]
      intro c hc
      have hcolons : c ≠ ':' := fun heq => hcolon (mem_of_mem_words hmem (heq ▸ hc))
      have hopen : c ≠ '(' := fun heq => hparens.1 (heq ▸ hc)
      have hclose : c ≠ ')' := fun heq => hparens.2 (heq ▸ hc)
      simp [DeclaredName.isDelimiter, hcolons, hopen, hclose]
  cases hwords : words names with
  | nil =>
      obtain rfl : label = "_" := by
        rw [hwords] at h
        cases h
        rfl
      exact ⟨by decide, by decide, by simp [DeclaredName.isDelimiter]⟩
  | cons word others =>
      rw [hwords] at h hword
      have hlabel : label = String.ofList word := by
        cases h <;> rfl
      subst hlabel
      exact hword List.mem_cons_self (by simpa using hparens)

theorem isPiece_callableName {kind : DeclarationKind} (hne : callableName source kind tree ≠ "")
    (hname : ∀ c ∈ (callableName source kind tree).toList, DeclaredName.isDelimiter c = false) :
    DeclaredName.IsPiece (callableName source kind tree) := by
  refine ⟨hne, ?_, hname⟩
  unfold callableName
  split
  · decide
  · decide
  · split
    · rw [IsTrimmed, String.toList_ofList, trim_trim]
    · rw [IsTrimmed, String.toList_ofList]
      refine trim_of_forall_isBlank_eq_false fun c hc => ?_
      unfold functionName at hc
      split at hc
      · have hkept := List.mem_takeWhile_imp hc
        simp only [Bool.and_eq_true, Bool.not_eq_true'] at hkept
        exact hkept.2
      · cases hc

/-- The nodes of the parameters of a callable. -/
def parameterNodes (tree : SyntaxTree) : List SyntaxTree :=
  tree.children.filter fun child => child.kind == "parameter"

theorem label_parameter {node : SyntaxTree} {type : List Char}
    (h : aroundColon (node.text source) = (names, type)) :
    (parameter source node).1 = (labelAndName names).1 := by
  simp [parameter, h]

/-- The parameter that is built from a node under the label that the node has. -/
theorem ofDeclaration_parameter {node : SyntaxTree} {type : List Char}
    (h : aroundColon (node.text source) = (names, type)) :
    Param.ofDeclaration (parameter source node).1 (parameter source node).2 =
      Param.value (labelAndName names).1 (labelAndName names).2 ⟨String.ofList (trim type)⟩ := by
  simp [parameter, h, Param.ofDeclaration, Declaration.isGenericParameter, TypeName.ofText,
    trim_trim]

theorem isDeclaredBy_parameter (source : List Char) (node : SyntaxTree) :
    (Param.ofDeclaration (parameter source node).1 (parameter source node).2).IsDeclaredBy
      (node.text source) := by
  obtain ⟨names, type, haround, hcolon, htext⟩ := exists_aroundColon (node.text source)
  have hnames := isNamedBy_labelAndName names
  rw [ofDeclaration_parameter haround]
  rcases htext with htext | ⟨htext, rfl⟩
  · exact .typed htext hcolon hnames rfl rfl
  · rw [htext]
    exact .untyped hcolon hnames rfl rfl

theorem params_callable (source : List Char) (kind : DeclarationKind) (tree : SyntaxTree) :
    (callable source kind tree).params = (parameters source tree).map Prod.snd := by
  have hgenerics : (genericParameters source tree).filter Declaration.isParameter = [] := by
    refine List.filter_eq_nil_iff.mpr fun declaration hmem => ?_
    obtain ⟨list, _, hmem⟩ := List.mem_flatMap.mp hmem
    obtain ⟨node, _, rfl⟩ := List.mem_map.mp hmem
    simp [genericParameter, Declaration.isParameter]
  have hparams : ((parameters source tree).map Prod.snd).filter Declaration.isParameter =
      (parameters source tree).map Prod.snd := by
    refine List.filter_eq_self.mpr fun declaration hmem => ?_
    obtain ⟨_, hparam, rfl⟩ := List.mem_map.mp hmem
    obtain ⟨node, _, rfl⟩ := List.mem_map.mp hparam
    simp [parameter, Declaration.isParameter]
  rw [callable, Declaration.params, List.filter_append, hgenerics, hparams, List.nil_append]

end SyntaxTree

namespace Method

variable {source : List Char} {kind : DeclarationKind} {tree : SyntaxTree}

open SyntaxTree

theorem read_callable (hne : callableName source kind tree ≠ "")
    (hname : ∀ c ∈ (callableName source kind tree).toList, DeclaredName.isDelimiter c = false)
    (hlabels : ∀ param ∈ parameters source tree, '(' ∉ param.1.toList ∧ ')' ∉ param.1.toList) :
    DeclaredName.read (callable source kind tree).name =
      ⟨callableName source kind tree, (parameters source tree).map Prod.fst⟩ := by
  refine DeclaredName.read_written (isPiece_callableName hne hname) fun label hlabel => ?_
  obtain ⟨param, hparam, rfl⟩ := List.mem_map.mp hlabel
  have hparens := hlabels param hparam
  obtain ⟨node, _, rfl⟩ := List.mem_map.mp hparam
  obtain ⟨names, type, haround, hcolon, _⟩ := exists_aroundColon (node.text source)
  rw [label_parameter haround] at hparens ⊢
  exact isPiece_label (isNamedBy_labelAndName names) hcolon hparens

/-- **Labels and parameters agree.** A callable whose name has no colon and no parenthesis, nor a
label a parenthesis, has a declared name that is read again as that name and the labels. So it
becomes a method, and each of its parameters is what the text of its node declares. -/
theorem ofDeclaration_callable (context : SourceContext)
    (hne : callableName source kind tree ≠ "")
    (hname : ∀ c ∈ (callableName source kind tree).toList, DeclaredName.isDelimiter c = false)
    (hlabels : ∀ param ∈ parameters source tree, '(' ∉ param.1.toList ∧ ')' ∉ param.1.toList) :
    DeclaredName.read (callable source kind tree).name =
        ⟨callableName source kind tree, (parameters source tree).map Prod.fst⟩ ∧
      ∃ method, ofDeclaration context (callable source kind tree) = .ok method ∧
        method.name = callableName source kind tree ∧
        List.Forall₂ (fun node param => param.IsDeclaredBy (node.text source)) tree.parameterNodes
          method.params := by
  have hread := read_callable hne hname hlabels
  have hparams := params_callable source kind tree
  refine ⟨hread, build context (callable source kind tree)
    ⟨callableName source kind tree, (parameters source tree).map Prod.fst⟩, ?_, rfl, ?_⟩
  · rw [ofDeclaration, hread, if_pos]
    simp [hparams]
  · have hzip : ((parameters source tree).map Prod.fst).zip
        ((parameters source tree).map Prod.snd) = parameters source tree := by
      rw [List.zip_map']
      simp
    have hbuilt : (build context (callable source kind tree)
        ⟨callableName source kind tree, (parameters source tree).map Prod.fst⟩).params =
          tree.parameterNodes.map fun node =>
            Param.ofDeclaration (parameter source node).1 (parameter source node).2 := by
      simp only [build, hparams, hzip]
      simp [parameters, parameterNodes]
    rw [hbuilt, List.forall₂_map_right_iff]
    exact List.forall₂_same.mpr fun node _ => isDeclaredBy_parameter source node

def fetchSource : List Char :=
  "func fetch<T>(id: Int, from user: [String: T], _)".toList

def fetchTree : SyntaxTree :=
  .node "function_declaration" true 0 49 none
    [.node "simple_identifier" true 5 10 (some "name") [],
      .node "type_parameters" true 10 13 none [.node "type_parameter" true 11 12 none []],
      .node "(" false 13 14 none [],
      .node "parameter" true 14 21 none [],
      .node "parameter" true 23 45 none [],
      .node "parameter" true 47 48 none [],
      .node ")" false 48 49 none []]

def fetchContext : SourceContext :=
  { path := ⟨"Api.swift"⟩
    source := String.ofList fetchSource
    processed := false
    marker := "@mockable"
    policy := {} }

theorem ofDeclaration_callable_of_fetchTree :
    callableName fetchSource .function fetchTree ≠ "" ∧
    (∀ c ∈ (callableName fetchSource .function fetchTree).toList,
      DeclaredName.isDelimiter c = false) ∧
    (∀ param ∈ parameters fetchSource fetchTree,
      '(' ∉ param.1.toList ∧ ')' ∉ param.1.toList) ∧
    DeclaredName.read (callable fetchSource .function fetchTree).name =
      ⟨"fetch", ["id", "from", "_"]⟩ ∧
    ∃ method, ofDeclaration fetchContext (callable fetchSource .function fetchTree) = .ok method ∧
      List.Forall₂ (fun node param => param.IsDeclaredBy (node.text fetchSource))
        fetchTree.parameterNodes method.params := by
  have hne : callableName fetchSource .function fetchTree ≠ "" := by decide
  have hname : ∀ c ∈ (callableName fetchSource .function fetchTree).toList,
      DeclaredName.isDelimiter c = false := by
    have hnone : (callableName fetchSource .function fetchTree).toList.any
        DeclaredName.isDelimiter = false := by decide
    simpa using hnone
  have hlabels : ∀ param ∈ parameters fetchSource fetchTree,
      '(' ∉ param.1.toList ∧ ')' ∉ param.1.toList := by decide
  obtain ⟨hread, method, hmethod, _, hparams⟩ :=
    ofDeclaration_callable fetchContext hne hname hlabels
  exact ⟨hne, hname, hlabels, hread.trans (by decide), method, hmethod, hparams⟩

end Method

end Understudy
