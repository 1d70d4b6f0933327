import Mathlib.Data.List.Flatten
import Understudy.Proofs.Generation.Origin

/-!
# The types that a file declares

The walk through a whole tree builds the entities of the types that lie in no other type and in no
import, in the order of the text. The index looks at the top of the tree only, so it builds some of
them in the same order, and all of them unless a type is hidden below other syntax
(`SyntaxTree.collect_eq_outerTypes`).
-/

namespace Understudy

open scoped List

variable {context : SourceContext}

namespace Entity

theorem allOf_append (left right : List Declaration) :
    allOf context (left ++ right) =
      (allOf context left).bind fun first => (allOf context right).map (first ++ ·) := by
  rw [allOf, List.mapM_append]
  rfl

theorem allOf_cons_eq_ok {declaration : Declaration} {rest : List Declaration}
    {entities : List Entity} (h : allOf context (declaration :: rest) = .ok entities) :
    ∃ first later, ofDeclaration context declaration = .ok first ∧
      allOf context rest = .ok later ∧ entities = first :: later := by
  rw [allOf, List.mapM_cons] at h
  obtain ⟨first, hfirst, h⟩ := exists_of_bind_eq_ok h
  obtain ⟨later, hlater, h⟩ := exists_of_bind_eq_ok h
  cases h
  exact ⟨first, later, hfirst, hlater, rfl⟩

/-- If all are built then so are some of them, in their order. -/
theorem exists_allOf_of_sublist {some all : List Declaration} (hsublist : some <+ all)
    {entities : List Entity} (h : allOf context all = .ok entities) :
    ∃ found, allOf context some = .ok found ∧ found <+ entities := by
  induction hsublist generalizing entities with
  | slnil =>
      cases h
      exact ⟨[], rfl, .slnil⟩
  | cons declaration _ ih =>
      obtain ⟨first, later, _, hlater, rfl⟩ := allOf_cons_eq_ok h
      obtain ⟨found, hfound, hkept⟩ := ih hlater
      exact ⟨found, hfound, hkept.cons first⟩
  | cons_cons declaration _ ih =>
      obtain ⟨first, later, hfirst, hlater, rfl⟩ := allOf_cons_eq_ok h
      obtain ⟨found, hfound, hkept⟩ := ih hlater
      refine ⟨first :: found, ?_, hkept.cons_cons first⟩
      rw [allOf] at hfound
      rw [allOf, List.mapM_cons, hfirst, hfound]
      rfl

end Entity

namespace SyntaxTree

variable {source : List Char} {tree node : SyntaxTree} {above : List SyntaxTree}
  {enters : SyntaxTree → Bool}

/-- A node with the nodes that it lies in, the innermost first. -/
structure Place where
  above : List SyntaxTree
  node : SyntaxTree

mutual

/-- The places of a tree in preorder, where only some nodes are entered below it. -/
def placesFrom (enters : SyntaxTree → Bool) (above : List SyntaxTree) : SyntaxTree → List Place
  | .node kind named start stop field children =>
      let tree := SyntaxTree.node kind named start stop field children
      ⟨above, tree⟩ :: placesAmong enters (tree :: above) children

def placesAmong (enters : SyntaxTree → Bool) (above : List SyntaxTree) :
    List SyntaxTree → List Place
  | [] => []
  | tree :: rest =>
      (if enters tree then placesFrom enters above tree else []) ++ placesAmong enters above rest

end

/-- All places of a tree. -/
def places (tree : SyntaxTree) : List Place :=
  placesFrom (fun _ => true) [] tree

/-- The places that are reached through named nodes, as a parser's users see a tree. -/
def namedPlaces (tree : SyntaxTree) : List Place :=
  placesFrom isNamed [] tree

/-- Neither the syntax of a type nor an import. -/
def isOpen (tree : SyntaxTree) : Bool :=
  !tree.isTypeSyntax && !tree.isImport

def Place.isOuter (place : Place) : Bool :=
  place.above.all isOpen

def typeDeclaration? (source : List Char) (tree : SyntaxTree) : Option Declaration :=
  (tree.typeKind? source).map fun kind => typeDeclaration source kind tree

/-- The types declared at places that lie in no other type and in no import. -/
def outerTypes (source : List Char) (places : List Place) : List Declaration :=
  (places.filter Place.isOuter).filterMap fun place => place.node.typeDeclaration? source

theorem outerTypes_append (left right : List Place) :
    outerTypes source (left ++ right) = outerTypes source left ++ outerTypes source right := by
  rw [outerTypes, List.filter_append, List.filterMap_append, outerTypes, outerTypes]

theorem typeDeclaration?_eq_none (h : tree.isTypeSyntax = false) :
    tree.typeDeclaration? source = none := by
  simp only [isTypeSyntax, Bool.or_eq_false_iff] at h
  simp [typeDeclaration?, typeKind?, h]

mutual

theorem not_isOuter_of_mem_placesFrom (tree : SyntaxTree) {above : List SyntaxTree}
    (hclosed : above.all isOpen = false) :
    ∀ place ∈ placesFrom enters above tree, place.isOuter = false := by
  cases tree with
  | node kind named start stop field children =>
      refine List.forall_mem_cons.mpr ⟨hclosed, ?_⟩
      apply not_isOuter_of_mem_placesAmong children
      rw [List.all_cons, hclosed, Bool.and_false]

theorem not_isOuter_of_mem_placesAmong (trees : List SyntaxTree) {above : List SyntaxTree}
    (hclosed : above.all isOpen = false) :
    ∀ place ∈ placesAmong enters above trees, place.isOuter = false := by
  cases trees with
  | nil => simp [placesAmong]
  | cons tree rest =>
      rw [placesAmong]
      refine List.forall_mem_append.mpr ⟨?_, not_isOuter_of_mem_placesAmong rest hclosed⟩
      split
      · exact not_isOuter_of_mem_placesFrom tree hclosed
      · simp

end

theorem outerTypes_placesAmong_of_closed (trees : List SyntaxTree)
    (hclosed : above.all isOpen = false) :
    outerTypes source (placesAmong enters above trees) = [] := by
  have hnone : (placesAmong enters above trees).filter Place.isOuter = [] := by
    apply List.filter_eq_nil_iff.mpr
    intro place hplace
    rw [not_isOuter_of_mem_placesAmong trees hclosed place hplace]
    exact Bool.false_ne_true
  rw [outerTypes, hnone, List.filterMap_nil]

/-- Below an open node the types are those of its children; any other node has itself alone. -/
theorem outerTypes_placesFrom (tree : SyntaxTree) (hopen : above.all isOpen = true) :
    outerTypes source (placesFrom enters above tree) =
      if tree.isOpen then outerTypes source (placesAmong enters (tree :: above) tree.children)
      else (tree.typeDeclaration? source).toList := by
  cases tree with
  | node kind named start stop field children =>
      have hself (rest : List Place) :
          outerTypes source (⟨above, node kind named start stop field children⟩ :: rest) =
            ((node kind named start stop field children).typeDeclaration? source).toList ++
              outerTypes source rest := by
        have hplace :
            Place.isOuter ⟨above, node kind named start stop field children⟩ = true := hopen
        rw [outerTypes, List.filter_cons_of_pos hplace, List.filterMap_cons]
        cases (node kind named start stop field children).typeDeclaration? source <;> rfl
      rw [placesFrom, hself]
      by_cases hnode : (node kind named start stop field children).isOpen = true
      · have htype := (Bool.and_eq_true_iff.mp hnode).1
        rw [if_pos hnode, typeDeclaration?_eq_none (by simpa using htype)]
        rfl
      · rw [if_neg hnode, outerTypes_placesAmong_of_closed, List.append_nil]
        rw [List.all_cons, Bool.eq_false_iff.mpr hnode, Bool.false_and]

theorem outerTypes_placesAmong (trees : List SyntaxTree) :
    outerTypes source (placesAmong enters above trees) =
      (trees.filter enters).flatMap fun tree =>
        outerTypes source (placesFrom enters above tree) := by
  induction trees with
  | nil => rfl
  | cons tree rest ih =>
      rw [placesAmong, outerTypes_append, ih, List.filter_cons]
      split
      · rw [List.flatMap_cons]
      · rfl

/-! ### The walk through a whole tree -/

theorem entities_collectType (tree : SyntaxTree) :
    (tree.collectType context).map FileDeclarations.entities =
      Entity.allOf context (tree.typeDeclaration? context.source.toList).toList := by
  rw [collectType, typeDeclaration?]
  cases tree.typeKind? context.source.toList with
  | none => rfl
  | some kind =>
      simp only [Option.map_some, Option.toList_some, Entity.allOf, List.mapM_cons, List.mapM_nil]
      cases Entity.ofDeclaration context (typeDeclaration context.source.toList kind tree) <;> rfl

theorem isTypeSyntax_eq_false (h : tree.isImport = true) : tree.isTypeSyntax = false := by
  have hkind : tree.kind = "import_declaration" := by simpa [isImport] using h
  rw [isTypeSyntax, hkind]
  decide

mutual

theorem entities_collect (tree : SyntaxTree) {above : List SyntaxTree}
    (hopen : above.all isOpen = true) :
    (tree.collect context).map FileDeclarations.entities =
      Entity.allOf context
        (outerTypes context.source.toList (placesFrom isNamed above tree)) := by
  rw [outerTypes_placesFrom tree hopen]
  cases tree with
  | node kind named start stop field children =>
      rw [collect]
      by_cases himport : (node kind named start stop field children).isImport = true
      · have htype := isTypeSyntax_eq_false himport
        rw [if_pos himport, isOpen, himport, typeDeclaration?_eq_none htype]
        simp only [Bool.not_true, Bool.and_false, Bool.false_eq_true, if_false]
        rfl
      · rw [if_neg himport]
        by_cases htype : (node kind named start stop field children).isTypeSyntax = true
        · rw [if_pos htype, isOpen, htype, entities_collectType]
          rfl
        · have hnode : (node kind named start stop field children).isOpen = true := by
            rw [isOpen, Bool.eq_false_iff.mpr htype, Bool.eq_false_iff.mpr himport]
            rfl
          rw [if_neg htype, if_pos hnode]
          apply entities_collectAmong children
          rw [List.all_cons, hnode, hopen, Bool.and_true]

theorem entities_collectAmong (trees : List SyntaxTree) {above : List SyntaxTree}
    (hopen : above.all isOpen = true) :
    (collectAmong context trees).map FileDeclarations.entities =
      Entity.allOf context
        (outerTypes context.source.toList (placesAmong isNamed above trees)) := by
  cases trees with
  | nil => rfl
  | cons tree rest =>
      have hrest := entities_collectAmong rest hopen
      rw [collectAmong, placesAmong]
      split
      · rw [outerTypes_append, Entity.allOf_append, ← entities_collect tree hopen, ← hrest]
        -- the first failure is that of the first tree, if it has one
        cases tree.collect context with
        | error failure => rfl
        | ok first => cases collectAmong context rest <;> rfl
      · rw [hrest, List.nil_append]

end

theorem filter_isType_declaration? (source : List Char) (tree : SyntaxTree) :
    (tree.declaration? source).filter (fun declaration => declaration.kind.isType) =
      tree.typeDeclaration? source := by
  rw [declaration?]
  by_cases htype : tree.isTypeSyntax = true
  · rw [if_pos htype, ← typeDeclaration?]
    cases hdeclaration : tree.typeDeclaration? source with
    | none => rfl
    | some declaration =>
        obtain ⟨kind, hkind, rfl⟩ := Option.map_eq_some_iff.mp hdeclaration
        exact Option.filter_some_pos (isType_of_typeKind? hkind)
  · rw [if_neg htype, typeDeclaration?_eq_none (Bool.eq_false_iff.mpr htype)]
    apply Option.filter_eq_none_iff.mpr
    intro declaration hdeclaration
    split_ifs at hdeclaration
    · cases hdeclaration
      exact Bool.false_ne_true
    · exact (range_of_member? hdeclaration).1

theorem filter_isType_topLevel (source : List Char) (tree : SyntaxTree) :
    (topLevel source tree).filter (fun declaration => declaration.kind.isType) =
      tree.namedChildren.flatMap fun child => (child.typeDeclaration? source).toList := by
  rw [topLevel, List.filter_filterMap]
  simp only [filter_isType_declaration?]
  exact List.filterMap_eq_flatMap_toList _ _

theorem outerTypes_namedPlaces (hopen : tree.isOpen = true) :
    outerTypes source tree.namedPlaces =
      tree.namedChildren.flatMap fun child =>
        outerTypes source (placesFrom isNamed [tree] child) := by
  rw [namedPlaces, outerTypes_placesFrom tree rfl, if_pos hopen, outerTypes_placesAmong]
  rfl

/-- What the index finds is found by the walk too. -/
theorem filter_isType_topLevel_sublist (hopen : tree.isOpen = true) :
    (topLevel source tree).filter (fun declaration => declaration.kind.isType) <+
      outerTypes source tree.namedPlaces := by
  have habove : [tree].all isOpen = true := by rw [List.all_cons, hopen]; rfl
  rw [filter_isType_topLevel, outerTypes_namedPlaces hopen]
  apply List.Sublist.flatMap_right
  intro child _
  rw [outerTypes_placesFrom child habove]
  by_cases hchild : child.isOpen = true
  · have htype := (Bool.and_eq_true_iff.mp hchild).1
    rw [typeDeclaration?_eq_none (by simpa using htype)]
    exact List.nil_sublist _
  · rw [if_neg hchild]

mutual

theorem node_mem_nodes_of_mem_placesFrom (tree : SyntaxTree) {above : List SyntaxTree} :
    ∀ place ∈ placesFrom enters above tree, place.node ∈ tree.nodes := by
  cases tree with
  | node kind named start stop field children =>
      refine List.forall_mem_cons.mpr ⟨mem_nodes_self, ?_⟩
      intro place hplace
      exact List.mem_cons_of_mem _ (node_mem_nodesAmong_of_mem_placesAmong children place hplace)

theorem node_mem_nodesAmong_of_mem_placesAmong (trees : List SyntaxTree)
    {above : List SyntaxTree} :
    ∀ place ∈ placesAmong enters above trees, place.node ∈ nodesAmong trees := by
  cases trees with
  | nil => simp [placesAmong]
  | cons tree rest =>
      rw [placesAmong]
      refine List.forall_mem_append.mpr ⟨?_, ?_⟩
      · split
        · intro place hplace
          exact List.mem_append_left _ (node_mem_nodes_of_mem_placesFrom tree place hplace)
        · simp
      · intro place hplace
        exact List.mem_append_right _ (node_mem_nodesAmong_of_mem_placesAmong rest place hplace)

end

/-- No type is declared below a child that is neither a type nor an import. -/
def ShowsTypes (source : List Char) (tree : SyntaxTree) : Prop :=
  ∀ child ∈ tree.namedChildren, child.isOpen = true →
    ∀ node ∈ child.nodes, node.typeKind? source = none

theorem filter_isType_topLevel_eq (hopen : tree.isOpen = true) (hshows : tree.ShowsTypes source) :
    (topLevel source tree).filter (fun declaration => declaration.kind.isType) =
      outerTypes source tree.namedPlaces := by
  have habove : [tree].all isOpen = true := by rw [List.all_cons, hopen]; rfl
  rw [filter_isType_topLevel, outerTypes_namedPlaces hopen]
  apply List.flatMap_congr
  intro child hmem
  by_cases hchild : child.isOpen = true
  · have hnone : ∀ node ∈ child.nodes, node.typeDeclaration? source = none := by
      intro node hnode
      rw [typeDeclaration?, hshows child hmem hchild node hnode, Option.map_none]
    have hempty : outerTypes source (placesFrom isNamed [tree] child) = [] := by
      apply List.filterMap_eq_nil_iff.mpr
      intro place hplace
      exact hnone place.node
        (node_mem_nodes_of_mem_placesFrom child place (List.mem_of_mem_filter hplace))
    rw [hempty, hnone child mem_nodes_self, Option.toList_none]
  · rw [outerTypes_placesFrom child habove, if_neg hchild]

/-- Nodes without a name are tokens: they have nothing below them and declare no type. -/
def HasTokens (tree : SyntaxTree) : Prop :=
  ∀ node ∈ tree.nodes, node.isNamed = false → node.children = [] ∧ node.isTypeSyntax = false

theorem outerTypes_token (enters : SyntaxTree → Bool) (hchildren : tree.children = [])
    (htype : tree.isTypeSyntax = false) :
    outerTypes source (placesFrom enters above tree) = [] := by
  cases tree with
  | node kind named start stop field children =>
      cases hchildren
      apply List.filterMap_eq_nil_iff.mpr
      intro place hplace
      obtain rfl := List.mem_singleton.mp (List.mem_of_mem_filter hplace)
      exact typeDeclaration?_eq_none htype

mutual

theorem outerTypes_placesFrom_named (tree : SyntaxTree) {above : List SyntaxTree}
    (h : tree.HasTokens) :
    outerTypes source (placesFrom isNamed above tree) =
      outerTypes source (placesFrom (fun _ => true) above tree) := by
  cases tree with
  | node kind named start stop field children =>
      have hchildren : ∀ below ∈ nodesAmong children, below.isNamed = false →
          below.children = [] ∧ below.isTypeSyntax = false :=
        fun below hmem => h below (List.mem_cons_of_mem _ hmem)
      have hself (rest : List Place) :
          outerTypes source (⟨above, node kind named start stop field children⟩ :: rest) =
            outerTypes source [⟨above, node kind named start stop field children⟩] ++
              outerTypes source rest :=
        outerTypes_append [_] rest
      rw [placesFrom, placesFrom, hself (placesAmong isNamed _ _),
        outerTypes_placesAmong_named children hchildren, hself (placesAmong (fun _ => true) _ _)]

theorem outerTypes_placesAmong_named (trees : List SyntaxTree) {above : List SyntaxTree}
    (h : ∀ node ∈ nodesAmong trees, node.isNamed = false →
      node.children = [] ∧ node.isTypeSyntax = false) :
    outerTypes source (placesAmong isNamed above trees) =
      outerTypes source (placesAmong (fun _ => true) above trees) := by
  cases trees with
  | nil => rfl
  | cons tree rest =>
      have hlater : ∀ node ∈ nodesAmong rest, node.isNamed = false →
          node.children = [] ∧ node.isTypeSyntax = false :=
        fun node hnode => h node (List.mem_append_right _ hnode)
      rw [placesAmong, placesAmong, outerTypes_append, outerTypes_append,
        outerTypes_placesAmong_named rest hlater, if_pos rfl]
      by_cases hnamed : tree.isNamed = true
      · rw [if_pos hnamed, outerTypes_placesFrom_named tree
          (fun node hnode => h node (List.mem_append_left _ hnode))]
      · obtain ⟨hchildren, htype⟩ := h tree (List.mem_append_left _ mem_nodes_self)
          (Bool.eq_false_iff.mpr hnamed)
        rw [if_neg hnamed, outerTypes_token _ hchildren htype]
        rfl

end

/-! ### Both readings -/

/-- **What the two readings of a file build.** The walk builds the types that lie in no other type
and in no import, in the order of the text and up to the first that fails; where unnamed nodes are
mere tokens it does not matter that it enters named nodes only. If it succeeds then the index
succeeds too, with some of these entities in the same order, and with all of them if no type is
declared below other syntax. -/
theorem collect_eq_outerTypes (htype : tree.isTypeSyntax = false)
    (himport : tree.isImport = false) :
    (tree.collect context).map FileDeclarations.entities =
      Entity.allOf context (outerTypes context.source.toList tree.namedPlaces) ∧
    (tree.HasTokens → outerTypes context.source.toList tree.namedPlaces =
      outerTypes context.source.toList tree.places) ∧
    ∀ found, tree.collect context = .ok found →
      ∃ entities, Entity.allOf context ((topLevel context.source.toList tree).filter
          fun declaration => declaration.kind.isType) = .ok entities ∧
        entities <+ found.entities ∧
        (tree.ShowsTypes context.source.toList → entities = found.entities) := by
  have hopen : tree.isOpen = true := by
    rw [isOpen, htype, himport]
    rfl
  have hwalk : (tree.collect context).map FileDeclarations.entities =
      Entity.allOf context (outerTypes context.source.toList tree.namedPlaces) :=
    entities_collect tree rfl
  refine ⟨hwalk, fun htokens => outerTypes_placesFrom_named tree htokens, ?_⟩
  intro found hfound
  rw [hfound] at hwalk
  obtain ⟨entities, hentities, hsublist⟩ :=
    Entity.exists_allOf_of_sublist (filter_isType_topLevel_sublist hopen) hwalk.symm
  refine ⟨entities, hentities, hsublist, ?_⟩
  intro hshows
  rw [filter_isType_topLevel_eq hopen hshows, ← hwalk] at hentities
  exact (Except.ok.inj hentities).symm

def nestedSource : String :=
  "func f() \x7b class B \x7b\x7d \x7d\nstruct S \x7b class A \x7b\x7d \x7d\nclass C \x7b\x7d"

def classNode (start stop : Nat) (keyword : Nat) (name : Nat) (body : SyntaxTree) : SyntaxTree :=
  .node "class_declaration" true start stop none
    [.node "keyword" false start keyword (some "declaration_kind") [],
      .node "type_identifier" true name (name + 1) (some "name") [], body]

def emptyBody (start stop : Nat) : SyntaxTree :=
  .node "class_body" true start stop (some "body") []

/-- One class in a function, one in a structure and one at the top. -/
def nestedTree : SyntaxTree :=
  .node "source_file" true 0 58 none
    [.node "function_declaration" true 0 23 none [classNode 11 21 16 17 (emptyBody 19 21)],
      classNode 24 47 30 31
        (.node "class_body" true 33 47 (some "body") [classNode 35 45 40 41 (emptyBody 43 45)]),
      classNode 48 58 53 54 (emptyBody 56 58)]

def nestedContext : SourceContext :=
  { path := ⟨"Nested.swift"⟩
    source := nestedSource
    processed := false
    marker := "@mockable"
    policy := {} }

/-- The walk finds the class in the function, which the index does not; neither finds the one in
the structure. -/
theorem collect_eq_outerTypes_of_nestedTree :
    nestedTree.isTypeSyntax = false ∧ nestedTree.isImport = false ∧
    ∃ found entities, nestedTree.collect nestedContext = .ok found ∧
      Entity.allOf nestedContext ((topLevel nestedSource.toList nestedTree).filter
        fun declaration => declaration.kind.isType) = .ok entities ∧
      entities <+ found.entities ∧
      found.entities.map Entity.name = ["B", "C"] ∧ entities.map Entity.name = ["C"] := by
  have htype : nestedTree.isTypeSyntax = false := by decide
  have himport : nestedTree.isImport = false := by decide
  have hwalk : ((nestedTree.collect nestedContext).map fun found =>
      found.entities.map Entity.name).toOption = some ["B", "C"] := by decide +kernel
  have hindex : ((Entity.allOf nestedContext ((topLevel nestedSource.toList nestedTree).filter
      fun declaration => declaration.kind.isType)).map fun entities =>
        entities.map Entity.name).toOption = some ["C"] := by decide +kernel
  obtain ⟨found, hfound, hnames⟩ := exists_of_map_eq_ok (eq_ok_of_toOption hwalk)
  obtain ⟨entities, hentities, hsublist, _⟩ :=
    (collect_eq_outerTypes htype himport).2.2 found hfound
  refine ⟨htype, himport, found, entities, hfound, hentities, hsublist, hnames, ?_⟩
  have hindexed := eq_ok_of_toOption hindex
  rw [show nestedContext.source = nestedSource from rfl] at hentities
  rw [hentities] at hindexed
  exact Except.ok.inj hindexed

end SyntaxTree

end Understudy
