import Understudy.Generation
import Understudy.Proofs.Dispatch.Gather
import Understudy.Proofs.Failure.Results
import Understudy.Proofs.SyntaxTree.Nodes

/-!
# Where entities and imports come from

Whichever way a file is read, its entities are declared by nodes of its syntax tree, carry its path
and say whether it holds mocks, and its imports stand under its path alone.
-/

namespace Understudy

/-- An entity was declared in the file that a context describes. -/
def Entity.IsFrom (entity : Entity) (context : SourceContext) : Prop :=
  entity.path = context.path ∧ entity.isProcessed = context.processed

variable {context : SourceContext}

theorem Entity.isFrom_of_ofDeclaration {declaration : Declaration} {entity : Entity}
    (h : ofDeclaration context declaration = .ok entity) : entity.IsFrom context := by
  obtain ⟨members, _, rfl⟩ := exists_of_map_eq_ok h
  exact ⟨rfl, rfl⟩

theorem Entity.exists_of_allOf {declarations : List Declaration} {entities : List Entity}
    (h : allOf context declarations = .ok entities) :
    ∀ entity ∈ entities, ∃ declaration ∈ declarations,
      ofDeclaration context declaration = .ok entity := by
  induction declarations generalizing entities with
  | nil =>
      cases h
      simp
  | cons declaration rest ih =>
      rw [allOf, List.mapM_cons] at h
      obtain ⟨first, hfirst, h⟩ := exists_of_bind_eq_ok h
      obtain ⟨others, hothers, h⟩ := exists_of_bind_eq_ok h
      cases h
      refine List.forall_mem_cons.mpr ⟨⟨declaration, List.mem_cons_self, hfirst⟩, ?_⟩
      intro entity hentity
      obtain ⟨later, hlater, hbuilt⟩ := ih hothers entity hentity
      exact ⟨later, List.mem_cons_of_mem _ hlater, hbuilt⟩

namespace SyntaxTree

/-- The entity was built from the declaration of a type at some node of the tree. -/
def Declares (context : SourceContext) (tree : SyntaxTree) (entity : Entity) : Prop :=
  ∃ node ∈ tree.nodes, ∃ kind,
    Entity.ofDeclaration context (typeDeclaration context.source.toList kind node) = .ok entity

theorem Declares.isFrom {tree : SyntaxTree} {entity : Entity} (h : tree.Declares context entity) :
    entity.IsFrom context := by
  obtain ⟨_, _, _, hbuilt⟩ := h
  exact Entity.isFrom_of_ofDeclaration hbuilt

theorem Declares.of_mem_children {tree child : SyntaxTree} {entity : Entity}
    (hchild : child ∈ tree.children) (h : child.Declares context entity) :
    tree.Declares context entity := by
  obtain ⟨node, hnode, hbuilt⟩ := h
  exact ⟨node, mem_nodes_of_mem_children hchild hnode, hbuilt⟩

theorem declares_of_collectType {tree : SyntaxTree} {found : FileDeclarations}
    (h : tree.collectType context = .ok found) :
    ∀ entity ∈ found.entities, tree.Declares context entity := by
  simp only [collectType] at h
  split at h
  · next kind hkind =>
    obtain ⟨entity, hentity, rfl⟩ := exists_of_map_eq_ok h
    exact List.forall_mem_singleton.mpr ⟨tree, mem_nodes_self, kind, hentity⟩
  · cases h
    simp

mutual

theorem declares_of_collect (tree : SyntaxTree) {found : FileDeclarations}
    (h : tree.collect context = .ok found) :
    ∀ entity ∈ found.entities, tree.Declares context entity := by
  cases tree with
  | node kind named start stop field children =>
      simp only [collect] at h
      split at h
      · cases h
        simp
      · split at h
        · exact declares_of_collectType h
        · intro entity hentity
          obtain ⟨child, hchild, hdeclares⟩ := declares_of_collectAmong children h entity hentity
          exact hdeclares.of_mem_children hchild

theorem declares_of_collectAmong (trees : List SyntaxTree) {found : FileDeclarations}
    (h : collectAmong context trees = .ok found) :
    ∀ entity ∈ found.entities, ∃ tree ∈ trees, tree.Declares context entity := by
  cases trees with
  | nil =>
      cases h
      simp
  | cons tree rest =>
      have hlater : ∀ {found}, collectAmong context rest = .ok found →
          ∀ entity ∈ found.entities, ∃ other ∈ tree :: rest, other.Declares context entity := by
        intro found hfound entity hentity
        obtain ⟨other, hother, hdeclares⟩ := declares_of_collectAmong rest hfound entity hentity
        exact ⟨other, List.mem_cons_of_mem _ hother, hdeclares⟩
      simp only [collectAmong] at h
      split at h
      · split at h
        · cases h
        · next first hfirst =>
          obtain ⟨others, hothers, rfl⟩ := exists_of_map_eq_ok h
          refine List.forall_mem_append.mpr ⟨fun entity hentity => ?_, hlater hothers⟩
          exact ⟨tree, List.mem_cons_self, declares_of_collect tree hfirst entity hentity⟩
      · exact hlater h

end

theorem declares_of_topLevel {tree : SyntaxTree} {entities : List Entity}
    (h : Entity.allOf context
      ((tree.topLevel context.source.toList).filter fun declaration => declaration.kind.isType) =
        .ok entities) :
    ∀ entity ∈ entities, tree.Declares context entity := by
  intro entity hentity
  obtain ⟨declaration, hmem, hbuilt⟩ := Entity.exists_of_allOf h entity hentity
  obtain ⟨hdeclaration, htype⟩ := List.mem_filter.mp hmem
  obtain ⟨node, hnode, kind, rfl⟩ := exists_of_mem_topLevel hdeclaration htype
  exact ⟨node, hnode, kind, hbuilt⟩

end SyntaxTree

namespace GenerationSettings

variable {settings : GenerationSettings} {disk : Disk} {grammar : Grammar} {index : Index}
  {processed : Bool} {path : Path} {result : FileResult}

theorem of_treeFile (h : settings.treeFile disk grammar processed path = .ok result) :
    (∃ statements, result.imports = .ofList [(path, statements)]) ∧
      ∀ entity ∈ result.entities, entity.path = path ∧ entity.isProcessed = processed := by
  obtain ⟨source, _, h⟩ := exists_of_bind_eq_ok h
  obtain ⟨found, hfound, rfl⟩ := exists_of_map_eq_ok h
  refine ⟨⟨_, rfl⟩, fun entity hentity => ?_⟩
  exact (SyntaxTree.declares_of_collect _ hfound entity hentity).isFrom

theorem of_indexedFile (h : settings.indexedFile disk index path = .ok result) :
    (∃ statements, result.imports = .ofList [(path, statements)]) ∧
      ∀ entity ∈ result.entities, entity.path = path ∧ entity.isProcessed = true := by
  obtain ⟨source, _, h⟩ := exists_of_bind_eq_ok h
  unfold indexedResult at h
  split at h
  · cases h
  · obtain ⟨entities, hentities, rfl⟩ := exists_of_map_eq_ok h
    refine ⟨⟨_, rfl⟩, fun entity hentity => ?_⟩
    obtain ⟨_, _, hbuilt⟩ := Entity.exists_of_allOf hentities entity hentity
    exact Entity.isFrom_of_ofDeclaration hbuilt

/-- The entities read through a syntax tree are declared by it. -/
theorem declares_of_treeFile {source : String} (hsource : readSource disk path = .ok source)
    (h : settings.treeFile disk grammar processed path = .ok result) :
    ∀ entity ∈ result.entities,
      (grammar source).Declares (settings.context path source processed) entity := by
  rw [treeFile, hsource] at h
  obtain ⟨found, hfound, rfl⟩ := exists_of_map_eq_ok h
  exact SyntaxTree.declares_of_collect _ hfound

/-- The entities read through the index that a grammar makes are declared by the syntax tree. -/
theorem declares_of_indexedFile {source : String} (hsource : readSource disk path = .ok source)
    (h : settings.indexedFile disk grammar.index path = .ok result) :
    ∀ entity ∈ result.entities,
      (grammar source).Declares (settings.context path source true) entity := by
  rw [indexedFile, hsource] at h
  obtain ⟨entities, hentities, rfl⟩ := exists_of_map_eq_ok h
  exact SyntaxTree.declares_of_topLevel hentities

theorem ownsImports_treeFile : (settings.treeFile disk grammar processed).OwnsImports :=
  fun _ _ h => (of_treeFile h).1

theorem ownsImports_indexedFile : (settings.indexedFile disk index).OwnsImports :=
  fun _ _ h => (of_indexedFile h).1

end GenerationSettings

end Understudy
