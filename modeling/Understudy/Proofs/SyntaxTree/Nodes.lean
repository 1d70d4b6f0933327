import Mathlib.Data.List.Basic
import Understudy.Proofs.Text.Utf8
import Understudy.SyntaxTree.Declaration

/-!
# The nodes that declarations come from

Every member that is read from a type lies at a node of its own in the tree: the declaration has
the range of that node, in bytes of the text (`SyntaxTree.exists_node_of_mem_children`).
-/

namespace Understudy.SyntaxTree

open Text

variable {source : List Char} {tree node : SyntaxTree} {trees : List SyntaxTree}
  {declaration : Declaration}

mutual

/-- A tree and all that is below it, in preorder. -/
def nodes : SyntaxTree → List SyntaxTree
  | .node kind named start stop field children =>
      .node kind named start stop field children :: nodesAmong children

def nodesAmong : List SyntaxTree → List SyntaxTree
  | [] => []
  | tree :: rest => nodes tree ++ nodesAmong rest

end

theorem mem_nodes_self : tree ∈ tree.nodes := by
  cases tree
  exact List.mem_cons_self

theorem mem_nodesAmong_iff : node ∈ nodesAmong trees ↔ ∃ tree ∈ trees, node ∈ tree.nodes := by
  induction trees with
  | nil => simp [nodesAmong]
  | cons tree rest ih => simp [nodesAmong, ih]

theorem mem_nodes_of_mem_children {child : SyntaxTree} (hchild : child ∈ tree.children)
    (hnode : node ∈ child.nodes) : node ∈ tree.nodes := by
  cases tree
  exact List.mem_cons_of_mem _ (mem_nodesAmong_iff.mpr ⟨child, hchild, hnode⟩)

mutual

theorem mem_nodes_trans (root : SyntaxTree) (htree : tree ∈ root.nodes)
    (hnode : node ∈ tree.nodes) : node ∈ root.nodes := by
  cases root with
  | node kind named start stop field children =>
      obtain rfl | hbelow := List.mem_cons.mp htree
      · exact hnode
      · exact List.mem_cons_of_mem _ (mem_nodesAmong_trans children hbelow hnode)

theorem mem_nodesAmong_trans (roots : List SyntaxTree) (htree : tree ∈ nodesAmong roots)
    (hnode : node ∈ tree.nodes) : node ∈ nodesAmong roots := by
  cases roots with
  | nil => cases htree
  | cons root rest =>
      obtain hfirst | hrest := List.mem_append.mp htree
      · exact List.mem_append_left _ (mem_nodes_trans root hfirst hnode)
      · exact List.mem_append_right _ (mem_nodesAmong_trans rest hrest hnode)

end

/-- Every node covers a stretch of the text, from one character's beginning to that of another. -/
def Fits (source : List Char) (tree : SyntaxTree) : Prop :=
  ∀ node ∈ tree.nodes, (slice? source node.start node.stop).isSome

instance : Decidable (tree.Fits source) :=
  inferInstanceAs (Decidable (∀ node ∈ tree.nodes, (slice? source node.start node.stop).isSome))

/-- In bytes, the text of a node lies where the node does. -/
theorem encode_text (h : (slice? source tree.start tree.stop).isSome) :
    Utf8.encode (tree.text source) =
      ((Utf8.encode source).drop tree.start).take tree.length := by
  obtain ⟨middle, hslice⟩ := Option.isSome_iff_exists.mp h
  rw [text, hslice]
  exact Utf8.encode_slice hslice

theorem range_of_property? (h : tree.property? source = some declaration) :
    declaration.kind = .property ∧ declaration.offset = tree.start ∧
      declaration.length = tree.length := by
  unfold property? at h
  obtain ⟨text, _, h⟩ := Option.bind_eq_some_iff.mp h
  obtain ⟨⟨before, keyword, after⟩, _, h⟩ := Option.bind_eq_some_iff.mp h
  dsimp only at h
  split_ifs at h
  · cases h
  · cases h
    exact ⟨rfl, rfl, rfl⟩

theorem isType_of_callableKind? {kind : DeclarationKind} (h : tree.callableKind? = some kind) :
    ¬kind.isType := by
  unfold callableKind? at h
  split_ifs at h
  all_goals
    cases h
    simp [DeclarationKind.isType]

theorem isType_of_typeKind? {kind : DeclarationKind} (h : tree.typeKind? source = some kind) :
    kind.isType := by
  unfold typeKind? at h
  split_ifs at h
  · cases h
    rfl
  · split at h
    · cases h
      rfl
    · cases h
      rfl
    · cases h
      rfl
    · cases h

theorem range_of_member? (h : tree.member? source = some declaration) :
    ¬declaration.kind.isType ∧ declaration.offset = tree.start ∧
      declaration.length = tree.length := by
  unfold member? at h
  split at h
  · next kind hkind =>
    cases h
    exact ⟨isType_of_callableKind? hkind, rfl, rfl⟩
  · split_ifs at h
    obtain ⟨hkind, hrange⟩ := range_of_property? h
    exact ⟨by simp [hkind, DeclarationKind.isType], hrange⟩

mutual

theorem exists_node_of_mem_membersAt (tree : SyntaxTree)
    (h : declaration ∈ membersAt source tree) :
    ∃ node ∈ tree.nodes, node.member? source = some declaration := by
  cases tree with
  | node kind named start stop field children =>
      simp only [membersAt] at h
      split at h
      · next found hfound =>
        obtain rfl := List.mem_singleton.mp h
        exact ⟨_, mem_nodes_self, hfound⟩
      · split_ifs at h
        · obtain ⟨node, hnode, hmember⟩ := exists_node_of_mem_membersAmong children h
          exact ⟨node, List.mem_cons_of_mem _ hnode, hmember⟩
        · cases h

theorem exists_node_of_mem_membersAmong (trees : List SyntaxTree)
    (h : declaration ∈ membersAmong source trees) :
    ∃ node ∈ nodesAmong trees, node.member? source = some declaration := by
  cases trees with
  | nil => cases h
  | cons tree rest =>
      simp only [membersAmong] at h
      obtain hfirst | hrest := List.mem_append.mp h
      · split_ifs at hfirst
        · obtain ⟨node, hnode, hmember⟩ := exists_node_of_mem_membersAt tree hfirst
          exact ⟨node, List.mem_append_left _ hnode, hmember⟩
        · cases hfirst
      · obtain ⟨node, hnode, hmember⟩ := exists_node_of_mem_membersAmong rest hrest
        exact ⟨node, List.mem_append_right _ hnode, hmember⟩

end

theorem mem_children_of_typeBody? {body : SyntaxTree} (h : tree.typeBody? = some body) :
    body ∈ tree.children := by
  obtain hfield | ⟨_, hkind⟩ := Option.or_eq_some_iff.mp h
  · exact List.mem_of_find?_eq_some hfield
  · exact List.mem_of_mem_filter (List.mem_of_find?_eq_some hkind)

/-- Every member read from a type has its node below that of the type. -/
theorem exists_node_of_mem_children {kind : DeclarationKind}
    (h : declaration ∈ (typeDeclaration source kind tree).children) :
    ∃ node ∈ tree.nodes, node.member? source = some declaration := by
  simp only [typeDeclaration] at h
  cases hbody : tree.typeBody? with
  | none =>
      rw [hbody] at h
      cases h
  | some body =>
      rw [hbody] at h
      obtain ⟨node, hnode, hmember⟩ := exists_node_of_mem_membersAmong body.children h
      refine ⟨node, mem_nodes_of_mem_children (mem_children_of_typeBody? hbody) ?_, hmember⟩
      cases body
      exact List.mem_cons_of_mem _ hnode

theorem exists_of_mem_topLevel (h : declaration ∈ topLevel source tree)
    (htype : declaration.kind.isType) :
    ∃ node ∈ tree.nodes, ∃ kind, declaration = typeDeclaration source kind node := by
  obtain ⟨child, hchild, hdeclaration⟩ := List.mem_filterMap.mp h
  have hnode : child ∈ tree.nodes :=
    mem_nodes_of_mem_children (List.mem_of_mem_filter hchild) mem_nodes_self
  unfold declaration? at hdeclaration
  split_ifs at hdeclaration
  · obtain ⟨kind, _, rfl⟩ := Option.map_eq_some_iff.mp hdeclaration
    exact ⟨child, hnode, kind, rfl⟩
  · cases hdeclaration
    cases htype
  · exact absurd htype (range_of_member? hdeclaration).1

end Understudy.SyntaxTree
