import Understudy.Proofs.SyntaxTree.Nodes
import Understudy.Proofs.Text.Cut

/-!
# Well-formed trees

In a well-formed tree every node covers a stretch of the text, and its children follow one another
inside it. So the members of a type follow one another as well, also those in grouping nodes.
-/

namespace Understudy

open Text

namespace SyntaxTree

variable {source : List Char} {tree node child : SyntaxTree} {trees : List SyntaxTree}
  {declaration : Declaration}

/-- Every node covers a stretch of the text, in which its children follow one another. -/
structure IsWellFormed (source : List Char) (tree : SyntaxTree) : Prop where
  fits : tree.Fits source
  nested : ∀ node ∈ tree.nodes, ∀ child ∈ node.children,
    node.start ≤ child.start ∧ child.stop ≤ node.stop
  ordered : ∀ node ∈ tree.nodes, node.children.Pairwise fun left right => left.stop ≤ right.start

theorem isWellFormed_iff :
    tree.IsWellFormed source ↔ tree.Fits source ∧
      (∀ node ∈ tree.nodes, ∀ child ∈ node.children,
        node.start ≤ child.start ∧ child.stop ≤ node.stop) ∧
      ∀ node ∈ tree.nodes, node.children.Pairwise fun left right => left.stop ≤ right.start :=
  ⟨fun h => ⟨h.fits, h.nested, h.ordered⟩, fun ⟨hfits, hnested, hordered⟩ =>
    ⟨hfits, hnested, hordered⟩⟩

instance : Decidable (tree.IsWellFormed source) :=
  decidable_of_iff' _ isWellFormed_iff

namespace IsWellFormed

theorem of_mem (h : tree.IsWellFormed source) (hnode : node ∈ tree.nodes) :
    node.IsWellFormed source where
  fits := fun below hbelow => h.fits below (mem_nodes_trans tree hnode hbelow)
  nested := fun below hbelow => h.nested below (mem_nodes_trans tree hnode hbelow)
  ordered := fun below hbelow => h.ordered below (mem_nodes_trans tree hnode hbelow)

theorem of_mem_children (h : tree.IsWellFormed source) (hchild : child ∈ tree.children) :
    child.IsWellFormed source :=
  h.of_mem (mem_nodes_of_mem_children hchild mem_nodes_self)

theorem child_within (h : tree.IsWellFormed source) (hchild : child ∈ tree.children) :
    tree.start ≤ child.start ∧ child.stop ≤ tree.stop :=
  h.nested tree mem_nodes_self child hchild

theorem start_le_stop (h : tree.IsWellFormed source) : tree.start ≤ tree.stop := by
  obtain ⟨middle, hslice⟩ := Option.isSome_iff_exists.mp (h.fits tree mem_nodes_self)
  have hstop := stop_of_slice? hslice
  omega

theorem start_add_length (h : tree.IsWellFormed source) : tree.start + tree.length = tree.stop :=
  Nat.add_sub_cancel' h.start_le_stop

end IsWellFormed

mutual

/-- What is below a node lies inside it. -/
theorem within_of_mem_nodes (tree : SyntaxTree) (h : tree.IsWellFormed source)
    (hnode : node ∈ tree.nodes) : tree.start ≤ node.start ∧ node.stop ≤ tree.stop := by
  cases tree with
  | node kind named start stop field children =>
      obtain rfl | hbelow := List.mem_cons.mp hnode
      · exact ⟨Nat.le_refl _, Nat.le_refl _⟩
      · exact within_of_mem_nodesAmong children
          (fun child hchild => ⟨h.of_mem_children hchild, h.child_within hchild⟩) hbelow

theorem within_of_mem_nodesAmong (trees : List SyntaxTree) {low high : Nat}
    (h : ∀ tree ∈ trees, tree.IsWellFormed source ∧ low ≤ tree.start ∧ tree.stop ≤ high)
    (hnode : node ∈ nodesAmong trees) : low ≤ node.start ∧ node.stop ≤ high := by
  cases trees with
  | nil => cases hnode
  | cons tree rest =>
      obtain ⟨⟨hwell, hlow, hhigh⟩, hrest⟩ := List.forall_mem_cons.mp h
      obtain hfirst | hlater := List.mem_append.mp hnode
      · have hwithin := within_of_mem_nodes tree hwell hfirst
        omega
      · exact within_of_mem_nodesAmong rest hrest hlater

end

end SyntaxTree

/-- Callables and properties. -/
def DeclarationKind.isMember : DeclarationKind → Bool
  | .function | .initializer | .subscript | .property => true
  | _ => false

namespace Declaration

/-- The declarations lie between two positions, each after those before it in the list. -/
structure InOrder (low high : Nat) (declarations : List Declaration) : Prop where
  between : ∀ declaration ∈ declarations, low ≤ declaration.offset ∧ declaration.stop ≤ high
  ordered : declarations.Pairwise fun left right => left.stop ≤ right.offset

namespace InOrder

variable {low middle high : Nat} {declaration : Declaration} {left right : List Declaration}

theorem nil : InOrder low high [] :=
  ⟨by simp, .nil⟩

theorem singleton (hlow : low ≤ declaration.offset) (hhigh : declaration.stop ≤ high) :
    InOrder low high [declaration] :=
  ⟨List.forall_mem_singleton.mpr ⟨hlow, hhigh⟩, List.pairwise_singleton _ _⟩

theorem append (hlow : low ≤ middle) (hhigh : middle ≤ high) (hleft : InOrder low middle left)
    (hright : InOrder middle high right) : InOrder low high (left ++ right) := by
  constructor
  · intro declaration hmem
    obtain hmem | hmem := List.mem_append.mp hmem
    · have hbetween := hleft.between declaration hmem
      omega
    · have hbetween := hright.between declaration hmem
      omega
  · refine List.pairwise_append.mpr ⟨hleft.ordered, hright.ordered, ?_⟩
    intro first hfirst second hsecond
    exact Nat.le_trans (hleft.between first hfirst).2 (hright.between second hsecond).1

theorem widen {lower higher : Nat} (h : InOrder low high left) (hlow : lower ≤ low)
    (hhigh : high ≤ higher) : InOrder lower higher left := by
  refine ⟨?_, h.ordered⟩
  intro declaration hmem
  have hbetween := h.between declaration hmem
  omega

end InOrder

end Declaration

namespace SyntaxTree

variable {source : List Char} {tree node : SyntaxTree} {declaration : Declaration}

theorem stop_of_member? (h : tree.IsWellFormed source)
    (hmember : tree.member? source = some declaration) : declaration.stop = tree.stop := by
  obtain ⟨_, hoffset, hlength⟩ := range_of_member? hmember
  rw [Declaration.stop, hoffset, hlength, h.start_add_length]

mutual

theorem membersAt_inOrder (tree : SyntaxTree) (h : tree.IsWellFormed source) :
    Declaration.InOrder tree.start tree.stop (membersAt source tree) := by
  cases tree with
  | node kind named start stop field children =>
      simp only [membersAt]
      split
      · next declaration hmember =>
        apply Declaration.InOrder.singleton
        · exact Nat.le_of_eq (range_of_member? hmember).2.1.symm
        · exact Nat.le_of_eq (stop_of_member? h hmember)
      · split
        · exact membersAmong_inOrder children
            (fun child hchild => ⟨h.of_mem_children hchild, h.child_within hchild⟩)
            (h.ordered _ mem_nodes_self)
        · exact .nil

theorem membersAmong_inOrder (trees : List SyntaxTree) {low high : Nat}
    (h : ∀ tree ∈ trees, tree.IsWellFormed source ∧ low ≤ tree.start ∧ tree.stop ≤ high)
    (hordered : trees.Pairwise fun left right => left.stop ≤ right.start) :
    Declaration.InOrder low high (membersAmong source trees) := by
  cases trees with
  | nil => exact .nil
  | cons tree rest =>
      obtain ⟨⟨hwell, hlow, hhigh⟩, hrest⟩ := List.forall_mem_cons.mp h
      obtain ⟨hafter, hlater⟩ := List.pairwise_cons.mp hordered
      have hspan := hwell.start_le_stop
      -- the first tree ends before the others begin, so they lie from its end on
      have hothers : Declaration.InOrder tree.stop high (membersAmong source rest) := by
        refine membersAmong_inOrder rest ?_ hlater
        intro other hother
        exact ⟨(hrest other hother).1, hafter other hother, (hrest other hother).2.2⟩
      have hfirst : Declaration.InOrder low tree.stop
          (if tree.isNamed then membersAt source tree else []) := by
        split
        · exact (membersAt_inOrder tree hwell).widen hlow (Nat.le_refl _)
        · exact .nil
      exact hfirst.append (Nat.le_trans hlow hspan) hhigh hothers

end

/-- The members of a type follow one another inside its body. -/
theorem typeDeclaration_inOrder (h : tree.IsWellFormed source) (kind : DeclarationKind) :
    Declaration.InOrder tree.start tree.stop (typeDeclaration source kind tree).children := by
  simp only [typeDeclaration]
  cases hbody : tree.typeBody? with
  | none => exact .nil
  | some body =>
      have hchild := mem_children_of_typeBody? hbody
      have hwell := h.of_mem_children hchild
      obtain ⟨hlow, hhigh⟩ := h.child_within hchild
      have hmembers := membersAmong_inOrder body.children
        (fun child hbelow => ⟨hwell.of_mem_children hbelow, hwell.child_within hbelow⟩)
        (hwell.ordered body mem_nodes_self)
      exact hmembers.widen hlow hhigh

end SyntaxTree

end Understudy
