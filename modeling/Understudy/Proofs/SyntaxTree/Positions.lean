import Understudy.Proofs.SyntaxTree.WellFormed

/-!
# Where declarations lie in a text

In a well-formed tree every declaration that is read, at any depth, lies where its node does and
inside the declaration that owns it. The ends of signatures and the beginnings of bodies are found
again by search in the text; they lie in this order inside the declaration, with a brace where the
body begins and, for a property, its name where the signature ends
(`SyntaxTree.isWellPlaced_of_atDepth`).
-/

namespace Understudy.SyntaxTree

open Text

variable {source : List Char} {tree node : SyntaxTree} {declaration : Declaration}

/-- A signature ends inside the declaration, and the body begins at a brace after it. -/
structure IsSigned (source : List Char) (declaration : Declaration) : Prop where
  offset_le : declaration.offset ≤ declaration.signatureEnd
  le_stop : declaration.signatureEnd ≤ declaration.stop
  body : ∀ position, declaration.bodyOffset = some position →
    declaration.signatureEnd ≤ position ∧ position < declaration.stop ∧
      slice? source position (position + 1) = some ['\x7b']

theorem slice?_brace {position start stop : Nat} {before after : List Char}
    (hslice : slice? source start stop = some (before ++ '\x7b' :: after))
    (hposition : position = start + byteLength before) :
    start ≤ position ∧ position < stop ∧ slice? source position (position + 1) = some ['\x7b'] := by
  have hstop := stop_of_slice? hslice
  have hbrace : byteLength ['\x7b'] = 1 := by decide
  rw [byteLength_append, ← List.singleton_append, byteLength_append, hbrace] at hstop
  refine ⟨by omega, by omega, ?_⟩
  rw [← List.singleton_append, ← List.append_assoc] at hslice
  have hpart := slice?_part hslice
  rwa [hbrace, ← hposition] at hpart

theorem of_bracePosition? {start stop position : Nat}
    (h : bracePosition? source start stop = some position) :
    start ≤ position ∧ position < stop ∧ slice? source position (position + 1) = some ['\x7b'] := by
  obtain ⟨rest, hslice, h⟩ := Option.bind_eq_some_iff.mp h
  obtain ⟨⟨before, after⟩, hcut, h⟩ := Option.bind_eq_some_iff.mp h
  cases h
  rw [eq_append_of_cutAt? hcut, List.append_assoc, List.singleton_append] at hslice
  exact slice?_brace hslice rfl

theorem parameterListEnd_within (h : tree.IsWellFormed source) :
    tree.start ≤ tree.parameterListEnd ∧ tree.parameterListEnd ≤ tree.stop := by
  have hspan := h.start_le_stop
  rw [parameterListEnd]
  split
  · next child hfound =>
    have hchild := List.mem_of_find?_eq_some hfound
    have hwithin := h.child_within hchild
    have hchildSpan := (h.of_mem_children hchild).start_le_stop
    omega
  · exact ⟨Nat.le_refl _, hspan⟩

theorem isSigned_callable (h : tree.IsWellFormed source) (kind : DeclarationKind) :
    IsSigned source (callable source kind tree) := by
  obtain ⟨hstart, hstop⟩ := parameterListEnd_within h
  have hend : (callable source kind tree).stop = tree.stop := h.start_add_length
  constructor
  · exact hstart
  · rw [hend]
    exact hstop
  · intro position hposition
    rw [hend]
    exact of_bracePosition? hposition

theorem stop_addChild (isMember : Bool) (modifiers : Modifiers) (child : SyntaxTree) :
    (modifiers.addChild source isMember child).stop = some child.stop ∨
      (modifiers.addChild source isMember child).stop = modifiers.stop := by
  rw [Modifiers.addChild]
  split_ifs
  · exact .inl rfl
  · exact .inl rfl
  · exact .inr rfl
  · exact .inr rfl

theorem exists_of_modifiers_stop (isMember : Bool) (children : List SyntaxTree)
    (modifiers : Modifiers) {stop : Nat}
    (h : (children.foldl (Modifiers.addChild source isMember) modifiers).stop = some stop) :
    modifiers.stop = some stop ∨ ∃ child ∈ children, child.stop = stop := by
  induction children generalizing modifiers with
  | nil => exact .inl h
  | cons child rest ih =>
      obtain hbefore | ⟨later, hlater, hstop⟩ := ih _ h
      · obtain hhere | hkept := stop_addChild isMember modifiers child
        · rw [hhere, Option.some.injEq] at hbefore
          exact .inr ⟨child, List.mem_cons_self, hbefore⟩
        · exact .inl (hkept.symm.trans hbefore)
      · exact .inr ⟨later, List.mem_cons_of_mem child hlater, hstop⟩

theorem start_le_modifiers_stop (h : tree.IsWellFormed source) (isMember : Bool) :
    tree.start ≤ (Modifiers.ofTree source isMember tree).stop.getD tree.start := by
  cases hstop : (Modifiers.ofTree source isMember tree).stop with
  | none => exact Nat.le_refl _
  | some stop =>
      obtain hnone | ⟨child, hchild, rfl⟩ := exists_of_modifiers_stop _ _ _ hstop
      · cases hnone
      · have hwithin := h.child_within hchild
        have hspan := (h.of_mem_children hchild).start_le_stop
        exact Nat.le_trans hwithin.1 hspan

theorem eq_append_of_cutAtKeyword? {text before after : List Char} {keyword : PropertyKeyword}
    (h : cutAtKeyword? text = some (before, keyword, after)) :
    ∃ word, text = before ++ word ++ after ∧ byteLength word = 3 := by
  induction text generalizing before with
  | nil => cases h
  | cons c rest ih =>
      have hword {word : List Char} (hstart : (word ++ [' ']).isPrefixOf (c :: rest) = true) :
          c :: rest = word ++ (c :: rest).drop word.length := by
        obtain ⟨later, hlater⟩ := List.isPrefixOf_iff_prefix.mp hstart
        rw [← hlater, List.append_assoc, List.drop_left]
      rw [cutAtKeyword?] at h
      split_ifs at h with hvariable hconstant
      · cases h
        exact ⟨"var".toList, hword hvariable, by decide⟩
      · cases h
        exact ⟨"let".toList, hword hconstant, by decide⟩
      · obtain ⟨⟨front, found, back⟩, hlater, heq⟩ := Option.map_eq_some_iff.mp h
        cases heq
        obtain ⟨word, hrest, hlength⟩ := ih hlater
        exact ⟨word, by rw [hrest]; rfl, hlength⟩

theorem eq_append_of_accessorBlock? {text block : List Char}
    (h : accessorBlock? text = some block) :
    ∃ before after, text = before ++ block ∧ block = '\x7b' :: after := by
  rw [accessorBlock?] at h
  split at h
  · next after hdrop =>
    cases h
    refine ⟨text.takeWhile fun c => c != '\x7b' && c != '=', after, ?_, rfl⟩
    rw [← hdrop, List.takeWhile_append_dropWhile]
  · cases h

/-- The text of a property from its modifiers on: up to the name, the name, and what follows it. -/
theorem exists_parts_of_property? (h : tree.property? source = some declaration) :
    ∃ start front remainder,
      start = (Modifiers.ofTree source true tree).stop.getD tree.start ∧
      slice? source start tree.stop = some (front ++ declaration.name.toList ++ remainder) ∧
      declaration.signatureEnd =
        start + byteLength front + byteLength declaration.name.toList ∧
      declaration.bodyOffset =
        (accessorBlock? remainder).map fun block => tree.stop - byteLength block := by
  unfold property? at h
  obtain ⟨text, hslice, h⟩ := Option.bind_eq_some_iff.mp h
  obtain ⟨⟨before, keyword, after⟩, hcut, h⟩ := Option.bind_eq_some_iff.mp h
  dsimp only at h
  split_ifs at h
  · cases h
  cases h
  obtain ⟨word, rfl, hlength⟩ := eq_append_of_cutAtKeyword? hcut
  refine ⟨_, before ++ word ++ after.takeWhile isBlank,
    (after.dropWhile isBlank).dropWhile isPropertyNameChar, rfl, ?_, ?_, rfl⟩
  · rw [hslice, String.toList_ofList]
    simp only [List.append_assoc, List.takeWhile_append_dropWhile]
  · rw [String.toList_ofList, byteLength_append, byteLength_append, hlength]
    simp only [Nat.add_assoc]

theorem slice?_name_of_property? (h : tree.property? source = some declaration) :
    slice? source (declaration.signatureEnd - byteLength declaration.name.toList)
      declaration.signatureEnd = some declaration.name.toList := by
  obtain ⟨start, front, remainder, _, hslice, hend, _⟩ := exists_parts_of_property? h
  rw [hend, Nat.add_sub_cancel]
  exact slice?_part hslice

theorem isSigned_property? (h : tree.IsWellFormed source)
    (hproperty : tree.property? source = some declaration) : IsSigned source declaration := by
  obtain ⟨start, front, remainder, hstart, hslice, hend, hbody⟩ :=
    exists_parts_of_property? hproperty
  obtain ⟨_, hoffset, hlength⟩ := range_of_property? hproperty
  have hstop : declaration.stop = tree.stop := by
    rw [Declaration.stop, hoffset, hlength, h.start_add_length]
  have hfrom : tree.start ≤ start := hstart ▸ start_le_modifiers_stop h true
  have htext := stop_of_slice? hslice
  rw [byteLength_append, byteLength_append] at htext
  refine ⟨by omega, by omega, ?_⟩
  intro position hposition
  rw [hbody] at hposition
  obtain ⟨block, hblock, rfl⟩ := Option.map_eq_some_iff.mp hposition
  obtain ⟨before, after, rfl, rfl⟩ := eq_append_of_accessorBlock? hblock
  rw [byteLength_append] at htext
  rw [← List.append_assoc] at hslice
  have hbegins : tree.stop - byteLength ('\x7b' :: after) =
      start + byteLength (front ++ declaration.name.toList ++ before) := by
    simp only [byteLength_append]
    omega
  obtain ⟨_, hlt, hbrace⟩ := slice?_brace hslice hbegins
  refine ⟨?_, hstop ▸ hlt, hbrace⟩
  omega

/-! ### All declarations of a file -/

/-- A declaration was read from a node, by the rule for its kind. -/
inductive ReadAt (source : List Char) : SyntaxTree → Declaration → Prop where
  | type {tree : SyntaxTree} {kind : DeclarationKind} : tree.typeKind? source = some kind →
      ReadAt source tree (typeDeclaration source kind tree)
  | member {tree : SyntaxTree} {declaration : Declaration} :
      tree.member? source = some declaration → ReadAt source tree declaration
  | importStatement {tree : SyntaxTree} : tree.isImport = true →
      ReadAt source tree (importDeclaration source tree)
  | parameter {tree : SyntaxTree} : tree.kind = "parameter" →
      ReadAt source tree (parameter source tree).2
  | genericParameter {tree : SyntaxTree} : tree.kind = "type_parameter" →
      ReadAt source tree (genericParameter source tree)

theorem readAt_of_declaration? (h : tree.declaration? source = some declaration) :
    ReadAt source tree declaration := by
  rw [declaration?] at h
  split_ifs at h with htype himport
  · obtain ⟨kind, hkind, rfl⟩ := Option.map_eq_some_iff.mp h
    exact .type hkind
  · cases h
    exact .importStatement himport
  · exact .member h

theorem isMember_of_typeKind? {kind : DeclarationKind} (h : tree.typeKind? source = some kind) :
    (typeDeclaration source kind tree).kind.isMember = false := by
  have htype : kind.isType = true := isType_of_typeKind? h
  change kind.isMember = false
  cases kind <;> simp_all [DeclarationKind.isType, DeclarationKind.isMember]

namespace ReadAt

theorem range (h : ReadAt source tree declaration) (hwell : tree.IsWellFormed source) :
    declaration.offset = tree.start ∧ declaration.stop = tree.stop := by
  cases h with
  | member hmember => exact ⟨(range_of_member? hmember).2.1, stop_of_member? hwell hmember⟩
  | _ => exact ⟨rfl, hwell.start_add_length⟩

/-- What a callable owns was read from its parameters, and those of its generic clause. -/
theorem exists_of_mem_callable {kind : DeclarationKind} {owned : Declaration}
    (h : owned ∈ (callable source kind tree).children) :
    ∃ node ∈ tree.nodes, ReadAt source node owned := by
  obtain hgeneric | hparameter := List.mem_append.mp h
  · obtain ⟨list, hlist, howned⟩ := List.mem_flatMap.mp hgeneric
    obtain ⟨node, hnode, rfl⟩ := List.mem_map.mp howned
    obtain ⟨hnamed, hkind⟩ := List.mem_filter.mp hnode
    have hbelow := mem_nodes_of_mem_children (List.mem_of_mem_filter hnamed) mem_nodes_self
    exact ⟨node, mem_nodes_of_mem_children (List.mem_of_mem_filter hlist) hbelow,
      .genericParameter (by simpa using hkind)⟩
  · obtain ⟨pair, hpair, rfl⟩ := List.mem_map.mp hparameter
    obtain ⟨node, hnode, rfl⟩ := List.mem_map.mp hpair
    obtain ⟨hchild, hkind⟩ := List.mem_filter.mp hnode
    exact ⟨node, mem_nodes_of_mem_children hchild mem_nodes_self, .parameter (by simpa using hkind)⟩

theorem children_of_property? (h : tree.property? source = some declaration) :
    declaration.children = [] := by
  unfold property? at h
  obtain ⟨text, _, h⟩ := Option.bind_eq_some_iff.mp h
  obtain ⟨⟨before, keyword, after⟩, _, h⟩ := Option.bind_eq_some_iff.mp h
  dsimp only at h
  split_ifs at h
  · cases h
  · cases h
    rfl

theorem exists_of_mem_children (h : ReadAt source tree declaration) {owned : Declaration}
    (howned : owned ∈ declaration.children) : ∃ node ∈ tree.nodes, ReadAt source node owned := by
  cases h with
  | type hkind =>
      obtain ⟨node, hnode, hmember⟩ := exists_node_of_mem_children howned
      exact ⟨node, hnode, .member hmember⟩
  | member hmember =>
      unfold member? at hmember
      split at hmember
      · cases hmember
        exact exists_of_mem_callable howned
      · split_ifs at hmember
        rw [children_of_property? hmember] at howned
        cases howned
  | importStatement himport => cases howned
  | parameter hkind => cases howned
  | genericParameter hkind => cases howned

theorem isSigned (h : ReadAt source tree declaration) (hwell : tree.IsWellFormed source)
    (hkind : declaration.kind.isMember = true) : IsSigned source declaration := by
  cases h with
  | member hmember =>
      unfold member? at hmember
      split at hmember
      · cases hmember
        exact isSigned_callable hwell _
      · split_ifs at hmember
        exact isSigned_property? hwell hmember
  | type htype =>
      rw [isMember_of_typeKind? htype] at hkind
      cases hkind
  | _ => cases hkind

end ReadAt

/-- Declarations that are owned, at any depth, by those of a list. -/
inductive AtDepth (declarations : List Declaration) : Declaration → Prop where
  | top {declaration : Declaration} : declaration ∈ declarations → AtDepth declarations declaration
  | owned {owner declaration : Declaration} : AtDepth declarations owner →
      declaration ∈ owner.children → AtDepth declarations declaration

theorem exists_readAt_of_atDepth (h : AtDepth (topLevel source tree) declaration) :
    ∃ node ∈ tree.nodes, ReadAt source node declaration := by
  induction h with
  | top hmem =>
      obtain ⟨child, hchild, hdeclaration⟩ := List.mem_filterMap.mp hmem
      exact ⟨child, mem_nodes_of_mem_children (List.mem_of_mem_filter hchild) mem_nodes_self,
        readAt_of_declaration? hdeclaration⟩
  | owned _ hmem ih =>
      obtain ⟨node, hnode, hread⟩ := ih
      obtain ⟨below, hbelow, hown⟩ := hread.exists_of_mem_children hmem
      exact ⟨below, mem_nodes_trans tree hnode hbelow, hown⟩

/-- A declaration lies at its node, with what it owns inside it, and in the order of the text where
it is a type. Its signature ends inside it, after the name of a property. -/
structure IsWellPlaced (source : List Char) (tree : SyntaxTree) (declaration : Declaration) :
    Prop where
  atNode : ∃ node ∈ tree.nodes, ReadAt source node declaration ∧
    declaration.offset = node.start ∧ declaration.stop = node.stop
  owned : ∀ child ∈ declaration.children,
    declaration.offset ≤ child.offset ∧ child.stop ≤ declaration.stop
  ordered : declaration.kind.isType = true →
    declaration.children.Pairwise fun left right => left.stop ≤ right.offset
  signed : declaration.kind.isMember = true → IsSigned source declaration
  named : declaration.kind = .property →
    slice? source (declaration.signatureEnd - byteLength declaration.name.toList)
      declaration.signatureEnd = some declaration.name.toList

namespace ReadAt

theorem within (h : ReadAt source tree declaration) (hwell : tree.IsWellFormed source)
    {owned : Declaration} (howned : owned ∈ declaration.children) :
    declaration.offset ≤ owned.offset ∧ owned.stop ≤ declaration.stop := by
  obtain ⟨node, hnode, hread⟩ := h.exists_of_mem_children howned
  obtain ⟨hoffset, hstop⟩ := h.range hwell
  obtain ⟨hinner, hinnerStop⟩ := hread.range (hwell.of_mem hnode)
  have hwithin := within_of_mem_nodes tree hwell hnode
  omega

theorem ordered (h : ReadAt source tree declaration) (hwell : tree.IsWellFormed source)
    (htype : declaration.kind.isType = true) :
    declaration.children.Pairwise fun left right => left.stop ≤ right.offset := by
  cases h with
  | type hkind => exact (typeDeclaration_inOrder hwell _).ordered
  | member hmember => exact absurd htype (range_of_member? hmember).1
  | _ => exact .nil

theorem named (h : ReadAt source tree declaration) (hkind : declaration.kind = .property) :
    slice? source (declaration.signatureEnd - byteLength declaration.name.toList)
      declaration.signatureEnd = some declaration.name.toList := by
  cases h with
  | type htype =>
      have hmember := isMember_of_typeKind? htype
      rw [hkind] at hmember
      cases hmember
  | member hmember =>
      unfold member? at hmember
      split at hmember
      · next kind hcallable =>
        cases hmember
        rw [callableKind?] at hcallable
        split_ifs at hcallable
        all_goals
          cases hcallable
          cases hkind
      · split_ifs at hmember
        exact slice?_name_of_property? hmember
  | _ => cases hkind

end ReadAt

/-- **Where declarations lie.** In a well-formed tree every declaration of a file, at any depth,
lies where its node does and inside its owner. The members of a type follow one another. Signatures
end inside their declarations, bodies begin at a brace after them, and the signature of a property
ends with its name. -/
theorem isWellPlaced_of_atDepth (h : tree.IsWellFormed source)
    (hdepth : AtDepth (topLevel source tree) declaration) :
    IsWellPlaced source tree declaration := by
  obtain ⟨node, hnode, hread⟩ := exists_readAt_of_atDepth hdepth
  have hwell := h.of_mem hnode
  exact
    { atNode := ⟨node, hnode, hread, hread.range hwell⟩
      owned := fun _ howned => hread.within hwell howned
      ordered := hread.ordered hwell
      signed := hread.isSigned hwell
      named := hread.named }

def groupedSource : String :=
  "protocol É \x7b @objc var id: Int \x7b get \x7d; func f<T>(a: T) \x7b\x7d \x7d"

def groupedTree : SyntaxTree :=
  .node "source_file" true 0 61 none
    [.node "protocol_declaration" true 0 61 none
      [.node "protocol" false 0 8 none [],
        .node "type_identifier" true 9 11 (some "name") [],
        .node "protocol_body" true 12 61 (some "body")
          [.node "protocol_member_declarations" true 14 59 none
            [.node "protocol_property_declaration" true 14 39 none
                [.node "modifiers" true 14 19 none [.node "attribute" true 14 19 none []]],
              .node "protocol_function_declaration" true 41 59 none
                [.node "simple_identifier" true 46 47 (some "name") [],
                  .node "type_parameters" true 47 50 none
                    [.node "type_parameter" true 48 49 none []],
                  .node "(" false 50 51 none [],
                  .node "parameter" true 51 55 none [],
                  .node ")" false 55 56 none []]]]]]

/-- A property after an attribute, and the generic parameter of a function beside it. -/
theorem isWellPlaced_of_groupedTree :
    groupedTree.IsWellFormed groupedSource.toList ∧
    ∃ type ∈ topLevel groupedSource.toList groupedTree,
      (∃ property ∈ type.children, property.name = "id" ∧
        IsWellPlaced groupedSource.toList groupedTree property) ∧
      ∃ function ∈ type.children, ∃ generic ∈ function.children, generic.name = "T" ∧
        IsWellPlaced groupedSource.toList groupedTree generic := by
  have hwell : groupedTree.IsWellFormed groupedSource.toList := by decide +kernel
  have hdeclared : ∃ type ∈ topLevel groupedSource.toList groupedTree,
      (∃ property ∈ type.children, property.name = "id") ∧
        ∃ function ∈ type.children, ∃ generic ∈ function.children, generic.name = "T" := by
    decide +kernel
  obtain ⟨type, htype, ⟨property, hproperty, hid⟩, function, hfunction, generic, hgeneric, hT⟩ :=
    hdeclared
  have htop : AtDepth (topLevel groupedSource.toList groupedTree) type := .top htype
  refine ⟨hwell, type, htype, ⟨property, hproperty, hid, ?_⟩,
    function, hfunction, generic, hgeneric, hT, ?_⟩
  · exact isWellPlaced_of_atDepth hwell (.owned htop hproperty)
  · exact isWellPlaced_of_atDepth hwell (.owned (.owned htop hfunction) hgeneric)

end Understudy.SyntaxTree
