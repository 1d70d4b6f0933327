import Mathlib.Data.List.Induction
import Understudy.Proofs.FileTree.Spelling
import Understudy.Proofs.Generation.Origin
import Understudy.Proofs.Mock.CacheUse
import Understudy.Proofs.Text.Utf8

/-!
# Members that are written out as they stand

A member of a processed entity is rendered to the bytes of its own declaration
(`Mock.memberText_eq_node`). Its range comes from a node of the syntax tree and is kept by the
declaration, by the member, and by the key under which the cache is asked; the bytes come from the
cache, which holds nothing but what the file has, whatever was rendered before
(`Mock.holds_rendered`).
-/

namespace Understudy

namespace Member

variable {context : SourceContext} {declaration : Declaration} {member : Member}

/-- The member of a processed file lies where its declaration does. -/
structure LiesAt (member : Member) (context : SourceContext) (offset length : Nat) : Prop where
  isProcessed : member.isProcessed = context.processed
  path : member.cacheKey.path = context.path
  offset : member.cacheKey.offset = offset
  length : member.cacheKey.length = length

theorem liesAt_of_method
    (h : (Method.ofDeclaration context declaration).map (fun method => some (callable method)) =
      .ok (some member)) :
    member.LiesAt context declaration.offset declaration.length := by
  obtain ⟨method, hmethod, heq⟩ := exists_of_map_eq_ok h
  cases heq
  unfold Method.ofDeclaration at hmethod
  dsimp only at hmethod
  split_ifs at hmethod
  cases hmethod
  exact ⟨rfl, rfl, rfl, rfl⟩

theorem liesAt_of_ofDeclaration? (h : ofDeclaration? context declaration = .ok (some member)) :
    member.LiesAt context declaration.offset declaration.length := by
  unfold ofDeclaration? at h
  split at h
  · exact liesAt_of_method h
  · exact liesAt_of_method h
  · exact liesAt_of_method h
  · split_ifs at h with hcomputed
    · exact liesAt_of_method h
    · cases h
      exact ⟨rfl, rfl, rfl, rfl⟩
  · cases h

/-- The member was built from the declaration at a node. -/
def DeclaredAt (member : Member) (context : SourceContext) (node : SyntaxTree) : Prop :=
  ∃ declaration, node.member? context.source.toList = some declaration ∧
    ofDeclaration? context declaration = .ok (some member)

theorem DeclaredAt.liesAt {node : SyntaxTree} (h : member.DeclaredAt context node) :
    member.LiesAt context node.start node.length := by
  obtain ⟨declaration, hdeclaration, hmember⟩ := h
  obtain ⟨_, hoffset, hlength⟩ := SyntaxTree.range_of_member? hdeclaration
  rw [← hoffset, ← hlength]
  exact liesAt_of_ofDeclaration? hmember

end Member

theorem Entity.exists_of_membersOf {context : SourceContext} {declarations : List Declaration}
    {members : List Member} (h : membersOf context declarations = .ok members) :
    ∀ member ∈ members, ∃ declaration ∈ declarations,
      Member.ofDeclaration? context declaration = .ok (some member) := by
  induction declarations generalizing members with
  | nil =>
      cases h
      simp
  | cons declaration rest ih =>
      simp only [membersOf] at h
      split at h
      · cases h
      · next member? hfirst =>
        obtain ⟨others, hothers, rfl⟩ := exists_of_map_eq_ok h
        refine List.forall_mem_append.mpr ⟨fun member hmember => ?_, fun member hmember => ?_⟩
        · rw [Option.mem_toList.mp hmember] at hfirst
          exact ⟨declaration, List.mem_cons_self, hfirst⟩
        · obtain ⟨later, hlater, hbuilt⟩ := ih hothers member hmember
          exact ⟨later, List.mem_cons_of_mem _ hlater, hbuilt⟩

/-- Every member of a declared entity was built from the declaration at a node of the tree. -/
theorem SyntaxTree.Declares.exists_declaredAt {context : SourceContext} {tree : SyntaxTree}
    {entity : Entity} (h : tree.Declares context entity) :
    ∀ member ∈ entity.members, ∃ node ∈ tree.nodes, member.DeclaredAt context node := by
  obtain ⟨type, htype, kind, hbuilt⟩ := h
  obtain ⟨members, hmembers, rfl⟩ := exists_of_map_eq_ok hbuilt
  intro member hmember
  obtain ⟨declaration, hdeclaration, hmember⟩ := Entity.exists_of_membersOf hmembers member hmember
  obtain ⟨node, hnode, hfound⟩ := SyntaxTree.exists_node_of_mem_children hdeclaration
  exact ⟨node, SyntaxTree.mem_nodes_trans tree htype hnode, declaration, hfound, hmember⟩

namespace Mock

open Text

variable {disk : Disk} {known : KnownLiterals} {identifier : String} {member : Member}
  {cache : SourceCache} {path : Path} {bytes : List UInt8}

/-- One member rendered, with all that it was rendered from. -/
structure Rendering where
  disk : Disk
  known : KnownLiterals
  identifier : String
  member : Member

def Rendering.apply (cache : SourceCache) (rendering : Rendering) : SourceCache :=
  (memberText rendering.disk rendering.known rendering.identifier rendering.member cache).2

/-- A new cache after a sequence of renderings. -/
def rendered (history : List Rendering) : SourceCache :=
  history.foldl Rendering.apply .empty

/-- Contents of a path, in any spelling, are the given ones. -/
def Only (path : Path) (bytes : List UInt8) (other : Path) (found : List UInt8) : Prop :=
  other.same path → found = bytes

theorem Only.spellingFree : SourceCache.SpellingFree (Only path bytes) := by
  intro left right found hsame hleft hright
  exact hleft (Path.same_trans hsame hright)

/-- While a file keeps its contents, the cache holds no other contents for it. -/
theorem holds_rendered {history : List Rendering}
    (hkeeps : ∀ rendering ∈ history, rendering.disk.Keeps path bytes) :
    (rendered history).Holds (Only path bytes) := by
  -- from the end: the last rendering starts from the cache that the ones before it left
  induction history using List.reverseRecOn with
  | nil => exact SourceCache.Holds.empty
  | append_singleton history rendering ih =>
      have hbefore := ih fun earlier hearlier => hkeeps earlier (List.mem_append_left _ hearlier)
      have hlast := hkeeps rendering (List.mem_append_right _ (List.mem_singleton_self _))
      rw [rendered, List.foldl_append]
      exact holds_memberText Only.spellingFree
        (fun other found hdisk hsame => hlast.spelled hsame hdisk) hbefore

theorem stretch_eq_ok {key : CacheKey} {source middle : List Char} (stop : Nat)
    (hslice : slice? source key.offset stop = some middle)
    (hlength : key.length = stop - key.offset) :
    SourceCache.stretch key (Utf8.encode source) = .ok (String.ofList middle) := by
  obtain ⟨hle, hstop⟩ := Utf8.le_length_of_slice hslice
  have hwithin : key.stop ≤ (Utf8.encode source).length := by
    rw [CacheKey.stop, hlength]
    omega
  have hdecode := Utf8.decode_eq_ok_iff.mpr (Utf8.encode_slice hslice)
  rw [← hlength] at hdecode
  rw [SourceCache.stretch, if_pos hwithin, hdecode]

theorem memberText_of_declaredAt {context : SourceContext} {node : SyntaxTree}
    (hdeclared : member.DeclaredAt context node) (hprocessed : context.processed)
    (hinitializer : ¬member.isInitializer)
    (hfits : (slice? context.source.toList node.start node.stop).isSome)
    (hholds : cache.Holds (Only context.path (Utf8.encode context.source.toList)))
    (hdisk : disk context.path = .ok (Utf8.encode context.source.toList)) :
    (memberText disk known identifier member cache).1 =
      .ok (some (String.ofList (node.text context.source.toList))) := by
  obtain ⟨hmember, hpath, hoffset, hlength⟩ := hdeclared.liesAt
  obtain ⟨middle, hslice⟩ := Option.isSome_iff_exists.mp hfits
  -- a cache that holds the file has its contents, and one that does not reads them now
  have hanswer : (cache.buffer disk member.cacheKey).1 =
      .ok (Utf8.encode context.source.toList) := by
    rw [hholds.buffer_fst Only.spellingFree, hpath, hdisk]
    · rfl
    · intro found honly
      rw [hpath] at honly ⊢
      rw [honly (Path.same_refl _), hdisk]
  have hstretch : SourceCache.stretch member.cacheKey (Utf8.encode context.source.toList) =
      .ok (String.ofList middle) := by
    refine stretch_eq_ok node.stop ?_ ?_
    · rw [hoffset, hslice]
    · rw [hlength, hoffset, SyntaxTree.length]
  rw [memberText_of_processed (hmember.trans hprocessed) hinitializer, SourceCache.extract_fst,
    hanswer, SyntaxTree.text, hslice]
  exact congrArg (Except.map some) hstretch

theorem readSource_eq_ok {source : String}
    (hread : disk path = .ok (Utf8.encode source.toList)) :
    GenerationSettings.readSource disk path = .ok source := by
  rw [GenerationSettings.readSource, Workspace.readText, hread]
  simp only [Utf8.decode_eq_ok_iff.mpr rfl, String.ofList_toList]
  rfl

/-- **While a file of mocks keeps its contents, every member read from it, through its index or
its whole tree, and other than an initializer, is rendered to the bytes of its own declaration,
whatever was rendered before.** -/
theorem memberText_eq_node (settings : GenerationSettings) (grammar : Grammar)
    {disk : Disk} {path : Path} {source : String} {result : FileResult}
    (hread : disk path = .ok (Utf8.encode source.toList))
    (hfits : (grammar source).Fits source.toList)
    (hbuilt : settings.indexedFile disk grammar.index path = .ok result ∨
      settings.treeFile disk grammar true path = .ok result) :
    ∀ entity ∈ result.entities, ∀ member ∈ entity.members, ¬member.isInitializer →
      ∃ node ∈ (grammar source).nodes,
        member.DeclaredAt (settings.context path source true) node ∧
          ∀ history : List Rendering,
            (∀ rendering ∈ history, rendering.disk.Keeps path (Utf8.encode source.toList)) →
            ∀ later : Disk, later path = .ok (Utf8.encode source.toList) →
            ∀ known identifier, ∃ text,
              (memberText later known identifier member (rendered history)).1 = .ok (some text) ∧
                Utf8.encode text.toList =
                  ((Utf8.encode source.toList).drop node.start).take node.length := by
  have hsource := readSource_eq_ok hread
  have hdeclares : ∀ entity ∈ result.entities,
      (grammar source).Declares (settings.context path source true) entity := by
    obtain hbuilt | hbuilt := hbuilt
    · exact GenerationSettings.declares_of_indexedFile hsource hbuilt
    · exact GenerationSettings.declares_of_treeFile hsource hbuilt
  intro entity hentity member hmember hinitializer
  obtain ⟨node, hnode, hdeclared⟩ := (hdeclares entity hentity).exists_declaredAt member hmember
  refine ⟨node, hnode, hdeclared, fun history hkeeps later hlater known identifier => ?_⟩
  refine ⟨_, memberText_of_declaredAt hdeclared rfl hinitializer (hfits node hnode)
    (holds_rendered hkeeps) hlater, ?_⟩
  rw [String.toList_ofList]
  exact SyntaxTree.encode_text (hfits node hnode)

def mockSource : String :=
  "class ÉMock \x7b func f() \x7b\x7d \x7d"

def mockTree : SyntaxTree :=
  .node "source_file" true 0 28 none
    [.node "class_declaration" true 0 28 none
      [.node "class" false 0 5 (some "declaration_kind") [],
        .node "type_identifier" true 6 12 (some "name") [],
        .node "class_body" true 13 28 (some "body")
          [.node "function_declaration" true 15 26 none
            [.node "simple_identifier" true 20 21 (some "name") [],
              .node "(" false 21 22 none [],
              .node ")" false 22 23 none []]]]]

def mockFile : Workspace :=
  { root := .directory [("m.swift", .file (Utf8.encode mockSource.toList))] }

/-- The function of the mock is rendered a second time under another identifier. -/
theorem memberText_eq_node_of_mockFile :
    ∃ result, GenerationSettings.indexedFile {} mockFile.disk (Grammar.index fun _ => mockTree)
        ⟨"m.swift"⟩ = .ok result ∧
      ∃ entity ∈ result.entities, ∃ member ∈ entity.members, ¬member.isInitializer ∧
        ∃ text, (memberText mockFile.disk [] "g" member
          (rendered [⟨mockFile.disk, [], "f", member⟩])).1 = .ok (some text) := by
  have hread : mockFile.disk ⟨"m.swift"⟩ = .ok (Utf8.encode mockSource.toList) := by
    decide +kernel
  have hfits : mockTree.Fits mockSource.toList := by decide +kernel
  have hfunction : (GenerationSettings.indexedFile {} mockFile.disk
      (Grammar.index fun _ => mockTree) ⟨"m.swift"⟩).toOption.any (fun result =>
        result.entities.any fun entity => entity.members.any fun member =>
          !member.isInitializer) := by
    decide +kernel
  obtain ⟨result, hresult, hfunction⟩ := (Option.any_eq_true _ _).mp hfunction
  obtain ⟨entity, hentity, hfunction⟩ := List.any_eq_true.mp hfunction
  obtain ⟨member, hmember, hfunction⟩ := List.any_eq_true.mp hfunction
  have hinitializer : ¬member.isInitializer := by simpa using hfunction
  have hbuilt := eq_ok_of_toOption hresult
  obtain ⟨_, _, _, hrenders⟩ := memberText_eq_node {} (fun _ => mockTree) hread hfits (.inl hbuilt)
    entity hentity member hmember hinitializer
  obtain ⟨text, htext, _⟩ := hrenders [⟨mockFile.disk, [], "f", member⟩]
    (List.forall_mem_singleton.mpr (mockFile.coherent_disk hread)) mockFile.disk hread [] "g"
  exact ⟨result, hbuilt, entity, hentity, member, hmember, hinitializer, text, htext⟩

end Mock

end Understudy
