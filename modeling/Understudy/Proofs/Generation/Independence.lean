import Understudy.Proofs.Dispatch.Arrival
import Understudy.Proofs.Generation.Origin
import Understudy.Proofs.Output.Order

/-!
# Whether the output depends on the order of arrival

Entities reach a collection in the order in which their files finish, and the first of several
entities with one name is the one that is found. `Generation.independent_iff` says when this shows:
the output is the same for every limit and every interleaving exactly when it is the same for every
order of the files. What is looked up is the same exactly when no two source files declare a
protocol of one name and no two mock files hold a mock of one name, and then the output is the same.
-/

namespace Understudy

open scoped List

/-- What a generation reads: files of sources, and files of mocks that were generated before. -/
structure Generation where
  settings : GenerationSettings
  disk : Disk
  grammar : Grammar
  index : Index
  sources : List Path
  mocks : List Path

namespace Generation

variable {generation : Generation} {limit : Option Nat} {collection : Collection}
  {sources mocks : List Path}

def sourceWork (generation : Generation) : Work :=
  generation.settings.treeFile generation.disk generation.grammar false

def mockWork (generation : Generation) : Work :=
  generation.settings.indexedFile generation.disk generation.index

/-- Each file is listed once and can be worked on. -/
structure Succeeds (generation : Generation) : Prop where
  sources_distinct : Path.Distinct generation.sources
  mocks_distinct : Path.Distinct generation.mocks
  sources_ok : ∀ path ∈ generation.sources, ∃ result, generation.sourceWork path = .ok result
  mocks_ok : ∀ path ∈ generation.mocks, ∃ result, generation.mockWork path = .ok result

/-- What the sources and then the mocks can leave in a collection under a limit, when driver and
workers move in any order. -/
def Collects (generation : Generation) (limit : Option Nat) (collection : Collection) : Prop :=
  ∃ read : Collection,
    Dispatch.CanEnd limit generation.sourceWork generation.sources {} ⟨none, read⟩ ∧
      Dispatch.CanEnd limit generation.mockWork generation.mocks read ⟨none, collection⟩

def inOrder (generation : Generation) (sources mocks : List Path) : Collection :=
  (Collection.gather generation.sourceWork {} sources).gather generation.mockWork mocks

/-- The output for what was collected, with nothing cached. -/
def output (generation : Generation) (options : OutputOptions) (collection : Collection) :
    Except Failure String :=
  (Output.render generation.disk collection.entities collection.imports options .empty).1

/-- Every limit and every interleaving gives the output of a run without a limit. -/
def Independent (generation : Generation) (options : OutputOptions) : Prop :=
  ∀ limit collection sequential, generation.Collects limit collection →
    generation.Collects none sequential →
      generation.output options collection = generation.output options sequential

/-- No two source files declare a protocol of one name, and no two mock files hold an existing mock
of one name. -/
def Uncontested (generation : Generation) : Prop :=
  ∀ name,
    generation.sourceWork.Uncontested generation.sources
        (fun entity => Catalog.isProtocol entity && entity.name == name) ∧
      generation.mockWork.Uncontested generation.mocks
        (fun entity => Catalog.mockOf? entity == some name)

theorem exists_collects (h : generation.Succeeds) (limit : Option Nat) :
    ∃ collection, generation.Collects limit collection := by
  obtain ⟨order, _, hread⟩ :=
    (Dispatch.canEnd_run limit generation.sourceWork generation.sources {}).exists_gather
      h.sources_ok
  have hsources := hread ▸ Dispatch.canEnd_run limit generation.sourceWork generation.sources {}
  obtain ⟨later, _, hlast⟩ :=
    (Dispatch.canEnd_run limit generation.mockWork generation.mocks
      (Collection.gather generation.sourceWork {} order)).exists_gather h.mocks_ok
  have hmocks := hlast ▸ Dispatch.canEnd_run limit generation.mockWork generation.mocks
    (Collection.gather generation.sourceWork {} order)
  exact ⟨_, _, hsources, hmocks⟩

theorem collects_none_iff (h : generation.Succeeds) :
    generation.Collects none collection ↔
      collection = generation.inOrder generation.sources generation.mocks := by
  simp only [Collects, Dispatch.CanEnd, Dispatch.sequential_of_ok h.sources_ok,
    Dispatch.sequential_of_ok h.mocks_ok, RunEnd.mk.injEq, true_and, exists_eq_left, inOrder]

theorem Collects.exists_inOrder (hcollects : generation.Collects limit collection)
    (h : generation.Succeeds) :
    ∃ sources mocks, sources ~ generation.sources ∧ mocks ~ generation.mocks ∧
      collection = generation.inOrder sources mocks := by
  obtain ⟨read, hsources, hmocks⟩ := hcollects
  obtain ⟨order, hperm, hread⟩ := hsources.exists_gather h.sources_ok
  obtain ⟨later, hlater, hlast⟩ := hmocks.exists_gather h.mocks_ok
  simp only [RunEnd.mk.injEq, true_and] at hread hlast
  exact ⟨order, later, hperm, hlater, by rw [hlast, hread, inOrder]⟩

/-- With a permit for each file every order can occur. -/
theorem collects_inOrder (h : generation.Succeeds) (hsources : sources ~ generation.sources)
    (hmocks : mocks ~ generation.mocks) :
    generation.Collects (some (max generation.sources.length generation.mocks.length))
      (generation.inOrder sources mocks) :=
  ⟨_, Dispatch.canEnd_of_perm (Nat.le_max_left _ _) h.sources_ok hsources,
    Dispatch.canEnd_of_perm (Nat.le_max_right _ _) h.mocks_ok hmocks⟩

/-- A run under a limit stands to the run without one as some order of the files stands to the
order in which they are listed, and every order does. -/
theorem forall_collects_iff (h : generation.Succeeds) {P : Collection → Collection → Prop} :
    (∀ limit collection sequential, generation.Collects limit collection →
      generation.Collects none sequential → P collection sequential) ↔
      ∀ sources mocks, sources ~ generation.sources → mocks ~ generation.mocks →
        P (generation.inOrder sources mocks)
          (generation.inOrder generation.sources generation.mocks) := by
  constructor
  · intro hall sources mocks hsources hmocks
    exact hall _ _ _ (collects_inOrder h hsources hmocks) ((collects_none_iff h).mpr rfl)
  · intro hall limit collection sequential hcollects hsequential
    obtain ⟨sources, mocks, hsources, hmocks, rfl⟩ := hcollects.exists_inOrder h
    rw [(collects_none_iff h).mp hsequential]
    exact hall sources mocks hsources hmocks

theorem of_mem_sourceWork {path : Path} {entity : Entity}
    (hmem : entity ∈ generation.sourceWork.entitiesOf path) :
    entity.path = path ∧ entity.isProcessed = false := by
  unfold Work.entitiesOf at hmem
  split at hmem
  · next result hwork => exact (GenerationSettings.of_treeFile hwork).2 entity hmem
  · simp at hmem

theorem of_mem_mockWork {path : Path} {entity : Entity}
    (hmem : entity ∈ generation.mockWork.entitiesOf path) :
    entity.path = path ∧ entity.isProcessed = true := by
  unfold Work.entitiesOf at hmem
  split at hmem
  · next result hwork => exact (GenerationSettings.of_indexedFile hwork).2 entity hmem
  · simp at hmem

theorem entities_inOrder (generation : Generation) (sources mocks : List Path) :
    (generation.inOrder sources mocks).entities =
      sources.flatMap generation.sourceWork.entitiesOf ++
        mocks.flatMap generation.mockWork.entitiesOf := by
  rw [inOrder, Collection.entities_gather, Collection.entities_gather]
  rfl

theorem protocol?_inOrder (generation : Generation) (sources mocks : List Path) (name : String) :
    Catalog.protocol? ⟨(generation.inOrder sources mocks).entities⟩ name =
      (sources.flatMap generation.sourceWork.entitiesOf).find? fun entity =>
        Catalog.isProtocol entity && entity.name == name := by
  have hmocks : (mocks.flatMap generation.mockWork.entitiesOf).find? (fun entity =>
      Catalog.isProtocol entity && entity.name == name) = none := by
    apply List.find?_eq_none.mpr
    intro entity hentity
    obtain ⟨path, _, hmem⟩ := List.mem_flatMap.mp hentity
    simp [Catalog.isProtocol, (of_mem_mockWork hmem).2]
  rw [Catalog.protocol?, entities_inOrder, List.find?_append, hmocks, Option.or_none]

theorem existingMock?_inOrder (generation : Generation) (sources mocks : List Path)
    (name : String) :
    Catalog.existingMock? ⟨(generation.inOrder sources mocks).entities⟩ name =
      (mocks.flatMap generation.mockWork.entitiesOf).find? fun entity =>
        Catalog.mockOf? entity == some name := by
  have hsources : (sources.flatMap generation.sourceWork.entitiesOf).find? (fun entity =>
      Catalog.mockOf? entity == some name) = none := by
    apply List.find?_eq_none.mpr
    intro entity hentity
    obtain ⟨path, _, hmem⟩ := List.mem_flatMap.mp hentity
    simp [Catalog.mockOf?, (of_mem_sourceWork hmem).2]
  rw [Catalog.existingMock?, entities_inOrder, List.find?_append, hsources, Option.none_or]

/-- Every order of the files leaves the same look-ups exactly when no name is contested. -/
theorem forall_agrees_iff (generation : Generation) :
    (∀ sources mocks, sources ~ generation.sources → mocks ~ generation.mocks →
      Catalog.Agrees ⟨(generation.inOrder sources mocks).entities⟩
        ⟨(generation.inOrder generation.sources generation.mocks).entities⟩) ↔
      generation.Uncontested := by
  constructor
  · intro hall name
    constructor
    · apply Work.uncontested_of_find?_flatMap_eq fun path entity hmem => (of_mem_sourceWork hmem).1
      intro order hperm
      simpa only [protocol?_inOrder] using (hall order _ hperm (.refl _)).protocol name
    · apply Work.uncontested_of_find?_flatMap_eq fun path entity hmem => (of_mem_mockWork hmem).1
      intro order hperm
      simpa only [existingMock?_inOrder] using (hall _ order (.refl _) hperm).existingMock name
  · intro huncontested sources mocks hsources hmocks
    constructor <;> intro name
    · simpa only [protocol?_inOrder] using (huncontested name).1.find?_flatMap_eq hsources
    · simpa only [existingMock?_inOrder] using (huncontested name).2.find?_flatMap_eq hmocks

/-! ### The output -/

theorem imports_inOrder (h : generation.Succeeds) (hsources : sources ~ generation.sources)
    (hmocks : mocks ~ generation.mocks) :
    (generation.inOrder sources mocks).imports =
      (generation.inOrder generation.sources generation.mocks).imports := by
  have hread : (Collection.gather generation.sourceWork {} sources).imports =
      (Collection.gather generation.sourceWork {} generation.sources).imports :=
    (Collection.imports_gather_perm
      (GenerationSettings.ownsImports_treeFile.agrees h.sources_distinct) hsources.symm).symm
  calc (generation.inOrder sources mocks).imports
      = (generation.inOrder sources generation.mocks).imports :=
        (Collection.imports_gather_perm
          (GenerationSettings.ownsImports_indexedFile.agrees h.mocks_distinct) hmocks.symm).symm
    _ = (generation.inOrder generation.sources generation.mocks).imports := by
        simp only [inOrder, Collection.imports_gather] at hread ⊢
        rw [hread]

theorem Uncontested.output_inOrder (huncontested : generation.Uncontested)
    (h : generation.Succeeds) (options : OutputOptions) (hsources : sources ~ generation.sources)
    (hmocks : mocks ~ generation.mocks) :
    generation.output options (generation.inOrder sources mocks) =
      generation.output options (generation.inOrder generation.sources generation.mocks) := by
  have hagrees := (forall_agrees_iff generation).mpr huncontested sources mocks hsources hmocks
  rw [output, output, imports_inOrder h hsources hmocks, Output.render_eq_of_agrees hagrees]

/-- **When the output does not depend on the limit.** It is the same for every limit and every
interleaving exactly when it is the same for every order of the files; what the catalog looks up is
the same exactly when no name is contested; and where none is contested the output is the same. -/
theorem independent_iff (h : generation.Succeeds) (options : OutputOptions) :
    (∀ limit, ∃ collection, generation.Collects limit collection) ∧
    (generation.Independent options ↔
      ∀ sources mocks, sources ~ generation.sources → mocks ~ generation.mocks →
        generation.output options (generation.inOrder sources mocks) =
          generation.output options
            (generation.inOrder generation.sources generation.mocks)) ∧
    ((∀ limit collection sequential, generation.Collects limit collection →
        generation.Collects none sequential →
          Catalog.Agrees ⟨collection.entities⟩ ⟨sequential.entities⟩) ↔
      generation.Uncontested) ∧
    (generation.Uncontested → generation.Independent options) := by
  refine ⟨exists_collects h, forall_collects_iff h,
    (forall_collects_iff h).trans (forall_agrees_iff generation), ?_⟩
  intro huncontested
  refine (forall_collects_iff h).mpr ?_
  intro sources mocks hsources hmocks
  exact huncontested.output_inOrder h options hsources hmocks

def protocolText (accessLevel name : String) : String :=
  "/// @mockable\n" ++ accessLevel ++ "protocol " ++ name ++ " \x7b\x7d"

/-- The tree of such a file, for a name of three letters. -/
def protocolTree (levelLength : Nat) : SyntaxTree :=
  .node "source_file" true 0 (29 + levelLength) none
    [.node "protocol_declaration" true 14 (29 + levelLength) none
      [.node "modifiers" true 14 (14 + levelLength) none
          [.node "visibility_modifier" true 14 (14 + levelLength) none []],
        .node "type_identifier" true (23 + levelLength) (26 + levelLength) (some "name") [],
        .node "protocol_body" true (27 + levelLength) (29 + levelLength) (some "body") []]]

/-- The first file declares a protocol `Api`, the second a public one of the given name. -/
def twoFiles (name : String) : Generation where
  settings := {}
  disk path :=
    if path = ⟨"A.swift"⟩ then .ok (Text.Utf8.encode (protocolText "" "Api").toList)
    else if path = ⟨"B.swift"⟩ then .ok (Text.Utf8.encode (protocolText "public " name).toList)
    else .error .notFound
  grammar source := protocolTree (if source = protocolText "" "Api" then 0 else 7)
  index _ _ := .ok []
  sources := [⟨"A.swift"⟩, ⟨"B.swift"⟩]
  mocks := []

def protocolOf (path : Path) (accessLevel name : String) (length : Nat) : Entity where
  name
  kind := .protocolType
  path
  accessLevel
  attributes := []
  inheritedTypes := []
  isAnnotated := true
  isProcessed := false
  offset := 14
  length
  members := []

def firstProtocol : Entity :=
  protocolOf ⟨"A.swift"⟩ "" "Api" 15

def secondProtocol (name : String) : Entity :=
  protocolOf ⟨"B.swift"⟩ "public" name 22

theorem succeeds_of_succeeds {name : String}
    (h : ∀ path ∈ (twoFiles name).sources, (twoFiles name).sourceWork.succeeds path = true) :
    (twoFiles name).Succeeds where
  sources_distinct := by
    have hdistinct : Path.Distinct [⟨"A.swift"⟩, ⟨"B.swift"⟩] := by
      unfold Path.Distinct
      decide
    exact hdistinct
  mocks_distinct := .nil
  sources_ok path hmem := Work.succeeds_iff.mp (h path hmem)
  mocks_ok path hmem := by simp [twoFiles] at hmem

theorem succeeds_twoFiles_app : (twoFiles "App").Succeeds :=
  succeeds_of_succeeds (by decide +kernel)

theorem uncontested_twoFiles_app : (twoFiles "App").Uncontested := by
  have hfirst : (twoFiles "App").sourceWork.entitiesOf ⟨"A.swift"⟩ = [firstProtocol] := by
    decide +kernel
  have hsecond : (twoFiles "App").sourceWork.entitiesOf ⟨"B.swift"⟩ = [secondProtocol "App"] := by
    decide +kernel
  refine fun name => ⟨?_, fun path hmem => by simp [twoFiles] at hmem⟩
  have hnames : ∀ path ∈ (twoFiles "App").sources,
      (twoFiles "App").sourceWork.Declares
        (fun entity => Catalog.isProtocol entity && entity.name == name) path →
          path = ⟨"A.swift"⟩ ∧ name = "Api" ∨ path = ⟨"B.swift"⟩ ∧ name = "App" := by
    rintro path hmem ⟨entity, hentity, hmatching⟩
    simp only [twoFiles, List.mem_cons, List.not_mem_nil, or_false] at hmem
    rcases hmem with rfl | rfl
    · simp_all [firstProtocol, protocolOf]
    · simp_all [secondProtocol, protocolOf]
  intro first hmem second hother hdeclares hdeclared
  rcases hnames first hmem hdeclares with ⟨rfl, rfl⟩ | ⟨rfl, rfl⟩ <;>
    rcases hnames second hother hdeclared with ⟨rfl, heq⟩ | ⟨rfl, heq⟩
  · rfl
  · simp at heq
  · simp at heq
  · rfl

/-- Files that declare different protocols give one output in every order. -/
theorem independent_of_different_names :
    (twoFiles "App").Succeeds ∧ (twoFiles "App").Uncontested ∧ (twoFiles "App").Independent {} :=
  ⟨succeeds_twoFiles_app, uncontested_twoFiles_app,
    (independent_iff succeeds_twoFiles_app {}).2.2.2 uncontested_twoFiles_app⟩

/-- Without imports and a header the output for one target holds its class alone. -/
theorem output_eq_assemble (target : Entity) (text : String)
    (himports : ∀ path, collection.imports.statements path = [])
    (hprotocols : Catalog.protocols ⟨collection.entities⟩ = [target])
    (htarget : Catalog.isTarget ⟨collection.entities⟩ target = true)
    (htext : (Output.targetText generation.disk ⟨collection.entities⟩ {} target .empty).1 =
      .ok text) : generation.output {} collection = .ok (Output.assemble [text]) := by
  have hfiles : ∀ files : List Path, files.flatMap collection.imports.statements = [] :=
    fun files => by simp [himports]
  have hsection : Output.importSection ⟨collection.entities⟩ collection.imports {} = [] := by
    simp [Output.importSection, OutputOptions.importLines, OutputOptions.requestedModules, hfiles,
      OutputOptions.sortedSet, OutputOptions.sortedSet.dropRepeats]
  have htargets : Catalog.targets ⟨collection.entities⟩ = [target] := by
    simp [Catalog.targets, hprotocols, htarget]
  cases hcached : Output.targetText generation.disk ⟨collection.entities⟩ {} target .empty with
  | mk result cache =>
      rw [hcached] at htext
      cases htext
      simp only [output, Output.render, htargets, Output.targetTexts, hcached, hsection,
        OutputOptions.headerSection]
      rfl

/-- Files that declare one protocol do not: the access level of the class is that of the file which
is done first. -/
theorem not_independent_of_same_name :
    ¬∀ (generation : Generation) (options : OutputOptions), generation.Succeeds →
      generation.Independent options := by
  intro hall
  have hsucceeds : (twoFiles "Api").Succeeds := succeeds_of_succeeds (by decide +kernel)
  have hlisted : (twoFiles "Api").inOrder (twoFiles "Api").sources [] =
      ⟨[firstProtocol, secondProtocol "Api"], ⟨[(⟨"A.swift"⟩, []), (⟨"B.swift"⟩, [])]⟩, 2⟩ := by
    decide +kernel
  have hswapped : (twoFiles "Api").inOrder [⟨"B.swift"⟩, ⟨"A.swift"⟩] [] =
      ⟨[secondProtocol "Api", firstProtocol], ⟨[(⟨"A.swift"⟩, []), (⟨"B.swift"⟩, [])]⟩, 2⟩ := by
    decide +kernel
  have himports : ∀ path : Path,
      ImportMap.statements ⟨[(⟨"A.swift"⟩, []), (⟨"B.swift"⟩, [])]⟩ path = [] := by
    intro path
    simp only [ImportMap.statements, List.find?_cons, List.find?_nil]
    split <;> grind
  have hperm : [⟨"B.swift"⟩, ⟨"A.swift"⟩] ~ (twoFiles "Api").sources := List.Perm.swap _ _ _
  have hsame := hall (twoFiles "Api") {} hsucceeds _ _ _
    (collects_inOrder hsucceeds hperm (.refl _)) ((collects_none_iff hsucceeds).mpr rfl)
  rw [show (twoFiles "Api").mocks = [] from rfl, hlisted, hswapped,
    output_eq_assemble (secondProtocol "Api") ("public class ApiMock: Api \x7b\n" ++
      "    private var _doneInit = false\n    public init() \x7b _doneInit = true \x7d\n\x7d")
      himports rfl (by decide +kernel) (by cbv),
    output_eq_assemble firstProtocol ("class ApiMock: Api \x7b\n" ++
      "    private var _doneInit = false\n    init() \x7b _doneInit = true \x7d\n\x7d")
      himports rfl (by decide +kernel) (by cbv)] at hsame
  revert hsame
  decide

end Generation

end Understudy
