import Understudy.Output
import Understudy.Proofs.Catalog.Agreement
import Understudy.Proofs.Catalog.Flatten
import Understudy.Proofs.Mock.Texts

/-!
# What an output file holds

The sections of an output file are the header, the imports and one class for each target, where the
targets are read off the list of entities: a name has a class if its first protocol is annotated and
no existing class is named as its mock. Once there is a class of each such name in the list, nothing
is left to write.
-/

namespace Understudy

namespace Catalog

/-- A processed class has the name of a mock. -/
def HasMock (entities : List Entity) (name : String) : Prop :=
  ∃ entity ∈ entities, isProcessedClass entity = true ∧ entity.name = name ++ "Mock"

/-- The first protocol of a name is annotated and the name has no mock. -/
structure Selects (entities : List Entity) (name : String) (entity : Entity) : Prop where
  first : (entities.find? fun other => isProtocol other && other.name == name) = some entity
  annotated : entity.isAnnotated = true
  unmocked : ¬HasMock entities name

variable {entities mocks : List Entity} {name : String} {entity : Entity}

theorem isSome_existingMock?_iff :
    (existingMock? ⟨entities⟩ name).isSome = true ↔ HasMock entities name ∧ name ≠ "" := by
  simp only [existingMock?, List.find?_isSome, beq_iff_eq, mockOf?_eq_some_iff, HasMock]
  constructor
  · rintro ⟨mock, hmem, hclass, hname, hne⟩
    exact ⟨⟨mock, hmem, hclass, hname⟩, hne⟩
  · rintro ⟨⟨mock, hmem, hclass, hname⟩, hne⟩
    exact ⟨mock, hmem, hclass, hname, hne⟩

theorem isNone_existingMock?_iff (hname : name ≠ "") :
    (existingMock? ⟨entities⟩ name).isNone = true ↔ ¬HasMock entities name := by
  rw [← Option.not_isSome, Bool.not_eq_true', ← Bool.not_eq_true, isSome_existingMock?_iff,
    and_iff_left hname]

theorem name_ne_of_protocol? (hnames : ∀ entity ∈ entities, entity.name ≠ "")
    (h : protocol? ⟨entities⟩ name = some entity) : name ≠ "" := by
  rw [← (of_protocol?_eq_some h).2]
  exact hnames entity (List.mem_of_find?_eq_some h)

/-- A target of a name is what the list of entities selects for it. -/
theorem mem_targets_iff_selects (hnames : ∀ entity ∈ entities, entity.name ≠ "") :
    entity ∈ targets ⟨entities⟩ ∧ entity.name = name ↔ Selects entities name entity := by
  rw [mem_targets_iff]
  constructor
  · rintro ⟨⟨hprotocol, htarget⟩, rfl⟩
    have hname := name_ne_of_protocol? hnames hprotocol
    rw [isTarget, Bool.and_eq_true, isNone_existingMock?_iff hname] at htarget
    exact ⟨hprotocol, htarget.1, htarget.2⟩
  · intro h
    have hprotocol : protocol? ⟨entities⟩ name = some entity := h.first
    have hname := name_ne_of_protocol? hnames hprotocol
    obtain ⟨_, rfl⟩ := of_protocol?_eq_some hprotocol
    rw [isTarget, Bool.and_eq_true, isNone_existingMock?_iff hname]
    exact ⟨⟨hprotocol, h.annotated, h.unmocked⟩, rfl⟩

/-- The names with a known literal are those of the targets and those that have a mock. -/
theorem lookup_knownLiterals_eq_some_iff {literal : String} :
    (knownLiterals ⟨entities⟩).lookup name = some literal ↔
      literal = name ++ "Mock()" ∧
        ((∃ target ∈ targets ⟨entities⟩, target.name = name) ∨
          HasMock entities name ∧ name ≠ "") := by
  have hknown : name ∈ ((protocols ⟨entities⟩).filter Entity.isAnnotated).map Entity.name ++
      entities.filterMap mockOf? ↔
        (∃ target ∈ targets ⟨entities⟩, target.name = name) ∨
          HasMock entities name ∧ name ≠ "" := by
    rw [List.mem_append, mem_annotated_iff, mem_mocked_iff, isSome_existingMock?_iff]
    constructor
    · rintro (⟨first, hprotocol, hannotated⟩ | hmocked)
      · -- an annotated protocol that is no target has a mock
        by_cases hmocked : HasMock entities name ∧ name ≠ ""
        · exact .inr hmocked
        · obtain ⟨_, rfl⟩ := of_protocol?_eq_some hprotocol
          rw [← isSome_existingMock?_iff, Bool.not_eq_true, Option.isSome_eq_false_iff] at hmocked
          refine .inl ⟨first, mem_targets_iff.mpr ⟨hprotocol, ?_⟩, rfl⟩
          rw [isTarget, hannotated, hmocked, Bool.and_self]
      · exact .inr hmocked
    · rintro (⟨target, htarget, rfl⟩ | hmocked)
      · obtain ⟨hprotocol, hisTarget⟩ := mem_targets_iff.mp htarget
        exact .inl ⟨target, hprotocol, (Bool.and_eq_true_iff.mp hisTarget).1⟩
      · exact .inr hmocked
  rw [knownLiterals, lookup_map_literal]
  simp only [hknown, Option.ite_none_right_eq_some, Option.some.injEq]
  exact and_comm.trans (and_congr_left' eq_comm)

/-- With a mock of each target nothing is left to be mocked. -/
theorem targets_append_eq_nil (hclasses : ∀ mock ∈ mocks, isProcessedClass mock = true)
    (hnames : ∀ entity ∈ entities, entity.name ≠ "")
    (hmocks : ∀ target ∈ targets ⟨entities⟩, HasMock mocks target.name) :
    targets ⟨entities ++ mocks⟩ = [] := by
  refine List.eq_nil_iff_forall_not_mem.mpr ?_
  intro target htarget
  obtain ⟨hprotocol, hisTarget⟩ := mem_targets_iff.mp htarget
  obtain ⟨hannotated, hunmocked⟩ := Bool.and_eq_true_iff.mp hisTarget
  have hnone : (mocks.find? fun mock => isProtocol mock && mock.name == target.name) = none := by
    refine List.find?_eq_none.mpr ?_
    intro mock hmock
    simp [isProtocol_eq_false (hclasses mock hmock)]
  rw [protocol?, List.find?_append, hnone, Option.or_none] at hprotocol
  rw [isNone_existingMock?_iff (name_ne_of_protocol? hnames hprotocol)] at hunmocked
  -- the target is one of the old list already, unless a mock of it was there
  have hold : target ∈ targets ⟨entities⟩ := by
    refine ((mem_targets_iff_selects hnames).mpr ⟨hprotocol, hannotated, ?_⟩).1
    rintro ⟨mock, hmem, hmock⟩
    exact hunmocked ⟨mock, List.mem_append_left _ hmem, hmock⟩
  obtain ⟨mock, hmem, hmock⟩ := hmocks target hold
  exact hunmocked ⟨mock, List.mem_append_right _ hmem, hmock⟩

end Catalog

namespace Output

open Catalog (plainProtocol plainProperty baseMock)

variable {disk : Disk} {entities : List Entity} {catalog : Catalog} {options : OutputOptions}
  {cache after : SourceCache} {targets : List Entity} {texts : List String} {text : String}

/-- The classes of targets with their flattened members, rendered one after another, where each
goes on with the cache that the one before leaves. -/
inductive ClassTexts (disk : Disk) (catalog : Catalog) (options : OutputOptions) :
    SourceCache → List Entity → List String → SourceCache → Prop where
  | nil {cache : SourceCache} : ClassTexts disk catalog options cache [] [] cache
  | cons {target : Entity} {rest : List Entity} {text : String} {texts : List String}
      {cache middle after : SourceCache} :
      Mock.classText disk catalog.knownLiterals target (catalog.flatten target) options.isFinal
        cache = (.ok text, middle) →
      ClassTexts disk catalog options middle rest texts after →
      ClassTexts disk catalog options cache (target :: rest) (text :: texts) after

theorem classTexts_of_targetTexts
    (h : targetTexts disk catalog options targets cache = (.ok texts, after)) :
    ClassTexts disk catalog options cache targets texts after := by
  induction targets generalizing cache texts with
  | nil =>
      cases h
      exact .nil
  | cons target rest ih =>
      rw [targetTexts] at h
      split at h
      · cases h
      · next text middle htext =>
        cases hrest : targetTexts disk catalog options rest middle with
        | mk result last =>
          cases result with
          | error failure => simp [hrest, Except.map] at h
          | ok later =>
              rw [hrest] at h
              cases h
              exact .cons htext (ih hrest)

/-- The line that opens the class of a target. -/
def openingLine (options : OutputOptions) (target : Entity) : String :=
  Layout.keyword target.accessLevel ++ Layout.keyword (if options.isFinal then "final" else "") ++
    "class " ++ target.mockName ++ ": " ++ target.name ++ " \x7b"

theorem ClassTexts.forall₂_opens (h : ClassTexts disk catalog options cache targets texts after) :
    List.Forall₂ (fun target text =>
      ∃ lines, text = Layout.joinLines (openingLine options target :: lines)) targets texts := by
  induction h with
  | nil => exact .nil
  | cons htext _ ih =>
      obtain ⟨members, _, rfl⟩ := Mock.exists_texts_of_classText (congrArg Prod.fst htext)
      exact .cons ⟨_, rfl⟩ ih

theorem render_of_targets_eq_nil (h : Catalog.targets ⟨entities⟩ = []) (disk : Disk)
    (imports : ImportMap) (options : OutputOptions) (cache : SourceCache) :
    render disk entities imports options cache =
      (.ok (assemble (options.headerSection ++ importSection ⟨entities⟩ imports options)),
        cache) := by
  simp [render, h, targetTexts, Except.map]

/-- **What an output file holds.** When entities have names and are rendered at all, the sections
are the header, the imports and one class for each target with its flattened members, joined by
blank lines and ended by a line feed. The targets come in strictly increasing order of their names,
and the target of a name is the first protocol of that name, where it is annotated and the name has
no mock. The literals that are known are those of the targets and of the names that have a mock. So
with a mock of each target in the list the next output has no class. -/
theorem render_eq_ok_sections (hnames : ∀ entity ∈ entities, entity.name ≠ "") {imports : ImportMap}
    (h : (render disk entities imports options cache).1 = .ok text) :
    ∃ texts after,
      ClassTexts disk ⟨entities⟩ options cache (Catalog.targets ⟨entities⟩) texts after ∧
      List.Forall₂ (fun target text =>
        ∃ lines, text = Layout.joinLines (openingLine options target :: lines))
        (Catalog.targets ⟨entities⟩) texts ∧
      text = "\n\n".intercalate
        (options.headerSection ++ importSection ⟨entities⟩ imports options ++ texts) ++ "\n" ∧
      (Catalog.targets ⟨entities⟩).Pairwise (fun left right => left.name < right.name) ∧
      (∀ name target, target ∈ Catalog.targets ⟨entities⟩ ∧ target.name = name ↔
        Catalog.Selects entities name target) ∧
      (∀ name literal, (Catalog.knownLiterals ⟨entities⟩).lookup name = some literal ↔
        literal = name ++ "Mock()" ∧
          ((∃ target ∈ Catalog.targets ⟨entities⟩, target.name = name) ∨
            Catalog.HasMock entities name ∧ name ≠ "")) ∧
      ∀ mocks : List Entity, (∀ mock ∈ mocks, Catalog.isProcessedClass mock = true) →
        (∀ target ∈ Catalog.targets ⟨entities⟩, Catalog.HasMock mocks target.name) →
        ∀ disk imports options cache,
          render disk (entities ++ mocks) imports options cache =
            (.ok ("\n\n".intercalate
              (options.headerSection ++ importSection ⟨entities ++ mocks⟩ imports options) ++ "\n"),
              cache) := by
  obtain ⟨texts, htexts, rfl⟩ := exists_of_map_eq_ok h
  have hclasses : ClassTexts disk ⟨entities⟩ options cache (Catalog.targets ⟨entities⟩) texts
      (targetTexts disk ⟨entities⟩ options (Catalog.targets ⟨entities⟩) cache).2 :=
    classTexts_of_targetTexts (Prod.ext htexts rfl)
  refine ⟨texts, _, hclasses, hclasses.forall₂_opens, rfl, Catalog.pairwise_targets _, ?_, ?_, ?_⟩
  · exact fun name target => Catalog.mem_targets_iff_selects hnames
  · exact fun name literal => Catalog.lookup_knownLiterals_eq_some_iff
  · intro mocks hprocessed hmocks disk imports options cache
    exact render_of_targets_eq_nil
      (Catalog.targets_append_eq_nil hprocessed hnames hmocks) disk imports options cache

def unmockedApi : Entity :=
  plainProtocol "Api" [] [plainProperty "id" "Int"]

/-- Two annotated protocols, of which one has a mock, and one that is not annotated. -/
def mixedEntities : List Entity :=
  [plainProtocol "Base" [] [], unmockedApi, baseMock,
    { plainProtocol "Other" [] [] with isAnnotated := false }]

def apiMock : Entity :=
  { plainProtocol "ApiMock" ["Api"] [] with kind := .classType, isProcessed := true }

theorem targets_mixedEntities : Catalog.targets ⟨mixedEntities⟩ = [unmockedApi] := by
  have hfiltered : (Catalog.protocols ⟨mixedEntities⟩).filter (Catalog.isTarget ⟨mixedEntities⟩) =
      [unmockedApi] := by
    decide +kernel
  rw [Catalog.targets, hfiltered, List.mergeSort_singleton]

theorem exists_render_mixedEntities :
    ∃ text, (render (fun _ => .error .notFound) mixedEntities {} {} .empty).1 = .ok text := by
  have hmembers : Catalog.flatten ⟨mixedEntities⟩ unmockedApi = unmockedApi.members := by
    simp only [Catalog.flatten, Catalog.lineage, unmockedApi, plainProtocol, Catalog.walk]
    decide +kernel
  have hfresh : ∀ member ∈ unmockedApi.members, member.isProcessed = false := by decide
  have hclass := fun known => @Mock.classText_of_fresh known (fun _ => .error .notFound)
    unmockedApi false .empty _ hfresh
  simp only [render, targets_mixedEntities, targetTexts, targetText, hmembers, hclass]
  exact ⟨_, rfl⟩

theorem importSection_of_no_imports (catalog : Catalog) : importSection catalog {} {} = [] := by
  have hstatements : (catalog.targets.flatMap catalog.contributingFiles).flatMap
      (ImportMap.statements {}) = [] :=
    List.flatMap_eq_nil_iff.mpr fun _ _ => rfl
  simp [importSection, OutputOptions.importLines, OutputOptions.requestedModules, hstatements,
    OutputOptions.sortedSet, OutputOptions.sortedSet.dropRepeats]

/-- The annotated protocol without a mock is rendered once, and not again with its mock. -/
theorem render_eq_ok_sections_of_mixedEntities :
    (∀ entity ∈ mixedEntities, entity.name ≠ "") ∧
    Catalog.Selects mixedEntities "Api" unmockedApi ∧
    (∀ target, ¬Catalog.Selects mixedEntities "Base" target) ∧
    ∃ text lines,
      (render (fun _ => .error .notFound) mixedEntities {} {} .empty).1 = .ok text ∧
      text = Layout.joinLines ("class ApiMock: Api \x7b" :: lines) ++ "\n" ∧
      render (fun _ => .error .notFound) (mixedEntities ++ [apiMock]) {} {} .empty =
        (.ok "\n", .empty) := by
  have hnames : ∀ entity ∈ mixedEntities, entity.name ≠ "" := by decide
  obtain ⟨text, htext⟩ := exists_render_mixedEntities
  obtain ⟨texts, _, _, hopens, hsections, _, hselects, _, hagain⟩ :=
    render_eq_ok_sections hnames htext
  rw [targets_mixedEntities] at hopens hselects hagain
  obtain ⟨classText, _, ⟨lines, rfl⟩, hrest, rfl⟩ := List.forall₂_cons_left_iff.mp hopens
  obtain rfl := List.forall₂_nil_left_iff.mp hrest
  have hmock : ∀ target ∈ [unmockedApi], Catalog.HasMock [apiMock] target.name := by
    intro target htarget
    obtain rfl := List.mem_singleton.mp htarget
    exact ⟨apiMock, List.mem_cons_self, rfl, by decide⟩
  refine ⟨hnames, (hselects "Api" _).mp ⟨List.mem_cons_self, rfl⟩, ?_, text, lines, htext, ?_, ?_⟩
  · intro target htarget
    obtain ⟨hmem, hname⟩ := (hselects "Base" target).mpr htarget
    obtain rfl := List.mem_singleton.mp hmem
    exact absurd hname (by decide)
  · rw [hsections, importSection_of_no_imports]
    rfl
  · rw [hagain [apiMock] (by decide) hmock, importSection_of_no_imports]
    rfl

end Output

end Understudy
