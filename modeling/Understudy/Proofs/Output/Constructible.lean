import Understudy.Proofs.Output.Initializers
import Understudy.Proofs.Output.Selection

/-!
# Mocks that are built without arguments

The literal of a mocked protocol builds its mock without an argument, and it is known from the name
alone. The class has an initializer for that exactly if it has the default one, which any fresh
initializer takes the place of, or if one of the fresh ones is called without arguments and effects.
-/

namespace Understudy

open Layout

namespace Mock

variable {known : KnownLiterals} {entity : Entity} {members : List Member} {isFinal : Bool}
  {method : Method} {identifier line : String}

/-- A line opens an initializer that a literal can call: the body follows `init()` at once, without
parameters and effects between them. -/
def OpensInitializer (access line : String) : Prop :=
  ∃ required rest, (required = "" ∨ required = "required ") ∧
    line = tab 1 ++ keyword access ++ required ++ "init() \x7b" ++ rest

/-- A class opens such an initializer after the two lines at its head or in the first line of a
fresh member. -/
def OpensBareInitializer (known : KnownLiterals) (entity : Entity) (members : List Member)
    (isFinal : Bool) : Prop :=
  (∃ line ∈ (headLines entity members isFinal).drop 2,
    OpensInitializer entity.accessLevel line) ∨
  ∃ method identifier line,
    (.callable method, identifier) ∈ members.zip (Identifier.resolve members) ∧
    method.isProcessed = false ∧
    (memberLines known (.callable method, identifier)).head? = some line ∧
    OpensInitializer method.accessLevel line

/-- The names of a parameter do not close the clause that they stand in. -/
def KeepsClauseOpen (param : Param) : Prop :=
  param.isGeneric = false ∧ ')' ∉ param.label.toList ∧ ')' ∉ param.name.toList

/-- Neither the parameters nor the effects of an initializer look like the end of its head. -/
def IsLegible (initializer : Method) : Prop :=
  (∀ param ∈ initializer.params, KeepsClauseOpen param) ∧ '\x7b' ∉ initializer.effects.toList

/-- An initializer that is called without arguments of any kind, and without `try` or `await`. -/
def IsBare (initializer : Method) : Prop :=
  initializer.generics = [] ∧ initializer.params = [] ∧ initializer.effects = ""

instance : DecidablePred KeepsClauseOpen := fun _ => inferInstanceAs (Decidable (_ ∧ _ ∧ _))

instance : DecidablePred IsLegible := fun _ => inferInstanceAs (Decidable (_ ∧ _))

instance : DecidablePred IsBare := fun _ => inferInstanceAs (Decidable (_ ∧ _ ∧ _))

/-- Members whose class is built by a literal: it gets the default initializer, or one of its own is
called without arguments and effects. -/
def IsConstructible (members : List Member) : Prop :=
  freshInitializers members = [] ∨ ∃ initializer ∈ freshInitializers members, IsBare initializer

theorem not_opensInitializer_of_not_isInitializer (hinitializer : method.isInitializer = false)
    (hline : (memberLines known (.callable method, identifier)).head? = some line) :
    ¬OpensInitializer method.accessLevel line := by
  have hkind : method.kind ≠ .initializer := by simpa [Method.isInitializer] using hinitializer
  have hfirst : line = tab 1 ++ method.modifiers ++ "var " ++ Callable.counterName identifier ++
      " = 0" := by
    simpa [memberLines, Callable.lines, Callable.mockLines, Callable.recorderLines, hkind]
      using hline.symm
  rintro ⟨required, rest, hrequired, hopens⟩
  have hlists := congrArg String.toList (hfirst.symm.trans hopens)
  simp only [Callable.modifiers, String.toList_append, List.append_assoc,
    List.append_cancel_left_eq] at hlists
  -- the word after the access level is `static` or `var`, which no initializer begins with
  rcases hrequired with rfl | rfl <;> cases hstatic : method.isStatic <;>
    simp [staticWord, keyword, hstatic] at hlists

theorem exists_cons_written {param : Param} (h : KeepsClauseOpen param) :
    ∃ c rest, param.written.toList = c :: rest ∧ c ≠ ')' := by
  obtain ⟨hgeneric, hlabel, hname⟩ := h
  have hhead : ∀ {front : String} (c : Char) (rest : List Char), ')' ∉ front.toList → c ≠ ')' →
      ∃ d more, front.toList ++ c :: rest = d :: more ∧ d ≠ ')' := by
    intro front c rest hfront hc
    cases hletters : front.toList with
    | nil => exact ⟨c, rest, rfl, hc⟩
    | cons d more =>
        rw [hletters] at hfront
        exact ⟨d, more ++ c :: rest, rfl, fun heq => hfront (heq ▸ List.mem_cons_self)⟩
  rw [Param.written, hgeneric]
  simp only [Bool.false_eq_true, if_false]
  split
  · obtain ⟨d, more, heq, hd⟩ := hhead ':' (' ' :: param.type.text.toList) hname (by decide)
    exact ⟨d, more, by simpa using heq, hd⟩
  · obtain ⟨d, more, heq, hd⟩ :=
      hhead ' ' (param.name.toList ++ ':' :: ' ' :: param.type.text.toList) hlabel (by decide)
    exact ⟨d, more, by simpa using heq, hd⟩

/-- Clauses that close at once have nothing in them. -/
theorem eq_nil_of_clauses (hparams : ∀ param ∈ method.params, KeepsClauseOpen param)
    {after rest : List Char} (h : method.genericClause.toList ++
      (method.paramClause.toList ++ after) = '(' :: ')' :: rest) :
    method.generics = [] ∧ method.params = [] := by
  have hgenerics : method.generics = [] := by
    cases hgenerics : method.generics with
    | nil => rfl
    | cons generic others => simp [Callable.genericClause, hgenerics] at h
  refine ⟨hgenerics, ?_⟩
  cases hmethod : method.params with
  | nil => rfl
  | cons param others =>
      obtain ⟨c, more, hwritten, hc⟩ := exists_cons_written (hparams param (by simp [hmethod]))
      have hjoined :
          ∃ later, (commaList (method.params.map Param.written)).toList = c :: later := by
        rw [hmethod]
        cases others with
        | nil => exact ⟨more, by simp [commaList, hwritten]⟩
        | cons next others =>
            rw [commaList, List.map_cons, String.intercalate_cons_of_ne_nil (by simp),
              String.toList_append, String.toList_append, hwritten]
            exact ⟨_, rfl⟩
      obtain ⟨later, hlater⟩ := hjoined
      simp [Callable.genericClause, hgenerics, Callable.paramClause, hlater, hc] at h

theorem head_initializerLines (hinitializer : method.isInitializer = true)
    (hline : (memberLines known (.callable method, identifier)).head? = some line) :
    line = tab 1 ++ keyword method.accessLevel ++ "required init" ++
      method.genericClause ++ method.paramClause ++ spaced method.effects ++ " \x7b" := by
  have hkind : method.kind = .initializer := by simpa [Method.isInitializer] using hinitializer
  simpa [memberLines, Callable.lines, Callable.initializerLines, hkind] using hline.symm

theorem clauses_of_nil (hgenerics : method.generics = []) (hparams : method.params = []) :
    method.genericClause ++ method.paramClause = "()" := by
  simp [Callable.genericClause, hgenerics, Callable.paramClause, hparams, commaList]

theorem opensInitializer_of_isBare (hbare : IsBare method)
    (hinitializer : method.isInitializer = true)
    (hline : (memberLines known (.callable method, identifier)).head? = some line) :
    OpensInitializer method.accessLevel line := by
  obtain ⟨hgenerics, hparams, heffects⟩ := hbare
  have hsplit : "required init" = "required " ++ "init" := rfl
  have hopen : "init() \x7b" = "init" ++ ("()" ++ " \x7b") := rfl
  refine ⟨"required ", "", .inr rfl, ?_⟩
  simp only [head_initializerLines hinitializer hline, heffects, spaced, hsplit, hopen,
    ← clauses_of_nil hgenerics hparams, String.append_assoc, beq_self_eq_true, if_true,
    String.append_empty]

theorem isBare_of_opensInitializer (hinitializer : method.isInitializer = true)
    (hlegible : IsLegible method)
    (hline : (memberLines known (.callable method, identifier)).head? = some line)
    (hopens : OpensInitializer method.accessLevel line) : IsBare method := by
  obtain ⟨required, rest, hrequired, hopens⟩ := hopens
  have hlists := congrArg String.toList
    ((head_initializerLines hinitializer hline).symm.trans hopens)
  simp only [String.toList_append, List.append_assoc, List.append_cancel_left_eq] at hlists
  have hclauses : method.genericClause.toList ++ (method.paramClause.toList ++
      ((spaced method.effects).toList ++ " \x7b".toList)) =
        '(' :: ')' :: ' ' :: '\x7b' :: rest.toList := by
    rcases hrequired with rfl | rfl
    · simp at hlists
    · simpa using hlists
  obtain ⟨hgenerics, hparams⟩ := eq_nil_of_clauses hlegible.1 hclauses
  refine ⟨hgenerics, hparams, ?_⟩
  have hclause := congrArg String.toList (clauses_of_nil hgenerics hparams)
  rw [String.toList_append] at hclause
  rw [← List.append_assoc, hclause] at hclauses
  by_contra heffects
  cases hletters : method.effects.toList with
  | nil => exact heffects (by simpa using hletters)
  | cons c letters =>
      -- the word after `init()` would begin with the brace
      have hbrace : c = '\x7b' := by
        have hspaced : spaced method.effects = " " ++ method.effects := by simp [spaced, heffects]
        simp [hspaced, hletters] at hclauses
        exact hclauses.1
      exact hlegible.2 (by simp [hletters, hbrace])

theorem drop_headLines : (headLines entity members isFinal).drop 2 =
    if freshInitializers members = [] then
      [tab 1 ++ keyword entity.accessLevel ++ "init() \x7b _doneInit = true \x7d"]
    else [] := by
  have hfresh : hasFreshInitializer members = true ↔ freshInitializers members ≠ [] := by
    rw [hasFreshInitializer, List.any_eq_true]
    constructor
    · rintro ⟨member, hmem, hinitializer⟩
      obtain ⟨hinitializer, hunprocessed⟩ := Bool.and_eq_true_iff.mp hinitializer
      cases member with
      | stored property => cases hinitializer
      | callable method =>
          exact List.ne_nil_of_mem (mem_freshInitializers_iff.mpr
            ⟨hmem, hinitializer, (Bool.not_eq_true' _).mp hunprocessed⟩)
    · intro hsome
      obtain ⟨method, hmethod⟩ := List.exists_mem_of_ne_nil _ hsome
      obtain ⟨hmem, hinitializer, hunprocessed⟩ := mem_freshInitializers_iff.mp hmethod
      exact ⟨_, hmem,
        by simp [Member.isInitializer, Member.isProcessed, hinitializer, hunprocessed]⟩
  by_cases hnone : freshInitializers members = []
  · have hdefault : hasFreshInitializer members = false := by
      rw [← Bool.not_eq_true, hfresh, not_not]
      exact hnone
    simp [headLines, hdefault, hnone]
  · simp [headLines, hfresh.mpr hnone, hnone]

theorem exists_opensInitializer_head_iff :
    (∃ line ∈ (headLines entity members isFinal).drop 2,
      OpensInitializer entity.accessLevel line) ↔ freshInitializers members = [] := by
  rw [drop_headLines]
  split
  · next hnone =>
    refine iff_of_true ⟨_, List.mem_singleton_self _, "", " _doneInit = true \x7d",
      .inl rfl, ?_⟩ hnone
    simp [String.append_assoc]
  · next hsome => simp [hsome]

theorem opensBareInitializer_of_isConstructible (h : IsConstructible members) :
    OpensBareInitializer known entity members isFinal := by
  rcases h with hnone | ⟨initializer, hmem, hbare⟩
  · exact .inl (exists_opensInitializer_head_iff.mpr hnone)
  · obtain ⟨hmember, hinitializer, hfresh⟩ := mem_freshInitializers_iff.mp hmem
    obtain ⟨identifier, hpair⟩ := Identifier.exists_mem_zip_resolve hmember
    obtain ⟨line, rest, hlines⟩ := List.ne_nil_iff_exists_cons.mp
      (memberLines_ne_nil known (.callable initializer, identifier))
    have hfirst := congrArg List.head? hlines
    exact .inr ⟨initializer, identifier, line, hpair, hfresh, hfirst,
      opensInitializer_of_isBare hbare hinitializer hfirst⟩

theorem isConstructible_of_opensBareInitializer
    (hlegible : ∀ initializer ∈ freshInitializers members, IsLegible initializer)
    (h : OpensBareInitializer known entity members isFinal) : IsConstructible members := by
  rcases h with hhead | ⟨method, identifier, line, hpair, hfresh, hline, hopens⟩
  · exact .inl (exists_opensInitializer_head_iff.mp hhead)
  · cases hinitializer : method.isInitializer with
    | true =>
        have hmem := mem_freshInitializers_iff.mpr
          ⟨(List.of_mem_zip hpair).1, hinitializer, hfresh⟩
        exact .inr ⟨method, hmem,
          isBare_of_opensInitializer hinitializer (hlegible method hmem) hline hopens⟩
    | false => exact absurd hopens (not_opensInitializer_of_not_isInitializer hinitializer hline)

/-- A text of a class is that of a fresh member, or stands in a file for a processed member that is
no initializer. -/
theorem of_mem_texts {disk : Disk} {cache : SourceCache} {pairs : List (Member × String)}
    {texts : List String} (h : (memberTexts disk known pairs cache).1 = .ok texts) {text : String}
    (hmem : text ∈ texts) :
    (∃ pair ∈ pairs, pair.1.isProcessed = false ∧ text = joinLines (memberLines known pair)) ∨
    ∃ pair ∈ pairs, pair.1.isProcessed = true ∧ pair.1.isInitializer = false ∧
      ∃ original, text = placed pair.1 original := by
  induction pairs generalizing cache texts with
  | nil =>
      cases h
      simp at hmem
  | cons head rest ih =>
      obtain ⟨member, identifier⟩ := head
      obtain ⟨text?, middle, later, htext, hlater, rfl⟩ := memberTexts_cons_eq_ok h
      rcases List.mem_append.mp hmem with hfirst | hmem
      · cases hfresh : member.isProcessed with
        | false =>
            rw [memberText_of_fresh hfresh] at htext
            cases htext
            refine .inl ⟨_, List.mem_cons_self, hfresh, ?_⟩
            simpa [placed_of_fresh hfresh] using hfirst
        | true =>
            obtain ⟨original, rfl, rfl⟩ : ∃ original, text? = some original ∧
                text = placed member original := by
              cases text? with
              | none => simp at hfirst
              | some original => exact ⟨original, rfl, by simpa using hfirst⟩
            refine .inr ⟨_, List.mem_cons_self, hfresh, ?_, original, rfl⟩
            -- a processed initializer has no text
            cases member with
            | stored property => rfl
            | callable method =>
                have hmethod : method.isProcessed = true := hfresh
                by_contra hinitializer
                rw [Bool.not_eq_false] at hinitializer
                have hmethodInitializer : method.isInitializer = true := hinitializer
                simp [memberText, methodText, hmethod, hmethodInitializer] at htext
      · rcases ih hlater hmem with ⟨pair, hpair, hrest⟩ | ⟨pair, hpair, hrest⟩
        · exact .inl ⟨pair, List.mem_cons_of_mem _ hpair, hrest⟩
        · exact .inr ⟨pair, List.mem_cons_of_mem _ hpair, hrest⟩

theorem exists_line_of_opensBareInitializer {disk : Disk} {cache : SourceCache} {text : String}
    (h : (classText disk known entity members isFinal cache).1 = .ok text)
    (hopens : OpensBareInitializer known entity members isFinal) :
    ∃ access line before after, OpensInitializer access line ∧
      text = joinLines (before ++ line :: after) := by
  rcases hopens with
    ⟨line, hline, hopens⟩ | ⟨method, identifier, line, hpair, hfresh, hline, hopens⟩
  · obtain ⟨texts, _, rfl⟩ := exists_texts_of_classText h
    obtain ⟨before, after, hhead⟩ := List.append_of_mem (List.mem_of_mem_drop hline)
    exact ⟨_, line, before, after ++ texts ++ ["\x7d"], hopens, by simp [hhead]⟩
  · obtain ⟨before, after, rfl⟩ := exists_lines_of_pair h hpair hfresh
    obtain ⟨rest, hlines⟩ := List.head?_eq_some_iff.mp hline
    exact ⟨_, line, before, rest ++ after, hopens, by simp [hlines]⟩

end Mock

/-! ### The literal of a target and its class -/

namespace Catalog

open Mock

variable {catalog : Catalog} {target : Entity}

/-- **When a mock is built without arguments.** The literal of a target is known whatever its class
declares. The class consists of the lines at its head, the texts of fresh members and those of
processed ones that are no initializers. If no fresh initializer is left along the lineage, so that
the class has the default one, or one that is left is called without arguments and effects, the text
has the line of that initializer. A declared initializer takes the place of the default one: none of
these lines opens an initializer that the literal can call otherwise. -/
theorem opensBareInitializer_of_target {disk : Disk} {options : OutputOptions}
    {cache : SourceCache} {text : String} (htarget : target ∈ catalog.targets)
    (htext : (Output.targetText disk catalog options target cache).1 = .ok text) :
    catalog.knownLiterals.lookup target.name = some (target.mockName ++ "()") ∧
    (∃ texts, text = joinLines
        (headLines target (catalog.flatten target) options.isFinal ++ texts ++ ["\x7d"]) ∧
      ∀ piece ∈ texts,
        (∃ pair ∈ (catalog.flatten target).zip (Identifier.resolve (catalog.flatten target)),
          pair.1.isProcessed = false ∧
            piece = joinLines (memberLines catalog.knownLiterals pair)) ∨
        ∃ pair ∈ (catalog.flatten target).zip (Identifier.resolve (catalog.flatten target)),
          pair.1.isProcessed = true ∧ pair.1.isInitializer = false ∧
            ∃ original, piece = placed pair.1 original) ∧
    (IsConstructible (catalog.flatten target) →
      OpensBareInitializer catalog.knownLiterals target (catalog.flatten target)
        options.isFinal ∧
      ∃ access line before after, OpensInitializer access line ∧
        text = joinLines (before ++ line :: after)) ∧
    ((∀ initializer ∈ freshInitializers (catalog.flatten target), IsLegible initializer) →
      (OpensBareInitializer catalog.knownLiterals target (catalog.flatten target)
        options.isFinal ↔ IsConstructible (catalog.flatten target))) := by
  obtain ⟨texts, htexts, hlines⟩ := exists_texts_of_classText htext
  have hopens : IsConstructible (catalog.flatten target) →
      OpensBareInitializer catalog.knownLiterals target (catalog.flatten target)
        options.isFinal := opensBareInitializer_of_isConstructible
  refine ⟨?_, ⟨texts, hlines, fun piece hpiece => of_mem_texts htexts hpiece⟩, ?_, ?_⟩
  · exact lookup_knownLiterals_eq_some_iff.mpr
      ⟨by simp [Entity.mockName, String.append_assoc], .inl ⟨target, htarget, rfl⟩⟩
  · intro hconstructible
    exact ⟨hopens hconstructible,
      exists_line_of_opensBareInitializer htext (hopens hconstructible)⟩
  · intro hlegible
    exact ⟨isConstructible_of_opensBareInitializer hlegible, hopens⟩

def emptyInitializer : Method :=
  { nameInitializer false with declaredName := "init()", params := [], components := [] }

def throwingInitializer : Method :=
  { emptyInitializer with effects := "throws" }

/-- A protocol that declares the given initializers and inherits nothing. -/
def initializedTarget (initializers : List Method) : Entity :=
  plainProtocol "Api" [] (initializers.map .callable)

def initializedCatalog (initializers : List Method) : Catalog :=
  ⟨[initializedTarget initializers]⟩

theorem initializedTarget_mem_targets (initializers : List Method) :
    initializedTarget initializers ∈ (initializedCatalog initializers).targets :=
  mem_targets_iff.mpr ⟨rfl, rfl⟩

theorem flatten_initializedTarget (initializers : List Method) :
    (initializedCatalog initializers).flatten (initializedTarget initializers) =
      mergeMembers [] (initializers.map .callable) := by
  simp [flatten, lineage, walk, initializedTarget, plainProtocol]

/-- One initializer has a parameter and the other has none. -/
def twoInitializers : List Method :=
  [nameInitializer false, emptyInitializer]

theorem flatten_twoInitializers :
    (initializedCatalog twoInitializers).flatten (initializedTarget twoInitializers) =
      [.callable (nameInitializer false), .callable emptyInitializer] := by
  rw [flatten_initializedTarget]
  decide

theorem exists_targetText_initialized {initializers : List Method}
    (hfresh : ∀ initializer ∈ initializers, initializer.isProcessed = false) :
    ∃ text, (Output.targetText (fun _ => .error .notFound) (initializedCatalog initializers) {}
      (initializedTarget initializers) .empty).1 = .ok text := by
  have hmembers : ∀ member ∈ (initializedCatalog initializers).flatten
      (initializedTarget initializers), member.isProcessed = false := by
    intro member hmember
    rw [flatten_initializedTarget] at hmember
    obtain ⟨initializer, hinitializer, rfl⟩ :=
      List.mem_map.mp ((mergeMembers_sublist _ _).mem hmember)
    exact hfresh initializer hinitializer
  exact ⟨_, congrArg Prod.fst (classText_of_fresh _ _ _ _ hmembers)⟩

theorem targetText_nameInitializer :
    (Output.targetText (fun _ => .error .notFound) (initializedCatalog [nameInitializer false]) {}
        (initializedTarget [nameInitializer false]) .empty).1 =
      .ok (joinLines ["class ApiMock: Api \x7b", "    private var _doneInit = false",
        "    required init(name: String) \x7b", "        self.name = name",
        "        _doneInit = true", "    \x7d", "\x7d"]) := by
  rw [Output.targetText, flatten_initializedTarget]
  decide +kernel

/-- The class of two initializers is built by the literal. With the one that has a parameter alone,
or with one that throws, it is not, although the literal is known. -/
theorem opensBareInitializer_of_twoInitializers :
    initializedTarget twoInitializers ∈ (initializedCatalog twoInitializers).targets ∧
    (∃ text, (Output.targetText (fun _ => .error .notFound) (initializedCatalog twoInitializers) {}
        (initializedTarget twoInitializers) .empty).1 = .ok text ∧
      IsConstructible
        ((initializedCatalog twoInitializers).flatten (initializedTarget twoInitializers)) ∧
      ∃ access line before after, OpensInitializer access line ∧
        text = joinLines (before ++ line :: after)) ∧
    ∀ initializers ∈ [[nameInitializer false], [throwingInitializer]],
      (initializedCatalog initializers).knownLiterals.lookup "Api" = some "ApiMock()" ∧
      ¬OpensBareInitializer (initializedCatalog initializers).knownLiterals
        (initializedTarget initializers)
        ((initializedCatalog initializers).flatten (initializedTarget initializers)) false := by
  have htarget := initializedTarget_mem_targets twoInitializers
  have hconstructible : IsConstructible
      ((initializedCatalog twoInitializers).flatten (initializedTarget twoInitializers)) := by
    rw [flatten_twoInitializers]
    exact .inr ⟨emptyInitializer, by decide, rfl, rfl, rfl⟩
  have htwo : ∀ initializer ∈ twoInitializers, initializer.isProcessed = false := by decide
  obtain ⟨text, htext⟩ := exists_targetText_initialized htwo
  have hclass := (opensBareInitializer_of_target htarget htext).2.2.1 hconstructible
  refine ⟨htarget, ⟨text, htext, hconstructible, hclass.2⟩, ?_⟩
  have hfresh : ∀ initializers ∈ [[nameInitializer false], [throwingInitializer]],
      ∀ initializer ∈ initializers, initializer.isProcessed = false := by decide
  have hkept : ∀ initializers ∈ [[nameInitializer false], [throwingInitializer]],
      freshInitializers (mergeMembers [] (initializers.map .callable)) = initializers := by decide
  have hlegible : ∀ initializers ∈ [[nameInitializer false], [throwingInitializer]],
      ∀ initializer ∈ initializers, IsLegible initializer := by decide
  have hnot : ∀ initializers ∈ [[nameInitializer false], [throwingInitializer]],
      ¬(initializers = [] ∨ ∃ initializer ∈ initializers, IsBare initializer) := by decide
  intro initializers hmem
  obtain ⟨text, htext⟩ := exists_targetText_initialized (hfresh initializers hmem)
  obtain ⟨hliteral, _, _, hiff⟩ :=
    opensBareInitializer_of_target (initializedTarget_mem_targets initializers) htext
  rw [IsConstructible, flatten_initializedTarget, hkept initializers hmem] at hiff
  refine ⟨hliteral, fun hopens => hnot initializers hmem ?_⟩
  rw [flatten_initializedTarget] at hopens
  exact (hiff (hlegible initializers hmem)).mp hopens

/-- An initializer with a parameter takes the place of the default one, while the literal stays. -/
theorem not_init_in_text :
    ¬∀ (catalog : Catalog) (target : Entity) (disk : Disk) (options : OutputOptions)
      (cache : SourceCache) (text : String), target ∈ catalog.targets →
      catalog.knownLiterals.lookup target.name = some (target.mockName ++ "()") →
      (Output.targetText disk catalog options target cache).1 = .ok text →
      "init()".toList <:+: text.toList := by
  intro hall
  have hinfix := hall _ _ _ _ _ _ (initializedTarget_mem_targets [nameInitializer false])
    (by decide +kernel) targetText_nameInitializer
  revert hinfix
  decide +kernel

end Catalog

end Understudy
