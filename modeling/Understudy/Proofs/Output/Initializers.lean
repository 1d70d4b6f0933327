import Understudy.Output
import Understudy.Proofs.Catalog.Requirements
import Understudy.Proofs.Mock.Texts

/-!
# Initializers that a mock class keeps

A class renders its fresh initializers and leaves out the processed ones. Initializers with one
signature count once along a lineage, where the first is kept, so an initializer is in the class
exactly if the first of its signature is fresh.
-/

namespace Understudy

namespace Mock

def freshInitializer? : Member → Option Method
  | .callable method =>
      if method.isInitializer && !method.isProcessed then some method else none
  | .stored _ => none

/-- The initializers that a class with the given members renders. -/
def freshInitializers (members : List Member) : List Method :=
  members.filterMap freshInitializer?

theorem mem_freshInitializers_iff {members : List Member} {method : Method} :
    method ∈ freshInitializers members ↔
      .callable method ∈ members ∧ method.isInitializer = true ∧ method.isProcessed = false := by
  simp only [freshInitializers, List.mem_filterMap]
  constructor
  · rintro ⟨member, hmem, hfound⟩
    cases member with
    | stored property => simp [freshInitializer?] at hfound
    | callable other =>
        simp only [freshInitializer?, Option.ite_none_right_eq_some, Option.some.injEq,
          Bool.and_eq_true, Bool.not_eq_true'] at hfound
        obtain ⟨⟨hinitializer, hfresh⟩, rfl⟩ := hfound
        exact ⟨hmem, hinitializer, hfresh⟩
  · rintro ⟨hmem, hinitializer, hfresh⟩
    exact ⟨_, hmem, by simp [freshInitializer?, hinitializer, hfresh]⟩

theorem exists_initializerLines_of_classText {disk : Disk} {known : KnownLiterals}
    {entity : Entity} {members : List Member} {isFinal : Bool} {cache : SourceCache} {text : String}
    (h : (classText disk known entity members isFinal cache).1 = .ok text) {method : Method}
    (hmem : method ∈ freshInitializers members) :
    ∃ before after, text = Layout.joinLines (before ++ method.initializerLines ++ after) := by
  obtain ⟨hmember, hinitializer, hfresh⟩ := mem_freshInitializers_iff.mp hmem
  have hkind : method.kind = .initializer := by simpa [Method.isInitializer] using hinitializer
  obtain ⟨identifier, before, after, rfl⟩ := exists_lines_of_classText h hmember hfresh
  exact ⟨before, after, by simp only [memberLines, Callable.lines, hkind]⟩

end Mock

namespace Catalog

variable {catalog : Catalog} {target entity : Entity} {method : Method}

/-- The class of a target renders an initializer of the same signature. -/
def RendersInitializer (catalog : Catalog) (target : Entity) (method : Method) : Prop :=
  ∃ rendered ∈ Mock.freshInitializers (catalog.flatten target), rendered.SameSignature method

/-- Initializers are the callables named `init`. -/
def NamesInitializers (entity : Entity) : Prop :=
  ∀ method : Method, .callable method ∈ entity.members →
    (method.isInitializer = true ↔ method.name = "init")

/-- **When an initializer is kept.** The first member under the key of an initializer is an
initializer of the same signature. The class of the target renders one of this signature exactly if
that first one is fresh, and then its lines are in the text whenever the class has one. -/
theorem rendersInitializer_iff (htarget : target ∈ catalog.targets)
    (hspelled : ∀ entity, catalog.Inherits target entity → ∀ member ∈ entity.members,
      member.WellSpelled)
    (hnames : ∀ entity, catalog.Inherits target entity → NamesInitializers entity)
    (hentity : catalog.Inherits target entity) (hmember : .callable method ∈ entity.members)
    (hinitializer : method.isInitializer = true) :
    ∃ first : Method,
      catalog.firstOfKey target method.signatureKey = some (.callable first) ∧
      first.isInitializer = true ∧ first.SameSignature method ∧
      (catalog.RendersInitializer target method ↔ first.isProcessed = false) ∧
      ∀ disk options cache text,
        (Output.targetText disk catalog options target cache).1 = .ok text →
        first.isProcessed = false →
          ∃ before after, text = Layout.joinLines (before ++ first.initializerLines ++ after) := by
  have hname : (Member.callable method).name ≠ initMarker := by
    rw [show (Member.callable method).name = "init" from (hnames entity hentity method hmember).mp
      hinitializer]
    decide
  obtain ⟨kept, hfirst, ⟨hkept, hkey⟩, origin, horigin, hdeclared⟩ :=
    exists_firstOfKey htarget hentity hmember hname
  have hkeptSpelled := hspelled origin horigin kept hdeclared
  have hmemberSpelled := hspelled entity hentity _ hmember
  have hkind : method.kind = .initializer := by simpa [Method.isInitializer] using hinitializer
  have hmethodSpelled : method.WellSpelled := by
    simpa [Member.WellSpelled, hkind] using hmemberSpelled
  have hcallable : (Member.callable method).isVariable = false := by
    simp [Member.isVariable, hkind]
  obtain ⟨first, rfl, hfunction, hfirstSpelled⟩ :=
    Member.exists_method_of_not_isVariable hkeptSpelled
    ((Member.isVariable_eq_of_signatureKey_eq hkeptSpelled hmemberSpelled hkey).trans hcallable)
  -- the keys of initializers can be read back, so the first one has the signature, not just the key
  have hsame : first.SameSignature method :=
    (Method.signatureKey_eq_iff hfirstSpelled hmethodSpelled hfunction
      (by simp [hkind])).mp hkey
  have hinitializes : first.isInitializer = true := by
    rw [hnames origin horigin first hdeclared, hsame.name]
    exact (hnames entity hentity method hmember).mp hinitializer
  refine ⟨first, hfirst, hinitializes, hsame, ⟨?_, ?_⟩, ?_⟩
  · rintro ⟨rendered, hrendered, hsignature⟩
    obtain ⟨hmem, hinit, hfresh⟩ := Mock.mem_freshInitializers_iff.mp hrendered
    -- a fresh initializer of this signature has the key, under which the first one alone is kept
    have hrenderedKind : rendered.kind = .initializer := by
      simpa [Method.isInitializer] using hinit
    have hrenderedKey : rendered.signatureKey = method.signatureKey :=
      Method.signatureKey_eq_of_declaresAlike (by simp [hrenderedKind]) (by simp [hkind])
        hsignature.declaresAlike
    have hfound := firstOfKey_eq_some_iff.mpr ⟨hmem, hrenderedKey⟩
    obtain rfl := Member.callable.inj (Option.some.inj (hfound.symm.trans hfirst))
    exact hfresh
  · intro hfresh
    exact ⟨first, Mock.mem_freshInitializers_iff.mpr ⟨hkept, hinitializes, hfresh⟩, hsame⟩
  · intro disk options cache text htext hfresh
    exact Mock.exists_initializerLines_of_classText htext
      (Mock.mem_freshInitializers_iff.mpr ⟨hkept, hinitializes, hfresh⟩)

/-- The initializer `init(name:)`, of a protocol or of a mock that was written before. -/
def nameInitializer (processed : Bool) : Method :=
  { name := "init"
    kind := .initializer
    generics := []
    params := [.value "name" "name" (.ofText "String")]
    returnType := .ofText ""
    isStatic := false
    accessLevel := ""
    effects := ""
    attributes := []
    handler := none
    declaredName := "init(name:)"
    origin := { path := ⟨"Api.swift"⟩, offset := 0, length := 0, processed }
    components := ["Name", "String"] }

def heirTarget (parents : List String) : Entity :=
  plainProtocol "Api" parents []

def oldMock : Entity :=
  { plainProtocol "OldMock" [] [.callable (nameInitializer true)] with
    kind := .classType, isProcessed := true }

def namedBase : Entity :=
  plainProtocol "Base" [] [.callable (nameInitializer false)]

def heirCatalog (parents : List String) : Catalog :=
  ⟨[heirTarget parents, oldMock, namedBase]⟩

theorem heirTarget_mem_targets (parents : List String) :
    heirTarget parents ∈ (heirCatalog parents).targets :=
  mem_targets_iff.mpr ⟨rfl, rfl⟩

theorem lineage_baseFirst :
    (heirCatalog ["Base", "Old"]).lineage (heirTarget ["Base", "Old"]) =
      [heirTarget ["Base", "Old"], namedBase, oldMock] := by
  have hbase : (heirCatalog ["Base", "Old"]).resolve? "Base" = some namedBase := rfl
  have hold : (heirCatalog ["Base", "Old"]).resolve? "Old" = some oldMock := rfl
  simp [lineage, walk, walk_cons, hbase, hold, heirTarget, namedBase, oldMock, plainProtocol]

theorem lineage_oldFirst :
    (heirCatalog ["Old", "Base"]).lineage (heirTarget ["Old", "Base"]) =
      [heirTarget ["Old", "Base"], oldMock, namedBase] := by
  have hold : (heirCatalog ["Old", "Base"]).resolve? "Old" = some oldMock := rfl
  have hbase : (heirCatalog ["Old", "Base"]).resolve? "Base" = some namedBase := rfl
  simp [lineage, walk, walk_cons, hbase, hold, heirTarget, namedBase, oldMock, plainProtocol]

theorem of_inherits_heirTarget {entity : Entity}
    (h : (heirCatalog ["Base", "Old"]).Inherits (heirTarget ["Base", "Old"]) entity)
    {member : Member} (hmember : member ∈ entity.members) :
    ∃ processed, member = .callable (nameInitializer processed) := by
  rw [← mem_lineage_iff (resolve?_of_mem_targets (heirTarget_mem_targets _)),
    lineage_baseFirst] at h
  simp only [List.mem_cons, List.not_mem_nil, or_false] at h
  rcases h with rfl | rfl | rfl
  · exact absurd hmember List.not_mem_nil
  · exact ⟨false, List.mem_singleton.mp hmember⟩
  · exact ⟨true, List.mem_singleton.mp hmember⟩

/-- The protocol stands before the mock, so its initializer is the one that is kept. -/
theorem rendersInitializer_iff_of_baseFirst :
    heirTarget ["Base", "Old"] ∈ (heirCatalog ["Base", "Old"]).targets ∧
    (∀ entity, (heirCatalog ["Base", "Old"]).Inherits (heirTarget ["Base", "Old"]) entity →
      ∀ member ∈ entity.members, member.WellSpelled) ∧
    (∀ entity, (heirCatalog ["Base", "Old"]).Inherits (heirTarget ["Base", "Old"]) entity →
      NamesInitializers entity) ∧
    (heirCatalog ["Base", "Old"]).Inherits (heirTarget ["Base", "Old"]) oldMock ∧
    .callable (nameInitializer true) ∈ oldMock.members ∧
    (nameInitializer true).isInitializer = true ∧
    (heirCatalog ["Base", "Old"]).RendersInitializer (heirTarget ["Base", "Old"])
      (nameInitializer true) := by
  have hspelled : ∀ entity,
      (heirCatalog ["Base", "Old"]).Inherits (heirTarget ["Base", "Old"]) entity →
        ∀ member ∈ entity.members, member.WellSpelled := by
    intro entity hentity member hmember
    obtain ⟨processed, rfl⟩ := of_inherits_heirTarget hentity hmember
    cases processed <;> decide
  have hnames : ∀ entity,
      (heirCatalog ["Base", "Old"]).Inherits (heirTarget ["Base", "Old"]) entity →
        NamesInitializers entity := by
    intro entity hentity method hmember
    obtain ⟨processed, hmethod⟩ := of_inherits_heirTarget hentity hmember
    obtain rfl := Member.callable.inj hmethod
    exact iff_of_true rfl rfl
  have hold : (heirCatalog ["Base", "Old"]).Inherits (heirTarget ["Base", "Old"]) oldMock :=
    .single ⟨"Old", by decide, rfl⟩
  have hmember : .callable (nameInitializer true) ∈ oldMock.members := List.mem_cons_self
  obtain ⟨first, hfirst, _, _, hrenders, _⟩ := rendersInitializer_iff (heirTarget_mem_targets _)
    hspelled hnames hold hmember rfl
  have hbase : (heirCatalog ["Base", "Old"]).firstOfKey (heirTarget ["Base", "Old"])
      (nameInitializer true).signatureKey = some (.callable (nameInitializer false)) := by
    rw [firstOfKey, lineage_baseFirst]
    decide
  obtain rfl := Member.callable.inj (Option.some.inj (hbase.symm.trans hfirst))
  exact ⟨heirTarget_mem_targets _, hspelled, hnames, hold, hmember, rfl, hrenders.mpr rfl⟩

theorem targetText_oldFirst :
    (Output.targetText (fun _ => .error .notFound) (heirCatalog ["Old", "Base"]) {}
        (heirTarget ["Old", "Base"]) .empty).1 =
      .ok (Layout.joinLines ["class ApiMock: Api \x7b", "    private var _doneInit = false",
        "    init() \x7b _doneInit = true \x7d", "\x7d"]) := by
  rw [Output.targetText, flatten, lineage_oldFirst]
  decide +kernel

/-- An initializer of a mock that stands before the protocol takes the place of the protocol's and
is then left out. -/
theorem not_initializer_in_text :
    ¬∀ (catalog : Catalog) (target entity : Entity) (method : Method) (disk : Disk)
      (options : OutputOptions) (cache : SourceCache) (text : String),
      target ∈ catalog.targets → catalog.Inherits target entity →
      (entity = target ∨ isProtocol entity = true) → .callable method ∈ entity.members →
      method.isInitializer = true →
      (Output.targetText disk catalog options target cache).1 = .ok text →
      ("required init" ++ method.genericClause ++ method.paramClause).toList <:+: text.toList := by
  intro hall
  have hbase : (heirCatalog ["Old", "Base"]).Inherits (heirTarget ["Old", "Base"]) namedBase :=
    .single ⟨"Base", by decide, rfl⟩
  have hinfix := hall _ _ namedBase (nameInitializer false) _ _ _ _ (heirTarget_mem_targets _) hbase
    (.inr rfl) List.mem_cons_self rfl targetText_oldFirst
  revert hinfix
  decide +kernel

end Catalog

end Understudy
