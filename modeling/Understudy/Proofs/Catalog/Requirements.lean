import Understudy.Proofs.Catalog.Flatten
import Understudy.Proofs.Member.SignatureKey

/-!
# Requirements that stand in for others

Of the members along a lineage that share a signature key the first is kept, and it has to do for
all of them. `Catalog.meets_iff` says when it does. For a function, an initializer or a subscript
only the effects are left to be compared. For a property the key is the name alone, so whether it
is static, its type, its effects and whether it can be set are all left.
-/

namespace Understudy

/-- What a member requires of a type that declares it. -/
structure Requirement where
  isStatic : Bool
  declaredName : String
  labels : List String
  genericNames : List String
  constraints : List TypeName
  paramTypes : List TypeName
  /-- The type of a property, the return type of any other member. -/
  type : TypeName
  effects : String
  settable : Bool
deriving DecidableEq, Repr

/-- A declaration does for a requirement: it is the same, except that it may be settable where that
is not required. -/
structure Requirement.Meets (declared required : Requirement) : Prop where
  isStatic : declared.isStatic = required.isStatic
  declaredName : declared.declaredName = required.declaredName
  labels : declared.labels = required.labels
  genericNames : declared.genericNames = required.genericNames
  constraints : declared.constraints = required.constraints
  paramTypes : declared.paramTypes = required.paramTypes
  type : declared.type = required.type
  effects : declared.effects = required.effects
  settable : required.settable = true → declared.settable = true

namespace Member

def requirement : Member → Requirement
  | .callable method =>
      { isStatic := method.isStatic
        declaredName := method.declaredName
        labels := method.params.map Param.label
        genericNames := method.generics.map Param.name
        constraints := method.generics.map Param.type
        paramTypes := method.params.map Param.type
        type := method.returnType
        effects := method.effects
        settable := false }
  | .stored property =>
      { isStatic := property.isStatic
        declaredName := property.name
        labels := []
        genericNames := []
        constraints := []
        paramTypes := []
        type := property.type
        effects := ""
        settable := property.settable }

def isVariable : Member → Bool
  | .callable method => method.kind == .computedProperty
  | .stored _ => true

/-- A property has a simple name and neither generics nor parameters. -/
def WellSpelled : Member → Prop
  | .callable method =>
      if method.kind = .computedProperty then
        isSimpleName method.declaredName = true ∧ method.generics = [] ∧ method.params = []
      else method.WellSpelled
  | .stored property => isSimpleName property.name = true

instance : (member : Member) → Decidable member.WellSpelled
  | .callable _ => inferInstanceAs (Decidable (ite _ _ _))
  | .stored _ => inferInstanceAs (Decidable (_ = true))

variable {member kept : Member}

theorem of_isVariable (hspelled : member.WellSpelled) (h : member.isVariable = true) :
    member.signatureKey = member.requirement.declaredName ∧
      isSimpleName member.requirement.declaredName = true ∧ member.requirement.labels = [] ∧
      member.requirement.genericNames = [] ∧ member.requirement.constraints = [] ∧
      member.requirement.paramTypes = [] := by
  cases member with
  | stored property => exact ⟨rfl, hspelled, rfl, rfl, rfl, rfl⟩
  | callable method =>
      have hkind : method.kind = .computedProperty := by simpa [isVariable] using h
      obtain ⟨hname, hgenerics, hparams⟩ : isSimpleName method.declaredName = true ∧
          method.generics = [] ∧ method.params = [] := by simpa [WellSpelled, hkind] using hspelled
      simp [signatureKey, Method.signatureKey, requirement, hkind, hname, hgenerics, hparams]

theorem exists_method_of_not_isVariable (hspelled : member.WellSpelled)
    (h : member.isVariable = false) :
    ∃ method, member = .callable method ∧ method.kind ≠ .computedProperty ∧
      method.WellSpelled := by
  cases member with
  | stored property => simp [isVariable] at h
  | callable method =>
      have hkind : method.kind ≠ .computedProperty := by simpa [isVariable] using h
      exact ⟨method, rfl, hkind, by simpa [WellSpelled, hkind] using hspelled⟩

/-- The key of a callable holds parentheses, which no name of a property does. -/
theorem isVariable_eq_of_signatureKey_eq (hkept : kept.WellSpelled) (hmember : member.WellSpelled)
    (hkey : kept.signatureKey = member.signatureKey) : kept.isVariable = member.isVariable := by
  have hdiffer {first second : Member} (hfirst : first.WellSpelled) (hsecond : second.WellSpelled)
      (hvariable : first.isVariable = true) (hcallable : second.isVariable = false) :
      first.signatureKey ≠ second.signatureKey := by
    intro heq
    obtain ⟨hname, hsimple, _⟩ := of_isVariable hfirst hvariable
    obtain ⟨method, rfl, hkind, hspelled⟩ := exists_method_of_not_isVariable hsecond hcallable
    have hparenthesis : ')' ∈ method.signatureKey.toList := by
      rw [Method.toList_signatureKey hspelled.spelledAs hkind]
      simp
    rw [show (Member.callable method).signatureKey = method.signatureKey from rfl] at heq
    rw [← heq, hname] at hparenthesis
    exact not_mem_of_isSimpleName hsimple (by simp) hparenthesis
  cases hleft : kept.isVariable <;> cases hright : member.isVariable
  · rfl
  · exact absurd hkey.symm (hdiffer hmember hkept hright hleft)
  · exact absurd hkey (hdiffer hkept hmember hleft hright)
  · rfl

theorem meets_iff_of_signatureKey_eq (hkept : kept.WellSpelled) (hmember : member.WellSpelled)
    (hkey : kept.signatureKey = member.signatureKey) :
    kept.requirement.declaredName = member.requirement.declaredName ∧
      (kept.requirement.Meets member.requirement ↔
        kept.requirement.effects = member.requirement.effects ∧
          (member.isVariable = true →
            kept.requirement.isStatic = member.requirement.isStatic ∧
              kept.requirement.type = member.requirement.type ∧
              (member.requirement.settable = true → kept.requirement.settable = true))) := by
  have hsort := isVariable_eq_of_signatureKey_eq hkept hmember hkey
  cases hvariable : member.isVariable with
  | true =>
      obtain ⟨hkeptKey, _, hkeptLabels, hkeptNames, hkeptConstraints, hkeptTypes⟩ :=
        of_isVariable hkept (hsort.trans hvariable)
      obtain ⟨hmemberKey, _, hlabels, hnames, hconstraints, htypes⟩ :=
        of_isVariable hmember hvariable
      have hname : kept.requirement.declaredName = member.requirement.declaredName := by
        rw [← hkeptKey, hkey, hmemberKey]
      refine ⟨hname, ?_, ?_⟩
      · intro h
        exact ⟨h.effects, fun _ => ⟨h.isStatic, h.type, h.settable⟩⟩
      · rintro ⟨heffects, hothers⟩
        obtain ⟨hstatic, htype, hsettable⟩ := hothers rfl
        exact ⟨hstatic, hname, hkeptLabels.trans hlabels.symm, hkeptNames.trans hnames.symm,
          hkeptConstraints.trans hconstraints.symm, hkeptTypes.trans htypes.symm, htype, heffects,
          hsettable⟩
  | false =>
      obtain ⟨ours, rfl, hours, hspelled⟩ :=
        exists_method_of_not_isVariable hkept (hsort.trans hvariable)
      obtain ⟨theirs, rfl, htheirs, hother⟩ := exists_method_of_not_isVariable hmember hvariable
      have hsame := (Method.signatureKey_eq_iff hspelled hother hours htheirs).mp hkey
      refine ⟨hsame.declaredName, ?_, ?_⟩
      · intro h
        exact ⟨h.effects, fun hfalse => absurd hfalse (by simp)⟩
      · rintro ⟨heffects, _⟩
        exact ⟨hsame.isStatic, hsame.declaredName, hsame.labels, hsame.genericNames,
          hsame.constraints, hsame.types, hsame.returnType, heffects, id⟩

end Member

namespace Catalog

variable {catalog : Catalog} {target entity : Entity} {member : Member}

/-- **When a requirement stands in for another.** Along a lineage of well-spelled members the first
of a key is kept for all that share it. It has their declared name, and it is a property exactly if
they are. It declares the requirement of such a member exactly if the effects agree and, for a
property, also the type and whether it is static, and it can be set if the other can. -/
theorem meets_iff (htarget : target ∈ catalog.targets)
    (hspelled : ∀ entity, catalog.Inherits target entity → ∀ member ∈ entity.members,
      member.WellSpelled)
    (hentity : catalog.Inherits target entity) (hmember : member ∈ entity.members)
    (hname : member.name ≠ initMarker) :
    ∃ kept ∈ catalog.flatten target,
      catalog.firstOfKey target member.signatureKey = some kept ∧
      kept.isVariable = member.isVariable ∧
      kept.requirement.declaredName = member.requirement.declaredName ∧
      (kept.requirement.Meets member.requirement ↔
        kept.requirement.effects = member.requirement.effects ∧
          (member.isVariable = true →
            kept.requirement.isStatic = member.requirement.isStatic ∧
              kept.requirement.type = member.requirement.type ∧
              (member.requirement.settable = true → kept.requirement.settable = true))) := by
  obtain ⟨kept, hfirst, ⟨hkept, hkey⟩, origin, horigin, hdeclared⟩ :=
    exists_firstOfKey htarget hentity hmember hname
  have hkeptSpelled := hspelled origin horigin kept hdeclared
  have hmemberSpelled := hspelled entity hentity member hmember
  exact ⟨kept, hkept, hfirst,
    Member.isVariable_eq_of_signatureKey_eq hkeptSpelled hmemberSpelled hkey,
    Member.meets_iff_of_signatureKey_eq hkeptSpelled hmemberSpelled hkey⟩

def originOfApi : Origin :=
  { path := ⟨"Api.swift"⟩, offset := 0, length := 0, processed := false }

/-- The function `load(id:)` with the given effects. -/
def loader (effects : String) : Member :=
  .callable
    { name := "load"
      kind := .function
      generics := []
      params := [.value "id" "id" (.ofText "Int")]
      returnType := .ofText "Data"
      isStatic := false
      accessLevel := ""
      effects
      attributes := []
      handler := some
        (.ofParams [] [.value "id" "id" (.ofText "Int")] (.ofText "Data") effects false)
      declaredName := "load(id:)"
      origin := originOfApi
      components := ["Id", "Int", "Data"] }

/-- The computed property `shared`, of each value or of the type itself. -/
def sharedGetter (isStatic : Bool) : Member :=
  .callable
    { name := "shared"
      kind := .computedProperty
      generics := []
      params := []
      returnType := .ofText "Int"
      isStatic
      accessLevel := ""
      effects := ""
      attributes := []
      handler := some (.ofParams [] [] (.ofText "Int") "" isStatic)
      declaredName := "shared"
      origin := originOfApi
      components := ["Int"] }

def restatingTarget : Entity :=
  plainProtocol "Api" ["Base"] [loader "", sharedGetter false]

def restatedBase : Entity :=
  plainProtocol "Base" [] [loader "async", sharedGetter true]

def restatingCatalog : Catalog :=
  ⟨[restatingTarget, restatedBase]⟩

theorem restatingTarget_mem_targets : restatingTarget ∈ restatingCatalog.targets :=
  mem_targets_iff.mpr ⟨rfl, by decide +kernel⟩

theorem inherits_restatedBase : restatingCatalog.Inherits restatingTarget restatedBase :=
  .single ⟨"Base", List.mem_cons_self, rfl⟩

theorem lineage_restatingTarget :
    restatingCatalog.lineage restatingTarget = [restatingTarget, restatedBase] := by
  have hbase : restatingCatalog.resolve? "Base" = some restatedBase := rfl
  simp [lineage, walk, walk_cons, hbase, restatingTarget, restatedBase, plainProtocol]

theorem flatten_restatingTarget :
    restatingCatalog.flatten restatingTarget = [loader "", sharedGetter false] := by
  rw [flatten, lineage_restatingTarget]
  decide

theorem wellSpelled_restating :
    ∀ entity, restatingCatalog.Inherits restatingTarget entity → ∀ member ∈ entity.members,
      member.WellSpelled := by
  intro entity hentity
  rw [← mem_lineage_iff (resolve?_of_mem_targets restatingTarget_mem_targets),
    lineage_restatingTarget, List.mem_pair] at hentity
  rcases hentity with rfl | rfl <;> decide

/-- The asynchronous function of the parent is left out for one that is called without waiting. -/
theorem meets_iff_of_restatingTarget :
    restatingTarget ∈ restatingCatalog.targets ∧
    (∀ entity, restatingCatalog.Inherits restatingTarget entity → ∀ member ∈ entity.members,
      member.WellSpelled) ∧
    restatingCatalog.Inherits restatingTarget restatedBase ∧
    loader "async" ∈ restatedBase.members ∧ (loader "async").name ≠ initMarker ∧
    restatingCatalog.firstOfKey restatingTarget (loader "async").signatureKey = some (loader "") ∧
    ¬(loader "").requirement.Meets (loader "async").requirement := by
  have hmember : loader "async" ∈ restatedBase.members := by decide
  have hname : (loader "async").name ≠ initMarker := by decide
  have hfirst : restatingCatalog.firstOfKey restatingTarget (loader "async").signatureKey =
      some (loader "") := by
    rw [firstOfKey_eq_some_iff, flatten_restatingTarget]
    decide
  obtain ⟨kept, hkept, hsame, _, _, hmeets⟩ := meets_iff restatingTarget_mem_targets
    wellSpelled_restating inherits_restatedBase hmember hname
  obtain rfl : loader "" = kept := Option.some.inj (hfirst.symm.trans hsame)
  refine ⟨restatingTarget_mem_targets, wellSpelled_restating, inherits_restatedBase, hmember, hname,
    hfirst, ?_⟩
  rw [hmeets]
  decide

/-- The key of a property does not say whether it is static: a getter of each value stands in for
one of the type. -/
theorem not_meets_of_same_key :
    ¬∀ (catalog : Catalog) (target entity : Entity) (member kept : Member),
      target ∈ catalog.targets → catalog.Inherits target entity → member ∈ entity.members →
      member.name ≠ initMarker → catalog.firstOfKey target member.signatureKey = some kept →
      kept.requirement.Meets member.requirement := by
  intro hall
  have hfirst : restatingCatalog.firstOfKey restatingTarget (sharedGetter true).signatureKey =
      some (sharedGetter false) := by
    rw [firstOfKey_eq_some_iff, flatten_restatingTarget]
    decide
  have hmeets := hall restatingCatalog restatingTarget restatedBase (sharedGetter true)
    (sharedGetter false) restatingTarget_mem_targets inherits_restatedBase (by decide) (by decide)
    hfirst
  exact absurd hmeets.isStatic (by decide)

end Catalog

end Understudy
