import Mathlib.Data.List.Forall2
import Understudy.Entity
import Understudy.Proofs.Failure.Results
import Understudy.Proofs.Method.Names

/-!
# The members of an entity

A callable is inconsistent when its name has not as many labels as it has parameters. The first
inconsistent child of a declaration is the failure of the whole declaration; without one, every
callable and every stored property becomes a member, in order, and the parts of a method are
aligned: labels with parameters, and parameters with what the handler is given
(`Entity.ofDeclaration_members`).
-/

namespace Understudy

namespace Declaration

def labels (declaration : Declaration) : List String :=
  (DeclaredName.read declaration.name).labels

def isCallable (declaration : Declaration) : Bool :=
  match declaration.kind with
  | .function | .initializer | .subscript => true
  | .property => declaration.computed
  | _ => false

def isStored (declaration : Declaration) : Bool :=
  declaration.kind == .property && !declaration.computed

def isMember (declaration : Declaration) : Bool :=
  declaration.isCallable || declaration.isStored

/-- A callable whose labels and parameters differ in number. -/
def isInconsistent (declaration : Declaration) : Bool :=
  declaration.isCallable && declaration.labels.length != declaration.params.length

/-- The failure that reports an inconsistent declaration. -/
def inconsistency (declaration : Declaration) (context : SourceContext) : Failure :=
  .inconsistent context.path declaration.name declaration.labels.length declaration.params.length

end Declaration

theorem SignaturePolicy.ne_empty_of_mem_components {policy : SignaturePolicy} {name : String}
    {params generics : List Param} {returnType : TypeName} {component : String}
    (h : component ∈ policy.components name params generics returnType) : component ≠ "" := by
  obtain ⟨letters, hletters, rfl⟩ := List.mem_map.mp h
  have hkept := (List.mem_filter.mp hletters).2
  intro hempty
  have hnil : letters = [] := by simpa using congrArg String.toList hempty
  simp [hnil] at hkept

/-- A method carries the place of its declaration, and its lists are aligned. Each parameter stands
under the label and has the name and type of its own declaration, and the handler is given each
parameter in turn. -/
structure Method.Describes (method : Method) (context : SourceContext) (declaration : Declaration) :
    Prop where
  kind : method.kind = MethodKind.ofDeclaration declaration.kind
  declaredName : method.declaredName = declaration.name
  origin : method.origin = context.originOf declaration.offset declaration.length
  labels : method.params.map Param.label = declaration.labels
  names : method.params.map Param.name = declaration.params.map Declaration.name
  types : method.params.map Param.type =
    declaration.params.map fun param => TypeName.ofText param.typeText
  handler : method.handler = none ↔ method.kind = .initializer
  forwards : ∀ handler, method.handler = some handler →
    handler.arguments = method.params.map Param.forwarded ∧
      handler.paramTypes = method.params.map Param.type
  components : ∀ component ∈ method.components, component ≠ ""

theorem Method.ofDeclaration_eq (context : SourceContext) (declaration : Declaration) :
    ofDeclaration context declaration =
      if declaration.labels.length = declaration.params.length then
        .ok (build context declaration (DeclaredName.read declaration.name))
      else .error (declaration.inconsistency context) :=
  rfl

theorem Method.describes_build {context : SourceContext} {declaration : Declaration}
    (h : declaration.labels.length = declaration.params.length) :
    (build context declaration (DeclaredName.read declaration.name)).Describes context
      declaration := by
  have hbuilt := isBuilt_build context declaration (DeclaredName.read declaration.name)
  have hpairs : ∀ pair ∈ declaration.labels.zip declaration.params,
      Param.ofDeclaration pair.1 pair.2 =
        Param.value pair.1 pair.2.name (TypeName.ofText pair.2.typeText) := by
    intro pair hpair
    have hkind : pair.2.isParameter = true :=
      (List.mem_filter.mp (List.of_mem_zip hpair).2).2
    have hplain : pair.2.isGenericParameter = false := by
      simp_all [Declaration.isParameter, Declaration.isGenericParameter]
    simp [Param.ofDeclaration, hplain]
  have hparams : (build context declaration (DeclaredName.read declaration.name)).params =
      (declaration.labels.zip declaration.params).map fun pair =>
        Param.value pair.1 pair.2.name (TypeName.ofText pair.2.typeText) :=
    List.map_congr_left hpairs
  constructor
  case kind | declaredName | origin => rfl
  case labels =>
    rw [hparams, List.map_map]
    exact List.map_fst_zip (Nat.le_of_eq h)
  case names =>
    calc _ = ((declaration.labels.zip declaration.params).map Prod.snd).map Declaration.name := by
          rw [hparams, List.map_map, List.map_map]
          rfl
      _ = declaration.params.map Declaration.name := by
          rw [List.map_snd_zip (Nat.le_of_eq h.symm)]
  case types =>
    calc _ = ((declaration.labels.zip declaration.params).map Prod.snd).map
            fun param => TypeName.ofText param.typeText := by
          rw [hparams, List.map_map, List.map_map]
          rfl
      _ = declaration.params.map fun param => TypeName.ofText param.typeText := by
          rw [List.map_snd_zip (Nat.le_of_eq h.symm)]
  case handler =>
    rw [hbuilt.handler]
    split_ifs <;> simp_all
  case forwards =>
    intro handler hhandler
    rw [hbuilt.handler, Option.ite_none_left_eq_some] at hhandler
    obtain ⟨_, hhandler⟩ := hhandler
    cases hhandler
    exact ⟨rfl, rfl⟩
  case components =>
    obtain ⟨policy, hcomponents⟩ := hbuilt.components
    intro component hcomponent
    rw [hcomponents] at hcomponent
    exact SignaturePolicy.ne_empty_of_mem_components hcomponent

/-- A callable declaration is described by a method, a stored property by a property. -/
inductive Member.Describes (context : SourceContext) (declaration : Declaration) : Member → Prop
  | callable {method : Method} (hcallable : declaration.isCallable = true)
      (hmethod : method.Describes context declaration) :
      Describes context declaration (.callable method)
  | stored {property : Property} (hstored : declaration.isStored = true)
      (hname : property.name = declaration.name)
      (htype : property.type = TypeName.ofText declaration.typeText)
      (horigin : property.origin = context.originOf declaration.offset declaration.length) :
      Describes context declaration (.stored property)

namespace Member

variable {context : SourceContext} {child : Declaration}

theorem ofDeclaration?_of_isCallable (h : child.isCallable = true) :
    ofDeclaration? context child =
      (Method.ofDeclaration context child).map fun method => some (.callable method) := by
  unfold Declaration.isCallable at h
  unfold ofDeclaration?
  cases hkind : child.kind <;> simp_all

theorem ofDeclaration?_of_isStored (h : child.isStored = true) :
    ofDeclaration? context child = .ok (some (.stored (Property.ofDeclaration context child))) := by
  simp only [Declaration.isStored, Bool.and_eq_true, beq_iff_eq, Bool.not_eq_true'] at h
  simp [ofDeclaration?, h.1, h.2]

theorem ofDeclaration?_of_isMember_eq_false (h : child.isMember = false) :
    ofDeclaration? context child = .ok none := by
  unfold Declaration.isMember Declaration.isCallable Declaration.isStored at h
  unfold ofDeclaration?
  cases hkind : child.kind <;> simp_all

theorem ofDeclaration?_of_isInconsistent (h : child.isInconsistent = true) :
    ofDeclaration? context child = .error (child.inconsistency context) := by
  simp only [Declaration.isInconsistent, Bool.and_eq_true, bne_iff_ne] at h
  rw [ofDeclaration?_of_isCallable h.1, Method.ofDeclaration_eq, if_neg h.2]
  rfl

/-- A child that is not inconsistent becomes a member if it is one, and nothing otherwise. -/
theorem exists_of_isInconsistent_eq_false (context : SourceContext)
    (h : child.isInconsistent = false) :
    ∃ member?, ofDeclaration? context child = .ok member? ∧
      List.Forall₂ (Describes context) ([child].filter Declaration.isMember) member?.toList := by
  by_cases hcallable : child.isCallable = true
  · have hlength : child.labels.length = child.params.length := by
      simpa [Declaration.isInconsistent, hcallable] using h
    let method := Method.build context child (DeclaredName.read child.name)
    refine ⟨some (.callable method), ?_, ?_⟩
    · rw [ofDeclaration?_of_isCallable hcallable, Method.ofDeclaration_eq, if_pos hlength]
      rfl
    · have hmember : child.isMember = true := by simp [Declaration.isMember, hcallable]
      rw [List.filter_cons_of_pos hmember]
      exact .cons (.callable hcallable (Method.describes_build hlength)) .nil
  by_cases hstored : child.isStored = true
  · refine ⟨_, ofDeclaration?_of_isStored hstored, ?_⟩
    have hmember : child.isMember = true := by simp [Declaration.isMember, hstored]
    rw [List.filter_cons_of_pos hmember]
    exact .cons (.stored hstored rfl rfl rfl) .nil
  · have hnone : child.isMember = false := by simp [Declaration.isMember, hcallable, hstored]
    refine ⟨none, ofDeclaration?_of_isMember_eq_false hnone, ?_⟩
    rw [List.filter_cons_of_neg (by simp [hnone])]
    exact .nil

end Member

namespace Entity

variable {context : SourceContext} {declaration : Declaration}

open Declaration

/-- The first inconsistent child decides, whatever follows it. -/
theorem membersOf_eq_error {before after : List Declaration} {child : Declaration}
    (hbefore : ∀ earlier ∈ before, earlier.isInconsistent = false)
    (hchild : child.isInconsistent = true) :
    membersOf context (before ++ child :: after) = .error (child.inconsistency context) := by
  induction before with
  | nil => simp only [List.nil_append, membersOf, Member.ofDeclaration?_of_isInconsistent hchild]
  | cons earlier rest ih =>
      obtain ⟨hearlier, hrest⟩ := List.forall_mem_cons.mp hbefore
      obtain ⟨member?, hmember, _⟩ :=
        Member.exists_of_isInconsistent_eq_false context hearlier
      simp only [List.cons_append, membersOf, hmember, ih hrest]
      rfl

theorem exists_membersOf_eq_ok (context : SourceContext) {children : List Declaration}
    (h : ∀ child ∈ children, child.isInconsistent = false) :
    ∃ members, membersOf context children = .ok members ∧
      List.Forall₂ (Member.Describes context) (children.filter isMember) members := by
  induction children with
  | nil => exact ⟨[], rfl, .nil⟩
  | cons child rest ih =>
      obtain ⟨hchild, hrest⟩ := List.forall_mem_cons.mp h
      obtain ⟨member?, hmember, hdescribes⟩ :=
        Member.exists_of_isInconsistent_eq_false context hchild
      obtain ⟨members, hmembers, hothers⟩ := ih hrest
      refine ⟨member?.toList ++ members, ?_, ?_⟩
      · simp only [membersOf, hmember, hmembers]
        rfl
      · rw [← List.singleton_append, List.filter_append]
        exact List.rel_append hdescribes hothers

/-- **Members, or the first inconsistent child.** A declaration fails exactly if some child is
inconsistent, and then with the path, name and both counts of the first such child. Otherwise its
members describe its callable and stored children, one for each and in their order. -/
theorem ofDeclaration_members (context : SourceContext) (declaration : Declaration) :
    ((∃ failure, ofDeclaration context declaration = .error failure) ↔
        ∃ child ∈ declaration.children, child.isInconsistent = true) ∧
      (∀ before child after, declaration.children = before ++ child :: after →
        (∀ earlier ∈ before, earlier.isInconsistent = false) → child.isInconsistent = true →
          ofDeclaration context declaration = .error (.inconsistent context.path child.name
            child.labels.length child.params.length)) ∧
      ((∀ child ∈ declaration.children, child.isInconsistent = false) →
        ∃ entity, ofDeclaration context declaration = .ok entity ∧
          List.Forall₂ (Member.Describes context) (declaration.children.filter isMember)
            entity.members) := by
  have hfails : ∀ before child after, declaration.children = before ++ child :: after →
      (∀ earlier ∈ before, earlier.isInconsistent = false) → child.isInconsistent = true →
        ofDeclaration context declaration = .error (child.inconsistency context) := by
    intro before child after hchildren hbefore hchild
    rw [ofDeclaration, hchildren, membersOf_eq_error hbefore hchild]
    rfl
  have hsucceeds : (∀ child ∈ declaration.children, child.isInconsistent = false) →
      ∃ entity, ofDeclaration context declaration = .ok entity ∧
        List.Forall₂ (Member.Describes context) (declaration.children.filter isMember)
          entity.members := by
    intro hchildren
    obtain ⟨members, hmembers, hdescribes⟩ := exists_membersOf_eq_ok context hchildren
    rw [ofDeclaration, hmembers]
    exact ⟨_, rfl, hdescribes⟩
  refine ⟨⟨?_, ?_⟩, hfails, hsucceeds⟩
  · rintro ⟨failure, hfailure⟩
    by_contra hnone
    have hconsistent : ∀ child ∈ declaration.children, child.isInconsistent = false := by
      simpa using hnone
    obtain ⟨entity, hentity, _⟩ := hsucceeds hconsistent
    rw [hentity] at hfailure
    cases hfailure
  · intro hsome
    obtain ⟨child, hfirst⟩ :=
      Option.isSome_iff_exists.mp (List.find?_isSome.mpr hsome)
    obtain ⟨hchild, before, after, hchildren, hbefore⟩ := List.find?_eq_some_iff_append.mp hfirst
    exact ⟨_, hfails before child after hchildren (by simpa using hbefore) hchild⟩

def parameterNamed (name : String) : Declaration :=
  { kind := .parameter, name, offset := 0, length := 0, typeText := "Int" }

def callableNamed (kind : DeclarationKind) (name : String) (params : List String) : Declaration :=
  { kind, name, offset := 0, length := 0, children := params.map parameterNamed }

def mixedChildren : List Declaration :=
  [callableNamed .initializer "init(id:)" ["id"],
    { kind := .property, name := "total", offset := 0, length := 0, computed := true },
    { kind := .classType, name := "Cell", offset := 0, length := 0 },
    { kind := .property, name := "limit", offset := 0, length := 0, settable := true },
    callableNamed .function "move(from:_:)" ["start", "stop"]]

/-- The labels of the first are one too many, those of the second one too few. -/
def inconsistentChildren : List Declaration :=
  [callableNamed .subscript "subscript(row:column:)" ["row"],
    callableNamed .function "stop()" ["now"]]

def typeWith (children : List Declaration) : Declaration :=
  { kind := .protocolType, name := "Api", offset := 0, length := 0, children }

def plainContext : SourceContext :=
  { path := ⟨"Api.swift"⟩, source := "", processed := true, marker := "@mockable", policy := {} }

theorem ofDeclaration_members_of_mixedChildren :
    (∀ child ∈ mixedChildren, child.isInconsistent = false) ∧
      (∃ entity, ofDeclaration plainContext (typeWith mixedChildren) = .ok entity ∧
        List.Forall₂ (Member.Describes plainContext) (mixedChildren.filter isMember)
          entity.members ∧
        entity.members.length = 4) ∧
      ofDeclaration plainContext (typeWith (mixedChildren ++ inconsistentChildren)) =
        .error (.inconsistent ⟨"Api.swift"⟩ "subscript(row:column:)" 2 1) := by
  have hconsistent : ∀ child ∈ mixedChildren, child.isInconsistent = false := by decide
  obtain ⟨_, _, hsucceeds⟩ := ofDeclaration_members plainContext (typeWith mixedChildren)
  obtain ⟨entity, hentity, hdescribes⟩ := hsucceeds hconsistent
  obtain ⟨_, hfails, _⟩ :=
    ofDeclaration_members plainContext (typeWith (mixedChildren ++ inconsistentChildren))
  refine ⟨hconsistent, ⟨entity, hentity, hdescribes, ?_⟩, ?_⟩
  · rw [← hdescribes.length_eq]
    decide
  · exact hfails mixedChildren _ _ rfl hconsistent (by decide)

end Entity

end Understudy
