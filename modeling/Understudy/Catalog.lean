import Understudy.Entity
import Understudy.TypeName.Default

/-!
The catalog of a run: every entity that was collected, looked up by the name it declares.

The first unprocessed protocol of a name is the protocol of that name, and the first processed
class `NMock` is the existing mock of `N`. A target is an annotated protocol without an existing
mock. Its lineage lists the entities it inherits from, each once, in the order of a depth-first
walk, where the existing mock of a parent stands in for the parent.
-/

namespace Understudy

structure Catalog where
  entities : List Entity
deriving Repr

namespace Catalog

/-- Every mock has this flag for itself. -/
def initMarker : String :=
  "_doneInit"

def isProtocol (entity : Entity) : Bool :=
  entity.kind == .protocolType && !entity.isProcessed

/-- The protocol that an entity mocks, if it is a processed class with the name of a mock. -/
def mockOf? (entity : Entity) : Option String :=
  if entity.kind == .classType && entity.isProcessed then entity.mockedName? else none

def protocol? (catalog : Catalog) (name : String) : Option Entity :=
  catalog.entities.find? fun entity => isProtocol entity && entity.name == name

def existingMock? (catalog : Catalog) (name : String) : Option Entity :=
  catalog.entities.find? fun entity => mockOf? entity == some name

/-- What stands for an inherited type: its existing mock, else its protocol. -/
def resolve? (catalog : Catalog) (name : String) : Option Entity :=
  (catalog.existingMock? name).or (catalog.protocol? name)

/-- The names under which entities can be found. -/
def names (catalog : Catalog) : List String :=
  catalog.entities.flatMap fun entity => entity.name :: (mockOf? entity).toList

theorem mem_names_of_resolve? {catalog : Catalog} {name : String} {entity : Entity}
    (h : catalog.resolve? name = some entity) : name ∈ catalog.names := by
  simp only [resolve?, Option.or_eq_some_iff] at h
  rcases h with hmock | ⟨_, hprotocol⟩
  · refine List.mem_flatMap.mpr ⟨entity, List.mem_of_find?_eq_some hmock, ?_⟩
    have hname := List.find?_some hmock
    simp_all
  · refine List.mem_flatMap.mpr ⟨entity, List.mem_of_find?_eq_some hprotocol, ?_⟩
    have hname := List.find?_some hprotocol
    simp_all

def firstOfName : List Entity → List Entity
  | [] => []
  | entity :: rest =>
      entity :: (firstOfName rest).filter fun later => later.name != entity.name

def protocols (catalog : Catalog) : List Entity :=
  firstOfName (catalog.entities.filter isProtocol)

def isTarget (catalog : Catalog) (entity : Entity) : Bool :=
  entity.isAnnotated && (catalog.existingMock? entity.name).isNone

/-- The protocols to mock, in the order of their names. -/
def targets (catalog : Catalog) : List Entity :=
  (catalog.protocols.filter catalog.isTarget).mergeSort fun left right => left.name ≤ right.name

/-- The literal `NMock()` for every protocol `N` that has a mock, existing or to be written. -/
def knownLiterals (catalog : Catalog) : KnownLiterals :=
  (((catalog.protocols.filter Entity.isAnnotated).map Entity.name) ++
      catalog.entities.filterMap mockOf?).map fun name => (name, name ++ "Mock()")

def unseen (names seen : List String) : Nat :=
  names.countP fun name => name ∉ seen

theorem unseen_cons_le (names seen : List String) (name : String) :
    unseen names (name :: seen) ≤ unseen names seen := by
  refine List.countP_mono_left fun other _ hother => ?_
  simp_all

theorem unseen_cons_lt {names seen : List String} {name : String} (hmem : name ∈ names)
    (hseen : name ∉ seen) : unseen names (name :: seen) < unseen names seen := by
  induction names with
  | nil => simp at hmem
  | cons head rest ih =>
      have hle := unseen_cons_le rest seen name
      unfold unseen at *
      rw [List.countP_cons, List.countP_cons]
      by_cases hhead : head = name
      · subst hhead
        simp only [List.mem_cons, true_or, not_true_eq_false, decide_false, hseen,
          not_false_eq_true, decide_true]
        simp only [List.mem_cons] at hle
        simp only [if_true, Bool.false_eq_true, if_false]
        omega
      · have hrest : name ∈ rest := (List.mem_cons.mp hmem).resolve_left fun h => hhead h.symm
        have hlt := ih hrest
        simp only [List.mem_cons, hhead, false_or] at hlt ⊢
        omega

/-- The entities met by a depth-first walk from the pending names, skipping the names already
seen and those that name nothing. -/
def walk (catalog : Catalog) (seen : List String) : List String → List Entity
  | [] => []
  | name :: pending =>
      if _hseen : name ∈ seen then
        walk catalog seen pending
      else
        match _hentity : catalog.resolve? name with
        | some entity => entity :: walk catalog (name :: seen) (entity.inheritedTypes ++ pending)
        | none => walk catalog (name :: seen) pending
termination_by pending => (unseen catalog.names seen, pending.length)
decreasing_by
  · exact Prod.Lex.right _ (Nat.lt_succ_self _)
  · exact Prod.Lex.left _ _ (unseen_cons_lt (mem_names_of_resolve? _hentity) _hseen)
  · rcases Nat.lt_or_eq_of_le (unseen_cons_le catalog.names seen name) with hlt | heq
    · exact Prod.Lex.left _ _ hlt
    · exact heq ▸ Prod.Lex.right _ (Nat.lt_succ_self _)

/-- An entity followed by what it inherits from, in depth-first order. -/
def lineage (catalog : Catalog) (entity : Entity) : List Entity :=
  entity :: catalog.walk [entity.name] entity.inheritedTypes

/-- The members with the first occurrence of each signature key, less the init marker. -/
def mergeMembers (seen : List String) : List Member → List Member
  | [] => []
  | member :: rest =>
      if member.name == initMarker || seen.contains member.signatureKey then
        mergeMembers seen rest
      else
        member :: mergeMembers (member.signatureKey :: seen) rest

/-- Own members followed by inherited ones. A requirement that is stated again along the lineage
counts once, where it is first declared; overloads all stay. -/
def flatten (catalog : Catalog) (entity : Entity) : List Member :=
  mergeMembers [] ((catalog.lineage entity).flatMap Entity.members)

def contributingFiles (catalog : Catalog) (entity : Entity) : List Path :=
  (catalog.lineage entity).map Entity.path

end Catalog

end Understudy
