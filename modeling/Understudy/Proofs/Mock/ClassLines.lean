import Mathlib.Data.List.Forall2
import Understudy.Mock.Class

/-!
# The lines of a mock class

The text of a class whose members are all fresh is a list of lines: those that open the class, those
of each member in turn, and the closing brace.
-/

namespace Understudy

open Layout

def Callable.lines (member : Callable) (identifier : String) (known : KnownLiterals) :
    List String :=
  match member.kind with
  | .initializer => member.initializerLines
  | _ => member.mockLines identifier known

theorem Callable.mockText_eq (member : Callable) (identifier : String) (known : KnownLiterals) :
    member.mockText identifier known = joinLines (member.lines identifier known) :=
  rfl

namespace Property

variable (property : Property) (known : KnownLiterals)

def modifiers : String :=
  keyword property.accessLevel ++ keyword (staticWord property.isStatic)

def counterLine : String :=
  tab 1 ++ property.modifiers ++ "var " ++ counterName property.name ++ " = 0"

def isBacked : Bool :=
  match property.type.default? known with
  | none | some "" => true
  | some _ => false

def lines : List String :=
  property.counterLine ::
    match property.type.default? known with
    | none | some "" =>
        backedLines property.name property.type property.isStatic property.modifiers
    | some literal =>
        [initializedLine property.name property.type property.isStatic property.modifiers literal]

theorem mockText_eq : property.mockText known = joinLines (property.lines known) :=
  rfl

theorem lines_of_isBacked (h : property.isBacked known = true) :
    property.lines known = property.counterLine ::
      backedLines property.name property.type property.isStatic property.modifiers := by
  unfold isBacked at h
  unfold lines
  split at h
  · rfl
  · rfl
  · simp at h

theorem lines_of_not_isBacked (h : property.isBacked known = false) :
    ∃ literal, property.lines known = [property.counterLine,
      initializedLine property.name property.type property.isStatic property.modifiers
        literal] := by
  unfold isBacked at h
  unfold lines
  split at h
  · simp at h
  · simp at h
  · next literal _ _ => exact ⟨literal, rfl⟩

end Property

namespace Mock

variable {known : KnownLiterals}

def memberLines (known : KnownLiterals) : Member × String → List String
  | (.callable method, identifier) => method.toCallable.lines identifier known
  | (.stored property, _) => property.lines known

theorem memberLines_ne_nil (known : KnownLiterals) (pair : Member × String) :
    memberLines known pair ≠ [] := by
  obtain ⟨member, identifier⟩ := pair
  cases member with
  | callable method =>
      simp only [memberLines, Callable.lines]
      split <;> simp [Callable.initializerLines, Callable.mockLines]
  | stored property => simp [memberLines, Property.lines]

theorem memberLines_of_not_isInitializer {method : Method} (h : method.isInitializer = false)
    (known : KnownLiterals) (identifier : String) :
    memberLines known (.callable method, identifier) = method.mockLines identifier known := by
  have hkind : method.kind ≠ .initializer := by simpa [Method.isInitializer] using h
  rw [memberLines, Callable.lines]
  split
  · next heq => exact absurd heq hkind
  · rfl

theorem memberText_of_fresh {member : Member} (hfresh : member.isProcessed = false)
    (disk : Disk) (known : KnownLiterals) (identifier : String) (cache : SourceCache) :
    memberText disk known identifier member cache =
      (.ok (some (joinLines (memberLines known (member, identifier)))), cache) := by
  cases member with
  | callable method =>
      have hmethod : method.isProcessed = false := hfresh
      simp [memberText, methodText, hmethod, memberLines, Callable.mockText_eq]
  | stored property =>
      have hproperty : property.isProcessed = false := hfresh
      simp only [memberText, propertyText, hproperty, memberLines, Property.mockText_eq]
      rfl

theorem placed_of_fresh {member : Member} (hfresh : member.isProcessed = false) (text : String) :
    placed member text = text := by
  simp [placed, hfresh]

/-- Fresh members are rendered without a look at the disk or the cache. -/
theorem memberTexts_of_fresh (disk : Disk) (cache : SourceCache)
    {pairs : List (Member × String)} (hfresh : ∀ pair ∈ pairs, pair.1.isProcessed = false) :
    memberTexts disk known pairs cache =
      (.ok (pairs.map fun pair => joinLines (memberLines known pair)), cache) := by
  induction pairs with
  | nil => rfl
  | cons pair rest ih =>
      obtain ⟨hmember, hrest⟩ := List.forall_mem_cons.mp hfresh
      simp [memberTexts, memberText_of_fresh hmember, ih hrest, placed_of_fresh hmember, Except.map]

theorem joinLines_map_joinLines_append {groups : List (List String)} {last : List String}
    (hgroups : ∀ group ∈ groups, group ≠ []) (hlast : last ≠ []) :
    joinLines (groups.map joinLines ++ last) = joinLines (groups.flatten ++ last) := by
  induction groups with
  | nil => rfl
  | cons group rest ih =>
      obtain ⟨hgroup, hrest⟩ := List.forall_mem_cons.mp hgroups
      have htail {lines : List String} : lines ++ last ≠ [] := by simp [hlast]
      have hjoined := ih hrest
      unfold joinLines at hjoined ⊢
      rw [List.map_cons, List.cons_append, String.intercalate_cons_of_ne_nil htail,
        List.flatten_cons, List.append_assoc, String.intercalate_append_of_ne_nil hgroup htail]
      exact congrArg _ hjoined

/-- The lines of a class whose members are all fresh. -/
def classLines (known : KnownLiterals) (entity : Entity) (members : List Member)
    (isFinal : Bool) : List String :=
  headLines entity members isFinal ++
    (members.zip (Identifier.resolve members)).flatMap (memberLines known) ++ ["\x7d"]

theorem classText_of_fresh (disk : Disk) (entity : Entity) (isFinal : Bool) (cache : SourceCache)
    {members : List Member} (hfresh : ∀ member ∈ members, member.isProcessed = false) :
    classText disk known entity members isFinal cache =
      (.ok (joinLines (classLines known entity members isFinal)), cache) := by
  have hpairs : ∀ pair ∈ members.zip (Identifier.resolve members), pair.1.isProcessed = false :=
    fun pair hmem => hfresh pair.1 (List.of_mem_zip hmem).1
  have hgroups : ∀ group ∈
      (members.zip (Identifier.resolve members)).map (memberLines known), group ≠ [] := by
    intro group hmem
    obtain ⟨pair, _, rfl⟩ := List.mem_map.mp hmem
    exact memberLines_ne_nil known pair
  have hlast : ["\x7d"] ≠ [] := List.cons_ne_nil _ _
  have hlines := joinLines_map_joinLines_append hgroups hlast
  have hhead : headLines entity members isFinal ≠ [] := by simp [headLines]
  have htext : joinLines (headLines entity members isFinal ++
      (members.zip (Identifier.resolve members)).map (fun pair =>
        joinLines (memberLines known pair)) ++ ["\x7d"]) =
      joinLines (classLines known entity members isFinal) := by
    rw [classLines, List.append_assoc, List.append_assoc, List.flatMap_def]
    unfold joinLines at hlines ⊢
    rw [String.intercalate_append_of_ne_nil hhead (by simp),
      String.intercalate_append_of_ne_nil hhead (by simp), ← hlines, List.map_map]
    rfl
  simp only [classText, memberTexts_of_fresh disk cache hpairs, Except.map, htext]

end Mock

end Understudy
