import Understudy.Mock.Class
import Understudy.Proofs.TypeName.Search

/-!
# Known literals are looked up by name

The text of a mock class takes from the known literals the one that each name looks up. Which list
holds them, and in which order, does not matter.
-/

namespace Understudy

/-- Two lists give the same literal for the type of every name. -/
def KnownLiterals.Agree (known other : KnownLiterals) : Prop :=
  ∀ name, known.lookup name = other.lookup name

variable {known other : KnownLiterals}

theorem TypeName.defaultOf_congr (h : known.Agree other) (text : List Char) :
    defaultOf known text = defaultOf other text := by
  have hstep : searchStep known = searchStep other := by
    funext search text
    rw [searchStep, searchStep, h]
  calc defaultOf known text
      = (searchStep known)^[text.length + 1] (fun _ => none) text :=
        (iterate_searchStep _ (Nat.lt_succ_self _)).symm
    _ = defaultOf other text := by rw [hstep, iterate_searchStep _ (Nat.lt_succ_self _)]

theorem TypeName.default?_congr (h : known.Agree other) (type : TypeName) :
    type.default? known = type.default? other :=
  defaultOf_congr h _

theorem Handler.invocation_congr (h : known.Agree other) (handler : Handler) (slot : String)
    (level : Nat) : handler.invocation slot known level = handler.invocation slot other level := by
  simp only [invocation, fallback, TypeName.default?_congr h]

theorem Callable.mockText_congr (h : known.Agree other) (member : Callable)
    (identifier : String) :
    member.mockText identifier known = member.mockText identifier other := by
  have hrecording : ∀ level, member.recordingLines identifier known level =
      member.recordingLines identifier other level := by
    intro level
    unfold recordingLines
    cases member.handler with
    | none => rfl
    | some handler => simp only [Handler.invocation_congr h]
  simp only [mockText, mockLines, bodyLines, hrecording]

theorem Property.mockText_congr (h : known.Agree other) (property : Property) :
    property.mockText known = property.mockText other := by
  simp only [mockText, mockTextOf, TypeName.default?_congr h]

namespace Mock

theorem memberText_congr (h : known.Agree other) (disk : Disk) (identifier : String)
    (member : Member) (cache : SourceCache) :
    memberText disk known identifier member cache =
      memberText disk other identifier member cache := by
  cases member with
  | callable method => simp only [memberText, methodText, Callable.mockText_congr h]
  | stored property => simp only [memberText, propertyText, Property.mockText_congr h]

theorem memberTexts_congr (h : known.Agree other) (disk : Disk) (members : List (Member × String))
    (cache : SourceCache) :
    memberTexts disk known members cache = memberTexts disk other members cache := by
  induction members generalizing cache with
  | nil => rfl
  | cons head rest ih => simp only [memberTexts, memberText_congr h, ih]

theorem classText_congr (h : known.Agree other) (disk : Disk) (entity : Entity)
    (members : List Member) (isFinal : Bool) (cache : SourceCache) :
    classText disk known entity members isFinal cache =
      classText disk other entity members isFinal cache := by
  simp only [classText, memberTexts_congr h]

end Mock

end Understudy
