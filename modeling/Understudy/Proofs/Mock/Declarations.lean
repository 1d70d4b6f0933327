import Understudy.Catalog
import Understudy.Proofs.Mock.ClassLines
import Understudy.Proofs.Mock.Identifier

/-!
# Declarations in a mock class

A stored property declares its own name, a setter counter and, without a default of its type, a
backing slot; every callable but an initializer declares a counter and a handler slot, and a
computed property its own name as well. `Mock.exists_declarations` finds a line for each of these
names in the text of the class, in order.
-/

namespace Understudy.Mock

open Layout
open scoped List

variable {known : KnownLiterals}

/-- The names that a fresh member declares under its identifier. -/
def declaredBy (known : KnownLiterals) : Member × String → List String
  | (.stored property, _) =>
      Property.counterName property.name ::
        ((if property.isBacked known then [Property.backingName property.name] else []) ++
          [property.name])
  | (.callable method, identifier) =>
      Identifier.recordersOf (.callable method, identifier) ++
        if method.kind = .computedProperty then [method.name] else []

/-- The names that the class of fresh members declares. -/
def declaredNames (known : KnownLiterals) (members : List Member) : List String :=
  Catalog.initMarker :: (members.zip (Identifier.resolve members)).flatMap (declaredBy known)

/-- A line of a class body declares a variable of the given name. -/
def Declares (line name : String) : Prop :=
  ∃ modifiers rest, line = tab 1 ++ modifiers ++ "var " ++ name ++ ": " ++ rest ∨
    line = tab 1 ++ modifiers ++ "var " ++ name ++ " = " ++ rest

theorem declares_counter (modifiers name : String) :
    Declares (tab 1 ++ modifiers ++ "var " ++ name ++ " = 0") name :=
  ⟨modifiers, "0", .inr (by simp [String.append_assoc])⟩

theorem declares_typed (modifiers name type rest : String) :
    Declares (tab 1 ++ modifiers ++ "var " ++ name ++ ": " ++ type ++ rest) name :=
  ⟨modifiers, type ++ rest, .inl (by simp only [String.append_assoc])⟩

theorem declares_initializedLine (property : Property) (literal : String) :
    Declares (Property.initializedLine property.name property.type property.isStatic
      property.modifiers literal) property.name :=
  ⟨property.modifiers, property.type.text ++ " = " ++ literal ++ " \x7b didSet \x7b " ++
    Property.increment property.name property.isStatic ++ " \x7d \x7d",
    .inl (by simp only [Property.initializedLine, String.append_assoc])⟩

theorem declares_backedLines (property : Property) :
    List.Forall₂ Declares ((Property.backedLines property.name property.type property.isStatic
      property.modifiers).take 2) [Property.backingName property.name, property.name] := by
  refine .cons ?_ (.cons (declares_typed _ _ _ _) .nil)
  exact ⟨"private " ++ keyword (staticWord property.isStatic),
    Property.backingType property.type, .inl (by simp only [String.append_assoc])⟩

theorem exists_declarations_stored (property : Property) (identifier : String) :
    ∃ lines, lines <+ memberLines known (.stored property, identifier) ∧
      List.Forall₂ Declares lines (declaredBy known (.stored property, identifier)) := by
  have hcounter : Declares property.counterLine (Property.counterName property.name) :=
    declares_counter _ _
  cases hbacked : property.isBacked known with
  | true =>
      refine ⟨property.counterLine :: (Property.backedLines property.name property.type
        property.isStatic property.modifiers).take 2, ?_, ?_⟩
      · rw [memberLines, Property.lines_of_isBacked _ _ hbacked]
        exact (List.take_sublist 2 _).cons_cons _
      · simp only [declaredBy, hbacked, if_true]
        exact .cons hcounter (declares_backedLines property)
  | false =>
      obtain ⟨literal, hlines⟩ := Property.lines_of_not_isBacked _ _ hbacked
      refine ⟨_, List.Sublist.refl _, ?_⟩
      simp only [memberLines, hlines, declaredBy, hbacked, Bool.false_eq_true, if_false]
      exact .cons hcounter (.cons (declares_initializedLine property literal) .nil)

theorem declares_recorderLines (member : Callable) (identifier : String) :
    List.Forall₂ Declares (member.recorderLines identifier)
      [Callable.counterName identifier, Callable.slotName identifier] :=
  .cons (declares_counter _ _) (.cons ⟨member.modifiers, _, .inl rfl⟩ .nil)

theorem declares_openingLine {member : Callable} (hkind : member.kind = .computedProperty) :
    Declares member.openingLine member.name := by
  refine ⟨member.modifiers, member.returnType.text ++ " \x7b", .inl ?_⟩
  simp only [Callable.openingLine, hkind, String.append_assoc]

theorem exists_declarations_callable (method : Method) (identifier : String)
    (hfresh : method.isProcessed = false) :
    ∃ lines, lines <+ memberLines known (.callable method, identifier) ∧
      List.Forall₂ Declares lines (declaredBy known (.callable method, identifier)) := by
  have hkeeps := Identifier.keepsName_eq_isInitializer hfresh
  have hrecorders := declares_recorderLines method.toCallable identifier
  cases hkind : method.kind with
  | initializer =>
      refine ⟨[], List.nil_sublist _, ?_⟩
      simp [declaredBy, Identifier.recordersOf, hkeeps, Method.isInitializer, hkind]
  | computedProperty =>
      refine ⟨method.recorderLines identifier ++ [method.openingLine], ?_, ?_⟩
      · simp only [memberLines, Callable.lines, hkind, Callable.mockLines]
        exact ((List.sublist_append_left _ _).append (.refl _)).trans
          ((List.sublist_append_left _ _).trans (List.sublist_append_left _ _))
      · simp only [declaredBy, Identifier.recordersOf, hkeeps, Method.isInitializer, hkind]
        exact List.rel_append hrecorders (.cons (declares_openingLine hkind) .nil)
  | _ =>
      refine ⟨method.recorderLines identifier, ?_, ?_⟩
      · simp only [memberLines, Callable.lines, hkind, Callable.mockLines, List.append_assoc]
        exact List.sublist_append_left _ _
      · simpa [declaredBy, Identifier.recordersOf, hkeeps, Method.isInitializer, hkind]
          using hrecorders

theorem exists_declarations_pairs (known : KnownLiterals) {pairs : List (Member × String)}
    (hfresh : ∀ pair ∈ pairs, pair.1.isProcessed = false) :
    ∃ lines, lines <+ pairs.flatMap (memberLines known) ∧
      List.Forall₂ Declares lines (pairs.flatMap (declaredBy known)) := by
  induction pairs with
  | nil => exact ⟨[], .slnil, .nil⟩
  | cons pair rest ih =>
      obtain ⟨hpair, hrest⟩ := List.forall_mem_cons.mp hfresh
      obtain ⟨later, hlater, hdeclared⟩ := ih hrest
      have hfirst : ∃ lines, lines <+ memberLines known pair ∧
          List.Forall₂ Declares lines (declaredBy known pair) := by
        obtain ⟨member, identifier⟩ := pair
        cases member with
        | callable method => exact exists_declarations_callable method identifier hpair
        | stored property => exact exists_declarations_stored property identifier
      obtain ⟨lines, hlines, hdeclares⟩ := hfirst
      exact ⟨lines ++ later, hlines.append hlater, List.rel_append hdeclares hdeclared⟩

/-- The class has a line for each name that it declares, in order. -/
theorem exists_declarations (known : KnownLiterals) (entity : Entity) (isFinal : Bool)
    {members : List Member}
    (hfresh : ∀ member ∈ members, member.isProcessed = false) :
    ∃ lines, lines <+ classLines known entity members isFinal ∧
      List.Forall₂ Declares lines (declaredNames known members) := by
  have hpairs : ∀ pair ∈ members.zip (Identifier.resolve members), pair.1.isProcessed = false :=
    fun pair hmem => hfresh pair.1 (List.of_mem_zip hmem).1
  obtain ⟨lines, hlines, hdeclares⟩ := exists_declarations_pairs known hpairs
  refine ⟨(tab 1 ++ "private var _doneInit = false") :: lines, ?_, .cons ?_ hdeclares⟩
  · have hmarker : [tab 1 ++ "private var _doneInit = false"] <+
        headLines entity members isFinal := by
      refine List.singleton_sublist.mpr ?_
      simp [headLines]
    exact (hmarker.append hlines).trans (List.sublist_append_left _ _)
  · exact ⟨"private ", "false", .inr (by simp [String.append_assoc, Catalog.initMarker])⟩

end Understudy.Mock
