import Understudy.Proofs.Method.Names
import Understudy.Proofs.Mock.DeclaredNames

/-!
# Counters and slots as identifiers

The counter and the slot of a method extend its declared name by the components that were needed to
tell it apart. So they are identifiers exactly if the declared name is one and these components are
plain: a name in backticks or an operator never gives one.
-/

namespace Understudy

open Text Layout

/-- An identifier in backticks, as a keyword is used for a name. -/
def isQuotedName (text : List Char) : Bool :=
  match text with
  | '\x60' :: rest => rest.getLast? == some '\x60' && isIdentifier rest.dropLast
  | _ => false

def isOperator (text : List Char) : Bool :=
  !text.isEmpty && text.all "/=-+!*%<>&|^~?".toList.contains

def isFunctionName (text : List Char) : Bool :=
  isIdentifier text || isQuotedName text || isOperator text

def isArgumentLabel (text : List Char) : Bool :=
  isIdentifier text || isQuotedName text

namespace Identifier

variable {members : List Member} {method : Method} {identifier : String}

theorem exists_used_of_mem_zip {used : List String}
    (hpair : (.callable method, identifier) ∈ members.zip (resolveFrom used members))
    (hrecorded : keepsName method = false) : ∃ taken, identifier = choose method taken := by
  induction members generalizing used with
  | nil => simp at hpair
  | cons member rest ih =>
      obtain ⟨first, hzip, hchosen⟩ := exists_zip_resolveFrom_cons used member rest
      rw [hzip] at hpair
      rcases List.mem_cons.mp hpair with heq | hrest
      · obtain ⟨rfl, rfl⟩ := Prod.mk.inj heq
        exact ⟨used, hchosen method rfl hrecorded⟩
      · exact ih hrest

theorem exists_level_of_mem_zip
    (hpair : (.callable method, identifier) ∈ members.zip (resolve members))
    (hrecorded : keepsName method = false) : ∃ level, identifier = method.nameAt level := by
  obtain ⟨taken, rfl⟩ := exists_used_of_mem_zip hpair hrecorded
  obtain ⟨level, hlevel, _⟩ := exists_level_choose method taken
  exact ⟨level, hlevel⟩

end Identifier

namespace Mock

variable {known : KnownLiterals} {members : List Member} {method : Method} {identifier : String}

theorem isIdentifier_recorders_iff_identifier (hne : identifier ≠ "") :
    isIdentifier (Callable.counterName identifier).toList = true ∧
        isIdentifier (Callable.slotName identifier).toList = true ↔
      isIdentifier identifier.toList = true := by
  have hletters : identifier.toList ≠ [] := by simpa using hne
  have hcount : isPlain "CallCount".toList = true := by decide
  have hslot : isPlain "Handler".toList = true := by decide
  simp only [Callable.counterName, Callable.slotName, String.toList_append,
    isIdentifier_append hletters, hcount, hslot, and_true, and_self]

theorem recorderLines_subset_memberLines (hinitializer : method.isInitializer = false) :
    method.recorderLines identifier ⊆ memberLines known (.callable method, identifier) := by
  intro line hline
  simp only [memberLines_of_not_isInitializer hinitializer, Callable.mockLines, List.append_assoc]
  exact List.mem_append_left _ hline

theorem memberLines_subset_classLines (entity : Entity) (isFinal : Bool) {pair : Member × String}
    (hpair : pair ∈ members.zip (Identifier.resolve members)) :
    memberLines known pair ⊆ classLines known entity members isFinal := fun _ hline =>
  List.mem_append_left _ (List.mem_append_right _ (List.mem_flatMap.mpr ⟨pair, hpair, hline⟩))

/-- **When counters and slots are identifiers.** The class of fresh members declares the counter and
the slot of every callable but an initializer. Both are identifiers exactly if the declared name is
one and the components that were added to it are plain, which they are when the words of the
signature are plain and their capital forms too. -/
theorem isIdentifier_recorders_iff (hfresh : ∀ member ∈ members, member.isProcessed = false)
    (hpair : (.callable method, identifier) ∈ members.zip (Identifier.resolve members))
    (hinitializer : method.isInitializer = false) (hname : method.name ≠ "") :
    (∀ known disk entity isFinal cache, ∃ lines,
      (classText disk known entity members isFinal cache).1 = .ok (joinLines lines) ∧
      (∃ line ∈ lines, Declares line (Callable.counterName identifier)) ∧
      ∃ line ∈ lines, Declares line (Callable.slotName identifier)) ∧
    (∃ level, identifier = method.nameAt level ∧
      (isIdentifier (Callable.counterName identifier).toList = true ∧
          isIdentifier (Callable.slotName identifier).toList = true ↔
        isIdentifier method.name.toList = true ∧
          ∀ component ∈ method.components.take level, isPlain component.toList = true)) ∧
    (method.IsBuilt → isIdentifier method.name.toList = true →
      (∀ word ∈ method.wordsInComponents, isPlain word = true ∧ capitalizesPlainly word = true) →
      isIdentifier (Callable.counterName identifier).toList = true ∧
        isIdentifier (Callable.slotName identifier).toList = true) := by
  have hmember : .callable method ∈ members := (List.of_mem_zip hpair).1
  have hrecorded := (Identifier.keepsName_eq_isInitializer (hfresh _ hmember)).trans hinitializer
  obtain ⟨level, hlevel⟩ := Identifier.exists_level_of_mem_zip hpair hrecorded
  have hne : identifier ≠ "" := by
    rintro rfl
    obtain ⟨more, hmore⟩ := method.exists_nameAt_eq_append level
    rw [hmore, eq_comm, String.append_eq_empty_iff] at hlevel
    exact hname hlevel.1
  have hiff : isIdentifier (Callable.counterName identifier).toList = true ∧
      isIdentifier (Callable.slotName identifier).toList = true ↔
        isIdentifier method.name.toList = true ∧
          ∀ component ∈ method.components.take level, isPlain component.toList = true := by
    rw [isIdentifier_recorders_iff_identifier hne, hlevel]
    exact Method.isIdentifier_nameAt_iff hname
  refine ⟨?_, ⟨level, hlevel, hiff⟩, ?_⟩
  · intro known disk entity isFinal cache
    have hlines : method.recorderLines identifier ⊆ classLines known entity members isFinal :=
      List.Subset.trans (recorderLines_subset_memberLines hinitializer)
        (memberLines_subset_classLines entity isFinal hpair)
    have hdeclares := declares_recorderLines method.toCallable identifier
    obtain _ | ⟨hcounter, _ | ⟨hslot, _⟩⟩ := hdeclares
    exact ⟨_, congrArg Prod.fst (classText_of_fresh disk entity isFinal cache hfresh),
      ⟨_, hlines List.mem_cons_self, hcounter⟩,
      ⟨_, hlines (List.mem_cons_of_mem _ List.mem_cons_self), hslot⟩⟩
  · intro hbuilt hidentifier hwords
    refine hiff.mpr ⟨hidentifier, fun component hcomponent => ?_⟩
    exact hbuilt.isPlain_of_mem_components (fun word hword => (hwords word hword).1)
      (fun word hword => (hwords word hword).2) component (List.mem_of_mem_take hcomponent)

/-- Two functions of one name, of which the second needs a component. -/
def overloadedMembers : List Member :=
  [plainCallable "load" "load()" .function, plainCallable "load" "load(_:)" .function]

theorem isBuilt_of_plainCallable {name declaredName : String} {kind : MethodKind} {method : Method}
    (hkind : kind ≠ .initializer) (h : plainCallable name declaredName kind = .callable method) :
    method.IsBuilt := by
  obtain rfl := Member.callable.inj h
  have hcomponents : ({} : SignaturePolicy).components "" [] [] (.ofText "Int") = ["Int"] := by
    decide
  exact ⟨⟨{}, hcomponents.symm⟩, by simp [hkind], by simp, ⟨[], by simp, rfl⟩⟩

theorem isIdentifier_recorders_iff_of_overloadedMembers :
    ∃ method, (∀ member ∈ overloadedMembers, member.isProcessed = false) ∧
      (.callable method, "loadInt") ∈
        overloadedMembers.zip (Identifier.resolve overloadedMembers) ∧
      method.isInitializer = false ∧ method.name ≠ "" ∧ method.IsBuilt ∧
      isIdentifier (Callable.counterName "loadInt").toList = true ∧
      isIdentifier (Callable.slotName "loadInt").toList = true := by
  obtain ⟨method, hmethod⟩ : ∃ method, plainCallable "load" "load(_:)" .function =
    .callable method := ⟨_, rfl⟩
  have hfresh : ∀ member ∈ overloadedMembers, member.isProcessed = false := by decide
  have hbuilt := isBuilt_of_plainCallable (by decide) hmethod
  have hpair : (plainCallable "load" "load(_:)" .function, "loadInt") ∈
      overloadedMembers.zip (Identifier.resolve overloadedMembers) := by decide
  rw [hmethod] at hpair
  obtain rfl := Member.callable.inj hmethod
  refine ⟨_, hfresh, hpair, rfl, by decide, hbuilt, ?_⟩
  exact (isIdentifier_recorders_iff hfresh hpair rfl (by decide)).2.2 hbuilt (by decide) (by decide)

/-- A function whose name is a keyword in backticks. -/
def quotedMembers : List Member :=
  [plainCallable "\x60default\x60" "\x60default\x60()" .function]

/-- Backticks are kept in the names of the counter and the slot. -/
theorem not_isIdentifier_recorders :
    ¬∀ members : List Member, (∀ member ∈ members, member.isProcessed = false) →
      (∀ method : Method, .callable method ∈ members → method.IsBuilt ∧
        isFunctionName method.name.toList = true ∧
        ∀ param ∈ method.params, isArgumentLabel param.label.toList = true) →
      ∀ (method : Method) (identifier : String),
        (.callable method, identifier) ∈ members.zip (Identifier.resolve members) →
        method.isInitializer = false →
        isIdentifier (Callable.counterName identifier).toList = true ∧
          isIdentifier (Callable.slotName identifier).toList = true := by
  intro hall
  have hmethods : ∀ method : Method, .callable method ∈ quotedMembers → method.IsBuilt ∧
      isFunctionName method.name.toList = true ∧
      ∀ param ∈ method.params, isArgumentLabel param.label.toList = true := by
    intro method hmethod
    have heq := List.mem_singleton.mp hmethod
    have hbuilt := isBuilt_of_plainCallable (by decide) heq.symm
    obtain rfl := Member.callable.inj heq
    exact ⟨hbuilt, by decide, by simp⟩
  have hcounter := (hall quotedMembers (by decide) hmethods _ "\x60default\x60"
    List.mem_cons_self rfl).1
  revert hcounter
  decide

end Mock

end Understudy
