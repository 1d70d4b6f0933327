import Understudy.Proofs.Handler.Erasure

/-!
# Arguments and the types of the slot

An argument is forwarded as the declared type of its parameter asks for, by reference if that begins
with `inout`. The slot has another type there: the attribute of an autoclosure is taken out of it, a
variadic type is an array, and a type that mentions a generic parameter is `Any`. The two go
together exactly if none of this adds or takes away an `inout` at the beginning
(`Handler.agreesAt_iff`). A generic `inout T` does not: it is passed by reference to an `Any`.
-/

namespace Understudy

open Text Layout

open scoped List

theorem Param.reference_prefix_forwarded_iff {param : Param} :
    "&".toList <+: param.forwarded.toList ↔
      param.type.isInout = true ∨ "&".toList <+: param.name.toList := by
  have hcall : "&".toList <+: (param.name ++ "()").toList ↔ "&".toList <+: param.name.toList := by
    rw [String.toList_append]
    cases param.name.toList with
    | nil => decide
    | cons c rest => simp [List.cons_prefix_cons]
  rw [forwarded]
  split
  · next hinout =>
    rw [String.toList_append]
    exact iff_of_true (List.prefix_append _ _) (.inl hinout)
  · next hinout =>
    rw [or_iff_right hinout]
    split
    · exact hcall
    · rfl

namespace TypeName

variable {type : TypeName}

/-- The name of the type without `@autoclosure`. -/
def withoutAttribute (type : TypeName) : List Char :=
  trim (erase "@autoclosure ".toList type.text.toList)

theorem isInout_iff : type.isInout = true ↔ "inout ".toList <+: type.text.toList :=
  List.isPrefixOf_iff_prefix

/-- A variadic type is in brackets, and any other one begins as it is written. -/
theorem inout_prefix_closureParameter_iff :
    "inout ".toList <+: type.closureParameter.toList ↔
      "inout ".toList <+: type.withoutAttribute ∧ ¬"...".toList <:+ type.withoutAttribute := by
  rw [closureParameter, ← withoutAttribute]
  split
  · next element helement =>
    have hvariadic : "...".toList <:+ type.withoutAttribute :=
      ⟨element, (stripEnd?_eq_some_iff.mp helement).symm⟩
    refine iff_of_false ?_ fun hplain => hplain.2 hvariadic
    simp [String.toList_append, List.cons_prefix_cons]
  · next hnone =>
    have hplain : ¬"...".toList <:+ type.withoutAttribute := by
      rintro ⟨element, helement⟩
      rw [stripEnd?_eq_some_iff.mpr helement.symm] at hnone
      exact absurd hnone (by simp)
    have hwritten : (String.ofList type.withoutAttribute).toList = type.withoutAttribute :=
      String.toList_ofList
    rw [hwritten, and_iff_left hplain]

/-- The attribute is never found in the `inout` at the beginning. -/
theorem inout_prefix_withoutAttribute (htrimmed : ofText type.text = type)
    (h : type.isInout = true) : "inout ".toList <+: type.withoutAttribute := by
  obtain ⟨rest, hrest⟩ := isInout_iff.mp h
  have htrim : trim type.text.toList = type.text.toList := by
    conv_rhs => rw [← htrimmed]
    exact String.toList_ofList.symm
  have hlast := (trim_eq_self_iff.mp htrim).2
  -- the last character is not the blank after the `inout`, nor does it end the attribute
  rcases List.eq_nil_or_concat rest with rfl | ⟨front, last, rfl⟩
  · rw [← hrest] at hlast
    exact absurd (hlast ' ' rfl) (by decide)
  · rw [List.concat_eq_append] at hrest
    have hword : isBlank last = false := hlast last (by
      rw [← hrest, ← List.append_assoc, List.getLast?_concat])
    have hend : last ∉ "@autoclosure ".toList.getLast? := by
      rintro hblank
      obtain rfl : ' ' = last := Option.some.inj hblank
      exact absurd hword (by decide)
    have hkept : erase "@autoclosure ".toList type.text.toList =
        "inout ".toList ++ (erase "@autoclosure ".toList front ++ [last]) := by
      rw [← hrest, ← erase_concat (by decide) hend]
      exact erase_append_left (by decide) "autoclosure ".toList (front ++ [last])
    have hself : trim ("inout ".toList ++ (erase "@autoclosure ".toList front ++ [last])) =
        "inout ".toList ++ (erase "@autoclosure ".toList front ++ [last]) :=
      @trim_eq_self 'i' last (by decide) hword ("nout ".toList ++ _)
    rw [withoutAttribute, hkept, hself]
    exact List.prefix_append _ _

end TypeName

namespace Handler

variable {handler : Handler}

/-- The types of the parameters as the slot has them. -/
def slotParameters (handler : Handler) : List String :=
  handler.paramTypes.map handler.parameterText

/-- An argument is passed by reference exactly where the slot has an `inout` parameter. -/
def AgreesAt (handler : Handler) (i : Nat) : Prop :=
  ∃ argument type, handler.arguments[i]? = some argument ∧ handler.slotParameters[i]? = some type ∧
    ("&".toList <+: argument.toList ↔ "inout ".toList <+: type.toList)

/-- The parameter is still `inout` when its type is rewritten for the slot. -/
structure KeepsInout (handler : Handler) (type : TypeName) : Prop where
  not_erased : ¬handler.Erases type
  inout_first : "inout ".toList <+: type.withoutAttribute
  not_variadic : ¬"...".toList <:+ type.withoutAttribute

theorem keepsInout_iff {type : TypeName} :
    handler.KeepsInout type ↔ "inout ".toList <+: (handler.parameterText type).toList := by
  rw [parameterText]
  split
  · next hgeneric =>
    exact iff_of_false (fun hkeeps => hkeeps.not_erased (isGeneric_iff.mp hgeneric)) (by decide)
  · next hgeneric =>
    rw [TypeName.inout_prefix_closureParameter_iff]
    exact ⟨fun hkeeps => ⟨hkeeps.inout_first, hkeeps.not_variadic⟩, fun hplain =>
      ⟨fun herases => hgeneric (isGeneric_iff.mpr herases), hplain.1, hplain.2⟩⟩

theorem agreesAt_ofParams_iff {generics params : List Param} {returnType : TypeName}
    {effects : String} {isStatic : Bool} {i : Nat} {param : Param}
    (hhandler : handler = ofParams generics params returnType effects isStatic)
    (hparam : params[i]? = some param) :
    handler.AgreesAt i ↔
      ((param.type.isInout = true ∨ "&".toList <+: param.name.toList) ↔
        handler.KeepsInout param.type) := by
  have hargument : handler.arguments[i]? = some param.forwarded := by
    simp [hhandler, ofParams, hparam]
  have htype : handler.slotParameters[i]? = some (handler.parameterText param.type) := by
    simp [slotParameters, hhandler, ofParams, hparam]
  rw [← Param.reference_prefix_forwarded_iff, keepsInout_iff]
  constructor
  · rintro ⟨argument, type, hfound, hslot, hagrees⟩
    obtain rfl := Option.some.inj (hargument.symm.trans hfound)
    obtain rfl := Option.some.inj (htype.symm.trans hslot)
    exact hagrees
  · exact fun hagrees => ⟨_, _, hargument, htype, hagrees⟩

/-- **Arguments and parameter types of the slot.** An `inout` parameter is passed by reference to an
`inout` parameter of the slot exactly if no generic parameter occurs in its type and it is not
variadic. Any other one is passed by value to a parameter that is not `inout`, unless an attribute
in front of an `inout` is taken out in the slot, or the name of the parameter begins with the mark
of a reference. -/
theorem agreesAt_iff {generics params : List Param} {returnType : TypeName} {effects : String}
    {isStatic : Bool} {i : Nat} {param : Param}
    (hhandler : handler = ofParams generics params returnType effects isStatic)
    (hparam : params[i]? = some param) (htrimmed : TypeName.ofText param.type.text = param.type) :
    (∃ rest, handler.slotType = "((" ++ commaList handler.slotParameters ++ ")" ++ rest) ∧
      (param.type.isInout = true → (handler.AgreesAt i ↔
        ¬handler.Erases param.type ∧ ¬"...".toList <:+ param.type.withoutAttribute)) ∧
      (param.type.isInout = false → (handler.AgreesAt i ↔
        ("&".toList <+: param.name.toList ↔ handler.KeepsInout param.type))) := by
  rw [agreesAt_ofParams_iff hhandler hparam]
  refine ⟨⟨handler.effectText ++ " -> (" ++ handler.resultText ++ "))?", ?_⟩, fun hinout => ?_,
    fun hinout => ?_⟩
  · simp only [slotType, slotParameters, String.append_assoc]
  · have hfirst := TypeName.inout_prefix_withoutAttribute htrimmed hinout
    rw [iff_true_left (Or.inl hinout)]
    exact ⟨fun hkeeps => ⟨hkeeps.not_erased, hkeeps.not_variadic⟩, fun hplain =>
      ⟨hplain.1, hfirst, hplain.2⟩⟩
  · rw [hinout, or_iff_right Bool.false_ne_true]

/-- The handler of a method that adds to a counter in place. -/
def adding : Handler :=
  .ofParams [.generic "T" (.ofText "")]
    [.value "amount" "amount" (.ofText "@autoclosure () -> T"),
      .value "to" "counter" (.ofText "inout Counter")]
    (.ofText "") "" false

theorem agreesAt_of_adding :
    adding.slotType = "((Any, inout Counter) -> ())?" ∧
    adding.arguments = ["amount()", "&counter"] ∧ adding.AgreesAt 0 ∧ adding.AgreesAt 1 := by
  have hamount : ¬("&".toList <+: "amount".toList) := by decide
  have hcounter : ¬"...".toList <:+ (TypeName.ofText "inout Counter").withoutAttribute := by decide
  have herases : adding.Erases (.ofText "@autoclosure () -> T") := isGeneric_iff.mp (by decide)
  have hkeeps : ¬adding.Erases (.ofText "inout Counter") := fun herases =>
    absurd (isGeneric_iff.mpr herases) (by decide)
  obtain ⟨_, _, hvalue⟩ := @agreesAt_iff adding _ _ _ _ _ 0 _ rfl rfl (by decide)
  obtain ⟨_, hreference, _⟩ := @agreesAt_iff adding _ _ _ _ _ 1 _ rfl rfl (by decide)
  refine ⟨by decide, by decide, (hvalue (by decide)).mpr ?_,
    (hreference (by decide)).mpr ⟨hkeeps, hcounter⟩⟩
  exact iff_of_false hamount fun hslot => hslot.not_erased herases

/-- A generic `inout` parameter is passed by reference, but the slot has `Any` there. -/
theorem not_agreesAt_of_generic :
    ∃ handler : Handler,
      handler = ofParams [.generic "T" (.ofText "")] [.value "x" "x" (.ofText "inout T")]
        (.ofText "") "" false ∧
      handler.arguments = ["&x"] ∧ handler.slotType = "((Any) -> ())?" ∧ ¬handler.AgreesAt 0 := by
  refine ⟨_, rfl, by decide, by decide, ?_⟩
  rintro ⟨argument, type, hargument, htype, hagrees⟩
  obtain rfl : "&x" = argument := Option.some.inj hargument
  obtain rfl : "Any" = type := Option.some.inj htype
  exact absurd (hagrees.mp (by decide)) (by decide)

end Handler

end Understudy
