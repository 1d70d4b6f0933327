import Understudy.Method
import Understudy.Proofs.Text.Capital
import Understudy.Proofs.Text.Words

/-!
# What the names of a method are made of

A name is extended from level to level by components and then by numbers. A component holds the
words of the signature, that is labels, generic parameters and the words of types, each with a
capital form in front.
-/

namespace Understudy

open Text

namespace Effects

theorem subset_leading (tokens : List Token) : leading tokens ⊆ keywords := by
  fun_induction leading tokens with
  | case1 rest ih => exact ih
  | case2 text rest haccessor ih =>
      refine List.cons_subset.mpr ⟨?_, ih⟩
      have hsubset : accessorKeywords ⊆ keywords := by decide
      exact hsubset (List.contains_iff_mem.mp haccessor)
  | case3 => exact List.nil_subset _
  | case4 => exact List.nil_subset _

theorem subset_ofGetter (tokens : List Token) : ofGetter tokens ⊆ keywords := by
  fun_induction ofGetter tokens with
  | case1 => exact List.nil_subset _
  | case2 text rest hget => exact subset_leading rest
  | case3 text rest hget ih => exact ih
  | case4 head rest hword ih => exact ih

/-- Effects are written as keywords with blanks between them. -/
def AreWritten (effects : String) : Prop :=
  ∃ found, (∀ word ∈ found, word ∈ keywords) ∧ effects = spaced found

theorem areWritten_afterSignature (source : String) (start stop : Nat) :
    AreWritten (afterSignature source start stop) := by
  unfold afterSignature
  split
  · exact ⟨_, fun word hword => List.contains_iff_mem.mp (List.mem_filter.mp hword).2, rfl⟩
  · exact ⟨[], by simp, rfl⟩

theorem areWritten_onAccessor (source : String) (start stop : Nat) :
    AreWritten (onAccessor source start stop) := by
  unfold onAccessor
  split
  · exact ⟨_, fun word hword => subset_ofGetter _ hword, rfl⟩
  · exact ⟨[], by simp, rfl⟩

end Effects

/-- A method that a declaration describes has plain parameters and generic ones. -/
theorem Method.isGeneric_of_build (context : SourceContext) (declaration : Declaration)
    (declared : DeclaredName) :
    (∀ param ∈ (Method.build context declaration declared).params, param.isGeneric = false) ∧
      ∀ generic ∈ (Method.build context declaration declared).generics,
        generic.isGeneric = true := by
  constructor
  · intro param hparam
    obtain ⟨⟨label, below⟩, hpair, rfl⟩ := List.mem_map.mp hparam
    have hkind : below.kind = .parameter := by
      simpa [Declaration.isParameter] using (List.mem_filter.mp (List.of_mem_zip hpair).2).2
    simp [Param.ofDeclaration, Declaration.isGenericParameter, hkind, Param.value]
  · intro generic hgeneric
    obtain ⟨below, hmem, rfl⟩ := List.mem_map.mp hgeneric
    have hkind : below.isGenericParameter = true := (List.mem_filter.mp hmem).2
    simp [Param.ofDeclaration, hkind, Param.generic]

/-- What holds of a method that a declaration describes: the components and the handler are those
that the signature gives under some policy, the generic parameters are known as such, and the
effects are keywords. -/
structure Method.IsBuilt (method : Method) : Prop where
  components : ∃ policy : SignaturePolicy, method.components =
    policy.components method.name method.params method.generics method.returnType
  handler : method.handler =
    if method.kind = .initializer then none
    else some (Handler.ofParams method.generics method.params method.returnType method.effects
      method.isStatic)
  generics : ∀ generic ∈ method.generics, generic.isGeneric = true
  effects : Effects.AreWritten method.effects

theorem Method.isBuilt_build (context : SourceContext) (declaration : Declaration)
    (declared : DeclaredName) : (build context declaration declared).IsBuilt where
  components := ⟨context.policy, rfl⟩
  handler := rfl
  generics := (isGeneric_of_build context declaration declared).2
  effects := by
    simp only [build, effectsOf]
    split
    · exact Effects.areWritten_onAccessor _ _ _
    · exact Effects.areWritten_afterSignature _ _ _

def TypeName.words (type : TypeName) : List (List Char) :=
  fields (fun c => !isAlphanumeric c) type.text.toList

/-- The words that the components of a signature hold with capital forms in front. -/
def signatureWords (params generics : List Param) (returnType : TypeName) : List (List Char) :=
  params.map SignaturePolicy.labelText ++ generics.map (fun generic => generic.name.toList) ++
    ((generics ++ params).map Param.type ++ [returnType]).flatMap TypeName.words

theorem TypeName.isPlain_of_mem_words {type : TypeName} {word : List Char}
    (h : word ∈ type.words) : isPlain word = true := by
  refine isPlain_iff.mpr fun c hc => ?_
  have hletter := separates_of_mem_splitWhere (List.mem_filter.mp h).1 hc
  rw [Bool.not_eq_false'] at hletter
  simp [isIdentifierChar, hletter]

theorem SignaturePolicy.exists_word_of_mem_components {policy : SignaturePolicy} {name : String}
    {params generics : List Param} {returnType : TypeName} {component : String}
    (h : component ∈ policy.components name params generics returnType) {c : Char}
    (hc : c ∈ component.toList) :
    ∃ word ∈ signatureWords params generics returnType, c ∈ capitalize word := by
  simp only [components, List.mem_map, List.mem_filter, List.mem_append, List.mem_filterMap,
    List.mem_singleton, or_assoc] at h
  obtain ⟨letters, ⟨hletters, -⟩, rfl⟩ := h
  rw [String.toList_ofList] at hc
  have hshown {type : TypeName} (hmem : type ∈ (generics ++ params).map Param.type ++ [returnType])
      (hmemShown : c ∈ type.displayName) :
      ∃ word ∈ signatureWords params generics returnType, c ∈ capitalize word := by
    obtain ⟨word, hword, hcapital⟩ := List.mem_flatMap.mp hmemShown
    exact ⟨word, List.mem_append_right _ (List.mem_flatMap.mpr ⟨type, hmem, hword⟩), hcapital⟩
  have htype {param : Param} (hparam : param ∈ generics ++ params) :
      param.type ∈ (generics ++ params).map Param.type ++ [returnType] :=
    List.mem_append_left _ (List.mem_map_of_mem hparam)
  rcases hletters with
    ⟨param, hparam, hlabel⟩ | ⟨generic, hgeneric, rfl⟩ | ⟨param, hparam, rfl⟩ | rfl
  · refine ⟨labelText param, ?_, ?_⟩
    · simp only [signatureWords, List.mem_append, List.mem_map]
      exact .inl (.inl ⟨param, hparam, rfl⟩)
    · simp only [labelComponent?, Option.ite_none_left_eq_some, Option.some.injEq] at hlabel
      rwa [hlabel.2.2]
  · rcases List.mem_append.mp hc with hname | hconstraint
    · refine ⟨generic.name.toList, ?_, hname⟩
      simp only [signatureWords, List.mem_append, List.mem_map]
      exact .inl (.inr ⟨generic, hgeneric, rfl⟩)
    · exact hshown (htype (List.mem_append_left _ hgeneric)) hconstraint
  · exact hshown (htype (List.mem_append_right _ hparam)) (List.mem_of_mem_take hc)
  · exact hshown (List.mem_append_right _ List.mem_cons_self) (List.mem_of_mem_take hc)

namespace Method

/-- The words of the signature. -/
def wordsInComponents (method : Method) : List (List Char) :=
  signatureWords method.params method.generics method.returnType

variable {method : Method} {level : Nat}

theorem IsBuilt.isPlain_of_mem_components (h : method.IsBuilt)
    (hplain : ∀ word ∈ method.wordsInComponents, isPlain word = true)
    (hcapital : ∀ word ∈ method.wordsInComponents, capitalizesPlainly word = true) :
    ∀ component ∈ method.components, isPlain component.toList = true := by
  obtain ⟨policy, hcomponents⟩ := h.components
  intro component hcomponent
  rw [hcomponents] at hcomponent
  refine isPlain_iff.mpr fun c hc => ?_
  obtain ⟨word, hword, hmem⟩ := SignaturePolicy.exists_word_of_mem_components hcomponent hc
  exact isPlain_iff.mp (isPlain_capitalize (hplain word hword) (hcapital word hword)) c hmem

theorem forall_mem_nameAt_iff {P : Char → Prop} (hdigit : ∀ c, c.isDigit = true → P c) :
    (∀ c ∈ (method.nameAt level).toList, P c) ↔
      (∀ c ∈ method.name.toList, P c) ∧
        ∀ component ∈ method.components.take level, ∀ c ∈ component.toList, P c := by
  induction level with
  | zero => simp [nameAt]
  | succ level ih =>
      rw [nameAt, String.toList_append, List.forall_mem_append, ih, and_assoc]
      refine and_congr_right fun _ => ?_
      cases hcomponent : method.components[level]? with
      | some component =>
          simp only [levelSuffix, hcomponent, List.take_add_one, Option.toList_some,
            List.forall_mem_append, List.forall_mem_singleton]
      | none =>
          have hdigits : ∀ c ∈ (method.levelSuffix level).toList, P c := by
            intro c hc
            simp only [levelSuffix, hcomponent, Nat.toString_eq_ofList_toDigits,
              String.toList_ofList] at hc
            exact hdigit c (Nat.isDigit_of_mem_toDigits (by decide) (by decide) hc)
          simp only [List.take_add_one, hcomponent, Option.toList_none, List.append_nil]
          exact and_iff_left hdigits

theorem exists_nameAt_eq_append (method : Method) (level : Nat) :
    ∃ more, method.nameAt level = method.name ++ more := by
  induction level with
  | zero => exact ⟨"", by simp [nameAt]⟩
  | succ level ih =>
      obtain ⟨more, hmore⟩ := ih
      exact ⟨more ++ method.levelSuffix level, by rw [nameAt, hmore, String.append_assoc]⟩

/-- A name is an identifier at some level exactly if the declared name is one and the components up
to this level are plain. -/
theorem isIdentifier_nameAt_iff (hname : method.name ≠ "") :
    isIdentifier (method.nameAt level).toList = true ↔
      isIdentifier method.name.toList = true ∧
        ∀ component ∈ method.components.take level, isPlain component.toList = true := by
  have hplain : (∀ c ∈ (method.nameAt level).toList, isIdentifierChar c = true) ↔ _ :=
    forall_mem_nameAt_iff fun _ => isIdentifierChar_of_isDigit
  obtain ⟨more, hmore⟩ := method.exists_nameAt_eq_append level
  have hne : method.name.toList ≠ [] := by simpa using hname
  rw [hmore, String.toList_append, List.forall_mem_append] at hplain
  rw [hmore, String.toList_append, isIdentifier_append hne]
  refine and_congr_right fun hidentifier => ?_
  have hletters := isPlain_iff.mp (isPlain_of_isIdentifier hidentifier)
  simp only [isPlain_iff]
  exact ⟨fun h => (hplain.mp ⟨hletters, h⟩).2, fun h => (hplain.mpr ⟨hletters, h⟩).2⟩

end Method

end Understudy
