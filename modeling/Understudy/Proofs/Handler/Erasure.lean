import Understudy.Handler
import Understudy.Proofs.Text.Capital
import Understudy.Proofs.Text.Runs

/-!
# Generic parameters erased from a handler

The type of the slot is put together from the types of the parameters and of the result, with marks
between them that no identifier goes across. A type in which a generic parameter occurs is `Any`
there, and any other one is rewritten without a new identifier. So no generic parameter is left in
the slot, and the result is cast back exactly if it was erased (`Handler.erases_generics`).
-/

namespace Understudy

open Text Layout

open scoped List

/-- The maximal runs of letters, numerals and underscores. -/
def identifiers (text : String) : List (List Char) :=
  fields (fun c => !isIdentifierChar c) text.toList

/-- No identifier goes on into the text, from either side. -/
def isAside (text : String) : Bool :=
  (text.toList.head?.any fun c => !isIdentifierChar c) &&
    text.toList.getLast?.any fun c => !isIdentifierChar c

variable {text mark : String} {items : List String}

theorem mem_identifiers_iff {word : List Char} :
    word ∈ identifiers text ↔ IsRun isIdentifierChar word text.toList :=
  mem_fields_iff

theorem identifiers_append (left : String) {right : String}
    (h : right.toList.head?.all (fun c => !isIdentifierChar c) = true) :
    identifiers (left ++ right) = identifiers left ++ identifiers right := by
  have hseparates : ∀ c ∈ right.toList.head?, (!isIdentifierChar c) = true := fun c hc => by
    simpa [Option.mem_def.mp hc] using h
  rw [identifiers, String.toList_append, fields_append_of_head? hseparates]
  rfl

/-- What stands on both sides of such a text has its own identifiers. -/
theorem identifiers_around (h : isAside mark = true) (left right : String) :
    identifiers (left ++ mark ++ right) =
      identifiers left ++ identifiers mark ++ identifiers right := by
  obtain ⟨hhead, hlast⟩ := Bool.and_eq_true_iff.mp h
  obtain ⟨c, rest, hchars⟩ : ∃ c rest, mark.toList = c :: rest := by
    cases hchars : mark.toList with
    | nil => simp [hchars] at hhead
    | cons c rest => exact ⟨c, rest, rfl⟩
  have hright : identifiers (mark ++ right) = identifiers mark ++ identifiers right := by
    rw [identifiers, String.toList_append, fields_append_of_getLast?]
    · rfl
    · intro c hc
      simpa [Option.mem_def.mp hc] using hlast
  have hleft : (mark ++ right).toList.head?.all (fun c => !isIdentifierChar c) = true := by
    simpa [String.toList_append, hchars] using hhead
  rw [String.append_assoc, identifiers_append left hleft, hright, List.append_assoc]

theorem identifiers_commaList (items : List String) :
    identifiers (commaList items) = items.flatMap identifiers := by
  have hmark : isAside ", " = true := by decide
  have hnone : identifiers ", " = [] := by decide
  unfold commaList
  induction items with
  | nil => rfl
  | cons item rest ih =>
      by_cases hlast : rest = []
      · simp [hlast]
      · rw [String.intercalate_cons_of_ne_nil hlast, identifiers_around hmark, hnone, ih]
        simp

namespace TypeName

variable {type : TypeName}

theorem mentions_iff {name : String} :
    type.mentions name = true ↔ name.toList ∈ identifiers type.text := by
  have hne : (name != "") = !name.toList.isEmpty := by
    rw [Bool.eq_iff_iff, bne_iff_ne, Bool.not_eq_true', List.isEmpty_eq_false_iff]
    exact not_congr String.toList_eq_nil_iff.symm
  rw [mentions, identifiers, fields, List.mem_filter, Bool.and_eq_true, List.contains_iff_mem, hne,
    and_comm]

theorem not_isIdentifierChar_of_isBlank {c : Char} (h : isBlank c = true) :
    (!isIdentifierChar c) = true := by
  rw [isIdentifierChar_eq_false_of_isBlank h]
  rfl

/-- Without the attribute, and with a variadic type as an array, no identifier is new. -/
theorem identifiers_closureParameter_subset
    (h : IsDetached isIdentifierChar "@autoclosure ".toList type.text.toList) :
    identifiers type.closureParameter ⊆ identifiers type.text := by
  have hstripped : fields (fun c => !isIdentifierChar c)
      (trim (erase "@autoclosure ".toList type.text.toList)) ⊆ identifiers type.text := by
    rw [fields_trim fun _ => not_isIdentifierChar_of_isBlank]
    exact fields_erase_subset (by decide) rfl h
  rw [closureParameter]
  split
  · next element helement =>
    have hbrackets : identifiers ("[" ++ String.ofList (trim element) ++ "]") =
        fields (fun c => !isIdentifierChar c) (trim element) := by
      have henclosed := @fields_enclosed (fun c => !isIdentifierChar c) ['['] [']']
        (List.all_eq_true.mp (by decide)) (List.all_eq_true.mp (by decide)) (trim element)
      simpa [identifiers, String.toList_append] using henclosed
    have hdots : fields (fun c => !isIdentifierChar c) (element ++ "...".toList) =
        fields (fun c => !isIdentifierChar c) element :=
      @fields_enclosed _ [] "...".toList (List.all_eq_true.mp (by decide))
        (List.all_eq_true.mp (by decide)) element
    rw [stripEnd?_eq_some_iff.mp helement, hdots] at hstripped
    rwa [hbrackets, fields_trim fun _ => not_isIdentifierChar_of_isBlank]
  · rw [identifiers, String.toList_ofList]
    exact hstripped

end TypeName

namespace Handler

variable {handler : Handler}

/-- A generic parameter occurs in the type, which is erased for it. -/
def Erases (handler : Handler) (type : TypeName) : Prop :=
  ∃ name ∈ handler.genericNames, IsRun isIdentifierChar name.toList type.text.toList

theorem isGeneric_iff {type : TypeName} : handler.isGeneric type = true ↔ handler.Erases type := by
  simp [isGeneric, Erases, TypeName.mentions_iff, mem_identifiers_iff]

theorem identifiers_slotType (handler : Handler) :
    identifiers handler.slotType =
      (handler.paramTypes.map handler.parameterText).flatMap identifiers ++
        identifiers handler.effectText ++ identifiers handler.resultText := by
  have hopening : identifiers "((" = [] := by decide
  have hclosing : identifiers ")" = [] := by decide
  have harrow : identifiers " -> (" = [] := by decide
  have hending : identifiers "))?" = [] := by decide
  have hfirst :
      identifiers ("" ++ "((" ++ commaList (handler.paramTypes.map handler.parameterText)) =
        identifiers (commaList (handler.paramTypes.map handler.parameterText)) := by
    rw [identifiers_around (by decide), hopening]
    rfl
  rw [String.empty_append] at hfirst
  rw [slotType, identifiers_append _ (by decide), identifiers_around (by decide),
    identifiers_around (by decide), hfirst, identifiers_commaList, hclosing, harrow, hending]
  simp

theorem not_mem_identifiers_parameterText {name : String} {type : TypeName}
    (hname : name ∈ handler.genericNames) (hany : name ≠ "Any")
    (hdetached : IsDetached isIdentifierChar "@autoclosure ".toList type.text.toList) :
    name.toList ∉ identifiers (handler.parameterText type) := by
  have hidentifier : identifiers "Any" = ["Any".toList] := by decide
  rw [parameterText]
  split
  · rwa [hidentifier, List.mem_singleton, String.toList_inj]
  · next hgeneric =>
    intro hmem
    refine hgeneric (isGeneric_iff.mpr ⟨name, hname, ?_⟩)
    exact mem_identifiers_iff.mp (TypeName.identifiers_closureParameter_subset hdetached hmem)

theorem not_mem_identifiers_resultText {name : String} (hname : name ∈ handler.genericNames)
    (hany : name ≠ "Any") : name.toList ∉ identifiers handler.resultText := by
  have hidentifier : identifiers "Any" = ["Any".toList] := by decide
  have hnone : identifiers "" = [] := by decide
  rw [resultText]
  split
  · rw [hnone]
    exact List.not_mem_nil
  · split
    · rwa [hidentifier, List.mem_singleton, String.toList_inj]
    · next hgeneric =>
      intro hmem
      exact hgeneric (isGeneric_iff.mpr ⟨name, hname, mem_identifiers_iff.mp hmem⟩)

theorem identifiers_effectText_subset (handler : Handler) :
    identifiers handler.effectText ⊆ ["async".toList, "throws".toList] := by
  unfold effectText
  cases handler.isAsync <;> cases handler.isThrowing <;> decide

/-- The call of the handler before its result is cast. -/
def uncastCall (handler : Handler) (slot : String) : String :=
  (if handler.returns then "return " else "") ++ (if handler.isThrowing then "try " else "") ++
    (if handler.isAsync then "await " else "") ++ slot ++ "(" ++ commaList handler.arguments ++ ")"

/-- The result is `Any` in the slot, because a generic parameter occurs in its type. -/
def ErasesResult (handler : Handler) : Prop :=
  handler.resultText = "Any" ∧ handler.Erases handler.returnType

theorem erasesResult_iff (h : handler.returnType.isVoid = false) :
    handler.ErasesResult ↔ handler.isGeneric handler.returnType = true := by
  rw [ErasesResult, ← isGeneric_iff, and_iff_right_iff_imp]
  intro hgeneric
  simp [resultText, h, hgeneric]

theorem call_eq (handler : Handler) (slot : String) :
    handler.call slot = handler.uncastCall slot ++
      if handler.returns && handler.isGeneric handler.returnType then
        " as! " ++ handler.returnType.text
      else "" :=
  rfl

/-- **Generic parameters are erased from the slot.** No generic parameter is an identifier in the
type of the slot, unless it has the name of a word that the slot needs, and the call casts its
result to the return type exactly if that was erased from the result part of the slot. The attribute
that is taken out of a parameter type must not stand at the end of an identifier. -/
theorem erases_generics (handler : Handler)
    (hdetached : ∀ type ∈ handler.paramTypes,
      IsDetached isIdentifierChar "@autoclosure ".toList type.text.toList) :
    (∀ name ∈ handler.genericNames, name ∉ ["Any", "async", "throws"] →
      ¬IsRun isIdentifierChar name.toList handler.slotType.toList) ∧
    (∃ front, handler.slotType = front ++ " -> (" ++ handler.resultText ++ "))?") ∧
    ∀ slot known level,
      ((handler.invocation slot known level)[1]? =
          some (tab (level + 1) ++ handler.uncastCall slot ++ " as! " ++ handler.returnType.text) ↔
        handler.returnType.isVoid = false ∧ handler.ErasesResult) ∧
      ((handler.invocation slot known level)[1]? =
          some (tab (level + 1) ++ handler.uncastCall slot) ↔
        ¬(handler.returnType.isVoid = false ∧ handler.ErasesResult)) := by
  refine ⟨fun name hname hreserved hrun => ?_, ⟨_, rfl⟩, fun slot known level => ?_⟩
  · obtain ⟨hany, heffects⟩ : name ≠ "Any" ∧ name ≠ "async" ∧ name ≠ "throws" := by
      simpa using hreserved
    have hmem := mem_identifiers_iff.mpr hrun
    rw [identifiers_slotType, List.mem_append, List.mem_append] at hmem
    rcases hmem with (hparam | heffect) | hresult
    · obtain ⟨text, htext, hparam⟩ := List.mem_flatMap.mp hparam
      obtain ⟨type, htype, rfl⟩ := List.mem_map.mp htext
      exact not_mem_identifiers_parameterText hname hany (hdetached type htype) hparam
    · have hword := identifiers_effectText_subset handler heffect
      simp only [List.mem_cons, List.not_mem_nil, or_false, String.toList_inj] at hword
      exact hword.elim heffects.1 heffects.2
    · exact not_mem_identifiers_resultText hname hany hresult
  · have hline : (handler.invocation slot known level)[1]? =
        some (tab (level + 1) ++ handler.call slot) := rfl
    have hcast : (handler.returns && handler.isGeneric handler.returnType) = true ↔
        handler.returnType.isVoid = false ∧ handler.ErasesResult := by
      rw [Bool.and_eq_true, returns, Bool.not_eq_true']
      exact and_congr_right fun hvoid => (erasesResult_iff hvoid).symm
    have hlonger : tab (level + 1) ++ handler.uncastCall slot ++ " as! " ++
        handler.returnType.text ≠ tab (level + 1) ++ handler.uncastCall slot := by
      simp [String.append_assoc]
    rw [hline, call_eq, ← hcast]
    split
    · next hcasts => simp [hcasts, ← String.append_assoc, hlonger]
    · next hcasts => simp [hcasts, hlonger.symm]

/-- A handler with types that are erased, rewritten and kept. -/
def decoding : Handler :=
  .ofParams [.generic "T" (.ofText "Decodable"), .generic "Auto" (.ofText "")]
    [.value "type" "type" (.ofText "T.Type"),
      .value "retry" "retry" (.ofText "(@autoclosure () -> Autoclosure)..."),
      .value "data" "data" (.ofText "Data")]
    (.ofText "Result<T, Error>") "async rethrows" false

theorem erases_generics_of_decoding :
    (∀ type ∈ decoding.paramTypes,
      IsDetached isIdentifierChar "@autoclosure ".toList type.text.toList) ∧
    decoding.slotType = "((Any, [(() -> Autoclosure)], Data) async throws -> (Any))?" ∧
    "Auto" ∈ decoding.genericNames ∧ "Auto" ∉ ["Any", "async", "throws"] ∧
    ¬IsRun isIdentifierChar "Auto".toList decoding.slotType.toList ∧
    decoding.returnType.isVoid = false ∧ decoding.ErasesResult ∧
    (decoding.invocation "decodeHandler" [] 1)[1]? =
      some "        return try await decodeHandler(type, retry(), data) as! Result<T, Error>" := by
  have hdetached : ∀ type ∈ decoding.paramTypes,
      IsDetached isIdentifierChar "@autoclosure ".toList type.text.toList := by decide
  have hauto : "Auto" ∈ decoding.genericNames ∧ "Auto" ∉ ["Any", "async", "throws"] := by decide
  have herases : decoding.returnType.isVoid = false ∧ decoding.ErasesResult := by
    have hvoid : decoding.returnType.isVoid = false := by decide
    exact ⟨hvoid, (erasesResult_iff hvoid).mpr (by decide)⟩
  obtain ⟨hnone, _, hcast⟩ := erases_generics decoding hdetached
  exact ⟨hdetached, by decide, hauto.1, hauto.2, hnone "Auto" hauto.1 hauto.2, herases.1, herases.2,
    ((hcast "decodeHandler" [] 1).1.mpr herases).trans (by decide)⟩

end Handler

end Understudy
