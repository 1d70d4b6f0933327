import Understudy.Proofs.Method.Names
import Understudy.Proofs.Mock.ClassLines
import Understudy.Proofs.Text.Erase
import Understudy.Proofs.Text.Lines
import Understudy.Proofs.TypeName.Search

/-!
# Lines of a mock class hold no line feed

A class is put together from names and fragments of declarations, and from literals. If none of
these holds a line feed, no line of the class does, and so the lines can be read back from the text.
-/

namespace Understudy

open Text Layout

theorem oneLine_of_isIdentifier {text : String} (h : isIdentifier text.toList = true) :
    OneLine text := by
  intro hmem
  have hsolid := isSolid_of_isIdentifierChar
    (isPlain_iff.mp (isPlain_of_isIdentifier h) '\n' hmem)
  exact absurd hsolid (by decide)

variable {known : KnownLiterals}

namespace TypeName

variable {type : TypeName} {literal : String}

theorem oneLine_closureParameter (h : OneLine type.text) : OneLine type.closureParameter := by
  have hstripped : trim (erase "@autoclosure ".toList type.text.toList) ⊆ type.text.toList :=
    List.Subset.trans (trim_subset _) (erase_sublist (by decide) _).subset
  simp only [closureParameter]
  split
  · next element helement =>
    have hprefix : element ⊆ trim (erase "@autoclosure ".toList type.text.toList) := by
      rw [stripEnd?_eq_some_iff.mp helement]
      exact List.subset_append_left _ _
    have hpart := oneLine_ofList_of_subset h
      (List.Subset.trans (trim_subset _) (List.Subset.trans hprefix hstripped))
    simp only [oneLine_append, hpart]
    decide
  · exact oneLine_ofList_of_subset h hstripped

theorem oneLine_scalarDefault? {text : List Char} (h : scalarDefault? text = some literal) :
    OneLine literal := by
  simp only [scalarDefault?] at h
  repeat' split at h
  all_goals cases h
  all_goals decide

theorem oneLine_tupleLiteral {values : List String} (h : ∀ value ∈ values, OneLine value) :
    OneLine (tupleLiteral values) := by
  unfold tupleLiteral
  split
  · exact h _ List.mem_cons_self
  · have hseparator : OneLine ", " := by decide
    simp only [oneLine_append, oneLine_intercalate hseparator h, and_true]
    decide

theorem oneLine_default? (hknown : ∀ entry ∈ known, OneLine entry.2)
    (h : type.default? known = some literal) : OneLine literal :=
  of_defaultOf hknown (fun _ _ hfound => oneLine_scalarDefault? hfound)
    (fun _ hvalues => oneLine_tupleLiteral hvalues) h

end TypeName

namespace Handler

/-- The fragments that a handler is rendered from are of one line each. -/
structure IsOneLine (handler : Handler) : Prop where
  arguments : ∀ argument ∈ handler.arguments, OneLine argument
  paramTypes : ∀ type ∈ handler.paramTypes, OneLine type.text
  returnType : OneLine handler.returnType.text

variable {handler : Handler} {slot : String} {level : Nat}

theorem IsOneLine.slotType (h : handler.IsOneLine) : OneLine handler.slotType := by
  have hparams : ∀ item ∈ handler.paramTypes.map handler.parameterText, OneLine item := by
    refine List.forall_mem_map.mpr fun type htype => ?_
    unfold parameterText
    split
    · decide
    · exact TypeName.oneLine_closureParameter (h.paramTypes type htype)
  have heffects : OneLine handler.effectText := by
    unfold effectText
    split <;> split <;> decide
  have hresult : OneLine handler.resultText := by
    unfold resultText
    split
    · decide
    · split
      · decide
      · exact h.returnType
  simp only [Handler.slotType, oneLine_append, oneLine_commaList hparams, heffects, hresult]
  decide

theorem IsOneLine.call (h : handler.IsOneLine) (hslot : OneLine slot) :
    OneLine (handler.call slot) := by
  have hreturn : OneLine (if handler.returns then "return " else "") := by split <;> decide
  have htry : OneLine (if handler.isThrowing then "try " else "") := by split <;> decide
  have hawait : OneLine (if handler.isAsync then "await " else "") := by split <;> decide
  have hcast : OneLine (if handler.returns && handler.isGeneric handler.returnType then
      " as! " ++ handler.returnType.text else "") := by
    split
    · simp only [oneLine_append, h.returnType]
      decide
    · decide
  simp only [Handler.call, oneLine_append, oneLine_commaList h.arguments, hslot, hreturn, htry,
    hawait, hcast]
  decide

theorem oneLine_fallback (hslot : OneLine slot)
    (hknown : ∀ entry ∈ known, OneLine entry.2) :
    ∀ line ∈ handler.fallback slot known level, OneLine line := by
  unfold Handler.fallback
  split
  · simp
  · next literal _ hliteral =>
    simp only [List.forall_mem_singleton, oneLine_append, oneLine_tab,
      TypeName.oneLine_default? hknown hliteral]
    decide
  · simp only [List.forall_mem_singleton, oneLine_append, oneLine_tab, hslot]
    decide

theorem IsOneLine.invocation (h : handler.IsOneLine) (hslot : OneLine slot)
    (hknown : ∀ entry ∈ known, OneLine entry.2) :
    ∀ line ∈ handler.invocation slot known level, OneLine line := by
  simp only [Handler.invocation, List.forall_mem_append, List.forall_mem_cons, oneLine_append,
    oneLine_tab, hslot, h.call hslot]
  exact ⟨by decide, oneLine_fallback hslot hknown⟩

theorem isOneLine_ofParams {generics params : List Param} {returnType : TypeName} {effects : String}
    {isStatic : Bool} (hnames : ∀ param ∈ params, OneLine param.name)
    (htypes : ∀ param ∈ params, OneLine param.type.text) (hreturn : OneLine returnType.text) :
    (ofParams generics params returnType effects isStatic).IsOneLine := by
  refine ⟨List.forall_mem_map.mpr fun param hparam => ?_, List.forall_mem_map.mpr htypes, hreturn⟩
  have hname := hnames param hparam
  unfold Param.forwarded
  split
  · simp only [oneLine_append, hname]
    decide
  · split
    · simp only [oneLine_append, hname]
      decide
    · exact hname

end Handler

/-! ### Members -/

/-- A method with plain names, whose attributes begin as attributes do, and with fragments of one
line each. -/
structure Method.IsPlainlySpelled (method : Method) : Prop where
  name : isIdentifier method.name.toList = true
  params : ∀ param ∈ method.params,
    isIdentifier param.label.toList = true ∧ isIdentifier param.name.toList = true
  generics : ∀ generic ∈ method.generics, isIdentifier generic.name.toList = true
  types : ∀ type ∈ (method.generics ++ method.params).map Param.type ++ [method.returnType],
    OneLine type.text
  attributes : ∀ text ∈ method.attributes, text.toList.head? = some '@' ∧ OneLine text
  accessLevel : OneLine method.accessLevel

/-- A stored property with a plain name and with fragments of one line each. -/
structure Property.IsPlainlySpelled (property : Property) : Prop where
  name : isIdentifier property.name.toList = true
  type : OneLine property.type.text
  accessLevel : OneLine property.accessLevel

def Member.IsPlainlySpelled : Member → Prop
  | .callable method => method.IsPlainlySpelled
  | .stored property => property.IsPlainlySpelled

theorem Param.oneLine_written {param : Param}
    (hlabel : param.isGeneric = true ∨ OneLine param.label) (hname : OneLine param.name)
    (htype : OneLine param.type.text) : OneLine param.written := by
  have hcolon : OneLine ": " := by decide
  have hblank : OneLine " " := by decide
  unfold Param.written
  split
  · split
    · exact hname
    · simp only [oneLine_append, hname, hcolon, htype, and_self]
  · next hgeneric =>
    split
    · simp only [oneLine_append, hname, hcolon, htype, and_self]
    · simp only [oneLine_append, hlabel.resolve_left hgeneric, hblank, hname, hcolon, htype,
        and_self]

namespace Method

variable {method : Method} {identifier : String} {level : Nat}

namespace IsPlainlySpelled

theorem oneLine_type_of_param (h : method.IsPlainlySpelled) {param : Param}
    (hparam : param ∈ method.params) : OneLine param.type.text :=
  h.types _ (List.mem_append_left _ (List.mem_map_of_mem (List.mem_append_right _ hparam)))

theorem oneLine_type_of_generic (h : method.IsPlainlySpelled) {generic : Param}
    (hgeneric : generic ∈ method.generics) : OneLine generic.type.text :=
  h.types _ (List.mem_append_left _ (List.mem_map_of_mem (List.mem_append_left _ hgeneric)))

theorem oneLine_returnType (h : method.IsPlainlySpelled) : OneLine method.returnType.text :=
  h.types _ (List.mem_append_right _ (List.mem_singleton_self _))

theorem isPlain_of_mem_wordsInComponents (h : method.IsPlainlySpelled) :
    ∀ word ∈ method.wordsInComponents, isPlain word = true := by
  simp only [Method.wordsInComponents, signatureWords, List.forall_mem_append, List.forall_mem_map]
  refine ⟨⟨fun param hparam => ?_, fun generic hgeneric => ?_⟩, fun word hword => ?_⟩
  · obtain ⟨hlabel, hname⟩ := h.params param hparam
    unfold SignaturePolicy.labelText
    split
    · exact isPlain_of_isIdentifier hname
    · exact isPlain_of_isIdentifier hlabel
  · exact isPlain_of_isIdentifier (h.generics generic hgeneric)
  · obtain ⟨type, _, hmem⟩ := List.mem_flatMap.mp hword
    exact TypeName.isPlain_of_mem_words hmem

/-- The names of a method at all levels hold neither a space nor a line feed. -/
theorem isSolid_of_mem_nameAt (h : method.IsPlainlySpelled) (hbuilt : method.IsBuilt) :
    ∀ c ∈ (method.nameAt level).toList, isSolid c = true := by
  have hdigit : ∀ c : Char, c.isDigit = true → isSolid c = true := fun c hc =>
    isSolid_of_isIdentifierChar (isIdentifierChar_of_isDigit hc)
  refine (forall_mem_nameAt_iff hdigit).mpr ⟨fun c hc => ?_, fun component hcomponent c hc => ?_⟩
  · exact isSolid_of_isIdentifierChar (isPlain_iff.mp (isPlain_of_isIdentifier h.name) c hc)
  · obtain ⟨policy, hcomponents⟩ := hbuilt.components
    have hmem := List.mem_of_mem_take hcomponent
    rw [hcomponents] at hmem
    obtain ⟨word, hword, hcapital⟩ := SignaturePolicy.exists_word_of_mem_components hmem hc
    exact isSolid_of_mem_capitalize (h.isPlain_of_mem_wordsInComponents word hword) hcapital

end IsPlainlySpelled

end Method

namespace Callable

variable {member : Callable} {identifier : String}

/-- The fragments that a callable is rendered from are of one line each. -/
structure IsOneLine (member : Callable) : Prop where
  name : OneLine member.name
  params : ∀ param ∈ member.params, OneLine param.name ∧ OneLine param.written
  generics : ∀ generic ∈ member.generics, OneLine generic.written
  returnType : OneLine member.returnType.text
  attributes : ∀ text ∈ member.attributes, OneLine text
  accessLevel : OneLine member.accessLevel
  effects : OneLine member.effects
  handler : ∀ handler ∈ member.handler, handler.IsOneLine

namespace IsOneLine

theorem genericClause (h : member.IsOneLine) : OneLine member.genericClause := by
  unfold Callable.genericClause
  split
  · decide
  · simp only [oneLine_append, oneLine_commaList (List.forall_mem_map.mpr h.generics)]
    decide

theorem paramClause (h : member.IsOneLine) : OneLine member.paramClause := by
  have hwritten := List.forall_mem_map.mpr fun param hparam => (h.params param hparam).2
  simp only [Callable.paramClause, oneLine_append, oneLine_commaList hwritten]
  decide

theorem returnClause (h : member.IsOneLine) : OneLine member.returnClause := by
  unfold Callable.returnClause
  split
  · decide
  · simp only [oneLine_append, h.returnType]
    decide

theorem modifiers (h : member.IsOneLine) : OneLine member.modifiers := by
  simp [Callable.modifiers, h.accessLevel]

theorem initializerLines (h : member.IsOneLine) :
    ∀ line ∈ member.initializerLines, OneLine line := by
  simp only [Callable.initializerLines, List.forall_mem_append, List.forall_mem_cons,
    List.forall_mem_map, oneLine_append, oneLine_tab, oneLine_keyword, oneLine_spaced,
    h.accessLevel, h.genericClause, h.paramClause, h.effects]
  refine ⟨⟨by decide, fun param hparam => ?_⟩, by decide⟩
  simp only [(h.params param hparam).1]
  decide

theorem openingLine (h : member.IsOneLine) : OneLine member.openingLine := by
  have hclauses := And.intro h.genericClause (And.intro h.paramClause h.returnClause)
  simp only [Callable.openingLine, oneLine_append, oneLine_tab, h.modifiers]
  split <;>
    simp only [oneLine_append, oneLine_spaced, hclauses, h.name, h.returnType, h.effects] <;> decide

theorem recordingLines (h : member.IsOneLine) (hidentifier : OneLine identifier)
    (hknown : ∀ entry ∈ known, OneLine entry.2) (level : Nat) :
    ∀ line ∈ member.recordingLines identifier known level, OneLine line := by
  have hslot : OneLine (slotName identifier) := by
    simp only [slotName, oneLine_append, hidentifier]
    decide
  simp only [Callable.recordingLines, counterName, List.forall_mem_cons, oneLine_append,
    oneLine_tab, hidentifier]
  refine ⟨by decide, ?_⟩
  cases hhandler : member.handler with
  | none => simp
  | some handler => exact (h.handler handler hhandler).invocation hslot hknown

theorem mockLines (h : member.IsOneLine) (hidentifier : OneLine identifier)
    (hknown : ∀ entry ∈ known, OneLine entry.2) :
    ∀ line ∈ member.mockLines identifier known, OneLine line := by
  have hslotType : OneLine member.slotType := by
    unfold slotType
    cases hhandler : member.handler with
    | none => decide
    | some handler => exact (h.handler handler hhandler).slotType
  have hbody : ∀ line ∈ member.bodyLines identifier known, OneLine line := by
    have hrecording := h.recordingLines hidentifier hknown
    unfold bodyLines
    split <;> simp only [List.forall_mem_append, List.forall_mem_singleton, oneLine_append,
      oneLine_tab, oneLine_spaced, h.effects]
    · exact ⟨⟨⟨by decide, hrecording 3⟩, by decide⟩, by decide⟩
    · exact ⟨⟨by decide, hrecording 3⟩, by decide⟩
    · exact hrecording 2
  simp only [Callable.mockLines, recorderLines, counterName, slotName, List.forall_mem_append,
    List.forall_mem_cons, List.forall_mem_map, oneLine_append, oneLine_tab, h.modifiers,
    hidentifier, hslotType, h.openingLine]
  refine ⟨⟨⟨⟨by decide, ?_⟩, by decide⟩, hbody⟩, by decide⟩
  exact fun text htext => ⟨trivial, h.attributes text htext⟩

theorem lines (h : member.IsOneLine) (hidentifier : OneLine identifier)
    (hknown : ∀ entry ∈ known, OneLine entry.2) :
    ∀ line ∈ member.lines identifier known, OneLine line := by
  unfold Callable.lines
  split
  · exact h.initializerLines
  · exact h.mockLines hidentifier hknown

end IsOneLine

end Callable

theorem Effects.AreWritten.oneLine {effects : String} (h : AreWritten effects) :
    OneLine effects := by
  obtain ⟨found, hfound, rfl⟩ := h
  have hblank : OneLine " " := by decide
  have hkeywords : ∀ word ∈ keywords, OneLine (String.ofList word) := by decide
  exact oneLine_intercalate hblank
    (List.forall_mem_map.mpr fun word hword => hkeywords word (hfound word hword))

theorem Method.IsPlainlySpelled.isOneLine {method : Method} (h : method.IsPlainlySpelled)
    (hbuilt : method.IsBuilt) : method.toCallable.IsOneLine where
  name := oneLine_of_isIdentifier h.name
  params param hparam := by
    obtain ⟨hlabel, hname⟩ := h.params param hparam
    have honeLine := oneLine_of_isIdentifier hname
    exact ⟨honeLine, Param.oneLine_written (.inr (oneLine_of_isIdentifier hlabel)) honeLine
      (h.oneLine_type_of_param hparam)⟩
  generics generic hgeneric :=
    Param.oneLine_written (.inl (hbuilt.generics generic hgeneric))
      (oneLine_of_isIdentifier (h.generics generic hgeneric))
      (h.oneLine_type_of_generic hgeneric)
  returnType := h.oneLine_returnType
  attributes text htext := (h.attributes text htext).2
  accessLevel := h.accessLevel
  effects := hbuilt.effects.oneLine
  handler handler hhandler := by
    rw [Option.mem_def, hbuilt.handler, Option.ite_none_left_eq_some, Option.some.injEq] at hhandler
    obtain ⟨_, rfl⟩ := hhandler
    exact Handler.isOneLine_ofParams
      (fun param hparam => oneLine_of_isIdentifier (h.params param hparam).2)
      (fun param hparam => h.oneLine_type_of_param hparam) h.oneLine_returnType

namespace Property

variable {property : Property}

theorem IsPlainlySpelled.lines (h : property.IsPlainlySpelled)
    (hknown : ∀ entry ∈ known, OneLine entry.2) : ∀ line ∈ property.lines known, OneLine line := by
  have hname := oneLine_of_isIdentifier h.name
  have hmodifiers : OneLine property.modifiers := by simp [modifiers, h.accessLevel]
  have hincrement : OneLine (increment property.name property.isStatic) := by
    unfold increment counterName
    split <;> simp only [oneLine_append, hname] <;> decide
  have hcounter : OneLine property.counterLine := by
    simp only [counterLine, counterName, oneLine_append, oneLine_tab, hmodifiers, hname]
    decide
  have hbacking : OneLine (backingType property.type) := by
    unfold backingType
    split <;> simp only [oneLine_append, h.type] <;> decide
  have hbacked : ∀ line ∈ backedLines property.name property.type property.isStatic
      property.modifiers, OneLine line := by
    simp only [backedLines, backingName, List.forall_mem_cons, oneLine_append, oneLine_tab,
      oneLine_keyword, oneLine_staticWord, hname, hmodifiers, h.type, hbacking, hincrement]
    decide
  unfold Property.lines
  refine List.forall_mem_cons.mpr ⟨hcounter, ?_⟩
  split
  · exact hbacked
  · exact hbacked
  · next literal _ hliteral =>
    simp only [initializedLine, List.forall_mem_singleton, oneLine_append, oneLine_tab, hmodifiers,
      hname, h.type, TypeName.oneLine_default? hknown hliteral, hincrement]
    decide

end Property

end Understudy
