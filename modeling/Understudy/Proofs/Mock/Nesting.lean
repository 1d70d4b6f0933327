import Understudy.Proofs.Mock.CacheUse
import Understudy.Proofs.Mock.LeastLevel
import Understudy.Proofs.Text.Brackets
import Understudy.Proofs.TypeName.Search

/-!
# Mock classes are well nested

A class is put together from names and fragments of declarations, from literals and from texts that
are taken from files. If the brackets in all of these are balanced, then so are those in the class,
and the bracket that opens the class is closed by its last character.
-/

namespace Understudy

open Text Layout

variable {known : KnownLiterals}

namespace TypeName

variable {type : TypeName} {literal : String}

theorem balanced_closureParameter (h : Balanced type.text) : Balanced type.closureParameter := by
  have hword : "@autoclosure ".toList ≠ [] ∧
      "@autoclosure ".toList.filter isBracket = [] := by decide
  have hstripped : (trim (erase "@autoclosure ".toList type.text.toList)).filter isBracket =
      type.text.toList.filter isBracket := by
    rw [filter_isBracket_trim, filter_isBracket_erase hword.1 hword.2]
  simp only [closureParameter]
  split
  · next element helement =>
    have hdots : "...".toList.filter isBracket = [] := by decide
    have helementBrackets : (trim element).filter isBracket =
        type.text.toList.filter isBracket := by
      rw [filter_isBracket_trim, ← hstripped, stripEnd?_eq_some_iff.mp helement,
        List.filter_append, hdots, List.append_nil]
    have hpart := balanced_of_filter_eq h helementBrackets
    rw [Balanced]
    simp only [openAfter_append, openAfter_of_balanced, hpart, Option.bind_fun_some]
    decide
  · exact balanced_of_filter_eq h hstripped

theorem balanced_scalarDefault? {text : List Char} (h : scalarDefault? text = some literal) :
    Balanced literal := by
  simp only [scalarDefault?] at h
  repeat' split at h
  all_goals cases h
  all_goals decide

theorem balanced_tupleLiteral {values : List String} (h : ∀ value ∈ values, Balanced value) :
    Balanced (tupleLiteral values) := by
  unfold tupleLiteral
  split
  · exact h _ List.mem_cons_self
  · have hvalues : Balanced (", ".intercalate values) := balanced_commaList h
    rw [Balanced]
    simp only [openAfter_append, openAfter_of_balanced, hvalues, Option.bind_fun_some]
    decide

theorem balanced_default? (hknown : ∀ entry ∈ known, Balanced entry.2)
    (h : type.default? known = some literal) : Balanced literal :=
  of_defaultOf hknown (fun _ _ hfound => balanced_scalarDefault? hfound)
    (fun _ hvalues => balanced_tupleLiteral hvalues) h

end TypeName

namespace Handler

/-- The brackets in the fragments that a handler is rendered from are balanced. -/
structure IsBalanced (handler : Handler) : Prop where
  arguments : ∀ argument ∈ handler.arguments, Balanced argument
  paramTypes : ∀ type ∈ handler.paramTypes, Balanced type.text
  returnType : Balanced handler.returnType.text

variable {handler : Handler} {slot : String} {level : Nat}

theorem IsBalanced.slotType (h : handler.IsBalanced) : Balanced handler.slotType := by
  have hparams : Balanced (commaList (handler.paramTypes.map handler.parameterText)) := by
    refine balanced_commaList (List.forall_mem_map.mpr fun type htype => ?_)
    unfold parameterText
    split
    · decide
    · exact TypeName.balanced_closureParameter (h.paramTypes type htype)
  have heffects : Balanced handler.effectText := by
    unfold effectText
    split <;> split <;> decide
  have hresult : Balanced handler.resultText := by
    unfold resultText
    split
    · decide
    · split
      · decide
      · exact h.returnType
  -- the parts are passed over, and the parentheses around them are left
  rw [Balanced, Handler.slotType]
  simp only [openAfter_append, openAfter_of_balanced, hparams, heffects, hresult,
    Option.bind_fun_some]
  decide

theorem IsBalanced.call (h : handler.IsBalanced) (hslot : Balanced slot) :
    Balanced (handler.call slot) := by
  have hreturn : Balanced (if handler.returns then "return " else "") := by split <;> decide
  have htry : Balanced (if handler.isThrowing then "try " else "") := by split <;> decide
  have hawait : Balanced (if handler.isAsync then "await " else "") := by split <;> decide
  have hcast : Balanced (if handler.returns && handler.isGeneric handler.returnType then
      " as! " ++ handler.returnType.text else "") := by
    have hword : Balanced " as! " := by decide
    split
    · exact hword.append h.returnType
    · decide
  have harguments := balanced_commaList h.arguments
  rw [Balanced, Handler.call]
  simp only [openAfter_append, openAfter_of_balanced, hreturn, htry, hawait, hslot, harguments,
    hcast, Option.bind_fun_some, Option.bind_some]
  decide

theorem balanced_fallback (hslot : Balanced slot) (hknown : ∀ entry ∈ known, Balanced entry.2) :
    BalancedLines (handler.fallback slot known level) := by
  unfold Handler.fallback
  split
  · decide
  · next literal _ hliteral =>
    have hword : Balanced "return " := by decide
    exact (((balanced_tab level).append hword).append
      (TypeName.balanced_default? hknown hliteral)).line
  · apply Balanced.line
    rw [Balanced]
    simp only [openAfter_append, openAfter_of_balanced, balanced_tab, hslot, Option.bind_fun_some,
      Option.bind_some]
    decide

theorem IsBalanced.invocation (h : handler.IsBalanced) (hslot : Balanced slot)
    (hknown : ∀ entry ∈ known, Balanced entry.2) :
    BalancedLines (handler.invocation slot known level) := by
  have hcondition : Balanced (tab level ++ "if let " ++ slot ++ " = " ++ slot) := by
    rw [Balanced]
    simp only [openAfter_append, openAfter_of_balanced, balanced_tab, hslot, Option.bind_fun_some,
      Option.bind_some]
    decide
  have hcalls := ((balanced_tab (level + 1)).append (h.call hslot)).line
  exact (hcalls.block hcondition.opens (closes_tab level)).append
    (balanced_fallback hslot hknown)

theorem isBalanced_ofParams {generics params : List Param} {returnType : TypeName}
    {effects : String} {isStatic : Bool} (hnames : ∀ param ∈ params, Balanced param.name)
    (htypes : ∀ param ∈ params, Balanced param.type.text) (hreturn : Balanced returnType.text) :
    (ofParams generics params returnType effects isStatic).IsBalanced := by
  refine ⟨List.forall_mem_map.mpr fun param hparam => ?_, List.forall_mem_map.mpr htypes, hreturn⟩
  have hname := hnames param hparam
  have hreference : Balanced "&" := by decide
  have hcall : Balanced "()" := by decide
  unfold Param.forwarded
  split
  · exact hreference.append hname
  · split
    · exact hname.append hcall
    · exact hname

end Handler

/-! ### Members -/

/-- The brackets in the names and the type of a parameter are balanced. -/
structure Param.IsBalanced (param : Param) : Prop where
  name : Balanced param.name
  label : Balanced param.label
  type : Balanced param.type.text

theorem Param.IsBalanced.written {param : Param} (h : param.IsBalanced) :
    Balanced param.written := by
  have hcolon : Balanced ": " := by decide
  have hblank : Balanced " " := by decide
  have htyped : Balanced (param.name ++ ": " ++ param.type.text) :=
    (h.name.append hcolon).append h.type
  have hlabelled : Balanced (param.label ++ " " ++ param.name ++ ": " ++ param.type.text) :=
    (((h.label.append hblank).append h.name).append hcolon).append h.type
  unfold Param.written
  split
  · split
    · exact h.name
    · exact htyped
  · split
    · exact htyped
    · exact hlabelled

namespace Callable

variable {member : Callable} {identifier : String}

/-- The brackets in the fragments that a callable is rendered from are balanced. -/
structure IsBalanced (member : Callable) : Prop where
  name : Balanced member.name
  generics : ∀ generic ∈ member.generics, generic.IsBalanced
  params : ∀ param ∈ member.params, param.IsBalanced
  returnType : Balanced member.returnType.text
  accessLevel : Balanced member.accessLevel
  effects : Balanced member.effects
  attributes : ∀ text ∈ member.attributes, Balanced text
  handler : ∀ handler ∈ member.handler, handler.IsBalanced

namespace IsBalanced

theorem genericClause (h : member.IsBalanced) : Balanced member.genericClause := by
  have hwritten := balanced_commaList
    (List.forall_mem_map.mpr fun generic hgeneric => (h.generics generic hgeneric).written)
  have hopen : Balanced "<" := by decide
  have hclose : Balanced ">" := by decide
  unfold Callable.genericClause
  split
  · decide
  · exact (hopen.append hwritten).append hclose

theorem paramClause (h : member.IsBalanced) : Balanced member.paramClause := by
  have hwritten := balanced_commaList
    (List.forall_mem_map.mpr fun param hparam => (h.params param hparam).written)
  rw [Balanced, Callable.paramClause]
  simp only [openAfter_append, openAfter_of_balanced, hwritten, Option.bind_fun_some]
  decide

theorem returnClause (h : member.IsBalanced) : Balanced member.returnClause := by
  have harrow : Balanced " -> " := by decide
  unfold Callable.returnClause
  split
  · decide
  · exact harrow.append h.returnType

theorem modifiers (h : member.IsBalanced) : Balanced member.modifiers :=
  (balanced_keyword h.accessLevel).append (balanced_keyword (balanced_staticWord _))

theorem initializerLines (h : member.IsBalanced) : BalancedLines member.initializerLines := by
  have hfirst : Balanced (tab 1 ++ keyword member.accessLevel ++ "required init" ++
      member.genericClause ++ member.paramClause ++ spaced member.effects) := by
    rw [Balanced]
    simp only [openAfter_append, openAfter_of_balanced, balanced_tab, balanced_keyword,
      balanced_spaced, h.accessLevel, h.genericClause, h.paramClause, h.effects,
      Option.bind_fun_some, Option.bind_some]
    decide
  have hassigned : ∀ param ∈ member.params,
      Balanced (tab 2 ++ "self." ++ param.name ++ " = " ++ param.name) := by
    intro param hparam
    have hname := (h.params param hparam).name
    rw [Balanced]
    simp only [openAfter_append, openAfter_of_balanced, balanced_tab, hname, Option.bind_fun_some,
      Option.bind_some]
    decide
  have hdone : Balanced (tab 2 ++ "_doneInit = true") := by decide
  have hbody : BalancedLines (member.params.map (fun param =>
      tab 2 ++ "self." ++ param.name ++ " = " ++ param.name) ++ [tab 2 ++ "_doneInit = true"]) :=
    (balancedLines_of_forall (List.forall_mem_map.mpr hassigned)).append hdone.line
  have hblock := hbody.block hfirst.opens (closes_tab 1)
  simpa only [Callable.initializerLines, List.append_assoc, List.cons_append, List.nil_append]
    using hblock

/-- Whatever the kind of the member, its first line opens the bracket that its last one closes. -/
theorem openingLine (h : member.IsBalanced) : Opens member.openingLine := by
  have hclauses := And.intro h.genericClause (And.intro h.paramClause h.returnClause)
  unfold Callable.openingLine
  apply Balanced.opens
  apply ((balanced_tab 1).append h.modifiers).append
  split <;> rw [Balanced] <;>
    simp only [openAfter_append, openAfter_of_balanced, balanced_spaced, hclauses, h.name,
      h.returnType, h.effects, Option.bind_fun_some] <;> decide

theorem recordingLines (h : member.IsBalanced) (hidentifier : Balanced identifier)
    (hknown : ∀ entry ∈ known, Balanced entry.2) (level : Nat) :
    BalancedLines (member.recordingLines identifier known level) := by
  have hsuffix : Balanced "CallCount" ∧ Balanced " += 1" ∧ Balanced "Handler" := by decide
  obtain ⟨hcount, hadd, hhandler⟩ := hsuffix
  have hcounted : Balanced (tab level ++ counterName identifier ++ " += 1") :=
    ((balanced_tab level).append (hidentifier.append hcount)).append hadd
  apply hcounted.line.append
  split
  · next handler heq =>
    exact (h.handler handler heq).invocation (hidentifier.append hhandler) hknown
  · decide

theorem recorderLines (h : member.IsBalanced) (hidentifier : Balanced identifier) :
    BalancedLines (member.recorderLines identifier) := by
  have hslotType : Balanced member.slotType := by
    unfold slotType
    split
    · next handler heq => exact (h.handler handler heq).slotType
    · decide
  have hcounter : Balanced (tab 1 ++ member.modifiers ++ "var " ++ counterName identifier ++
      " = 0") := by
    rw [Balanced, counterName]
    simp only [openAfter_append, openAfter_of_balanced, balanced_tab, h.modifiers, hidentifier,
      Option.bind_fun_some, Option.bind_some]
    decide
  have hslot : Balanced (tab 1 ++ member.modifiers ++ "var " ++ slotName identifier ++ ": " ++
      member.slotType) := by
    rw [Balanced, slotName]
    simp only [openAfter_append, openAfter_of_balanced, balanced_tab, h.modifiers, hidentifier,
      hslotType, Option.bind_fun_some, Option.bind_some]
    decide
  exact hcounter.line.append hslot.line

theorem bodyLines (h : member.IsBalanced) (hidentifier : Balanced identifier)
    (hknown : ∀ entry ∈ known, Balanced entry.2) :
    BalancedLines (member.bodyLines identifier known) := by
  have hget : Balanced "get" := by decide
  have hgetter := (h.recordingLines hidentifier hknown 3).block
    (((balanced_tab 2).append hget).append (balanced_spaced h.effects)).opens (closes_tab 2)
  have hsetter : Balanced (tab 2 ++ "set \x7b \x7d") := by decide
  unfold Callable.bodyLines
  split
  · exact hgetter.append hsetter.line
  · exact hgetter
  · exact h.recordingLines hidentifier hknown 2

theorem mockLines (h : member.IsBalanced) (hidentifier : Balanced identifier)
    (hknown : ∀ entry ∈ known, Balanced entry.2) :
    BalancedLines (member.mockLines identifier known) := by
  have hattributes : BalancedLines (member.attributes.map (tab 1 ++ ·)) :=
    balancedLines_of_forall (List.forall_mem_map.mpr fun text htext =>
      (balanced_tab 1).append (h.attributes text htext))
  have hdeclared := (h.bodyLines hidentifier hknown).block h.openingLine (closes_tab 1)
  have hlines := ((h.recorderLines hidentifier).append hattributes).append hdeclared
  simpa only [Callable.mockLines, List.append_assoc] using hlines

theorem lines (h : member.IsBalanced) (hidentifier : Balanced identifier)
    (hknown : ∀ entry ∈ known, Balanced entry.2) :
    BalancedLines (member.lines identifier known) := by
  unfold Callable.lines
  split
  · exact h.initializerLines
  · exact h.mockLines hidentifier hknown

end IsBalanced

end Callable

namespace Property

/-- The brackets in the fragments that a stored property is rendered from are balanced. -/
structure IsBalanced (property : Property) : Prop where
  name : Balanced property.name
  type : Balanced property.type.text
  accessLevel : Balanced property.accessLevel

variable {property : Property}

theorem IsBalanced.increment (h : property.IsBalanced) :
    Balanced (increment property.name property.isStatic) := by
  have hname := h.name
  unfold Property.increment counterName
  split <;> rw [Balanced] <;>
    simp only [openAfter_append, openAfter_of_balanced, hname, Option.bind_some] <;> decide

theorem IsBalanced.backingType (h : property.IsBalanced) :
    Balanced (backingType property.type) := by
  have htype := h.type
  unfold Property.backingType
  split <;> rw [Balanced] <;>
    simp only [openAfter_append, openAfter_of_balanced, htype, Option.bind_fun_some,
      Option.bind_some] <;> decide

theorem IsBalanced.modifiers (h : property.IsBalanced) : Balanced property.modifiers :=
  (balanced_keyword h.accessLevel).append (balanced_keyword (balanced_staticWord _))

/-- The slot is declared on a line of its own, and the getter and the setter stand in a block. -/
theorem IsBalanced.backedLines (h : property.IsBalanced) :
    BalancedLines (backedLines property.name property.type property.isStatic
      property.modifiers) := by
  have hname := h.name
  have hmodifiers := h.modifiers
  have hslot : Balanced (tab 1 ++ "private " ++ keyword (staticWord property.isStatic) ++ "var " ++
      backingName property.name ++ ": " ++ Property.backingType property.type) := by
    rw [Balanced, backingName]
    simp only [openAfter_append, openAfter_of_balanced, balanced_tab, balanced_keyword,
      balanced_staticWord, hname, h.backingType, Option.bind_fun_some, Option.bind_some]
    decide
  have hdeclared : Balanced (tab 1 ++ property.modifiers ++ "var " ++ property.name ++ ": " ++
      property.type.text) := by
    rw [Balanced]
    simp only [openAfter_append, openAfter_of_balanced, balanced_tab, hmodifiers, hname, h.type,
      Option.bind_fun_some, Option.bind_some]
    decide
  have hgetter :
      Balanced (tab 2 ++ "get \x7b return " ++ backingName property.name ++ " \x7d") := by
    rw [Balanced, backingName]
    simp only [openAfter_append, openAfter_of_balanced, balanced_tab, hname, Option.bind_fun_some,
      Option.bind_some]
    decide
  have hassigned : Balanced (tab 3 ++ backingName property.name ++ " = newValue") := by
    rw [Balanced, backingName]
    simp only [openAfter_append, openAfter_of_balanced, balanced_tab, hname, Option.bind_fun_some,
      Option.bind_some]
    decide
  have hassignments := hassigned.line.append ((balanced_tab 3).append h.increment).line
  have hset : Opens (tab 2 ++ "set \x7b") := by decide
  have haccessors := hgetter.line.append (hassignments.block hset (closes_tab 2))
  have hlines := hslot.line.append (haccessors.block hdeclared.opens (closes_tab 1))
  simpa only [Property.backedLines, List.cons_append, List.nil_append] using hlines

theorem IsBalanced.lines (h : property.IsBalanced) (hknown : ∀ entry ∈ known, Balanced entry.2) :
    BalancedLines (property.lines known) := by
  have hname := h.name
  have hmodifiers := h.modifiers
  have hcounter : Balanced property.counterLine := by
    rw [Balanced, counterLine, counterName]
    simp only [openAfter_append, openAfter_of_balanced, balanced_tab, hmodifiers, hname,
      Option.bind_fun_some, Option.bind_some]
    decide
  unfold Property.lines
  apply hcounter.line.append
  split
  · exact h.backedLines
  · exact h.backedLines
  · next literal _ hliteral =>
    have hvalue := TypeName.balanced_default? hknown hliteral
    apply Balanced.line
    rw [Balanced, initializedLine]
    simp only [openAfter_append, openAfter_of_balanced, balanced_tab, hmodifiers, hname, h.type,
      hvalue, h.increment, Option.bind_fun_some, Option.bind_some]
    decide

end Property

/-- The brackets in all that a member is rendered from are balanced, also in what its names are
extended by. -/
def Member.IsBalanced : Member → Prop
  | .callable method =>
      method.toCallable.IsBalanced ∧ ∀ component ∈ method.components, Balanced component
  | .stored property => property.IsBalanced

theorem Method.balanced_nameAt {method : Method} (hname : Balanced method.name)
    (hcomponents : ∀ component ∈ method.components, Balanced component) (level : Nat) :
    Balanced (method.nameAt level) := by
  have hdigits (number : Nat) : Balanced (toString number) := by
    apply balanced_of_filter_eq_nil
    apply List.filter_eq_nil_iff.mpr
    intro c hc
    rw [Nat.toString_eq_ofList_toDigits, String.toList_ofList] at hc
    have hdigit : c.isDigit = true := Nat.isDigit_of_mem_toDigits (by decide) (by decide) hc
    simp [isBracket_of_isDigit hdigit]
  induction level with
  | zero => exact hname
  | succ level ih =>
      refine ih.append ?_
      unfold levelSuffix
      split
      · next component hcomponent => exact hcomponents _ (List.mem_of_getElem? hcomponent)
      · exact hdigits _

theorem Identifier.balanced_identifierOf {member : Member} (h : member.IsBalanced)
    (used : List String) : Balanced (identifierOf used member) := by
  cases member with
  | stored property => exact h.name
  | callable method =>
      rw [identifierOf]
      split
      · exact h.1.name
      · obtain ⟨level, hlevel, _⟩ := exists_level_choose method used
        rw [hlevel]
        exact Method.balanced_nameAt h.1.name h.2 level

/-! ### The class -/

namespace Mock

open Identifier

variable {disk : Disk} {entity : Entity} {members : List Member} {isFinal : Bool}
  {cache : SourceCache} {text : String} {texts : List String} {member : Member}

/-- The texts that are taken from files while a class is rendered. -/
def extractedTexts (disk : Disk) : List Member → SourceCache → List String
  | [], _ => []
  | member :: rest, cache =>
      if member.isProcessed && !member.isInitializer then
        match cache.extract disk member.cacheKey with
        | (.ok text, cache) => text :: extractedTexts disk rest cache
        | (.error _, _) => []
      else extractedTexts disk rest cache

/-- The class up to the bracket that opens it. -/
def classHead (entity : Entity) (isFinal : Bool) : String :=
  keyword entity.accessLevel ++ keyword (if isFinal then "final" else "") ++ "class " ++
    entity.mockName ++ ": " ++ entity.name ++ " "

theorem balanced_memberLines (hmember : member.IsBalanced)
    (hknown : ∀ entry ∈ known, Balanced entry.2) (used : List String) :
    BalancedLines (memberLines known (member, identifierOf used member)) := by
  have hidentifier := balanced_identifierOf hmember used
  cases member with
  | callable method => exact hmember.1.lines hidentifier hknown
  | stored property => exact hmember.lines hknown

theorem memberText_of_processed_initializer (hprocessed : member.isProcessed = true)
    (hinitializer : member.isInitializer = true) (identifier : String) :
    memberText disk known identifier member cache = (.ok none, cache) := by
  cases member with
  | stored property => cases hinitializer
  | callable method =>
      have hmethod : method.isProcessed = true ∧ method.isInitializer = true :=
        ⟨hprocessed, hinitializer⟩
      rw [memberText, methodText, if_pos hmethod.1, if_pos hmethod.2]

theorem balanced_placed (h : Balanced text) : Balanced (placed member text) := by
  unfold placed
  split
  · exact (balanced_tab 1).append (balanced_of_filter_eq h (filter_isBracket_trimStart _))
  · exact h

/-- Fresh members are balanced as they are rendered, and all others as they are found. -/
theorem balanced_of_memberTexts (hknown : ∀ entry ∈ known, Balanced entry.2)
    (hfresh : ∀ member ∈ members, member.isProcessed = false → member.IsBalanced)
    (hextracted : ∀ text ∈ extractedTexts disk members cache, Balanced text) (used : List String)
    (htexts : (memberTexts disk known (members.zip (resolveFrom used members)) cache).1 =
      .ok texts) : ∀ text ∈ texts, Balanced text := by
  induction members generalizing used cache texts with
  | nil =>
      cases htexts
      simp
  | cons member rest ih =>
      obtain ⟨hmember, hrest⟩ := List.forall_mem_cons.mp hfresh
      rw [resolveFrom_cons, List.zip_cons_cons] at htexts
      obtain ⟨text?, middle, later, htext, hlater, rfl⟩ := memberTexts_cons_eq_ok htexts
      rw [extractedTexts] at hextracted
      rw [List.forall_mem_append]
      by_cases hprocessed : member.isProcessed = true
      · by_cases hinitializer : member.isInitializer = true
        · rw [memberText_of_processed_initializer hprocessed hinitializer, Prod.mk.injEq,
            Except.ok.injEq] at htext
          obtain ⟨rfl, rfl⟩ := htext
          rw [if_neg (by simp [hinitializer])] at hextracted
          exact ⟨by simp, ih hrest hextracted _ hlater⟩
        · rw [memberText_of_processed hprocessed hinitializer, Prod.mk.injEq] at htext
          obtain ⟨hresult, hcache⟩ := htext
          obtain ⟨found, hfound, rfl⟩ := exists_of_map_eq_ok hresult
          have hextract : cache.extract disk member.cacheKey = (.ok found, middle) :=
            Prod.ext hfound hcache
          rw [if_pos (by simp [hprocessed, hinitializer]), hextract] at hextracted
          obtain ⟨hfirst, hothers⟩ := List.forall_mem_cons.mp hextracted
          exact ⟨by simpa using balanced_placed hfirst, ih hrest hothers _ hlater⟩
      · have hrendered : member.isProcessed = false := Bool.eq_false_iff.mpr hprocessed
        rw [memberText_of_fresh hrendered, Prod.mk.injEq, Except.ok.injEq] at htext
        obtain ⟨rfl, rfl⟩ := htext
        rw [if_neg (by simp [hrendered])] at hextracted
        have hlines := balanced_memberLines (hmember hrendered) hknown used
        exact ⟨by simpa using balanced_placed hlines.balanced_joinLines,
          ih hrest hextracted _ hlater⟩

/-- The first line is the head and the bracket. -/
theorem exists_headLines_eq_cons (haccess : Balanced entity.accessLevel) (members : List Member)
    (isFinal : Bool) :
    ∃ rest, headLines entity members isFinal = (classHead entity isFinal ++ "\x7b") :: rest ∧
      BalancedLines rest := by
  have hinit : Balanced (tab 1 ++ keyword entity.accessLevel ++
      "init() \x7b _doneInit = true \x7d") := by
    have hbody : Balanced "init() \x7b _doneInit = true \x7d" := by decide
    exact ((balanced_tab 1).append (balanced_keyword haccess)).append hbody
  have hflag : Balanced (tab 1 ++ "private var _doneInit = false") := by
    have hbody : Balanced "private var _doneInit = false" := by decide
    exact (balanced_tab 1).append hbody
  have hfirst : classHead entity isFinal ++ "\x7b" =
      keyword entity.accessLevel ++ keyword (if isFinal then "final" else "") ++ "class " ++
        entity.mockName ++ ": " ++ entity.name ++ " \x7b" := by
    rw [classHead, String.append_assoc]
    rfl
  rw [headLines, List.cons_append, ← hfirst]
  refine ⟨_, rfl, hflag.line.append ?_⟩
  split
  · decide
  · exact hinit.line

/-- **Mock classes are well nested.** Where the brackets in the names and fragments of the fresh
members, in the known literals and in the texts that are taken from files are balanced, so are those
in the class. The bracket that opens the class stays open until the last character, which closes
it. -/
theorem balanced_classText (hname : Balanced entity.name) (haccess : Balanced entity.accessLevel)
    (hknown : ∀ entry ∈ known, Balanced entry.2)
    (hfresh : ∀ member ∈ members, member.isProcessed = false → member.IsBalanced)
    (hextracted : ∀ text ∈ extractedTexts disk members cache, Balanced text)
    (htext : (classText disk known entity members isFinal cache).1 = .ok text) :
    Balanced text ∧ ∃ inner, text = classHead entity isFinal ++ "\x7b" ++ inner ++ "\x7d" ∧
      Balanced (classHead entity isFinal) ∧
      ∀ front : String, front.toList <+: inner.toList → ∃ above,
        openAfter [] (classHead entity isFinal ++ "\x7b" ++ front) = some (above ++ ['\x7b']) := by
  have hhead : Balanced (classHead entity isFinal) := by
    have hfinal : Balanced (if isFinal then "final" else "") := by split <;> decide
    rw [Balanced, classHead, Entity.mockName]
    simp only [openAfter_append, openAfter_of_balanced, balanced_keyword, haccess, hfinal, hname,
      Option.bind_fun_some, Option.bind_some]
    decide
  obtain ⟨texts, htexts, rfl⟩ := exists_texts_of_classText htext
  have hmembers := balancedLines_of_forall
    (balanced_of_memberTexts hknown hfresh hextracted _ htexts)
  obtain ⟨rest, hrest, hlines⟩ := exists_headLines_eq_cons haccess members isFinal
  obtain ⟨inner, hinner, hbalanced⟩ :=
    exists_joinLines_eq_append (classHead entity isFinal ++ "\x7b") "\x7d" (hlines.append hmembers)
  have hopens (front : String) :
      openAfter [] (classHead entity isFinal ++ "\x7b" ++ front) = openAfter ['\x7b'] front := by
    rw [openAfter_append, openAfter_append, openAfter_of_balanced hhead]
    rfl
  have hall : headLines entity members isFinal ++ texts ++ ["\x7d"] =
      [classHead entity isFinal ++ "\x7b"] ++ (rest ++ texts) ++ ["\x7d"] := by
    rw [hrest]
    rfl
  rw [hall, hinner]
  refine ⟨?_, inner, rfl, hhead, fun front hfront => ?_⟩
  · rw [Balanced, openAfter_append, hopens, openAfter_of_balanced hbalanced]
    decide
  · rw [hopens]
    exact exists_openAfter_of_prefix hbalanced hfront ['\x7b']

def fetchGenerics : List Param :=
  [.generic "T" ⟨"Collection<Int>"⟩]

def fetchParams : List Param :=
  [.value "_" "items" ⟨"[T]"⟩, .value "then" "done" ⟨"@autoclosure () -> [String: (Int) -> Void]"⟩]

/-- `func fetch<T: …>(_ items: [T], then done: …) throws -> (Int, [String: T])` -/
def fetchMethod : Method where
  name := "fetch"
  kind := .function
  generics := fetchGenerics
  params := fetchParams
  returnType := ⟨"(Int, [String: T])"⟩
  isStatic := false
  accessLevel := "public"
  effects := "throws"
  attributes := ["@available(iOS 13, *)"]
  handler := some (.ofParams fetchGenerics fetchParams ⟨"(Int, [String: T])"⟩ "throws" false)
  declaredName := "fetch(_:then:)"
  origin := { path := ⟨"Api.swift"⟩, offset := 0, length := 0, processed := false }
  components := ["Items", "Done"]

/-- The function `reset` of a mock that was generated before. -/
def resetMember : Member :=
  .callable { fetchMethod with
    name := "reset"
    declaredName := "reset()"
    origin := { path := ⟨"ApiMock.swift"⟩, offset := 16, length := 28, processed := true } }

def nestedMembers : List Member :=
  [.callable fetchMethod, Catalog.plainProperty "loader" "(Int) -> [Loader]", resetMember]

def resetDisk : Disk := fun _ =>
  .ok (Utf8.encode "class ApiMock \x7b func reset() \x7b items = [:] \x7d \x7d".toList)

theorem isBalanced_nestedMembers :
    ∀ member ∈ nestedMembers, member.isProcessed = false → member.IsBalanced := by
  have hgenerics : ∀ generic ∈ fetchGenerics, generic.IsBalanced :=
    List.forall_mem_singleton.mpr ⟨by decide, by decide, by decide⟩
  have hparams : ∀ param ∈ fetchParams, param.IsBalanced := by
    simp only [fetchParams, List.forall_mem_cons, List.not_mem_nil, false_implies, implies_true,
      and_true]
    exact ⟨⟨by decide, by decide, by decide⟩, by decide, by decide, by decide⟩
  have hfetch : fetchMethod.toCallable.IsBalanced := by
    refine ⟨by decide, hgenerics, hparams, by decide, by decide, by decide, by decide, ?_⟩
    rintro handler ⟨rfl⟩
    exact Handler.isBalanced_ofParams (fun param hparam => (hparams param hparam).name)
      (fun param hparam => (hparams param hparam).type) (by decide)
  simp only [nestedMembers, List.forall_mem_cons, List.not_mem_nil, false_implies, implies_true,
    and_true]
  refine ⟨fun _ => ⟨hfetch, by decide⟩, fun _ => ⟨by decide, by decide, by decide⟩, ?_⟩
  intro hfresh
  cases hfresh

theorem balanced_classText_of_nestedMembers :
    extractedTexts resetDisk nestedMembers .empty = ["func reset() \x7b items = [:] \x7d"] ∧
    ∃ text, (classText resetDisk [("Loader", "Loader(cache: [:])")]
        (Catalog.plainProtocol "Api" [] nestedMembers) nestedMembers true .empty).1 = .ok text ∧
      Balanced text := by
  have hextracted : extractedTexts resetDisk nestedMembers .empty =
      ["func reset() \x7b items = [:] \x7d"] := by decide +kernel
  have hrendered : (classText resetDisk [("Loader", "Loader(cache: [:])")]
      (Catalog.plainProtocol "Api" [] nestedMembers) nestedMembers true
      .empty).1.toOption.isSome := by
    decide +kernel
  obtain ⟨text, htext⟩ := Option.isSome_iff_exists.mp hrendered
  have hok := eq_ok_of_toOption htext
  have hbalanced := balanced_classText (by decide) (by decide) (by decide) isBalanced_nestedMembers
    (by rw [hextracted]; decide) hok
  exact ⟨hextracted, text, hok, hbalanced.1⟩

end Mock

end Understudy
