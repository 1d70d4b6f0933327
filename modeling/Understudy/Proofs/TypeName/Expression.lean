import Understudy.Proofs.Text.TopLevel
import Understudy.Proofs.Text.Words
import Understudy.TypeName.Default

/-!
# Type expressions and how they are written

A type expression is a name, an optional, an array, a dictionary, a tuple or a function type. The
text of a well-spelled one has no blanks at its ends, and no comma or colon in it stands outside
brackets, so that the parts of a collection or a tuple type are found again by splitting its text.
-/

namespace Understudy

open Text

inductive TypeExpr where
  | name (text : String)
  | optional (wrapped : TypeExpr)
  | array (element : TypeExpr)
  | dictionary (key value : TypeExpr)
  /-- A tuple with labels on some of its elements. One type in parentheses is the type itself. -/
  | tuple (elements : List (Option String × TypeExpr))
  | function (params : List TypeExpr) (result : TypeExpr)

namespace TypeExpr

@[elab_as_elim, induction_eliminator]
theorem inductionOn {motive : TypeExpr → Prop} (name : ∀ text, motive (.name text))
    (optional : ∀ wrapped, motive wrapped → motive (.optional wrapped))
    (array : ∀ element, motive element → motive (.array element))
    (dictionary : ∀ key value, motive key → motive value → motive (.dictionary key value))
    (tuple : ∀ elements, (∀ element ∈ elements, motive element.2) → motive (.tuple elements))
    (function : ∀ params result, (∀ param ∈ params, motive param) → motive result →
      motive (.function params result)) (expr : TypeExpr) : motive expr :=
  match expr with
  | .name text => name text
  | .optional wrapped =>
      optional wrapped (inductionOn name optional array dictionary tuple function wrapped)
  | .array element =>
      array element (inductionOn name optional array dictionary tuple function element)
  | .dictionary key value =>
      dictionary key value (inductionOn name optional array dictionary tuple function key)
        (inductionOn name optional array dictionary tuple function value)
  | .tuple elements => tuple elements fun element hmem =>
      have : sizeOf element.2 < sizeOf elements :=
        Nat.lt_trans (by rw [Prod.mk.sizeOf_spec element.1 element.2]; omega)
          (List.sizeOf_lt_of_mem hmem)
      inductionOn name optional array dictionary tuple function element.2
  | .function params result =>
      function params result
        (fun param _ => inductionOn name optional array dictionary tuple function param)
        (inductionOn name optional array dictionary tuple function result)

def isFunction : TypeExpr → Bool
  | .function _ _ => true
  | _ => false

def labelled (label : Option String) (text : List Char) : List Char :=
  match label with
  | some label => label.toList ++ ':' :: ' ' :: text
  | none => text

mutual

/-- The type as the language writes it: an optional function type stands in parentheses. -/
def text : TypeExpr → List Char
  | .name text => text.toList
  | .optional wrapped =>
      (if wrapped.isFunction then '(' :: wrapped.text ++ [')'] else wrapped.text) ++ ['?']
  | .array element => '[' :: element.text ++ [']']
  | .dictionary key value => '[' :: (key.text ++ ':' :: ' ' :: value.text) ++ [']']
  | .tuple elements => '(' :: spacedItems (elementTexts elements) ++ [')']
  | .function params result =>
      ('(' :: spacedItems (paramTexts params) ++ [')']) ++ " -> ".toList ++ result.text

def elementTexts : List (Option String × TypeExpr) → List (List Char)
  | [] => []
  | (label, type) :: others => labelled label type.text :: elementTexts others

def paramTexts : List TypeExpr → List (List Char)
  | [] => []
  | type :: others => type.text :: paramTexts others

end

theorem elementTexts_eq_map (elements : List (Option String × TypeExpr)) :
    elementTexts elements = elements.map fun element => labelled element.1 element.2.text := by
  induction elements with
  | nil => rfl
  | cons element others ih => rw [elementTexts, ih, List.map_cons]

theorem paramTexts_eq_map (params : List TypeExpr) : paramTexts params = params.map text := by
  induction params with
  | nil => rfl
  | cons param others ih => rw [paramTexts, ih, List.map_cons]

def typeName (expr : TypeExpr) : TypeName :=
  ⟨String.ofList expr.text⟩

/-- A name or a label is not empty and has no blanks and none of the marks of a type. -/
def isTypeWord (word : String) : Bool :=
  word != "" && word.toList.all fun c =>
    !isBlank c && !isOpening c && !isClosing c &&
      c != ',' && c != ':' && c != '-' && c != '?' && c != '!'

theorem isTypeWord_iff {word : String} :
    isTypeWord word = true ↔ word ≠ "" ∧ ∀ c ∈ word.toList,
      isBlank c = false ∧ isOpening c = false ∧ isClosing c = false ∧
        c ≠ ',' ∧ c ≠ ':' ∧ c ≠ '-' ∧ c ≠ '?' ∧ c ≠ '!' := by
  simp [isTypeWord, and_assoc]

inductive IsWritten : TypeExpr → Prop
  | name {text : String} : isTypeWord text = true → IsWritten (.name text)
  | optional {wrapped : TypeExpr} : IsWritten wrapped → IsWritten (.optional wrapped)
  | array {element : TypeExpr} : IsWritten element → IsWritten (.array element)
  | dictionary {key value : TypeExpr} : IsWritten key → IsWritten value →
      IsWritten (.dictionary key value)
  | tuple {elements : List (Option String × TypeExpr)} :
      (∀ element ∈ elements, ∀ label ∈ element.1, isTypeWord label = true) →
      (∀ element ∈ elements, IsWritten element.2) → IsWritten (.tuple elements)
  | function {params : List TypeExpr} {result : TypeExpr} :
      (∀ param ∈ params, IsWritten param) → IsWritten result → IsWritten (.function params result)

section Written

variable {separator : Char} {low : Int} {expr : TypeExpr}
  {elements : List (Option String × TypeExpr)}

theorem passes_word {word : String} (h : isTypeWord word = true)
    (hseparator : separator = ',' ∨ separator = ':') : Passes separator 0 word.toList := by
  obtain ⟨_, hchars⟩ := isTypeWord_iff.mp h
  refine .of_unmarked (List.all_eq_true.mpr fun c hc => ?_) (.inr fun hmem => ?_)
  · obtain ⟨_, hopening, hclosing, _, _, hdash, _⟩ := hchars c hc
    exact isUnmarked_iff.mpr ⟨hopening, hclosing, hdash⟩
  · obtain ⟨_, _, _, hcomma, hcolon, _⟩ := hchars separator hmem
    exact hseparator.elim hcomma hcolon

/-- Where a separator counts, a label may stand in front unless the separator is the colon. -/
theorem passes_labelled {label : Option String} {text : List Char}
    (hlabel : ∀ word ∈ label, isTypeWord word = true) (htext : Passes separator 0 text)
    (hseparator : separator = ',' ∨ separator = ':') (hlow : 0 ≤ low)
    (hcolon : 0 < low ∨ separator = ',') : Passes separator low (labelled label text) := by
  cases label with
  | none => exact htext.mono hlow
  | some word =>
      have hmark : Passes separator low [':', ' '] := by
        refine .of_unmarked (by decide) (hcolon.imp_right ?_)
        rintro rfl
        decide
      exact ((passes_word (hlabel word rfl) hseparator).mono hlow).append
        (hmark.append (htext.mono hlow))

/-- No comma or colon in a type counts. -/
theorem passes_text (h : expr.IsWritten) (hseparator : separator = ',' ∨ separator = ':') :
    Passes separator 0 expr.text := by
  have hround : isOpening '(' = true ∧ isOpening ')' = false ∧ isClosing ')' = true := by decide
  have hsquare : isOpening '[' = true ∧ isOpening ']' = false ∧ isClosing ']' = true := by decide
  induction expr with
  | name word =>
      cases h with
      | name hword => exact passes_word hword hseparator
  | optional wrapped ih =>
      cases h with
      | optional hwrapped =>
          have hpasses := ih hwrapped
          have hmark : Passes separator 0 ['?'] := by
            refine .of_unmarked (by decide) (.inr ?_)
            rcases hseparator with rfl | rfl <;> decide
          rw [text]
          split
          · exact (Passes.brackets hround.1 hround.2 (hpasses.mono (by decide))).append hmark
          · exact hpasses.append hmark
  | array element ih =>
      cases h with
      | array helement =>
          exact .brackets hsquare.1 hsquare.2 ((ih helement).mono (by decide))
  | dictionary key value ihkey ihvalue =>
      cases h with
      | dictionary hkey hvalue =>
          have hmark : Passes separator 1 [':', ' '] := .of_unmarked (by decide) (.inl (by decide))
          exact .brackets hsquare.1 hsquare.2 (((ihkey hkey).mono (by decide)).append
            (hmark.append ((ihvalue hvalue).mono (by decide))))
  | tuple elements ih =>
      cases h with
      | tuple hlabels htypes =>
          rw [text, elementTexts_eq_map]
          refine .brackets hround.1 hround.2 (.spacedItems (by decide) fun item hitem => ?_)
          obtain ⟨element, hmem, rfl⟩ := List.mem_map.mp hitem
          exact passes_labelled (hlabels element hmem) (ih element hmem (htypes element hmem))
            hseparator (by decide) (.inl (by decide))
  | function params result ihparams ihresult =>
      cases h with
      | function hparams hresult =>
          have harrow : separator ∉ " -> ".toList := by
            rcases hseparator with rfl | rfl <;> decide
          rw [text, paramTexts_eq_map]
          refine ((Passes.brackets hround.1 hround.2 (.spacedItems (by decide) fun item hitem => ?_)
            ).append (.arrow harrow)).append (ihresult hresult)
          obtain ⟨param, hmem, rfl⟩ := List.mem_map.mp hitem
          exact (ihparams param hmem (hparams param hmem)).mono (by decide)

theorem text_ne_nil (h : expr.IsWritten) : expr.text ≠ [] := by
  cases h with
  | name hword => simpa [text] using (isTypeWord_iff.mp hword).1
  | _ => simp [text]

theorem isBlank_head?_text (h : expr.IsWritten) :
    ∀ c, expr.text.head? = some c → isBlank c = false := by
  induction expr with
  | name word =>
      cases h with
      | name hword =>
          intro c hc
          exact ((isTypeWord_iff.mp hword).2 c (List.mem_of_mem_head? hc)).1
  | optional wrapped ih =>
      cases h with
      | optional hwrapped =>
          intro c hc
          rw [text] at hc
          split at hc
          · obtain rfl : '(' = c := by simpa using hc
            decide
          · rw [List.head?_append_of_ne_nil _ (text_ne_nil hwrapped)] at hc
            exact ih hwrapped c hc
  | array | dictionary | tuple | function =>
      intro c hc
      simp only [text, List.cons_append, List.head?_cons, Option.some.injEq] at hc
      subst hc
      decide

/-- The result at the end of a function type. -/
def final : TypeExpr → TypeExpr
  | .function _ result => result.final
  | expr => expr

theorem final_ne_function (expr : TypeExpr) {params : List TypeExpr} {result : TypeExpr} :
    expr.final ≠ .function params result := by
  induction expr with
  | function _ _ _ ih => exact ih
  | _ => simp [final]

theorem isWritten_final (h : expr.IsWritten) : expr.final.IsWritten := by
  induction expr with
  | function params result _ ih =>
      cases h with
      | function _ hresult => exact ih hresult
  | _ => exact h

theorem exists_text_eq_append_final (expr : TypeExpr) :
    ∃ front, expr.text = front ++ expr.final.text := by
  induction expr with
  | function params result _ ih =>
      obtain ⟨front, htext⟩ := ih
      refine ⟨('(' :: spacedItems (paramTexts params) ++ [')']) ++ " -> ".toList ++ front, ?_⟩
      rw [text, htext, final, List.append_assoc _ front]
  | _ => exact ⟨[], rfl⟩

theorem getLast?_text_final (h : expr.IsWritten) :
    expr.text.getLast? = expr.final.text.getLast? := by
  obtain ⟨front, htext⟩ := exists_text_eq_append_final expr
  rw [htext]
  exact List.getLast?_append_of_ne_nil _ (text_ne_nil (isWritten_final h))

theorem isBlank_getLast?_text (h : expr.IsWritten) :
    ∀ c, expr.text.getLast? = some c → isBlank c = false := by
  intro c hc
  rw [getLast?_text_final h] at hc
  have hfinal := isWritten_final h
  generalize hresult : expr.final = result at hc hfinal
  cases hfinal with
  | name hword => exact ((isTypeWord_iff.mp hword).2 c (List.mem_of_mem_getLast? hc)).1
  | function => exact absurd hresult (final_ne_function expr)
  | optional | array | dictionary | tuple =>
      simp only [text, List.getLast?_concat, Option.some.injEq] at hc
      subst hc
      decide

theorem trim_text (h : expr.IsWritten) : trim expr.text = expr.text :=
  trim_of_ends (isBlank_head?_text h) (isBlank_getLast?_text h)

/-- No type has angles, other than that of an arrow. -/
theorem angle_not_mem_text (h : expr.IsWritten) : '<' ∉ expr.text := by
  have hword {word : String} (hword : isTypeWord word = true) : '<' ∉ word.toList := fun hmem =>
    absurd ((isTypeWord_iff.mp hword).2 '<' hmem).2.1 (by decide)
  have hitems {items : List (List Char)} (hitems : ∀ item ∈ items, '<' ∉ item) :
      '<' ∉ spacedItems items := by
    intro hmem
    rcases mem_spacedItems hmem with hmark | ⟨item, hitem, hangle⟩
    · exact absurd hmark (by decide)
    · exact hitems item hitem hangle
  induction expr with
  | name text =>
      cases h with
      | name htext => exact hword htext
  | optional wrapped ih =>
      cases h with
      | optional hwrapped =>
          have hinner := ih hwrapped
          rw [text]
          split <;> simp [hinner]
  | array element ih =>
      cases h with
      | array helement => simp [text, ih helement]
  | dictionary key value ihkey ihvalue =>
      cases h with
      | dictionary hkey hvalue => simp [text, ihkey hkey, ihvalue hvalue]
  | tuple elements ih =>
      cases h with
      | tuple hlabels htypes =>
          have hinner : '<' ∉ spacedItems (elementTexts elements) := by
            rw [elementTexts_eq_map]
            refine hitems fun item hitem => ?_
            obtain ⟨⟨label, type⟩, hmem, rfl⟩ := List.mem_map.mp hitem
            have htype := ih _ hmem (htypes _ hmem)
            cases label with
            | none => exact htype
            | some label => simp [labelled, hword (hlabels _ hmem label rfl), htype]
          simp [text, hinner]
  | function params result ihparams ihresult =>
      cases h with
      | function hparams hresult =>
          have hinner : '<' ∉ spacedItems (paramTexts params) := by
            rw [paramTexts_eq_map]
            refine hitems fun item hitem => ?_
            obtain ⟨param, hmem, rfl⟩ := List.mem_map.mp hitem
            exact ihparams param hmem (hparams param hmem)
          simp [text, hinner, ihresult hresult]

/-- The type of an element is read without its label and the blank before it. -/
theorem elementType_labelled {label : Option String}
    (hlabel : ∀ word ∈ label, isTypeWord word = true) (h : expr.IsWritten) {blanks : List Char}
    (hblanks : ∀ c ∈ blanks, c = ' ') :
    TypeName.elementType (blanks ++ labelled label expr.text) = expr.text := by
  have hpasses : Passes ':' 0 blanks := by
    refine .of_unmarked (List.all_eq_true.mpr fun c hc => ?_) (.inr fun hmem => ?_)
    · rw [hblanks c hc]
      decide
    · exact absurd (hblanks ':' hmem) (by decide)
  have hblank : ∀ c ∈ blanks, isBlank c = true := fun c hc => hblanks c hc ▸ by decide
  have htype : Passes ':' 0 expr.text := passes_text h (.inr rfl)
  cases label with
  | none =>
      rw [TypeName.elementType, labelled, (hpasses.append htype).splitTopLevel_eq_singleton]
      exact (trim_append_of_forall_isBlank hblank _).trans (trim_text h)
  | some word =>
      have hword : Passes ':' 0 (blanks ++ word.toList) :=
        hpasses.append (passes_word (hlabel word rfl) (.inr rfl))
      have hspaced : Passes ':' 0 (' ' :: expr.text) := (Passes.blank 0 (by decide)).append htype
      rw [TypeName.elementType, labelled, ← List.append_assoc,
        hword.splitTopLevel_append (by decide), hspaced.splitTopLevel_eq_singleton]
      exact (trim_cons_of_isBlank (by decide) _).trans (trim_text h)

theorem map_elementType_tuple (h : (TypeExpr.tuple elements).IsWritten) (hne : elements ≠ []) :
    (splitTopLevel ',' (spacedItems (elementTexts elements))).map TypeName.elementType =
      elements.map fun element => element.2.text := by
  cases h with
  | tuple hlabels htypes =>
      have hpasses : ∀ piece ∈ elementTexts elements, Passes ',' 0 piece := by
        intro piece hpiece
        rw [elementTexts_eq_map] at hpiece
        obtain ⟨element, hmem, rfl⟩ := List.mem_map.mp hpiece
        exact passes_labelled (hlabels element hmem)
          (passes_text (htypes element hmem) (.inl rfl)) (.inl rfl) (by decide) (.inr rfl)
      have hread (blanks : List Char) (hblanks : ∀ c ∈ blanks, c = ' ') :
          ∀ element ∈ elements, TypeName.elementType (blanks ++ labelled element.1 element.2.text) =
            element.2.text :=
        fun element hmem =>
          elementType_labelled (hlabels element hmem) (htypes element hmem) hblanks
      cases elements with
      | nil => exact absurd rfl hne
      | cons first others =>
          rw [elementTexts_eq_map, List.map_cons] at hpasses ⊢
          rw [splitTopLevel_spacedItems hpasses, List.map_cons, List.map_cons, List.map_map,
            List.map_map]
          have hfirst := hread [] (by simp) first List.mem_cons_self
          refine congrArg₂ List.cons hfirst (List.map_congr_left fun element hmem => ?_)
          exact hread [' '] (by simp) element (List.mem_cons_of_mem _ hmem)

end Written

end TypeExpr

end Understudy
