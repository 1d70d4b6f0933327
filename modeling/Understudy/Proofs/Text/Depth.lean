import Mathlib.Data.List.Basic
import Understudy.Proofs.Text.Capital
import Understudy.Proofs.Text.TopLevel

/-!
# The net depth of a text

Each opening bracket adds one to the net depth of a text and each closing one takes one away,
whatever the depth does in between. What is split after a text depends on the text by its net depth
and its last character alone. So a separator after a text of net depth zero always counts, and a
flat text, which no separator splits either, stays in one piece beside others.
-/

namespace Understudy.Text

variable {separator c : Char} {depth : Int} {previous : Option Char} {text left right : List Char}

/-- The depth after a text that is read from a depth on. -/
def depthFrom (depth : Int) (previous : Option Char) : List Char → Int
  | [] => depth
  | c :: rest => depthFrom (depthAfter depth previous c) (some c) rest

def netDepth (text : List Char) : Int :=
  depthFrom 0 none text

/-- The character before what follows a text. -/
def lastOr (previous : Option Char) (text : List Char) : Option Char :=
  text.getLast?.or previous

theorem lastOr_cons (previous : Option Char) (c : Char) (rest : List Char) :
    lastOr previous (c :: rest) = lastOr (some c) rest := by
  cases rest with
  | nil => rfl
  | cons next others => simp [lastOr, List.getLast?_cons]

theorem depthFrom_append (depth : Int) (previous : Option Char) (left right : List Char) :
    depthFrom depth previous (left ++ right) =
      depthFrom (depthFrom depth previous left) (lastOr previous left) right := by
  induction left generalizing depth previous with
  | nil => rfl
  | cons c tail ih => rw [List.cons_append, depthFrom, depthFrom, ih, lastOr_cons]

/-- The character before a text matters only if an arrow stands across its beginning. -/
theorem depthFrom_of_no_arrow (h : previous = some '-' → text.head? ≠ some '>') (depth : Int) :
    depthFrom depth previous text = depthFrom depth none text := by
  cases text with
  | nil => rfl
  | cons c rest =>
      have harrow : (c == '>' && previous == some '-') = (c == '>' && none == some '-') := by
        by_cases hdash : previous = some '-'
        · have hangle : c ≠ '>' := by simpa using h hdash
          simp [hangle]
        · simp [hdash]
      rw [depthFrom, depthFrom, depthAfter, depthAfter, harrow]

theorem splitTopLevelFrom_of_no_arrow (h : previous = some '-' → text.head? ≠ some '>')
    (separator : Char) (depth : Int) :
    splitTopLevelFrom separator depth previous text =
      splitTopLevelFrom separator depth none text := by
  by_cases hdash : previous = some '-'
  · cases text with
    | nil => rfl
    | cons c rest =>
        have hangle : (c == '>') = false := by simpa using h hdash
        simp only [splitTopLevelFrom, splitsHere, depthAfter, hangle, Bool.false_and]
  · exact splitTopLevelFrom_of_ne_dash hdash separator depth text

/-- Pieces, the last of which goes on with the first of others. -/
def joinPieces : List (List Char) → List (List Char) → List (List Char)
  | [], later => later
  | [last], later => prepend last later
  | piece :: next :: others, later => piece :: joinPieces (next :: others) later

theorem joinPieces_cons {pieces : List (List Char)} (h : pieces ≠ []) (piece : List Char)
    (later : List (List Char)) :
    joinPieces (piece :: pieces) later = piece :: joinPieces pieces later := by
  cases pieces with
  | nil => exact absurd rfl h
  | cons next others => rfl

theorem joinPieces_prepend {pieces : List (List Char)} (h : pieces ≠ []) (text : List Char)
    (later : List (List Char)) :
    joinPieces (prepend text pieces) later = prepend text (joinPieces pieces later) := by
  cases pieces with
  | nil => exact absurd rfl h
  | cons piece others =>
      cases others with
      | nil => exact prepend_append text piece later
      | cons next rest => rfl

theorem joinPieces_nil_cons {pieces : List (List Char)} (h : pieces ≠ [])
    (later : List (List Char)) : joinPieces pieces ([] :: later) = pieces ++ later := by
  induction pieces with
  | nil => exact absurd rfl h
  | cons piece others ih =>
      cases others with
      | nil => simp [joinPieces, prepend]
      | cons next rest =>
          rw [joinPieces, ih (List.cons_ne_nil next rest)]
          rfl

/-- The second text is split from the depth and the character that the first one leaves behind. -/
theorem splitTopLevelFrom_append (separator : Char) (depth : Int) (previous : Option Char)
    (left right : List Char) :
    splitTopLevelFrom separator depth previous (left ++ right) =
      joinPieces (splitTopLevelFrom separator depth previous left)
        (splitTopLevelFrom separator (depthFrom depth previous left) (lastOr previous left)
          right) := by
  induction left generalizing depth previous with
  | nil =>
      obtain ⟨piece, others, hpieces⟩ :=
        List.exists_cons_of_ne_nil (splitTopLevelFrom_ne_nil separator depth previous right)
      rw [List.nil_append, depthFrom, splitTopLevelFrom, lastOr, List.getLast?_nil, Option.none_or,
        hpieces]
      rfl
  | cons c tail ih =>
      have hne := splitTopLevelFrom_ne_nil separator (depthAfter depth previous c) (some c) tail
      rw [List.cons_append, depthFrom, lastOr_cons]
      cases hsplits : splitsHere separator depth previous c with
      | true =>
          rw [splitTopLevelFrom, splitTopLevelFrom, if_pos hsplits, if_pos hsplits,
            joinPieces_cons hne, ih]
      | false =>
          rw [splitTopLevelFrom_cons_of_not_splitsHere hsplits,
            splitTopLevelFrom_cons_of_not_splitsHere hsplits, joinPieces_prepend hne, ih]

/-- A separator after a text of net depth zero counts. -/
theorem splitTopLevel_append_of_netDepth (hleft : netDepth left = 0)
    (hplain : isUnmarked separator = true) (right : List Char) :
    splitTopLevel separator (left ++ separator :: right) =
      splitTopLevel separator left ++ splitTopLevel separator right := by
  obtain ⟨hopening, hclosing, hdash⟩ := isUnmarked_iff.mp hplain
  have hsplits (previous : Option Char) : splitsHere separator 0 previous separator = true := by
    have hangle : separator ≠ '>' := by
      rintro rfl
      exact absurd hclosing (by decide)
    simp [splitsHere, hopening, hclosing, hangle]
  have hdepth (previous : Option Char) : depthAfter 0 previous separator = 0 := by
    simp [depthAfter, hopening, hclosing]
  calc splitTopLevel separator (left ++ separator :: right)
      = joinPieces (splitTopLevel separator left)
          (splitTopLevelFrom separator (netDepth left) (lastOr none left) (separator :: right)) :=
        splitTopLevelFrom_append separator 0 none left (separator :: right)
    _ = joinPieces (splitTopLevel separator left) ([] :: splitTopLevel separator right) := by
        rw [hleft, splitTopLevelFrom, if_pos (hsplits _), hdepth,
          splitTopLevelFrom_of_ne_dash (by simpa using hdash)]
        rfl
    _ = splitTopLevel separator left ++ splitTopLevel separator right :=
        joinPieces_nil_cons (splitTopLevelFrom_ne_nil separator 0 none left) _

/-- A text of net depth zero that no separator splits. -/
structure IsFlat (separator : Char) (text : List Char) : Prop where
  netDepth_eq : netDepth text = 0
  splitTopLevel_eq : splitTopLevel separator text = [text]

/-- Flat texts are put together unless an arrow stands across them. -/
theorem IsFlat.append (hleft : IsFlat separator left) (hright : IsFlat separator right)
    (harrow : left.getLast? = some '-' → right.head? ≠ some '>') :
    IsFlat separator (left ++ right) := by
  have hlast : lastOr none left = left.getLast? := Option.or_none
  constructor
  · rw [netDepth, depthFrom_append, hlast, depthFrom_of_no_arrow harrow]
    have hnet : depthFrom 0 none left = 0 := hleft.netDepth_eq
    rw [hnet]
    exact hright.netDepth_eq
  · calc splitTopLevel separator (left ++ right)
        = joinPieces (splitTopLevel separator left)
            (splitTopLevelFrom separator (netDepth left) (lastOr none left) right) :=
          splitTopLevelFrom_append separator 0 none left right
      _ = joinPieces [left] (splitTopLevel separator right) := by
          rw [hleft.splitTopLevel_eq, hleft.netDepth_eq, hlast,
            splitTopLevelFrom_of_no_arrow harrow, splitTopLevel]
      _ = [left ++ right] := by
          rw [hright.splitTopLevel_eq]
          rfl

theorem isFlat_of_forall
    (h : ∀ c ∈ text, isOpening c = false ∧ isClosing c = false ∧ c ≠ separator) :
    IsFlat separator text := by
  have hstep : ∀ {c}, isOpening c = false ∧ isClosing c = false →
      ∀ previous, depthAfter 0 previous c = 0 := by
    rintro c ⟨hopening, hclosing⟩ previous
    simp [depthAfter, hopening, hclosing]
  have hfrom (previous : Option Char) : depthFrom 0 previous text = 0 ∧
      splitTopLevelFrom separator 0 previous text = [text] := by
    induction text generalizing previous with
    | nil => exact ⟨rfl, rfl⟩
    | cons c rest ih =>
        obtain ⟨⟨hopening, hclosing, hseparator⟩, hrest⟩ := List.forall_mem_cons.mp h
        obtain ⟨hdepth, hpieces⟩ := ih hrest (some c)
        have hsplits : splitsHere separator 0 previous c = false := by
          simp [splitsHere, hseparator]
        rw [depthFrom, splitTopLevelFrom_cons_of_not_splitsHere hsplits,
          hstep ⟨hopening, hclosing⟩ previous]
        exact ⟨hdepth, by rw [hpieces]; rfl⟩
  exact ⟨(hfrom none).1, (hfrom none).2⟩

theorem isFlat_of_blanks {blanks : List Char} (hseparator : isBlank separator = false)
    (h : ∀ c ∈ blanks, isBlank c = true) : IsFlat separator blanks := by
  refine isFlat_of_forall fun c hc => ?_
  obtain ⟨hopening, hclosing⟩ : isOpening c = false ∧ isClosing c = false :=
    of_isBlank (P := fun c => isOpening c = false ∧ isClosing c = false) (by decide) (h c hc)
  refine ⟨hopening, hclosing, ?_⟩
  rintro rfl
  exact absurd (h c hc) (by simp [hseparator])

/-- Neither the dash nor the angle of an arrow is a blank. -/
theorem IsFlat.between_blanks {before after : List Char} (h : IsFlat separator text)
    (hseparator : isBlank separator = false) (hbefore : ∀ c ∈ before, isBlank c = true)
    (hafter : ∀ c ∈ after, isBlank c = true) : IsFlat separator (before ++ text ++ after) := by
  have hfront := isFlat_of_blanks hseparator hbefore
  refine (hfront.append h fun hdash => ?_).append (isFlat_of_blanks hseparator hafter)
    fun _ hangle => ?_
  · exact absurd (hbefore '-' (List.mem_of_getLast? hdash)) (by decide)
  · exact absurd (hafter '>' (List.mem_of_head? hangle)) (by decide)

/-- Flat texts are found again between separators. -/
theorem splitTopLevel_intercalate {items : List (List Char)} (hne : items ≠ [])
    (hplain : isUnmarked separator = true) (h : ∀ item ∈ items, IsFlat separator item) :
    splitTopLevel separator ([separator].intercalate items) = items := by
  induction items with
  | nil => exact absurd rfl hne
  | cons item others ih =>
      obtain ⟨hitem, hothers⟩ := List.forall_mem_cons.mp h
      cases others with
      | nil => simpa using hitem.splitTopLevel_eq
      | cons next rest =>
          have hcut := splitTopLevel_append_of_netDepth hitem.netDepth_eq hplain
            ([separator].intercalate (next :: rest))
          rw [hitem.splitTopLevel_eq, ih (List.cons_ne_nil next rest) hothers] at hcut
          simpa [List.intercalate_cons_cons] using hcut

end Understudy.Text
