import Mathlib.Data.List.Forall2
import Mathlib.Logic.Function.Iterate
import Understudy.TypeName.Default

/-!
# The search for a literal ends

One step of the search settles a type by its name or asks for the literals of the elements of a
tuple, each of which is shorter than the type. So the search goes no deeper than the type is long,
and what holds of the literals it begins with, and is kept when they are put into a tuple, holds of
all that it finds.
-/

namespace Understudy

section Results

variable {α β : Type}

theorem mapM_congr_of_mem {f g : α → Option β} {items : List α}
    (h : ∀ item ∈ items, f item = g item) : items.mapM f = items.mapM g := by
  induction items with
  | nil => rfl
  | cons item rest ih =>
      rw [List.mapM_cons, List.mapM_cons, h item List.mem_cons_self,
        ih fun other hother => h other (List.mem_cons_of_mem _ hother)]

theorem mapM_eq_some_iff {f : α → Option β} {items : List α} {values : List β} :
    items.mapM f = some values ↔
      List.Forall₂ (fun item value => f item = some value) items values := by
  induction items generalizing values with
  | nil => simp [eq_comm]
  | cons item others ih =>
      rw [List.mapM_cons]
      constructor
      · intro h
        obtain ⟨value, hvalue, h⟩ := Option.bind_eq_some_iff.mp h
        obtain ⟨rest, hrest, h⟩ := Option.bind_eq_some_iff.mp h
        cases h
        exact .cons hvalue (ih.mp hrest)
      · rintro (_ | ⟨hvalue, hrest⟩)
        rw [hvalue, ih.mpr hrest]
        rfl

theorem exists_mem_of_forall₂ {R : α → β → Prop} {items : List α} {values : List β}
    (h : List.Forall₂ R items values) : ∀ item ∈ items, ∃ value ∈ values, R item value := by
  induction h with
  | nil => simp
  | @cons item value _ _ hfirst _ ih =>
      refine List.forall_mem_cons.mpr ⟨⟨value, List.mem_cons_self, hfirst⟩, fun other hmem => ?_⟩
      obtain ⟨found, hfound, hother⟩ := ih other hmem
      exact ⟨found, List.mem_cons_of_mem _ hfound, hother⟩

theorem mapM_eq_none_of_mem {f : α → Option β} {item : α} {items : List α} (hmem : item ∈ items)
    (hnone : f item = none) : items.mapM f = none := by
  cases hvalues : items.mapM f with
  | none => rfl
  | some values =>
      obtain ⟨value, _, hvalue⟩ := exists_mem_of_forall₂ (mapM_eq_some_iff.mp hvalues) item hmem
      rw [hnone] at hvalue
      cases hvalue

end Results

namespace TypeName

open Text

variable {known : KnownLiterals} {text inner element : List Char}

theorem elementType_length_lt (hinner : enclosed? '(' ')' text = some inner)
    (helement : element ∈ splitTopLevel ',' inner) : (elementType element).length < text.length :=
  calc (elementType element).length
      ≤ element.length := elementType_length_le element
    _ ≤ inner.length := length_le_of_mem_splitTopLevel helement
    _ < text.length := enclosed?_length_lt hinner

/-- One step of the search, where `search` answers for the elements of a tuple. -/
def searchStep (known : KnownLiterals) (search : List Char → Option String) (text : List Char) :
    Option String :=
  ((known.lookup (String.ofList text)).or (scalarDefault? text)).or
    ((enclosed? '(' ')' text).bind fun inner =>
      ((splitTopLevel ',' inner).mapM fun element => search (elementType element)).map tupleLiteral)

theorem defaultOf_eq_searchStep (known : KnownLiterals) (text : List Char) :
    defaultOf known text = searchStep known (defaultOf known) text :=
  defaultOf_eq known text

/-- A step asks for shorter texts alone. -/
theorem searchStep_congr {search other : List Char → Option String}
    (h : ∀ asked, asked.length < text.length → search asked = other asked) :
    searchStep known search text = searchStep known other text := by
  unfold searchStep
  congr 1
  cases hinner : enclosed? '(' ')' text with
  | none => rfl
  | some inner =>
      simp only [Option.bind_some]
      congr 1
      exact mapM_congr_of_mem fun element hmem => h _ (elementType_length_lt hinner hmem)

/-- Steps that are nested as deep as the text is long settle it, whatever stands below them. -/
theorem iterate_searchStep (bottom : List Char → Option String) {depth : Nat}
    (hdepth : text.length < depth) :
    (searchStep known)^[depth] bottom text = defaultOf known text := by
  induction depth generalizing text with
  | zero => exact absurd hdepth (Nat.not_lt_zero _)
  | succ depth ih =>
      calc (searchStep known)^[depth + 1] bottom text
          = searchStep known ((searchStep known)^[depth] bottom) text := by
            rw [Function.iterate_succ_apply']
        _ = searchStep known (defaultOf known) text := by
            apply searchStep_congr
            intro asked hshorter
            exact ih (by omega)
        _ = defaultOf known text := (defaultOf_eq_searchStep known text).symm

/-- What holds of the known literals and of those of names, and is kept by tuples, holds of all. -/
theorem of_defaultOf {P : String → Prop} {literal : String} (hknown : ∀ entry ∈ known, P entry.2)
    (hscalar : ∀ text found, scalarDefault? text = some found → P found)
    (htuple : ∀ values, (∀ value ∈ values, P value) → P (tupleLiteral values))
    (h : defaultOf known text = some literal) : P literal := by
  induction hlength : text.length using Nat.strongRecOn generalizing text literal with
  | ind length ih =>
      rw [defaultOf_eq, Option.or_eq_some_iff, Option.or_eq_some_iff] at h
      rcases h with (hfound | ⟨_, hfound⟩) | ⟨_, hfound⟩
      · obtain ⟨before, after, rfl, _⟩ := List.lookup_eq_some_iff.mp hfound
        exact hknown (String.ofList text, literal) (by simp)
      · exact hscalar text literal hfound
      · obtain ⟨inner, hinner, hvalues⟩ := Option.bind_eq_some_iff.mp hfound
        obtain ⟨values, helements, rfl⟩ := Option.map_eq_some_iff.mp hvalues
        refine htuple values fun value hvalue => ?_
        obtain ⟨element, hmem, hfound⟩ :=
          exists_mem_of_forall₂ (mapM_eq_some_iff.mp helements).flip value hvalue
        exact ih _ (hlength ▸ elementType_length_lt hinner hmem) hfound rfl

end TypeName

end Understudy
