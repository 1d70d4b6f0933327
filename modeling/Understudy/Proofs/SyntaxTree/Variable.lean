import Understudy.Proofs.Text.Capital
import Understudy.SyntaxTree.Property

/-!
# Variable properties as they are written

The text of a property from its modifiers on is cut at the first keyword, and again before and after
the name. A variable that is written in this way is read with its name, and with the block that
opens before an equals sign (`SyntaxTree.exists_property?_of_variable`).
-/

namespace Understudy

open Text

namespace SyntaxTree

variable {source gap rest : List Char} {tree : SyntaxTree}

theorem isPropertyNameChar_eq_false_of_isBlank {c : Char} (hc : isBlank c = true) :
    isPropertyNameChar c = false :=
  of_isBlank (P := fun c => isPropertyNameChar c = false) (by decide +kernel) hc

theorem isPrefixOf_of_append_var {word text : List Char}
    (hword : word = "var ".toList ∨ word = "let ".toList) (hne : text ≠ [])
    (h : word.isPrefixOf (text ++ "var ".toList ++ rest) = true) : word.isPrefixOf text = true := by
  -- a keyword that begins before another one ends before it
  rcases hword with rfl | rfl <;> match text with
  | [] => exact absurd rfl hne
  | [_] | [_, _] | [_, _, _] => simp [List.isPrefixOf] at h
  | _ :: _ :: _ :: _ :: _ => simpa [List.isPrefixOf] using h

theorem cutAtKeyword?_append (hgap : cutAtKeyword? gap = none) (rest : List Char) :
    cutAtKeyword? (gap ++ "var ".toList ++ rest) = some (gap, .variable, ' ' :: rest) := by
  induction gap with
  | nil => simp [cutAtKeyword?, List.isPrefixOf]
  | cons c tail ih =>
      rw [cutAtKeyword?] at hgap
      split_ifs at hgap with hvariable hconstant
      have htail : cutAtKeyword? tail = none := by simpa using hgap
      have hkeyword {word : List Char} (hword : word = "var ".toList ∨ word = "let ".toList)
          (hnot : ¬word.isPrefixOf (c :: tail) = true) :
          ¬word.isPrefixOf (c :: (tail ++ "var ".toList ++ rest)) = true := fun h =>
        hnot (isPrefixOf_of_append_var hword (List.cons_ne_nil c tail) h)
      rw [List.cons_append, List.cons_append, cutAtKeyword?, if_neg (hkeyword (.inl rfl) hvariable),
        if_neg (hkeyword (.inr rfl) hconstant), ih htail]
      rfl

section Parts

variable {separates : Char → Bool} {kept rest : List Char}

theorem takeWhile_append_of_head? (hkept : ∀ c ∈ kept, separates c = true)
    (hrest : ∀ c, rest.head? = some c → separates c = false) :
    (kept ++ rest).takeWhile separates = kept := by
  rw [List.takeWhile_append_of_pos hkept]
  cases rest with
  | nil => exact List.append_nil kept
  | cons c later => simp [hrest c rfl]

theorem dropWhile_append_of_head? (hkept : ∀ c ∈ kept, separates c = true)
    (hrest : ∀ c, rest.head? = some c → separates c = false) :
    (kept ++ rest).dropWhile separates = rest := by
  rw [List.dropWhile_append_of_pos hkept]
  cases rest with
  | nil => rfl
  | cons c later => simp [hrest c rfl]

end Parts

end SyntaxTree

/-- A variable property as it is written after its modifiers: what stands before the keyword, the
blanks after it, the name, and all that follows the name. -/
structure VariableProperty where
  gap : List Char
  margin : List Char
  name : List Char
  rest : List Char

namespace VariableProperty

/-- The text up to the end of the name. -/
def heading (property : VariableProperty) : List Char :=
  property.gap ++ "var ".toList ++ property.margin ++ property.name

def text (property : VariableProperty) : List Char :=
  property.heading ++ property.rest

structure IsWritten (property : VariableProperty) : Prop where
  gap : SyntaxTree.cutAtKeyword? property.gap = none
  margin : ∀ c ∈ property.margin, isBlank c = true
  name_ne_nil : property.name ≠ []
  name : ∀ c ∈ property.name, SyntaxTree.isPropertyNameChar c = true
  rest : ∀ c, property.rest.head? = some c → SyntaxTree.isPropertyNameChar c = false

end VariableProperty

namespace SyntaxTree

variable {source : List Char} {tree : SyntaxTree} {property : VariableProperty}

/-- The property that is read from a variable. -/
theorem exists_property?_of_variable (h : property.IsWritten) {start : Nat}
    (hstart : (Modifiers.ofTree source true tree).stop.getD tree.start = start)
    (hslice : slice? source start tree.stop = some property.text) :
    ∃ declaration, property? source tree = some declaration ∧
      declaration.kind = .property ∧ declaration.name = String.ofList property.name ∧
      declaration.children = [] ∧
      declaration.signatureEnd = start + byteLength property.heading ∧
      declaration.bodyOffset =
        (accessorBlock? property.rest).map (fun block => tree.stop - byteLength block) ∧
      declaration.settable = ((accessorBlock? property.rest).map hasSetter).getD true ∧
      declaration.computed = ((accessorBlock? property.rest).isSome && !declaration.settable) := by
  have hmargin : ∀ c ∈ ' ' :: property.margin, isBlank c = true :=
    List.forall_mem_cons.mpr ⟨by decide, h.margin⟩
  have hname : ∀ c, (property.name ++ property.rest).head? = some c → isBlank c = false := by
    obtain ⟨first, others, hcons⟩ := List.exists_cons_of_ne_nil h.name_ne_nil
    intro c hc
    obtain rfl : first = c := by simpa [hcons] using hc
    exact isBlank_eq_false_of isPropertyNameChar_eq_false_of_isBlank
      (h.name first (hcons ▸ List.mem_cons_self))
  -- the text is cut at the keyword, then before and after the name
  have hcut : cutAtKeyword? property.text = some (property.gap, .variable,
      (' ' :: property.margin) ++ (property.name ++ property.rest)) := by
    have htext : property.text = property.gap ++ "var ".toList ++
        (property.margin ++ (property.name ++ property.rest)) := by
      simp [VariableProperty.text, VariableProperty.heading]
    rw [htext, cutAtKeyword?_append h.gap]
    rfl
  have hblanks := takeWhile_append_of_head? hmargin hname
  have hdeclared := dropWhile_append_of_head? hmargin hname
  have htaken := takeWhile_append_of_head? h.name h.rest
  have hremainder := dropWhile_append_of_head? h.name h.rest
  have hheading : start + byteLength property.heading = start + byteLength property.gap + 3 +
      byteLength (' ' :: property.margin) + byteLength property.name := by
    have hkeyword : byteLength "var ".toList = 4 := by decide
    have hblank : byteLength (' ' :: property.margin) = 1 + byteLength property.margin := rfl
    simp only [VariableProperty.heading, byteLength_append]
    omega
  have hnonempty : ¬property.name.isEmpty = true := by simpa using h.name_ne_nil
  simp only [property?, hstart, hslice, hcut, hblanks, hdeclared, htaken, hremainder, hheading,
    Option.bind_eq_bind, Option.bind_some, if_neg hnonempty]
  refine ⟨_, rfl, rfl, rfl, rfl, rfl, rfl, ?_, rfl⟩
  cases accessorBlock? property.rest <;> rfl

end SyntaxTree

end Understudy
