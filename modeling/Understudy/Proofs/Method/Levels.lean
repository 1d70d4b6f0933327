import Understudy.Method

/-!
# The names of a method grow from level to level

From one level to the next a name is extended at its end: by the next component while there are any,
then by 1, 2, 3 and so on. Where no component is empty the names form a chain of proper prefixes, so
a search through the levels never meets a name twice (`Method.nameAt_grows`).
-/

namespace Understudy

/-- The second text is the first one with something more at its end. -/
def IsProperPrefix (left right : String) : Prop :=
  ∃ more, more ≠ "" ∧ right = left ++ more

namespace IsProperPrefix

variable {first second third : String}

theorem trans (hfirst : IsProperPrefix first second) (hsecond : IsProperPrefix second third) :
    IsProperPrefix first third := by
  obtain ⟨more, hmore, rfl⟩ := hfirst
  obtain ⟨rest, _, rfl⟩ := hsecond
  refine ⟨more ++ rest, ?_, String.append_assoc⟩
  intro hempty
  exact hmore (String.append_eq_empty_iff.mp hempty).1

theorem ne (h : IsProperPrefix first second) : first ≠ second := by
  obtain ⟨more, hmore, rfl⟩ := h
  intro heq
  apply hmore
  simpa using congrArg String.toList heq

end IsProperPrefix

namespace Method

variable {method : Method} {level low high : Nat}

/-- The numbers from 1 on, one after the other. -/
def numerals (steps : Nat) : String :=
  String.join ((List.range steps).map fun step => toString (step + 1))

theorem numerals_succ (steps : Nat) :
    numerals (steps + 1) = numerals steps ++ toString (steps + 1) := by
  simp [numerals, List.range_succ]

theorem levelSuffix_of_lt (h : level < method.components.length) :
    method.levelSuffix level = method.components[level] := by
  rw [levelSuffix, List.getElem?_eq_getElem h]

theorem levelSuffix_length_add (method : Method) (steps : Nat) :
    method.levelSuffix (method.components.length + steps) = toString (steps + 1) := by
  have hnone : method.components[method.components.length + steps]? = none :=
    List.getElem?_eq_none (Nat.le_add_right _ _)
  have hstep : method.components.length + steps + 1 - method.components.length = steps + 1 := by
    omega
  simp only [levelSuffix, hnone, hstep]

theorem levelSuffix_ne_empty (h : ∀ component ∈ method.components.drop level, component ≠ "") :
    method.levelSuffix level ≠ "" := by
  by_cases hlt : level < method.components.length
  · rw [levelSuffix_of_lt hlt]
    apply h
    rw [List.drop_eq_getElem_cons hlt]
    exact List.mem_cons_self
  · obtain ⟨steps, rfl⟩ := Nat.exists_eq_add_of_le (Nat.le_of_not_lt hlt)
    rw [levelSuffix_length_add]
    intro hempty
    have hdigits : 0 < (toString (steps + 1)).length := Nat.length_repr_pos
    simp [hempty] at hdigits

theorem isProperPrefix_nameAt_succ
    (h : ∀ component ∈ method.components.drop level, component ≠ "") :
    IsProperPrefix (method.nameAt level) (method.nameAt (level + 1)) :=
  ⟨method.levelSuffix level, levelSuffix_ne_empty h, rfl⟩

/-- From a level on at which no empty component is left the names grow. -/
theorem isProperPrefix_nameAt (h : ∀ component ∈ method.components.drop low, component ≠ "")
    (hlt : low < high) : IsProperPrefix (method.nameAt low) (method.nameAt high) := by
  induction hlt with
  | refl => exact isProperPrefix_nameAt_succ h
  | step hle ih =>
      apply ih.trans
      apply isProperPrefix_nameAt_succ
      intro component hcomponent
      exact h component (List.drop_subset_drop_left _ (Nat.le_of_lt hle) hcomponent)

theorem nameAt_eq_of_le (h : level ≤ method.components.length) :
    method.nameAt level = method.name ++ String.join (method.components.take level) := by
  induction level with
  | zero => simp [nameAt]
  | succ level ih =>
      have hlt : level < method.components.length := h
      calc method.nameAt (level + 1)
          = method.nameAt level ++ method.components[level] := by
            rw [nameAt, levelSuffix_of_lt hlt]
        _ = method.name ++
            String.join (method.components.take level ++ [method.components[level]]) := by
            rw [ih (Nat.le_of_lt hlt), String.join_append, String.append_assoc]
            simp
        _ = method.name ++ String.join (method.components.take (level + 1)) := by
            rw [List.take_append_getElem hlt]

theorem nameAt_length (method : Method) :
    method.nameAt method.components.length = method.fullName := by
  rw [nameAt_eq_of_le (Nat.le_refl _), List.take_length, fullName]

theorem nameAt_length_add (method : Method) (steps : Nat) :
    method.nameAt (method.components.length + steps) = method.fullName ++ numerals steps := by
  induction steps with
  | zero => simp [numerals, nameAt_length]
  | succ steps ih =>
      rw [← Nat.add_assoc, nameAt, ih, levelSuffix_length_add, numerals_succ, String.append_assoc]

theorem eq_of_nameAt_eq {start first second : Nat}
    (h : ∀ component ∈ method.components.drop start, component ≠ "") (hfirst : start ≤ first)
    (hsecond : start ≤ second) (hsame : method.nameAt first = method.nameAt second) :
    first = second := by
  have hdiffer {low high : Nat} (hlow : start ≤ low) (hlt : low < high) :
      method.nameAt low ≠ method.nameAt high := by
    apply IsProperPrefix.ne
    apply isProperPrefix_nameAt _ hlt
    intro component hcomponent
    exact h component (List.drop_subset_drop_left _ hlow hcomponent)
  rcases Nat.lt_trichotomy first second with hlt | heq | hgt
  · exact absurd hsame (hdiffer hfirst hlt)
  · exact heq
  · exact absurd hsame.symm (hdiffer hsecond hgt)

/-- **Names by level form a chain.** Where no component is empty the name at a level is a proper
prefix of the name at every later level, so all names are different. With all components it is the
full name, and each further level adds the next number. -/
theorem nameAt_grows (h : ∀ component ∈ method.components, component ≠ "") :
    (∀ low high, low < high → IsProperPrefix (method.nameAt low) (method.nameAt high)) ∧
      Function.Injective method.nameAt ∧
      method.nameAt method.components.length = method.fullName ∧
      ∀ steps, method.nameAt (method.components.length + steps) =
        method.fullName ++ numerals steps := by
  have hleft (start : Nat) : ∀ component ∈ method.components.drop start, component ≠ "" :=
    fun component hcomponent => h component (List.mem_of_mem_drop hcomponent)
  refine ⟨?_, ?_, method.nameAt_length, method.nameAt_length_add⟩
  · intro low high hlt
    exact isProperPrefix_nameAt (hleft low) hlt
  · intro first second hsame
    exact eq_of_nameAt_eq (hleft 0) (Nat.zero_le _) (Nat.zero_le _) hsame

/-- A function with two components. -/
def fetcher : Method :=
  { name := "fetch"
    kind := .function
    generics := []
    params := [.value "id" "id" (.ofText "Int")]
    returnType := .ofText ""
    isStatic := false
    accessLevel := ""
    effects := ""
    attributes := []
    handler := none
    declaredName := "fetch(id:)"
    origin := { path := ⟨"Api.swift"⟩, offset := 0, length := 0, processed := false }
    components := ["Id", "Int"] }

theorem nameAt_grows_of_fetcher :
    (∀ component ∈ fetcher.components, component ≠ "") ∧
      IsProperPrefix (fetcher.nameAt 1) (fetcher.nameAt 3) ∧
      fetcher.nameAt 2 = fetcher.fullName ∧ fetcher.nameAt 5 = "fetchIdInt123" := by
  have hcomponents : ∀ component ∈ fetcher.components, component ≠ "" := by decide
  obtain ⟨hgrows, _, hfull, hsteps⟩ := nameAt_grows hcomponents
  exact ⟨hcomponents, hgrows 1 3 (by decide), hfull, (hsteps 3).trans (by decide)⟩

end Method

end Understudy
