import Understudy.Proofs.Json.Tokens

/-!
# Values read back from their indented text

The reader of tokens puts the tokens of a value together again and delivers the value to the array
or object that is open around it. With the tokens of the indented text this makes
`Json.parse?_pretty`: a well-formed value is read back from its indented text.
-/

namespace Understudy.Json

namespace Reader

/-- Reading some tokens takes a reader to another one. -/
def Runs (reader : Reader) (tokens : List Token) (next : Reader) : Prop :=
  tokens.foldlM step reader = some next

theorem Runs.append {first middle last : Reader} {left right : List Token}
    (hleft : first.Runs left middle) (hright : middle.Runs right last) :
    first.Runs (left ++ right) last := by
  rw [Runs, List.foldlM_append, hleft]
  exact hright

theorem Runs.cons {first middle last : Reader} {token : Token} {tokens : List Token}
    (hstep : first.step token = some middle) (h : middle.Runs tokens last) :
    first.Runs (token :: tokens) last := by
  rw [Runs, List.foldlM_cons, hstep]
  exact h

theorem runs_singleton {first last : Reader} {token : Token}
    (hstep : first.step token = some last) : first.Runs [token] last :=
  .cons hstep rfl

/-- Where an array has begun, anything but its end is read as a value. -/
theorem step_firstItem {token : Token} (h : token ≠ .closeArray) (frames : List Frame) :
    step ⟨.firstItem, frames⟩ token = step ⟨.value, frames⟩ token := by
  cases token with
  | closeArray => exact absurd rfl h
  | _ => rfl

theorem exists_tokensOf_eq_cons (value : Json) :
    ∃ token others, tokensOf value = token :: others ∧ token ≠ .closeArray := by
  cases value <;> exact ⟨_, _, by rw [tokensOf] <;> simp, by simp⟩

theorem exists_separated_eq_cons {items : List Json} (h : items ≠ []) :
    ∃ token others, [Token.comma].intercalate (tokensOfItems items) = token :: others ∧
      token ≠ .closeArray := by
  obtain ⟨item, rest, rfl⟩ := List.exists_cons_of_ne_nil h
  obtain ⟨token, others, htokens, hne⟩ := exists_tokensOf_eq_cons item
  rw [tokensOfItems, htokens, List.intercalate_cons_cons_left]
  exact ⟨token, _, rfl, hne⟩

theorem runs_firstItem {items : List Json} (h : items ≠ []) {frames : List Frame} {next : Reader}
    (hrun : Runs ⟨.value, frames⟩ ([Token.comma].intercalate (tokensOfItems items)) next) :
    Runs ⟨.firstItem, frames⟩ ([Token.comma].intercalate (tokensOfItems items)) next := by
  obtain ⟨token, others, htokens, hne⟩ := exists_separated_eq_cons h
  rw [htokens, Runs, List.foldlM_cons] at hrun ⊢
  rwa [step_firstItem hne]

/-- A first key is read like any other. -/
theorem runs_firstKey {entries : List (List Nat × Json)} (h : entries ≠ []) {frames : List Frame}
    {next : Reader}
    (hrun : Runs ⟨.key [], frames⟩ ([Token.comma].intercalate (tokensOfEntries entries)) next) :
    Runs ⟨.firstKey, frames⟩ ([Token.comma].intercalate (tokensOfEntries entries)) next := by
  obtain ⟨⟨key, value⟩, rest, rfl⟩ := List.exists_cons_of_ne_nil h
  rw [tokensOfEntries, List.intercalate_cons_cons_left] at hrun ⊢
  exact hrun

theorem tokensOfItems_ne_nil {items : List Json} (h : items ≠ []) : tokensOfItems items ≠ [] := by
  obtain ⟨item, rest, rfl⟩ := List.exists_cons_of_ne_nil h
  simp [tokensOfItems]

theorem tokensOfEntries_ne_nil {entries : List (List Nat × Json)} (h : entries ≠ []) :
    tokensOfEntries entries ≠ [] := by
  obtain ⟨⟨key, value⟩, rest, rfl⟩ := List.exists_cons_of_ne_nil h
  simp [tokensOfEntries]

mutual

/-- **Delivery.** The tokens of a value deliver it to what is open around it. -/
theorem runs_tokensOf : (value : Json) → (frames : List Frame) →
    Runs ⟨.value, frames⟩ (tokensOf value) (deliver value frames)
  | .null, _ => rfl
  | .bool _, _ => rfl
  | .number _, _ => rfl
  | .string _, _ => rfl
  | .array items, frames => by
      rw [tokensOf]
      by_cases hitems : items = []
      · subst hitems
        rfl
      · have hrun := runs_items items hitems [] frames
        exact .cons rfl ((runs_firstItem hitems hrun).append (runs_singleton rfl))
  | .object entries, frames => by
      rw [tokensOf]
      by_cases hentries : entries = []
      · subst hentries
        rfl
      · obtain ⟨last, hrun⟩ := runs_entries entries hentries [] frames
        exact .cons rfl ((runs_firstKey hentries hrun).append (runs_singleton rfl))

theorem runs_items : (items : List Json) → items ≠ [] → (done : List Json) →
    (outer : List Frame) →
    Runs ⟨.value, .array done :: outer⟩ ([Token.comma].intercalate (tokensOfItems items))
      ⟨.afterItem, .array (done ++ items) :: outer⟩
  | [], h, _, _ => absurd rfl h
  | item :: rest, _, done, outer => by
      have hitem := runs_tokensOf item (.array done :: outer)
      by_cases hrest : rest = []
      · subst hrest
        rw [tokensOfItems, tokensOfItems, List.intercalate_singleton]
        exact hitem
      · have hothers := runs_items rest hrest (done ++ [item]) outer
        rw [List.append_assoc, List.singleton_append] at hothers
        rw [tokensOfItems, List.intercalate_cons_of_ne_nil (tokensOfItems_ne_nil hrest),
          List.append_assoc]
        exact hitem.append (.cons rfl hothers)

theorem runs_entries : (entries : List (List Nat × Json)) → entries ≠ [] →
    (done : List (List Nat × Json)) → (outer : List Frame) →
    ∃ last, Runs ⟨.key done, outer⟩ ([Token.comma].intercalate (tokensOfEntries entries))
      ⟨.afterItem, .object (done ++ entries) last :: outer⟩
  | [], h, _, _ => absurd rfl h
  | (key, value) :: rest, _, done, outer => by
      have hvalue := runs_tokensOf value (.object done key :: outer)
      by_cases hrest : rest = []
      · subst hrest
        rw [tokensOfEntries, tokensOfEntries, List.intercalate_singleton]
        exact ⟨key, .cons rfl (.cons rfl hvalue)⟩
      · obtain ⟨last, hothers⟩ := runs_entries rest hrest (done ++ [(key, value)]) outer
        rw [List.append_assoc, List.singleton_append] at hothers
        rw [tokensOfEntries, List.intercalate_cons_of_ne_nil (tokensOfEntries_ne_nil hrest),
          List.append_assoc]
        exact ⟨last, .cons rfl (.cons rfl (hvalue.append (.cons rfl hothers)))⟩

end

end Reader

/-- **Reading what was written.** A well-formed value is read back from its indented text. -/
theorem parse?_pretty {value : Json} (h : value.WellFormed) : parse? value.pretty = some value := by
  have htokens : tokens? value.pretty.toList = some (tokensOf value) := by
    have hread := reads_prettyAt 0 value h [] (by rintro _ ⟨⟩)
    rw [List.append_nil] at hread
    rw [tokens?, pretty, hread]
    simp [Mode.read]
  have hrun := Reader.runs_tokensOf value []
  rw [parse?, htokens, Option.bind_eq_bind, Option.bind_some, Reader.start, hrun]
  rfl

end Understudy.Json
