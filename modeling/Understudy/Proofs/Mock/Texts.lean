import Understudy.Proofs.Failure.Results
import Understudy.Proofs.Mock.ClassLines
import Understudy.Proofs.Mock.Identifier

/-!
# The texts of the members of a class

When a class is rendered at all, its text is its opening lines, then the text of each member in
order, then the closing brace. A fresh member has the same text whatever the disk and the cache
hold, while a processed one has the text that the cache hands out when its turn comes.
-/

namespace Understudy.Mock

open Layout

variable {disk : Disk} {known : KnownLiterals} {cache : SourceCache} {texts : List String}

theorem memberTexts_cons_eq_ok {member : Member} {identifier : String}
    {rest : List (Member × String)}
    (h : (memberTexts disk known ((member, identifier) :: rest) cache).1 = .ok texts) :
    ∃ text? middle later, memberText disk known identifier member cache = (.ok text?, middle) ∧
      (memberTexts disk known rest middle).1 = .ok later ∧
      texts = (text?.map (placed member)).toList ++ later := by
  rw [memberTexts] at h
  split at h
  · cases h
  · next text? middle htext =>
    obtain ⟨later, hlater, rfl⟩ := exists_of_map_eq_ok h
    exact ⟨text?, middle, later, htext, hlater, rfl⟩

/-- The text of a fresh member is among the texts of the class. -/
theorem mem_texts_of_fresh {pairs : List (Member × String)}
    (h : (memberTexts disk known pairs cache).1 = .ok texts) {pair : Member × String}
    (hmem : pair ∈ pairs) (hfresh : pair.1.isProcessed = false) :
    joinLines (memberLines known pair) ∈ texts := by
  induction pairs generalizing cache texts with
  | nil => simp at hmem
  | cons head rest ih =>
      obtain ⟨member, identifier⟩ := head
      obtain ⟨text?, middle, later, htext, hlater, rfl⟩ := memberTexts_cons_eq_ok h
      rcases List.mem_cons.mp hmem with rfl | hmem
      · rw [memberText_of_fresh hfresh] at htext
        cases htext
        simp [placed_of_fresh hfresh]
      · exact List.mem_append_right _ (ih hlater hmem)

theorem exists_texts_of_classText {entity : Entity} {members : List Member} {isFinal : Bool}
    {text : String} (h : (classText disk known entity members isFinal cache).1 = .ok text) :
    ∃ texts,
      (memberTexts disk known (members.zip (Identifier.resolve members)) cache).1 = .ok texts ∧
      text = joinLines (headLines entity members isFinal ++ texts ++ ["\x7d"]) := by
  obtain ⟨texts, htexts, rfl⟩ := exists_of_map_eq_ok h
  exact ⟨texts, htexts, rfl⟩

theorem joinLines_append_joinLines_cons (before lines : List String) {after : List String}
    (hlines : lines ≠ []) (hafter : after ≠ []) :
    joinLines (before ++ joinLines lines :: after) = joinLines (before ++ lines ++ after) := by
  have hgroups : ∀ group ∈ before.map ([·]) ++ [lines], group ≠ [] := by
    simp [or_imp, forall_and, hlines]
  have hjoined := joinLines_map_joinLines_append hgroups hafter
  have hsingle : before.map (joinLines ∘ ([·])) = before := by
    simp [joinLines, Function.comp_def]
  simpa [List.map_append, hsingle, ← List.flatMap_def] using hjoined

/-- The lines of a fresh member stand together in the text of the class. -/
theorem exists_lines_of_pair {entity : Entity} {members : List Member} {isFinal : Bool}
    {text : String} (h : (classText disk known entity members isFinal cache).1 = .ok text)
    {pair : Member × String} (hpair : pair ∈ members.zip (Identifier.resolve members))
    (hfresh : pair.1.isProcessed = false) :
    ∃ before after, text = joinLines (before ++ memberLines known pair ++ after) := by
  obtain ⟨texts, htexts, rfl⟩ := exists_texts_of_classText h
  obtain ⟨before, after, rfl⟩ := List.append_of_mem (mem_texts_of_fresh htexts hpair hfresh)
  refine ⟨headLines entity members isFinal ++ before, after ++ ["\x7d"], ?_⟩
  rw [← joinLines_append_joinLines_cons _ _ (memberLines_ne_nil known _) (by simp)]
  simp only [List.append_assoc, List.cons_append]

theorem exists_lines_of_classText {entity : Entity} {members : List Member} {isFinal : Bool}
    {text : String} (h : (classText disk known entity members isFinal cache).1 = .ok text)
    {member : Member} (hmem : member ∈ members) (hfresh : member.isProcessed = false) :
    ∃ identifier before after,
      text = joinLines (before ++ memberLines known (member, identifier) ++ after) := by
  obtain ⟨identifier, hpair⟩ := Identifier.exists_mem_zip_resolve hmem
  exact ⟨identifier, exists_lines_of_pair h hpair hfresh⟩

end Understudy.Mock
