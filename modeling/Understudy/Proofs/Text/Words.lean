import Mathlib.Data.List.Basic
import Mathlib.Data.List.DropRight
import Mathlib.Tactic.SplitIfs
import Understudy.Proofs.Text.Cut
import Understudy.Text.Token

/-!
# Words, blanks and tokens

A blank separates the words on both of its sides, a text without blanks is one word, and blanks at
the ends of a text are trimmed away. The tokens of a text are read off in the same way. A word that
is looked for with a space on either side is missed where another blank stands there.
-/

namespace Understudy.Text

open scoped List

variable {c : Char} {text word left right rest : List Char} {separates : Char → Bool}

theorem splitWhere_ne_nil (separates : Char → Bool) (text : List Char) :
    splitWhere separates text ≠ [] := by
  cases text with
  | nil => simp [splitWhere]
  | cons c rest =>
      rw [splitWhere]
      split
      · simp
      · split <;> simp

theorem splitWhere_append (hc : separates c = true) (left right : List Char) :
    splitWhere separates (left ++ c :: right) =
      splitWhere separates left ++ splitWhere separates right := by
  induction left with
  | nil => simp [splitWhere, hc]
  | cons head tail ih =>
      rw [List.cons_append, splitWhere, splitWhere, ih]
      split
      · rfl
      · obtain ⟨piece, others, hpieces⟩ :=
          List.exists_cons_of_ne_nil (splitWhere_ne_nil separates tail)
        rw [hpieces]
        rfl

theorem splitWhere_eq_singleton (h : ∀ c ∈ text, separates c = false) :
    splitWhere separates text = [text] := by
  induction text with
  | nil => rfl
  | cons head tail ih =>
      obtain ⟨hhead, htail⟩ := List.forall_mem_cons.mp h
      rw [splitWhere, ih htail, hhead]
      rfl

theorem separates_of_mem_splitWhere {piece : List Char} (hpiece : piece ∈ splitWhere separates text)
    (hc : c ∈ piece) : separates c = false := by
  induction text generalizing piece with
  | nil =>
      rw [splitWhere, List.mem_singleton] at hpiece
      simp [hpiece] at hc
  | cons head tail ih =>
      rw [splitWhere] at hpiece
      split at hpiece
      · rcases List.mem_cons.mp hpiece with rfl | htail
        · simp at hc
        · exact ih htail hc
      · next hhead =>
        obtain ⟨first, others, hpieces⟩ :=
          List.exists_cons_of_ne_nil (splitWhere_ne_nil separates tail)
        rw [hpieces] at hpiece ih
        rcases List.mem_cons.mp hpiece with rfl | hother
        · rcases List.mem_cons.mp hc with rfl | hfirst
          · exact Bool.eq_false_iff.mpr hhead
          · exact ih List.mem_cons_self hfirst
        · exact ih (List.mem_cons_of_mem _ hother) hc

theorem mem_of_mem_splitWhere {piece : List Char} (hpiece : piece ∈ splitWhere separates text)
    (hc : c ∈ piece) : c ∈ text := by
  induction text generalizing piece with
  | nil =>
      rw [splitWhere, List.mem_singleton] at hpiece
      exact hpiece ▸ hc
  | cons head tail ih =>
      rw [splitWhere] at hpiece
      split at hpiece
      · rcases List.mem_cons.mp hpiece with rfl | htail
        · simp at hc
        · exact List.mem_cons_of_mem _ (ih htail hc)
      · obtain ⟨first, others, hpieces⟩ :=
          List.exists_cons_of_ne_nil (splitWhere_ne_nil separates tail)
        rw [hpieces] at hpiece ih
        rcases List.mem_cons.mp hpiece with rfl | hother
        · rcases List.mem_cons.mp hc with rfl | hfirst
          · exact List.mem_cons_self
          · exact List.mem_cons_of_mem _ (ih List.mem_cons_self hfirst)
        · exact List.mem_cons_of_mem _ (ih (List.mem_cons_of_mem _ hother) hc)

/-- Pieces without a separator are read back when they are joined by one. -/
theorem splitWhere_intercalate (hc : separates c = true) {pieces : List (List Char)}
    (hne : pieces ≠ []) (hpieces : ∀ piece ∈ pieces, ∀ d ∈ piece, separates d = false) :
    splitWhere separates ([c].intercalate pieces) = pieces := by
  induction pieces with
  | nil => exact absurd rfl hne
  | cons piece rest ih =>
      obtain ⟨hpiece, hrest⟩ := List.forall_mem_cons.mp hpieces
      cases rest with
      | nil => simpa using splitWhere_eq_singleton hpiece
      | cons next others =>
          rw [List.intercalate_cons_cons, List.append_assoc, List.singleton_append,
            splitWhere_append hc, splitWhere_eq_singleton hpiece, ih (List.cons_ne_nil _ _) hrest,
            List.singleton_append]

theorem fields_append_cons (hc : separates c = true) (left right : List Char) :
    fields separates (left ++ c :: right) = fields separates left ++ fields separates right := by
  rw [fields, splitWhere_append hc, List.filter_append]
  rfl

theorem words_append (hc : isBlank c = true) (left right : List Char) :
    words (left ++ c :: right) = words left ++ words right :=
  fields_append_cons hc left right

theorem words_ne_nil (hmem : c ∈ text) (hc : isBlank c = false) : words text ≠ [] := by
  induction text with
  | nil => simp at hmem
  | cons head tail ih =>
      by_cases hhead : isBlank head = true
      · have htail : c ∈ tail := by
          rcases List.mem_cons.mp hmem with rfl | htail
          · simp [hc] at hhead
          · exact htail
        rw [← List.nil_append (head :: tail), words_append hhead]
        exact ih htail
      · obtain ⟨piece, others, hpieces⟩ :=
          List.exists_cons_of_ne_nil (splitWhere_ne_nil isBlank tail)
        rw [words, fields, splitWhere, if_neg hhead, hpieces]
        simp

/-- A text that is one word. -/
def isUnbroken (text : List Char) : Bool :=
  !text.isEmpty && text.all fun c => !isBlank c

theorem words_eq_singleton (h : isUnbroken word = true) : words word = [word] := by
  obtain ⟨hne, hblank⟩ := Bool.and_eq_true_iff.mp h
  have hnone : ∀ c ∈ word, isBlank c = false := by simpa using hblank
  rw [words, fields, splitWhere_eq_singleton hnone]
  simp only [List.filter_cons, hne, if_true, List.filter_nil]

theorem isUnbroken_of_mem_words (h : word ∈ words text) : isUnbroken word = true := by
  obtain ⟨hpiece, hne⟩ := List.mem_filter.mp h
  have hblank : ∀ c ∈ word, isBlank c = false := fun c hc => separates_of_mem_splitWhere hpiece hc
  rw [isUnbroken, hne, Bool.true_and, List.all_eq_true]
  simpa using hblank

theorem mem_of_mem_words (h : word ∈ words text) (hc : c ∈ word) : c ∈ text :=
  mem_of_mem_splitWhere (List.mem_filter.mp h).1 hc

/-- What stands between two blanks is a word. -/
theorem mem_words_of_spaced (h : isUnbroken word = true)
    (hspaced : ' ' :: word ++ [' '] <:+: text) :
    word ∈ words text := by
  have hblank : isBlank ' ' = true := by decide
  obtain ⟨before, after, htext⟩ := hspaced
  have hparts : text = before ++ ' ' :: (word ++ ' ' :: after) := by
    rw [← htext]
    simp
  rw [hparts, words_append hblank, words_append hblank, words_eq_singleton h]
  simp

theorem not_mem_of_isBlank (h : isUnbroken word = true) (hc : isBlank c = true) : c ∉ word := by
  intro hmem
  have hsolid := List.all_eq_true.mp (Bool.and_eq_true_iff.mp h).2 c hmem
  rw [hc] at hsolid
  cases hsolid

section UpToWord

variable (h : isUnbroken word = true) (hc : isBlank c = true)
  (hnone : ¬(' ' :: word ++ [' ']) <:+: left ++ [c])

include h hc hnone

/-- A word with single blanks around it that is not in the text up to a blank does not begin before
that blank. -/
theorem not_prefix_of_isBlank {later : List Char} (hne : later ≠ []) (hlater : later <:+ left)
    (right : List Char) : ¬(' ' :: word ++ [' ']) <+: later ++ c :: right := by
  intro hprefix
  obtain ⟨first, others, rfl⟩ := List.exists_cons_of_ne_nil hne
  obtain ⟨rfl, hothers⟩ : ' ' = first ∧ word ++ [' '] <+: others ++ c :: right :=
    List.cons_prefix_cons.mp hprefix
  obtain ⟨more, rfl⟩ := prefix_of_prefix_append_cons (not_mem_of_isBlank h hc)
    ((List.prefix_append word [' ']).trans hothers)
  -- the blank after the word is at most the one that ends the text
  have hend : [' '] <+: more ++ [c] := by
    rw [List.append_assoc, List.prefix_append_right_inj] at hothers
    exact List.prefix_of_prefix_length_le hothers ⟨right, by simp⟩ (by simp)
  obtain ⟨front, rfl⟩ := hlater
  obtain ⟨after, hafter⟩ := hend
  exact hnone ⟨front, after, by simp [hafter]⟩

theorem upTo_spaced_word (hspace : c = ' ') (rest : List Char) :
    upTo (' ' :: word ++ [' ']) (left ++ c :: (word ++ ' ' :: rest)) = left := by
  have hfragment : c :: (word ++ ' ' :: rest) = (' ' :: word ++ [' ']) ++ rest := by
    simp [hspace]
  rw [upTo_append_of_no_occurrence fun later hne hlater =>
    not_prefix_of_isBlank h hc hnone hne hlater _, hfragment,
    upTo_fragment_append (by simp), List.append_nil]

theorem upTo_other_word {rest : List Char} (hother : ¬(c = ' ' ∧ rest.head? = some ' ')) :
    upTo (' ' :: word ++ [' ']) (left ++ c :: (word ++ rest)) =
      left ++ c :: (word ++ upTo (' ' :: word ++ [' ']) rest) := by
  have hhere : ¬(' ' :: word ++ [' ']) <+: [c] ++ (word ++ rest) := by
    intro hprefix
    obtain ⟨rfl, hrest⟩ := List.cons_prefix_cons.mp hprefix
    obtain ⟨after, rfl⟩ := (List.prefix_append_right_inj word).mp hrest
    exact hother ⟨rfl, rfl⟩
  have hlast : upTo (' ' :: word ++ [' ']) (c :: (word ++ rest)) =
      [c] ++ upTo (' ' :: word ++ [' ']) (word ++ rest) := by
    refine @upTo_append_of_no_occurrence _ (word ++ rest) [c] fun later hne hlater => ?_
    rcases List.suffix_cons_iff.mp hlater with rfl | hnil
    · exact hhere
    · exact absurd (List.suffix_nil.mp hnil) hne
  have hword : upTo (' ' :: word ++ [' ']) (word ++ rest) =
      word ++ upTo (' ' :: word ++ [' ']) rest :=
    upTo_append_left (not_mem_of_isBlank h (by decide)) rest
  rw [upTo_append_of_no_occurrence fun later hne hlater =>
    not_prefix_of_isBlank h hc hnone hne hlater _, hlast, hword]
  rfl

end UpToWord

/-! ### Trimming -/

/-- Only blanks before a character that is not blank are trimmed away at the start. -/
theorem trimStart_append_cons (hc : isBlank c = false) (text rest : List Char) :
    trimStart (text ++ c :: rest) = trimStart text ++ c :: rest := by
  rw [trimStart, List.dropWhile_append, List.dropWhile_cons_of_neg (by simp [hc])]
  split
  · next hblank => rw [trimStart, List.isEmpty_iff.mp hblank, List.nil_append]
  · rfl

theorem trimStart_blanks_append {blanks : List Char} (h : ∀ c ∈ blanks, isBlank c = true)
    (hc : isBlank c = false) (rest : List Char) : trimStart (blanks ++ c :: rest) = c :: rest := by
  rw [trimStart_append_cons hc, trimStart, List.dropWhile_eq_nil_iff.mpr h, List.nil_append]

theorem trim_cons_of_isBlank (hc : isBlank c = true) (text : List Char) :
    trim (c :: text) = trim text := by
  rw [trim, trimStart, List.dropWhile_cons_of_pos hc]
  rfl

theorem trimEnd_append_of_isBlank (hc : isBlank c = true) (text : List Char) :
    trimEnd (text ++ [c]) = trimEnd text := by
  rw [trimEnd, List.reverse_append, List.reverse_singleton, List.singleton_append,
    List.dropWhile_cons_of_pos hc]
  rfl

theorem trim_append_of_isBlank (hc : isBlank c = true) (text : List Char) :
    trim (text ++ [c]) = trim text := by
  rw [trim, trim, trimStart, trimStart, List.dropWhile_append]
  split
  · next hblank =>
    rw [List.isEmpty_iff.mp hblank, List.dropWhile_cons_of_pos hc]
    rfl
  · exact trimEnd_append_of_isBlank hc _

theorem trim_append_blanks {blanks : List Char} (h : ∀ c ∈ blanks, isBlank c = true)
    (text : List Char) : trim (text ++ blanks) = trim text := by
  induction blanks generalizing text with
  | nil => rw [List.append_nil]
  | cons c rest ih =>
      obtain ⟨hc, hrest⟩ := List.forall_mem_cons.mp h
      rw [List.append_cons, ih hrest, trim_append_of_isBlank hc]

theorem trimEnd_prefix_self (text : List Char) : trimEnd text <+: text := by
  rw [trimEnd, ← List.reverse_suffix, List.reverse_reverse]
  exact List.dropWhile_suffix isBlank

theorem trim_sublist (text : List Char) : (trim text).Sublist text :=
  (trimEnd_prefix_self _).sublist.trans (List.dropWhile_suffix isBlank).sublist

theorem trim_subset (text : List Char) : trim text ⊆ text :=
  (trim_sublist text).subset

theorem trim_append_of_forall_isBlank {blanks : List Char} (h : ∀ c ∈ blanks, isBlank c = true)
    (text : List Char) : trim (blanks ++ text) = trim text := by
  induction blanks with
  | nil => rfl
  | cons c rest ih =>
      obtain ⟨hc, hrest⟩ := List.forall_mem_cons.mp h
      rw [List.cons_append, trim_cons_of_isBlank hc, ih hrest]

/-- What is trimmed away is blank. -/
theorem exists_blanks_trim (text : List Char) :
    ∃ before after, text = before ++ trim text ++ after ∧
      (∀ c ∈ before, isBlank c = true) ∧ ∀ c ∈ after, isBlank c = true := by
  refine ⟨text.takeWhile isBlank, ((trimStart text).reverse.takeWhile isBlank).reverse, ?_,
    fun c hc => List.mem_takeWhile_imp hc, fun c hc => ?_⟩
  · have hend : trimEnd (trimStart text) ++ ((trimStart text).reverse.takeWhile isBlank).reverse =
        trimStart text := by
      rw [trimEnd, ← List.reverse_append, List.takeWhile_append_dropWhile, List.reverse_reverse]
    rw [trim, List.append_assoc, hend, trimStart, List.takeWhile_append_dropWhile]
  · exact List.mem_takeWhile_imp (List.mem_reverse.mp hc)

/-- Characters that are not blank are not trimmed away. -/
theorem filter_trim {p : Char → Bool} (h : ∀ c, isBlank c = true → p c = false)
    (text : List Char) : (trim text).filter p = text.filter p := by
  have hnone {blanks : List Char} (hblanks : ∀ c ∈ blanks, isBlank c = true) :
      blanks.filter p = [] :=
    List.filter_eq_nil_iff.mpr fun c hc => Bool.eq_false_iff.mp (h c (hblanks c hc))
  obtain ⟨before, after, htext, hbefore, hafter⟩ := exists_blanks_trim text
  conv_rhs => rw [htext]
  simp [List.filter_append, hnone hbefore, hnone hafter]

theorem trim_prefix_of_isBlank_eq_false (hc : isBlank c = false) (rest : List Char) :
    trim (c :: rest) <+: c :: rest := by
  rw [trim, trimStart, List.dropWhile_cons_of_neg (by simp [hc])]
  exact trimEnd_prefix_self _

theorem trimEnd_append_of_isBlank_eq_false (hc : isBlank c = false) (text : List Char) :
    trimEnd (text ++ [c]) = text ++ [c] := by
  rw [trimEnd, List.reverse_append, List.reverse_singleton, List.singleton_append,
    List.dropWhile_cons_of_neg (by simp [hc]), List.reverse_cons, List.reverse_reverse]

theorem trimEnd_append_cons (hc : isBlank c = false) (text rest : List Char) :
    trimEnd (text ++ c :: rest) = text ++ c :: trimEnd rest := by
  have hstart := trimStart_append_cons hc rest.reverse text.reverse
  rw [trimStart] at hstart
  rw [trimEnd, List.reverse_append, List.reverse_cons, List.append_assoc, List.singleton_append,
    hstart]
  simp [trimEnd, trimStart]

/-- A text without blanks at its ends is trimmed already. -/
theorem trim_of_ends (hfirst : ∀ c, text.head? = some c → isBlank c = false)
    (hlast : ∀ c, text.getLast? = some c → isBlank c = false) : trim text = text := by
  have hstart {line : List Char} (hline : ∀ c, line.head? = some c → isBlank c = false) :
      line.dropWhile isBlank = line := by
    cases line with
    | nil => rfl
    | cons c rest => exact List.dropWhile_cons_of_neg (by simp [hline c rfl])
  have hreverse : ∀ c, text.reverse.head? = some c → isBlank c = false := by
    rwa [List.head?_reverse]
  rw [trim, trimStart, hstart hfirst, trimEnd, hstart hreverse, List.reverse_reverse]

theorem trim_eq_self {last : Char} (hc : isBlank c = false) (hlast : isBlank last = false)
    (between : List Char) : trim (c :: (between ++ [last])) = c :: (between ++ [last]) := by
  refine trim_of_ends (fun other hother => ?_) (fun other hother => ?_)
  · obtain rfl : c = other := by simpa using hother
    exact hc
  · rw [← List.cons_append, List.getLast?_concat, Option.some.injEq] at hother
    exact hother ▸ hlast

theorem trim_eq_self_iff :
    trim text = text ↔ (∀ c, text.head? = some c → isBlank c = false) ∧
      ∀ c, text.getLast? = some c → isBlank c = false := by
  refine ⟨fun h => ⟨fun c hc => ?_, fun c hc => ?_⟩,
    fun ⟨hfirst, hlast⟩ => trim_of_ends hfirst hlast⟩
  -- a blank at an end would be trimmed away, so that the text would be shorter
  · obtain ⟨rest, rfl⟩ := List.head?_eq_some_iff.mp hc
    refine Bool.eq_false_iff.mpr fun hblank => ?_
    have hshorter := (trim_sublist rest).length_le
    rw [← trim_cons_of_isBlank hblank, h, List.length_cons] at hshorter
    omega
  · obtain ⟨front, rfl⟩ := List.getLast?_eq_some_iff.mp hc
    refine Bool.eq_false_iff.mpr fun hblank => ?_
    have hshorter := (trim_sublist front).length_le
    rw [← trim_append_of_isBlank hblank, h, List.length_append, List.length_singleton] at hshorter
    omega

/-- A fragment without blanks at its ends lies between the blanks that are trimmed away. -/
theorem infix_trim {fragment : List Char} (htrimmed : trim fragment = fragment)
    (h : fragment <:+: text) : fragment <:+: trim text := by
  obtain ⟨before, after, rfl⟩ := h
  obtain ⟨hfirst, hlast⟩ := trim_eq_self_iff.mp htrimmed
  rcases List.eq_nil_or_concat' fragment with rfl | ⟨front, last, rfl⟩
  · exact List.nil_infix
  · obtain ⟨first, rest, hfragment⟩ := List.exists_cons_of_ne_nil
      (List.append_ne_nil_of_right_ne_nil front (List.cons_ne_nil last []))
    have hstart : trimStart (before ++ (front ++ [last]) ++ after) =
        trimStart before ++ front ++ last :: after := by
      rw [hfragment, List.append_assoc, List.cons_append,
        trimStart_append_cons (hfirst first (by simp [hfragment])), ← List.cons_append, ← hfragment]
      simp
    rw [trim, hstart, trimEnd_append_cons (hlast last (by simp))]
    exact ⟨trimStart before, trimEnd after, by simp⟩

theorem trim_of_forall_isBlank_eq_false (h : ∀ c ∈ text, isBlank c = false) : trim text = text :=
  trim_of_ends (fun c hc => h c (List.mem_of_mem_head? hc))
    (fun c hc => h c (List.mem_of_mem_getLast? hc))

theorem trim_trim (text : List Char) : trim (trim text) = trim text := by
  have hend : trimEnd (trimEnd (trimStart text)) = trimEnd (trimStart text) :=
    List.rdropWhile_idempotent isBlank _
  have hstart : trimStart (trimEnd (trimStart text)) = trimEnd (trimStart text) := by
    have hprefix := trimEnd_prefix_self (trimStart text)
    cases hkept : trimEnd (trimStart text) with
    | nil => rfl
    | cons c rest =>
        -- the first character that is kept is the first one that is no blank
        obtain ⟨more, hmore⟩ := hkept ▸ hprefix
        have hhead := List.head?_dropWhile_not isBlank text
        rw [← trimStart, ← hmore] at hhead
        refine List.dropWhile_cons_of_neg ?_
        simpa using hhead
  rw [trim, trim, hstart, hend]

/-- A last character that is not blank stays the last one. -/
theorem exists_trim_append_eq (hc : isBlank c = false) (text : List Char) :
    ∃ kept, trim (text ++ [c]) = kept ++ [c] := by
  refine ⟨trimStart text, ?_⟩
  rw [trim, trimStart_append_cons hc, trimEnd_append_of_isBlank_eq_false hc]

/-! ### Tokens -/

theorem tokens_blank (hc : isBlank c = true) (hword : isWordChar c = false) (rest : List Char) :
    tokens (c :: rest) = .blank :: tokens rest := by
  rw [tokens, hword, hc]
  rfl

theorem joinWord_tokens (hc : isWordChar c = false) (first : Char) (rest : List Char) :
    Token.joinWord first (tokens (c :: rest)) = .word [first] :: tokens (c :: rest) := by
  rw [tokens, hc]
  simp only [Bool.false_eq_true, if_false]
  split <;> rfl

/-- A run of word characters is one token when no word character follows it. -/
theorem tokens_word (hne : word ≠ []) (hword : ∀ c ∈ word, isWordChar c = true)
    (hc : isWordChar c = false) (rest : List Char) :
    tokens (word ++ c :: rest) = .word word :: tokens (c :: rest) := by
  induction word with
  | nil => exact absurd rfl hne
  | cons first later ih =>
      obtain ⟨hfirst, hlater⟩ := List.forall_mem_cons.mp hword
      rw [List.cons_append, tokens, if_pos hfirst]
      by_cases hlast : later = []
      · subst hlast
        exact joinWord_tokens hc first rest
      · rw [ih hlast hlater]
        rfl

/-- The tokens of two texts stand side by side when a character between them ends a word. -/
theorem tokens_append (hc : isWordChar c = false) (left right : List Char) :
    tokens (left ++ c :: right) = tokens left ++ tokens (c :: right) := by
  induction left with
  | nil => rfl
  | cons head tail ih =>
      have hjoin : Token.joinWord head (tokens tail ++ tokens (c :: right)) =
          Token.joinWord head (tokens tail) ++ tokens (c :: right) := by
        cases htail : tokens tail with
        | nil =>
            rw [List.nil_append, joinWord_tokens hc]
            rfl
        | cons first others => cases first <;> rfl
      rw [List.cons_append, tokens, tokens, ih, hjoin]
      split_ifs <;> rfl

theorem tokens_append_of_getLast? (hlast : ∀ c, left.getLast? = some c → isWordChar c = false)
    (right : List Char) : tokens (left ++ right) = tokens left ++ tokens right := by
  rcases List.eq_nil_or_concat left with rfl | ⟨front, last, rfl⟩
  · rfl
  · rw [List.concat_eq_append] at hlast ⊢
    have hend : isWordChar last = false := hlast last (by simp)
    have hsingle : tokens (last :: right) = tokens [last] ++ tokens right := by
      simp only [tokens, hend, Bool.false_eq_true, if_false]
      split <;> rfl
    rw [List.append_assoc, List.singleton_append, tokens_append hend, tokens_append hend, hsingle,
      List.append_assoc]

end Understudy.Text
