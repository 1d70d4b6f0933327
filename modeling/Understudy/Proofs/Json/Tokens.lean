import Mathlib.Data.List.Forall2
import Understudy.Json.Reader
import Understudy.Proofs.Text.Utf8

/-!
# The tokens of an indented text

Every value has its tokens. `Json.reads_prettyAt` says that the reader finds just these in the
indented text of a well-formed value, at any depth and before anything that ends a word: blanks
between tokens are passed over, and what is written between quotes is read back code point by code
point.
-/

namespace Understudy.Json

variable {c : Char} {rest : List Char} {codes : List Nat} {code : Nat} {token : Token}

mutual

/-- Strings and keys are texts, and numbers are written as one word. -/
def WellFormed : Json → Prop
  | .null => True
  | .bool _ => True
  | .number literal =>
      isNumber literal.toList = true ∧ ∀ c ∈ literal.toList, endsWord c = false
  | .string codes => ∀ code ∈ codes, code.isValidChar
  | .array items => ItemsWellFormed items
  | .object entries => EntriesWellFormed entries

def ItemsWellFormed : List Json → Prop
  | [] => True
  | item :: rest => WellFormed item ∧ ItemsWellFormed rest

def EntriesWellFormed : List (List Nat × Json) → Prop
  | [] => True
  | (key, value) :: rest =>
      (∀ code ∈ key, code.isValidChar) ∧ WellFormed value ∧ EntriesWellFormed rest

end

mutual

def tokensOf : Json → List Token
  | .array items =>
      .openArray :: ([Token.comma].intercalate (tokensOfItems items) ++ [.closeArray])
  | .object entries =>
      .openObject :: ([Token.comma].intercalate (tokensOfEntries entries) ++ [.closeObject])
  | value => [.atom value]

def tokensOfItems : List Json → List (List Token)
  | [] => []
  | item :: rest => tokensOf item :: tokensOfItems rest

def tokensOfEntries : List (List Nat × Json) → List (List Token)
  | [] => []
  | (key, value) :: rest =>
      (.atom (.string key) :: .colon :: tokensOf value) :: tokensOfEntries rest

end

theorem Mode.read_cons {mode next : Mode} {done : List Token}
    (h : mode.advance c = some (done, next)) (rest : List Char) :
    mode.read (c :: rest) = (next.read rest).map (done ++ ·) := by
  rw [Mode.read, h]
  change (next.read rest).bind (fun tokens => some (done ++ tokens)) = _
  rw [Option.map_eq_bind]
  rfl

theorem Mode.read_cons_nil {mode : Mode} (next : Mode) (h : mode.advance c = some ([], next))
    (rest : List Char) : mode.read (c :: rest) = next.read rest := by
  rw [Mode.read_cons h]
  exact Option.map_id'

theorem read_blanks {blanks : List Char} (h : ∀ c ∈ blanks, isJsonBlank c = true)
    (rest : List Char) : Mode.between.read (blanks ++ rest) = Mode.between.read rest := by
  induction blanks with
  | nil => rfl
  | cons c others ih =>
      obtain ⟨hc, hothers⟩ := List.forall_mem_cons.mp h
      have hstep : Mode.between.advance c = some ([], .between) := by
        simp [Mode.advance, enter, hc]
      rw [List.cons_append, Mode.read_cons_nil _ hstep, ih hothers]

/-- Nothing follows that would make a word longer. -/
def BreaksWord (rest : List Char) : Prop :=
  ∀ c ∈ rest.head?, endsWord c = true

theorem breaksWord_cons (h : endsWord c = true) (rest : List Char) : BreaksWord (c :: rest) := by
  rintro _ ⟨⟩
  exact h

theorem read_word_append (text : List Char) {more : List Char}
    (h : ∀ c ∈ more, endsWord c = false) (rest : List Char) :
    (Mode.word text).read (more ++ rest) = (Mode.word (text ++ more)).read rest := by
  induction more generalizing text with
  | nil => simp
  | cons c others ih =>
      obtain ⟨hc, hothers⟩ := List.forall_mem_cons.mp h
      have hstep : (Mode.word text).advance c = some ([], .word (text ++ [c])) := by
        simp [Mode.advance, hc]
      rw [List.cons_append, Mode.read_cons_nil _ hstep, ih _ hothers]
      simp

theorem read_word_of_breaksWord {text : List Char} (hword : word? text = some token)
    (hrest : BreaksWord rest) :
    (Mode.word text).read rest = (Mode.between.read rest).map (token :: ·) := by
  cases rest with
  | nil => simp [Mode.read, hword]
  | cons c others =>
      have hends : endsWord c = true := hrest c rfl
      have hstep : (Mode.word text).advance c = some (token :: (enter c).1, (enter c).2) := by
        simp [Mode.advance, hends, hword]
      have hbetween : Mode.between.advance c = some ((enter c).1, (enter c).2) := rfl
      rw [Mode.read_cons hstep, Mode.read_cons hbetween]
      cases (enter c).2.read others <;> rfl

/-- A text is read as some tokens, whatever follows that ends a word. -/
def Reads (text : List Char) (tokens : List Token) : Prop :=
  ∀ rest, BreaksWord rest →
    Mode.between.read (text ++ rest) = (Mode.between.read rest).map (tokens ++ ·)

theorem endsWord_of_isAlphanum {c : Char} (h : c.isAlphanum = true) : endsWord c = false := by
  have hne (d : Char) (hd : d.isAlphanum = false) : (c == d) = false :=
    beq_eq_false_iff_ne.mpr fun heq => Bool.false_ne_true (hd.symm.trans (heq ▸ h))
  simp [endsWord, isJsonBlank, punctuation?, hne]

theorem reads_word (text : List Char) (hchars : ∀ c ∈ text, endsWord c = false)
    (hempty : text ≠ []) (hword : word? text = some token) : Reads text [token] := by
  intro rest hrest
  obtain ⟨c, others, rfl⟩ := List.exists_cons_of_ne_nil hempty
  obtain ⟨hc, hothers⟩ := List.forall_mem_cons.mp hchars
  simp only [endsWord, Bool.or_eq_false_iff, Option.isSome_eq_false_iff, Option.isNone_iff_eq_none]
    at hc
  have hstep : Mode.between.advance c = some ([], .word [c]) := by
    simp [Mode.advance, enter, hc]
  rw [List.cons_append, Mode.read_cons_nil _ hstep, read_word_append _ hothers,
    List.singleton_append, read_word_of_breaksWord hword hrest]
  rfl

/-! ### Strings -/

theorem pushCode_of_isValidChar (h : code.isValidChar) (codes : List Nat) :
    pushCode codes code = codes ++ [code] := by
  have hlow : isLowSurrogate code = false := by
    simp only [isLowSurrogate, Nat.isValidChar] at h ⊢
    simp only [Bool.and_eq_false_iff, decide_eq_false_iff_not]
    omega
  rw [pushCode]
  split
  · simp [hlow]
  · next hnone => rw [List.getLast?_eq_none_iff.mp hnone, List.nil_append]

theorem hexValue?_hexDigit (h : code < 16) : hexValue? (hexDigit code) = some code := by
  revert code
  decide

/-- Four digits of an escape are read back as the code point. -/
theorem read_unicodeEscape (h : code.isValidChar) (hsmall : code < 0x10000) (codes : List Nat)
    (rest : List Char) :
    (Mode.string codes).read (unicodeEscape code ++ rest) =
      (Mode.string (codes ++ [code])).read rest := by
  have hdigit (place : Nat) :
      hexValue? (hexDigit (code / place % 16)) = some (code / place % 16) :=
    hexValue?_hexDigit (Nat.mod_lt _ (by decide))
  have hlast : hexValue? (hexDigit (code % 16)) = some (code % 16) :=
    hexValue?_hexDigit (Nat.mod_lt _ (by decide))
  have hvalue : (((0 * 16 + code / 0x1000 % 16) * 16 + code / 0x100 % 16) * 16 +
      code / 0x10 % 16) * 16 + code % 16 = code := by
    omega
  have hcodes : (Mode.hex codes
      (((0 * 16 + code / 0x1000 % 16) * 16 + code / 0x100 % 16) * 16 + code / 0x10 % 16) 1).advance
        (hexDigit (code % 16)) = some ([], .string (codes ++ [code])) := by
    simp only [Mode.advance, hlast, Option.bind_eq_bind, Option.bind_some, hvalue,
      pushCode_of_isValidChar h]
    rfl
  have hhex (value owed place : Nat) (howed : ¬owed ≤ 1) :
      (Mode.hex codes value owed).advance (hexDigit (code / place % 16)) =
        some ([], .hex codes (value * 16 + code / place % 16) (owed - 1)) := by
    simp only [Mode.advance, hdigit, Option.bind_eq_bind, Option.bind_some, if_neg howed]
    rfl
  simp only [unicodeEscape, List.cons_append, List.nil_append]
  rw [Mode.read_cons_nil (.escape codes) rfl, Mode.read_cons_nil (.hex codes 0 4) rfl,
    Mode.read_cons_nil _ (hhex _ _ _ (by decide)), Mode.read_cons_nil _ (hhex _ _ _ (by decide)),
    Mode.read_cons_nil _ (hhex _ _ _ (by decide)), Mode.read_cons_nil _ hcodes]

theorem read_letterEscape (h : code.isValidChar) (hu : c ≠ 'u')
    (hletter : letterEscape? c = some code) (codes : List Nat) (rest : List Char) :
    (Mode.string codes).read ('\\' :: c :: rest) = (Mode.string (codes ++ [code])).read rest := by
  have hescape : (Mode.escape codes).advance c = some ([], .string (codes ++ [code])) := by
    simp [Mode.advance, hu, hletter, pushCode_of_isValidChar h]
  rw [Mode.read_cons_nil (.escape codes) rfl, Mode.read_cons_nil _ hescape]

/-- A code point is read back from what is written for it. -/
theorem read_written (h : code.isValidChar) (codes : List Nat) (rest : List Char) :
    (Mode.string codes).read (written code ++ rest) =
      (Mode.string (codes ++ [code])).read rest := by
  unfold written
  split_ifs with hquote hbackslash hb ht hn hf hr hcontrol
  · exact read_letterEscape h (by decide) (by rw [eq_of_beq hquote]; rfl) codes rest
  · exact read_letterEscape h (by decide) (by rw [eq_of_beq hbackslash]; rfl) codes rest
  · exact read_letterEscape h (by decide) (by rw [eq_of_beq hb]; rfl) codes rest
  · exact read_letterEscape h (by decide) (by rw [eq_of_beq ht]; rfl) codes rest
  · exact read_letterEscape h (by decide) (by rw [eq_of_beq hn]; rfl) codes rest
  · exact read_letterEscape h (by decide) (by rw [eq_of_beq hf]; rfl) codes rest
  · exact read_letterEscape h (by decide) (by rw [eq_of_beq hr]; rfl) codes rest
  · have hsmall : code < 0x20 := by simpa [h] using hcontrol
    exact read_unicodeEscape h (Nat.lt_trans hsmall (by decide)) codes rest
  · -- the character stands for itself, as it is neither a quote nor a backslash nor a control
    have htoNat : (Char.ofNat code).toNat = code := Text.Utf8.toNat_ofNat_of_valid h
    have hne (d : Char) (hd : (code == d.toNat) = false) : (Char.ofNat code == d) = false := by
      refine beq_eq_false_iff_ne.mpr fun heq => ?_
      rw [← heq, htoNat] at hd
      simp at hd
    have hstep : (Mode.string codes).advance (Char.ofNat code) =
        some ([], .string (codes ++ [code])) := by
      have hlarge : ¬code < 0x20 := fun hlt => hcontrol (by simp [hlt])
      simp only [Mode.advance, hne '"' (Bool.eq_false_iff.mpr hquote),
        hne '\\' (Bool.eq_false_iff.mpr hbackslash), htoNat, if_neg hlarge,
        pushCode_of_isValidChar h, Bool.false_eq_true, if_false]
    rw [List.singleton_append, Mode.read_cons_nil _ hstep]

theorem read_flatMap_written (h : ∀ code ∈ codes, code.isValidChar) (done : List Nat)
    (rest : List Char) :
    (Mode.string done).read (codes.flatMap written ++ rest) =
      (Mode.string (done ++ codes)).read rest := by
  induction codes generalizing done with
  | nil => simp
  | cons code others ih =>
      obtain ⟨hcode, hothers⟩ := List.forall_mem_cons.mp h
      rw [List.flatMap_cons, List.append_assoc, read_written hcode, ih hothers, List.append_assoc,
        List.singleton_append]

theorem reads_quoted (h : ∀ code ∈ codes, code.isValidChar) :
    Reads (quoted codes).toList [.atom (.string codes)] := by
  intro rest _
  have hopen : Mode.between.advance '"' = some ([], .string []) := rfl
  have hclose : (Mode.string codes).advance '"' = some ([.atom (.string codes)], .between) := rfl
  have htext : (quoted codes).toList ++ rest =
      '"' :: (codes.flatMap written ++ '"' :: rest) := by
    simp [quoted, String.toList_append]
  rw [htext, Mode.read_cons_nil _ hopen, read_flatMap_written h, List.nil_append,
    Mode.read_cons hclose]

theorem indent_blank (level : Nat) : ∀ c ∈ (indent level).toList, isJsonBlank c = true := by
  intro c hc
  rw [indent, String.toList_ofList] at hc
  rw [List.eq_of_mem_replicate hc]
  rfl

theorem read_punctuation (token : Token) (h : Mode.between.advance c = some ([token], .between))
    (rest : List Char) :
    Mode.between.read (c :: rest) = (Mode.between.read rest).map (token :: ·) :=
  Mode.read_cons h rest

/-- Items on lines of their own are read with commas between them. -/
theorem read_separated (level : Nat) {texts : List String} {groups : List (List Token)}
    (h : List.Forall₂ (fun text tokens => Reads text.toList tokens) texts groups)
    (hne : texts ≠ []) (hrest : BreaksWord rest) :
    Mode.between.read ((",\n".intercalate (texts.map (indent level ++ ·))).toList ++ rest) =
      (Mode.between.read rest).map ([Token.comma].intercalate groups ++ ·) := by
  induction h with
  | nil => exact absurd rfl hne
  | @cons text tokens texts groups hfirst hothers ih =>
      rcases eq_or_ne texts [] with rfl | htexts
      · obtain rfl := List.forall₂_nil_left_iff.mp hothers
        simp only [List.map_cons, List.map_nil, String.intercalate_singleton,
          String.toList_append, List.append_assoc, List.intercalate_singleton]
        rw [read_blanks (indent_blank level), hfirst rest hrest]
      · have hgroups : groups ≠ [] := by
          rintro rfl
          exact htexts (List.forall₂_nil_right_iff.mp hothers)
        have hcomma : (",\n" : String).toList = [',', '\n'] := rfl
        rw [List.map_cons, String.intercalate_cons_of_ne_nil (by simpa using htexts),
          List.intercalate_cons_of_ne_nil hgroups]
        simp only [String.toList_append, List.append_assoc, hcomma, List.cons_append,
          List.nil_append]
        rw [read_blanks (indent_blank level), hfirst _ (breaksWord_cons rfl _),
          read_punctuation .comma rfl, Mode.read_cons_nil .between rfl,
          ih htexts, Option.map_map, Option.map_map]
        rfl

/-- What stands between brackets is read as the opening bracket, the items and the closing one. -/
theorem reads_enclose (level : Nat) {opening closing : String} {left right : Char}
    {first last : Token} (hleft : opening.toList = [left]) (hright : closing.toList = [right])
    (hfirst : Mode.between.advance left = some ([first], .between))
    (hlast : Mode.between.advance right = some ([last], .between))
    {texts : List String} {groups : List (List Token)}
    (h : List.Forall₂ (fun text tokens => Reads text.toList tokens) texts groups) :
    Reads (enclose opening closing level texts).toList
      (first :: ([Token.comma].intercalate groups ++ [last])) := by
  intro rest _
  rcases eq_or_ne texts [] with rfl | htexts
  · obtain rfl := List.forall₂_nil_left_iff.mp h
    simp only [enclose, String.toList_append, hleft, hright, List.cons_append, List.nil_append]
    rw [read_punctuation _ hfirst, read_punctuation _ hlast, Option.map_map]
    rfl
  · have htext : (enclose opening closing level texts).toList ++ rest =
        left :: '\n' :: ((",\n".intercalate (texts.map (indent (level + 1) ++ ·))).toList ++
          ('\n' :: ((indent level).toList ++ right :: rest))) := by
      obtain ⟨text, others, rfl⟩ := List.exists_cons_of_ne_nil htexts
      simp [enclose, String.toList_append, hleft, hright]
    rw [htext, read_punctuation _ hfirst, Mode.read_cons_nil .between rfl,
      read_separated _ h htexts (breaksWord_cons rfl _), Mode.read_cons_nil .between rfl,
      read_blanks (indent_blank level), read_punctuation _ hlast, Option.map_map, Option.map_map]
    simp [Function.comp_def]

theorem reads_entry {key : List Nat} {text : String} {tokens : List Token}
    (hkey : ∀ code ∈ key, code.isValidChar) (h : Reads text.toList tokens) :
    Reads (quoted key ++ ": " ++ text).toList (.atom (.string key) :: .colon :: tokens) := by
  intro rest hrest
  have hcolon : (": " : String).toList = [':', ' '] := rfl
  simp only [String.toList_append, List.append_assoc, hcolon, List.cons_append, List.nil_append]
  rw [reads_quoted hkey _ (breaksWord_cons rfl _), read_punctuation .colon rfl,
    Mode.read_cons_nil .between rfl, h rest hrest, Option.map_map, Option.map_map]
  rfl

theorem reads_bool (value : Bool) :
    Reads (if value then "true" else "false").toList [.atom (.bool value)] := by
  cases value
  · exact reads_word "false".toList (by simp [endsWord_of_isAlphanum]) (by decide) rfl
  · exact reads_word "true".toList (by simp [endsWord_of_isAlphanum]) (by decide) rfl

theorem reads_number {literal : String} (hnumber : isNumber literal.toList = true)
    (hchars : ∀ c ∈ literal.toList, endsWord c = false) :
    Reads literal.toList [.atom (.number literal)] := by
  -- a number is none of the words with a meaning of their own, and not empty
  have hne (word : List Char) (hword : isNumber word = false) : literal.toList ≠ word :=
    fun heq => Bool.false_ne_true (hword.symm.trans (heq ▸ hnumber))
  refine reads_word _ hchars (hne _ rfl) ?_
  simp only [word?, beq_eq_false_iff_ne.mpr (hne "null".toList rfl),
    beq_eq_false_iff_ne.mpr (hne "true".toList rfl),
    beq_eq_false_iff_ne.mpr (hne "false".toList rfl), hnumber, if_true,
    Bool.false_eq_true, if_false, String.ofList_toList]

mutual

/-- **The tokens of an indented text** are those of the value. -/
theorem reads_prettyAt (level : Nat) :
    (value : Json) → value.WellFormed → Reads (prettyAt level value).toList (tokensOf value)
  | .null, _ => reads_word "null".toList (by simp [endsWord_of_isAlphanum]) (by decide) rfl
  | .bool value, _ => reads_bool value
  | .number _, h => reads_number h.1 h.2
  | .string _, h => reads_quoted h
  | .array items, h => by
      rw [prettyAt, tokensOf]
      exact reads_enclose level rfl rfl rfl rfl (reads_prettyItems (level + 1) items h)
  | .object entries, h => by
      rw [prettyAt, tokensOf]
      exact reads_enclose level rfl rfl rfl rfl (reads_prettyEntries (level + 1) entries h)

theorem reads_prettyItems (level : Nat) :
    (items : List Json) → ItemsWellFormed items →
      List.Forall₂ (fun text tokens => Reads text.toList tokens) (prettyItems level items)
        (tokensOfItems items)
  | [], _ => .nil
  | item :: rest, h => .cons (reads_prettyAt level item h.1) (reads_prettyItems level rest h.2)

theorem reads_prettyEntries (level : Nat) :
    (entries : List (List Nat × Json)) → EntriesWellFormed entries →
      List.Forall₂ (fun text tokens => Reads text.toList tokens) (prettyEntries level entries)
        (tokensOfEntries entries)
  | [], _ => .nil
  | (_, value) :: rest, h =>
      .cons (reads_entry h.1 (reads_prettyAt level value h.2.1))
        (reads_prettyEntries level rest h.2.2)

end

end Understudy.Json
