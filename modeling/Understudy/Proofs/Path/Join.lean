import Understudy.Path
import Understudy.Proofs.Text.Words

/-!
# Paths below a directory

Joining the name of an entry to the path of a directory adds one component, whether or not the path
ends in a slash. So a path below a directory is known by the components of the directory and the
names that lead to it.
-/

namespace Understudy.Path

open Text

/-- What an entry of a directory can be called. -/
structure IsEntryName (name : String) : Prop where
  ne_empty : name ≠ ""
  ne_current : name ≠ "."
  ne_parent : name ≠ ".."
  no_slash : '/' ∉ name.toList

instance : DecidablePred IsEntryName := fun name =>
  decidable_of_iff (name ≠ "" ∧ name ≠ "." ∧ name ≠ ".." ∧ '/' ∉ name.toList)
    ⟨fun ⟨hempty, hcurrent, hparent, hslash⟩ => ⟨hempty, hcurrent, hparent, hslash⟩,
      fun h => ⟨h.ne_empty, h.ne_current, h.ne_parent, h.no_slash⟩⟩

/-- The path of what lies at a list of names below a directory. -/
def joinAll (directory : Path) (names : List String) : Path :=
  names.foldl (fun path name => path.join ⟨name⟩) directory

variable {path joined : Path} {name : String} {init : List String}

theorem segments_ne_nil (path : Path) : path.segments ≠ [] := by
  simpa [segments] using splitWhere_ne_nil _ path.text.toList

theorem segments_of_no_slash (hname : '/' ∉ name.toList) : (⟨name⟩ : Path).segments = [name] := by
  have hpiece : splitWhere (· == '/') name.toList = [name.toList] := by
    apply splitWhere_eq_singleton
    intro c hc
    have hne : c ≠ '/' := fun heq => hname (heq ▸ hc)
    simpa using hne
  simp [segments, hpiece]

theorem segments_append_slash (text : String) {name : String} (hname : '/' ∉ name.toList) :
    (⟨text ++ "/" ++ name⟩ : Path).segments = (⟨text⟩ : Path).segments ++ [name] := by
  have htext : (text ++ "/" ++ name).toList = text.toList ++ '/' :: name.toList := by
    simp [String.toList_append]
  calc (⟨text ++ "/" ++ name⟩ : Path).segments
      = (⟨text⟩ : Path).segments ++ (⟨name⟩ : Path).segments := by
        rw [segments, htext, splitWhere_append (by decide), List.map_append]
        rfl
    _ = (⟨text⟩ : Path).segments ++ [name] := by rw [segments_of_no_slash hname]

theorem isAbsolute_append {text : String} (htext : text ≠ "") (more : String) :
    (⟨text ++ more⟩ : Path).isAbsolute = (⟨text⟩ : Path).isAbsolute := by
  have hne : text.toList ≠ [] := by simpa using htext
  obtain ⟨first, rest, hcons⟩ := List.exists_cons_of_ne_nil hne
  simp [isAbsolute, String.toList_append, hcons, List.isPrefixOf]

theorem IsEntryName.laterComponent? (h : IsEntryName name) :
    Path.laterComponent? name = some (.name name) := by
  simp [Path.laterComponent?, h.ne_empty, h.ne_current, h.ne_parent]

theorem IsEntryName.isAbsolute (h : IsEntryName name) : (⟨name⟩ : Path).isAbsolute = false := by
  rw [Bool.eq_false_iff]
  intro habsolute
  simp only [Path.isAbsolute, List.isPrefixOf_iff_prefix] at habsolute
  exact h.no_slash (habsolute.subset (by decide))

/-- An empty segment at the end of a path does not count. -/
theorem components_of_segments (hname : IsEntryName name) (hinit : init ≠ [])
    (hpath : path.segments = init ∨ path.segments = init ++ [""])
    (hjoined : joined.segments = init ++ [name]) (habsolute : joined.isAbsolute = path.isAbsolute) :
    joined.components = path.components ++ [.name name] := by
  obtain ⟨first, rest, rfl⟩ := List.exists_cons_of_ne_nil hinit
  have hfirst : joined.firstComponent? first = path.firstComponent? first := by
    simp only [firstComponent?, habsolute]
  have hempty : Path.laterComponent? "" = none := rfl
  rcases hpath with hpath | hpath <;>
    simp [components, hpath, hjoined, hfirst, hname.laterComponent?, hempty]

theorem components_join (hname : IsEntryName name) (path : Path) :
    (path.join ⟨name⟩).components = path.components ++ [.name name] := by
  rw [join, if_neg (by simp [hname.isAbsolute])]
  by_cases hempty : path.text = ""
  · obtain ⟨text⟩ := path
    obtain rfl : text = "" := hempty
    have hnone : (⟨""⟩ : Path).components = [] := by decide
    rw [hnone]
    simp [components, segments_of_no_slash hname.no_slash, firstComponent?, hname.ne_empty,
      hname.ne_current, hname.laterComponent?]
  by_cases hslash : path.endsInSlash = true
  · obtain ⟨before, htext⟩ : ∃ before : String, path.text = before ++ "/" := by
      obtain ⟨before, hbefore⟩ := List.isSuffixOf_iff_suffix.mp hslash
      refine ⟨String.ofList before, ?_⟩
      apply String.toList_inj.mp
      simpa [String.toList_append] using hbefore.symm
    rw [if_pos (by simp [hslash])]
    apply components_of_segments hname (segments_ne_nil ⟨before⟩)
    · right
      have hsegments : (⟨before ++ "/" ++ ""⟩ : Path).segments =
          (⟨before⟩ : Path).segments ++ [""] := segments_append_slash before (by simp)
      rw [String.append_empty, ← htext] at hsegments
      exact hsegments
    · rw [htext]
      exact segments_append_slash before hname.no_slash
    · exact isAbsolute_append hempty name
  · rw [if_neg (by simp [hempty, hslash])]
    apply components_of_segments hname (segments_ne_nil path) (.inl rfl)
    · exact segments_append_slash path.text hname.no_slash
    · rw [String.append_assoc]
      exact isAbsolute_append hempty ("/" ++ name)

theorem components_joinAll {names : List String} (hnames : ∀ name ∈ names, IsEntryName name)
    (path : Path) : (path.joinAll names).components = path.components ++ names.map .name := by
  induction names generalizing path with
  | nil => simp [joinAll]
  | cons name rest ih =>
      obtain ⟨hname, hrest⟩ := List.forall_mem_cons.mp hnames
      calc (path.joinAll (name :: rest)).components
          = ((path.join ⟨name⟩).joinAll rest).components := rfl
        _ = (path.components ++ [.name name]) ++ rest.map .name := by
            rw [ih hrest, components_join hname]
        _ = path.components ++ (name :: rest).map .name := by simp

end Understudy.Path
