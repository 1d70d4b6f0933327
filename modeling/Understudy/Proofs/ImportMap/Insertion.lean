import Understudy.ImportMap
import Understudy.Proofs.Path.Order

/-!
# Inserting import statements

Entries of different paths can be inserted in either order, and so can equal entries. Maps whose
entries agree where their paths meet can therefore be added in either order.
-/

namespace Understudy.ImportMap

theorem insertSorted_comm_of_lt {first second : Path} (hlt : first.compare second = .lt)
    (ours theirs : List String) (entries : List (Path × List String)) :
    insertSorted first ours (insertSorted second theirs entries) =
      insertSorted second theirs (insertSorted first ours entries) := by
  have hgt : second.compare first = .gt := Std.OrientedCmp.gt_of_lt hlt
  induction entries with
  | nil => simp [insertSorted, hlt, hgt]
  | cons entry rest ih =>
      obtain ⟨held, old⟩ := entry
      cases hfirst : first.compare held with
      | lt => cases hsecond : second.compare held <;> simp [insertSorted, hlt, hgt, hfirst, hsecond]
      | eq =>
          have hsecond : second.compare held = .gt := Std.TransCmp.gt_of_gt_of_eq hgt hfirst
          simp [insertSorted, hfirst, hsecond]
      | gt =>
          have hsecond : second.compare held = .gt := Std.TransCmp.gt_trans hgt hfirst
          simp [insertSorted, hfirst, hsecond, ih]

/-- Insertions for two different paths commute, whatever the map holds. -/
theorem insertSorted_comm {first second : Path} (hdiffer : first.same second = false)
    (ours theirs : List String) (entries : List (Path × List String)) :
    insertSorted first ours (insertSorted second theirs entries) =
      insertSorted second theirs (insertSorted first ours entries) := by
  cases hcompare : first.compare second with
  | lt => exact insertSorted_comm_of_lt hcompare ours theirs entries
  | eq => simp [Path.compare_eq_eq_iff_same.mp hcompare] at hdiffer
  | gt =>
      have hlt := Std.OrientedCmp.lt_of_gt hcompare
      exact (insertSorted_comm_of_lt hlt theirs ours entries).symm

theorem insert_comm {first second : Path} (hdiffer : first.same second = false)
    (ours theirs : List String) (map : ImportMap) :
    (map.insert first ours).insert second theirs =
      (map.insert second theirs).insert first ours := by
  simp only [insert, (insertSorted_comm hdiffer ours theirs map.entries)]

/-- Where the two maps have entries for one path, the entries are equal. -/
def Agrees (ours theirs : ImportMap) : Prop :=
  ∀ entry ∈ ours.entries, ∀ other ∈ theirs.entries, entry.1.same other.1 → entry = other

theorem insert_comm_of_agrees {entry other : Path × List String}
    (hagree : entry.1.same other.1 → entry = other) (map : ImportMap) :
    (map.insert entry.1 entry.2).insert other.1 other.2 =
      (map.insert other.1 other.2).insert entry.1 entry.2 := by
  cases hsame : entry.1.same other.1 with
  | true => rw [hagree hsame]
  | false => exact insert_comm hsame entry.2 other.2 map

theorem foldl_insert_comm {entry : Path × List String} {entries : List (Path × List String)}
    (hagree : ∀ other ∈ entries, entry.1.same other.1 → entry = other) (map : ImportMap) :
    entries.foldl (fun map other => map.insert other.1 other.2) (map.insert entry.1 entry.2) =
      (entries.foldl (fun map other => map.insert other.1 other.2) map).insert entry.1 entry.2 := by
  induction entries generalizing map with
  | nil => rfl
  | cons other rest ih =>
      obtain ⟨hother, hrest⟩ := List.forall_mem_cons.mp hagree
      rw [List.foldl_cons, insert_comm_of_agrees hother, ih hrest, List.foldl_cons]

theorem Agrees.extend_comm {ours theirs : ImportMap} (hagree : ours.Agrees theirs)
    (map : ImportMap) :
    (map.extend ours).extend theirs = (map.extend theirs).extend ours := by
  obtain ⟨entries⟩ := ours
  simp only [extend]
  induction entries generalizing map with
  | nil => rfl
  | cons entry rest ih =>
      obtain ⟨hentry, hrest⟩ := List.forall_mem_cons.mp hagree
      rw [List.foldl_cons, List.foldl_cons, ← foldl_insert_comm hentry]
      exact ih (map.insert entry.1 entry.2) hrest

theorem entries_ofList_singleton (path : Path) (statements : List String) :
    (ofList [(path, statements)]).entries = [(path, statements)] :=
  rfl

end Understudy.ImportMap
