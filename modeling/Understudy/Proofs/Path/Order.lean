import Mathlib.Data.List.Pairwise
import Understudy.Path

/-!
# The order of paths

Paths are compared by their components, so the order is total on paths up to spelling: two paths
are neither before the other exactly when they are the same.
-/

namespace Understudy

namespace Component

def spelling : Component → String
  | .name text => text
  | _ => ""

/-- Components are compared by rank, and those of one rank by their spelling. -/
theorem compare_eq (left right : Component) :
    compare left right = compareLex (compareOn rank) (compareOn spelling) left right := by
  cases left <;> cases right
  case name.name => simp [compare, compareLex, compareOn, rank, spelling]
  all_goals rfl

instance : Std.TransCmp compare := by
  have heq : compare = compareLex (compareOn rank) (compareOn spelling) := by
    funext left right
    exact compare_eq left right
  rw [heq]
  infer_instance

instance : Std.LawfulEqCmp compare where
  eq_of_compare {left right} h := by
    cases left <;> cases right <;> simp_all [compare, rank]

end Component

namespace Path

theorem compareComponents_eq (left right : List Component) :
    compareComponents left right = List.compareLex Component.compare left right := by
  induction left generalizing right with
  | nil => cases right <;> rfl
  | cons head tail ih =>
      cases right with
      | nil => rfl
      | cons other rest =>
          simp only [compareComponents, List.compareLex_cons_cons, ih]
          cases head.compare other <;> rfl

theorem compare_eq_eq_iff {left right : Path} :
    left.compare right = .eq ↔ left.components = right.components := by
  rw [compare, compareComponents_eq]
  exact Std.LawfulEqCmp.compare_eq_iff_eq

theorem same_iff {left right : Path} : left.same right ↔ left.components = right.components := by
  simp [same]

theorem same_refl (path : Path) : path.same path :=
  same_iff.mpr rfl

theorem same_symm {left right : Path} (h : left.same right) : right.same left :=
  same_iff.mpr (same_iff.mp h).symm

theorem same_trans {first second third : Path} (hfirst : first.same second)
    (hsecond : second.same third) : first.same third :=
  same_iff.mpr ((same_iff.mp hfirst).trans (same_iff.mp hsecond))

theorem compare_eq_eq_iff_same {left right : Path} :
    left.compare right = .eq ↔ left.same right :=
  compare_eq_eq_iff.trans same_iff.symm

instance : Std.TransCmp compareComponents := by
  have heq : compareComponents = List.compareLex Component.compare := by
    funext left right
    exact compareComponents_eq left right
  rw [heq]
  infer_instance

instance : Std.TransCmp compare where
  eq_swap {left right} := by
    rw [compare, compare]
    exact Std.OrientedCmp.eq_swap
  isLE_trans {first second third} hfirst hsecond := by
    rw [compare] at hfirst hsecond ⊢
    exact Std.TransCmp.isLE_trans hfirst hsecond

/-- No two of the paths are the same, whatever their spelling. -/
def Distinct (paths : List Path) : Prop :=
  paths.Pairwise fun left right => ¬left.same right

namespace Distinct

variable {paths : List Path}

theorem nodup (h : Distinct paths) : paths.Nodup := by
  apply List.Pairwise.imp _ h
  intro left right hdiffer heq
  subst heq
  exact hdiffer (same_refl left)

theorem not_same (h : Distinct paths) {left right : Path} (hleft : left ∈ paths)
    (hright : right ∈ paths) (hne : left ≠ right) : ¬left.same right := by
  have hsymm : Std.Symm fun left right : Path => ¬left.same right :=
    ⟨fun _ _ hdiffer hsame => hdiffer (same_symm hsame)⟩
  exact List.Pairwise.forall h hleft hright hne

end Distinct

end Path

end Understudy
