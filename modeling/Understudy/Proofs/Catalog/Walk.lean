import Mathlib.Logic.Relation
import Understudy.Proofs.Catalog.Lookup

/-!
# The depth-first walk of a catalog

`Catalog.DepthFirst` is the walk as nested calls: each new name is marked as seen, the entity that
stands for it is visited with all that lies below it, and then come the names beside it.
`Catalog.walk_eq_of_depthFirst` says that `Catalog.walk` visits the same entities in the same order.
Cycles and shared ancestors only meet names that are marked, so the nested calls end for every
catalog, and they visit exactly the entities that can be reached, each once.
-/

namespace Understudy.Catalog

/-- One entity inherits a type that another stands for. -/
def Parent (catalog : Catalog) (child parent : Entity) : Prop :=
  ∃ name ∈ child.inheritedTypes, catalog.resolve? name = some parent

/-- An entity is reached by looking up inherited types any number of times. -/
def Inherits (catalog : Catalog) : Entity → Entity → Prop :=
  Relation.ReflTransGen catalog.Parent

/-- The walk over a list of names that starts with the names of `before` seen and ends with those of
`after`, together with the entities it visits. -/
inductive DepthFirst (catalog : Catalog) :
    List String → List String → List Entity → List String → Prop where
  | done {before : List String} : DepthFirst catalog before [] [] before
  | skip {before after : List String} {name : String} {rest : List String} {found : List Entity}
      (hseen : name ∈ before) (hrest : DepthFirst catalog before rest found after) :
      DepthFirst catalog before (name :: rest) found after
  | unknown {before after : List String} {name : String} {rest : List String}
      {found : List Entity} (hseen : name ∉ before) (hnone : catalog.resolve? name = none)
      (hrest : DepthFirst catalog (name :: before) rest found after) :
      DepthFirst catalog before (name :: rest) found after
  | visit {before middle after : List String} {name : String} {rest : List String}
      {entity : Entity} {below beside : List Entity} (hseen : name ∉ before)
      (hentity : catalog.resolve? name = some entity)
      (hbelow : DepthFirst catalog (name :: before) entity.inheritedTypes below middle)
      (hrest : DepthFirst catalog middle rest beside after) :
      DepthFirst catalog before (name :: rest) (entity :: (below ++ beside)) after

variable {catalog : Catalog} {before after names : List String} {found : List Entity}

theorem walk_cons (catalog : Catalog) (seen : List String) (name : String)
    (pending : List String) :
    catalog.walk seen (name :: pending) =
      if name ∈ seen then catalog.walk seen pending
      else
        match catalog.resolve? name with
        | some entity => entity :: catalog.walk (name :: seen) (entity.inheritedTypes ++ pending)
        | none => catalog.walk (name :: seen) pending := by
  rw [walk]
  split
  · rfl
  · split <;> simp_all

theorem walk_append_of_depthFirst (h : DepthFirst catalog before names found after)
    (pending : List String) :
    catalog.walk before (names ++ pending) = found ++ catalog.walk after pending := by
  induction h generalizing pending with
  | done => rfl
  | skip hseen _ ih =>
      rw [List.cons_append, walk_cons, if_pos hseen, ih]
  | unknown hseen hnone _ ih =>
      rw [List.cons_append, walk_cons, if_neg hseen, hnone]
      exact ih pending
  | @visit before middle after name rest entity below beside hseen hentity _ _ ihbelow ihrest =>
      rw [List.cons_append, walk_cons, if_neg hseen, hentity]
      simp only [ihbelow (rest ++ pending), ihrest pending, List.cons_append, List.append_assoc]

/-- The walk visits what the nested calls visit, in the same order. -/
theorem walk_eq_of_depthFirst (h : DepthFirst catalog before names found after) :
    catalog.walk before names = found := by
  simpa [walk] using walk_append_of_depthFirst h []

theorem DepthFirst.subset (h : DepthFirst catalog before names found after) : before ⊆ after := by
  induction h with
  | done => exact List.Subset.refl _
  | skip _ _ ih => exact ih
  | unknown _ _ _ ih => exact fun name hname => ih (List.mem_cons_of_mem _ hname)
  | visit _ _ _ _ ihbelow ihrest =>
      exact fun name hname => ihrest (ihbelow (List.mem_cons_of_mem _ hname))

theorem unseen_le_of_subset (names : List String) {before after : List String}
    (h : before ⊆ after) :
    unseen names after ≤ unseen names before := by
  apply List.countP_mono_left
  intro name _ hname
  simp only [decide_eq_true_eq] at hname ⊢
  intro hbefore
  exact hname (h hbefore)

/-- The nested calls end, whatever the graph: each visit leaves fewer names unseen. -/
theorem exists_depthFirst (catalog : Catalog) (before names : List String) :
    ∃ found after, DepthFirst catalog before names found after := by
  induction hcount : unseen catalog.names before using Nat.strongRecOn generalizing before names
    with
  | ind count ih =>
      -- a bound on the unseen names, so that the names beside an entity can use it as well
      have hle : unseen catalog.names before ≤ count := Nat.le_of_eq hcount
      clear hcount
      induction names generalizing before with
      | nil => exact ⟨[], before, .done⟩
      | cons name rest ihrest =>
          by_cases hseen : name ∈ before
          · obtain ⟨found, after, hrest⟩ := ihrest before hle
            exact ⟨found, after, .skip hseen hrest⟩
          · have hmarked := unseen_cons_le catalog.names before name
            cases hentity : catalog.resolve? name with
            | none =>
                obtain ⟨found, after, hrest⟩ := ihrest (name :: before) (by omega)
                exact ⟨found, after, .unknown hseen hentity hrest⟩
            | some entity =>
                have hfewer := unseen_cons_lt (mem_names_of_resolve? hentity) hseen
                obtain ⟨below, middle, hbelow⟩ :=
                  ih _ (by omega) (name :: before) entity.inheritedTypes rfl
                have hmiddle := unseen_le_of_subset catalog.names hbelow.subset
                obtain ⟨beside, after, hrest⟩ := ihrest middle (by omega)
                exact ⟨entity :: (below ++ beside), after, .visit hseen hentity hbelow hrest⟩

namespace DepthFirst

/-- Each entity is visited under a name that was not seen before the walk and is seen after it. -/
theorem exists_name_of_mem (h : DepthFirst catalog before names found after) {entity : Entity}
    (hmem : entity ∈ found) :
    ∃ name, name ∉ before ∧ name ∈ after ∧ catalog.resolve? name = some entity := by
  induction h with
  | done => simp at hmem
  | skip _ _ ih => exact ih hmem
  | unknown _ _ _ ih =>
      obtain ⟨name, hbefore, hafter⟩ := ih hmem
      exact ⟨name, fun hold => hbefore (List.mem_cons_of_mem _ hold), hafter⟩
  | @visit before middle after name rest parent below beside hseen hentity hbelow hrest ihbelow
      ihrest =>
      rcases List.mem_cons.mp hmem with rfl | hmem
      · exact ⟨name, hseen, hrest.subset (hbelow.subset List.mem_cons_self), hentity⟩
      rcases List.mem_append.mp hmem with hmem | hmem
      · obtain ⟨other, hbefore, hafter, hother⟩ := ihbelow hmem
        exact ⟨other, fun hold => hbefore (List.mem_cons_of_mem _ hold), hrest.subset hafter,
          hother⟩
      · obtain ⟨other, hbefore, hafter, hother⟩ := ihrest hmem
        exact ⟨other, fun hold => hbefore (hbelow.subset (List.mem_cons_of_mem _ hold)), hafter,
          hother⟩

theorem nodup (h : DepthFirst catalog before names found after) : found.Nodup := by
  induction h with
  | done => exact List.nodup_nil
  | skip _ _ ih => exact ih
  | unknown _ _ _ ih => exact ih
  | @visit before middle after name rest parent below beside hseen hentity hbelow hrest ihbelow
      ihrest =>
      -- a second visit would be under the same name, which is marked by then
      refine List.nodup_cons.mpr ⟨?_, List.nodup_append.mpr ⟨ihbelow, ihrest, ?_⟩⟩
      · intro hmem
        rcases List.mem_append.mp hmem with hmem | hmem
        · obtain ⟨other, hnew, _, hother⟩ := hbelow.exists_name_of_mem hmem
          exact hnew (resolve?_injective hentity hother ▸ List.mem_cons_self)
        · obtain ⟨other, hnew, _, hother⟩ := hrest.exists_name_of_mem hmem
          exact hnew (resolve?_injective hentity hother ▸ hbelow.subset List.mem_cons_self)
      · rintro entity hmem other hother rfl
        obtain ⟨ours, _, hmiddle, hours⟩ := hbelow.exists_name_of_mem hmem
        obtain ⟨theirs, hnew, _, htheirs⟩ := hrest.exists_name_of_mem hother
        exact hnew (resolve?_injective hours htheirs ▸ hmiddle)

theorem exists_inherits_of_mem (h : DepthFirst catalog before names found after) {entity : Entity}
    (hmem : entity ∈ found) :
    ∃ name ∈ names, ∃ parent, catalog.resolve? name = some parent ∧
      catalog.Inherits parent entity := by
  induction h with
  | done => simp at hmem
  | skip _ _ ih =>
      obtain ⟨name, hname, hparent⟩ := ih hmem
      exact ⟨name, List.mem_cons_of_mem _ hname, hparent⟩
  | unknown _ _ _ ih =>
      obtain ⟨name, hname, hparent⟩ := ih hmem
      exact ⟨name, List.mem_cons_of_mem _ hname, hparent⟩
  | @visit before middle after name rest parent below beside hseen hentity hbelow hrest ihbelow
      ihrest =>
      rcases List.mem_cons.mp hmem with rfl | hmem
      · exact ⟨name, List.mem_cons_self, entity, hentity, .refl⟩
      rcases List.mem_append.mp hmem with hmem | hmem
      · obtain ⟨other, hother, grandparent, hresolve, hinherits⟩ := ihbelow hmem
        exact ⟨name, List.mem_cons_self, parent, hentity,
          .head ⟨other, hother, hresolve⟩ hinherits⟩
      · obtain ⟨other, hother, hparent⟩ := ihrest hmem
        exact ⟨other, List.mem_cons_of_mem _ hother, hparent⟩

theorem names_subset (h : DepthFirst catalog before names found after) : names ⊆ after := by
  induction h with
  | done => exact List.nil_subset _
  | skip hseen hrest ih => exact List.cons_subset.mpr ⟨hrest.subset hseen, ih⟩
  | unknown _ _ hrest ih => exact List.cons_subset.mpr ⟨hrest.subset List.mem_cons_self, ih⟩
  | visit _ _ hbelow hrest _ ihrest =>
      exact List.cons_subset.mpr ⟨hrest.subset (hbelow.subset List.mem_cons_self), ihrest⟩

theorem inheritedTypes_subset (h : DepthFirst catalog before names found after) {entity : Entity}
    (hmem : entity ∈ found) : entity.inheritedTypes ⊆ after := by
  induction h with
  | done => simp at hmem
  | skip _ _ ih => exact ih hmem
  | unknown _ _ _ ih => exact ih hmem
  | visit _ _ hbelow hrest ihbelow ihrest =>
      rcases List.mem_cons.mp hmem with rfl | hmem
      · exact List.Subset.trans hbelow.names_subset hrest.subset
      rcases List.mem_append.mp hmem with hmem | hmem
      · exact List.Subset.trans (ihbelow hmem) hrest.subset
      · exact ihrest hmem

theorem mem_of_mem_after (h : DepthFirst catalog before names found after) {name : String}
    {entity : Entity} (hafter : name ∈ after) (hbefore : name ∉ before)
    (hentity : catalog.resolve? name = some entity) : entity ∈ found := by
  induction h with
  | done => exact absurd hafter hbefore
  | skip _ _ ih => exact ih hafter hbefore
  | @unknown before after other rest found _ hnone _ ih =>
      refine ih hafter (List.not_mem_cons_of_ne_of_not_mem ?_ hbefore)
      rintro rfl
      simp [hnone] at hentity
  | @visit before middle after other rest parent below beside _ hparent hbelow hrest ihbelow
      ihrest =>
      by_cases heq : name = other
      · subst heq
        rw [hparent, Option.some.injEq] at hentity
        exact hentity ▸ List.mem_cons_self
      by_cases hmiddle : name ∈ middle
      · exact List.mem_cons_of_mem _ (List.mem_append_left _
          (ihbelow hmiddle (List.not_mem_cons_of_ne_of_not_mem heq hbefore)))
      · exact List.mem_cons_of_mem _ (List.mem_append_right _ (ihrest hafter hmiddle))

/-- Another catalog makes the same walk if it resolves the names that the walk meets alike. -/
theorem congr {other : Catalog} (h : DepthFirst catalog before names found after)
    (hsame : ∀ name ∈ after, name ∉ before → catalog.resolve? name = other.resolve? name) :
    DepthFirst other before names found after := by
  induction h with
  | done => exact .done
  | skip hseen _ ih => exact .skip hseen (ih hsame)
  | unknown hseen hnone hrest ih =>
      refine .unknown hseen ?_ (ih fun name hafter hnew => ?_)
      · rw [← hsame _ (hrest.subset List.mem_cons_self) hseen, hnone]
      · exact hsame name hafter fun hold => hnew (List.mem_cons_of_mem _ hold)
  | visit hseen hentity hbelow hrest ihbelow ihrest =>
      refine .visit hseen ?_ (ihbelow fun name hmiddle hnew => ?_)
        (ihrest fun name hafter hnew => ?_)
      · rw [← hsame _ (hrest.subset (hbelow.subset List.mem_cons_self)) hseen, hentity]
      · exact hsame name (hrest.subset hmiddle) fun hold => hnew (List.mem_cons_of_mem _ hold)
      · exact hsame name hafter fun hold => hnew (hbelow.subset (List.mem_cons_of_mem _ hold))

end DepthFirst

end Understudy.Catalog
