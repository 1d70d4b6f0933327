import Understudy.Proofs.Catalog.AppendedMock
import Understudy.Proofs.Mock.CacheUse
import Understudy.Proofs.Mock.Known
import Understudy.Proofs.Output.Selection

/-!
# An output with one mock more

Once a target has its mock, the output has no class for it, and the classes of the targets that do
not inherit from it are what they were (`Output.append_mock`). The classes of the others may ask
for members of the mock, and then later classes are rendered from another cache; but what a cache
holds does not show in the texts.
-/

namespace Understudy.Output

open Catalog (MocksTarget plainProtocol plainProperty baseMock)

variable {disk : Disk} {catalog : Catalog} {options : OutputOptions} {cache after : SourceCache}
  {targets : List Entity} {texts : List String} {target protocol mock : Entity}
  {entities : List Entity}

theorem ClassTexts.exists_text (h : ClassTexts disk catalog options cache targets texts after)
    (hmem : target ∈ targets) : ∃ text, (target, text) ∈ targets.zip texts := by
  induction h with
  | nil => cases hmem
  | cons _ _ ih =>
      obtain rfl | hmem := List.mem_cons.mp hmem
      · exact ⟨_, List.mem_cons_self⟩
      · obtain ⟨text, htext⟩ := ih hmem
        exact ⟨text, List.mem_cons_of_mem _ htext⟩

/-- Every class was rendered from a cache that holds what the disk has. -/
theorem ClassTexts.exists_cache (h : ClassTexts disk catalog options cache targets texts after)
    (hholds : cache.Holds disk.Shows) {text : String} (hmem : (target, text) ∈ targets.zip texts) :
    ∃ held : SourceCache, held.Holds disk.Shows ∧
      (targetText disk catalog options target held).1 = .ok text := by
  induction h with
  | nil => cases hmem
  | @cons first rest firstText texts cache middle after hfirst _ ih =>
      obtain heq | hmem := List.mem_cons.mp hmem
      · cases heq
        exact ⟨cache, hholds, congrArg Prod.fst hfirst⟩
      · have hmiddle : (targetText disk catalog options first cache).2.Holds disk.Shows :=
          Mock.holds_classText hholds
        rw [targetText] at hmiddle
        rw [hfirst] at hmiddle
        exact ih hmiddle hmem

theorem targetText_append (h : MocksTarget entities protocol mock)
    (htarget : target ∈ Catalog.targets ⟨entities⟩)
    (hfree : ¬Catalog.Inherits ⟨entities⟩ target protocol) (disk : Disk) (options : OutputOptions)
    (cache : SourceCache) :
    targetText disk ⟨entities ++ [mock]⟩ options target cache =
      targetText disk ⟨entities⟩ options target cache := by
  rw [targetText, targetText, h.flatten_append htarget hfree]
  exact Mock.classText_congr h.lookup_knownLiterals_append disk target _ _ cache

/-- **One mock more.** With a mock of a target behind the entities, the targets are the others, and
each of them that does not inherit from it is rendered to the same text, or fails with the same
error, from the same cache. It also has the same class in the two outputs, where each is written
from a new cache and its other classes may ask for other members. -/
theorem append_mock (h : MocksTarget entities protocol mock) :
    Catalog.targets ⟨entities ++ [mock]⟩ = (Catalog.targets ⟨entities⟩).erase protocol ∧
    ∀ target ∈ Catalog.targets ⟨entities⟩, ¬Catalog.Inherits ⟨entities⟩ target protocol →
      (∀ disk options cache, targetText disk ⟨entities ++ [mock]⟩ options target cache =
        targetText disk ⟨entities⟩ options target cache) ∧
      ∀ disk : Disk, disk.Coherent → ∀ options texts later,
        (targetTexts disk ⟨entities⟩ options (Catalog.targets ⟨entities⟩) .empty).1 = .ok texts →
        (targetTexts disk ⟨entities ++ [mock]⟩ options (Catalog.targets ⟨entities ++ [mock]⟩)
          .empty).1 = .ok later →
        ∀ text, (target, text) ∈ (Catalog.targets ⟨entities⟩).zip texts →
          (target, text) ∈ (Catalog.targets ⟨entities ++ [mock]⟩).zip later := by
  refine ⟨h.targets_append, fun target htarget hfree => ?_⟩
  have hsame := targetText_append h htarget hfree
  refine ⟨hsame, fun disk hcoherent options texts later hbefore hafter text htext => ?_⟩
  have hne : target ≠ protocol := by
    rintro rfl
    exact hfree .refl
  have hold := classTexts_of_targetTexts (Prod.ext hbefore rfl)
  have hnew := classTexts_of_targetTexts (Prod.ext hafter rfl)
  obtain ⟨other, hother⟩ := hnew.exists_text (h.mem_targets_append_iff.mpr ⟨htarget, hne⟩)
  obtain ⟨left, hleft, hfirst⟩ := hold.exists_cache SourceCache.Holds.empty htext
  obtain ⟨right, hright, hsecond⟩ := hnew.exists_cache SourceCache.Holds.empty hother
  rw [hsame] at hsecond
  rw [Mock.classText_unique hcoherent hleft hright hfirst hsecond]
  exact hother

/-- Members that are all fresh are rendered without the disk. -/
theorem targetTexts_of_fresh (hfresh : ∀ entity ∈ entities, ∀ member ∈ entity.members,
      member.isProcessed = false) (disk : Disk) (options : OutputOptions) (cache : SourceCache)
    (hall : ∀ target ∈ targets, target ∈ Catalog.targets ⟨entities⟩) :
    ∃ texts, targetTexts disk ⟨entities⟩ options targets cache = (.ok texts, cache) := by
  induction targets with
  | nil => exact ⟨[], rfl⟩
  | cons target rest ih =>
      obtain ⟨htarget, hrest⟩ := List.forall_mem_cons.mp hall
      have hmembers : ∀ member ∈ Catalog.flatten ⟨entities⟩ target,
          member.isProcessed = false := by
        intro member hmember
        obtain ⟨entity, hinherits, hmem⟩ := Catalog.exists_inherits_of_mem_flatten htarget hmember
        exact hfresh entity (Catalog.mem_entities_of_inherits htarget hinherits) member hmem
      obtain ⟨texts, htexts⟩ := ih hrest
      rw [targetTexts, targetText, Mock.classText_of_fresh disk target _ cache hmembers]
      simp only [htexts]
      exact ⟨_, rfl⟩

def parentBase : Entity :=
  plainProtocol "Base" [] [plainProperty "base" "Int"]

def heirOfBase : List Entity :=
  [unmockedApi, parentBase, plainProtocol "Heir" ["Base"] []]

/-- Of the two targets that stay, the one that does not inherit from the third keeps its text. -/
theorem append_mock_of_baseMock :
    MocksTarget heirOfBase parentBase baseMock ∧
    unmockedApi ∈ Catalog.targets ⟨heirOfBase⟩ ∧
    ¬Catalog.Inherits ⟨heirOfBase⟩ unmockedApi parentBase ∧
    Catalog.targets ⟨heirOfBase ++ [baseMock]⟩ = (Catalog.targets ⟨heirOfBase⟩).erase parentBase ∧
    ∀ workspace : Workspace,
      (∀ cache, targetText workspace.disk ⟨heirOfBase ++ [baseMock]⟩ {} unmockedApi cache =
        targetText workspace.disk ⟨heirOfBase⟩ {} unmockedApi cache) ∧
      ∃ texts later text,
        (targetTexts workspace.disk ⟨heirOfBase⟩ {} (Catalog.targets ⟨heirOfBase⟩) .empty).1 =
          .ok texts ∧
        (targetTexts workspace.disk ⟨heirOfBase ++ [baseMock]⟩ {}
          (Catalog.targets ⟨heirOfBase ++ [baseMock]⟩) .empty).1 = .ok later ∧
        (unmockedApi, text) ∈ (Catalog.targets ⟨heirOfBase⟩).zip texts ∧
        (unmockedApi, text) ∈ (Catalog.targets ⟨heirOfBase ++ [baseMock]⟩).zip later := by
  have hmocks : MocksTarget heirOfBase parentBase baseMock :=
    ⟨Catalog.mem_targets_iff.mpr ⟨rfl, by decide +kernel⟩, by decide, by decide, by decide⟩
  have htarget : unmockedApi ∈ Catalog.targets ⟨heirOfBase⟩ :=
    Catalog.mem_targets_iff.mpr ⟨rfl, by decide +kernel⟩
  have hfree : ¬Catalog.Inherits ⟨heirOfBase⟩ unmockedApi parentBase := by
    intro hinherits
    obtain heq | ⟨_, ⟨name, hname, _⟩, _⟩ := hinherits.cases_head
    · exact absurd heq (by decide)
    · exact absurd hname List.not_mem_nil
  obtain ⟨htargets, hothers⟩ := append_mock hmocks
  obtain ⟨hsame, hkept⟩ := hothers unmockedApi htarget hfree
  refine ⟨hmocks, htarget, hfree, htargets, fun workspace => ⟨hsame workspace.disk {}, ?_⟩⟩
  have hfresh : ∀ entity ∈ heirOfBase ++ [baseMock], ∀ member ∈ entity.members,
      member.isProcessed = false := by decide
  obtain ⟨texts, hbefore⟩ := targetTexts_of_fresh
    (fun entity hmem => hfresh entity (List.mem_append_left _ hmem)) workspace.disk {} .empty
    fun _ hmem => hmem
  obtain ⟨later, hafter⟩ := targetTexts_of_fresh hfresh workspace.disk {} .empty
    fun _ hmem => hmem
  obtain ⟨text, htext⟩ := (classTexts_of_targetTexts hbefore).exists_text htarget
  have hbefore := congrArg Prod.fst hbefore
  have hafter := congrArg Prod.fst hafter
  exact ⟨texts, later, text, hbefore, hafter, htext,
    hkept workspace.disk workspace.coherent_disk {} texts later hbefore hafter text htext⟩

end Understudy.Output
