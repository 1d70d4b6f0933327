import Understudy.Proofs.FileTree.Spelling
import Understudy.Proofs.Mock.Texts
import Understudy.Proofs.SourceCache.Contents

/-!
# What rendering does to the cache

Only a processed member that is no initializer is asked of the cache, and the cache answers from
what it holds. So a property of all contents in it is kept by every rendering
(`Mock.holds_memberText`), and as long as these are contents that the disk has, a class has the same
text from every cache, if it can be rendered at all (`Mock.classText_unique`).
-/

namespace Understudy

def Member.cacheKey : Member → CacheKey
  | .callable method => method.cacheKey
  | .stored property => property.cacheKey

theorem Disk.shows_spellingFree {disk : Disk} : SourceCache.SpellingFree disk.Shows := by
  rintro first second bytes hsame ⟨spelling, hfirst, hdisk⟩
  exact ⟨spelling, Path.same_trans hfirst hsame, hdisk⟩

namespace Mock

variable {disk : Disk} {known : KnownLiterals} {identifier : String} {member : Member}
  {cache : SourceCache}

theorem memberText_of_processed (hprocessed : member.isProcessed)
    (hinitializer : ¬member.isInitializer) :
    memberText disk known identifier member cache =
      ((cache.extract disk member.cacheKey).1.map some,
        (cache.extract disk member.cacheKey).2) := by
  cases member with
  | callable method =>
      have hmethod : method.isProcessed := hprocessed
      have hother : ¬method.isInitializer := hinitializer
      simp only [memberText, methodText, if_pos hmethod, if_neg hother]
      rfl
  | stored property =>
      have hproperty : property.isProcessed := hprocessed
      simp only [memberText, propertyText, if_pos hproperty]
      rfl

/-- Every other member has its text without the cache. -/
theorem exists_memberText_eq (disk : Disk) (known : KnownLiterals) (identifier : String)
    (h : ¬(member.isProcessed ∧ ¬member.isInitializer)) :
    ∃ text?, ∀ cache, memberText disk known identifier member cache = (.ok text?, cache) := by
  cases member with
  | callable method =>
      simp only [memberText, methodText]
      split_ifs with hprocessed hinitializer
      · exact ⟨none, fun _ => rfl⟩
      · exact absurd ⟨hprocessed, hinitializer⟩ h
      · exact ⟨some _, fun _ => rfl⟩
  | stored property =>
      simp only [memberText, propertyText]
      split_ifs with hprocessed
      · exact absurd ⟨hprocessed, Bool.false_ne_true⟩ h
      · exact ⟨some _, fun _ => rfl⟩

section Holds

variable {P : Path → List UInt8 → Prop} {pairs : List (Member × String)}

theorem holds_memberText (hfree : SourceCache.SpellingFree P)
    (hread : ∀ path bytes, disk path = .ok bytes → P path bytes) (h : cache.Holds P) :
    (memberText disk known identifier member cache).2.Holds P := by
  by_cases hask : member.isProcessed ∧ ¬member.isInitializer
  · rw [memberText_of_processed hask.1 hask.2, SourceCache.extract_snd]
    exact h.buffer hfree (hread _)
  · obtain ⟨text?, htext⟩ := exists_memberText_eq disk known identifier hask
    rw [htext]
    exact h

theorem holds_memberTexts (hfree : SourceCache.SpellingFree P)
    (hread : ∀ path bytes, disk path = .ok bytes → P path bytes) (h : cache.Holds P) :
    (memberTexts disk known pairs cache).2.Holds P := by
  induction pairs generalizing cache with
  | nil => exact h
  | cons head rest ih =>
      obtain ⟨member, identifier⟩ := head
      have hmiddle : (memberText disk known identifier member cache).2.Holds P :=
        holds_memberText hfree hread h
      rw [memberTexts]
      split
      · next failure middle htext =>
        rw [htext] at hmiddle
        exact hmiddle
      · next text? middle htext =>
        rw [htext] at hmiddle
        exact ih hmiddle

end Holds

section Shows

variable {left right : SourceCache}

/-- From caches that hold what the disk has, a member has one text, if any. -/
theorem memberText_unique (hcoherent : disk.Coherent) (hleft : left.Holds disk.Shows)
    (hright : right.Holds disk.Shows) {first second : Option String}
    (hfirst : (memberText disk known identifier member left).1 = .ok first)
    (hsecond : (memberText disk known identifier member right).1 = .ok second) :
    first = second := by
  have hread : ∀ bytes, disk member.cacheKey.path = .ok bytes →
      disk.Shows member.cacheKey.path bytes := fun _ => Disk.shows_of_read
  by_cases hask : member.isProcessed ∧ ¬member.isInitializer
  · rw [memberText_of_processed hask.1 hask.2, SourceCache.extract_fst] at hfirst hsecond
    obtain ⟨text, htext, rfl⟩ := exists_of_map_eq_ok hfirst
    obtain ⟨other, hother, rfl⟩ := exists_of_map_eq_ok hsecond
    obtain ⟨bytes, hbytes, htext⟩ := exists_of_bind_eq_ok htext
    obtain ⟨found, hfound, hother⟩ := exists_of_bind_eq_ok hother
    have hsame : bytes = found := hcoherent.eq_of_shows
      (hleft.of_buffer_eq_ok Disk.shows_spellingFree hread hbytes)
      (hright.of_buffer_eq_ok Disk.shows_spellingFree hread hfound)
    rw [hsame, hother, Except.ok.injEq] at htext
    rw [htext]
  · obtain ⟨text?, htext⟩ := exists_memberText_eq disk known identifier hask
    rw [htext] at hfirst hsecond
    exact (Except.ok.inj hfirst).symm.trans (Except.ok.inj hsecond)

theorem memberTexts_unique (hcoherent : disk.Coherent) {pairs : List (Member × String)}
    (hleft : left.Holds disk.Shows) (hright : right.Holds disk.Shows)
    {first second : List String}
    (hfirst : (memberTexts disk known pairs left).1 = .ok first)
    (hsecond : (memberTexts disk known pairs right).1 = .ok second) : first = second := by
  induction pairs generalizing left right first second with
  | nil => exact (Except.ok.inj hfirst).symm.trans (Except.ok.inj hsecond)
  | cons head rest ih =>
      obtain ⟨member, identifier⟩ := head
      obtain ⟨text?, middle, texts, htext, htexts, rfl⟩ := memberTexts_cons_eq_ok hfirst
      obtain ⟨other?, between, others, hother, hothers, rfl⟩ := memberTexts_cons_eq_ok hsecond
      -- the two caches may differ from here on, but both still hold what the disk has
      have hmiddle : (memberText disk known identifier member left).2.Holds disk.Shows :=
        holds_memberText Disk.shows_spellingFree (fun _ _ => Disk.shows_of_read) hleft
      have hbetween : (memberText disk known identifier member right).2.Holds disk.Shows :=
        holds_memberText Disk.shows_spellingFree (fun _ _ => Disk.shows_of_read) hright
      rw [htext] at hmiddle
      rw [hother] at hbetween
      rw [memberText_unique hcoherent hleft hright (congrArg Prod.fst htext)
        (congrArg Prod.fst hother), ih hmiddle hbetween htexts hothers]

variable {entity : Entity} {members : List Member} {isFinal : Bool}

theorem holds_classText (h : cache.Holds disk.Shows) :
    (classText disk known entity members isFinal cache).2.Holds disk.Shows :=
  holds_memberTexts Disk.shows_spellingFree (fun _ _ => Disk.shows_of_read) h

theorem classText_unique (hcoherent : disk.Coherent) (hleft : left.Holds disk.Shows)
    (hright : right.Holds disk.Shows) {first second : String}
    (hfirst : (classText disk known entity members isFinal left).1 = .ok first)
    (hsecond : (classText disk known entity members isFinal right).1 = .ok second) :
    first = second := by
  obtain ⟨texts, htexts, rfl⟩ := exists_texts_of_classText hfirst
  obtain ⟨others, hothers, rfl⟩ := exists_texts_of_classText hsecond
  rw [memberTexts_unique hcoherent hleft hright htexts hothers]

end Shows

end Mock

end Understudy
