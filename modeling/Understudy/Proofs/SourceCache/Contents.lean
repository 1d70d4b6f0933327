import Mathlib.Data.List.Basic
import Understudy.Proofs.Path.Order
import Understudy.SourceCache

/-!
# What a cache holds

A call finds the member it asks for, shares a file that is held, reads the file, or fails to
(`SourceCache.buffers`). So a property of contents that every file on the disk has, and that does
not depend on how a path is spelled, is one of everything that the cache holds and answers.
-/

namespace Understudy

namespace CacheKey

def components (key : CacheKey) : List Component :=
  key.path.components

/-- What keys are compared by. -/
def identity (key : CacheKey) : List Component × String × String × Nat × Nat :=
  (key.components, key.name, key.typeText, key.offset, key.length)

theorem same_iff {left right : CacheKey} : left.same right ↔ left.identity = right.identity := by
  simp only [same, Bool.and_eq_true, beq_iff_eq, identity, components, Prod.mk.injEq,
    Path.same_iff, and_assoc]

theorem path_same_of_same {left right : CacheKey} (h : left.same right) :
    left.path.same right.path := by
  rw [Path.same_iff]
  exact congrArg Prod.fst (same_iff.mp h)

end CacheKey

namespace SourceCache

variable {disk : Disk} {cache : SourceCache} {key : CacheKey} {path : Path} {bytes : List UInt8}
  {failure : Failure}

theorem exists_of_file?_eq_some (h : cache.file? path = some bytes) :
    ∃ held, (held, bytes) ∈ cache.files ∧ held.same path := by
  obtain ⟨⟨held, _⟩, hfind, rfl⟩ := Option.map_eq_some_iff.mp h
  have hsame := List.find?_some hfind
  exact ⟨held, List.mem_of_find?_eq_some hfind, hsame⟩

theorem not_same_of_file?_eq_none (h : cache.file? path = none) :
    ∀ entry ∈ cache.files, ¬entry.1.same path :=
  List.find?_eq_none.mp (Option.map_eq_none_iff.mp h)

theorem exists_of_member?_eq_some (h : cache.member? key = some bytes) :
    ∃ held, (held, bytes) ∈ cache.members ∧ held.same key := by
  obtain ⟨⟨held, _⟩, hfind, rfl⟩ := Option.map_eq_some_iff.mp h
  have hsame := List.find?_some hfind
  exact ⟨held, List.mem_of_find?_eq_some hfind, hsame⟩

theorem not_same_of_member?_eq_none (h : cache.member? key = none) :
    ∀ entry ∈ cache.members, ¬entry.1.same key :=
  List.find?_eq_none.mp (Option.map_eq_none_iff.mp h)

/-- What a call for the contents of a member's file comes to: the answer and the cache after it. -/
inductive Buffers (disk : Disk) (key : CacheKey) (cache : SourceCache) :
    Except Failure (List UInt8) × SourceCache → Prop where
  | held {other : CacheKey} {bytes : List UInt8} (hmember : (other, bytes) ∈ cache.members)
      (hsame : other.same key) : Buffers disk key cache (.ok bytes, cache)
  | shared {path : Path} {bytes : List UInt8} (hnew : ∀ entry ∈ cache.members, ¬entry.1.same key)
      (hfile : (path, bytes) ∈ cache.files) (hsame : path.same key.path) :
      Buffers disk key cache (.ok bytes, { cache with members := (key, bytes) :: cache.members })
  | read {bytes : List UInt8} (hnew : ∀ entry ∈ cache.members, ¬entry.1.same key)
      (hunread : ∀ entry ∈ cache.files, ¬entry.1.same key.path)
      (hdisk : disk key.path = .ok bytes) :
      Buffers disk key cache
        (.ok bytes,
          { files := (key.path, bytes) :: cache.files
            members := (key, bytes) :: cache.members
            decodes := cache.decodes + 1 })
  | failed {fault : FileFault} (hnew : ∀ entry ∈ cache.members, ¬entry.1.same key)
      (hunread : ∀ entry ∈ cache.files, ¬entry.1.same key.path)
      (hdisk : disk key.path = .error fault) :
      Buffers disk key cache (.error (.file fault), cache)

theorem buffers (disk : Disk) (key : CacheKey) (cache : SourceCache) :
    Buffers disk key cache (cache.buffer disk key) := by
  cases hmember : cache.member? key with
  | some bytes =>
      obtain ⟨other, hmem, hsame⟩ := exists_of_member?_eq_some hmember
      rw [buffer, hmember]
      exact .held hmem hsame
  | none =>
      have hnew := not_same_of_member?_eq_none hmember
      cases hfile : cache.file? key.path with
      | some bytes =>
          obtain ⟨path, hmem, hsame⟩ := exists_of_file?_eq_some hfile
          rw [buffer, hmember, fileBytes, hfile]
          exact .shared hnew hmem hsame
      | none =>
          have hunread := not_same_of_file?_eq_none hfile
          cases hdisk : disk key.path with
          | ok bytes =>
              rw [buffer, hmember, fileBytes, hfile, hdisk]
              exact .read hnew hunread hdisk
          | error fault =>
              rw [buffer, hmember, fileBytes, hfile, hdisk]
              exact .failed hnew hunread hdisk

theorem extract_eq (disk : Disk) (key : CacheKey) (cache : SourceCache) :
    cache.extract disk key =
      ((cache.buffer disk key).1.bind (stretch key), (cache.buffer disk key).2) := by
  rw [extract]
  cases cache.buffer disk key with
  | mk answer after => cases answer <;> rfl

@[simp]
theorem extract_fst :
    (cache.extract disk key).1 = (cache.buffer disk key).1.bind (stretch key) := by
  rw [extract_eq]

@[simp]
theorem extract_snd : (cache.extract disk key).2 = (cache.buffer disk key).2 := by
  rw [extract_eq]

theorem buffer_snd_of_error (h : (cache.buffer disk key).1 = .error failure) :
    (cache.buffer disk key).2 = cache := by
  have hbuffers := buffers disk key cache
  generalize cache.buffer disk key = after at hbuffers h
  cases hbuffers with
  | failed => rfl
  | _ => cases h

/-- The property does not depend on how a path is spelled. -/
def SpellingFree (P : Path → List UInt8 → Prop) : Prop :=
  ∀ ⦃left right : Path⦄ ⦃bytes : List UInt8⦄, left.same right → P left bytes → P right bytes

/-- All contents in the cache have the property for the path they are held under. -/
structure Holds (P : Path → List UInt8 → Prop) (cache : SourceCache) : Prop where
  of_file : ∀ ⦃path bytes⦄, (path, bytes) ∈ cache.files → P path bytes
  of_member : ∀ ⦃key bytes⦄, (key, bytes) ∈ cache.members → P key.path bytes

namespace Holds

variable {P Q : Path → List UInt8 → Prop}

theorem empty : Holds P .empty where
  of_file _ _ hmem := nomatch hmem
  of_member _ _ hmem := nomatch hmem

theorem clear : Holds P cache.clear where
  of_file _ _ hmem := nomatch hmem
  of_member _ _ hmem := nomatch hmem

theorem mono (himp : ∀ ⦃path bytes⦄, P path bytes → Q path bytes) (h : Holds P cache) :
    Holds Q cache where
  of_file _ _ hmem := himp (h.of_file hmem)
  of_member _ _ hmem := himp (h.of_member hmem)

theorem of_buffer_eq_ok (hfree : SpellingFree P)
    (hread : ∀ bytes, disk key.path = .ok bytes → P key.path bytes) (h : Holds P cache)
    (hok : (cache.buffer disk key).1 = .ok bytes) : P key.path bytes := by
  have hbuffers := buffers disk key cache
  -- answer and cache are one term, so that each way the call can go fixes both
  generalize cache.buffer disk key = after at hbuffers hok
  cases hbuffers with
  | held hmember hsame =>
      cases hok
      exact hfree (CacheKey.path_same_of_same hsame) (h.of_member hmember)
  | shared hnew hfile hsame =>
      cases hok
      exact hfree hsame (h.of_file hfile)
  | read hnew hunread hdisk =>
      cases hok
      exact hread _ hdisk
  | failed hnew hunread hdisk => cases hok

theorem buffer (hfree : SpellingFree P)
    (hread : ∀ bytes, disk key.path = .ok bytes → P key.path bytes) (h : Holds P cache) :
    Holds P (cache.buffer disk key).2 := by
  have hbuffers := buffers disk key cache
  generalize cache.buffer disk key = after at hbuffers
  cases hbuffers with
  | held hmember hsame => exact h
  | shared hnew hfile hsame =>
      refine ⟨h.of_file, fun other bytes hmem => ?_⟩
      obtain heq | hmem := List.mem_cons.mp hmem
      · cases heq
        exact hfree hsame (h.of_file hfile)
      · exact h.of_member hmem
  | read hnew hunread hdisk =>
      refine ⟨fun path bytes hmem => ?_, fun other bytes hmem => ?_⟩
      · obtain heq | hmem := List.mem_cons.mp hmem
        · cases heq
          exact hread _ hdisk
        · exact h.of_file hmem
      · obtain heq | hmem := List.mem_cons.mp hmem
        · cases heq
          exact hread _ hdisk
        · exact h.of_member hmem
  | failed hnew hunread hdisk => exact h

/-- What is held under a path is what the disk has there, so the answer is that of the disk. -/
theorem buffer_fst (hfree : SpellingFree P) (h : Holds P cache)
    (hdisk : ∀ bytes, P key.path bytes → disk key.path = .ok bytes) :
    (cache.buffer disk key).1 = (disk key.path).mapError Failure.file := by
  have hbuffers := buffers disk key cache
  generalize cache.buffer disk key = after at hbuffers
  cases hbuffers with
  | held hmember hsame =>
      rw [hdisk _ (hfree (CacheKey.path_same_of_same hsame) (h.of_member hmember))]
      rfl
  | shared hnew hfile hsame =>
      rw [hdisk _ (hfree hsame (h.of_file hfile))]
      rfl
  | read hnew hunread hread =>
      rw [hread]
      rfl
  | failed hnew hunread hread =>
      rw [hread]
      rfl

end Holds

end SourceCache

end Understudy
