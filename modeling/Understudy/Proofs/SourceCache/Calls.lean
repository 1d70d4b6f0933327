import Mathlib.Algebra.GroupWithZero.Nat
import Mathlib.Data.Finset.Card
import Understudy.FileTree
import Understudy.Proofs.Failure.Results
import Understudy.Proofs.SourceCache.Contents
import Understudy.Proofs.Text.Utf8

/-!
# Calls on one cache

A cache that answered any sequence of calls still answers as a new one does, counts the members
it was asked for since it was cleared, and reads every file once between two clearings
(`SourceCache.after_agrees`). This needs the spellings of one path that are asked for between two
clearings to have the same contents, as `SourceCache.extract_after_other_spelling` shows.

The invariant `SourceCache.Accounts` ties the cache to the keys asked for so far. One call keeps it,
and so does every sequence of calls.
-/

namespace Understudy.SourceCache

variable {disk : Disk} {cache : SourceCache} {key : CacheKey} {asked : List CacheKey}

inductive Extracts (disk : Disk) (key : CacheKey) : Except Failure String → Prop where
  | unreadable {fault : FileFault} (hdisk : disk key.path = .error fault) :
      Extracts disk key (.error (.file fault))
  | outside {bytes : List UInt8} (hdisk : disk key.path = .ok bytes)
      (hbeyond : bytes.length < key.offset + key.length) :
      Extracts disk key
        (.error (.extraction
          (.outside key.name key.path key.offset (key.offset + key.length) bytes.length)))
  | notText {bytes : List UInt8} {fault : Text.Utf8.Fault} (hdisk : disk key.path = .ok bytes)
      (hwithin : key.offset + key.length ≤ bytes.length)
      (hbytes : ∀ text, Text.Utf8.encode text ≠ (bytes.drop key.offset).take key.length) :
      Extracts disk key (.error (.extraction (.notUtf8 key.name key.path fault)))
  | text {bytes : List UInt8} {text : String} (hdisk : disk key.path = .ok bytes)
      (hwithin : key.offset + key.length ≤ bytes.length)
      (hbytes : Text.Utf8.encode text.toList = (bytes.drop key.offset).take key.length) :
      Extracts disk key (.ok text)

theorem extracts (disk : Disk) (key : CacheKey) :
    Extracts disk key (((disk key.path).mapError Failure.file).bind (stretch key)) := by
  cases hdisk : disk key.path with
  | error fault => exact .unreadable hdisk
  | ok bytes =>
      change Extracts disk key (stretch key bytes)
      by_cases hwithin : key.stop ≤ bytes.length
      · rw [stretch, if_pos hwithin]
        cases hdecode : Text.Utf8.decode ((bytes.drop key.offset).take key.length) with
        | ok text =>
            refine .text hdisk hwithin ?_
            rw [String.toList_ofList]
            exact Text.Utf8.decode_eq_ok_iff.mp hdecode
        | error fault =>
            refine .notText hdisk hwithin fun text hencode => ?_
            rw [Text.Utf8.decode_eq_ok_iff.mpr hencode] at hdecode
            cases hdecode
      · rw [stretch, if_neg hwithin]
        exact .outside hdisk (Nat.lt_of_not_le hwithin)

inductive Call where
  | buffer (key : CacheKey)
  | extract (key : CacheKey)
  | clear

def Call.apply (disk : Disk) (cache : SourceCache) : Call → SourceCache
  | .buffer key => (cache.buffer disk key).2
  | .extract key => (cache.extract disk key).2
  | .clear => cache.clear

/-- A new cache after a sequence of calls. -/
def after (disk : Disk) (calls : List Call) : SourceCache :=
  calls.foldl (Call.apply disk) .empty

/-- The keys asked for in each stretch between two clearings, and since the last one. -/
structure Log where
  earlier : List (List CacheKey) := []
  asked : List CacheKey := []

namespace Log

def ask (log : Log) (key : CacheKey) : Log :=
  { log with asked := log.asked ++ [key] }

def add (log : Log) : Call → Log
  | .buffer key => log.ask key
  | .extract key => log.ask key
  | .clear => ⟨log.earlier ++ [log.asked], []⟩

def of (calls : List Call) : Log :=
  calls.foldl add {}

def stretches (log : Log) : List (List CacheKey) :=
  log.earlier ++ [log.asked]

/-- The spellings of one path that are asked for in one stretch have the same contents. -/
def Coherent (disk : Disk) (log : Log) : Prop :=
  ∀ stretch ∈ log.stretches, ∀ left ∈ stretch, ∀ right ∈ stretch,
    left.path.same right.path → (disk left.path).toOption = (disk right.path).toOption

instance {log : Log} : Decidable (log.Coherent disk) :=
  inferInstanceAs (Decidable (∀ stretch ∈ log.stretches, ∀ left ∈ stretch, ∀ right ∈ stretch,
    left.path.same right.path → (disk left.path).toOption = (disk right.path).toOption))

theorem Coherent.of_ask {log : Log} (h : (log.ask key).Coherent disk) : log.Coherent disk := by
  intro stretch hstretch left hleft right hright hsame
  obtain hearlier | hlast := List.mem_append.mp hstretch
  · exact h stretch (List.mem_append_left _ hearlier) left hleft right hright hsame
  · obtain rfl := List.mem_singleton.mp hlast
    exact h (log.asked ++ [key]) (List.mem_append_right _ (List.mem_singleton_self _)) left
      (List.mem_append_left _ hleft) right (List.mem_append_left _ hright) hsame

theorem Coherent.of_add {log : Log} {call : Call} (h : (log.add call).Coherent disk) :
    log.Coherent disk := by
  cases call with
  | buffer key => exact h.of_ask
  | extract key => exact h.of_ask
  | clear => exact fun stretch hstretch => h stretch (List.mem_append_left _ hstretch)

end Log

/-- What the keys asked for have under a view, of those whose file can be read. -/
def readable {α : Type} [DecidableEq α] (disk : Disk) (view : CacheKey → α)
    (asked : List CacheKey) : Finset α :=
  ((asked.filter fun key => (disk key.path).toBool).map view).toFinset

section Readable

variable {α : Type} [DecidableEq α] {view : CacheKey → α} {bytes : List UInt8}
  {fault : FileFault}

theorem readable_append_of_ok (h : disk key.path = .ok bytes) :
    readable disk view (asked ++ [key]) = insert (view key) (readable disk view asked) := by
  simp [readable, List.filter_append, h, Except.toBool, Finset.union_comm]

theorem readable_append_of_error (h : disk key.path = .error fault) :
    readable disk view (asked ++ [key]) = readable disk view asked := by
  simp [readable, List.filter_append, h, Except.toBool]

theorem readable_append_of_mem (h : view key ∈ readable disk view asked) :
    readable disk view (asked ++ [key]) = readable disk view asked := by
  cases hdisk : disk key.path with
  | ok bytes => rw [readable_append_of_ok hdisk, Finset.insert_eq_of_mem h]
  | error fault => exact readable_append_of_error hdisk

/-- The path of a key that is held is held. -/
theorem components_mem_of_identity_mem (h : key.identity ∈ readable disk CacheKey.identity asked) :
    key.components ∈ readable disk CacheKey.components asked := by
  simp only [readable, List.mem_toFinset, List.mem_map] at h ⊢
  obtain ⟨other, hother, hidentity⟩ := h
  exact ⟨other, hother, congrArg Prod.fst hidentity⟩

end Readable

/-- The list has the elements of the set, each once. -/
structure Lists {α : Type} [DecidableEq α] (list : List α) (set : Finset α) : Prop where
  nodup : list.Nodup
  toFinset_eq : list.toFinset = set

namespace Lists

variable {α : Type} [DecidableEq α] {list : List α} {set : Finset α} {a : α}

theorem length_eq (h : Lists list set) : list.length = set.card := by
  rw [← h.toFinset_eq, List.toFinset_card_of_nodup h.nodup]

theorem mem (h : Lists list set) (hmem : a ∈ list) : a ∈ set := by
  rw [← h.toFinset_eq]
  exact List.mem_toFinset.mpr hmem

theorem cons (h : Lists list set) (hnew : a ∉ list) : Lists (a :: list) (insert a set) where
  nodup := List.nodup_cons.mpr ⟨hnew, h.nodup⟩
  toFinset_eq := by rw [List.toFinset_cons, h.toFinset_eq]

end Lists

theorem components_not_mem (h : ∀ entry ∈ cache.files, ¬entry.1.same key.path) :
    key.components ∉ cache.files.map fun entry => entry.1.components := by
  intro hmem
  obtain ⟨entry, hentry, hcomponents⟩ := List.mem_map.mp hmem
  exact h entry hentry (Path.same_iff.mpr hcomponents)

theorem identity_not_mem (h : ∀ entry ∈ cache.members, ¬entry.1.same key) :
    key.identity ∉ cache.members.map fun entry => entry.1.identity := by
  intro hmem
  obtain ⟨entry, hentry, hidentity⟩ := List.mem_map.mp hmem
  exact h entry hentry (CacheKey.same_iff.mpr hidentity)

/-! ### The invariant -/

/-- A spelling of the path was asked for, and the disk has the contents there. -/
def Asked (disk : Disk) (asked : List CacheKey) (path : Path) (bytes : List UInt8) : Prop :=
  ∃ key ∈ asked, key.path.same path ∧ disk key.path = .ok bytes

theorem Asked.spellingFree : SpellingFree (Asked disk asked) := by
  rintro left right bytes hsame ⟨key, hmem, hleft, hdisk⟩
  exact ⟨key, hmem, Path.same_trans hleft hsame, hdisk⟩

theorem Asked.append {path : Path} {bytes : List UInt8} (h : Asked disk asked path bytes) :
    Asked disk (asked ++ [key]) path bytes := by
  obtain ⟨other, hmem, hrest⟩ := h
  exact ⟨other, List.mem_append_left _ hmem, hrest⟩

/-- In a coherent stretch all spellings of a path have the contents of the one asked for. -/
theorem Asked.disk_eq {log : Log} (hcoherent : (log.ask key).Coherent disk) {bytes : List UInt8}
    (h : Asked disk (log.asked ++ [key]) key.path bytes) : disk key.path = .ok bytes := by
  obtain ⟨other, hmem, hsame, hdisk⟩ := h
  have hlast : log.asked ++ [key] ∈ (log.ask key).stretches :=
    List.mem_append_right _ (List.mem_singleton_self _)
  have hkey : key ∈ log.asked ++ [key] := List.mem_append_right _ (List.mem_singleton_self _)
  refine eq_ok_of_toOption ?_
  rw [← hcoherent _ hlast other hmem key hkey hsame, hdisk]
  rfl

/-- The cache holds the contents of the files asked for since the last clearing, each once, and has
read as many in every stretch as there are readable paths. -/
structure Accounts (disk : Disk) (log : Log) (cache : SourceCache) : Prop where
  holds : Holds (Asked disk log.asked) cache
  files : Lists (cache.files.map fun entry => entry.1.components)
    (readable disk CacheKey.components log.asked)
  members : Lists (cache.members.map fun entry => entry.1.identity)
    (readable disk CacheKey.identity log.asked)
  decodes : cache.decodes =
    (log.earlier.map fun stretch => (readable disk CacheKey.components stretch).card).sum +
      cache.files.length

namespace Accounts

variable {log : Log}

theorem empty : Accounts disk {} .empty where
  holds := Holds.empty
  files := ⟨List.nodup_nil, rfl⟩
  members := ⟨List.nodup_nil, rfl⟩
  decodes := rfl

theorem clear (h : Accounts disk log cache) : Accounts disk (log.add .clear) cache.clear where
  holds := Holds.clear
  files := ⟨List.nodup_nil, rfl⟩
  members := ⟨List.nodup_nil, rfl⟩
  decodes := by
    have hlength := h.files.length_eq
    rw [List.length_map] at hlength
    simp only [SourceCache.clear, Log.add, List.map_append, List.map_cons, List.map_nil,
      List.sum_append, List.sum_cons, List.sum_nil, List.length_nil, h.decodes, hlength]
    omega

theorem holds_ask (h : Accounts disk log cache) : Holds (Asked disk (log.asked ++ [key])) cache :=
  h.holds.mono fun _ _ => Asked.append

theorem buffer_fst (hcoherent : (log.ask key).Coherent disk) (h : Accounts disk log cache) :
    (cache.buffer disk key).1 = (disk key.path).mapError Failure.file :=
  h.holds_ask.buffer_fst Asked.spellingFree fun _ => Asked.disk_eq hcoherent

theorem ask (hcoherent : (log.ask key).Coherent disk) (h : Accounts disk log cache) :
    Accounts disk (log.ask key) (cache.buffer disk key).2 := by
  have hafter : Holds (Asked disk (log.asked ++ [key])) (cache.buffer disk key).2 :=
    h.holds_ask.buffer Asked.spellingFree fun bytes hdisk =>
      ⟨key, List.mem_append_right _ (List.mem_singleton_self _), Path.same_refl _, hdisk⟩
  have hbuffers := buffers disk key cache
  generalize cache.buffer disk key = after at hbuffers hafter
  cases hbuffers with
  | @held other bytes hmember hsame =>
      have hkey : key.identity ∈ readable disk CacheKey.identity log.asked :=
        h.members.mem (List.mem_map.mpr ⟨_, hmember, CacheKey.same_iff.mp hsame⟩)
      refine ⟨hafter, ?_, ?_, h.decodes⟩
      · rw [Log.ask, readable_append_of_mem (components_mem_of_identity_mem hkey)]
        exact h.files
      · rw [Log.ask, readable_append_of_mem hkey]
        exact h.members
  | @shared path bytes hnew hfile hsame =>
      have hpath : key.components ∈ readable disk CacheKey.components log.asked :=
        h.files.mem (List.mem_map.mpr ⟨_, hfile, Path.same_iff.mp hsame⟩)
      -- a coherent stretch: the file that is held is the one that the key's own path leads to
      have hdisk : disk key.path = .ok bytes :=
        Asked.disk_eq hcoherent (Asked.spellingFree hsame (h.holds_ask.of_file hfile))
      refine ⟨hafter, ?_, ?_, h.decodes⟩
      · rw [Log.ask, readable_append_of_mem hpath]
        exact h.files
      · rw [Log.ask, readable_append_of_ok hdisk]
        exact h.members.cons (identity_not_mem hnew)
  | @read bytes hnew hunread hdisk =>
      refine ⟨hafter, ?_, ?_, congrArg (· + 1) h.decodes⟩
      · rw [Log.ask, readable_append_of_ok hdisk]
        exact h.files.cons (components_not_mem hunread)
      · rw [Log.ask, readable_append_of_ok hdisk]
        exact h.members.cons (identity_not_mem hnew)
  | @failed fault hnew hunread hdisk =>
      refine ⟨hafter, ?_, ?_, h.decodes⟩
      · rw [Log.ask, readable_append_of_error hdisk]
        exact h.files
      · rw [Log.ask, readable_append_of_error hdisk]
        exact h.members

theorem apply {call : Call} (hcoherent : (log.add call).Coherent disk)
    (h : Accounts disk log cache) : Accounts disk (log.add call) (call.apply disk cache) := by
  cases call with
  | buffer key => exact h.ask hcoherent
  | extract key =>
      rw [Call.apply, extract_snd]
      exact h.ask hcoherent
  | clear => exact h.clear

end Accounts

theorem accounts_after (calls : List Call) (hcoherent : (Log.of calls).Coherent disk) :
    Accounts disk (Log.of calls) (after disk calls) := by
  induction calls using List.reverseRecOn with
  | nil => exact Accounts.empty
  | append_singleton calls call ih =>
      rw [Log.of, after, List.foldl_append, List.foldl_append] at *
      exact (ih hcoherent.of_add).apply hcoherent

theorem extract_fst_empty :
    (empty.extract disk key).1 = ((disk key.path).mapError Failure.file).bind (stretch key) := by
  have hholds : Holds (fun _ _ => False) empty := Holds.empty
  rw [extract_fst, hholds.buffer_fst (fun _ _ _ _ h => h) fun _ h => h.elim]

/-- **After any calls, in each stretch of which the spellings of one path have the same contents,
the cache answers as a new one does and as the disk has it, an unreadable file changes nothing,
and the counts are those of the readable keys and paths asked for.** -/
theorem after_agrees (disk : Disk) (calls : List Call) (hcoherent : (Log.of calls).Coherent disk) :
    (∀ key, ((Log.of calls).ask key).Coherent disk →
      ((after disk calls).extract disk key).1 = (empty.extract disk key).1 ∧
      Extracts disk key ((after disk calls).extract disk key).1 ∧
      ∀ fault, disk key.path = .error fault →
        ((after disk calls).buffer disk key).2 = after disk calls ∧
        ((after disk calls).extract disk key).2 = after disk calls) ∧
    (after disk calls).size = (readable disk CacheKey.identity (Log.of calls).asked).card ∧
    (after disk calls).decodes =
      ((Log.of calls).stretches.map fun stretch =>
        (readable disk CacheKey.components stretch).card).sum := by
  have haccounts := accounts_after calls hcoherent
  have hanswer : ∀ key, ((Log.of calls).ask key).Coherent disk →
      ((after disk calls).extract disk key).1 =
        ((disk key.path).mapError Failure.file).bind (stretch key) := by
    intro key hkey
    rw [extract_fst, haccounts.buffer_fst hkey]
  refine ⟨fun key hkey => ⟨?_, ?_, fun fault hdisk => ?_⟩, ?_, ?_⟩
  · rw [hanswer key hkey, extract_fst_empty]
  · rw [hanswer key hkey]
    exact extracts disk key
  · have hfailed : ((after disk calls).buffer disk key).1 = .error (.file fault) := by
      rw [haccounts.buffer_fst hkey, hdisk]
      rfl
    rw [extract_snd, buffer_snd_of_error hfailed]
    exact ⟨rfl, rfl⟩
  · rw [size, ← haccounts.members.length_eq, List.length_map]
  · rw [haccounts.decodes, Log.stretches, List.map_append, List.sum_append, List.map_singleton,
      List.sum_singleton, ← haccounts.files.length_eq, List.length_map]

def letters : Workspace :=
  { root := .directory [("a", .file [97, 98, 99, 100])] }

def letterKey (path : String) (offset length : Nat) : CacheKey :=
  { path := ⟨path⟩, name := "x", typeText := "", offset, length }

/-- A file is read again after a clearing, for a stretch that it does not have, another one cannot
be read, and the first is read by another path as well. -/
def letterCalls : List Call :=
  [.extract (letterKey "a" 0 3), .clear, .extract (letterKey "a" 2 3), .buffer (letterKey "b" 0 1),
    .buffer (letterKey "./a" 0 3), .extract (letterKey "a" 1 2)]

theorem after_agrees_of_letters :
    (Log.of letterCalls).Coherent letters.disk ∧
      ((Log.of letterCalls).ask (letterKey "a" 0 3)).Coherent letters.disk ∧
      ((after letters.disk letterCalls).extract letters.disk (letterKey "a" 0 3)).1 =
        (empty.extract letters.disk (letterKey "a" 0 3)).1 ∧
      (after letters.disk letterCalls).size = 3 ∧ (after letters.disk letterCalls).decodes = 3 := by
  have hcoherent : (Log.of letterCalls).Coherent letters.disk := by decide +kernel
  have hkey : ((Log.of letterCalls).ask (letterKey "a" 0 3)).Coherent letters.disk := by
    decide +kernel
  obtain ⟨hcalls, hsize, hdecodes⟩ := after_agrees letters.disk letterCalls hcoherent
  refine ⟨hcoherent, hkey, (hcalls _ hkey).1, hsize.trans ?_, hdecodes.trans ?_⟩
  · decide +kernel
  · decide +kernel

/-- A file with a slash after its name cannot be read, but the path is the same as without, so the
cache answers with the file once it holds it. -/
theorem extract_after_other_spelling :
    letters.disk ⟨"a/"⟩ = .error .notDirectory ∧
      (empty.extract letters.disk (letterKey "a/" 0 3)).1 = .error (.file .notDirectory) ∧
      ((after letters.disk [.extract (letterKey "a" 0 3)]).extract letters.disk
        (letterKey "a/" 0 3)).1 = .ok "abc" := by
  decide +kernel

end Understudy.SourceCache
