import Understudy.Proofs.Dispatch.Ledger

/-!
# How a dispatch under a limit ends

However driver and workers interleave, a dispatch that ends without a failure has worked on every
file and gathered every result once, and one that ends with a failure reports that of a started
file and has gathered the results of the started files that have one.
-/

namespace Understudy.Pool

open scoped List

variable {work : Work} {initial : Collection} {limit : Nat} {paths : List Path} {trace : Trace}
  {pool : Pool Collection}

theorem Reaches.ran_perm (hrun : Reaches work (start limit paths initial) trace pool)
    (hreturned : pool.Returned) : trace.ran ~ trace.started := by
  simpa [hreturned.1] using hrun.sound.ran

theorem Reaches.ran_nodup (hrun : Reaches work (start limit paths initial) trace pool)
    (hdistinct : Path.Distinct paths) : trace.ran.Nodup := by
  have hstarted : trace.started.Nodup := hdistinct.nodup.sublist hrun.started_prefix.sublist
  obtain ⟨ran, hperm, hsublist⟩ := hrun.ran_subperm
  exact hperm.nodup_iff.mp (hstarted.sublist hsublist)

/-- Files with a result and files with a failure, told apart in a list that holds both. -/
theorem perm_filter_succeeds {stored reported started : List Path}
    (hsplit : stored ++ reported ~ started)
    (hstored : ∀ path ∈ stored, ∃ result, work path = .ok result)
    (hreported : ∀ path ∈ reported, ∃ failure, work path = .error failure) :
    stored ~ started.filter work.succeeds := by
  refine .trans ?_ (hsplit.filter _)
  have hkept : stored.filter work.succeeds = stored :=
    List.filter_eq_self.mpr fun path hmem => Work.succeeds_iff.mpr (hstored path hmem)
  have hdropped : reported.filter work.succeeds = [] := by
    apply List.filter_eq_nil_iff.mpr
    intro path hmem hsucceeds
    obtain ⟨result, hok⟩ := Work.succeeds_iff.mp hsucceeds
    obtain ⟨failure, herror⟩ := hreported path hmem
    rw [hok] at herror
    cases herror
  rw [List.filter_append, hkept, hdropped, List.append_nil]

theorem Reaches.exists_gather (hrun : Reaches work (start limit paths initial) trace pool)
    (hreturned : pool.Returned) :
    ∃ order, order ~ trace.started.filter work.succeeds ∧
      pool.sink = initial.gather work order := by
  obtain ⟨stored, reported, hledger⟩ := hrun.ledger
  have hsplit : stored ++ reported ~ trace.started := by
    simpa [hreturned.1] using hledger.split
  exact ⟨stored, perm_filter_succeeds hsplit hledger.stored_ok hledger.reported_error,
    hledger.sink⟩

/-- Without a failure every file was started, and every one has a result. -/
theorem Reaches.of_success (hrun : Reaches work (start limit paths initial) trace pool)
    (hreturned : pool.Returned) (hnone : pool.failure = none) :
    trace.started = paths ∧ ∀ path ∈ paths, ∃ result, work path = .ok result := by
  obtain ⟨stored, reported, hledger⟩ := hrun.ledger
  have hwaiting : pool.waiting = [] := by
    rcases hreturned.2 with hstopped | ⟨_, hwaiting⟩
    · have hsome := hledger.stopped hstopped
      simp [hnone] at hsome
    · exact hwaiting
  have hstarted : trace.started = paths := by simpa [hwaiting] using hrun.sound.started
  have hsplit : stored ~ paths := by
    simpa [hreturned.1, hledger.reported_eq_nil hnone, hstarted] using hledger.split
  exact ⟨hstarted, fun path hmem => hledger.stored_ok path (hsplit.mem_iff.mpr hmem)⟩

theorem Reaches.of_failure (hrun : Reaches work (start limit paths initial) trace pool)
    {failure : Failure} (hsome : pool.failure = some failure) :
    ∃ path ∈ trace.started, ∃ cause, work path = .error cause ∧ failure = cause.inFile path := by
  obtain ⟨stored, reported, hledger⟩ := hrun.ledger
  obtain ⟨path, hmem, cause, hwork, heq⟩ := hledger.exists_cause hsome
  have hstarted : path ∈ trace.started :=
    hledger.split.mem_iff.mp (by simp [hmem])
  exact ⟨path, hstarted, cause, hwork, heq⟩

/-- The failure of a file names the file, unless it named one by itself. -/
theorem Reaches.of_failure_eq (hrun : Reaches work (start limit paths initial) trace pool)
    {failure : Failure} (hsome : pool.failure = some failure) :
    ∃ path ∈ trace.started, ∃ cause, work path = .error cause ∧
      failure = if cause.namesFile then cause else .within path cause := by
  obtain ⟨path, hmem, cause, hwork, heq⟩ := hrun.of_failure hsome
  exact ⟨path, hmem, cause, hwork, heq.trans (Failure.inFile_eq path cause)⟩

theorem Reaches.gather_of_success (hrun : Reaches work (start limit paths initial) trace pool)
    (hreturned : pool.Returned) (hnone : pool.failure = none) :
    ∃ order, order ~ paths ∧ pool.sink = initial.gather work order := by
  obtain ⟨order, hperm, hsink⟩ := hrun.exists_gather hreturned
  obtain ⟨hstarted, hok⟩ := hrun.of_success hreturned hnone
  have hall : paths.filter work.succeeds = paths :=
    List.filter_eq_self.mpr fun path hmem => Work.succeeds_iff.mpr (hok path hmem)
  rw [hstarted, hall] at hperm
  exact ⟨order, hperm, hsink⟩

/-- Without a failure the imports are those of a sequential run. -/
theorem Reaches.imports_of_success (hrun : Reaches work (start limit paths initial) trace pool)
    (hreturned : pool.Returned) (hnone : pool.failure = none)
    (hagrees : work.AgreesOnImports paths) :
    pool.sink.imports = (Dispatch.sequential work paths initial).sink.imports := by
  obtain ⟨order, hperm, hsink⟩ := hrun.gather_of_success hreturned hnone
  rw [hsink, Dispatch.sequential_of_ok (hrun.of_success hreturned hnone).2]
  exact (Collection.imports_gather_perm hagrees hperm.symm).symm

/-- **Every interleaving accounts for its files.** At most as many files are under way as the limit
allows; files are started in the order of the list and none is worked on twice. A dispatch that
returns without a failure has worked on every file and gathered every result once; its imports are
those of a sequential run where no two files bring different imports for one path. A dispatch that
returns a failure has it from a started file whose own work failed so, wrapped in the name of that
file unless it names a file already, and has gathered the results of just those started files that
have one. -/
theorem interleaving_accounts_for_files (hdistinct : Path.Distinct paths)
    (hrun : Reaches work (start limit paths {}) trace pool) :
    pool.workers.length ≤ max limit 1 ∧
    (trace.started <+: paths ∧ trace.ran.Nodup ∧ trace.ran ⊆ trace.started ∧
      (pool.Returned → trace.ran ~ trace.started)) ∧
    (pool.Returned → pool.finish.failure = none →
      trace.started = paths ∧ (∀ path ∈ paths, ∃ result, work path = .ok result) ∧
      pool.finish.sink.files = paths.length ∧
      (∃ order, order ~ paths ∧ pool.finish.sink.entities = order.flatMap work.entitiesOf ∧
        pool.finish.sink.imports = order.foldl (Collection.addImports work) {}) ∧
      (work.AgreesOnImports paths →
        pool.finish.sink.imports =
          (Dispatch.sequential work paths ({} : Collection)).sink.imports)) ∧
    (∀ failure, pool.Returned → pool.finish.failure = some failure →
      (∃ path ∈ trace.started, ∃ cause, work path = .error cause ∧
        failure = if cause.namesFile then cause else .within path cause) ∧
      ∃ order, order ~ trace.started.filter work.succeeds ∧
        pool.finish.sink = Collection.gather work {} order) := by
  refine ⟨hrun.length_workers_le, ?_, ?_, ?_⟩
  · exact ⟨hrun.started_prefix, hrun.ran_nodup hdistinct, hrun.ran_subperm.subset, hrun.ran_perm⟩
  · intro hreturned hnone
    obtain ⟨hstarted, hok⟩ := hrun.of_success hreturned hnone
    obtain ⟨order, hperm, hsink⟩ := hrun.gather_of_success hreturned hnone
    have hordered : ∀ path ∈ order, ∃ result, work path = .ok result := fun path hmem =>
      hok path (hperm.mem_iff.mp hmem)
    refine ⟨hstarted, hok, ?_, ⟨order, hperm, ?_, ?_⟩, ?_⟩
    · rw [finish, hsink, Collection.files_gather hordered, hperm.length_eq]
      simp
    · rw [finish, hsink, Collection.entities_gather]
      simp
    · rw [finish, hsink, Collection.imports_gather]
    · exact hrun.imports_of_success hreturned hnone
  · intro failure hreturned hsome
    exact ⟨hrun.of_failure_eq hsome, hrun.exists_gather hreturned⟩

/-- Three files of which the second has no tree. -/
def mixedFiles : List Path :=
  [⟨"A.swift"⟩, ⟨"B.swift"⟩, ⟨"C.swift"⟩]

def mixedWork : Work := fun path =>
  if path = ⟨"B.swift"⟩ then .error (.unparsed "no tree")
  else .ok ⟨[], .ofList [(path, ["import Foundation"])]⟩

theorem ownsImports_mixedWork : mixedWork.OwnsImports := by
  intro path result hwork
  unfold mixedWork at hwork
  split at hwork
  · cases hwork
  · cases hwork
    exact ⟨_, rfl⟩

/-- Two files are under way at once, the second fails, and the third is never started. Without the
second file the others are gathered, although the later one is done first. -/
theorem interleaving_accounts_for_mixed_files :
    (Path.Distinct mixedFiles ∧
      ∃ trace pool, Reaches mixedWork (start 2 mixedFiles ({} : Collection)) trace pool ∧
        pool.Returned ∧
        pool.finish.failure = some (.within ⟨"B.swift"⟩ (.unparsed "no tree")) ∧
        trace.started = [⟨"A.swift"⟩, ⟨"B.swift"⟩] ∧ pool.workers.length ≤ 2 ∧
        ∃ order, order ~ trace.started.filter mixedWork.succeeds ∧
          pool.finish.sink = Collection.gather mixedWork {} order) ∧
    Path.Distinct [⟨"A.swift"⟩, ⟨"C.swift"⟩] ∧
      ∃ trace pool, Reaches mixedWork
          (start 2 [⟨"A.swift"⟩, ⟨"C.swift"⟩] ({} : Collection)) trace pool ∧
        pool.Returned ∧ pool.finish.failure = none ∧
        trace.ran = [⟨"C.swift"⟩, ⟨"A.swift"⟩] ∧ pool.finish.sink.files = 2 ∧
        pool.finish.sink.imports = (Dispatch.sequential mixedWork [⟨"A.swift"⟩, ⟨"C.swift"⟩]
          ({} : Collection)).sink.imports := by
  constructor
  · have hdistinct : Path.Distinct mixedFiles := by
      unfold Path.Distinct
      decide
    obtain ⟨trace, pool, hrun, hreturned, hfailure, hstarted⟩ :
        ∃ trace pool, Reaches mixedWork (start 2 mixedFiles ({} : Collection)) trace pool ∧
          pool.Returned ∧
          pool.finish.failure = some (.within ⟨"B.swift"⟩ (.unparsed "no tree")) ∧
          trace.started = [⟨"A.swift"⟩, ⟨"B.swift"⟩] :=
      ⟨_, _, Reaches.refl.play
        [.driver, .driver, .driver, .driver, .driver, .driver, .worker 1, .worker 1, .worker 1,
          .driver, .driver, .worker 0, .worker 0, .worker 0] rfl, ⟨rfl, .inl rfl⟩, rfl, rfl⟩
    have haccounts := interleaving_accounts_for_files hdistinct hrun
    exact ⟨hdistinct, trace, pool, hrun, hreturned, hfailure, hstarted, haccounts.1,
      (haccounts.2.2.2 _ hreturned hfailure).2⟩
  · have hdistinct : Path.Distinct [⟨"A.swift"⟩, ⟨"C.swift"⟩] := by
      unfold Path.Distinct
      decide
    obtain ⟨trace, pool, hrun, hreturned, hnone, hran⟩ :
        ∃ trace pool, Reaches mixedWork
            (start 2 [⟨"A.swift"⟩, ⟨"C.swift"⟩] ({} : Collection)) trace pool ∧
          pool.Returned ∧ pool.finish.failure = none ∧
          trace.ran = [⟨"C.swift"⟩, ⟨"A.swift"⟩] :=
      ⟨_, _, Reaches.refl.play
        [.driver, .driver, .driver, .driver, .driver, .driver, .worker 1, .worker 1, .worker 1,
          .worker 0, .worker 0, .worker 0] rfl, ⟨rfl, .inr ⟨rfl, rfl⟩⟩, rfl, rfl⟩
    obtain ⟨_, _, hfiles, _, himports⟩ :=
      (interleaving_accounts_for_files hdistinct hrun).2.2.1 hreturned hnone
    exact ⟨hdistinct, trace, pool, hrun, hreturned, hnone, hran, hfiles,
      himports (ownsImports_mixedWork.agrees hdistinct)⟩

/-- Every file brings an import for one and the same path. -/
def sharedWork : Work := fun path =>
  .ok ⟨[], .ofList [(⟨"Shared.swift"⟩, ["import " ++ path.text])]⟩

/-- Every file fails with a failure that names another file. -/
def blamingWork : Work := fun _ =>
  .error (.within ⟨"B.swift"⟩ (.unparsed "no tree"))

/-- Of two files that bring different imports for one path, the one that is done last has its
imports kept, which need not be the last of the list. A failure that names a file already is
reported as it is, so it does not name the file that was worked on. -/
theorem not_accounts_for_shared_imports :
    (Path.Distinct [⟨"A.swift"⟩, ⟨"C.swift"⟩] ∧
      ∃ trace pool, Reaches sharedWork
          (start 2 [⟨"A.swift"⟩, ⟨"C.swift"⟩] ({} : Collection)) trace pool ∧
        pool.Returned ∧ pool.finish.failure = none ∧
        pool.finish.sink.imports ≠ (Dispatch.sequential sharedWork [⟨"A.swift"⟩, ⟨"C.swift"⟩]
          ({} : Collection)).sink.imports) ∧
    Path.Distinct [⟨"A.swift"⟩] ∧
      ∃ trace pool, Reaches blamingWork (start 1 [⟨"A.swift"⟩] ({} : Collection)) trace pool ∧
        pool.Returned ∧ ∃ failure, pool.finish.failure = some failure ∧
          ¬∃ path ∈ trace.started, ∃ cause, blamingWork path = .error cause ∧
            failure = .within path cause := by
  constructor
  · have hdistinct : Path.Distinct [⟨"A.swift"⟩, ⟨"C.swift"⟩] := by
      unfold Path.Distinct
      decide
    refine ⟨hdistinct, _, _, Reaches.refl.play
      [.driver, .driver, .driver, .driver, .driver, .driver, .worker 1, .worker 1, .worker 1,
        .worker 0, .worker 0, .worker 0] rfl, ⟨rfl, .inr ⟨rfl, rfl⟩⟩, rfl, ?_⟩
    decide
  · refine ⟨List.pairwise_singleton _ _, _, _, Reaches.refl.play
      [.driver, .driver, .driver, .worker 0, .worker 0, .worker 0] rfl,
      ⟨rfl, .inr ⟨rfl, rfl⟩⟩, _, rfl, ?_⟩
    rintro ⟨path, _, cause, hwork, hfailure⟩
    cases hwork
    cases hfailure

end Understudy.Pool
