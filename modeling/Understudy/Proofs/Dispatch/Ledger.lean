import Understudy.Proofs.Dispatch.Gather
import Understudy.Proofs.Dispatch.Invariant

/-!
# The ledger of a dispatch into a collection

`Pool.Ledger` accounts for every file that was started: its result is in the collection, or its
failure was reported, or its worker is still busy with it. The collection holds the results in the
order in which they were stored, and the recorded failure is the one that was reported first.
-/

namespace Understudy

open scoped List

/-- The failure that is recorded for a file. -/
def Work.failureOf (work : Work) (path : Path) : Option Failure :=
  match work path with
  | .ok _ => none
  | .error failure => some (failure.inFile path)

namespace Pool

/-- The file of a worker that has neither stored a result nor reported a failure. -/
def unsettled? (worker : Worker) : Option Path :=
  match worker.phase with
  | .done => none
  | _ => some worker.path

/-- A worker holds what its work came to. -/
def Faithful (work : Work) (worker : Worker) : Prop :=
  match worker.phase with
  | .loaded result => work worker.path = .ok result
  | .failed failure => work worker.path = .error failure
  | _ => True

structure Ledger (work : Work) (initial : Collection) (started : List Path)
    (pool : Pool Collection) (stored reported : List Path) : Prop where
  split : stored ++ reported ++ pool.workers.filterMap unsettled? ~ started
  faithful : ∀ worker ∈ pool.workers, Faithful work worker
  stored_ok : ∀ path ∈ stored, ∃ result, work path = .ok result
  reported_error : ∀ path ∈ reported, ∃ failure, work path = .error failure
  sink : pool.sink = initial.gather work stored
  failure : pool.failure = reported.head?.bind work.failureOf
  stopped : pool.driver = .stopped → pool.failure.isSome

variable {work : Work} {initial : Collection} {started stored reported : List Path}
  {pool : Pool Collection}

theorem ledger_start (limit : Nat) (paths : List Path) :
    Ledger work initial [] (start limit paths initial) [] [] where
  split := by simp [start]
  faithful := by simp [start]
  stored_ok := by simp
  reported_error := by simp
  sink := rfl
  failure := rfl
  stopped := by simp [start]

section Worker

variable {index : Nat} {path : Path} {phase : WorkerPhase}

theorem Ledger.faithful_at (h : Ledger work initial started pool stored reported)
    (hworker : pool.workers[index]? = some ⟨path, phase⟩) : Faithful work ⟨path, phase⟩ :=
  h.faithful _ (List.mem_of_getElem? hworker)

theorem Ledger.faithful_set (h : Ledger work initial started pool stored reported)
    (hnew : Faithful work ⟨path, phase⟩) :
    ∀ worker ∈ pool.workers.set index ⟨path, phase⟩, Faithful work worker := by
  intro worker hmem
  rcases List.mem_or_eq_of_mem_set hmem with hmem | rfl
  · exact h.faithful worker hmem
  · exact hnew

theorem Ledger.busy_perm (h : Ledger work initial started pool stored reported)
    (hworker : pool.workers[index]? = some ⟨path, phase⟩)
    (hbusy : unsettled? ⟨path, phase⟩ = some path) :
    path :: (stored ++ reported ++ (pool.workers.set index ⟨path, .done⟩).filterMap unsettled?) ~
      started := by
  have hworkers : pool.workers.filterMap unsettled? ~
      path :: (pool.workers.set index ⟨path, .done⟩).filterMap unsettled? :=
    filterMap_set_perm_of_eq_none unsettled? hworker hbusy rfl
  exact (List.perm_middle.symm.trans (hworkers.symm.append_left _)).trans h.split

theorem Ledger.begin (h : Ledger work initial started pool stored reported)
    (hworker : pool.workers[index]? = some ⟨path, .ready⟩) (hnew : Faithful work ⟨path, phase⟩)
    (hbusy : unsettled? ⟨path, phase⟩ = some path) :
    Ledger work initial started (pool.setPhase index path phase) stored reported where
  split := by
    have hsame : pool.workers.filterMap unsettled? ~
        (pool.workers.set index ⟨path, phase⟩).filterMap unsettled? :=
      filterMap_set_perm_of_eq unsettled? hworker hbusy.symm
    exact (hsame.symm.append_left _).trans h.split
  faithful := h.faithful_set hnew
  stored_ok := h.stored_ok
  reported_error := h.reported_error
  sink := h.sink
  failure := h.failure
  stopped := h.stopped

theorem Ledger.store (h : Ledger work initial started pool stored reported) {result : FileResult}
    (hworker : pool.workers[index]? = some ⟨path, .loaded result⟩) :
    Ledger work initial started
      { pool.setPhase index path .done with sink := pool.sink.add result }
      (stored ++ [path]) reported where
  split := by
    refine .trans ?_ (h.busy_perm hworker rfl)
    simp only [setPhase, List.append_assoc, List.cons_append]
    exact List.perm_middle
  faithful := h.faithful_set trivial
  stored_ok other hmem := by
    rcases List.mem_append.mp hmem with hmem | hmem
    · exact h.stored_ok other hmem
    · rw [List.mem_singleton.mp hmem]
      exact ⟨result, h.faithful_at hworker⟩
  reported_error := h.reported_error
  sink := by
    have hwork : work path = .ok result := h.faithful_at hworker
    rw [Collection.gather_append, ← h.sink]
    simp [Collection.gather, Collection.addFrom, hwork]
  failure := h.failure
  stopped := h.stopped

theorem Ledger.report (h : Ledger work initial started pool stored reported) {failure : Failure}
    (hworker : pool.workers[index]? = some ⟨path, .failed failure⟩) :
    Ledger work initial started ((pool.setPhase index path .done).record (failure.inFile path))
      stored (reported ++ [path]) where
  split := by
    refine .trans ?_ (h.busy_perm hworker rfl)
    rw [← List.append_assoc stored, List.append_assoc (stored ++ reported), List.singleton_append]
    exact List.perm_middle
  faithful := h.faithful_set trivial
  stored_ok := h.stored_ok
  reported_error other hmem := by
    rcases List.mem_append.mp hmem with hmem | hmem
    · exact h.reported_error other hmem
    · rw [List.mem_singleton.mp hmem]
      exact ⟨failure, h.faithful_at hworker⟩
  sink := h.sink
  failure := by
    have hwork : work path = .error failure := h.faithful_at hworker
    have hbefore := h.failure
    -- only the first report is recorded, so a failure that stands already stays
    cases reported with
    | nil =>
        have hnone : pool.failure = none := hbefore
        simp [record, setPhase, hnone, Work.failureOf, hwork]
    | cons first rest =>
        obtain ⟨cause, hcause⟩ := h.reported_error first (by simp)
        have hsome : pool.failure = some (cause.inFile first) := by
          simpa [Work.failureOf, hcause] using hbefore
        simp [record, setPhase, hsome, Work.failureOf, hcause]
  stopped _ := by simp [record]

theorem Ledger.leave (h : Ledger work initial started pool stored reported)
    (hworker : pool.workers[index]? = some ⟨path, .done⟩) :
    Ledger work initial started
      { pool with workers := pool.workers.eraseIdx index, permits := pool.permits.release }
      stored reported where
  split := by
    have hsame : pool.workers.filterMap unsettled? ~
        (pool.workers.eraseIdx index).filterMap unsettled? :=
      filterMap_eraseIdx_perm unsettled? hworker
    exact (hsame.symm.append_left _).trans h.split
  faithful worker hmem := h.faithful worker (List.mem_of_mem_eraseIdx hmem)
  stored_ok := h.stored_ok
  reported_error := h.reported_error
  sink := h.sink
  failure := h.failure
  stopped := h.stopped

end Worker

theorem Ledger.reported_eq_nil (h : Ledger work initial started pool stored reported)
    (hnone : pool.failure = none) : reported = [] := by
  cases reported with
  | nil => rfl
  | cons first rest =>
      obtain ⟨cause, hcause⟩ := h.reported_error first (by simp)
      have hfailure := h.failure
      simp [hnone, Work.failureOf, hcause] at hfailure

/-- The recorded failure is that of a file that was reported. -/
theorem Ledger.exists_cause (h : Ledger work initial started pool stored reported)
    {failure : Failure} (hsome : pool.failure = some failure) :
    ∃ path ∈ reported, ∃ cause, work path = .error cause ∧ failure = cause.inFile path := by
  have hfailure := h.failure
  rw [hsome] at hfailure
  cases reported with
  | nil => simp at hfailure
  | cons first rest =>
      obtain ⟨cause, hcause⟩ := h.reported_error first (by simp)
      have heq : failure = cause.inFile first := by
        simpa [Work.failureOf, hcause] using hfailure
      exact ⟨first, by simp, cause, hcause, heq⟩

theorem ledger_transition {trace : Trace} {next : Pool Collection} {move : Move}
    (h : Ledger work initial trace.started pool stored reported)
    (hstep : Transition work pool move next) :
    ∃ stored reported,
      Ledger work initial (trace.after pool move).started next stored reported := by
  cases hstep with
  | take hdriver hwaiting hpermits =>
      simp only [Trace.after, hdriver]
      exact ⟨stored, reported, { h with stopped := by simp }⟩
  | stop hdriver hfailure =>
      simp only [Trace.after, hdriver]
      exact ⟨stored, reported, { h with stopped := fun _ => hfailure }⟩
  | clear hdriver hfailure =>
      simp only [Trace.after, hdriver]
      exact ⟨stored, reported, { h with stopped := by simp }⟩
  | @start path rest hdriver hwaiting =>
      simp only [Trace.after, hdriver, hwaiting]
      refine ⟨stored, reported, ?_, ?_, h.stored_ok, h.reported_error, h.sink, h.failure, by simp⟩
      · simpa [unsettled?] using h.split.append_right [path]
      · intro worker hmem
        rcases List.mem_append.mp hmem with hmem | hmem
        · exact h.faithful worker hmem
        · rw [List.mem_singleton.mp hmem]
          trivial
  | load hworker hwork =>
      simp only [Trace.after, hworker]
      exact ⟨stored, reported, h.begin hworker hwork rfl⟩
  | fail hworker hwork =>
      simp only [Trace.after, hworker]
      exact ⟨stored, reported, h.begin hworker hwork rfl⟩
  | @store index path result sink hworker hsink =>
      simp only [Trace.after, hworker]
      cases hsink
      exact ⟨stored ++ [path], reported, h.store hworker⟩
  | refuse hworker hsink => cases hsink
  | @report index path failure hworker =>
      simp only [Trace.after, hworker]
      exact ⟨stored, reported ++ [path], h.report hworker⟩
  | leave hworker =>
      simp only [Trace.after, hworker]
      exact ⟨stored, reported, h.leave hworker⟩

theorem Reaches.ledger {limit : Nat} {paths : List Path} {trace : Trace}
    (hrun : Reaches work (start limit paths initial) trace pool) :
    ∃ stored reported, Ledger work initial trace.started pool stored reported := by
  refine hrun.invariant (P := fun trace pool =>
    ∃ stored reported, Ledger work initial trace.started pool stored reported)
    ⟨[], [], ledger_start limit paths⟩ ?_
  rintro trace pool next move ⟨stored, reported, h⟩ hstep
  exact ledger_transition h hstep

end Pool

end Understudy
