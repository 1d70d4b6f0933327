import Understudy.Proofs.Dispatch.Outcome

/-!
# Every order of arrival

`Dispatch.CanEnd` is how a run over files can end, under a limit or without one, when driver and
workers move in any order. A run over files that all succeed gathers their results in some order,
and when the limit lets all files be under way at once it can gather them in any order: start every
file, then let the workers finish one after another as they are wanted.
-/

namespace Understudy

open scoped List

namespace Pool

variable {work : Work} {initial : Collection} {limit : Nat} {paths order : List Path}

def fresh (path : Path) : Worker :=
  ⟨path, .ready⟩

/-- With a permit for each waiting file all of them can be started before any worker moves. -/
theorem exists_reaches_started {σ : Type} [Sink σ] {pool : Pool σ} (hdriver : pool.driver = .idle)
    (hfailure : pool.failure = none) (hfree : pool.waiting.length ≤ pool.permits.free) :
    ∃ trace last, Reaches work pool trace last ∧ last.driver = .idle ∧ last.waiting = [] ∧
      last.failure = none ∧ last.sink = pool.sink ∧
      last.workers = pool.workers ++ pool.waiting.map fresh := by
  induction hwaiting : pool.waiting generalizing pool with
  | nil => exact ⟨{}, pool, .refl, hdriver, hwaiting, hfailure, rfl, by simp⟩
  | cons path rest ih =>
      rw [hwaiting, List.length_cons] at hfree
      obtain ⟨permits, hpermits⟩ :=
        Option.isSome_iff_exists.mp (acquire?_isSome_iff.mpr (Nat.zero_lt_of_lt hfree))
      have hleft : rest.length ≤ permits.free := by
        have htotal := Permits.total_acquire? hpermits
        have hheld := held_acquire? hpermits
        simp only [Permits.total] at htotal
        omega
      have hidle : Reaches work pool {} pool := .refl
      have hstarted := ((hidle.step
        (step_eq_some_iff.mpr (.take hdriver hwaiting hpermits))).step
        (step_eq_some_iff.mpr (.clear rfl hfailure))).step
        (step_eq_some_iff.mpr (.start rfl hwaiting))
      obtain ⟨later, last, hlater, hlast⟩ :=
        @ih { pool with
            waiting := rest
            driver := .idle
            permits
            workers := pool.workers ++ [fresh path] } rfl hfailure hleft rfl
      exact ⟨_, last, hstarted.append hlater, by simpa using hlast⟩

theorem exists_reaches_served {pool : Pool Collection} {index : Nat} {path : Path}
    {result : FileResult} (hworker : pool.workers[index]? = some (fresh path))
    (hwork : work path = .ok result) :
    ∃ trace permits, Reaches work pool trace
      { pool with
        workers := pool.workers.eraseIdx index
        permits
        sink := pool.sink.add result } := by
  have hlt : index < pool.workers.length := (List.getElem?_eq_some_iff.mp hworker).1
  have hset {workers : List Worker} (hlength : workers.length = pool.workers.length)
      (worker : Worker) : (workers.set index worker)[index]? = some worker :=
    List.getElem?_set_self (hlength ▸ hlt)
  have hrun := ((Reaches.refl.step (step_eq_some_iff.mpr (.load hworker hwork))).step
    (step_eq_some_iff.mpr (.store (hset rfl _) rfl))).step
    (step_eq_some_iff.mpr (.leave (hset List.length_set _)))
  simp only [setPhase, List.eraseIdx_set_eq] at hrun
  exact ⟨_, _, hrun⟩

/-- Workers that succeed can finish in any order. -/
theorem exists_reaches_gather {pool : Pool Collection} {queued : List Path}
    (hdriver : pool.driver = .idle) (hwaiting : pool.waiting = [])
    (hworkers : pool.workers = queued.map fresh) (hperm : order ~ queued)
    (hok : ∀ path ∈ order, ∃ result, work path = .ok result) :
    ∃ trace last, Reaches work pool trace last ∧ last.Returned ∧ last.failure = pool.failure ∧
      last.sink = pool.sink.gather work order := by
  induction order generalizing pool queued with
  | nil =>
      have hqueued : queued = [] := hperm.symm.eq_nil
      refine ⟨{}, pool, .refl, ⟨by simp [hworkers, hqueued], .inr ⟨hdriver, hwaiting⟩⟩, rfl, rfl⟩
  | cons path rest ih =>
      -- the worker of the file wanted next runs alone, and the others stay as they are
      obtain ⟨result, hwork⟩ := hok path List.mem_cons_self
      obtain ⟨index, hlt, hpath⟩ :=
        List.mem_iff_getElem.mp (hperm.subset (List.mem_cons_self (a := path)))
      have hworker : pool.workers[index]? = some (fresh path) := by
        simp [hworkers, hlt, hpath]
      have hrest : rest ~ queued.eraseIdx index := by
        have herase : path :: queued.eraseIdx index ~ queued :=
          hpath ▸ List.getElem_cons_eraseIdx_perm hlt
        exact (hperm.trans herase.symm).cons_inv
      obtain ⟨trace, permits, hserved⟩ := exists_reaches_served hworker hwork
      obtain ⟨later, last, hlater, hreturned, hfailure, hsink⟩ :=
        @ih { pool with
            workers := pool.workers.eraseIdx index
            permits
            sink := pool.sink.add result }
          (queued.eraseIdx index) hdriver hwaiting (by simp [hworkers, List.eraseIdx_map]) hrest
          fun other hother => hok other (List.mem_cons_of_mem _ hother)
      refine ⟨_, last, hserved.append hlater, hreturned, hfailure, ?_⟩
      simp only [hsink, Collection.gather_cons, Collection.addFrom, hwork]

theorem Reaches.failure_eq_none {trace : Trace} {pool : Pool Collection}
    (hrun : Reaches work (start limit paths initial) trace pool)
    (hok : ∀ path ∈ paths, ∃ result, work path = .ok result) : pool.failure = none := by
  cases hfailure : pool.failure with
  | none => rfl
  | some failure =>
      obtain ⟨path, hstarted, cause, herror, _⟩ := hrun.of_failure hfailure
      obtain ⟨result, hwork⟩ := hok path (hrun.started_prefix.subset hstarted)
      simp [hwork] at herror

/-- Letting the oldest worker go first is one way to run a pool, up to where neither it nor the
driver can move. -/
theorem exists_reaches_settle {σ : Type} [Sink σ] (work : Work) (pool : Pool σ) :
    ∃ trace, Reaches work pool trace (pool.settle work) ∧
      (pool.settle work).step work (pool.settle work).nextMove = none := by
  induction hweight : pool.weight using Nat.strongRecOn generalizing pool with
  | ind weight ih =>
      rw [settle]
      split
      · next next hstep =>
        obtain ⟨trace, hsettle, hstuck⟩ := ih next.weight (hweight ▸ weight_step_lt hstep) next rfl
        exact ⟨_, (Reaches.refl.step hstep).append hsettle, hstuck⟩
      · next hstuck => exact ⟨{}, .refl, hstuck⟩

theorem Sound.returned {σ : Type} [Sink σ] {trace : Trace} {pool : Pool σ}
    (h : Sound limit paths trace pool) (hstuck : pool.step work pool.nextMove = none) :
    pool.Returned := by
  by_contra hloop
  unfold nextMove at hstuck
  split at hstuck
  · next hempty =>
    obtain ⟨next, hstep⟩ : ∃ next, pool.step work .driver = some next :=
      h.exists_driverStep (List.isEmpty_iff.mp hempty) hloop
    simp [hstuck] at hstep
  · next hworkers =>
    obtain ⟨next, hstep⟩ : ∃ next, pool.step work (.worker 0) = some next :=
      exists_workerStep fun hnil => hworkers (by simp [hnil])
    simp [hstuck] at hstep

end Pool

namespace Dispatch

variable {work : Work} {initial : Collection} {limit : Option Nat} {paths order : List Path}
  {last : RunEnd Collection}

/-- How a run over files can end when driver and workers move in any order. -/
def CanEnd (limit : Option Nat) (work : Work) (paths : List Path) (initial : Collection)
    (last : RunEnd Collection) : Prop :=
  match limit with
  | none => last = sequential work paths initial
  | some limit => ∃ trace pool, Pool.Reaches work (Pool.start limit paths initial) trace pool ∧
      pool.Returned ∧ last = pool.finish

/-- The run of the program is one of them. -/
theorem canEnd_run (limit : Option Nat) (work : Work) (paths : List Path) (initial : Collection) :
    CanEnd limit work paths initial (run limit work paths initial) := by
  cases limit with
  | none => rfl
  | some limit =>
      obtain ⟨trace, hrun, hstuck⟩ :=
        Pool.exists_reaches_settle work (Pool.start limit paths initial)
      exact ⟨trace, _, hrun, hrun.sound.returned hstuck, rfl⟩

theorem CanEnd.exists_gather (h : CanEnd limit work paths initial last)
    (hok : ∀ path ∈ paths, ∃ result, work path = .ok result) :
    ∃ order, order ~ paths ∧ last = ⟨none, initial.gather work order⟩ := by
  cases limit with
  | none => exact ⟨paths, .refl _, h.trans (sequential_of_ok hok initial)⟩
  | some limit =>
      obtain ⟨trace, pool, hrun, hreturned, rfl⟩ := h
      have hfailure := hrun.failure_eq_none hok
      obtain ⟨order, hperm, hsink⟩ := hrun.gather_of_success hreturned hfailure
      exact ⟨order, hperm, by rw [Pool.finish, hfailure, hsink]⟩

/-- With a permit for each file they can be gathered in any order. -/
theorem canEnd_of_perm {limit : Nat} (hlimit : paths.length ≤ limit)
    (hok : ∀ path ∈ paths, ∃ result, work path = .ok result) (hperm : order ~ paths) :
    CanEnd (some limit) work paths initial ⟨none, initial.gather work order⟩ := by
  obtain ⟨trace, pool, hstarted, hdriver, hwaiting, hfailure, hsink, hworkers⟩ :=
    @Pool.exists_reaches_started work _ _ (Pool.start limit paths initial) rfl rfl
      (Nat.le_trans hlimit (Nat.le_max_left _ _))
  obtain ⟨later, last, hlater, hreturned, hnone, hgathered⟩ :=
    Pool.exists_reaches_gather hdriver hwaiting hworkers hperm fun path hmem =>
      hok path (hperm.subset hmem)
  refine ⟨_, last, hstarted.append hlater, hreturned, ?_⟩
  rw [Pool.finish, hnone, hfailure, hgathered, hsink]
  rfl

end Dispatch

end Understudy
