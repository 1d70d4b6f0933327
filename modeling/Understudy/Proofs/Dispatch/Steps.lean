import Mathlib.Data.List.Perm.Basic
import Understudy.Dispatch

/-!
# The steps of a pool

`Pool.Transition` lists what each step does and when it can be made, and `Pool.step_eq_some_iff`
says that these are the steps of `Pool.step`. Later proofs go through the cases of `Transition` and
never open the step function. `Pool.Reaches` is what a pool can become, under any order of moves,
together with the files that were started and the files that were worked on, in the order in which
it happened.
-/

namespace Understudy.Pool

open scoped List

variable {σ : Type} [Sink σ]

inductive Transition (work : Work) (pool : Pool σ) : Move → Pool σ → Prop where
  | take {path : Path} {rest : List Path} {permits : Permits}
      (hdriver : pool.driver = .idle) (hwaiting : pool.waiting = path :: rest)
      (hpermits : pool.permits.acquire? = some permits) :
      Transition work pool .driver { pool with permits, driver := .holding }
  | stop (hdriver : pool.driver = .holding) (hfailure : pool.failure.isSome) :
      Transition work pool .driver
        { pool with driver := .stopped, permits := pool.permits.release }
  | clear (hdriver : pool.driver = .holding) (hfailure : pool.failure = none) :
      Transition work pool .driver { pool with driver := .cleared }
  | start {path : Path} {rest : List Path}
      (hdriver : pool.driver = .cleared) (hwaiting : pool.waiting = path :: rest) :
      Transition work pool .driver
        { pool with
          waiting := rest
          driver := .idle
          workers := pool.workers ++ [⟨path, .ready⟩] }
  | load {index : Nat} {path : Path} {result : FileResult}
      (hworker : pool.workers[index]? = some ⟨path, .ready⟩) (hwork : work path = .ok result) :
      Transition work pool (.worker index) (pool.setPhase index path (.loaded result))
  | fail {index : Nat} {path : Path} {failure : Failure}
      (hworker : pool.workers[index]? = some ⟨path, .ready⟩) (hwork : work path = .error failure) :
      Transition work pool (.worker index) (pool.setPhase index path (.failed failure))
  | store {index : Nat} {path : Path} {result : FileResult} {sink : σ}
      (hworker : pool.workers[index]? = some ⟨path, .loaded result⟩)
      (hsink : Sink.append result pool.sink = .ok sink) :
      Transition work pool (.worker index) { pool.setPhase index path .done with sink }
  | refuse {index : Nat} {path : Path} {result : FileResult} {failure : Failure}
      (hworker : pool.workers[index]? = some ⟨path, .loaded result⟩)
      (hsink : Sink.append result pool.sink = .error failure) :
      Transition work pool (.worker index) (pool.setPhase index path (.failed failure))
  | report {index : Nat} {path : Path} {failure : Failure}
      (hworker : pool.workers[index]? = some ⟨path, .failed failure⟩) :
      Transition work pool (.worker index)
        ((pool.setPhase index path .done).record (failure.inFile path))
  | leave {index : Nat} {path : Path} (hworker : pool.workers[index]? = some ⟨path, .done⟩) :
      Transition work pool (.worker index)
        { pool with workers := pool.workers.eraseIdx index, permits := pool.permits.release }

variable {work : Work} {pool next : Pool σ} {move : Move}

theorem transition_of_driverStep (h : pool.driverStep = some next) :
    Transition work pool .driver next := by
  unfold driverStep at h
  split at h
  · next path rest hdriver hwaiting =>
    obtain ⟨permits, hpermits, rfl⟩ := Option.map_eq_some_iff.mp h
    exact .take hdriver hwaiting hpermits
  · next hdriver =>
    split at h
    · next hfailure =>
      cases h
      exact .stop hdriver hfailure
    · next hfailure =>
      cases h
      exact .clear hdriver (by simpa using hfailure)
  · next path rest hdriver hwaiting =>
    cases h
    exact .start hdriver hwaiting
  · simp at h

theorem transition_of_workerStep {index : Nat} (h : pool.workerStep work index = some next) :
    Transition work pool (.worker index) next := by
  unfold workerStep at h
  split at h
  · simp at h
  · next path hworker =>
    split at h
    · next result hwork =>
      cases h
      exact .load hworker hwork
    · next failure hwork =>
      cases h
      exact .fail hworker hwork
  · next path result hworker =>
    split at h
    · next sink hsink =>
      cases h
      exact .store hworker hsink
    · next failure hsink =>
      cases h
      exact .refuse hworker hsink
  · next path failure hworker =>
    cases h
    exact .report hworker
  · next path hworker =>
    cases h
    exact .leave hworker

/-- The transitions are the steps that can be made. -/
theorem step_eq_some_iff : pool.step work move = some next ↔ Transition work pool move next := by
  constructor
  · intro h
    cases move with
    | driver => exact transition_of_driverStep h
    | worker index => exact transition_of_workerStep h
  · intro h
    cases h with
    | take hdriver hwaiting hpermits => simp [step, driverStep, hdriver, hwaiting, hpermits]
    | stop hdriver hfailure => simp [step, driverStep, hdriver, hfailure]
    | clear hdriver hfailure => simp [step, driverStep, hdriver, hfailure]
    | start hdriver hwaiting => simp [step, driverStep, hdriver, hwaiting]
    | load hworker hwork => simp [step, workerStep, hworker, hwork]
    | fail hworker hwork => simp [step, workerStep, hworker, hwork]
    | store hworker hsink => simp [step, workerStep, hworker, hsink]
    | refuse hworker hsink => simp [step, workerStep, hworker, hsink]
    | report hworker => simp [step, workerStep, hworker]
    | leave hworker => simp [step, workerStep, hworker]

theorem step_of_done {index : Nat} {path : Path}
    (hworker : pool.workers[index]? = some ⟨path, .done⟩) :
    pool.step work (.worker index) =
      some { pool with workers := pool.workers.eraseIdx index, permits := pool.permits.release } :=
  step_eq_some_iff.mpr (.leave hworker)

/-- A driver that asks for a permit and cannot move has found none. -/
theorem acquire?_eq_none_of_stuck (hstuck : pool.step work .driver = none)
    (hidle : pool.driver = .idle) (hwaiting : pool.waiting ≠ []) :
    pool.permits.acquire? = none := by
  obtain ⟨path, rest, hcons⟩ := List.exists_cons_of_ne_nil hwaiting
  cases hpermits : pool.permits.acquire? with
  | none => rfl
  | some permits =>
      have htake : pool.step work .driver = some { pool with permits, driver := .holding } :=
        step_eq_some_iff.mpr (.take hidle hcons hpermits)
      cases hstuck.symm.trans htake

/-- A worker leaves the driver alone, and the permits and the other workers until it is done. -/
theorem kept_of_workerStep {index : Nat} {worker : Worker}
    (hworker : pool.workers[index]? = some worker) (hstays : worker.phase ≠ .done)
    (hstep : pool.step work (.worker index) = some next) :
    next.permits = pool.permits ∧ next.driver = pool.driver ∧ next.waiting = pool.waiting ∧
      next.workers.length = pool.workers.length := by
  cases step_eq_some_iff.mp hstep with
  | load => exact ⟨rfl, rfl, rfl, List.length_set⟩
  | fail => exact ⟨rfl, rfl, rfl, List.length_set⟩
  | store => exact ⟨rfl, rfl, rfl, List.length_set⟩
  | refuse => exact ⟨rfl, rfl, rfl, List.length_set⟩
  | report => exact ⟨rfl, rfl, rfl, List.length_set⟩
  | leave hdone =>
      cases hworker.symm.trans hdone
      exact absurd rfl hstays

/-- The files whose work was started and those whose work was done, oldest first. -/
structure Trace where
  started : List Path := []
  ran : List Path := []

def Trace.after (trace : Trace) (pool : Pool σ) : Move → Trace
  | .driver =>
      match pool.driver, pool.waiting with
      | .cleared, path :: _ => { trace with started := trace.started ++ [path] }
      | _, _ => trace
  | .worker index =>
      match pool.workers[index]? with
      | some ⟨path, .ready⟩ => { trace with ran := trace.ran ++ [path] }
      | _ => trace

/-- What a pool can become by any sequence of moves. -/
inductive Reaches (work : Work) (first : Pool σ) : Trace → Pool σ → Prop where
  | refl : Reaches work first {} first
  | step {trace : Trace} {pool next : Pool σ} {move : Move} (hrun : Reaches work first trace pool)
      (hstep : pool.step work move = some next) :
      Reaches work first (trace.after pool move) next

/-- The driver has left its loop and every worker is gone: the dispatch returns. -/
def Returned (pool : Pool σ) : Prop :=
  pool.workers = [] ∧
    (pool.driver = .stopped ∨ pool.driver = .idle ∧ pool.waiting = [])

theorem Reaches.invariant {first : Pool σ} {P : Trace → Pool σ → Prop} (hfirst : P {} first)
    (hkeep : ∀ {trace : Trace} {pool next : Pool σ} {move : Move}, P trace pool →
      Transition work pool move next → P (trace.after pool move) next)
    {trace : Trace} (hrun : Reaches work first trace pool) : P trace pool := by
  induction hrun with
  | refl => exact hfirst
  | step _ hstep ih => exact hkeep ih (step_eq_some_iff.mp hstep)

theorem Reaches.append {first : Pool σ} {trace : Trace} (hrun : Reaches work first trace pool)
    {later : Trace} (hlater : Reaches work pool later next) :
    Reaches work first ⟨trace.started ++ later.started, trace.ran ++ later.ran⟩ next := by
  induction hlater with
  | refl => simpa using hrun
  | @step later pool next move _ hstep ih =>
      have h := Reaches.step ih hstep
      convert h using 1
      cases move with
      | driver => simp only [Trace.after]; split <;> simp
      | worker index => simp only [Trace.after]; split <;> simp

/-- The trace and the pool after a list of moves; none when one of them cannot be made. -/
def play (work : Work) (trace : Trace) (pool : Pool σ) : List Move → Option (Trace × Pool σ)
  | [] => some (trace, pool)
  | move :: moves =>
      match pool.step work move with
      | none => none
      | some next => play work (trace.after pool move) next moves

theorem Reaches.play {first : Pool σ} {trace last : Trace}
    (hrun : Reaches work first trace pool) (moves : List Move)
    (hplay : pool.play work trace moves = some (last, next)) : Reaches work first last next := by
  induction moves generalizing trace pool with
  | nil =>
      cases hplay
      exact hrun
  | cons move moves ih =>
      simp only [Pool.play] at hplay
      split at hplay
      · simp at hplay
      · next _ hstep => exact ih (hrun.step hstep) hplay

section Projection

variable {α : Type} {workers : List Worker} {index : Nat} {worker : Worker}

/-- What is read off the workers changes with one of them only by what is read off that one. -/
theorem filterMap_set_perm (f : Worker → Option α) (h : workers[index]? = some worker)
    (later : Worker) :
    (f later).toList ++ workers.filterMap f ~
      (f worker).toList ++ (workers.set index later).filterMap f := by
  obtain ⟨hlt, rfl⟩ := List.getElem?_eq_some_iff.mp h
  have hbefore : workers.filterMap f ~
      (f workers[index]).toList ++ (workers.eraseIdx index).filterMap f := by
    refine ((List.getElem_cons_eraseIdx_perm hlt).symm.filterMap f).trans ?_
    cases hf : f workers[index] <;> simp [hf]
  have hafter : (workers.set index later).filterMap f ~
      (f later).toList ++ (workers.eraseIdx index).filterMap f := by
    refine ((List.set_perm_cons_eraseIdx hlt later).filterMap f).trans ?_
    cases hf : f later <;> simp [hf]
  calc (f later).toList ++ workers.filterMap f
      ~ (f later).toList ++ ((f workers[index]).toList ++ (workers.eraseIdx index).filterMap f) :=
        hbefore.append_left _
    _ ~ (f workers[index]).toList ++
          ((f later).toList ++ (workers.eraseIdx index).filterMap f) := by
        simpa only [List.append_assoc] using List.perm_append_comm.append_right _
    _ ~ (f workers[index]).toList ++ (workers.set index later).filterMap f :=
        hafter.symm.append_left _

theorem filterMap_set_perm_of_eq (f : Worker → Option α) (h : workers[index]? = some worker)
    {later : Worker} (hsame : f worker = f later) :
    workers.filterMap f ~ (workers.set index later).filterMap f := by
  have hperm := filterMap_set_perm f h later
  rwa [hsame, List.perm_append_left_iff] at hperm

theorem filterMap_set_perm_of_eq_none (f : Worker → Option α) (h : workers[index]? = some worker)
    {later : Worker} {value : α} (hvalue : f worker = some value) (hnone : f later = none) :
    workers.filterMap f ~ value :: (workers.set index later).filterMap f := by
  have hperm := filterMap_set_perm f h later
  rwa [hvalue, hnone] at hperm

theorem filterMap_eraseIdx_perm (f : Worker → Option α) (h : workers[index]? = some worker) :
    workers.filterMap f ~ (f worker).toList ++ (workers.eraseIdx index).filterMap f := by
  obtain ⟨hlt, rfl⟩ := List.getElem?_eq_some_iff.mp h
  refine ((List.getElem_cons_eraseIdx_perm hlt).symm.filterMap f).trans ?_
  cases hf : f workers[index] <;> simp [hf]

end Projection

end Understudy.Pool
