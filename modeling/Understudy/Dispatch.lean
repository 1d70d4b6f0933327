import Understudy.FileResult
import Understudy.Permits

/-!
Running work over a list of files.

Without a limit the files are worked on one after another, up to the first failure. With a limit
a driver takes a permit for each file, in order, and stops when a failure is recorded by then;
else it starts a worker. A worker does its work, appends the result to the sink or records the
failure if it is the first, and gives the permit back. The steps of driver and workers interleave
freely; `Pool.step` says what each does, and `Pool.settle` runs them in one order that gives way
to the oldest worker. The run ends because each step lowers the work that is left.
-/

namespace Understudy

/-- What each file yields. -/
abbrev Work := Path → Except Failure FileResult

/-- The end of a run: the failure to report, if any, and what the sink holds. -/
structure RunEnd (σ : Type) where
  failure : Option Failure
  sink : σ
deriving Repr

inductive WorkerPhase where
  | ready
  | loaded (result : FileResult)
  | failed (failure : Failure)
  | done
deriving DecidableEq, Repr

structure Worker where
  path : Path
  phase : WorkerPhase
deriving DecidableEq, Repr

inductive DriverPhase where
  | idle
  | holding
  | cleared
  | stopped
deriving DecidableEq, Repr

structure Pool (σ : Type) where
  /-- The files that are not started. -/
  waiting : List Path
  driver : DriverPhase
  permits : Permits
  /-- The files under way, oldest first. -/
  workers : List Worker
  failure : Option Failure
  sink : σ
deriving Repr

inductive Move where
  | driver
  | worker (index : Nat)
deriving DecidableEq, Repr

namespace Pool

variable {σ : Type}

/-- The pool before its first step, with at least one permit. -/
def start (limit : Nat) (paths : List Path) (sink : σ) : Pool σ :=
  { waiting := paths
    driver := .idle
    permits := ⟨max limit 1, 0⟩
    workers := []
    failure := none
    sink }

/-- The driver takes a permit, then looks for a failure, then starts the next file. Between the
last two a failure may still be recorded. -/
def driverStep (pool : Pool σ) : Option (Pool σ) :=
  match pool.driver, pool.waiting with
  | .idle, _ :: _ =>
      pool.permits.acquire?.map fun permits => { pool with permits, driver := .holding }
  | .holding, _ =>
      if pool.failure.isSome then
        some { pool with driver := .stopped, permits := pool.permits.release }
      else
        some { pool with driver := .cleared }
  | .cleared, path :: rest =>
      some
        { pool with
          waiting := rest
          driver := .idle
          workers := pool.workers ++ [⟨path, .ready⟩] }
  | _, _ => none

def setPhase (pool : Pool σ) (index : Nat) (path : Path) (phase : WorkerPhase) : Pool σ :=
  { pool with workers := pool.workers.set index ⟨path, phase⟩ }

/-- The first failure that is recorded stays. -/
def record (pool : Pool σ) (failure : Failure) : Pool σ :=
  { pool with failure := pool.failure.or (some failure) }

def workerStep [Sink σ] (work : Work) (pool : Pool σ) (index : Nat) : Option (Pool σ) :=
  match pool.workers[index]? with
  | none => none
  | some ⟨path, .ready⟩ =>
      match work path with
      | .ok result => some (pool.setPhase index path (.loaded result))
      | .error failure => some (pool.setPhase index path (.failed failure))
  | some ⟨path, .loaded result⟩ =>
      match Sink.append result pool.sink with
      | .ok sink => some { pool.setPhase index path .done with sink }
      | .error failure => some (pool.setPhase index path (.failed failure))
  | some ⟨path, .failed failure⟩ =>
      some ((pool.setPhase index path .done).record (failure.inFile path))
  | some ⟨_, .done⟩ =>
      some { pool with workers := pool.workers.eraseIdx index, permits := pool.permits.release }

/-- One step of the driver or of a worker; none when it cannot move. -/
def step [Sink σ] (work : Work) (pool : Pool σ) : Move → Option (Pool σ)
  | .driver => pool.driverStep
  | .worker index => pool.workerStep work index

def driverWeight : DriverPhase → Nat
  | .idle => 3
  | .holding => 2
  | .cleared => 1
  | .stopped => 0

def workerWeight (worker : Worker) : Nat :=
  match worker.phase with
  | .ready => 4
  | .loaded _ => 3
  | .failed _ => 2
  | .done => 1

def workersWeight : List Worker → Nat
  | [] => 0
  | worker :: rest => workerWeight worker + workersWeight rest

/-- The number of steps that can be left. -/
def weight (pool : Pool σ) : Nat :=
  8 * pool.waiting.length + driverWeight pool.driver + workersWeight pool.workers

theorem workersWeight_append (workers later : List Worker) :
    workersWeight (workers ++ later) = workersWeight workers + workersWeight later := by
  induction workers with
  | nil => simp [workersWeight]
  | cons worker rest ih =>
      simp only [List.cons_append, workersWeight, ih]
      omega

theorem workersWeight_set_lt {workers : List Worker} {index : Nat} {old new : Worker}
    (hold : workers[index]? = some old) (hlt : workerWeight new < workerWeight old) :
    workersWeight (workers.set index new) < workersWeight workers := by
  induction workers generalizing index with
  | nil => simp at hold
  | cons worker rest ih =>
      cases index with
      | zero =>
          simp only [List.getElem?_cons_zero, Option.some.injEq] at hold
          subst hold
          simp only [List.set_cons_zero, workersWeight]
          omega
      | succ index =>
          have h := @ih index (by simpa using hold)
          simp only [List.set_cons_succ, workersWeight]
          omega

theorem workersWeight_eraseIdx_lt {workers : List Worker} {index : Nat} {old : Worker}
    (hold : workers[index]? = some old) (hpos : 0 < workerWeight old) :
    workersWeight (workers.eraseIdx index) < workersWeight workers := by
  induction workers generalizing index with
  | nil => simp at hold
  | cons worker rest ih =>
      cases index with
      | zero =>
          simp only [List.getElem?_cons_zero, Option.some.injEq] at hold
          subst hold
          simp only [List.eraseIdx_cons_zero, workersWeight]
          omega
      | succ index =>
          have h := @ih index (by simpa using hold)
          simp only [List.eraseIdx_cons_succ, workersWeight]
          omega

theorem weight_driverStep_lt {pool next : Pool σ} (h : pool.driverStep = some next) :
    next.weight < pool.weight := by
  unfold driverStep at h
  split at h
  · next hdriver hwaiting =>
    obtain ⟨permits, _, rfl⟩ := Option.map_eq_some_iff.mp h
    simp only [weight, hdriver, driverWeight]
    omega
  · next hdriver =>
    split at h <;>
      (simp only [Option.some.injEq] at h
       subst h
       simp only [weight, hdriver, driverWeight]
       omega)
  · next path rest hdriver hwaiting =>
    simp only [Option.some.injEq] at h
    subst h
    simp only [weight, hdriver, hwaiting, driverWeight, workersWeight_append, workersWeight,
      workerWeight, List.length_cons]
    omega
  · simp at h

theorem weight_setPhase_lt {pool : Pool σ} {index : Nat} {path : Path}
    {old new : WorkerPhase} (hold : pool.workers[index]? = some ⟨path, old⟩)
    (hlt : workerWeight ⟨path, new⟩ < workerWeight ⟨path, old⟩) :
    (pool.setPhase index path new).weight < pool.weight := by
  have hfewer := workersWeight_set_lt hold hlt
  simp only [weight, setPhase]
  omega

theorem weight_workerStep_lt [Sink σ] {work : Work} {pool next : Pool σ} {index : Nat}
    (h : pool.workerStep work index = some next) : next.weight < pool.weight := by
  unfold workerStep at h
  split at h
  · simp at h
  · next path hworker =>
    split at h <;>
      (simp only [Option.some.injEq] at h
       subst h
       exact weight_setPhase_lt hworker (by simp [workerWeight]))
  · next path result hworker =>
    split at h
    · simp only [Option.some.injEq] at h
      subst h
      exact @weight_setPhase_lt _ _ _ _ _ .done hworker (by simp [workerWeight])
    · simp only [Option.some.injEq] at h
      subst h
      exact weight_setPhase_lt hworker (by simp [workerWeight])
  · next path failure hworker =>
    simp only [Option.some.injEq] at h
    subst h
    exact @weight_setPhase_lt _ _ _ _ _ .done hworker (by simp [workerWeight])
  · next path hworker =>
    simp only [Option.some.injEq] at h
    subst h
    have hfewer := workersWeight_eraseIdx_lt hworker (by simp [workerWeight])
    simp only [weight]
    omega

theorem weight_step_lt [Sink σ] {work : Work} {pool next : Pool σ} {move : Move}
    (h : pool.step work move = some next) : next.weight < pool.weight := by
  cases move with
  | driver => exact weight_driverStep_lt h
  | worker index => exact weight_workerStep_lt h

/-- The oldest worker goes first, the driver when there is none. -/
def nextMove (pool : Pool σ) : Move :=
  if pool.workers.isEmpty then .driver else .worker 0

def settle [Sink σ] (work : Work) (pool : Pool σ) : Pool σ :=
  match _hstep : pool.step work pool.nextMove with
  | some next => settle work next
  | none => pool
termination_by pool.weight
decreasing_by exact weight_step_lt _hstep

def finish (pool : Pool σ) : RunEnd σ :=
  ⟨pool.failure, pool.sink⟩

end Pool

namespace Dispatch

variable {σ : Type} [Sink σ]

def processOne (work : Work) (path : Path) (sink : σ) : Except Failure σ :=
  match work path with
  | .ok result => Sink.append result sink
  | .error failure => .error failure

/-- The files one after another, up to the first failure. -/
def sequential (work : Work) : List Path → σ → RunEnd σ
  | [], sink => ⟨none, sink⟩
  | path :: rest, sink =>
      match processOne work path sink with
      | .ok sink => sequential work rest sink
      | .error failure => ⟨some (failure.inFile path), sink⟩

def run (limit : Option Nat) (work : Work) (paths : List Path) (sink : σ) : RunEnd σ :=
  match limit with
  | none => sequential work paths sink
  | some limit => ((Pool.start limit paths sink).settle work).finish

end Dispatch

end Understudy
