import Understudy.Proofs.Dispatch.Semaphore

/-!
# The threads of a dispatch

A pool of files leaves open how its driver waits. `Crew` runs the steps of a pool on threads that
share a semaphore: the driver, which sleeps while it finds no permit, and as many threads for
workers as there are permits. A worker begins once a thread is free for it, and keeps the thread
until it has told the semaphore of the permit it gave back.

`Transition` lists the steps of a crew, and `reaches_of_transition` says that to the semaphore each
of them is a run of the crew's threads. What holds of every run of a semaphore then holds of a
dispatch.
-/

namespace Understudy

structure Crew (σ : Type) where
  pool : Pool σ
  /-- Where the driver stands with the semaphore. -/
  driver : Semaphore.Phase
  /-- The workers that are gone from the pool and whose notification is to come. -/
  notifying : Nat

inductive Crew.Move where
  | driver
  | worker (index : Nat)
  /-- A worker that gave its permit back notifies. -/
  | notify
deriving DecidableEq, Repr

namespace Crew

variable {σ : Type}

def start (limit : Nat) (paths : List Path) (sink : σ) : Crew σ :=
  ⟨Pool.start limit paths sink, .running, 0⟩

/-- The threads that are taken by workers. -/
def busy (crew : Crew σ) : Nat :=
  crew.pool.workers.countP (·.phase ≠ .ready) + crew.notifying

/-- The driver's next step in the pool. When it asks for a permit and there is none it falls asleep,
and after a failure the permit it holds is given back. -/
def proceed [Sink σ] (work : Work) (crew : Crew σ) : Option (Crew σ) :=
  match crew.pool.step work .driver with
  | some pool =>
      some { crew with pool, driver := if pool.driver = .stopped then .notifying else .running }
  | none =>
      if crew.pool.driver = .idle ∧ crew.pool.waiting ≠ [] then
        some { crew with driver := .asleep }
      else none

def driverStep [Sink σ] (work : Work) (crew : Crew σ) : Option (Crew σ) :=
  match crew.driver with
  | .running | .woken => crew.proceed work
  | .asleep => none
  | .notifying => some { crew with driver := .running }

/-- A worker that has not begun waits for a thread. -/
def workerStep [Sink σ] (work : Work) (crew : Crew σ) (index : Nat) : Option (Crew σ) :=
  match crew.pool.workers[index]? with
  | none => none
  | some worker =>
      if worker.phase = .ready ∧ crew.pool.permits.total ≤ crew.busy then none
      else
        (crew.pool.step work (.worker index)).map fun pool =>
          { crew with
            pool
            notifying := if worker.phase = .done then crew.notifying + 1 else crew.notifying }

/-- Only the driver ever sleeps. -/
def notifyStep (crew : Crew σ) : Option (Crew σ) :=
  match crew.notifying with
  | 0 => none
  | notifying + 1 =>
      some
        { crew with
          notifying
          driver := if crew.driver = .asleep then .woken else crew.driver }

def step [Sink σ] (work : Work) (crew : Crew σ) : Move → Option (Crew σ)
  | .driver => crew.driverStep work
  | .worker index => crew.workerStep work index
  | .notify => crew.notifyStep

/-- The crew after a list of moves; none when one of them cannot be made. -/
def run [Sink σ] (work : Work) (crew : Crew σ) : List Move → Option (Crew σ)
  | [] => some crew
  | move :: moves => (crew.step work move).bind fun next => next.run work moves

/-- The dispatch returns: driver and workers are through, and nothing is left to notify. -/
structure Finished (crew : Crew σ) : Prop where
  returned : crew.pool.Returned
  driver : crew.driver = .running
  notifying : crew.notifying = 0

/-- The threads of workers that hold a permit, and of those that are to notify. -/
def workerThreads (workers notifying : Nat) : Multiset Semaphore.Thread :=
  Multiset.replicate workers ⟨.running, 1⟩ + Multiset.replicate notifying ⟨.notifying, 0⟩

def semaphore (crew : Crew σ) : Semaphore where
  permits := crew.pool.permits
  threads :=
    ⟨crew.driver, Pool.heldBy crew.pool.driver⟩ ::ₘ
      workerThreads crew.pool.workers.length crew.notifying

variable {workers notifying : Nat}

theorem workerThreads_succ_workers :
    workerThreads (workers + 1) notifying = ⟨.running, 1⟩ ::ₘ workerThreads workers notifying := by
  simp only [workerThreads, Multiset.replicate_succ, Multiset.cons_add]

theorem workerThreads_succ_notifying :
    workerThreads workers (notifying + 1) =
      ⟨.notifying, 0⟩ ::ₘ workerThreads workers notifying := by
  simp only [workerThreads, Multiset.replicate_succ, Multiset.add_cons]

theorem phase_ne_asleep_of_mem {thread : Semaphore.Thread}
    (hthread : thread ∈ workerThreads workers notifying) : thread.phase ≠ .asleep := by
  simp only [workerThreads, Multiset.mem_add, Multiset.mem_replicate] at hthread
  rcases hthread with ⟨_, rfl⟩ | ⟨_, rfl⟩
  · simp
  · simp

theorem semaphore_threads {crew : Crew σ} {phase : Semaphore.Phase} {held : Nat}
    (hphase : crew.driver = phase) (hheld : Pool.heldBy crew.pool.driver = held) :
    crew.semaphore.threads =
      ⟨phase, held⟩ ::ₘ workerThreads crew.pool.workers.length crew.notifying := by
  rw [semaphore, hphase, hheld]

theorem semaphore_threads_of_notifying {crew : Crew σ} {notifying : Nat}
    (hnotifying : crew.notifying = notifying + 1) :
    crew.semaphore.threads =
      ⟨.notifying, 0⟩ ::ₘ ⟨crew.driver, Pool.heldBy crew.pool.driver⟩ ::ₘ
        workerThreads crew.pool.workers.length notifying := by
  rw [semaphore_threads rfl rfl, hnotifying, workerThreads_succ_notifying, Multiset.cons_swap]

/-- A driver that sleeps, or was woken and has not moved since, is about to take a permit. -/
def Waits (crew : Crew σ) : Prop :=
  crew.driver = .asleep ∨ crew.driver = .woken →
    crew.pool.driver = .idle ∧ crew.pool.waiting ≠ []

theorem Waits.running {crew : Crew σ} (h : crew.Waits) (hlooks : crew.driver.Looks)
    (hbusy : crew.pool.driver ≠ .idle) : crew.driver = .running := by
  rcases hlooks with hdriver | hdriver
  · exact hdriver
  · exact absurd (h (.inr hdriver)).1 hbusy

inductive Transition [Sink σ] (work : Work) (crew : Crew σ) : Move → Crew σ → Prop where
  | drive {pool : Pool σ} (hlooks : crew.driver.Looks)
      (hstep : crew.pool.step work .driver = some pool) (hgoes : pool.driver ≠ .stopped) :
      Transition work crew .driver { crew with pool, driver := .running }
  | stop {pool : Pool σ} (hlooks : crew.driver.Looks)
      (hstep : crew.pool.step work .driver = some pool) (hstops : pool.driver = .stopped) :
      Transition work crew .driver { crew with pool, driver := .notifying }
  | sleep (hlooks : crew.driver.Looks) (hstuck : crew.pool.step work .driver = none)
      (hidle : crew.pool.driver = .idle) (hwaiting : crew.pool.waiting ≠ []) :
      Transition work crew .driver { crew with driver := .asleep }
  | announce (hdriver : crew.driver = .notifying) :
      Transition work crew .driver { crew with driver := .running }
  | work {index : Nat} {worker : Worker} {pool : Pool σ}
      (hworker : crew.pool.workers[index]? = some worker)
      (hthread : worker.phase = .ready → crew.busy < crew.pool.permits.total)
      (hstays : worker.phase ≠ .done) (hstep : crew.pool.step work (.worker index) = some pool) :
      Transition work crew (.worker index) { crew with pool }
  | giveBack {index : Nat} {path : Path} {pool : Pool σ}
      (hworker : crew.pool.workers[index]? = some ⟨path, .done⟩)
      (hstep : crew.pool.step work (.worker index) = some pool) :
      Transition work crew (.worker index) { crew with pool, notifying := crew.notifying + 1 }
  | wake {notifying : Nat} (hnotifying : crew.notifying = notifying + 1)
      (hdriver : crew.driver = .asleep) :
      Transition work crew .notify { crew with notifying, driver := .woken }
  | wakeNone {notifying : Nat} (hnotifying : crew.notifying = notifying + 1)
      (hdriver : crew.driver ≠ .asleep) :
      Transition work crew .notify { crew with notifying }

variable [Sink σ] {work : Work} {crew next : Crew σ} {move : Move}

theorem transition_of_proceed (hlooks : crew.driver.Looks) (h : crew.proceed work = some next) :
    Transition work crew .driver next := by
  unfold proceed at h
  split at h
  · next pool hstep =>
    cases h
    split
    · next hstops => exact .stop hlooks hstep hstops
    · next hgoes => exact .drive hlooks hstep hgoes
  · next hstuck =>
    split at h
    · next hasks =>
      cases h
      exact .sleep hlooks hstuck hasks.1 hasks.2
    · simp at h

theorem transition_of_driverStep (h : crew.driverStep work = some next) :
    Transition work crew .driver next := by
  unfold driverStep at h
  split at h
  · next hdriver => exact transition_of_proceed (.inl hdriver) h
  · next hdriver => exact transition_of_proceed (.inr hdriver) h
  · simp at h
  · next hdriver =>
    cases h
    exact .announce hdriver

theorem transition_of_workerStep {index : Nat} (h : crew.workerStep work index = some next) :
    Transition work crew (.worker index) next := by
  unfold workerStep at h
  split at h
  · simp at h
  · next worker hworker =>
    split at h
    · simp at h
    · next hthread =>
      obtain ⟨pool, hstep, rfl⟩ := Option.map_eq_some_iff.mp h
      split
      · next hdone =>
        obtain ⟨path, phase⟩ := worker
        obtain rfl : phase = .done := hdone
        exact .giveBack hworker hstep
      · next hstays => exact .work hworker (by simpa using hthread) hstays hstep

theorem transition_of_notifyStep (h : crew.notifyStep = some next) :
    Transition work crew .notify next := by
  unfold notifyStep at h
  split at h
  · simp at h
  · next notifying hnotifying =>
    cases h
    split
    · next hdriver => exact .wake hnotifying hdriver
    · next hdriver => exact .wakeNone hnotifying hdriver

theorem driverStep_of_looks (hlooks : crew.driver.Looks) :
    crew.driverStep work = crew.proceed work := by
  rcases hlooks with hdriver | hdriver <;> simp [driverStep, hdriver]

theorem step_eq_some_iff : crew.step work move = some next ↔ Transition work crew move next := by
  constructor
  · intro h
    cases move with
    | driver => exact transition_of_driverStep h
    | worker index => exact transition_of_workerStep h
    | notify => exact transition_of_notifyStep h
  · intro h
    cases h with
    | drive hlooks hstep hgoes => simp [step, driverStep_of_looks hlooks, proceed, hstep, hgoes]
    | stop hlooks hstep hstops => simp [step, driverStep_of_looks hlooks, proceed, hstep, hstops]
    | sleep hlooks hstuck hidle hwaiting =>
        simp [step, driverStep_of_looks hlooks, proceed, hstuck, hidle, hwaiting]
    | announce hdriver => simp [step, driverStep, hdriver]
    | work hworker hthread hstays hstep =>
        simpa [step, workerStep, hworker, hstep, hstays] using hthread
    | giveBack hworker hstep => simp [step, workerStep, hworker, hstep]
    | wake hnotifying hdriver => simp [step, notifyStep, hnotifying, hdriver]
    | wakeNone hnotifying hdriver => simp [step, notifyStep, hnotifying, hdriver]

/-! ### Runs of the semaphore -/

/-- What a crew does with its permits, its threads do with the semaphore. -/
theorem reaches_of_transition (h : crew.Waits) (hstep : Transition work crew move next) :
    Semaphore.Reaches crew.semaphore next.semaphore := by
  cases hstep with
  | @drive pool hlooks hstep hgoes =>
      cases Pool.step_eq_some_iff.mp hstep with
      | take hdriver hwaiting hpermits =>
          have hthreads := semaphore_threads rfl (show Pool.heldBy _ = 0 by rw [hdriver]; rfl)
          exact .single (.take hthreads hlooks hpermits)
      | stop hdriver hfailure => exact absurd rfl hgoes
      | clear hdriver hfailure =>
          have hrunning := h.running hlooks (by simp [hdriver])
          rw [semaphore, hdriver, hrunning]
          exact .refl
      | start hdriver hwaiting =>
          have hrunning := h.running hlooks (by simp [hdriver])
          have hthreads := semaphore_threads hrunning
            (show Pool.heldBy _ = 0 + 1 by rw [hdriver]; rfl)
          simp only [semaphore, List.length_append, List.length_singleton,
            workerThreads_succ_workers]
          exact .single (.spawn hthreads)
  | @stop pool hlooks hstep hstops =>
      cases Pool.step_eq_some_iff.mp hstep with
      | take hdriver hwaiting hpermits => cases hstops
      | stop hdriver hfailure =>
          have hrunning := h.running hlooks (by simp [hdriver])
          have hthreads := semaphore_threads hrunning
            (show Pool.heldBy _ = 0 + 1 by rw [hdriver]; rfl)
          exact .single (.giveBack hthreads)
      | clear hdriver hfailure => cases hstops
      | start hdriver hwaiting => cases hstops
  | sleep hlooks hstuck hidle hwaiting =>
      exact .single (.sleep (semaphore_threads rfl rfl) hlooks
        (Pool.acquire?_eq_none_of_stuck hstuck hidle hwaiting))
  | announce hdriver =>
      have hthreads := semaphore_threads hdriver rfl
      exact .single (.wakeNone hthreads fun thread => phase_ne_asleep_of_mem)
  | @work index worker pool hworker hthread hstays hstep =>
      obtain ⟨hpermits, hdriver, -, hlength⟩ := Pool.kept_of_workerStep hworker hstays hstep
      rw [semaphore, semaphore, hpermits, hdriver, hlength]
  | @giveBack index path pool hworker hstep =>
      cases (Pool.step_of_done hworker).symm.trans hstep
      have hthreads : crew.semaphore.threads =
          ⟨.running, 0 + 1⟩ ::ₘ ⟨crew.driver, Pool.heldBy crew.pool.driver⟩ ::ₘ
            workerThreads (crew.pool.workers.eraseIdx index).length crew.notifying := by
        have hlength := List.length_eraseIdx_add_one (List.getElem?_eq_some_iff.mp hworker).1
        rw [semaphore_threads rfl rfl, ← hlength, workerThreads_succ_workers, Multiset.cons_swap]
      simp only [semaphore, workerThreads_succ_notifying]
      rw [Multiset.cons_swap]
      exact .single (.giveBack hthreads)
  | @wake notifying hnotifying hdriver =>
      have hthreads := semaphore_threads_of_notifying hnotifying
      rw [hdriver] at hthreads
      exact .tail (.single (.wake hthreads)) (.leave rfl)
  | @wakeNone notifying hnotifying hdriver =>
      have hnone : ∀ thread ∈ (⟨crew.driver, Pool.heldBy crew.pool.driver⟩ : Semaphore.Thread) ::ₘ
            workerThreads crew.pool.workers.length notifying, thread.phase ≠ .asleep := by
        intro thread hthread
        rcases Multiset.mem_cons.mp hthread with rfl | hthread
        · exact hdriver
        · exact phase_ne_asleep_of_mem hthread
      have hwake := Semaphore.Step.wakeNone (semaphore_threads_of_notifying hnotifying) hnone
      exact .tail (.single hwake) (.leave rfl)

theorem waits_of_transition (h : crew.Waits) (hstep : Transition work crew move next) :
    next.Waits := by
  cases hstep with
  | drive => rintro (hdriver | hdriver) <;> cases hdriver
  | stop => rintro (hdriver | hdriver) <;> cases hdriver
  | sleep _ _ hidle hwaiting => exact fun _ => ⟨hidle, hwaiting⟩
  | announce => rintro (hdriver | hdriver) <;> cases hdriver
  | work hworker _ hstays hstep =>
      obtain ⟨-, hdriver, hwaiting, -⟩ := Pool.kept_of_workerStep hworker hstays hstep
      simpa only [Waits, hdriver, hwaiting] using h
  | giveBack hworker hstep =>
      cases (Pool.step_of_done hworker).symm.trans hstep
      exact h
  | wake _ hdriver => exact fun _ => h (.inl hdriver)
  | wakeNone => exact h

end Crew

end Understudy
