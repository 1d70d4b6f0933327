import Understudy.Proofs.Dispatch.Crew
import Understudy.Proofs.Dispatch.Outcome

/-!
# A dispatch moves on

`Crew.Sound` joins what is known of a crew: its pool and its semaphore are reached by steps of
their own, and a driver that waits is about to take a permit. From this a crew that has not
finished can move (`Sound.exists_step`): a driver that slept beside free permits, with nobody left
to wake it, would have lost a wakeup. Every step lowers `Crew.weight`, so the moves come to an end.
-/

namespace Understudy.Crew

variable {σ : Type} [Sink σ] {work : Work} {crew next : Crew σ} {move : Move}

structure Sound (work : Work) (limit : Nat) (paths : List Path) (sink : σ) (crew : Crew σ) :
    Prop where
  pool : ∃ trace, Pool.Reaches work (Pool.start limit paths sink) trace crew.pool
  semaphore : Semaphore.Reaches (Semaphore.start (max limit 1) 1) crew.semaphore
  waits : crew.Waits

section Run

variable {limit : Nat} {paths : List Path} {sink : σ}

theorem sound_start (work : Work) (limit : Nat) (paths : List Path) (sink : σ) :
    Sound work limit paths sink (start limit paths sink) where
  pool := ⟨{}, .refl⟩
  semaphore := by
    have hsame : (start limit paths sink).semaphore = Semaphore.start (max limit 1) 1 := by
      simp [semaphore, start, Pool.start, Pool.heldBy, workerThreads, Semaphore.start]
    rw [hsame]
  waits := by rintro (hdriver | hdriver) <;> cases hdriver

theorem Sound.step (h : Sound work limit paths sink crew)
    (hstep : Transition work crew move next) : Sound work limit paths sink next where
  pool := by
    obtain ⟨trace, hrun⟩ := h.pool
    cases hstep with
    | drive _ hstep => exact ⟨_, hrun.step hstep⟩
    | stop _ hstep => exact ⟨_, hrun.step hstep⟩
    | sleep => exact ⟨trace, hrun⟩
    | announce => exact ⟨trace, hrun⟩
    | work _ _ _ hstep => exact ⟨_, hrun.step hstep⟩
    | giveBack _ hstep => exact ⟨_, hrun.step hstep⟩
    | wake => exact ⟨trace, hrun⟩
    | wakeNone => exact ⟨trace, hrun⟩
  semaphore := h.semaphore.trans (reaches_of_transition h.waits hstep)
  waits := waits_of_transition h.waits hstep

theorem Sound.run (h : Sound work limit paths sink crew) (moves : List Move)
    (hrun : crew.run work moves = some next) : Sound work limit paths sink next := by
  induction moves generalizing crew with
  | nil =>
      cases hrun
      exact h
  | cons move moves ih =>
      obtain ⟨middle, hstep, hrest⟩ := Option.bind_eq_some_iff.mp hrun
      exact ih (h.step (step_eq_some_iff.mp hstep)) hrest

theorem exists_step_of_worker {index : Nat} {worker : Worker}
    (hworker : crew.pool.workers[index]? = some worker)
    (hthread : worker.phase = .ready → crew.busy < crew.pool.permits.total) :
    ∃ next, crew.step work (.worker index) = some next := by
  obtain ⟨pool, hstep⟩ : ∃ pool, crew.pool.step work (.worker index) = some pool :=
    Pool.exists_step_of_worker hworker
  obtain ⟨path, phase⟩ := worker
  by_cases hdone : phase = .done
  · subst hdone
    exact ⟨_, step_eq_some_iff.mpr (.giveBack hworker hstep)⟩
  · exact ⟨_, step_eq_some_iff.mpr (.work hworker hthread hdone hstep)⟩

/-- When no worker keeps a thread for a notification, one of the workers can move. -/
theorem Sound.exists_workerStep (h : Sound work limit paths sink crew)
    (hnotifying : crew.notifying = 0) (hworkers : crew.pool.workers ≠ []) :
    ∃ index next, crew.step work (.worker index) = some next := by
  by_cases hready : ∀ worker ∈ crew.pool.workers, worker.phase = .ready
  · obtain ⟨trace, hrun⟩ := h.pool
    have htotal := hrun.sound.total
    have hidle : crew.busy = 0 := by
      simpa [busy, hnotifying, List.countP_eq_zero] using hready
    obtain ⟨worker, rest, hcons⟩ := List.exists_cons_of_ne_nil hworkers
    have hworker : crew.pool.workers[0]? = some worker := by simp [hcons]
    exact ⟨0, exists_step_of_worker hworker fun _ => by omega⟩
  · obtain ⟨worker, hmem, hbegun⟩ : ∃ worker ∈ crew.pool.workers, worker.phase ≠ .ready := by
      simpa using hready
    obtain ⟨index, hworker⟩ := List.getElem?_of_mem hmem
    exact ⟨index, exists_step_of_worker hworker fun hphase => absurd hphase hbegun⟩

theorem exists_step_of_proceeds (hlooks : crew.driver.Looks)
    (hproceeds : ∃ pool, crew.pool.step work .driver = some pool) :
    ∃ next, crew.step work .driver = some next := by
  obtain ⟨pool, hstep⟩ := hproceeds
  by_cases hstops : pool.driver = .stopped
  · exact ⟨_, step_eq_some_iff.mpr (.stop hlooks hstep hstops)⟩
  · exact ⟨_, step_eq_some_iff.mpr (.drive hlooks hstep hstops)⟩

/-- With every permit free and nobody left to wake it, the driver does not sleep. -/
theorem Sound.driver_ne_asleep (h : Sound work limit paths sink crew)
    (hnotifying : crew.notifying = 0) (hworkers : crew.pool.workers = []) :
    crew.driver ≠ .asleep := by
  intro hasleep
  obtain ⟨trace, hrun⟩ := h.pool
  have hheld := hrun.sound.held
  have htotal := hrun.sound.total
  have hidle := (h.waits (.inl hasleep)).1
  have hfree : 0 < crew.pool.permits.free := by
    simp only [hworkers, hidle, Pool.heldBy, List.length_nil, Permits.total] at hheld htotal
    omega
  have hthreads : crew.semaphore.threads = {⟨.asleep, 0⟩} := by
    rw [semaphore_threads hasleep (show Pool.heldBy _ = 0 by rw [hidle]; rfl), hworkers, hnotifying]
    rfl
  obtain ⟨thread, hthread, hawake⟩ :=
    h.semaphore.sound.exists_awake hfree ⟨⟨.asleep, 0⟩, by simp [hthreads], rfl⟩
  rw [hthreads, Multiset.mem_singleton] at hthread
  subst hthread
  rcases hawake with hwoken | hnotifying
  · cases hwoken
  · cases hnotifying

theorem Sound.exists_driverStep (h : Sound work limit paths sink crew)
    (hnotifying : crew.notifying = 0) (hworkers : crew.pool.workers = [])
    (hgoes : ¬crew.Finished) : ∃ next, crew.step work .driver = some next := by
  obtain ⟨trace, hrun⟩ := h.pool
  cases hdriver : crew.driver with
  | running =>
      have hloop : ¬crew.pool.Returned := fun hreturned => hgoes ⟨hreturned, hdriver, hnotifying⟩
      exact exists_step_of_proceeds (.inl hdriver) (hrun.sound.exists_driverStep hworkers hloop)
  | asleep => exact absurd hdriver (h.driver_ne_asleep hnotifying hworkers)
  | woken =>
      obtain ⟨hidle, hwaiting⟩ := h.waits (.inr hdriver)
      have hloop : ¬crew.pool.Returned := by
        rintro ⟨-, hstopped | ⟨-, hnone⟩⟩
        · rw [hidle] at hstopped
          cases hstopped
        · exact hwaiting hnone
      exact exists_step_of_proceeds (.inr hdriver) (hrun.sound.exists_driverStep hworkers hloop)
  | notifying => exact ⟨_, step_eq_some_iff.mpr (.announce hdriver)⟩

/-- A dispatch that has not finished is never stuck. -/
theorem Sound.exists_step (h : Sound work limit paths sink crew) (hgoes : ¬crew.Finished) :
    ∃ move next, crew.step work move = some next := by
  cases hnotifying : crew.notifying with
  | zero =>
      by_cases hworkers : crew.pool.workers = []
      · exact ⟨.driver, h.exists_driverStep hnotifying hworkers hgoes⟩
      · obtain ⟨index, hstep⟩ := h.exists_workerStep hnotifying hworkers
        exact ⟨.worker index, hstep⟩
  | succ notifying =>
      refine ⟨.notify, ?_⟩
      by_cases hdriver : crew.driver = .asleep
      · exact ⟨_, step_eq_some_iff.mpr (.wake hnotifying hdriver)⟩
      · exact ⟨_, step_eq_some_iff.mpr (.wakeNone hnotifying hdriver)⟩

theorem Sound.permits_of_finished (h : Sound work limit paths sink crew) (hend : crew.Finished) :
    crew.pool.permits = ⟨max limit 1, 0⟩ := by
  obtain ⟨trace, hrun⟩ := h.pool
  have hheld := hrun.sound.held
  have htotal := hrun.sound.total
  have hnone : Pool.heldBy crew.pool.driver = 0 := by
    rcases hend.returned.2 with hstopped | ⟨hidle, -⟩
    · rw [hstopped]
      rfl
    · rw [hidle]
      rfl
  have hback : crew.pool.permits.held = 0 := by simp [hheld, hend.returned.1, hnone]
  calc crew.pool.permits
      = ⟨crew.pool.permits.free, crew.pool.permits.held⟩ := rfl
    _ = ⟨crew.pool.permits.total, 0⟩ := by rw [Permits.total, hback, Nat.add_zero]
    _ = ⟨max limit 1, 0⟩ := by rw [htotal]

def driverWeight : Semaphore.Phase → Nat
  | .asleep => 0
  | .running | .woken => 1
  | .notifying => 2

theorem driverWeight_of_looks {phase : Semaphore.Phase} (h : phase.Looks) :
    driverWeight phase = 1 := by
  rcases h with rfl | rfl <;> rfl

/-- Bounds the steps that are left. A step of the pool may cost a notification, and a notification
may cost the driver another look. -/
def weight (crew : Crew σ) : Nat :=
  3 * crew.pool.weight + 2 * crew.notifying + driverWeight crew.driver

theorem weight_transition_lt (hstep : Transition work crew move next) :
    next.weight < crew.weight := by
  cases hstep with
  | drive hlooks hstep =>
      have hlighter := Pool.weight_step_lt hstep
      simp only [weight, driverWeight]
      omega
  | stop hlooks hstep =>
      have hlighter := Pool.weight_step_lt hstep
      have hdriver := driverWeight_of_looks hlooks
      simp only [weight, driverWeight] at hdriver ⊢
      omega
  | sleep hlooks =>
      have hdriver := driverWeight_of_looks hlooks
      simp only [weight, driverWeight] at hdriver ⊢
      omega
  | announce hdriver =>
      simp only [weight, hdriver, driverWeight]
      omega
  | work _ _ _ hstep =>
      have hlighter := Pool.weight_step_lt hstep
      simp only [weight]
      omega
  | giveBack _ hstep =>
      have hlighter := Pool.weight_step_lt hstep
      simp only [weight]
      omega
  | wake hnotifying hdriver =>
      simp only [weight, hnotifying, hdriver, driverWeight]
      omega
  | wakeNone hnotifying =>
      simp only [weight, hnotifying]
      omega

theorem length_add_weight_le (moves : List Move) (hrun : crew.run work moves = some next) :
    moves.length + next.weight ≤ crew.weight := by
  induction moves generalizing crew with
  | nil =>
      cases hrun
      simp
  | cons move moves ih =>
      obtain ⟨middle, hstep, hrest⟩ := Option.bind_eq_some_iff.mp hrun
      have hlighter := weight_transition_lt (step_eq_some_iff.mp hstep)
      have hlater := ih hrest
      rw [List.length_cons]
      omega

/-- **No permit and no wakeup is lost, and a dispatch moves on until all permits are back.** With
any number of permits and threads, whatever the order of their steps, each permit is free or held
by one thread, so that there are no more holders than permits; and if a permit is free while a
thread sleeps, a thread was woken and has yet to look, or a notification is to come. A dispatch
uses its semaphore in this way. Its runs are finite, as long as it has not finished the driver or a
worker can move, and when it has finished every permit is free. -/
theorem keeps_permits_and_wakeups (work : Work) (paths : List Path) (sink : σ) :
    (∀ permits count semaphore,
      Semaphore.Reaches (Semaphore.start permits count) semaphore →
        semaphore.permits.free + Semaphore.heldBy semaphore.threads = permits ∧
        Semaphore.holders semaphore.threads ≤ permits ∧
        (0 < semaphore.permits.free →
          (∃ thread ∈ semaphore.threads, thread.phase = .asleep) →
            ∃ thread ∈ semaphore.threads, thread.phase = .woken ∨ thread.phase = .notifying)) ∧
    ∀ limit moves crew, 1 ≤ limit → (start limit paths sink).run work moves = some crew →
      Semaphore.Reaches (Semaphore.start limit 1) crew.semaphore ∧
      moves.length ≤ (start limit paths sink).weight ∧
      (¬crew.Finished → ∃ move next, crew.step work move = some next) ∧
      (crew.Finished → crew.pool.permits = ⟨limit, 0⟩) := by
  constructor
  · intro permits count semaphore hrun
    have hsound := hrun.sound
    refine ⟨?_, hsound.holders_le, hsound.exists_awake⟩
    calc semaphore.permits.free + Semaphore.heldBy semaphore.threads
        = semaphore.permits.total := by rw [← hsound.held, Permits.total]
      _ = permits := hsound.total
  · intro limit moves crew hlimit hrun
    have hsound := (sound_start work limit paths sink).run moves hrun
    have hmax : max limit 1 = limit := Nat.max_eq_left hlimit
    refine ⟨hmax ▸ hsound.semaphore, ?_, hsound.exists_step, fun hend => ?_⟩
    · exact Nat.le_of_add_right_le (length_add_weight_le moves hrun)
    · rw [hsound.permits_of_finished hend, hmax]

/-- A permit was just given back, another thread sleeps, and a third has not asked for one. -/
def returnedPermit : Semaphore :=
  ⟨⟨1, 0⟩, {⟨.notifying, 0⟩, ⟨.asleep, 0⟩, ⟨.running, 0⟩}⟩

theorem reaches_returnedPermit : Semaphore.Reaches (Semaphore.start 1 3) returnedPermit := by
  have htake : Semaphore.Step (Semaphore.start 1 3)
      ⟨⟨0, 1⟩, {⟨.running, 1⟩, ⟨.running, 0⟩, ⟨.running, 0⟩}⟩ :=
    .take rfl (.inl rfl) rfl
  have hsleep : Semaphore.Step ⟨⟨0, 1⟩, {⟨.running, 1⟩, ⟨.running, 0⟩, ⟨.running, 0⟩}⟩
      ⟨⟨0, 1⟩, {⟨.asleep, 0⟩, ⟨.running, 1⟩, ⟨.running, 0⟩}⟩ :=
    .sleep (Multiset.cons_swap _ _ {_}) (.inl rfl) rfl
  have hreturn : Semaphore.Step ⟨⟨0, 1⟩, {⟨.asleep, 0⟩, ⟨.running, 1⟩, ⟨.running, 0⟩}⟩
      ⟨⟨1, 0⟩, {⟨.notifying, 0⟩, ⟨.asleep, 0⟩, ⟨.running, 0⟩}⟩ :=
    .giveBack (Multiset.cons_swap _ _ {_})
  exact .tail (.tail (.single htake) hsleep) hreturn

/-- The driver falls asleep and the first file is done. -/
def firstMoves : List Move :=
  [.driver, .driver, .driver, .worker 0, .driver, .worker 0, .worker 0]

/-- The driver is woken, the second file fails, and the third is not started. -/
def lastMoves : List Move :=
  [.notify, .driver, .driver, .driver, .worker 0, .worker 0, .worker 0, .notify, .driver, .driver,
    .driver]

theorem keeps_permits_and_wakeups_of_mixedFiles :
    (Semaphore.Reaches (Semaphore.start 1 3) returnedPermit ∧
      ∃ thread ∈ returnedPermit.threads, thread.phase = .woken ∨ thread.phase = .notifying) ∧
    (∃ crew, (start 1 Pool.mixedFiles ({} : Collection)).run Pool.mixedWork firstMoves =
        some crew ∧
      crew.driver = .asleep ∧ crew.pool.permits = ⟨1, 0⟩ ∧
      ∃ move next, crew.step Pool.mixedWork move = some next) ∧
    ∃ crew, (start 1 Pool.mixedFiles ({} : Collection)).run Pool.mixedWork
        (firstMoves ++ lastMoves) = some crew ∧
      crew.Finished ∧ crew.pool.permits = ⟨1, 0⟩ := by
  obtain ⟨hthreads, hdispatch⟩ :=
    keeps_permits_and_wakeups Pool.mixedWork Pool.mixedFiles ({} : Collection)
  refine ⟨⟨reaches_returnedPermit, ?_⟩, ?_, ?_⟩
  · obtain ⟨-, -, hawake⟩ := hthreads 1 3 returnedPermit reaches_returnedPermit
    exact hawake Nat.one_pos ⟨⟨.asleep, 0⟩, by simp [returnedPermit], rfl⟩
  · obtain ⟨crew, hrun, hasleep, hpermits⟩ :
        ∃ crew, (start 1 Pool.mixedFiles ({} : Collection)).run Pool.mixedWork firstMoves =
          some crew ∧ crew.driver = .asleep ∧ crew.pool.permits = ⟨1, 0⟩ := ⟨_, rfl, rfl, rfl⟩
    obtain ⟨-, -, hmoves, -⟩ := hdispatch 1 firstMoves crew le_rfl hrun
    have hgoes : ¬crew.Finished := fun hend => by cases hasleep.symm.trans hend.driver
    exact ⟨crew, hrun, hasleep, hpermits, hmoves hgoes⟩
  · obtain ⟨crew, hrun, hend⟩ :
        ∃ crew, (start 1 Pool.mixedFiles ({} : Collection)).run Pool.mixedWork
          (firstMoves ++ lastMoves) = some crew ∧ crew.Finished :=
      ⟨_, rfl, ⟨⟨rfl, .inl rfl⟩, rfl, rfl⟩⟩
    obtain ⟨-, -, -, hback⟩ := hdispatch 1 (firstMoves ++ lastMoves) crew le_rfl hrun
    exact ⟨crew, hrun, hend, hback hend⟩

end Run

end Understudy.Crew
