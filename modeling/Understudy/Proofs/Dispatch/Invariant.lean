import Understudy.Proofs.Dispatch.Steps

/-!
# What every step of a pool keeps

`Pool.Sound` holds of every pool that a dispatch can become, whatever the sink: each permit is free,
held by the driver or held by one worker; the started files and those still waiting are the given
list; and each started file was either worked on once or has a worker that has yet to begin. So no
more files are under way than the limit allows, and a pool that no move can change has returned.
-/

namespace Understudy.Pool

open scoped List

variable {σ : Type}

def heldBy : DriverPhase → Nat
  | .idle | .stopped => 0
  | .holding | .cleared => 1

/-- The file of a worker that has yet to begin. -/
def unread? (worker : Worker) : Option Path :=
  match worker.phase with
  | .ready => some worker.path
  | _ => none

structure Sound (limit : Nat) (paths : List Path) (trace : Trace) (pool : Pool σ) : Prop where
  total : pool.permits.total = max limit 1
  held : pool.permits.held = pool.workers.length + heldBy pool.driver
  started : trace.started ++ pool.waiting = paths
  ran : trace.ran ++ pool.workers.filterMap unread? ~ trace.started
  pending : heldBy pool.driver = 1 → pool.waiting ≠ []

section Permits

variable {permits taken : Permits}

theorem held_acquire? (h : permits.acquire? = some taken) : taken.held = permits.held + 1 := by
  unfold Permits.acquire? at h
  split at h
  · simp at h
  · cases h
    rfl

theorem held_release (permits : Permits) : permits.release.held = permits.held - 1 := by
  unfold Permits.release
  split
  · next heq => simp [heq]
  · next held heq => simp [heq]

theorem acquire?_isSome_iff : permits.acquire?.isSome ↔ 0 < permits.free := by
  unfold Permits.acquire?
  split
  · next heq => simp [heq]
  · next free heq => simp [heq]

theorem acquire?_eq_none_iff : permits.acquire? = none ↔ permits.free = 0 := by
  rw [← Option.not_isSome_iff_eq_none, acquire?_isSome_iff, Nat.pos_iff_ne_zero, not_not]

end Permits

theorem sound_start (limit : Nat) (paths : List Path) (sink : σ) :
    Sound limit paths {} (start limit paths sink) where
  total := by simp [start, Permits.total]
  held := by simp [start, heldBy]
  started := by simp [start]
  ran := by simp [start]
  pending := by simp [start, heldBy]

section Worker

variable {limit : Nat} {paths : List Path} {trace : Trace} {pool : Pool σ} {index : Nat}
  {path : Path}

theorem Sound.begin (h : Sound limit paths trace pool)
    (hworker : pool.workers[index]? = some ⟨path, .ready⟩) {phase : WorkerPhase}
    (hphase : unread? ⟨path, phase⟩ = none) :
    Sound limit paths { trace with ran := trace.ran ++ [path] }
      (pool.setPhase index path phase) where
  total := h.total
  held := by simpa [setPhase] using h.held
  started := h.started
  ran := by
    have hbegun : pool.workers.filterMap unread? ~
        path :: (pool.workers.set index ⟨path, phase⟩).filterMap unread? :=
      filterMap_set_perm_of_eq_none unread? hworker rfl hphase
    calc trace.ran ++ [path] ++ (pool.workers.set index ⟨path, phase⟩).filterMap unread?
        = trace.ran ++ (path :: (pool.workers.set index ⟨path, phase⟩).filterMap unread?) := by
          simp
      _ ~ trace.ran ++ pool.workers.filterMap unread? := hbegun.symm.append_left _
      _ ~ trace.started := h.ran
  pending := h.pending

theorem Sound.advance (h : Sound limit paths trace pool) {before after : WorkerPhase}
    (hworker : pool.workers[index]? = some ⟨path, before⟩)
    (hbefore : unread? ⟨path, before⟩ = none) (hafter : unread? ⟨path, after⟩ = none)
    (sink : σ) (failure : Option Failure) :
    Sound limit paths trace { pool.setPhase index path after with sink, failure } where
  total := h.total
  held := by simpa [setPhase] using h.held
  started := h.started
  ran := by
    have hsame : pool.workers.filterMap unread? ~
        (pool.workers.set index ⟨path, after⟩).filterMap unread? :=
      filterMap_set_perm_of_eq unread? hworker (hbefore.trans hafter.symm)
    exact (hsame.symm.append_left _).trans h.ran
  pending := h.pending

theorem Sound.leave (h : Sound limit paths trace pool)
    (hworker : pool.workers[index]? = some ⟨path, .done⟩) :
    Sound limit paths trace
      { pool with workers := pool.workers.eraseIdx index, permits := pool.permits.release } where
  total := (Permits.total_release _).trans h.total
  held := by
    have hlt := (List.getElem?_eq_some_iff.mp hworker).1
    have hheld := h.held
    simp only [held_release, List.length_eraseIdx_of_lt hlt]
    omega
  started := h.started
  ran := by
    have hsame : pool.workers.filterMap unread? ~
        (pool.workers.eraseIdx index).filterMap unread? :=
      filterMap_eraseIdx_perm unread? hworker
    exact (hsame.symm.append_left _).trans h.ran
  pending := h.pending

end Worker

theorem sound_transition [Sink σ] {work : Work} {limit : Nat} {paths : List Path} {trace : Trace}
    {pool next : Pool σ} {move : Move} (h : Sound limit paths trace pool)
    (hstep : Transition work pool move next) : Sound limit paths (trace.after pool move) next := by
  cases hstep with
  | take hdriver hwaiting hpermits =>
      simp only [Trace.after, hdriver]
      refine ⟨(Permits.total_acquire? hpermits).trans h.total, ?_, h.started, h.ran, ?_⟩
      · have hheld := h.held
        simp only [held_acquire? hpermits, hdriver, heldBy] at hheld ⊢
        omega
      · simp [hwaiting]
  | stop hdriver hfailure =>
      simp only [Trace.after, hdriver]
      refine ⟨(Permits.total_release _).trans h.total, ?_, h.started, h.ran, by simp [heldBy]⟩
      have hheld := h.held
      simp only [held_release, hdriver, heldBy] at hheld ⊢
      omega
  | clear hdriver hfailure =>
      simp only [Trace.after, hdriver]
      refine ⟨h.total, ?_, h.started, h.ran, fun _ => h.pending (by simp [hdriver, heldBy])⟩
      simpa [hdriver, heldBy] using h.held
  | @start path rest hdriver hwaiting =>
      simp only [Trace.after, hdriver, hwaiting]
      refine ⟨h.total, ?_, ?_, ?_, by simp [heldBy]⟩
      · simpa [hdriver, heldBy] using h.held
      · simpa [hwaiting] using h.started
      · simpa [unread?] using h.ran.append_right [path]
  | @load index path result hworker hwork =>
      simp only [Trace.after, hworker]
      exact h.begin hworker rfl
  | @fail index path failure hworker hwork =>
      simp only [Trace.after, hworker]
      exact h.begin hworker rfl
  | @store index path result sink hworker hsink =>
      simp only [Trace.after, hworker]
      exact h.advance hworker rfl rfl sink pool.failure
  | @refuse index path result failure hworker hsink =>
      simp only [Trace.after, hworker]
      exact h.advance hworker rfl rfl pool.sink pool.failure
  | @report index path failure hworker =>
      simp only [Trace.after, hworker]
      exact h.advance hworker rfl rfl pool.sink (pool.failure.or (some (failure.inFile path)))
  | @leave index path hworker =>
      simp only [Trace.after, hworker]
      exact h.leave hworker

section Run

variable [Sink σ] {work : Work} {limit : Nat} {paths : List Path} {trace : Trace}
  {sink : σ} {pool : Pool σ}

theorem Reaches.sound (hrun : Reaches work (start limit paths sink) trace pool) :
    Sound limit paths trace pool :=
  hrun.invariant (sound_start limit paths sink) sound_transition

/-- No more files are under way than the limit allows. -/
theorem Reaches.length_workers_le (hrun : Reaches work (start limit paths sink) trace pool) :
    pool.workers.length ≤ max limit 1 := by
  have hsound := hrun.sound
  have htotal := hsound.total
  have hheld := hsound.held
  simp only [Permits.total] at htotal
  omega

theorem Reaches.started_prefix (hrun : Reaches work (start limit paths sink) trace pool) :
    trace.started <+: paths :=
  ⟨pool.waiting, hrun.sound.started⟩

theorem Reaches.ran_subperm (hrun : Reaches work (start limit paths sink) trace pool) :
    trace.ran <+~ trace.started :=
  (List.sublist_append_left _ _).subperm.trans hrun.sound.ran.subperm

theorem exists_step_of_worker {index : Nat} {worker : Worker}
    (hworker : pool.workers[index]? = some worker) :
    ∃ next, pool.step work (.worker index) = some next := by
  obtain ⟨path, phase⟩ := worker
  cases phase with
  | ready =>
      cases hwork : work path with
      | ok result => exact ⟨_, step_eq_some_iff.mpr (.load hworker hwork)⟩
      | error failure => exact ⟨_, step_eq_some_iff.mpr (.fail hworker hwork)⟩
  | loaded result =>
      cases hsink : Sink.append result pool.sink with
      | ok sink => exact ⟨_, step_eq_some_iff.mpr (.store hworker hsink)⟩
      | error failure => exact ⟨_, step_eq_some_iff.mpr (.refuse hworker hsink)⟩
  | failed failure => exact ⟨_, step_eq_some_iff.mpr (.report hworker)⟩
  | done => exact ⟨_, step_eq_some_iff.mpr (.leave hworker)⟩

theorem exists_workerStep (hworkers : pool.workers ≠ []) :
    ∃ next, pool.step work (.worker 0) = some next := by
  obtain ⟨worker, rest, hcons⟩ := List.exists_cons_of_ne_nil hworkers
  exact exists_step_of_worker (show pool.workers[0]? = some worker by simp [hcons])

/-- Without a worker under way the driver can move until it leaves its loop. -/
theorem Sound.exists_driverStep (h : Sound limit paths trace pool) (hworkers : pool.workers = [])
    (hloop : ¬pool.Returned) : ∃ next, pool.step work .driver = some next := by
  have hheld := h.held
  have htotal := h.total
  cases hdriver : pool.driver with
  | idle =>
      have hwaiting : pool.waiting ≠ [] := by
        intro hnil
        exact hloop ⟨hworkers, .inr ⟨hdriver, hnil⟩⟩
      obtain ⟨path, rest, hcons⟩ := List.exists_cons_of_ne_nil hwaiting
      have hfree : 0 < pool.permits.free := by
        simp only [hworkers, hdriver, heldBy, List.length_nil, Permits.total] at hheld htotal
        omega
      obtain ⟨permits, hpermits⟩ := Option.isSome_iff_exists.mp (acquire?_isSome_iff.mpr hfree)
      exact ⟨_, step_eq_some_iff.mpr (.take hdriver hcons hpermits)⟩
  | holding =>
      cases hfailure : pool.failure with
      | none => exact ⟨_, step_eq_some_iff.mpr (.clear hdriver hfailure)⟩
      | some failure => exact ⟨_, step_eq_some_iff.mpr (.stop hdriver (by simp [hfailure]))⟩
  | cleared =>
      obtain ⟨path, rest, hcons⟩ :=
        List.exists_cons_of_ne_nil (h.pending (by simp [hdriver, heldBy]))
      exact ⟨_, step_eq_some_iff.mpr (.start hdriver hcons)⟩
  | stopped => exact absurd ⟨hworkers, .inl hdriver⟩ hloop

/-- A dispatch that has not returned is never stuck. -/
theorem Sound.exists_step (h : Sound limit paths trace pool) (hgoes : ¬pool.Returned) :
    ∃ move next, pool.step work move = some next := by
  by_cases hworkers : pool.workers = []
  · exact ⟨.driver, h.exists_driverStep hworkers hgoes⟩
  · exact ⟨.worker 0, exists_workerStep hworkers⟩

/-- Whatever was done so far, the dispatch can be brought to its end. -/
theorem Reaches.exists_returned (hrun : Reaches work (start limit paths sink) trace pool) :
    ∃ trace last, Reaches work (start limit paths sink) trace last ∧ last.Returned := by
  -- every step lowers the weight, and `Sound` gives a step until the pool has returned
  induction hweight : pool.weight using Nat.strongRecOn generalizing trace pool with
  | ind weight ih =>
      by_cases hreturned : pool.Returned
      · exact ⟨trace, pool, hrun, hreturned⟩
      · obtain ⟨move, next, hstep⟩ : ∃ move next, pool.step work move = some next :=
          hrun.sound.exists_step hreturned
        exact ih next.weight (hweight ▸ weight_step_lt hstep) (hrun.step hstep) rfl

end Run

end Understudy.Pool
