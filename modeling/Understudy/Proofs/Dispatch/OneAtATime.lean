import Understudy.Proofs.Dispatch.Arrival

/-!
# One file at a time

With a single permit no two files are under way at once, and the driver looks for a failure only
after the worker before has recorded its own. `Pool.outlook` is how the run without a limit would
go on from where a pool stands, and no step of such a pool changes it. So a dispatch under a limit
of one or zero ends in every interleaving with the sink and the failure of the run without a limit.
-/

namespace Understudy.Pool

variable {σ : Type} [Sink σ] {work : Work} {limit : Nat} {paths : List Path} {sink : σ}
  {pool next : Pool σ} {move : Move}

/-- What a worker makes of the sink when it goes on alone. -/
def sinkAfter (work : Work) (sink : σ) (worker : Worker) : Except Failure σ :=
  match worker.phase with
  | .ready => Dispatch.processOne work worker.path sink
  | .loaded result => Sink.append result sink
  | .failed failure => .error failure
  | .done => .ok sink

/-- The end that the run without a limit comes to once the file under way is dealt with. -/
def outlook (work : Work) (pool : Pool σ) : RunEnd σ :=
  match pool.failure, pool.workers with
  | some failure, _ => ⟨some failure, pool.sink⟩
  | none, [] => Dispatch.sequential work pool.waiting pool.sink
  | none, worker :: _ =>
      match sinkAfter work pool.sink worker with
      | .ok sink => Dispatch.sequential work pool.waiting sink
      | .error failure => ⟨some (failure.inFile worker.path), pool.sink⟩

/-- Once a failure is recorded no work goes on and none will be started, and the driver stops for
no other reason. -/
structure HaltsOnFailure (pool : Pool σ) : Prop where
  uncleared : pool.failure.isSome → pool.driver ≠ .cleared
  finished : pool.failure.isSome → ∀ worker ∈ pool.workers, worker.phase = .done
  stopped : pool.driver = .stopped → pool.failure.isSome

theorem eq_singleton_of_getElem? {workers : List Worker} {index : Nat} {worker : Worker}
    (hfew : workers.length ≤ 1) (hworker : workers[index]? = some worker) :
    workers = [worker] ∧ index = 0 := by
  obtain ⟨hlt, rfl⟩ := List.getElem?_eq_some_iff.mp hworker
  obtain rfl : index = 0 := by omega
  obtain ⟨only, rfl⟩ := List.length_eq_one_iff.mp (show workers.length = 1 by omega)
  exact ⟨rfl, rfl⟩

omit [Sink σ] in
/-- No failure is recorded while the one worker is busy, and the driver has not stopped. -/
theorem HaltsOnFailure.of_busy (h : HaltsOnFailure pool) {worker : Worker}
    (hworkers : pool.workers = [worker]) (hbusy : worker.phase ≠ .done) :
    pool.failure = none ∧ pool.driver ≠ .stopped := by
  have hnone : pool.failure = none := by
    by_contra hfailure
    exact hbusy (h.finished (Option.isSome_iff_ne_none.mpr hfailure) worker (by simp [hworkers]))
  exact ⟨hnone, fun hdriver => by simpa [hnone] using h.stopped hdriver⟩

omit [Sink σ] in
theorem haltsOnFailure_of_eq_none (hnone : pool.failure = none) (hdriver : pool.driver ≠ .stopped) :
    HaltsOnFailure pool where
  uncleared h := by simp [hnone] at h
  finished h := by simp [hnone] at h
  stopped h := absurd h hdriver

/-- A step of the driver, or of the one worker, leads where the run without a limit leads. -/
theorem outlook_transition (hfew : pool.workers.length + heldBy pool.driver ≤ 1)
    (h : HaltsOnFailure pool) (hstep : Transition work pool move next) :
    next.outlook work = pool.outlook work ∧ HaltsOnFailure next := by
  have hone : pool.workers.length ≤ 1 := by omega
  cases hstep with
  | take hdriver hwaiting hpermits => exact ⟨rfl, by simp, h.finished, by simp⟩
  | stop hdriver hfailure => exact ⟨rfl, by simp, h.finished, fun _ => hfailure⟩
  | clear hdriver hfailure => exact ⟨rfl, haltsOnFailure_of_eq_none hfailure (by simp)⟩
  | @start path rest hdriver hwaiting =>
      -- the driver holds the only permit, so no file is under way
      have hworkers : pool.workers = [] := by
        rw [hdriver, heldBy] at hfew
        exact List.length_eq_zero_iff.mp (by omega)
      have hnone : pool.failure = none := by
        by_contra hfailure
        exact h.uncleared (Option.isSome_iff_ne_none.mpr hfailure) hdriver
      refine ⟨?_, haltsOnFailure_of_eq_none hnone (by simp)⟩
      cases hprocess : Dispatch.processOne work path pool.sink <;>
        simp [outlook, hnone, hworkers, hwaiting, sinkAfter, Dispatch.sequential, hprocess]
  | @load index path result hworker hwork =>
      obtain ⟨hworkers, rfl⟩ := eq_singleton_of_getElem? hone hworker
      obtain ⟨hnone, hdriver⟩ := h.of_busy hworkers (by simp)
      refine ⟨?_, haltsOnFailure_of_eq_none hnone hdriver⟩
      simp [outlook, setPhase, hnone, hworkers, sinkAfter, Dispatch.processOne, hwork]
  | @fail index path failure hworker hwork =>
      obtain ⟨hworkers, rfl⟩ := eq_singleton_of_getElem? hone hworker
      obtain ⟨hnone, hdriver⟩ := h.of_busy hworkers (by simp)
      refine ⟨?_, haltsOnFailure_of_eq_none hnone hdriver⟩
      simp [outlook, setPhase, hnone, hworkers, sinkAfter, Dispatch.processOne, hwork]
  | @store index path result sink hworker hsink =>
      obtain ⟨hworkers, rfl⟩ := eq_singleton_of_getElem? hone hworker
      obtain ⟨hnone, hdriver⟩ := h.of_busy hworkers (by simp)
      refine ⟨?_, haltsOnFailure_of_eq_none hnone hdriver⟩
      simp [outlook, setPhase, hnone, hworkers, sinkAfter, hsink]
  | @refuse index path result failure hworker hsink =>
      obtain ⟨hworkers, rfl⟩ := eq_singleton_of_getElem? hone hworker
      obtain ⟨hnone, hdriver⟩ := h.of_busy hworkers (by simp)
      refine ⟨?_, haltsOnFailure_of_eq_none hnone hdriver⟩
      simp [outlook, setPhase, hnone, hworkers, sinkAfter, hsink]
  | @report index path failure hworker =>
      obtain ⟨hworkers, rfl⟩ := eq_singleton_of_getElem? hone hworker
      obtain ⟨hnone, hdriver⟩ := h.of_busy hworkers (by simp)
      -- the worker holds the only permit, so the driver is not about to start a file
      have huncleared : pool.driver ≠ .cleared := by
        intro hcleared
        simp [hworkers, hcleared, heldBy] at hfew
      refine ⟨?_, fun _ => huncleared, ?_, fun hstopped => absurd hstopped hdriver⟩
      · simp [outlook, setPhase, record, hnone, hworkers, sinkAfter]
      · simp [record, setPhase, hworkers]
  | @leave index path hworker =>
      obtain ⟨hworkers, rfl⟩ := eq_singleton_of_getElem? hone hworker
      refine ⟨?_, h.uncleared, by simp [hworkers], h.stopped⟩
      cases hfailure : pool.failure <;> simp [outlook, hfailure, hworkers, sinkAfter]

theorem Reaches.outlook_eq (hlimit : limit ≤ 1) {trace : Trace}
    (hrun : Reaches work (start limit paths sink) trace pool) :
    pool.outlook work = Dispatch.sequential work paths sink ∧ HaltsOnFailure pool := by
  have hfirst : HaltsOnFailure (start limit paths sink) :=
    haltsOnFailure_of_eq_none rfl (by simp [start])
  have hkept := hrun.invariant (P := fun trace pool => Sound limit paths trace pool ∧
    pool.outlook work = Dispatch.sequential work paths sink ∧ HaltsOnFailure pool)
    ⟨sound_start limit paths sink, rfl, hfirst⟩ ?_
  · exact hkept.2
  · rintro trace pool next move ⟨hsound, houtlook, hhalts⟩ hstep
    -- one permit in all, and each worker holds one, as the driver does before it starts a file
    have hfew : pool.workers.length + heldBy pool.driver ≤ 1 := by
      have htotal := hsound.total
      have hheld := hsound.held
      simp only [Permits.total] at htotal
      omega
    obtain ⟨hsame, hhalts⟩ := outlook_transition hfew hhalts hstep
    exact ⟨sound_transition hsound hstep, hsame.trans houtlook, hhalts⟩

theorem Reaches.finish_eq (hlimit : limit ≤ 1) {trace : Trace}
    (hrun : Reaches work (start limit paths sink) trace pool) (hreturned : pool.Returned) :
    pool.finish = Dispatch.sequential work paths sink := by
  obtain ⟨houtlook, hhalts⟩ := hrun.outlook_eq hlimit
  rw [← houtlook]
  cases hfailure : pool.failure with
  | some failure => simp [finish, outlook, hfailure]
  | none =>
      have hwaiting : pool.waiting = [] := by
        rcases hreturned.2 with hstopped | ⟨_, hwaiting⟩
        · simpa [hfailure] using hhalts.stopped hstopped
        · exact hwaiting
      simp [finish, outlook, hfailure, hreturned.1, hwaiting, Dispatch.sequential]

/-- A run has no more moves than the weight of the pool it starts from. -/
theorem length_le_weight_of_play {trace last : Trace} (moves : List Move)
    (hplay : pool.play work trace moves = some (last, next)) :
    moves.length + next.weight ≤ pool.weight := by
  induction moves generalizing trace pool with
  | nil =>
      cases hplay
      simp
  | cons move moves ih =>
      simp only [play] at hplay
      split at hplay
      · simp at hplay
      · next middle hstep =>
        have hlighter := weight_step_lt hstep
        have hrest := ih hplay
        rw [List.length_cons]
        omega

/-- **Under a limit of one every interleaving is the run without a limit.** However driver and
worker take turns, the moves come to an end, and no dispatch is stuck before it has returned. It
then holds the sink and the failure of the run that works on one file after another, and so does
the run that gives way to the oldest worker. -/
theorem ends_as_without_limit (hlimit : limit ≤ 1) (work : Work) (paths : List Path) (sink : σ) :
    (∀ moves trace pool, (start limit paths sink).play work {} moves = some (trace, pool) →
      moves.length ≤ (start limit paths sink).weight ∧
      (¬pool.Returned → ∃ move next, pool.step work move = some next) ∧
      (pool.Returned → pool.finish = Dispatch.run none work paths sink)) ∧
    Dispatch.run (some limit) work paths sink = Dispatch.run none work paths sink := by
  constructor
  · intro moves trace pool hplay
    have hrun : Reaches work (start limit paths sink) trace pool := Reaches.refl.play moves hplay
    exact ⟨Nat.le_of_add_right_le (length_le_weight_of_play moves hplay), hrun.sound.exists_step,
      hrun.finish_eq hlimit⟩
  · obtain ⟨trace, hrun, hstuck⟩ := exists_reaches_settle work (start limit paths sink)
    exact hrun.finish_eq hlimit (hrun.sound.returned hstuck)

/-- The second of three files fails: the third is never started, as without a limit. -/
theorem ends_as_without_limit_of_mixed_files :
    0 ≤ 1 ∧ ∃ trace pool,
      (start 0 mixedFiles ({} : Collection)).play mixedWork {}
        [.driver, .driver, .driver, .worker 0, .worker 0, .worker 0, .driver, .driver, .driver,
          .worker 0, .worker 0, .worker 0, .driver, .driver] = some (trace, pool) ∧
      pool.Returned ∧ trace.started = [⟨"A.swift"⟩, ⟨"B.swift"⟩] ∧
      pool.finish = Dispatch.run none mixedWork mixedFiles {} ∧
      pool.finish.failure = some (.within ⟨"B.swift"⟩ (.unparsed "no tree")) ∧
      pool.finish.sink.files = 1 := by
  have hlimit : 0 ≤ 1 := Nat.zero_le 1
  obtain ⟨hends, _⟩ := ends_as_without_limit hlimit mixedWork mixedFiles ({} : Collection)
  obtain ⟨_, _, hreturned⟩ := hends
    [.driver, .driver, .driver, .worker 0, .worker 0, .worker 0, .driver, .driver, .driver,
      .worker 0, .worker 0, .worker 0, .driver, .driver] _ _ rfl
  exact ⟨hlimit, _, _, rfl, ⟨rfl, .inl rfl⟩, rfl, hreturned ⟨rfl, .inl rfl⟩, rfl, rfl⟩

end Understudy.Pool
