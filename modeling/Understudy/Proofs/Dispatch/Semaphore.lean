import Mathlib.Algebra.BigOperators.Group.Multiset.Basic
import Mathlib.Data.Multiset.Count
import Mathlib.Logic.Relation
import Understudy.Proofs.Dispatch.Invariant

/-!
# Threads at a semaphore

`Semaphore` puts threads around the permits. A thread that finds no permit sleeps until it is
notified, and then looks again; meanwhile a newcomer may have taken the permit. Giving a permit
back takes two steps, between which any thread may move: the permit is counted as free, and one
sleeper, if there is one, is woken. Threads start others, to which they hand permits, and end once
they hold none.

`Reaches.sound` says what every run keeps. Each permit is free or held by one thread. While a
thread sleeps, each free permit has a thread that was woken for it or a notification that is still
to come, so no wakeup is lost.
-/

namespace Understudy

namespace Semaphore

/-- Where a thread stands with the semaphore. -/
inductive Phase where
  | running
  | asleep
  /-- Notified, and about to look for a permit again. -/
  | woken
  /-- Its permit is counted as free, and the notification is to come. -/
  | notifying
deriving DecidableEq

/-- Looks for a permit in its next step, if it asks for one. -/
def Phase.Looks (phase : Phase) : Prop :=
  phase = .running ∨ phase = .woken

structure Thread where
  phase : Phase
  /-- The number of permits it holds. -/
  held : Nat

end Semaphore

structure Semaphore where
  permits : Permits
  threads : Multiset Semaphore.Thread

namespace Semaphore

/-- No permit is taken, and no thread has begun to ask for one. -/
def start (permits count : Nat) : Semaphore :=
  ⟨⟨permits, 0⟩, Multiset.replicate count ⟨.running, 0⟩⟩

/-- A step of one thread. Looking for a permit and falling asleep are one step, since the count is
locked meanwhile; giving a permit back and notifying are two. -/
inductive Step (semaphore : Semaphore) : Semaphore → Prop where
  | take {phase : Phase} {held : Nat} {others : Multiset Thread} {permits : Permits}
      (hthreads : semaphore.threads = ⟨phase, held⟩ ::ₘ others) (hlooks : phase.Looks)
      (hpermits : semaphore.permits.acquire? = some permits) :
      Step semaphore ⟨permits, ⟨.running, held + 1⟩ ::ₘ others⟩
  | sleep {phase : Phase} {held : Nat} {others : Multiset Thread}
      (hthreads : semaphore.threads = ⟨phase, held⟩ ::ₘ others) (hlooks : phase.Looks)
      (hpermits : semaphore.permits.acquire? = none) :
      Step semaphore ⟨semaphore.permits, ⟨.asleep, held⟩ ::ₘ others⟩
  | giveBack {held : Nat} {others : Multiset Thread}
      (hthreads : semaphore.threads = ⟨.running, held + 1⟩ ::ₘ others) :
      Step semaphore ⟨semaphore.permits.release, ⟨.notifying, held⟩ ::ₘ others⟩
  | wake {held kept : Nat} {others : Multiset Thread}
      (hthreads : semaphore.threads = ⟨.notifying, held⟩ ::ₘ ⟨.asleep, kept⟩ ::ₘ others) :
      Step semaphore ⟨semaphore.permits, ⟨.running, held⟩ ::ₘ ⟨.woken, kept⟩ ::ₘ others⟩
  | wakeNone {held : Nat} {others : Multiset Thread}
      (hthreads : semaphore.threads = ⟨.notifying, held⟩ ::ₘ others)
      (hnone : ∀ thread ∈ others, thread.phase ≠ .asleep) :
      Step semaphore ⟨semaphore.permits, ⟨.running, held⟩ ::ₘ others⟩
  | spawn {held given : Nat} {others : Multiset Thread}
      (hthreads : semaphore.threads = ⟨.running, held + given⟩ ::ₘ others) :
      Step semaphore ⟨semaphore.permits, ⟨.running, held⟩ ::ₘ ⟨.running, given⟩ ::ₘ others⟩
  | leave {others : Multiset Thread} (hthreads : semaphore.threads = ⟨.running, 0⟩ ::ₘ others) :
      Step semaphore ⟨semaphore.permits, others⟩

/-- What a semaphore can become, in any order of steps. -/
abbrev Reaches : Semaphore → Semaphore → Prop :=
  Relation.ReflTransGen Step

/-- The number of threads in a phase. -/
def inPhase (phase : Phase) (threads : Multiset Thread) : Nat :=
  threads.countP (·.phase = phase)

/-- The number of permits in the hands of threads. -/
def heldBy (threads : Multiset Thread) : Nat :=
  (threads.map Thread.held).sum

/-- The number of threads that hold a permit. -/
def holders (threads : Multiset Thread) : Nat :=
  threads.countP (0 < ·.held)

/-- What every run keeps. Each permit is in one place, and while a thread sleeps, the free permits
have as many threads on the way to them: woken ones, and those that are to notify. -/
structure Sound (permits : Nat) (semaphore : Semaphore) : Prop where
  total : semaphore.permits.total = permits
  held : semaphore.permits.held = heldBy semaphore.threads
  awake : 0 < inPhase .asleep semaphore.threads →
    semaphore.permits.free ≤
      inPhase .woken semaphore.threads + inPhase .notifying semaphore.threads

section Counts

variable {phase : Phase} {thread : Thread} {threads : Multiset Thread}

@[simp]
theorem heldBy_cons : heldBy (thread ::ₘ threads) = thread.held + heldBy threads := by
  simp [heldBy]

@[simp]
theorem inPhase_cons :
    inPhase phase (thread ::ₘ threads) =
      inPhase phase threads + if thread.phase = phase then 1 else 0 := by
  simp [inPhase, Multiset.countP_cons]

theorem inPhase_pos_iff : 0 < inPhase phase threads ↔ ∃ thread ∈ threads, thread.phase = phase := by
  simp [inPhase, Multiset.countP_pos]

theorem holders_le_heldBy (threads : Multiset Thread) : holders threads ≤ heldBy threads := by
  induction threads using Multiset.induction with
  | empty => simp [holders, heldBy]
  | cons thread threads ih =>
      simp only [holders, Multiset.countP_cons, heldBy_cons] at ih ⊢
      split <;> omega

end Counts

theorem sound_start (permits count : Nat) : Sound permits (start permits count) where
  total := by simp [start, Permits.total]
  held := by simp [start, heldBy]
  awake := by
    intro hasleep
    obtain ⟨thread, hthread, hphase⟩ := inPhase_pos_iff.mp hasleep
    obtain rfl := Multiset.eq_of_mem_replicate hthread
    cases hphase

theorem Sound.step {permits : Nat} {semaphore next : Semaphore} (h : Sound permits semaphore)
    (hstep : Step semaphore next) : Sound permits next := by
  obtain ⟨htotal, hheld, hawake⟩ := h
  cases hstep with
  | @take phase held others later hthreads hlooks hpermits =>
      have hmore : later.held = semaphore.permits.held + 1 := Pool.held_acquire? hpermits
      have hlater : later.total = permits := (Permits.total_acquire? hpermits).trans htotal
      have hfewer : semaphore.permits.free = later.free + 1 := by
        simp only [Permits.total] at htotal hlater
        omega
      simp only [hthreads, heldBy_cons, inPhase_cons] at hheld hawake
      refine ⟨hlater, ?_, ?_⟩
      · simp only [heldBy_cons]
        omega
      · -- a woken thread uses up the wakeup together with the permit
        rcases hlooks with rfl | rfl <;>
          simp only [inPhase_cons, reduceCtorEq, ↓reduceIte] at hawake ⊢ <;> omega
  | @sleep phase held others hthreads hlooks hpermits =>
      have hnone : semaphore.permits.free = 0 := Pool.acquire?_eq_none_iff.mp hpermits
      simp only [hthreads, heldBy_cons] at hheld
      refine ⟨htotal, by simpa using hheld, ?_⟩
      simp [hnone]
  | @giveBack held others hthreads =>
      simp only [hthreads, heldBy_cons, inPhase_cons, reduceCtorEq, ↓reduceIte] at hheld hawake
      -- the permit that becomes free comes with a notification
      have hless : semaphore.permits.release.held = semaphore.permits.held - 1 :=
        Pool.held_release _
      have hlater : semaphore.permits.release.total = permits :=
        (Permits.total_release _).trans htotal
      refine ⟨hlater, ?_, ?_⟩
      · simp only [heldBy_cons]
        omega
      · simp only [Permits.total] at htotal hlater
        simp only [inPhase_cons, reduceCtorEq, ↓reduceIte]
        omega
  | @wake held kept others hthreads =>
      -- a woken thread takes the place of the notification
      simp only [hthreads, heldBy_cons, inPhase_cons, reduceCtorEq, ↓reduceIte] at hheld hawake
      refine ⟨htotal, by simpa using hheld, ?_⟩
      simp only [inPhase_cons, reduceCtorEq, ↓reduceIte]
      omega
  | @wakeNone held others hthreads hnone =>
      simp only [hthreads, heldBy_cons] at hheld
      refine ⟨htotal, by simpa using hheld, ?_⟩
      -- nobody is left asleep
      intro hasleep
      obtain ⟨thread, hthread, hphase⟩ := inPhase_pos_iff.mp hasleep
      rcases Multiset.mem_cons.mp hthread with rfl | hthread
      · cases hphase
      · exact absurd hphase (hnone thread hthread)
  | @spawn held given others hthreads =>
      simp only [hthreads, heldBy_cons, inPhase_cons, reduceCtorEq, ↓reduceIte] at hheld hawake
      refine ⟨htotal, ?_, by simpa using hawake⟩
      simp only [heldBy_cons]
      omega
  | @leave others hthreads =>
      simp only [hthreads, heldBy_cons, inPhase_cons, reduceCtorEq, ↓reduceIte] at hheld hawake
      exact ⟨htotal, by simpa using hheld, by simpa using hawake⟩

theorem Reaches.sound {permits count : Nat} {semaphore : Semaphore}
    (hrun : Reaches (start permits count) semaphore) : Sound permits semaphore := by
  induction hrun with
  | refl => exact sound_start permits count
  | tail _ hstep ih => exact ih.step hstep

section Consequences

variable {permits : Nat} {semaphore : Semaphore}

theorem Sound.holders_le (h : Sound permits semaphore) : holders semaphore.threads ≤ permits := by
  have htotal := h.total
  simp only [Permits.total] at htotal
  calc holders semaphore.threads
      ≤ heldBy semaphore.threads := holders_le_heldBy _
    _ = semaphore.permits.held := h.held.symm
    _ ≤ permits := by omega

/-- No wakeup is lost. -/
theorem Sound.exists_awake (h : Sound permits semaphore) (hfree : 0 < semaphore.permits.free)
    (hasleep : ∃ thread ∈ semaphore.threads, thread.phase = .asleep) :
    ∃ thread ∈ semaphore.threads, thread.phase = .woken ∨ thread.phase = .notifying := by
  have hawake := h.awake (inPhase_pos_iff.mpr hasleep)
  rcases Nat.add_pos_iff_pos_or_pos.mp (hfree.trans_le hawake) with hwoken | hnotifying
  · obtain ⟨thread, hthread, hphase⟩ := inPhase_pos_iff.mp hwoken
    exact ⟨thread, hthread, .inl hphase⟩
  · obtain ⟨thread, hthread, hphase⟩ := inPhase_pos_iff.mp hnotifying
    exact ⟨thread, hthread, .inr hphase⟩

end Consequences

end Semaphore

end Understudy
