/-!
Permits that bound how many pieces of work are under way. Taking one and giving one back keep
the sum of free and held permits.
-/

namespace Understudy

structure Permits where
  free : Nat
  held : Nat := 0
deriving DecidableEq, Repr

namespace Permits

/-- None when the taker has to wait. -/
def acquire? (permits : Permits) : Option Permits :=
  match permits.free with
  | 0 => none
  | free + 1 => some ⟨free, permits.held + 1⟩

def release (permits : Permits) : Permits :=
  match permits.held with
  | 0 => permits
  | held + 1 => ⟨permits.free + 1, held⟩

def releaseAll (permits : Permits) : Permits :=
  ⟨permits.free + permits.held, 0⟩

def total (permits : Permits) : Nat :=
  permits.free + permits.held

theorem total_acquire? {permits taken : Permits} (h : permits.acquire? = some taken) :
    taken.total = permits.total := by
  unfold acquire? at h
  split at h
  · simp at h
  · next free heq =>
    simp only [Option.some.injEq] at h
    subst h
    simp only [total, heq]
    omega

theorem total_release (permits : Permits) : permits.release.total = permits.total := by
  unfold release
  split
  · rfl
  · next held heq =>
    simp only [total, heq]
    omega

end Permits

end Understudy
