import Understudy.Failure

/-!
# Results of steps that can fail

A step that succeeded was made from one that succeeded. A step whose parts all fail without naming
the file that was being processed fails so too.
-/

namespace Understudy

section Except

variable {ε α β : Type} {value : Except ε α} {result : β}

theorem exists_of_map_eq_ok {f : α → β} (h : value.map f = .ok result) :
    ∃ read, value = .ok read ∧ f read = result := by
  cases value with
  | error failure => cases h
  | ok read => exact ⟨read, rfl, Except.ok.inj h⟩

theorem exists_of_bind_eq_ok {f : α → Except ε β} (h : value.bind f = .ok result) :
    ∃ read, value = .ok read ∧ f read = .ok result := by
  cases value with
  | error failure => cases h
  | ok read => exact ⟨read, rfl, h⟩

theorem eq_ok_of_toOption {read : α} (h : value.toOption = some read) : value = .ok read := by
  cases value with
  | error failure => cases h
  | ok found =>
      cases h
      rfl

end Except

section NamesNoFile

variable {α β : Type} {value : Except Failure α}

/-- When the step fails, it does so without the name of the file that was being processed. -/
def NamesNoFile (value : Except Failure α) : Prop :=
  ∀ failure, value = .error failure → failure.namesFile = false

theorem namesNoFile_ok (result : α) : NamesNoFile (.ok result : Except Failure α) := by
  intro failure h
  cases h

theorem namesNoFile_error {failure : Failure} (h : failure.namesFile = false) :
    NamesNoFile (.error failure : Except Failure α) := by
  intro other hother
  cases hother
  exact h

theorem NamesNoFile.bind (h : NamesNoFile value) {f : α → Except Failure β}
    (hf : ∀ read, NamesNoFile (f read)) : NamesNoFile (value.bind f) := by
  cases value with
  | error failure => exact namesNoFile_error (h failure rfl)
  | ok read => exact hf read

theorem NamesNoFile.map (h : NamesNoFile value) (f : α → β) : NamesNoFile (value.map f) :=
  h.bind fun read => namesNoFile_ok (f read)

end NamesNoFile

end Understudy
