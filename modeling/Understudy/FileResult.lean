import Understudy.Entity
import Understudy.ImportMap

/-!
What one file contributes to a run, and the places where contributions go: a collection that
merges them, and a channel that hands them to a receiver.
-/

namespace Understudy

structure FileResult where
  entities : List Entity
  imports : ImportMap
deriving DecidableEq, Repr

/-- A place that takes the results of a run one after another. -/
class Sink (σ : Type) where
  append : FileResult → σ → Except Failure σ

structure Collection where
  entities : List Entity := []
  imports : ImportMap := {}
  files : Nat := 0
deriving DecidableEq, Repr, Inhabited

def Collection.add (collection : Collection) (result : FileResult) : Collection :=
  { entities := collection.entities ++ result.entities
    imports := collection.imports.extend result.imports
    files := collection.files + 1 }

instance : Sink Collection where
  append result collection := .ok (collection.add result)

structure Channel where
  /-- Sent and not yet received, oldest first. -/
  queue : List FileResult := []
  /-- The receiver is still there. -/
  isOpen : Bool := true
deriving DecidableEq, Repr, Inhabited

namespace Channel

/-- Sending fails once the receiver is gone. -/
def send (result : FileResult) (channel : Channel) : Except Failure Channel :=
  if channel.isOpen then .ok { channel with queue := channel.queue ++ [result] }
  else .error (.pipeline "Result receiver was dropped")

/-- The oldest result that waits; none when there is none or the receiver is gone. -/
def receive (channel : Channel) : Option FileResult × Channel :=
  match channel.queue with
  | [] => (none, channel)
  | result :: rest => (some result, { channel with queue := rest })

/-- Without a receiver nothing waits any more. -/
def dropReceiver (_ : Channel) : Channel :=
  { queue := [], isOpen := false }

end Channel

instance : Sink Channel where
  append := Channel.send

end Understudy
