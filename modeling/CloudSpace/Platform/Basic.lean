import CloudSpace.Error
import CloudSpace.Platform.Call

/-!
# Platforms

A platform holds the live state of one space: the entities of each kind can be fetched, and
calls can be made. What a platform runs on is left open. Work on one may fail and may warn, and
the warnings of work that failed are kept.
-/
namespace CloudSpace

/-- Work that fails with an error or has a result, and that leaves warnings behind. -/
abbrev Task (m : Type → Type) (α : Type) : Type := ExceptT Error (StateT (List String) m) α

namespace Task

variable {m : Type → Type} [Monad m] {α : Type}

/-- Do something that cannot fail and leaves no warnings. -/
def act (action : m α) : Task m α := ExceptT.lift (StateT.lift action)

/-- Leave warnings. -/
def warn (messages : List String) : Task m Unit := do
  let earlier ← get
  set (earlier ++ messages)

/-- Do work and go on with what became of it. -/
def attempt (task : Task m α) : Task m (Except Error α) :=
  ExceptT.mk (task.run >>= fun outcome => pure (.ok outcome))

/-- Do work, and put its error, if it has one, into another. -/
def wrapError (wrap : Error → Error) (task : Task m α) : Task m α := do
  match ← task.attempt with
  | .ok result => return result
  | .error error => throw (wrap error)

/-- Do work from an empty list of warnings. -/
def start (task : Task m α) : m (Except Error α × List String) := (task.run).run []

end Task

structure Platform (m : Type → Type) where
  /-- The name of the sort of platform. -/
  name : String
  applications : Task m (NameMap Application)
  services : Task m (NameMap Service)
  developers : Task m (List String)
  perform : Call → Task m Unit

end CloudSpace
