import VolumeDriver.Mount.Error

/-!
# Work handed to a worker

What may block is done by a worker, who hands the result back. A worker who falls over hands nothing back.
-/

namespace VolumeDriver

/-- What comes of work that was handed to a worker. -/
inductive WorkerOutcome (α : Type) where
  | finished (result : Except MountError α)
  | lost

/-- The result for who waits for it. -/
def WorkerOutcome.result {α : Type} : WorkerOutcome α → Except MountError α
  | finished result => result
  | lost => .error (.other "mount request was cancelled (worker panicked?)")

end VolumeDriver
