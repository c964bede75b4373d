import ControlPlane.Workers.Tasks

/-!
`workers/runner.py`: the boundary that records what a handler did not catch,
and one poll of the worker loop. A commit that failed in the flush leaves the
session unusable until a rollback, which only `record` issues, so after a
database error the refresh raises and the job keeps its status.
-/

namespace ControlPlane.Runner

open Lib JobService Tasks

variable [Deployment]

/-- The `except` of `process_job`. -/
def recordException (job : Job) (e : PyErr) : Session Unit :=
  match e with
  | .db _ _ => throw .pendingRollback
  | .pendingRollback => throw .pendingRollback
  | e => do
      let job ← refreshJob job.id
      markJobFailed job e.str

def processJob (job : Job) : Session Unit := do
  let outcome ← tryCatch (do
      let error ← runTask job
      return Except.ok error)
    fun e => return Except.error e
  match outcome with
  | .error e => recordException job e
  | .ok (some error) => do
      let job ← refreshJob job.id
      markJobFailed job error
  | .ok none => return ()

/-- One iteration of `run_forever`; the loop goes on whatever it returns or
raises. -/
def pollOnce : Session Bool := do
  let job ← claimNextPending
  match job with
  | none => return false
  | some job => do
      processJob job
      return true

end ControlPlane.Runner
