import SceneHub.Lib.Clock
import SceneHub.Session.World

/-!
# The Deadline Timer

`gm_room_session_runtime_update_deadline_timer` of
`gm_room_session_runtime.c`: the one-shot timer that wakes the runtime for the
next deadline of any session, branch or command.

The C loop takes a minimum with two tests that treat zero as no deadline; it
is `earliest` folded over the fields in the order the loop reads them.

## Main definitions

* `sessionDeadlines`: The deadline fields of a session, in reading order.
* `nextDeadline`: The minimum the timer is set for.
* `deadlineTimerDelay`: The delay the timer is started with.
-/

namespace SceneHub

open Lib (earliest)

/-- The deadlines of a branch; an inactive branch is skipped. -/
def branchDeadlines (b : Branch) : List Nat :=
  if !b.setup.active then []
  else [b.run.progress.wait.waitUntilMs.toNat, b.run.cooldownUntilMs.toNat]

/-- The deadlines of a session; one without a running scenario is skipped. -/
def sessionDeadlines (s : Session) : List Nat :=
  if !s.inUse ∨ !s.runningScenarioValid then []
  else s.run.progress.wait.waitUntilMs.toNat :: s.branches.flatMap branchDeadlines

/-- `next_deadline_ms` behind the loops, from the executor's next deadline. -/
def nextDeadline (executorDeadlineMs : Nat) (w : World) : Nat :=
  (w.sessions.flatMap sessionDeadlines).foldl earliest executorDeadlineMs

/-- The delay in milliseconds the timer is started with, or `none` if it is
    only stopped. The time it counts from is the 32-bit one. -/
def deadlineTimerDelay (executorDeadlineMs now : Nat) (w : World) : Option Nat :=
  let nowMs := (scenarioNow now).toNat
  let next := nextDeadline executorDeadlineMs w
  if next = 0 then none else some (if nowMs < next then next - nowMs else 1)

end SceneHub
