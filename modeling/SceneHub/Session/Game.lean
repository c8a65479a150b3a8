import SceneHub.Session.World

/-!
# Starting a Game

`gm_room_session_game_start_prepared` of `gm_room_session_game.c`. A game start
is no transaction of its own: behind its checks it makes three, which select
the profile, start the session and start the scenario, and it stops at the
first that fails. A scenario the validator rejects is recorded in the session
by a transaction in place of the three.

## Main definitions

* `GameStartRequest`: What a game is started with.
* `gameStartCheck`: The checks that come before any transaction.
* `gameStart`: The whole function.
-/

namespace SceneHub

/-- `gm_room_session_game_start_prepared_t`, with the duration the profile
    carries. -/
structure GameStartRequest where
  profile : GameProfile
  profileDurationMs : Nat
  scenario : RoomScenario
  prepared : PreparedScenario
  durationMs : Nat
  deriving Repr

def GameStartRequest.duration (request : GameStartRequest) : Nat :=
  if request.durationMs ≠ 0 then request.durationMs else request.profileDurationMs

/-- The checks at the head of `game_start_prepared_locked`. -/
def gameStartCheck (roomId : String) (request : GameStartRequest) : EspErr :=
  if roomId = "" then .invalidArg
  else if request.profile.id = "" ∨ request.profile.name = "" ∨ request.profile.roomId = "" ∨
      request.profile.scenarioId = "" ∨ request.duration = 0 then .invalidArg
  else if request.profile.roomId ≠ roomId ∨ request.scenario.roomId ≠ roomId ∨
      request.profile.scenarioId ≠ request.scenario.id then .invalidState
  else .ok

/-- Transactions made one after the other, up to the first that fails. -/
def stepOpsWhileOk (w : World) : List Op → EspErr × World
  | [] => (.ok, w)
  | op :: ops =>
    let (out, w) := stepOp w op
    if out.err ≠ .ok then (out.err, w) else stepOpsWhileOk w ops

/-- `gm_room_session_game_start_prepared`. The validator's verdict is
    `rejected`; `nowMs` is the caller's time and `now` the clock's. -/
def gameStart (w : World) (roomId : String) (nowMs : Nat) (request : GameStartRequest)
    (rejected : Option String) (now : Nat) : EspErr × World :=
  if gameStartCheck roomId request ≠ .ok then (gameStartCheck roomId request, w)
  else if rejected.isSome then
    stepOpsWhileOk w [.scenarioStart roomId request.scenario request.prepared 0 rejected now]
  else
    stepOpsWhileOk w
      [.selectProfile roomId request.profile request.scenario request.duration now,
        .start roomId request.duration nowMs,
        .scenarioStart roomId request.scenario request.prepared 0 none now]

end SceneHub
