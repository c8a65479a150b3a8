import SceneHub.Lib.Runs

/-!
# The Audio Runtime

The task of `audio_player_runtime.c` that takes the commands of the audio player, and the
reader tasks it creates.

A handler is a list of statements. `stop_reader_slot` and `start_reader_slot` take several
steps each, and a step is one section under the runtime lock, or one call that works on
the flags, on the notification of the task or on the task list. Between two steps of the
runtime task any reader can take a step. The fades only take time and are left out.

A reader clears its stop bit, writes its slot, decodes its file and writes its slot again.
It can end at any point of the file, and at once where the file cannot be opened. The
pause flag holds it back only where it looks at it.

Beside the state it is kept for which readers a stop was requested, and whether the last
command left the runtime in the error state. No step of the code looks at that.

## Main definitions

* `RuntimeSlot`, `AudioChannel`: The slots and what is recorded for each.
* `AudioOp`, `AudioCommand.handler`: The statements of the handlers.
* `AudioTask`, `ReaderTask`: Where the runtime task and a reader stand.
* `AudioRuntime.go`, `AudioRuntime.read`: One step of the runtime task, and one of a reader.
* `audioStep`: A step of any of them.
-/

namespace SceneHub.Hub

open Function (update)

inductive RuntimeSlot where
  | bgA
  | bgB
  | effect
  deriving DecidableEq, Repr

inductive RuntimeState where
  | idle
  | starting
  | playing
  | paused
  | stopping
  | error
  deriving DecidableEq, Repr

/-- `audio_channel_runtime_t`. Only the runtime task ever waits for a reader. -/
structure AudioChannel where
  task : Option Nat := none
  waiter : Bool := false
  done : Bool := true
  deriving DecidableEq, Repr

/-- The commands, in the words of `audio_cmd_type_t`. -/
inductive AudioCommand where
  | none
  | play
  | playEffect
  | playBackground
  | seek
  | stop
  | stopBackground
  | stopEffect
  | pause
  | resume
  deriving DecidableEq, Repr

/-- The statements of the handlers. -/
inductive AudioOp where
  | clearPaused
  | setPaused
  | setState (state : RuntimeState)
  | checkStorage
  | checkBackground
  | stopSlot (slot : RuntimeSlot) (orReturn : Bool)
  | startSlot (slot : RuntimeSlot)
  | waitPrimed (oldSlot nextSlot : RuntimeSlot)
  | switchTo (slot : RuntimeSlot)
  | checkPause
  | checkResume
  deriving DecidableEq, Repr

/-- `handle_play` on the effect channel. Where the slot cannot be stopped, it returns. -/
def handlePlayEffect : List AudioOp :=
  [.checkStorage, .stopSlot .effect true, .startSlot .effect]

/-- `audio_runtime_task`, with the handler of each command. -/
def AudioCommand.handler : AudioCommand → List AudioOp
  | .none => []
  | .play | .playEffect | .seek => handlePlayEffect
  | .playBackground => [.checkStorage, .checkBackground]
  | .stop =>
    [.clearPaused, .stopSlot .bgA false, .stopSlot .bgB false, .stopSlot .effect false,
      .setState .idle]
  | .stopBackground => [.stopSlot .bgA false, .stopSlot .bgB false, .setState .idle]
  | .stopEffect => [.stopSlot .effect false, .setState .idle]
  | .pause => [.checkPause]
  | .resume => [.checkResume]

/-- Where the runtime task stands: between commands, in front of the statements that are left
    of a handler, or inside `stop_reader_slot` or `start_reader_slot`. -/
inductive AudioTask where
  | waiting
  | next (rest : List AudioOp)
  | markStopping (slot : RuntimeSlot) (orReturn : Bool) (rest : List AudioOp)
  | checkReader (slot : RuntimeSlot) (orReturn : Bool) (rest : List AudioOp)
  | dropNotice (slot : RuntimeSlot) (orReturn : Bool) (rest : List AudioOp)
  | awaitReader (slot : RuntimeSlot) (orReturn : Bool) (rest : List AudioOp)
  | forgetWaiter (slot : RuntimeSlot) (orReturn : Bool) (rest : List AudioOp)
  | clearBits (slot : RuntimeSlot) (rest : List AudioOp)
  | markStarting (slot : RuntimeSlot) (rest : List AudioOp)
  | createTask (slot : RuntimeSlot) (rest : List AudioOp)
  | destroyCtx (slot : RuntimeSlot)
  | record (slot : RuntimeSlot) (reader : Nat) (rest : List AudioOp)
  | fail (rest : List AudioOp)
  deriving DecidableEq, Repr

/-- Where a reader stands. The names of the first three say what it does next. -/
inductive ReaderTask where
  | clearsStop (slot : RuntimeSlot)
  | starts (slot : RuntimeSlot)
  | finishes (slot : RuntimeSlot)
  | notifies (waiter : Bool)
  | gone
  deriving DecidableEq, Repr

/-- The state of the runtime, its tasks, and what is kept beside it. -/
structure AudioRuntime where
  channels : RuntimeSlot → AudioChannel := fun _ => {}
  ctxInUse : RuntimeSlot → Bool := fun _ => false
  stopBit : RuntimeSlot → Bool := fun _ => false
  paused : Bool := false
  activeBackground : RuntimeSlot := .bgA
  state : RuntimeState := .idle
  notice : Bool := false
  task : AudioTask := .waiting
  readers : Nat → ReaderTask := fun _ => .gone
  created : Nat := 0
  asked : Nat → Bool := fun _ => false
  failed : Bool := false

/-- The slot of a reader that has not given its record back. -/
def ReaderTask.slot : ReaderTask → Option RuntimeSlot
  | .clearsStop slot | .starts slot | .finishes slot => some slot
  | .notifies _ | .gone => none

namespace AudioRuntime

def setTask (s : AudioRuntime) (task : AudioTask) : AudioRuntime := { s with task := task }

def setReader (s : AudioRuntime) (reader : Nat) (task : ReaderTask) : AudioRuntime :=
  { s with readers := update s.readers reader task }

def setChannel (s : AudioRuntime) (slot : RuntimeSlot) (channel : AudioChannel) : AudioRuntime :=
  { s with channels := update s.channels slot channel }

/-- `audio_flags_set` with the stop bit of a slot. -/
def requestStop (s : AudioRuntime) (slot : RuntimeSlot) : AudioRuntime :=
  { s with
    stopBit := update s.stopBit slot true
    asked := fun reader => s.asked reader || (s.readers reader).slot = some slot }

/-- A slot has a reader that is not done. -/
def slotBusy (s : AudioRuntime) (slot : RuntimeSlot) : Bool :=
  (s.channels slot).task.isSome && !(s.channels slot).done

def alternateBackground (s : AudioRuntime) : RuntimeSlot :=
  if s.activeBackground = .bgA then .bgB else .bgA

/-- `audio_player_reader_stop_requested`, for a reader of a slot. -/
def stopSeen (s : AudioRuntime) (slot : RuntimeSlot) : Bool := s.stopBit slot

/-- The background part of `handle_play`, once it is known whether a stream is active. -/
def routeBackground (s : AudioRuntime) (mixerActive : Bool) : List AudioOp :=
  if s.slotBusy .bgA || s.slotBusy .bgB || mixerActive then
    [.startSlot s.alternateBackground,
      .waitPrimed s.activeBackground s.alternateBackground]
  else [.stopSlot s.activeBackground false, .startSlot s.activeBackground]

/-- The lock section of `stop_reader_slot`. -/
def checkReader (s : AudioRuntime) (slot : RuntimeSlot) (orReturn : Bool) (rest : List AudioOp) :
    AudioRuntime :=
  match (s.channels slot).task with
  | none =>
    (s.setChannel slot { s.channels slot with done := true, waiter := false }).setTask (.next rest)
  | some _ =>
    if (s.channels slot).done then s.setTask (.next rest)
    else
      (s.setChannel slot { s.channels slot with waiter := true }).setTask
        (.dropNotice slot orReturn rest)

/-- A statement of a handler. What comes from outside is whether the card is there, a stream
    is active, or one is primed. -/
def exec (s : AudioRuntime) (reply : Bool) (rest : List AudioOp) : AudioOp → AudioRuntime
  | .clearPaused => { s with paused := false }.setTask (.next rest)
  | .setPaused => { s with paused := true }.setTask (.next rest)
  | .setState state => { s with state := state }.setTask (.next rest)
  | .checkStorage => s.setTask (if reply then .next rest else .fail [])
  | .checkBackground => s.setTask (.next (s.routeBackground reply ++ rest))
  | .stopSlot slot orReturn => (s.requestStop slot).setTask (.markStopping slot orReturn rest)
  | .startSlot slot =>
    if s.ctxInUse slot then s.setTask (.fail [])
    else { s with ctxInUse := update s.ctxInUse slot true }.setTask (.clearBits slot rest)
  | .waitPrimed oldSlot nextSlot =>
    s.setTask (.next ((if reply then
        [.stopSlot oldSlot false, .switchTo nextSlot, .setState .playing]
      else [.stopSlot nextSlot false, .setState .playing]) ++ rest))
  | .switchTo slot => { s with activeBackground := slot }.setTask (.next rest)
  | .checkPause =>
    s.setTask (.next ((if s.state = .playing ∨ s.state = .starting then
      [.setPaused, .setState .paused] else []) ++ rest))
  | .checkResume =>
    s.setTask (.next ((if s.state = .paused then [.clearPaused, .setState .playing] else []) ++
      rest))

/-- The task of a reader is created, and the runtime task will record it. -/
def createReader (s : AudioRuntime) (slot : RuntimeSlot) (rest : List AudioOp) : AudioRuntime :=
  ({ s with created := s.created + 1 }.setReader s.created (.clearsStop slot)).setTask
    (.record slot s.created rest)

/-- A step of the runtime task. -/
def go (s : AudioRuntime) (reply : Bool) : Option AudioRuntime :=
  match s.task with
  | .waiting => none
  -- The handler has returned, and whoever waits for the command is notified.
  | .next [] => some ({ s with failed := s.state = RuntimeState.error }.setTask .waiting)
  | .next (op :: rest) => some (s.exec reply rest op)
  | .markStopping slot orReturn rest =>
    some ({ s with state := .stopping }.setTask (.checkReader slot orReturn rest))
  | .checkReader slot orReturn rest => some (s.checkReader slot orReturn rest)
  | .dropNotice slot orReturn rest =>
    some ({ s with notice := false }.setTask (.awaitReader slot orReturn rest))
  -- The task goes on with a notification, or when its time is over without one.
  | .awaitReader slot orReturn rest =>
    if s.notice then some ({ s with notice := false }.setTask (.next rest))
    else some (s.setTask (.forgetWaiter slot orReturn rest))
  | .forgetWaiter slot orReturn rest =>
    some ((s.setChannel slot { s.channels slot with waiter := false }).setTask
      (.fail (if orReturn then [] else rest)))
  | .clearBits slot rest =>
    some ({ s with paused := false, stopBit := update s.stopBit slot false }.setTask
      (.markStarting slot rest))
  | .markStarting slot rest =>
    some ({ s with state := .starting }.setTask (.createTask slot rest))
  | .createTask slot rest =>
    if reply then some (s.createReader slot rest)
    else some (s.setTask (.destroyCtx slot))
  | .destroyCtx slot =>
    some ({ s with ctxInUse := update s.ctxInUse slot false }.setTask (.fail []))
  | .record slot reader rest =>
    some ((s.setChannel slot { task := some reader, waiter := false, done := false }).setTask
      (.next rest))
  | .fail rest => some ({ s with state := .error }.setTask (.next rest))

/-- The lock section of `audio_player_runtime_reader_started`. -/
def readerStarted (s : AudioRuntime) (reader : Nat) (slot : RuntimeSlot) : AudioRuntime :=
  { s.setChannel slot { s.channels slot with done := false, waiter := false } with
    state := if s.state = RuntimeState.starting then .playing else s.state }.setReader reader
      (.finishes slot)

/-- No slot has a task. -/
def noTask (s : AudioRuntime) : Bool :=
  (s.channels .bgA).task.isNone && (s.channels .bgB).task.isNone &&
    (s.channels .effect).task.isNone

/-- The lock section of `audio_player_runtime_reader_finished`. -/
def readerFinished (s : AudioRuntime) (reader : Nat) (slot : RuntimeSlot) : AudioRuntime :=
  let ended := s.setChannel slot { task := none, waiter := false, done := true }
  { ended with
    ctxInUse := update s.ctxInUse slot false
    state := if ended.noTask then .idle else s.state }.setReader reader
      (.notifies (s.channels slot).waiter)

/-- A step of a reader. -/
def read (s : AudioRuntime) (reader : Nat) : Option AudioRuntime :=
  match s.readers reader with
  | .clearsStop slot =>
    some ({ s with stopBit := update s.stopBit slot false }.setReader reader
      (.starts slot))
  | .starts slot => some (s.readerStarted reader slot)
  | .finishes slot => some (s.readerFinished reader slot)
  | .notifies waiter =>
    some ({ s with notice := s.notice || waiter }.setReader reader .gone)
  | .gone => none

/-- A command comes from the queue. -/
def receive (s : AudioRuntime) (command : AudioCommand) : Option AudioRuntime :=
  match s.task with
  | .waiting => some (s.setTask (.next command.handler))
  | _ => none

/-- Behind `audio_player_runtime_init`. -/
def atStart : AudioRuntime := {}

end AudioRuntime

inductive AudioStep where
  | receive (command : AudioCommand)
  | go (reply : Bool)
  | read (reader : Nat)
  deriving DecidableEq, Repr

def audioStep (s : AudioRuntime) : AudioStep → Option AudioRuntime
  | .receive command => s.receive command
  | .go reply => s.go reply
  | .read reader => s.read reader

end SceneHub.Hub
