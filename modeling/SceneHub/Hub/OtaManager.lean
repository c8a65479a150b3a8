import SceneHub.EspErr
import SceneHub.Lib.Runs

/-!
# Firmware Uploads

How a firmware image is taken in: `ota_manager.c`, with `begin_upload`, `write_chunk`,
`finish_upload`, `abort_upload` and `request_reboot`.

Each of them looks at the state under the mutex, gives the mutex back for the call of
the backend, and takes it again for the result. A step is what one task does under the
mutex, or one call of the backend, whose result comes from outside.

What the backend was told is kept beside the state: which handles it gave out and took
back, what was written with each, and what the slots hold. No step of the code looks at
that.

## Main definitions

* `OtaState`: The fields of `s_ota` that an upload goes by.
* `OtaTask`: Where a task stands.
* `Flash`, `OtaBackend`: What the backend was told.
* `OtaManager.call`, `OtaManager.go`: A task begins a call, and goes on with it.
* `otaStep`: A step of some task.
-/

namespace SceneHub.Hub

/-- `esp_err_t`, with the codes of `esp_ota_ops.h`. -/
inductive OtaErr where
  | esp (err : EspErr)
  | rollbackInvalidState
  | validateFailed
  deriving DecidableEq, Repr

def OtaErr.ok : OtaErr := .esp .ok

structure Partition where
  label : String
  size : UInt32
  deriving DecidableEq, Repr

/-- The fields of `s_ota`, but for those of the confirmation after a boot. -/
structure OtaState where
  initialized : Bool := false
  inProgress : Bool := false
  rebootRequired : Bool := false
  rebootTaskStarted : Bool := false
  lastSuccess : Bool := false
  bytesWritten : UInt32 := 0
  totalBytes : UInt32 := 0
  handle : Nat := 0
  targetPartition : Option Partition := none
  lastError : String := ""
  deriving DecidableEq, Repr

inductive OtaCall where
  | begin (imageSize : UInt32)
  | write (data : Bool) (len : UInt32)
  | finish
  | abort
  | reboot
  deriving DecidableEq, Repr

/-- Where a task stands. The names say what it does next. -/
inductive OtaTask where
  | returned (err : OtaErr)
  | askSlot (imageSize : UInt32)
  | checkBegin (target : Option Partition) (imageSize : UInt32)
  | backendBegin (target : Partition) (imageSize : UInt32)
  | failBegin (err : OtaErr)
  | commitBegin (target : Partition) (imageSize : UInt32) (handle : Nat)
  | checkWrite (len : UInt32)
  | backendWrite (handle : Nat) (len : UInt32)
  | countWrite (len : UInt32) (err : OtaErr)
  | takeFinish
  | backendEnd (handle : Nat) (target : Partition)
  | setBoot (handle : Nat) (target : Partition)
  | failFinish (message : String) (err : OtaErr)
  | commitFinish (handle : Nat) (target : Partition)
  | takeAbort
  | backendAbort (handle : Nat)
  | checkReboot
  | startReboot
  | failReboot
  deriving DecidableEq, Repr

/-- What a slot holds: the upload for which it was erased, how many bytes were written
    to it since, and whether some came with another handle. -/
structure Flash where
  upload : Option Nat := none
  bytes : Nat := 0
  mixed : Bool := false
  deriving DecidableEq, Repr

/-- What the backend was told. The handles it gave out are kept with their slots, newest
    first. -/
structure OtaBackend where
  opened : List (Nat × Partition) := []
  imageSize : Nat → UInt32 := fun _ => 0
  closed : List Nat := []
  ended : List Nat := []
  lateWrites : List Nat := []
  accepted : Nat → Nat := fun _ => 0
  flash : String → Flash := fun _ => {}
  boot : Option Partition := none

/-- What the backend answers. -/
structure OtaReply where
  err : OtaErr := .ok
  slot : Option Partition := none
  handle : Nat := 0
  deriving DecidableEq, Repr

/-- The state, the backend, the tasks, and the uploads for which `finish_upload` returned
    `ESP_OK`, newest first. -/
structure OtaManager where
  ota : OtaState := {}
  backend : OtaBackend := {}
  tasks : Nat → OtaTask := fun _ => .returned .ok
  finished : List (Nat × Partition) := []

/-! ### The backend -/

namespace OtaBackend

/-- A handle is given out, and its slot erased. -/
def begin (b : OtaBackend) (handle : Nat) (slot : Partition) (imageSize : UInt32) : OtaBackend :=
  { b with
    opened := (handle, slot) :: b.opened
    imageSize := Function.update b.imageSize handle imageSize
    flash := Function.update b.flash slot.label { upload := some handle } }

/-- The slot a handle was given out for. -/
def slot (b : OtaBackend) (handle : Nat) : Option Partition :=
  (b.opened.find? fun entry => entry.1 = handle).map Prod.snd

/-- Bytes come to a slot. -/
def store (handle len : Nat) (f : Flash) : Flash :=
  { f with bytes := f.bytes + len, mixed := f.mixed || f.upload ≠ some handle }

def write (b : OtaBackend) (handle : Nat) (len : UInt32) (err : OtaErr) : OtaBackend :=
  let b := { b with
    lateWrites := if handle ∈ b.closed then handle :: b.lateWrites else b.lateWrites }
  if err = .ok then
    { b with
      accepted := Function.update b.accepted handle (b.accepted handle + len.toNat)
      flash := match b.slot handle with
        | none => b.flash
        | some slot =>
          Function.update b.flash slot.label (store handle len.toNat (b.flash slot.label)) }
  else b

def endHandle (b : OtaBackend) (handle : Nat) (err : OtaErr) : OtaBackend :=
  { b with
    closed := handle :: b.closed
    ended := if err = .ok then handle :: b.ended else b.ended }

def abort (b : OtaBackend) (handle : Nat) : OtaBackend :=
  { b with closed := handle :: b.closed }

def setBoot (b : OtaBackend) (target : Partition) (err : OtaErr) : OtaBackend :=
  if err = .ok then { b with boot := some target } else b

end OtaBackend

/-! ### Under the mutex -/

namespace OtaState

/-- An error is noted. -/
def failed (s : OtaState) (message : String) : OtaState :=
  { s with lastSuccess := false, lastError := message }

def resetUpload (s : OtaState) : OtaState :=
  { s with
    inProgress := false
    rebootRequired := false
    bytesWritten := 0
    totalBytes := 0
    handle := 0
    targetPartition := none }

/-- The upload begins. -/
def started (s : OtaState) (target : Partition) (imageSize : UInt32) (handle : Nat) : OtaState :=
  { s with
    handle := handle
    targetPartition := some target
    inProgress := true
    rebootRequired := false
    bytesWritten := 0
    totalBytes := imageSize
    lastSuccess := false
    lastError := "" }

/-- The upload is installed. -/
def installed (s : OtaState) : OtaState :=
  { s with
    inProgress := false
    rebootRequired := true
    lastSuccess := true
    handle := 0
    targetPartition := none }

end OtaState

namespace OtaManager

def setTask (s : OtaManager) (task : Nat) (state : OtaTask) : OtaManager :=
  { s with tasks := Function.update s.tasks task state }

/-- The lock sections of `ota_manager_begin_upload` in front of the backend's begin. -/
def checkBegin (s : OtaManager) (task : Nat) (target : Option Partition) (imageSize : UInt32) :
    OtaManager :=
  match target with
  | none =>
    { s with ota := s.ota.failed "no OTA slot available" }.setTask task (.returned (.esp .notFound))
  | some target =>
    if imageSize = 0 ∨ target.size < imageSize then
      { s with ota := s.ota.failed "image too large" }.setTask task (.returned (.esp .invalidSize))
    else if s.ota.inProgress then s.setTask task (.returned (.esp .invalidState))
    else s.setTask task (.backendBegin target imageSize)

/-- The first lock section of `ota_manager_finish_upload`. -/
def takeFinish (s : OtaManager) (task : Nat) : OtaManager :=
  if s.ota.inProgress then
    match s.ota.targetPartition with
    | some target => s.setTask task (.backendEnd s.ota.handle target)
    | none => s.setTask task (.returned (.esp .invalidState))
  else s.setTask task (.returned (.esp .invalidState))

/-- The lock section of `ota_manager_abort_upload`. -/
def takeAbort (s : OtaManager) (task : Nat) : OtaManager :=
  if s.ota.inProgress then
    { s with ota := (s.ota.failed "ota aborted").resetUpload }.setTask task
      (.backendAbort s.ota.handle)
  else s.setTask task (.returned .ok)

/-- A task begins a call, with what is checked before the first lock section. -/
def call (s : OtaManager) (task : Nat) (request : OtaCall) : Option OtaManager :=
  match s.tasks task with
  | .returned _ =>
    let unready := s.setTask task (.returned (.esp .invalidState))
    some (match request with
      | .begin imageSize =>
        if s.ota.initialized then s.setTask task (.askSlot imageSize) else unready
      | .write data len =>
        if s.ota.initialized then
          if !data ∨ len = 0 then s.setTask task (.returned (.esp .invalidArg))
          else s.setTask task (.checkWrite len)
        else unready
      | .finish => if s.ota.initialized then s.setTask task .takeFinish else unready
      | .abort => s.setTask task .takeAbort
      | .reboot => if s.ota.initialized then s.setTask task .checkReboot else unready)
  | _ => none

/-- A task goes on. -/
def go (s : OtaManager) (task : Nat) (reply : OtaReply) : Option OtaManager :=
  match s.tasks task with
  | .returned _ => none
  | .askSlot imageSize => some (s.setTask task (.checkBegin reply.slot imageSize))
  | .checkBegin target imageSize => some (s.checkBegin task target imageSize)
  | .backendBegin target imageSize =>
    if reply.err = .ok then
      some ({ s with backend := s.backend.begin reply.handle target imageSize }.setTask task
        (.commitBegin target imageSize reply.handle))
    else some (s.setTask task (.failBegin reply.err))
  | .failBegin err =>
    some ({ s with
      ota := s.ota.failed (if err = OtaErr.rollbackInvalidState then "current image not confirmed"
        else "ota begin failed") }.setTask task (.returned err))
  | .commitBegin target imageSize handle =>
    some ({ s with ota := s.ota.started target imageSize handle }.setTask task (.returned .ok))
  | .checkWrite len =>
    some (s.setTask task (if s.ota.inProgress then .backendWrite s.ota.handle len
      else .returned (.esp .invalidState)))
  | .backendWrite handle len =>
    some ({ s with backend := s.backend.write handle len reply.err }.setTask task
      (.countWrite len reply.err))
  | .countWrite len err =>
    some ({ s with
      ota := if err = OtaErr.ok then { s.ota with bytesWritten := s.ota.bytesWritten + len }
        else s.ota.failed "ota write failed" }.setTask task (.returned err))
  | .takeFinish => some (s.takeFinish task)
  | .backendEnd handle target =>
    some ({ s with backend := s.backend.endHandle handle reply.err }.setTask task
      (if reply.err = OtaErr.ok then .setBoot handle target
      else .failFinish (if reply.err = OtaErr.validateFailed then "invalid image" else "ota end failed")
        reply.err))
  | .setBoot handle target =>
    some ({ s with backend := s.backend.setBoot target reply.err }.setTask task
      (if reply.err = OtaErr.ok then .commitFinish handle target
      else .failFinish "set boot partition failed" reply.err))
  | .failFinish message err =>
    some ({ s with ota := (s.ota.failed message).resetUpload }.setTask task (.returned err))
  | .commitFinish handle target =>
    some ({ s with
      ota := s.ota.installed, finished := (handle, target) :: s.finished }.setTask task
        (.returned .ok))
  | .takeAbort => some (s.takeAbort task)
  | .backendAbort handle =>
    some ({ s with backend := s.backend.abort handle }.setTask task (.returned .ok))
  | .checkReboot =>
    if s.ota.rebootRequired ∧ !s.ota.inProgress ∧ !s.ota.rebootTaskStarted then
      some ({ s with ota := { s.ota with rebootTaskStarted := true } }.setTask task .startReboot)
    else some (s.setTask task (.returned (.esp .invalidState)))
  | .startReboot =>
    some (s.setTask task (if reply.err = .ok then .returned .ok else .failReboot))
  | .failReboot =>
    some ({ s with
      ota := { s.ota.failed "reboot task create failed" with
        rebootTaskStarted := false } }.setTask task (.returned (.esp .noMem)))

/-- Behind `ota_manager_init`. -/
def atStart : OtaManager := { ota := { initialized := true, lastSuccess := true } }

end OtaManager

inductive OtaStep where
  | call (task : Nat) (request : OtaCall)
  | go (task : Nat) (reply : OtaReply)
  deriving DecidableEq, Repr

def otaStep (s : OtaManager) : OtaStep → Option OtaManager
  | .call task request => s.call task request
  | .go task reply => s.go task reply

end SceneHub.Hub
