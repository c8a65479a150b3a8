import Mathlib.Data.List.Nodup
import SceneHub.Lib.Calls
import SceneHub.Node.ControlSlots

/-!
# Ownership of the Request Slots

Whether a slot belongs to one request from the time it is taken until it is free,
over every interleaving of the submitting tasks and the control task.

A task that is woken takes its request for complete, and frees the slot without a
look at its state. So everything hangs on the notification being the one of this
request. A notification that is left over, or one that another module gives late,
wakes a task early: it frees a slot whose pointer is still in the queue, the next
task gets the slot, and the control task executes its request twice.

If each call begins with no notification there and none on its way, and no other
module gives one while it lasts, every slot is in one of few situations, which tie
its state to the queue, to the control task and to the task that holds it.

## Main definitions

* `Fits`: What may happen to calls, and in which order.
* `Quiet`: No notification is left over from another request.
* `SlotOk`: The situations of a slot.
* `Inv`: Every slot is in one of its situations.

## Theorems

* `SlotOk.frame`: A step elsewhere leaves a situation alone.
* `inv_step`: A quiet step keeps the invariant.
* `slots_sound`: The slots over every run of quiet steps.
-/

namespace SceneHub.Node

namespace ControlSlots

open Function (update update_self update_of_ne)

variable {err : EspErr} {h : Option Nat} {fits : Bool}

variable {s s' : ControlState} {i j : SlotId} {task call : Nat} {holder : SlotId → Option Nat}

/-! ### What is asked of the calls -/

/-- What may happen next. A request is executed once. A result is written into the
    memory of the call whose request was executed, before the call returns. A call
    succeeds only if its request was executed. -/
def Fits : ControlEvent → List ControlEvent → Prop
  | .executed call, past => .executed call ∉ past
  | .wrote target source, past => source = some target ∧ ∀ err, .returned target err ∉ past
  | .returned call err, past => err = .ok → .executed call ∈ past

/-- Calls are orderly, and no slot is free whose pointer is in the queue or which the
    control task is working on. -/
structure Sound (s : ControlState) : Prop where
  orderly : Lib.Orderly Fits s.log
  queue : ∀ i ∈ s.queue, (s.slots i).state ≠ .free
  worker : ∀ stage i, s.worker = .working stage i → (s.slots i).state ≠ .free

/-- No notification is there or on its way for a task. -/
def Hush (s : ControlState) (task : Nat) : Prop :=
  s.notified task = 0 ∧ s.worker ≠ .replying task

instance (s : ControlState) (task : Nat) : Decidable (Hush s task) :=
  inferInstanceAs (Decidable (_ ∧ _))

/-- A call begins without a notification there or on its way, and another module gives
    none to a task that is in a call. -/
def Quiet (s : ControlState) : ControlStep → Prop
  | .submit task _ => Hush s task
  | .notifyGive task => s.callers task = .idle
  | _ => True

instance (s : ControlState) : (act : ControlStep) → Decidable (Quiet s act)
  | .submit task _ => inferInstanceAs (Decidable (Hush s task))
  | .notifyGive task => inferInstanceAs (Decidable (s.callers task = .idle))
  | .proceed _ => inferInstanceAs (Decidable True)
  | .work _ _ => inferInstanceAs (Decidable True)
  | .notifyTake _ => inferInstanceAs (Decidable True)

/-! ### The situations of a slot -/

/-- The slot a task holds. -/
def slotOf : Caller → Option SlotId
  | .idle => none
  | .sending slot _ => some slot
  | .waiting slot _ => some slot
  | .expired slot _ => some slot
  | .noticed slot _ => some slot
  | .leaving slot _ _ => some slot
  | .draining _ _ => none

/-- The call a task is in. -/
def callOf : Caller → Option Nat
  | .idle => none
  | .sending _ call => some call
  | .waiting _ call => some call
  | .expired _ call => some call
  | .noticed _ call => some call
  | .leaving _ call _ => some call
  | .draining call _ => some call

/-- The pointer of a slot is neither in the queue nor with the control task. -/
def Outside (s : ControlState) (i : SlotId) : Prop :=
  i ∉ s.queue ∧ ∀ stage, s.worker ≠ .working stage i

/-- The pointer of a slot is in the queue, or has just been received. -/
def Inside (s : ControlState) (i : SlotId) : Prop :=
  i ∈ s.queue ∨ s.worker = .working .received i

def Executed (s : ControlState) (call : Nat) : Prop := .executed call ∈ s.log

/-- A task waits for the request in a slot, and the request knows it. -/
structure Expects (s : ControlState) (task : Nat) (i : SlotId) (call : Nat) : Prop where
  caller : s.callers task = .waiting i call ∨ s.callers task = .expired i call
  reply : (s.slots i).replyTask = some task
  hush : Hush s task

/-- The control task executes the request in a slot, or is about to, or has. -/
inductive InWork (s : ControlState) (i : SlotId) (call : Nat) : Prop where
  | processing (worker : s.worker = .working .processing i)
      (scratch : (s.slots i).kind = .command → s.scratch = some call) (fresh : ¬Executed s call)
  | executed (err : EspErr) (worker : s.worker = .working (.executed err) i)
      (scratch : (s.slots i).kind = .command → s.scratch = some call)
      (done : err = .ok → Executed s call)
  | stored (worker : s.worker = .working .stored i)
      (scratch : (s.slots i).kind = .command → s.scratch = some call)
      (done : (s.slots i).err = .ok → Executed s call)

/-- The situations of a slot, with the task that holds it. -/
inductive SlotOk (s : ControlState) (i : SlotId) : Option Nat → Prop where
  | free (state : (s.slots i).state = .free) (outside : Outside s i) : SlotOk s i none
  | cancelled (state : (s.slots i).state = .cancelled) (inside : Inside s i) : SlotOk s i none
  | abandoned (call : Nat) (state : (s.slots i).state = .abandoned)
      (payload : (s.slots i).payload = some call) (work : InWork s i call) : SlotOk s i none
  | sending (task call : Nat) (state : (s.slots i).state = .queued)
      (payload : (s.slots i).payload = some call) (outside : Outside s i)
      (caller : s.callers task = .sending i call) (reply : (s.slots i).replyTask = some task)
      (hush : Hush s task) (fresh : ¬Executed s call) : SlotOk s i (some task)
  | queued (task call : Nat) (state : (s.slots i).state = .queued)
      (payload : (s.slots i).payload = some call) (inside : Inside s i)
      (expects : Expects s task i call) (fresh : ¬Executed s call) : SlotOk s i (some task)
  | copying (task call : Nat) (state : (s.slots i).state = .copying)
      (payload : (s.slots i).payload = some call) (stage : Stage)
      (worker : s.worker = .working stage i)
      (early : stage = .copying ∨ (stage = .copied ∨ stage = .tooLarge) ∧ s.scratch = some call)
      (expects : Expects s task i call) (fresh : ¬Executed s call) : SlotOk s i (some task)
  | refused (task call : Nat) (state : (s.slots i).state = .copying)
      (payload : (s.slots i).payload = some call) (worker : s.worker = .working .refused i)
      (scratch : s.scratch = some call) (err : (s.slots i).err = .invalidSize)
      (expects : Expects s task i call) : SlotOk s i (some task)
  | processing (task call : Nat) (state : (s.slots i).state = .processing)
      (payload : (s.slots i).payload = some call) (work : InWork s i call)
      (expects : Expects s task i call) : SlotOk s i (some task)
  | completed (task call : Nat) (state : (s.slots i).state = .completed)
      (payload : (s.slots i).payload = some call) (outside : Outside s i)
      (caller : s.callers task = .waiting i call ∨ s.callers task = .expired i call ∨
        s.callers task = .noticed i call)
      (done : (s.slots i).err = .ok → Executed s call) : SlotOk s i (some task)
  | leaving (task call : Nat) (err : EspErr) (state : (s.slots i).state ≠ .free)
      (payload : (s.slots i).payload = some call) (outside : Outside s i)
      (caller : s.callers task = .leaving i call err) (done : err = .ok → Executed s call) :
      SlotOk s i (some task)

/-- The tasks and the slots they hold. -/
structure Owned (s : ControlState) (holder : SlotId → Option Nat) : Prop where
  holds : ∀ task i, slotOf (s.callers task) = some i ↔ holder i = some task
  once : s.queue.Nodup
  apart : ∀ stage i, s.worker = .working stage i → i ∉ s.queue
  slot : ∀ i, SlotOk s i (holder i)
  drains : ∀ task call, s.callers task = .draining call .ok → Executed s call

def eventCall : ControlEvent → Option Nat
  | .executed call => some call
  | .wrote target _ => some target
  | .returned call _ => some call

def Ends : ControlEvent → Prop
  | .returned _ _ => True
  | _ => False

/-- No call is in two slots or of two tasks, and none that a task is in has returned. -/
structure Numbered (s : ControlState) : Prop where
  calls : Lib.Numbered Fits eventCall Ends (callOf ∘ s.callers) s.nextCall s.log
  payload_lt : ∀ i call, (s.slots i).payload = some call → call < s.nextCall
  payload_inj : ∀ i j call, (s.slots i).payload = some call → (s.slots j).payload = some call →
    i = j

/-- The slots are held by somebody, and calls are kept apart. -/
structure Inv (s : ControlState) : Prop where
  owned : ∃ holder, Owned s holder
  numbered : Numbered s

/-! ### What a step leaves alone -/

/-- What a situation depends on stays as it is. -/
structure Undisturbed (s s' : ControlState) (i : SlotId) (holder : Option Nat) : Prop where
  slot : s'.slots i = s.slots i
  queue : i ∈ s'.queue ↔ i ∈ s.queue
  worker : ∀ stage, s'.worker = .working stage i ↔ s.worker = .working stage i
  caller : ∀ task, holder = some task → s'.callers task = s.callers task
  hush : ∀ task, holder = some task → Hush s task → Hush s' task
  scratch : ∀ stage, s.worker = .working stage i → s'.scratch = s.scratch
  log : ∀ call, (s.slots i).payload = some call → (Executed s' call ↔ Executed s call)

theorem Undisturbed.outside (hu : Undisturbed s s' i h) (ho : Outside s i) : Outside s' i :=
  ⟨fun hmem => ho.1 (hu.queue.1 hmem), fun stage hw => ho.2 stage ((hu.worker stage).1 hw)⟩

theorem Undisturbed.inside (hu : Undisturbed s s' i h) (hi : Inside s i) : Inside s' i := by
  rcases hi with hqueue | hworker
  · exact .inl (hu.queue.2 hqueue)
  · exact .inr ((hu.worker _).2 hworker)

theorem Undisturbed.expects (hu : Undisturbed s s' i (some task)) (he : Expects s task i call) :
    Expects s' task i call where
  caller := by rw [hu.caller task rfl]; exact he.caller
  reply := by rw [hu.slot]; exact he.reply
  hush := hu.hush task rfl he.hush

theorem InWork.keep (hw : InWork s i call) (hkind : (s'.slots i).kind = (s.slots i).kind)
    (herr : (s'.slots i).err = (s.slots i).err)
    (hworker : ∀ stage, s'.worker = .working stage i ↔ s.worker = .working stage i)
    (hscratch : ∀ stage, s.worker = .working stage i → s'.scratch = s.scratch)
    (hlog : Executed s' call ↔ Executed s call) : InWork s' i call := by
  cases hw with
  | processing worker scratch fresh =>
    refine .processing ((hworker _).2 worker) ?_ fun h => fresh (hlog.1 h)
    rw [hkind, hscratch _ worker]
    exact scratch
  | executed err worker scratch done =>
    refine .executed err ((hworker _).2 worker) ?_ fun h => hlog.2 (done h)
    rw [hkind, hscratch _ worker]
    exact scratch
  | stored worker scratch done =>
    refine .stored ((hworker _).2 worker) ?_ ?_
    · rw [hkind, hscratch _ worker]
      exact scratch
    · rw [herr]
      exact fun h => hlog.2 (done h)

theorem Undisturbed.inWork (hu : Undisturbed s s' i h)
    (hpayload : (s.slots i).payload = some call) (hw : InWork s i call) : InWork s' i call :=
  hw.keep (by rw [hu.slot]) (by rw [hu.slot]) hu.worker hu.scratch (hu.log call hpayload)

/-- A step that leaves alone what a situation depends on keeps the situation. -/
theorem SlotOk.frame (hok : SlotOk s i h) (hu : Undisturbed s s' i h) : SlotOk s' i h := by
  have hslot := hu.slot
  cases hok with
  | free state outside =>
    exact .free (by rw [hslot]; exact state) (hu.outside outside)
  | cancelled state inside =>
    exact .cancelled (by rw [hslot]; exact state) (hu.inside inside)
  | abandoned call state payload work =>
    exact .abandoned call (by rw [hslot]; exact state) (by rw [hslot]; exact payload)
      (hu.inWork payload work)
  | sending task call state payload outside caller reply hush fresh =>
    exact .sending task call (by rw [hslot]; exact state) (by rw [hslot]; exact payload)
      (hu.outside outside) (by rw [hu.caller task rfl]; exact caller)
      (by rw [hslot]; exact reply) (hu.hush task rfl hush)
      fun h => fresh ((hu.log call payload).1 h)
  | queued task call state payload inside expects fresh =>
    exact .queued task call (by rw [hslot]; exact state) (by rw [hslot]; exact payload)
      (hu.inside inside) (hu.expects expects) fun h => fresh ((hu.log call payload).1 h)
  | copying task call state payload stage worker early expects fresh =>
    exact .copying task call (by rw [hslot]; exact state) (by rw [hslot]; exact payload) stage
      ((hu.worker _).2 worker) (by rw [hu.scratch _ worker]; exact early)
      (hu.expects expects) fun h => fresh ((hu.log call payload).1 h)
  | refused task call state payload worker scratch err expects =>
    exact .refused task call (by rw [hslot]; exact state) (by rw [hslot]; exact payload)
      ((hu.worker _).2 worker) (by rw [hu.scratch _ worker]; exact scratch)
      (by rw [hslot]; exact err) (hu.expects expects)
  | processing task call state payload work expects =>
    exact .processing task call (by rw [hslot]; exact state) (by rw [hslot]; exact payload)
      (hu.inWork payload work) (hu.expects expects)
  | completed task call state payload outside caller done =>
    exact .completed task call (by rw [hslot]; exact state) (by rw [hslot]; exact payload)
      (hu.outside outside) (by rw [hu.caller task rfl]; exact caller)
      (by rw [hslot]; exact fun h => (hu.log call payload).2 (done h))
  | leaving task call err state payload outside caller done =>
    exact .leaving task call err (by rw [hslot]; exact state) (by rw [hslot]; exact payload)
      (hu.outside outside) (by rw [hu.caller task rfl]; exact caller)
      fun h => (hu.log call payload).2 (done h)

/-! ### Calls are kept apart -/

theorem Numbered.frame (h : Numbered s) (hnext : s'.nextCall = s.nextCall)
    (hpayload : ∀ i call, (s'.slots i).payload = some call → (s.slots i).payload = some call)
    (hcalls : Lib.Numbered Fits eventCall Ends (callOf ∘ s'.callers) s.nextCall s'.log) :
    Numbered s' where
  calls := by rw [hnext]; exact hcalls
  payload_lt i call hp := by rw [hnext]; exact h.payload_lt i call (hpayload i call hp)
  payload_inj i j call hi hj := h.payload_inj i j call (hpayload i call hi) (hpayload j call hj)

theorem Numbered.submit (h : Numbered s) {request : Request}
    (hpayload : request.payload = some s.nextCall) :
    Numbered (({ s with nextCall := s.nextCall + 1 }.setSlot i request).setCaller task
      (.sending i s.nextCall)) := by
  have hslots : ∀ j call, (update s.slots i request j).payload = some call →
      (j ≠ i ∧ (s.slots j).payload = some call) ∨ (j = i ∧ call = s.nextCall) := by
    intro j call hp
    by_cases hj : j = i
    · rw [hj, update_self, hpayload] at hp
      exact .inr ⟨hj, (Option.some.inj hp).symm⟩
    · rw [update_of_ne hj] at hp
      exact .inl ⟨hj, hp⟩
  refine ⟨?_, fun j call hp => ?_, fun j k call hj hk => ?_⟩
  · change Lib.Numbered Fits eventCall Ends
      (callOf ∘ update s.callers task (.sending i s.nextCall)) _ _
    rw [Function.comp_update]
    exact h.calls.begin task
  · rcases hslots j call hp with ⟨-, hold⟩ | ⟨-, rfl⟩
    · exact Nat.lt_succ_of_lt (h.payload_lt j call hold)
    · exact Nat.lt_succ_self _
  rcases hslots j call hj with ⟨-, hold⟩ | ⟨hji, rfl⟩
  · rcases hslots k call hk with ⟨-, hother⟩ | ⟨-, rfl⟩
    · exact h.payload_inj j k call hold hother
    · exact absurd (h.payload_lt j _ hold) (Nat.lt_irrefl _)
  · rcases hslots k _ hk with ⟨-, hother⟩ | ⟨hki, -⟩
    · exact absurd (h.payload_lt k _ hother) (Nat.lt_irrefl _)
    · exact hji.trans hki.symm

/-! ### A task that holds a slot -/

theorem Owned.holder_of (h : Owned s holder) (hslot : slotOf (s.callers task) = some i) :
    SlotOk s i (some task) := by
  rw [← (h.holds task i).1 hslot]
  exact h.slot i

theorem SlotOk.of_free (hok : SlotOk s i h) (hfree : (s.slots i).state = .free) :
    h = none ∧ Outside s i := by
  cases hok <;> grind

theorem SlotOk.of_sending (h : SlotOk s i (some task)) (hc : s.callers task = .sending i call) :
    (s.slots i).state = .queued ∧ (s.slots i).payload = some call ∧ Outside s i ∧
      (s.slots i).replyTask = some task ∧ Hush s task ∧ ¬Executed s call := by
  cases h with
  | sending task call state payload outside caller reply hush fresh =>
    cases caller.symm.trans hc
    exact ⟨state, payload, outside, reply, hush, fresh⟩
  | _ => grind [Expects]

/-- What a task that waits can find in its slot. A notification is there only if the
    request is complete. -/
theorem SlotOk.of_waiting (h : SlotOk s i (some task))
    (hc : s.callers task = .waiting i call ∨ s.callers task = .expired i call) :
    (s.slots i).payload = some call ∧ (s.notified task ≠ 0 → (s.slots i).state = .completed) ∧
      (((s.slots i).state = .queued ∧ Inside s i) ∨ (s.slots i).state = .copying ∨
        ((s.slots i).state = .processing ∧ InWork s i call) ∨
        ((s.slots i).state = .completed ∧ Outside s i ∧
          ((s.slots i).err = .ok → Executed s call))) := by
  cases h <;> grind [Expects, Hush]

theorem SlotOk.of_noticed (h : SlotOk s i (some task)) (hc : s.callers task = .noticed i call) :
    (s.slots i).state = .completed ∧ (s.slots i).payload = some call ∧ Outside s i ∧
      ((s.slots i).err = .ok → Executed s call) := by
  cases h <;> grind [Expects]

theorem SlotOk.of_leaving (h : SlotOk s i (some task)) (hc : s.callers task = .leaving i call err) :
    (s.slots i).payload = some call ∧ Outside s i ∧ (err = .ok → Executed s call) := by
  cases h <;> grind [Expects]

/-! ### Steps in general -/

theorem Owned.holder_inj (h : Owned s holder) (hi : holder i = some task)
    (hj : holder j = some task) : j = i := by
  have hslot := (h.holds task j).2 hj
  rw [(h.holds task i).2 hi] at hslot
  exact (Option.some.inj hslot).symm

/-- Slots that a step does not touch keep their situations, if the tasks that hold them
    neither move nor get a notification. -/
theorem Owned.others (h : Owned s holder) (i : SlotId)
    (hslots : ∀ j, j ≠ i → s'.slots j = s.slots j)
    (hqueue : ∀ j, j ≠ i → (j ∈ s'.queue ↔ j ∈ s.queue))
    (hworker : ∀ j stage, j ≠ i → (s'.worker = .working stage j ↔ s.worker = .working stage j))
    (hcallers : ∀ j task, j ≠ i → holder j = some task → s'.callers task = s.callers task)
    (hhush : ∀ j task, j ≠ i → holder j = some task → Hush s task → Hush s' task)
    (hscratch : ∀ j stage, j ≠ i → s.worker = .working stage j → s'.scratch = s.scratch)
    (hlog : ∀ j call, j ≠ i → (s.slots j).payload = some call →
      (Executed s' call ↔ Executed s call)) : ∀ j, j ≠ i → SlotOk s' j (holder j) :=
  fun j hj => (h.slot j).frame
    { slot := hslots j hj
      queue := hqueue j hj
      worker := fun stage => hworker j stage hj
      caller := fun task => hcallers j task hj
      hush := fun task => hhush j task hj
      scratch := fun stage => hscratch j stage hj
      log := fun call => hlog j call hj }

/-- A task moves on with its slot, or gives it up. -/
structure CallerStep (s s' : ControlState) (task call : Nat) (i : SlotId) (c : Caller) : Prop where
  slots : ∀ j, j ≠ i → s'.slots j = s.slots j
  payload : (s'.slots i).payload = none ∨ (s'.slots i).payload = (s.slots i).payload
  callers : s'.callers = update s.callers task c
  queue : s'.queue = s.queue ∨ s'.queue = s.queue ++ [i] ∧ Outside s i
  worker : s'.worker = s.worker
  scratch : s'.scratch = s.scratch
  notified : ∀ u, u ≠ task → s'.notified u = s.notified u
  next : s'.nextCall = s.nextCall
  log : (s'.log = s.log ∧ callOf c = some call) ∨
    ∃ err, s'.log = .returned call err :: s.log ∧ (err = .ok → Executed s call) ∧ callOf c = none

theorem CallerStep.executed {c : Caller} (h : CallerStep s s' task call i c) (other : Nat) :
    Executed s' other ↔ Executed s other := by
  unfold Executed
  rcases h.log with ⟨hlog, -⟩ | ⟨err, hlog, -, -⟩
  · rw [hlog]
  · rw [hlog, List.mem_cons]
    exact or_iff_right nofun

theorem CallerStep.payload_of {c : Caller} (h : CallerStep s s' task call i c) (j : SlotId)
    (other : Nat) (hp : (s'.slots j).payload = some other) : (s.slots j).payload = some other := by
  by_cases hj : j = i
  · rw [hj] at hp ⊢
    rcases h.payload with hnone | hsame
    · rw [hnone] at hp
      cases hp
    · rw [← hsame]
      exact hp
  · rw [← h.slots j hj]
    exact hp

theorem CallerStep.numbered {c : Caller} (h : CallerStep s s' task call i c) (hn : Numbered s)
    (hcall : callOf (s.callers task) = some call) : Numbered s' := by
  refine hn.frame h.next h.payload_of ?_
  rw [h.callers, Function.comp_update]
  rcases h.log with ⟨hlog, hc⟩ | ⟨err, hlog, hfits, hc⟩
  · rw [hlog, hc, ← hcall]
    exact (Function.update_eq_self task (callOf ∘ s.callers)).symm ▸ hn.calls
  · rw [hlog, hc]
    exact hn.calls.finish hcall hfits rfl

/-- A step of a task that holds a slot keeps the invariant if the slot is in one of the
    situations behind it. -/
theorem CallerStep.inv {c : Caller} (h : CallerStep s s' task call i c) (hinv : Inv s)
    (hslot : slotOf (s.callers task) = some i) (hcall : callOf (s.callers task) = some call)
    (hdrain : ∀ other, c = .draining other .ok → Executed s other)
    (hok : SlotOk s i (some task) → (slotOf c = some i ∧ SlotOk s' i (some task)) ∨
      (slotOf c = none ∧ SlotOk s' i none)) : Inv s' := by
  obtain ⟨⟨holder, ho⟩, hn⟩ := hinv
  have hi : holder i = some task := (ho.holds task i).1 hslot
  have hqueue : ∀ j, j ≠ i → (j ∈ s'.queue ↔ j ∈ s.queue) := by
    intro j hj
    rcases h.queue with hq | ⟨hq, -⟩
    · rw [hq]
    · rw [hq, List.mem_append, List.mem_singleton]
      exact or_iff_left hj
  have hne : ∀ j u, j ≠ i → holder j = some u → u ≠ task := by
    intro j u hj hu heq
    rw [heq] at hu
    exact hj (ho.holder_inj hi hu)
  have hothers := ho.others i h.slots hqueue (fun j stage _ => by rw [h.worker])
    (fun j u hj hu => by rw [h.callers, update_of_ne (hne j u hj hu)])
    (fun j u hj hu hhush =>
      ⟨by rw [h.notified u (hne j u hj hu)]; exact hhush.1, by rw [h.worker]; exact hhush.2⟩)
    (fun _ _ _ _ => h.scratch) (fun _ other _ _ => h.executed other)
  have honce : s'.queue.Nodup := by
    rcases h.queue with hq | ⟨hq, hout⟩
    · rw [hq]
      exact ho.once
    · rw [hq]
      exact List.Nodup.append ho.once (List.nodup_singleton i) (List.disjoint_singleton.2 hout.1)
  have hapart : ∀ stage j, s'.worker = .working stage j → j ∉ s'.queue := by
    intro stage j hw
    rw [h.worker] at hw
    rcases h.queue with hq | ⟨hq, hout⟩
    · rw [hq]
      exact ho.apart stage j hw
    · rw [hq, List.mem_append, List.mem_singleton, not_or]
      exact ⟨ho.apart stage j hw, fun heq => hout.2 stage (by rw [← heq]; exact hw)⟩
  have hdrains : ∀ u other, s'.callers u = .draining other .ok → Executed s' other := by
    intro u other hu
    rw [h.executed]
    rw [h.callers] at hu
    by_cases hsame : u = task
    · rw [hsame, update_self] at hu
      exact hdrain other hu
    · rw [update_of_ne hsame] at hu
      exact ho.drains u other hu
  have hself := ho.slot i
  rw [hi] at hself
  refine ⟨?_, h.numbered hn hcall⟩
  rcases hok hself with ⟨hkeeps, hbehind⟩ | ⟨hgives, hbehind⟩
  · refine ⟨holder, fun u j => ?_, honce, hapart, fun j => ?_, hdrains⟩
    · rw [← ho.holds u j, h.callers]
      by_cases hu : u = task
      · rw [hu, update_self, hkeeps, hslot]
      · rw [update_of_ne hu]
    by_cases hj : j = i
    · rw [hj, hi]
      exact hbehind
    · exact hothers j hj
  refine ⟨update holder i none, fun u j => ?_, honce, hapart, fun j => ?_, hdrains⟩
  · rw [h.callers]
    by_cases hu : u = task
    · rw [hu, update_self, hgives]
      by_cases hj : j = i
      · rw [hj, update_self]
        exact iff_of_false nofun nofun
      · rw [update_of_ne hj, ← ho.holds task j, hslot]
        exact iff_of_false nofun fun heq => hj (Option.some.inj heq).symm
    · rw [update_of_ne hu, ho.holds u j]
      by_cases hj : j = i
      · rw [hj, update_self, hi]
        exact iff_of_false (fun heq => hu (Option.some.inj heq).symm) nofun
      · rw [update_of_ne hj]
  · by_cases hj : j = i
    · rw [hj, update_self]
      exact hbehind
    · rw [update_of_ne hj]
      exact hothers j hj

/-! ### The steps of a call -/

theorem Inv.holds {caller : Caller} (h : Inv s) (hc : s.callers task = caller)
    (hslot : slotOf caller = some i) (hcall : callOf caller = some call) :
    slotOf (s.callers task) = some i ∧ callOf (s.callers task) = some call ∧
      SlotOk s i (some task) := by
  subst hc
  obtain ⟨holder, ho⟩ := h.owned
  exact ⟨hslot, hcall, ho.holder_of hslot⟩

theorem inv_sending (h : Inv s) (hc : s.callers task = .sending i call)
    (hs : s.proceed task = some s') : Inv s' := by
  rcases h.holds hc rfl rfl with ⟨hslot, hcall, hok⟩
  rcases hok.of_sending hc with ⟨hstate, hpayload, hout, hreply, hhush, hfresh⟩
  unfold ControlState.proceed at hs
  rw [hc] at hs
  dsimp only at hs
  split at hs
  · cases hs
    refine CallerStep.inv (s := s) (c := .waiting i call)
      ⟨fun _ _ => rfl, .inr rfl, rfl, .inr ⟨rfl, hout⟩, rfl, rfl, fun _ _ => rfl, rfl,
        .inl ⟨rfl, rfl⟩⟩ h hslot hcall nofun fun _ => .inl ⟨rfl, ?_⟩
    exact .queued task call hstate hpayload
      (.inl (List.mem_append_right _ (List.mem_singleton_self i)))
      ⟨.inl (update_self _ _ _), hreply, hhush⟩ hfresh
  · cases hs
    refine CallerStep.inv (s := s) (c := .leaving i call .timeout)
      ⟨fun _ _ => rfl, .inr rfl, rfl, .inl rfl, rfl, rfl, fun _ _ => rfl, rfl,
        .inl ⟨rfl, rfl⟩⟩ h hslot hcall nofun fun _ => .inl ⟨rfl, ?_⟩
    exact .leaving task call .timeout (ne_of_eq_of_ne hstate nofun) hpayload hout
      (update_self _ _ _) nofun

theorem SlotOk.expire (h : SlotOk s i (some task)) (hc : s.callers task = .waiting i call) :
    SlotOk (s.setCaller task (.expired i call)) i (some task) := by
  have hself : (s.setCaller task (.expired i call)).callers task = .expired i call :=
    update_self _ _ _
  have hwaits : ∀ other, Expects s task i other →
      Expects (s.setCaller task (.expired i call)) task i other := by
    intro other he
    have hsame : other = call := by
      rcases he.caller with hw | hw
      · rw [hc] at hw
        injection hw with _ hw
        exact hw.symm
      · rw [hc] at hw
        cases hw
    exact ⟨.inr (by rw [hsame]; exact hself), he.reply, he.hush⟩
  cases h with
  | sending task other state payload outside caller reply hush fresh =>
    rw [hc] at caller
    cases caller
  | queued task other state payload inside expects fresh =>
    exact .queued task other state payload inside (hwaits other expects) fresh
  | copying task other state payload stage worker early expects fresh =>
    exact .copying task other state payload stage worker early (hwaits other expects) fresh
  | refused task other state payload worker scratch err expects =>
    exact .refused task other state payload worker scratch err (hwaits other expects)
  | processing task other state payload work expects =>
    have hwork : InWork (s.setCaller task (.expired i call)) i other :=
      work.keep rfl rfl (fun _ => Iff.rfl) (fun _ _ => rfl) Iff.rfl
    exact .processing task other state payload hwork (hwaits other expects)
  | completed task other state payload outside caller done =>
    have hsame : other = call := by
      rw [hc] at caller
      rcases caller with hw | hw | hw <;> cases hw
      rfl
    rw [hsame] at payload done
    exact .completed task call state payload outside (.inr (.inl hself)) done
  | leaving task other err state payload outside caller done =>
    rw [hc] at caller
    cases caller

/-- A notification is there only for a request that is complete. -/
theorem inv_waiting (h : Inv s) (hc : s.callers task = .waiting i call)
    (hs : s.proceed task = some s') : Inv s' := by
  rcases h.holds hc rfl rfl with ⟨hslot, hcall, hok⟩
  unfold ControlState.proceed at hs
  rw [hc] at hs
  dsimp only at hs
  split at hs
  · rename_i hnone
    cases hs
    refine CallerStep.inv (s := s) (c := .expired i call)
      ⟨fun _ _ => rfl, .inr rfl, rfl, .inl rfl, rfl, rfl, fun _ _ => rfl, rfl,
        .inl ⟨rfl, rfl⟩⟩ h hslot hcall nofun fun hok => .inl ⟨rfl, ?_⟩
    exact hok.expire hc
  rename_i hsome
  cases hs
  rcases hok.of_waiting (.inl hc) with ⟨hpayload, hcomplete, hfound⟩
  have hstate := hcomplete hsome
  refine CallerStep.inv (s := s) (c := .noticed i call)
    ⟨fun _ _ => rfl, .inr rfl, rfl, .inl rfl, rfl, rfl, fun u hu => update_of_ne hu _ _,
      rfl, .inl ⟨rfl, rfl⟩⟩ h hslot hcall nofun fun _ => .inl ⟨rfl, ?_⟩
  rcases hfound with hq | hq | hq | ⟨-, hout, hdone⟩
  · rw [hstate] at hq
    cases hq.1
  · rw [hstate] at hq
    cases hq
  · rw [hstate] at hq
    cases hq.1
  · exact .completed task call hstate hpayload hout (.inr (.inr (update_self _ _ _)))
      hdone

/-- A slot that is cancelled or abandoned is left to the control task. -/
theorem inv_expired (h : Inv s) (hc : s.callers task = .expired i call)
    (hs : s.proceed task = some s') : Inv s' := by
  rcases h.holds hc rfl rfl with ⟨hslot, hcall, hok⟩
  rcases hok.of_waiting (.inr hc) with ⟨hpayload, -, hfound⟩
  unfold ControlState.proceed at hs
  rw [hc] at hs
  cases hs
  unfold ControlState.look
  dsimp only
  rcases hfound with ⟨hstate, hinside⟩ | hstate | ⟨hstate, hwork⟩ | ⟨hstate, hout, hdone⟩
  · rw [hstate]
    refine CallerStep.inv (c := .idle)
      ⟨fun j hj => update_of_ne hj _ _, .inr ?_, rfl, .inl rfl, rfl, rfl,
        fun _ _ => rfl, rfl, .inr ⟨.timeout, rfl, nofun, rfl⟩⟩ h hslot hcall nofun
        fun _ => .inr ⟨rfl, .cancelled ?_ hinside⟩
    · simp
    · simp
  · rw [hstate]
    exact h
  · rw [hstate]
    refine CallerStep.inv (c := .idle)
      ⟨fun j hj => update_of_ne hj _ _, .inr ?_, rfl, .inl rfl, rfl, rfl,
        fun _ _ => rfl, rfl, .inr ⟨.timeout, rfl, nofun, rfl⟩⟩ h hslot hcall nofun
        fun _ => .inr ⟨rfl, .abandoned call ?_ ?_ (hwork.keep ?_ ?_ (fun _ => Iff.rfl)
          (fun _ _ => rfl) ?_)⟩
    · simp
    · simp
    · simpa using hpayload
    · simp
    · simp
    · exact List.mem_cons.trans (or_iff_right nofun)
  · rw [hstate]
    refine CallerStep.inv (c := .draining call (s.slots i).err)
      ⟨fun j hj => update_of_ne hj _ _, .inl ?_, rfl, .inl rfl, rfl, rfl,
        fun _ _ => rfl, rfl, .inl ⟨rfl, rfl⟩⟩ h hslot hcall (fun other hd => ?_)
        fun _ => .inr ⟨rfl, .free ?_ hout⟩
    · simp
    · injection hd with hsame herr
      rw [← hsame]
      exact hdone herr
    · simp

theorem inv_noticed (h : Inv s) (hc : s.callers task = .noticed i call)
    (hs : s.proceed task = some s') : Inv s' := by
  rcases h.holds hc rfl rfl with ⟨hslot, hcall, hok⟩
  rcases hok.of_noticed hc with ⟨hstate, hpayload, hout, hdone⟩
  unfold ControlState.proceed at hs
  rw [hc] at hs
  cases hs
  refine CallerStep.inv (s := s) (c := .leaving i call (s.slots i).err)
    ⟨fun _ _ => rfl, .inr rfl, rfl, .inl rfl, rfl, rfl, fun _ _ => rfl, rfl,
      .inl ⟨rfl, rfl⟩⟩ h hslot hcall nofun fun _ => .inl ⟨rfl, ?_⟩
  exact .leaving task call _ (ne_of_eq_of_ne hstate nofun) hpayload hout
    (update_self _ _ _) hdone

theorem inv_leaving (h : Inv s) (hc : s.callers task = .leaving i call err)
    (hs : s.proceed task = some s') : Inv s' := by
  rcases h.holds hc rfl rfl with ⟨hslot, hcall, hok⟩
  rcases hok.of_leaving hc with ⟨hpayload, hout, hdone⟩
  unfold ControlState.proceed at hs
  rw [hc] at hs
  cases hs
  refine CallerStep.inv (c := .idle)
    ⟨fun j hj => update_of_ne hj _ _, .inl ?_, rfl, .inl rfl, rfl, rfl, fun _ _ => rfl,
      rfl, .inr ⟨err, rfl, hdone, rfl⟩⟩ h hslot hcall nofun fun _ => .inr ⟨rfl, .free ?_ hout⟩
  · simp
  · simp

theorem Owned.bystander (h : Owned s holder) (hslots : s'.slots = s.slots)
    (hqueue : s'.queue = s.queue) (hworker : s'.worker = s.worker)
    (hscratch : s'.scratch = s.scratch) (hnone : slotOf (s.callers task) = none)
    (hcallers : ∀ u, u ≠ task → s'.callers u = s.callers u) (hbehind : s'.callers task = .idle)
    (hnotified : ∀ u, u ≠ task → s'.notified u = s.notified u)
    (hlog : ∀ other, Executed s' other ↔ Executed s other) : Owned s' holder := by
  have hne : ∀ j u, holder j = some u → u ≠ task := by
    intro j u hu heq
    have hslot := (h.holds u j).2 hu
    rw [heq, hnone] at hslot
    cases hslot
  refine ⟨fun u j => ?_, by rw [hqueue]; exact h.once, by rw [hqueue, hworker]; exact h.apart,
    fun j => (h.slot j).frame ?_, fun u other hu => ?_⟩
  · rw [← h.holds u j]
    by_cases hu : u = task
    · rw [hu, hbehind, hnone]
      rfl
    · rw [hcallers u hu]
  · exact
      { slot := by rw [hslots]
        queue := by rw [hqueue]
        worker := fun stage => by rw [hworker]
        caller := fun u hu => hcallers u (hne j u hu)
        hush := fun u hu hhush =>
          ⟨by rw [hnotified u (hne j u hu)]; exact hhush.1, by rw [hworker]; exact hhush.2⟩
        scratch := fun _ _ => hscratch
        log := fun other _ => hlog other }
  · rw [hlog]
    by_cases hsame : u = task
    · rw [hsame, hbehind] at hu
      cases hu
    · rw [hcallers u hsame] at hu
      exact h.drains u other hu

theorem inv_draining (h : Inv s) (hc : s.callers task = .draining call err)
    (hs : s.proceed task = some s') : Inv s' := by
  have hcall : callOf (s.callers task) = some call := by rw [hc]; rfl
  obtain ⟨⟨holder, ho⟩, hn⟩ := h
  unfold ControlState.proceed at hs
  rw [hc] at hs
  cases hs
  have hfits : err = .ok → Executed s call := by
    intro herr
    rw [herr] at hc
    exact ho.drains task call hc
  -- The slot is free already, and no slot is touched.
  have hstep : CallerStep s { s.ret task call err with
      notified := update s.notified task 0 } task call ⟨0, by decide⟩ .idle :=
    ⟨fun _ _ => rfl, .inr rfl, rfl, .inl rfl, rfl, rfl, fun u hu => update_of_ne hu _ _,
      rfl, .inr ⟨err, rfl, hfits, rfl⟩⟩
  exact ⟨⟨holder, ho.bystander rfl rfl rfl rfl (by rw [hc]; rfl)
    (fun u hu => update_of_ne hu _ _) (update_self _ _ _) hstep.notified
    hstep.executed⟩, hstep.numbered hn hcall⟩

/-! ### The other steps outside the control task -/

/-- A task may begin a call only without a notification, so none is there while it has not
    sent its request. -/
theorem inv_submit {kind : RequestKind} (h : Inv s) (hquiet : Hush s task)
    (hs : s.submit task kind = some s') : Inv s' := by
  obtain ⟨⟨holder, ho⟩, hn⟩ := h
  unfold ControlState.submit at hs
  split at hs
  · rename_i hidle
    dsimp only at hs
    have hnone : slotOf (s.callers task) = none := by rw [hidle]; rfl
    split at hs
    · cases hs
      refine ⟨⟨holder, ho.bystander rfl rfl rfl rfl hnone (fun u hu => update_of_ne hu _ _)
        (update_self _ _ _) (fun _ _ => rfl)
        fun other => List.mem_cons.trans (or_iff_right nofun)⟩, ?_⟩
      have hcalls := (hn.calls.leave task).weaken (fun _ _ hc => hc) (Nat.le_succ s.nextCall)
      have hlt : ∀ call, some s.nextCall = some call → call < s.nextCall + 1 := by
        intro call heq
        cases heq
        exact Nat.lt_succ_self _
      refine ⟨?_, fun j call hp => Nat.lt_succ_of_lt (hn.payload_lt j call hp), hn.payload_inj⟩
      change Lib.Numbered Fits eventCall Ends (callOf ∘ update s.callers task .idle) _
        (.returned s.nextCall .noMem :: s.log)
      rw [Function.comp_update]
      refine hcalls.note (.returned s.nextCall .noMem) nofun hlt fun _ u call hc heq => ?_
      have hold := (hn.calls.leave task).call_lt u call hc
      cases heq
      exact Nat.lt_irrefl _ hold
    rename_i slot hacquire
    cases hs
    have hfree : (s.slots slot).state = .free := of_decide_eq_true
      (List.find?_some (p := fun slot => decide ((s.slots slot).state = .free)) hacquire)
    rcases (ho.slot slot).of_free hfree with ⟨hheld, hout⟩
    have hfresh : ¬Executed s s.nextCall :=
      fun hmem => Nat.lt_irrefl _ (hn.calls.log_lt _ hmem _ rfl)
    have hne : ∀ j u, holder j = some u → u ≠ task := by
      intro j u hu heq
      have hslot := (ho.holds u j).2 hu
      rw [heq, hnone] at hslot
      cases hslot
    refine ⟨⟨update holder slot (some task), fun u j => ?_, ho.once, ho.apart,
      fun j => ?_, fun u other hu => ?_⟩, hn.submit rfl⟩
    · change slotOf (update s.callers task (.sending slot s.nextCall) u) = some j ↔ _
      by_cases hu : u = task
      · rw [hu, update_self]
        by_cases hj : j = slot
        · rw [hj, update_self]
          exact iff_of_true rfl rfl
        rw [update_of_ne hj]
        exact iff_of_false (fun heq => hj (Option.some.inj heq).symm)
          fun hholder => hne j task hholder rfl
      · rw [update_of_ne hu, ho.holds u j]
        by_cases hj : j = slot
        · rw [hj, update_self, hheld]
          exact iff_of_false nofun fun heq => hu (Option.some.inj heq).symm
        · rw [update_of_ne hj]
    · by_cases hj : j = slot
      · rw [hj, update_self]
        exact .sending task s.nextCall (by simp) (by simp) hout (update_self _ _ _)
          (by simp) hquiet hfresh
      rw [update_of_ne hj]
      refine ho.others slot ?_ ?_ ?_ ?_ ?_ ?_ ?_ j hj
      · exact fun j hj => update_of_ne hj _ _
      · exact fun _ _ => Iff.rfl
      · exact fun _ _ _ => Iff.rfl
      · exact fun j u _ hu => update_of_ne (hne j u hu) _ _
      · exact fun _ _ _ _ hhush => hhush
      · exact fun _ _ _ _ => rfl
      · exact fun _ _ _ _ => Iff.rfl
    · refine ho.drains u other ?_
      by_cases hsame : u = task
      · rw [hsame] at hu
        change update s.callers task (.sending slot s.nextCall) task = _ at hu
        rw [update_self] at hu
        cases hu
      · exact (update_of_ne hsame _ _).symm.trans hu
  · cases hs

theorem inv_notifyGive (h : Inv s) (hidle : s.callers task = .idle) :
    Inv { s with notified := update s.notified task (s.notified task + 1) } := by
  obtain ⟨⟨holder, ho⟩, hn⟩ := h
  exact ⟨⟨holder, ho.bystander rfl rfl rfl rfl (by rw [hidle]; rfl) (fun _ _ => rfl) hidle
    (fun u hu => update_of_ne hu _ _) fun _ => Iff.rfl⟩,
    hn.frame rfl (fun _ _ hp => hp) hn.calls⟩

theorem inv_notifyTake (h : Inv s) (hidle : s.callers task = .idle) :
    Inv { s with notified := update s.notified task 0 } := by
  obtain ⟨⟨holder, ho⟩, hn⟩ := h
  exact ⟨⟨holder, ho.bystander rfl rfl rfl rfl (by rw [hidle]; rfl) (fun _ _ => rfl) hidle
    (fun u hu => update_of_ne hu _ _) fun _ => Iff.rfl⟩,
    hn.frame rfl (fun _ _ hp => hp) hn.calls⟩

/-! ### The steps of the control task -/

/-- The control task moves on with a slot, or is done with it. What happens is about the
    call in the slot. -/
structure WorkerStep (s s' : ControlState) (i : SlotId) : Prop where
  slots : ∀ j, j ≠ i → s'.slots j = s.slots j
  payload : (s'.slots i).payload = none ∨ (s'.slots i).payload = (s.slots i).payload
  callers : s'.callers = s.callers
  notified : s'.notified = s.notified
  queue : s.queue = s'.queue ∨ s.queue = i :: s'.queue
  before : s.worker = .receiving ∨ ∃ stage, s.worker = .working stage i
  behind : (∃ stage, s'.worker = .working stage i ∧ i ∉ s'.queue) ∨ s'.worker = .receiving ∨
    ∃ task, s'.worker = .replying task ∧ slotOf (s.callers task) = some i
  next : s'.nextCall = s.nextCall
  log : s'.log = s.log ∨ ∃ event, s'.log = event :: s.log ∧ Fits event s.log ∧
    (s.slots i).payload = eventCall event ∧ ¬Ends event

theorem WorkerStep.payload_of (h : WorkerStep s s' i) (j : SlotId) (other : Nat)
    (hp : (s'.slots j).payload = some other) : (s.slots j).payload = some other := by
  by_cases hj : j = i
  · rw [hj] at hp ⊢
    rcases h.payload with hnone | hsame
    · rw [hnone] at hp
      cases hp
    · rw [← hsame]
      exact hp
  · rw [← h.slots j hj]
    exact hp

theorem WorkerStep.not_before (h : WorkerStep s s' i) {stage : Stage} (hj : j ≠ i) :
    s.worker ≠ .working stage j := by
  intro hw
  rcases h.before with hb | ⟨other, hb⟩
  · rw [hw] at hb
    cases hb
  rw [hw] at hb
  injection hb with _ hb
  exact hj hb

theorem WorkerStep.of_behind (h : WorkerStep s s' i) {stage : Stage}
    (hw : s'.worker = .working stage j) : j = i ∧ i ∉ s'.queue := by
  rcases h.behind with ⟨other, hb, hnot⟩ | hb | ⟨task, hb, -⟩
  · rw [hw] at hb
    injection hb with _ hb
    exact ⟨hb, hnot⟩
  · rw [hw] at hb
    cases hb
  · rw [hw] at hb
    cases hb

theorem WorkerStep.of_reply (h : WorkerStep s s' i) (hw : s'.worker = .replying task) :
    slotOf (s.callers task) = some i := by
  rcases h.behind with ⟨other, hb, -⟩ | hb | ⟨holding, hb, hslot⟩
  · rw [hw] at hb
    cases hb
  · rw [hw] at hb
    cases hb
  rw [hw] at hb
  injection hb with hb
  rw [hb]
  exact hslot

/-- A step of the control task keeps the invariant if the slot it works on is in one of the
    situations behind it. -/
theorem WorkerStep.inv (h : WorkerStep s s' i) (ho : Owned s holder) (hn : Numbered s)
    (hok : SlotOk s' i (holder i)) : Inv s' := by
  have hexecuted : ∀ other, Executed s other → Executed s' other := by
    intro other hold
    unfold Executed
    rcases h.log with hlog | ⟨event, hlog, -⟩
    · rw [hlog]
      exact hold
    · rw [hlog]
      exact .tail _ hold
  have hothers := ho.others i h.slots
    (fun j hj => by
      rcases h.queue with hq | hq
      · rw [hq]
      · rw [hq, List.mem_cons]
        exact (or_iff_right hj).symm)
    (fun j stage hj => iff_of_false (fun hw => hj (h.of_behind hw).1) (h.not_before hj))
    (fun _ _ _ _ => by rw [h.callers])
    (fun j u hj hu hhush => ⟨by rw [h.notified]; exact hhush.1, fun hreply =>
      hj (ho.holder_inj ((ho.holds u i).1 (h.of_reply hreply)) hu)⟩)
    (fun j stage hj hw => absurd hw (h.not_before hj))
    (fun j other hj hp => by
      refine ⟨fun hnew => ?_, hexecuted other⟩
      unfold Executed at hnew
      rcases h.log with hlog | ⟨event, hlog, -, hcall, -⟩
      · rw [hlog] at hnew
        exact hnew
      rw [hlog] at hnew
      rcases List.mem_cons.1 hnew with heq | hold
      · rw [← heq] at hcall
        exact absurd (hn.payload_inj j i other hp hcall) hj
      · exact hold)
  refine ⟨⟨holder, fun u j => ?_, ?_, fun stage j hw => ?_, fun j => ?_, fun u other hu => ?_⟩, ?_⟩
  · rw [h.callers]
    exact ho.holds u j
  · rcases h.queue with hq | hq
    · rw [← hq]
      exact ho.once
    have honce := ho.once
    rw [hq] at honce
    exact (List.nodup_cons.1 honce).2
  · rcases h.of_behind hw with ⟨rfl, hnot⟩
    exact hnot
  · by_cases hj : j = i
    · rw [hj]
      exact hok
    · exact hothers j hj
  · rw [h.callers] at hu
    exact hexecuted other (ho.drains u other hu)
  · rcases h.log with hlog | ⟨event, hlog, hfits, hcall, hret⟩
    · refine hn.frame h.next h.payload_of ?_
      rw [h.callers, hlog]
      exact hn.calls
    refine hn.frame h.next h.payload_of ?_
    rw [h.callers, hlog]
    exact hn.calls.note event hfits (fun call heq => hn.payload_lt i call (hcall.trans heq))
      fun hends => absurd hends hret

theorem InWork.stage (h : InWork s i call) : s.worker = .working .processing i ∨
    (∃ err, s.worker = .working (.executed err) i) ∨ s.worker = .working .stored i := by
  cases h with
  | processing worker => exact .inl worker
  | executed err worker => exact .inr (.inl ⟨err, worker⟩)
  | stored worker => exact .inr (.inr worker)

theorem InWork.of_processing (h : InWork s i call) (hw : s.worker = .working .processing i) :
    ((s.slots i).kind = .command → s.scratch = some call) ∧ ¬Executed s call := by
  cases h <;> grind

theorem InWork.of_executed (h : InWork s i call) (hw : s.worker = .working (.executed err) i) :
    ((s.slots i).kind = .command → s.scratch = some call) ∧ (err = .ok → Executed s call) := by
  cases h <;> grind

theorem InWork.of_stored (h : InWork s i call) (hw : s.worker = .working .stored i) :
    ((s.slots i).kind = .command → s.scratch = some call) ∧
      ((s.slots i).err = .ok → Executed s call) := by
  cases h <;> grind

section

variable (hok : SlotOk s i h)
include hok

theorem SlotOk.of_received (hw : s.worker = .working .received i) :
    (h = none ∧ (s.slots i).state = .cancelled) ∨
      ∃ task call, h = some task ∧ (s.slots i).state = .queued ∧
        (s.slots i).payload = some call ∧ Expects s task i call ∧ ¬Executed s call := by
  cases hok <;> grind [Outside, → InWork.stage]

theorem SlotOk.of_first (hw : s.worker = .receiving) (hq : i ∈ s.queue) :
    (h = none ∧ (s.slots i).state = .cancelled) ∨
      ∃ task call, h = some task ∧ (s.slots i).state = .queued ∧
        (s.slots i).payload = some call ∧ Expects s task i call ∧ ¬Executed s call := by
  cases hok <;> grind [Outside, → InWork.stage]

theorem SlotOk.of_copying {stage : Stage} (hq : i ∉ s.queue)
    (hw : s.worker = .working stage i)
    (hstage : stage = .copying ∨ stage = .copied ∨ stage = .tooLarge) :
    ∃ task call, h = some task ∧ (s.slots i).payload = some call ∧ Expects s task i call ∧
      ¬Executed s call ∧ (s.slots i).state = .copying ∧
      (stage ≠ .copying → s.scratch = some call) := by
  cases hok <;> grind [Outside, Inside, → InWork.stage]

theorem SlotOk.of_refused (hq : i ∉ s.queue)
    (hw : s.worker = .working .refused i) :
    ∃ task call, h = some task ∧ (s.slots i).payload = some call ∧ Expects s task i call ∧
      (s.slots i).state = .copying ∧ s.scratch = some call ∧
      (s.slots i).err = .invalidSize := by
  cases hok <;> grind [Outside, Inside, → InWork.stage]

theorem SlotOk.of_working {stage : Stage} (hq : i ∉ s.queue)
    (hw : s.worker = .working stage i)
    (hstage : stage = .processing ∨ (∃ err, stage = .executed err) ∨ stage = .stored) :
    ∃ call, (s.slots i).payload = some call ∧ InWork s i call ∧
      (((s.slots i).state = .abandoned ∧ h = none) ∨
        ∃ task, h = some task ∧ (s.slots i).state = .processing ∧ Expects s task i call) := by
  cases hok <;> grind [Outside, Inside, → InWork.stage]

end

theorem Expects.keep {stage : Stage} (he : Expects s task i call)
    (hcallers : s'.callers = s.callers) (hnotified : s'.notified = s.notified)
    (hreply : (s'.slots i).replyTask = (s.slots i).replyTask)
    (hworker : s'.worker = .working stage i) : Expects s' task i call where
  caller := by rw [hcallers]; exact he.caller
  reply := by rw [hreply]; exact he.reply
  hush := ⟨by rw [hnotified]; exact he.hush.1, by rw [hworker]; nofun⟩

section

variable (ho : Owned s holder) (hn : Numbered s)
include ho hn

theorem inv_receive {queue : List SlotId}
    (hw : s.worker = .receiving) (hq : s.queue = i :: queue) :
    Inv { s with queue, worker := .working .received i } := by
  have honce := ho.once
  rw [hq] at honce
  refine WorkerStep.inv (s := s) (i := i)
    ⟨fun _ _ => rfl, .inr rfl, rfl, rfl, .inr hq, .inl hw,
      .inl ⟨_, rfl, (List.nodup_cons.1 honce).1⟩, rfl, .inl rfl⟩ ho hn ?_
  rcases (ho.slot i).of_first hw (by rw [hq]; exact .head _) with
    ⟨hheld, hstate⟩ | ⟨task, call, hheld, hstate, hpayload, he, hfresh⟩
  · rw [hheld]
    exact .cancelled hstate (.inr rfl)
  · rw [hheld]
    exact .queued task call hstate hpayload (.inr rfl) (he.keep rfl rfl rfl rfl) hfresh

theorem inv_received
    (hw : s.worker = .working .received i) (hs : s.work fits err = some s') : Inv s' := by
  have hq := ho.apart _ i hw
  unfold ControlState.work at hs
  rw [hw] at hs
  dsimp only at hs
  rcases (ho.slot i).of_received hw with
    ⟨hheld, hstate⟩ | ⟨task, call, hheld, hstate, hpayload, he, hfresh⟩
  · rw [hstate] at hs
    cases hs
    refine WorkerStep.inv
      ⟨fun j hj => update_of_ne hj _ _, .inl (by simp), rfl, rfl, .inl rfl, .inr ⟨_, hw⟩,
        .inr (.inl rfl), rfl, .inl rfl⟩ ho hn ?_
    rw [hheld]
    exact .free (by simp) ⟨hq, nofun⟩
  rw [hstate] at hs
  cases hkind : (s.slots i).kind with
  | command =>
    rw [hkind] at hs
    cases hs
    refine WorkerStep.inv
      ⟨fun j hj => update_of_ne hj _ _, .inr (by simp), rfl, rfl, .inl rfl,
        .inr ⟨_, hw⟩, .inl ⟨_, rfl, hq⟩, rfl, .inl rfl⟩ ho hn ?_
    rw [hheld]
    exact .copying task call (by simp) (by simpa using hpayload) .copying rfl (.inl rfl)
      (he.keep rfl rfl (by simp) rfl) hfresh
  | updateLedConfig =>
    rw [hkind] at hs
    cases hs
    refine WorkerStep.inv
      ⟨fun j hj => update_of_ne hj _ _, .inr (by simp), rfl, rfl, .inl rfl,
        .inr ⟨_, hw⟩, .inl ⟨_, rfl, hq⟩, rfl, .inl rfl⟩ ho hn ?_
    rw [hheld]
    exact .processing task call (by simp) (by simpa using hpayload)
      (.processing rfl (by simp) hfresh) (he.keep rfl rfl (by simp) rfl)

theorem inv_copying (hw : s.worker = .working .copying i)
    (hs : s.work fits err = some s') : Inv s' := by
  have hq := ho.apart _ i hw
  rcases (ho.slot i).of_copying hq hw (.inl rfl) with
    ⟨task, call, hheld, hpayload, he, hfresh, hstate, -⟩
  unfold ControlState.work at hs
  rw [hw] at hs
  cases hs
  refine WorkerStep.inv (s := s) (i := i)
    ⟨fun _ _ => rfl, .inr rfl, rfl, rfl, .inl rfl, .inr ⟨_, hw⟩, .inl ⟨_, rfl, hq⟩, rfl, .inl rfl⟩
    ho hn ?_
  rw [hheld]
  refine .copying task call hstate hpayload _ rfl (.inr ⟨?_, hpayload⟩) (he.keep rfl rfl rfl rfl)
    hfresh
  cases fits with
  | true => exact .inl rfl
  | false => exact .inr rfl

theorem inv_copied (hw : s.worker = .working .copied i)
    (hs : s.work fits err = some s') : Inv s' := by
  have hq := ho.apart _ i hw
  rcases (ho.slot i).of_copying hq hw (.inr (.inl rfl)) with
    ⟨task, call, hheld, hpayload, he, hfresh, hstate, hscratch⟩
  unfold ControlState.work at hs
  rw [hw] at hs
  cases hs
  refine WorkerStep.inv
    ⟨fun j hj => update_of_ne hj _ _, .inr (by simp), rfl, rfl, .inl rfl, .inr ⟨_, hw⟩,
      .inl ⟨_, rfl, hq⟩, rfl, .inl rfl⟩ ho hn ?_
  rw [hheld]
  exact .processing task call (by simp) (by simpa using hpayload)
    (.processing rfl (fun _ => hscratch nofun) hfresh) (he.keep rfl rfl (by simp) rfl)

theorem inv_tooLarge
    (hw : s.worker = .working .tooLarge i) (hs : s.work fits err = some s') : Inv s' := by
  have hq := ho.apart _ i hw
  rcases (ho.slot i).of_copying hq hw (.inr (.inr rfl)) with
    ⟨task, call, hheld, hpayload, he, hfresh, hstate, hscratch⟩
  unfold ControlState.work at hs
  rw [hw] at hs
  cases hs
  refine WorkerStep.inv
    ⟨fun j hj => update_of_ne hj _ _, .inr (by simp), rfl, rfl, .inl rfl, .inr ⟨_, hw⟩,
      .inl ⟨_, rfl, hq⟩, rfl, .inl rfl⟩ ho hn ?_
  rw [hheld]
  exact .refused task call (by simpa using hstate) (by simpa using hpayload) rfl (hscratch nofun)
    (by simp) (he.keep rfl rfl (by simp) rfl)

/-- A request is executed for the first time, whether its task still expects it or not. -/
theorem inv_processing
    (hw : s.worker = .working .processing i) (hs : s.work fits err = some s') : Inv s' := by
  have hq := ho.apart _ i hw
  rcases (ho.slot i).of_working hq hw (.inl rfl) with ⟨call, hpayload, hwork, hheld⟩
  rcases hwork.of_processing hw with ⟨hscratch, hfresh⟩
  unfold ControlState.work at hs
  rw [hw] at hs
  have hcall : s.executing i = some call := by
    unfold ControlState.executing
    split
    · rename_i hkind
      exact hscratch hkind
    · exact hpayload
  dsimp only at hs
  rw [hcall] at hs
  cases hs
  have hdone : InWork { s with
      log := .executed call :: s.log, worker := .working (.executed err) i } i call :=
    .executed err rfl hscratch fun _ => .head _
  refine WorkerStep.inv (s := s) (i := i)
    ⟨fun _ _ => rfl, .inr rfl, rfl, rfl, .inl rfl, .inr ⟨_, hw⟩, .inl ⟨_, rfl, hq⟩, rfl,
      .inr ⟨.executed call, rfl, hfresh, hpayload, nofun⟩⟩ ho hn ?_
  rcases hheld with ⟨hstate, hnone⟩ | ⟨task, hheld, hstate, he⟩
  · rw [hnone]
    exact .abandoned call hstate hpayload hdone
  · rw [hheld]
    exact .processing task call hstate hpayload hdone (he.keep rfl rfl rfl rfl)

theorem inv_executed {err result : EspErr}
    (hw : s.worker = .working (.executed result) i) (hs : s.work fits err = some s') : Inv s' := by
  have hq := ho.apart _ i hw
  rcases (ho.slot i).of_working hq hw (.inr (.inl ⟨result, rfl⟩)) with
    ⟨call, hpayload, hwork, hheld⟩
  rcases hwork.of_executed hw with ⟨hscratch, hdone⟩
  unfold ControlState.work at hs
  rw [hw] at hs
  cases hs
  have hstored : InWork { s.setSlot i { s.slots i with err := result } with
      worker := .working .stored i } i call :=
    .stored rfl (fun hkind => hscratch (by simpa using hkind))
      fun hok => hdone (by simpa using hok)
  refine WorkerStep.inv
    ⟨fun j hj => update_of_ne hj _ _, .inr (by simp), rfl, rfl, .inl rfl, .inr ⟨_, hw⟩,
      .inl ⟨_, rfl, hq⟩, rfl, .inl rfl⟩ ho hn ?_
  rcases hheld with ⟨hstate, hnone⟩ | ⟨task, hheld, hstate, he⟩
  · rw [hnone]
    exact .abandoned call (by simpa using hstate) (by simpa using hpayload) hstored
  rw [hheld]
  exact .processing task call (by simpa using hstate) (by simpa using hpayload) hstored
    (he.keep rfl rfl (by simp) rfl)

theorem inv_finish {stage : Stage} {target : Option Nat}
    (hw : s.worker = .working stage i) (hheld : holder i = some task)
    (hpayload : (s.slots i).payload = some call) (he : Expects s task i call)
    (hstate : (s.slots i).state ≠ .abandoned) (hdone : (s.slots i).err = .ok → Executed s call)
    (htarget : target = none ∨ target = some call ∧ s.scratch = some call) :
    Inv (s.finish i target) := by
  have hcall : callOf (s.callers task) = some call := by
    rcases he.caller with hc | hc <;> rw [hc] <;> rfl
  have hfits : ∀ err, .returned call err ∉ s.log :=
    fun err hmem => hn.calls.goes_on task call hcall _ hmem rfl trivial
  have hlog : (s.finish i target).log = s.log ∨ ∃ event, (s.finish i target).log = event :: s.log ∧
      Fits event s.log ∧ (s.slots i).payload = eventCall event ∧ ¬Ends event := by
    unfold ControlState.finish
    dsimp only
    split
    · rename_i habandoned
      exact absurd habandoned hstate
    rcases htarget with rfl | ⟨rfl, hscratch⟩
    · exact .inl rfl
    · rw [hscratch]
      exact .inr ⟨.wrote call (some call), rfl, ⟨rfl, hfits⟩, hpayload, nofun⟩
  have hexecuted : (s.slots i).err = .ok → Executed (s.finish i target) call := by
    intro herr
    unfold Executed
    rcases hlog with hsame | ⟨event, hsame, -⟩
    · rw [hsame]
      exact hdone herr
    · rw [hsame]
      exact .tail _ (hdone herr)
  have hbehind : s.finish i target = { s.setSlot i { s.slots i with state := .completed } with
      log := (s.finish i target).log, worker := .replying task } := by
    unfold ControlState.finish
    dsimp only
    split
    · rename_i habandoned
      exact absurd habandoned hstate
    · rw [he.reply]
  rw [hbehind]
  refine WorkerStep.inv
    ⟨fun j hj => update_of_ne hj _ _, .inr (by simp), rfl, rfl, .inl rfl, .inr ⟨_, hw⟩,
      .inr (.inr ⟨task, rfl, (ho.holds task i).2 hheld⟩), rfl, hlog⟩ ho hn ?_
  rw [hheld]
  refine .completed task call (by simp) (by simpa using hpayload) ⟨ho.apart _ i hw, nofun⟩ ?_ ?_
  · rcases he.caller with hc | hc
    · exact .inl hc
    · exact .inr (.inl hc)
  · exact fun herr => hexecuted (by simpa using herr)

theorem inv_stored (hw : s.worker = .working .stored i)
    (hs : s.work fits err = some s') : Inv s' := by
  have hq := ho.apart _ i hw
  rcases (ho.slot i).of_working hq hw (.inr (.inr rfl)) with ⟨call, hpayload, hwork, hheld⟩
  rcases hwork.of_stored hw with ⟨hscratch, hdone⟩
  unfold ControlState.work at hs
  rw [hw] at hs
  cases hs
  rcases hheld with ⟨hstate, hnone⟩ | ⟨task, hheld, hstate, he⟩
  · unfold ControlState.finish
    dsimp only
    rw [hstate]
    refine WorkerStep.inv
      ⟨fun j hj => update_of_ne hj _ _, .inl (by simp), rfl, rfl, .inl rfl, .inr ⟨_, hw⟩,
        .inr (.inl rfl), rfl, .inl rfl⟩ ho hn ?_
    rw [hnone]
    exact .free (by simp) ⟨hq, nofun⟩
  · refine inv_finish ho hn hw hheld hpayload he (ne_of_eq_of_ne hstate nofun) hdone ?_
    unfold ControlState.resultOut
    split
    · rename_i hkind
      exact .inr ⟨hpayload, hscratch hkind⟩
    · exact .inl rfl

theorem inv_refused (hw : s.worker = .working .refused i)
    (hs : s.work fits err = some s') : Inv s' := by
  have hq := ho.apart _ i hw
  rcases (ho.slot i).of_refused hq hw with
    ⟨task, call, hheld, hpayload, he, hstate, hscratch, herr⟩
  unfold ControlState.work at hs
  rw [hw] at hs
  cases hs
  exact inv_finish ho hn hw hheld hpayload he (ne_of_eq_of_ne hstate nofun)
    (fun hok => by rw [herr] at hok; cases hok) (.inr ⟨hpayload, hscratch⟩)

theorem inv_replying (hw : s.worker = .replying task) :
    Inv { s with
      notified := update s.notified task (s.notified task + 1), worker := .receiving } := by
  have hnot : ∀ u, Hush s u → u ≠ task := fun u hhush heq => hhush.2 (by rw [heq]; exact hw)
  refine ⟨⟨holder, ho.holds, ho.once, nofun, fun j => (ho.slot j).frame ?_, ho.drains⟩,
    hn.frame rfl (fun _ _ hp => hp) hn.calls⟩
  exact
    { slot := rfl
      queue := Iff.rfl
      worker := fun stage => iff_of_false nofun (by rw [hw]; nofun)
      caller := fun _ _ => rfl
      hush := fun u _ hhush =>
        ⟨(update_of_ne (hnot u hhush) _ _).trans hhush.1, nofun⟩
      scratch := fun _ _ => rfl
      log := fun _ _ => Iff.rfl }

end

/-! ### Runs -/

theorem inv_proceed (h : Inv s) (hs : s.proceed task = some s') : Inv s' := by
  cases hc : s.callers task with
  | idle =>
    unfold ControlState.proceed at hs
    rw [hc] at hs
    cases hs
  | sending i call => exact inv_sending h hc hs
  | waiting i call => exact inv_waiting h hc hs
  | expired i call => exact inv_expired h hc hs
  | noticed i call => exact inv_noticed h hc hs
  | leaving i call err => exact inv_leaving h hc hs
  | draining call err => exact inv_draining h hc hs

theorem inv_work (h : Inv s) (hs : s.work fits err = some s') : Inv s' := by
  obtain ⟨⟨holder, ho⟩, hn⟩ := h
  cases hw : s.worker with
  | receiving =>
    unfold ControlState.work at hs
    rw [hw] at hs
    cases hq : s.queue with
    | nil =>
      rw [hq] at hs
      cases hs
    | cons i queue =>
      rw [hq] at hs
      cases hs
      exact inv_receive ho hn hw hq
  | replying task =>
    unfold ControlState.work at hs
    rw [hw] at hs
    cases hs
    exact inv_replying ho hn hw
  | working stage i => cases stage with
    | received => exact inv_received ho hn hw hs
    | copying => exact inv_copying ho hn hw hs
    | copied => exact inv_copied ho hn hw hs
    | tooLarge => exact inv_tooLarge ho hn hw hs
    | refused => exact inv_refused ho hn hw hs
    | processing => exact inv_processing ho hn hw hs
    | executed result => exact inv_executed ho hn hw hs
    | stored => exact inv_stored ho hn hw hs

theorem inv_step (s : ControlState) (act : ControlStep) (s' : ControlState) (h : Inv s)
    (hquiet : Quiet s act) (hs : controlStep s act = some s') : Inv s' := by
  cases act with
  | submit task kind => exact inv_submit h hquiet hs
  | proceed task => exact inv_proceed h hs
  | work fits err => exact inv_work h hs
  | notifyGive task =>
    cases hs
    exact inv_notifyGive h hquiet
  | notifyTake task =>
    unfold controlStep at hs
    dsimp only at hs
    split at hs
    · rename_i hidle
      cases hs
      exact inv_notifyTake h hidle
    · cases hs

/-- When the node starts, all slots are free. Notifications may be left over from before. -/
def atStart (notified : Nat → Nat) : ControlState := { notified }

theorem inv_start (notified : Nat → Nat) : Inv (atStart notified) where
  owned := ⟨fun _ => none, fun _ _ => iff_of_false nofun nofun, List.nodup_nil, nofun,
    fun _ => .free rfl ⟨List.not_mem_nil, nofun⟩, nofun⟩
  numbered := ⟨⟨trivial, nofun, nofun, nofun, nofun⟩, nofun, nofun⟩

/-- Every slot that is queued or in work is taken. -/
theorem Inv.sound (h : Inv s) : Sound s := by
  obtain ⟨⟨holder, ho⟩, hn⟩ := h
  refine ⟨hn.calls.orderly, fun i hi hfree => ?_, fun stage i hw hfree => ?_⟩
  · exact ((ho.slot i).of_free hfree).2.1 hi
  · exact ((ho.slot i).of_free hfree).2.2 stage hw

/-- In every run in which no notification is left over from another request, the calls are
    orderly, and a slot is free only when nobody works on it. -/
theorem slots_sound (notified : Nat → Nat) (acts : List ControlStep)
    (hquiet : Lib.EachStep controlStep Quiet (atStart notified) acts)
    (hrun : Lib.run controlStep (atStart notified) acts = some s') : Sound s' :=
  (Lib.invariant_of_run inv_step (inv_start notified) hquiet hrun).sound

/-- A command from the call to its end. -/
def oneCommand : List ControlStep :=
  [.submit 0 .command, .proceed 0, .work true .ok, .work true .ok, .work true .ok, .work true .ok,
    .work true .ok, .work true .ok, .work true .ok, .work true .ok, .proceed 0, .proceed 0,
    .proceed 0]

theorem slots_sound_command :
    ∃ s', Lib.run controlStep (atStart fun _ => 0) oneCommand = some s' ∧ Sound s' :=
  ⟨_, rfl, slots_sound _ oneCommand (by decide) rfl⟩

/-- A task with a notification left over submits a command and is gone before it is
    executed. The next task gets the slot, and its pointer is in the queue twice. -/
def overtaken : List ControlStep :=
  [.submit 0 .command, .proceed 0, .proceed 0, .proceed 0, .proceed 0, .submit 1 .command,
    .proceed 1, .work true .ok, .work true .ok, .work true .ok, .work true .ok, .work true .ok,
    .work true .ok, .work true .ok, .work true .ok, .work true .ok, .work true .ok, .work true .ok,
    .work true .ok, .work true .ok]

/-- With one notification left over, the command of the second call is executed twice. -/
theorem executed_twice :
    (Lib.run controlStep (atStart fun task => if task = 0 then 1 else 0) overtaken).map
      ControlState.log =
        some [.executed 1, .wrote 1 (some 1), .executed 1, .returned 0 .invalidState] ∧
    ¬∀ notified acts s', Lib.run controlStep (atStart notified) acts = some s' → Sound s' := by
  have hlog : (Lib.run controlStep (atStart fun task => if task = 0 then 1 else 0) overtaken).map
      ControlState.log =
        some [.executed 1, .wrote 1 (some 1), .executed 1, .returned 0 .invalidState] := by
    decide
  refine ⟨hlog, fun h => ?_⟩
  rcases Option.map_eq_some_iff.1 hlog with ⟨s', hrun, hlast⟩
  have horderly := (h _ _ s' hrun).orderly
  rw [hlast] at horderly
  exact horderly.1 (by decide)

end ControlSlots

end SceneHub.Node
