import Mathlib.Data.List.Pairwise
import SceneHub.Hub.EventBus
import SceneHub.Lib.Calls

/-!
# The Order of Events

In which order the handlers get the events, and what becomes of the slots of the pool, over
every interleaving of the tasks that post and the task of the bus.

A slot has one holder at a time: the task that fills it, the queue, or the task of the bus.
So an event that was posted stays in the line until the handlers have run, and nothing else
is written into its slot.

An event with high priority is put in front of the queue, and so in front of those with high
priority that were posted before. Nothing is out of order as long as no such event waits, and
a control event is not overtaken by one of a later message on the way from the lock to the
queue.

## Main definitions

* `MustPrecede`: An event is to be dispatched before another one.
* `Delivered`: What is promised of the bus.
* `Careful`: The steps in which no event gets in front of one that must precede it.
* `SlotInv`, `OrderInv`: What holds of the slots, and of the line.

## Theorems

* `slotInv_step`, `orderInv_step`: A step keeps the invariants.
* `drain`: The task of the bus empties the queue.
* `events_delivered`: The events over every run of careful steps.
-/

namespace SceneHub.Hub

open Function (update update_self update_of_ne)

/-! ### What is asked of the bus -/

/-- A control event is of an earlier message of the same device. -/
def Earlier : Option Control → Option Control → Prop
  | some a, some b => a.event.deviceId = b.event.deviceId ∧ a.message < b.message
  | _, _ => False

instance : (a b : Option Control) → Decidable (Earlier a b)
  | some _, some _ => inferInstanceAs (Decidable (_ ∧ _))
  | some _, none => inferInstanceAs (Decidable False)
  | none, some _ => inferInstanceAs (Decidable False)
  | none, none => inferInstanceAs (Decidable False)

/-- An event is to be dispatched before another one: it has the same priority and was posted
    before the other post began, or it is of an earlier message of the same device. -/
def MustPrecede (a b : Post) : Prop :=
  (a.priority = b.priority ∧ a.number ∈ b.before) ∨ Earlier a.control b.control

instance (a b : Post) : Decidable (MustPrecede a b) :=
  inferInstanceAs (Decidable (_ ∨ _))

namespace Poster

/-- The slot a task has, with the event it is for. -/
def holding : Poster → Option (PoolSlot × Post)
  | .filling i post => some (i, post)
  | .sending i post => some (i, post)
  | .refused i post => some (i, post)
  | _ => none

/-- An event that a task has not put into the queue yet. -/
def unsent : Poster → Option Post
  | .calling post => some post
  | .filling _ post => some post
  | .sending _ post => some post
  | _ => none

/-- A control event that a task has not put into the queue yet. -/
def control : Poster → Option Control
  | .ingested control => some control
  | poster => poster.unsent.bind Post.control

/-- The event that a task puts into the queue next. -/
def next : Poster → Option Post
  | .sending _ post => some post
  | _ => none

end Poster

/-- Who has a slot. -/
inductive Holder (n : Nat) where
  | nobody
  | task (t : Fin n)
  | queue
  | worker

/-- The slot the task of the bus has. -/
def Dispatcher.slot : Dispatcher → Option PoolSlot
  | .receiving => none
  | .dispatching i => some i
  | .freeing i => some i

namespace Bus

variable {n : Nat} {s s' : Bus n} {t u : Fin n} {i j : PoolSlot} {poster : Poster} {p q : Post}

/-- An event that was dispatched. -/
def dispatchedPost : BusEntry → Option Post
  | .dispatched post => some post
  | _ => none

/-- The events that were dispatched, newest first. -/
def dispatched (s : Bus n) : List Post := s.log.filterMap dispatchedPost

/-- The events in the queue. -/
def waiting (s : Bus n) : List Post := s.queue.filterMap s.pool

/-- The event that the handlers are at. -/
def front (s : Bus n) : Option Post :=
  match s.worker with
  | .dispatching i => s.pool i
  | _ => none

/-- The events that are still to be dispatched. -/
def line (s : Bus n) : List Post := s.front.toList ++ s.waiting

/-- An event was dispatched, or its post has failed. -/
def Done (log : List BusEntry) (post : Post) : Prop :=
  .dispatched post ∈ log ∨ ∃ err, err ≠ .ok ∧ .returned post err ∈ log

/-- A slot is given to an event when those that had it before are done. -/
def Fits : BusEntry → List BusEntry → Prop
  | .given i _, past => ∀ post, .given i post ∈ past → Done past post
  | _, _ => True

/-- Events are dispatched in order and at most once, those whose post succeeded are dispatched
    or in the line, which the task of the bus empties, and a slot is not given away before its
    event was dispatched. -/
structure Delivered (s : Bus n) : Prop where
  order : s.dispatched.Pairwise fun later earlier => ¬MustPrecede later earlier
  once : s.dispatched.Nodup
  kept : ∀ post, .returned post .ok ∈ s.log → post ∈ s.dispatched ∨ post ∈ s.line
  apart : ∀ post ∈ s.line, post ∉ s.dispatched
  drains : ∃ k s', Lib.run busStep s (List.replicate k .work) = some s' ∧ s'.line = []
  slots : Lib.Orderly Fits s.log

/-- An event with high priority goes in front of none that must precede it, and a control event
    goes into the queue after those of earlier messages of its device. -/
def Careful (s : Bus n) : BusStep n → Prop
  | .go t _ => ∀ post ∈ (s.tasks t).next,
      (post.priority = .high → ∀ other ∈ s.waiting, ¬MustPrecede other post) ∧
        ∀ u, ¬Earlier (s.tasks u).control post.control
  | _ => True

instance (s : Bus n) : (act : BusStep n) → Decidable (Careful s act)
  | .go t _ => inferInstanceAs (Decidable (∀ post ∈ (s.tasks t).next, _ ∧ _))
  | .ingest _ _ => inferInstanceAs (Decidable True)
  | .post _ _ => inferInstanceAs (Decidable True)
  | .work => inferInstanceAs (Decidable True)

/-! ### The holders of the slots -/

/-- A slot is in use if somebody has it, and only its holder has it. -/
structure SlotOk (s : Bus n) (i : PoolSlot) (holder : Holder n) : Prop where
  inUse : s.inUse i = true ↔ holder ≠ .nobody
  task : ∀ t, (s.tasks t).holding.map Prod.fst = some i ↔ holder = .task t
  queue : i ∈ s.queue ↔ holder = .queue
  worker : s.worker.slot = some i ↔ holder = .worker

/-- An event has a slot. -/
def Held (s : Bus n) (i : PoolSlot) (post : Post) : Prop :=
  (∃ t, (s.tasks t).holding = some (i, post)) ∨
    ((i ∈ s.queue ∨ s.worker = .dispatching i) ∧ s.pool i = some post)

/-- What holds of the slots. -/
structure SlotInv (s : Bus n) : Prop where
  holder : ∃ holder : PoolSlot → Holder n, ∀ i, SlotOk s i (holder i)
  nodup : s.queue.Nodup
  content : ∀ i, i ∈ s.queue ∨ s.worker = .dispatching i → (s.pool i).isSome = true
  filled : ∀ t i post, s.tasks t = .sending i post → s.pool i = some post
  given : ∀ i post, .given i post ∈ s.log → Done s.log post ∨ Held s i post
  slots : Lib.Orderly Fits s.log

theorem Done.cons {log : List BusEntry} (h : Done log p) (entry : BusEntry) :
    Done (entry :: log) p := by
  rcases h with h | ⟨err, herr, h⟩
  · exact .inl (.tail _ h)
  · exact .inr ⟨err, herr, .tail _ h⟩

theorem SlotOk.of_eq {holder : Holder n} (h : SlotOk s i holder) (hinUse : s'.inUse i = s.inUse i)
    (htask : ∀ t, (s'.tasks t).holding.map Prod.fst = some i ↔
      (s.tasks t).holding.map Prod.fst = some i) (hqueue : i ∈ s'.queue ↔ i ∈ s.queue)
    (hworker : s'.worker.slot = some i ↔ s.worker.slot = some i) : SlotOk s' i holder where
  inUse := by
    rw [hinUse]
    exact h.inUse
  task t := (htask t).trans (h.task t)
  queue := hqueue.trans h.queue
  worker := hworker.trans h.worker

theorem SlotInv.of_task (h : SlotInv s) (hheld : (s.tasks t).holding = some (i, p)) :
    SlotOk s i (.task t) := by
  rcases h.holder with ⟨holder, hholder⟩
  rw [← (hholder i).task t |>.1 (by rw [hheld]; rfl)]
  exact hholder i

theorem SlotInv.of_queue (h : SlotInv s) (hi : i ∈ s.queue) : SlotOk s i .queue := by
  rcases h.holder with ⟨holder, hholder⟩
  rw [← (hholder i).queue.1 hi]
  exact hholder i

theorem SlotInv.of_worker (h : SlotInv s) (hi : s.worker.slot = some i) : SlotOk s i .worker := by
  rcases h.holder with ⟨holder, hholder⟩
  rw [← (hholder i).worker.1 hi]
  exact hholder i

theorem SlotInv.of_free (h : SlotInv s) (hi : s.inUse i = false) : SlotOk s i .nobody := by
  rcases h.holder with ⟨holder, hholder⟩
  cases hnobody : holder i with
  | nobody =>
    rw [← hnobody]
    exact hholder i
  | task t | queue | worker =>
    have hin := (hholder i).inUse.2 (by rw [hnobody]; simp)
    rw [hi] at hin
    cases hin

theorem holding_update {a b : Holder n}
    (h : ∀ u, (s.tasks u).holding.map Prod.fst = some i ↔ a = .task u)
    (hself : poster.holding.map Prod.fst = some i ↔ b = .task t)
    (hother : ∀ u, u ≠ t → (a = .task u ↔ b = .task u)) :
    ∀ u, (update s.tasks t poster u).holding.map Prod.fst = some i ↔ b = .task u := by
  intro u
  by_cases hu : u = t
  · rw [hu, update_self]
    exact hself
  · rw [update_of_ne hu]
    exact (h u).trans (hother u hu)

/-- A step touches one slot at most. -/
structure Touches (s s' : Bus n) (i : PoolSlot) : Prop where
  inUse : ∀ j, j ≠ i → s'.inUse j = s.inUse j
  pool : ∀ j, j ≠ i → s'.pool j = s.pool j
  queue : ∀ j, j ≠ i → (j ∈ s'.queue ↔ j ∈ s.queue)
  worker : ∀ j, j ≠ i → (s'.worker.slot = some j ↔ s.worker.slot = some j)
  dispatching : ∀ j, j ≠ i → (s'.worker = .dispatching j ↔ s.worker = .dispatching j)
  tasks : ∀ u, s'.tasks u = s.tasks u ∨
    ((∀ j post, (s.tasks u).holding = some (j, post) → j = i) ∧
      ∀ j post, (s'.tasks u).holding = some (j, post) → j = i)

theorem Touches.holding (h : Touches s s' i) (hj : j ≠ i) (u : Fin n) (post : Post) :
    (s'.tasks u).holding = some (j, post) ↔ (s.tasks u).holding = some (j, post) := by
  rcases h.tasks u with heq | ⟨hold, hnew⟩
  · rw [heq]
  · exact ⟨fun heq => absurd (hnew j post heq) hj, fun heq => absurd (hold j post heq) hj⟩

theorem Touches.held (h : Touches s s' i) (hj : j ≠ i) (hheld : Held s j p) : Held s' j p := by
  rcases hheld with ⟨u, hu⟩ | ⟨hplace, hpool⟩
  · exact .inl ⟨u, (h.holding hj u p).2 hu⟩
  refine .inr ⟨hplace.imp (h.queue j hj).2 (h.dispatching j hj).2, ?_⟩
  rw [h.pool j hj]
  exact hpool

theorem Touches.slotOk (h : Touches s s' i) (hj : j ≠ i) {holder : Holder n}
    (hok : SlotOk s j holder) : SlotOk s' j holder where
  inUse := by
    rw [h.inUse j hj]
    exact hok.inUse
  task u := by
    rw [← hok.task u]
    simp only [Option.map_eq_some_iff, Prod.exists, exists_and_right, exists_eq_right]
    exact exists_congr fun post => h.holding hj u post
  queue := (h.queue j hj).trans hok.queue
  worker := (h.worker j hj).trans hok.worker

/-- A step that touches one slot keeps what holds of the slots if it keeps that of this one. -/
theorem SlotInv.of_touches (h : SlotInv s) (i : PoolSlot) (holder : Holder n) (ht : Touches s s' i)
    (hslot : SlotOk s' i holder) (hnodup : s'.queue.Nodup)
    (hcontent : i ∈ s'.queue ∨ s'.worker = .dispatching i → (s'.pool i).isSome = true)
    (hfilled : ∀ u post, s'.tasks u = .sending i post → s'.pool i = some post)
    (hgiven : ∀ post, .given i post ∈ s'.log → Done s'.log post ∨ Held s' i post)
    (hlog : ∀ j, j ≠ i → ∀ post, .given j post ∈ s'.log → .given j post ∈ s.log)
    (hdone : ∀ post, Done s.log post → Done s'.log post)
    (hslots : Lib.Orderly Fits s'.log) : SlotInv s' where
  holder := by
    rcases h.holder with ⟨old, hold⟩
    refine ⟨update old i holder, fun j => ?_⟩
    by_cases hj : j = i
    · rw [hj, update_self]
      exact hslot
    · rw [update_of_ne hj]
      exact ht.slotOk hj (hold j)
  nodup := hnodup
  content j hplace := by
    by_cases hj : j = i
    · rw [hj] at hplace ⊢
      exact hcontent hplace
    · rw [ht.pool j hj]
      exact h.content j (hplace.imp (ht.queue j hj).1 (ht.dispatching j hj).1)
  filled u j post htask := by
    by_cases hj : j = i
    · rw [hj] at htask ⊢
      exact hfilled u post htask
    rw [ht.pool j hj]
    rcases ht.tasks u with heq | ⟨-, hnew⟩
    · exact h.filled u j post (heq ▸ htask)
    · exact absurd (hnew j post (by rw [htask]; rfl)) hj
  given j post hentry := by
    by_cases hj : j = i
    · rw [hj] at hentry ⊢
      exact hgiven post hentry
    · exact (h.given j post (hlog j hj post hentry)).imp (hdone post) (ht.held hj)
  slots := hslots

/-! ### What happens to the slots -/

theorem SlotInv.of_quiet (h : SlotInv s) {devices : Ingest.Slots} {messages posts : Nat}
    {tasks : Fin n → Poster} {log : List BusEntry}
    (hholding : ∀ u, (tasks u).holding = (s.tasks u).holding)
    (hsending : ∀ u i post, tasks u = .sending i post → s.tasks u = .sending i post)
    (hlog : ∀ i post, .given i post ∈ log → .given i post ∈ s.log)
    (hdone : ∀ post, Done s.log post → Done log post) (hslots : Lib.Orderly Fits log) :
    SlotInv { s with devices, messages, posts, tasks, log } where
  holder := by
    rcases h.holder with ⟨holder, hholder⟩
    exact ⟨holder, fun i => (hholder i).of_eq rfl (fun u => by rw [hholding u]) .rfl .rfl⟩
  nodup := h.nodup
  content := h.content
  filled u i post htask := h.filled u i post (hsending u i post htask)
  given i post hentry := by
    refine (h.given i post (hlog i post hentry)).imp (hdone post) ?_
    rintro (⟨u, hu⟩ | hplace)
    · exact .inl ⟨u, (hholding u).trans hu⟩
    · exact .inr hplace
  slots := hslots

/-- A task goes on with the slot that it holds. -/
theorem slotInv_goOn (h : SlotInv s) (hsame : poster.holding = (s.tasks t).holding)
    (hnot : ∀ i post, poster ≠ .sending i post) : SlotInv (s.setTask t poster) := by
  refine h.of_quiet (fun u => ?_) (fun u i post htask => ?_) (fun _ _ hg => hg)
    (fun _ hd => hd) h.slots
  · by_cases hu : u = t
    · rw [hu, update_self, hsame]
    · rw [update_of_ne hu]
  · by_cases hu : u = t
    · rw [hu, update_self] at htask
      exact absurd htask (hnot i post)
    · rw [update_of_ne hu] at htask
      exact htask

theorem slotInv_setTask (h : SlotInv s) (hold : (s.tasks t).holding = none)
    (hnew : poster.holding = none) : SlotInv (s.setTask t poster) := by
  refine slotInv_goOn h (hnew.trans hold.symm) ?_
  rintro i post rfl
  cases hnew

theorem SlotInv.withCounters (h : SlotInv s) (devices : Ingest.Slots) (messages posts : Nat) :
    SlotInv { s with devices, messages, posts } :=
  h.of_quiet (fun _ => rfl) (fun _ _ _ htask => htask) (fun _ _ hg => hg) (fun _ hd => hd) h.slots

theorem slotInv_ret (h : SlotInv s) (hold : (s.tasks t).holding = none) (err : EspErr) :
    SlotInv (s.ret t p err) :=
  (slotInv_setTask h hold rfl).of_quiet (fun _ => rfl) (fun _ _ _ htask => htask)
    (fun _ _ hg => (List.mem_cons.1 hg).resolve_left nofun) (fun _ hd => hd.cons _)
    ⟨trivial, h.slots⟩

theorem setTask_touches (hold : ∀ j post, (s.tasks t).holding = some (j, post) → j = i)
    (hnew : ∀ j post, poster.holding = some (j, post) → j = i) (u : Fin n) :
    (s.setTask t poster).tasks u = s.tasks u ∨
      ((∀ j post, (s.tasks u).holding = some (j, post) → j = i) ∧
        ∀ j post, ((s.setTask t poster).tasks u).holding = some (j, post) → j = i) := by
  dsimp only [setTask]
  by_cases hu : u = t
  · rw [hu, update_self]
    exact .inr ⟨hold, hnew⟩
  · rw [update_of_ne hu]
    exact .inl rfl

theorem slotInv_alloc (h : SlotInv s) (htask : s.tasks t = .calling p) (hi : s.inUse i = false) :
    SlotInv
      { s.setTask t (.filling i p) with
        inUse := update s.inUse i true
        pool := update s.pool i none
        log := .given i p :: s.log } := by
  have hok := h.of_free hi
  have hqueue : i ∉ s.queue := fun hq => by cases hok.queue.1 hq
  have hworker : s.worker ≠ .dispatching i := fun hw => by
    cases hok.worker.1 (by rw [hw]; rfl)
  -- Nobody has had the slot last whose event is not done.
  have hfits : Fits (.given i p) s.log := by
    intro post hentry
    refine (h.given i post hentry).resolve_right ?_
    rintro (⟨u, hu⟩ | ⟨hplace, -⟩)
    · cases (hok.task u).1 (by rw [hu]; rfl)
    · exact hplace.elim hqueue hworker
  apply h.of_touches i (.task t)
  · refine ⟨fun j hj => update_of_ne hj _ _, fun j hj => update_of_ne hj _ _,
      fun _ _ => Iff.rfl, fun _ _ => Iff.rfl, fun _ _ => Iff.rfl,
      setTask_touches (fun j post hheld => ?_) (fun j post hheld => ?_)⟩
    · rw [htask] at hheld
      cases hheld
    · exact (congrArg Prod.fst (Option.some.inj hheld)).symm
  · refine ⟨?_, ?_, ?_, ?_⟩
    · simp
    · apply holding_update hok.task
      · simp [Poster.holding]
      · intro u hu
        simp [hu.symm]
    · simp [setTask, hqueue]
    · rw [show (s.setTask t (.filling i p)).worker = s.worker from rfl, hok.worker]
      simp
  · exact h.nodup
  · intro hplace
    exact (hplace.elim hqueue hworker).elim
  · intro u post hsending
    dsimp only [setTask] at hsending
    by_cases hu : u = t
    · rw [hu, update_self] at hsending
      cases hsending
    · rw [update_of_ne hu] at hsending
      cases (hok.task u).1 (by rw [hsending]; rfl)
  · intro post hentry
    rcases List.mem_cons.1 hentry with heq | hentry
    · cases heq
      exact .inr (.inl ⟨t, by simp [setTask, Poster.holding]⟩)
    · exact .inl ((hfits post hentry).cons _)
  · intro j hj post hentry
    refine (List.mem_cons.1 hentry).resolve_left ?_
    intro heq
    cases heq
    exact hj rfl
  · exact fun post hdone => hdone.cons _
  · exact ⟨hfits, h.slots⟩

theorem holding_fst (h : (s.tasks t).holding = some (i, p)) :
    ∀ j post, (s.tasks t).holding = some (j, post) → j = i := by
  intro j post hheld
  rw [h] at hheld
  exact (congrArg Prod.fst (Option.some.inj hheld)).symm

theorem slotInv_fill (h : SlotInv s) (htask : s.tasks t = .filling i p) :
    SlotInv { s.setTask t (.sending i p) with pool := update s.pool i (some p) } := by
  have hheld : (s.tasks t).holding = some (i, p) := by rw [htask]; rfl
  have hok := h.of_task hheld
  apply h.of_touches i (.task t)
  · exact ⟨fun _ _ => rfl, fun j hj => update_of_ne hj _ _, fun _ _ => Iff.rfl,
      fun _ _ => Iff.rfl, fun _ _ => Iff.rfl, setTask_touches (holding_fst hheld)
        fun j post hnew => (congrArg Prod.fst (Option.some.inj hnew)).symm⟩
  · refine ⟨hok.inUse, ?_, hok.queue, hok.worker⟩
    apply holding_update hok.task
    · simp [Poster.holding]
    · exact fun _ _ => Iff.rfl
  · exact h.nodup
  · intro _
    simp
  · intro u post hsending
    dsimp only [setTask] at hsending
    by_cases hu : u = t
    · rw [hu, update_self] at hsending
      cases hsending
      exact update_self _ _ _
    · rw [update_of_ne hu] at hsending
      cases (hok.task u).1 (by rw [hsending]; rfl)
      exact absurd rfl hu
  · intro post hentry
    refine (h.given i post hentry).imp_right ?_
    rintro (⟨u, hu⟩ | ⟨hplace, -⟩)
    · cases (hok.task u).1 (by rw [hu]; rfl)
      rw [hheld] at hu
      cases hu
      exact .inl ⟨t, by simp [setTask, Poster.holding]⟩
    · rcases hplace with hq | hw
      · cases hok.queue.1 hq
      · cases hok.worker.1 (by rw [hw]; rfl)
  · exact fun _ _ _ hentry => hentry
  · exact fun _ hdone => hdone
  · exact h.slots

theorem enqueue_mem (s : Bus n) (i j : PoolSlot) (priority : Priority) :
    j ∈ (s.enqueue i priority).queue ↔ j = i ∨ j ∈ s.queue := by
  cases priority with
  | high => exact List.mem_cons
  | normal =>
    dsimp only [enqueue]
    rw [List.mem_append, List.mem_singleton, or_comm]

theorem enqueue_nodup (priority : Priority) (hnodup : s.queue.Nodup) (hi : i ∉ s.queue) :
    (s.enqueue i priority).queue.Nodup := by
  cases priority with
  | high => exact List.nodup_cons.2 ⟨hi, hnodup⟩
  | normal =>
    refine List.nodup_append.2 ⟨hnodup, by simp, fun a ha b hb => ?_⟩
    rw [List.mem_singleton.1 hb]
    exact fun heq => hi (heq ▸ ha)

theorem enqueue_eq (s : Bus n) (i : PoolSlot) (priority : Priority) :
    s.enqueue i priority = { s with queue := (s.enqueue i priority).queue } := by
  cases priority <;> rfl

section

variable (h : SlotInv s)
include h

theorem slotInv_send (htask : s.tasks t = .sending i p) (priority : Priority) :
    SlotInv ((s.enqueue i priority).setTask t (.leaving p)) := by
  have hheld : (s.tasks t).holding = some (i, p) := by rw [htask]; rfl
  have hok := h.of_task hheld
  have hnot : i ∉ s.queue := fun hq => by cases hok.queue.1 hq
  have hmem := enqueue_mem s i
  have hpool := h.filled t i p htask
  rw [enqueue_eq]
  apply h.of_touches i .queue
  · refine ⟨fun _ _ => rfl, fun _ _ => rfl, fun j hj => ?_, fun _ _ => Iff.rfl,
      fun _ _ => Iff.rfl, setTask_touches (holding_fst hheld) nofun⟩
    exact (hmem j priority).trans (or_iff_right hj)
  · refine ⟨?_, ?_, ?_, ?_⟩
    · exact hok.inUse.trans (by simp)
    · apply holding_update hok.task
      · simp [Poster.holding]
      · intro u hu
        simp [hu.symm]
    · simp [setTask, hmem]
    · exact hok.worker.trans (by simp)
  · exact enqueue_nodup priority h.nodup hnot
  · intro _
    dsimp only [setTask]
    rw [hpool]
    rfl
  · intro u post hsending
    dsimp only [setTask] at hsending
    by_cases hu : u = t
    · rw [hu, update_self] at hsending
      cases hsending
    · rw [update_of_ne hu] at hsending
      exact h.filled u i post hsending
  · intro post hentry
    refine (h.given i post hentry).imp_right ?_
    rintro (⟨u, hu⟩ | ⟨-, hpost⟩)
    · cases (hok.task u).1 (by rw [hu]; rfl)
      rw [hheld] at hu
      cases hu
      exact .inr ⟨.inl ((hmem i priority).2 (.inl rfl)), hpool⟩
    · exact .inr ⟨.inl ((hmem i priority).2 (.inl rfl)), hpost⟩
  · exact fun _ _ _ hentry => hentry
  · exact fun _ hdone => hdone
  · exact h.slots

theorem slotInv_refuse (htask : s.tasks t = .sending i p) :
    SlotInv (s.setTask t (.refused i p)) :=
  slotInv_goOn h (by rw [htask]; rfl) nofun

theorem slotInv_giveUp (htask : s.tasks t = .refused i p) {err : EspErr}
    (herr : err ≠ .ok) : SlotInv ((s.free i).ret t p err) := by
  have hheld : (s.tasks t).holding = some (i, p) := by rw [htask]; rfl
  have hok := h.of_task hheld
  have hqueue : i ∉ s.queue := fun hq => by cases hok.queue.1 hq
  have hworker : s.worker.slot ≠ some i := fun hw => by cases hok.worker.1 hw
  have hdispatching : s.worker ≠ .dispatching i := fun hw => hworker (by rw [hw]; rfl)
  apply h.of_touches i .nobody
  · exact ⟨fun j hj => update_of_ne hj _ _, fun _ _ => rfl, fun _ _ => Iff.rfl,
      fun _ _ => Iff.rfl, fun _ _ => Iff.rfl, setTask_touches (holding_fst hheld)
        nofun⟩
  · refine ⟨?_, ?_, ?_, ?_⟩
    · simp [ret, free, setTask]
    · apply holding_update hok.task
      · simp [Poster.holding]
      · intro u hu
        simp [hu.symm]
    · exact hok.queue.trans (by simp)
    · exact hok.worker.trans (by simp)
  · exact h.nodup
  · intro hplace
    exact (hplace.elim hqueue hdispatching).elim
  · intro u post hsending
    dsimp only [ret, free, setTask] at hsending
    by_cases hu : u = t
    · rw [hu, update_self] at hsending
      cases hsending
    · rw [update_of_ne hu] at hsending
      exact h.filled u i post hsending
  · -- The event that had the slot is the one that was refused.
    intro post hentry
    have hold := (List.mem_cons.1 hentry).resolve_left nofun
    rcases h.given i post hold with hdone | ⟨u, hu⟩ | ⟨hplace, -⟩
    · exact .inl (hdone.cons _)
    · cases (hok.task u).1 (by rw [hu]; rfl)
      rw [hheld] at hu
      cases hu
      exact .inl (.inr ⟨err, herr, .head _⟩)
    · exact (hplace.elim hqueue hdispatching).elim
  · exact fun _ _ _ hentry => (List.mem_cons.1 hentry).resolve_left nofun
  · exact fun _ hdone => hdone.cons _
  · exact ⟨trivial, h.slots⟩

theorem slotInv_receive {queue : List PoolSlot} (hworker : s.worker = .receiving)
    (hqueue : s.queue = i :: queue) : SlotInv { s with queue, worker := .dispatching i } := by
  have hmem : i ∈ s.queue := by
    rw [hqueue]
    exact .head _
  have hok := h.of_queue hmem
  have hnodup := h.nodup
  rw [hqueue] at hnodup
  have hnot : i ∉ queue := (List.nodup_cons.1 hnodup).1
  apply h.of_touches i .worker
  · refine ⟨fun _ _ => rfl, fun _ _ => rfl, fun j hj => ?_, fun j hj => ?_, fun j hj => ?_,
      fun _ => .inl rfl⟩
    · rw [hqueue, List.mem_cons, or_iff_right hj]
    · rw [hworker]
      simp [Dispatcher.slot, hj.symm]
    · rw [hworker]
      simp [hj.symm]
  · refine ⟨?_, ?_, ?_, ?_⟩
    · exact hok.inUse.trans (by simp)
    · exact fun u => (hok.task u).trans (by simp)
    · simp [hnot]
    · simp [Dispatcher.slot]
  · exact (List.nodup_cons.1 hnodup).2
  · exact fun _ => h.content i (.inl hmem)
  · exact fun u post hsending => h.filled u i post hsending
  · intro post hentry
    refine (h.given i post hentry).imp_right ?_
    rintro (⟨u, hu⟩ | ⟨-, hpost⟩)
    · exact .inl ⟨u, hu⟩
    · exact .inr ⟨.inr rfl, hpost⟩
  · exact fun _ _ _ hentry => hentry
  · exact fun _ hdone => hdone
  · exact h.slots

theorem slotInv_dispatch (hworker : s.worker = .dispatching i) (hpool : s.pool i = some p) :
    SlotInv { s with log := .dispatched p :: s.log, worker := .freeing i } := by
  have hok := h.of_worker (by rw [hworker]; rfl)
  have hqueue : i ∉ s.queue := fun hq => by cases hok.queue.1 hq
  apply h.of_touches i .worker
  · refine ⟨fun _ _ => rfl, fun _ _ => rfl, fun _ _ => Iff.rfl, fun j hj => ?_, fun j hj => ?_,
      fun _ => .inl rfl⟩
    · rw [hworker]
      rfl
    · rw [hworker]
      simp [hj.symm]
  · exact ⟨hok.inUse, hok.task, hok.queue, by simp [Dispatcher.slot]⟩
  · exact h.nodup
  · intro hplace
    exact (hplace.elim hqueue (by simp)).elim
  · exact fun u post hsending => h.filled u i post hsending
  · intro post hentry
    have hold := (List.mem_cons.1 hentry).resolve_left nofun
    rcases h.given i post hold with hdone | ⟨u, hu⟩ | ⟨-, hpost⟩
    · exact .inl (hdone.cons _)
    · exact .inr (.inl ⟨u, hu⟩)
    rw [hpool] at hpost
    cases hpost
    exact .inl (.inl List.mem_cons_self)
  · exact fun _ _ _ hentry => (List.mem_cons.1 hentry).resolve_left nofun
  · exact fun _ hdone => hdone.cons _
  · exact ⟨trivial, h.slots⟩

theorem slotInv_free (hworker : s.worker = .freeing i) :
    SlotInv { s.free i with worker := .receiving } := by
  have hok := h.of_worker (by rw [hworker]; rfl)
  have hqueue : i ∉ s.queue := fun hq => by cases hok.queue.1 hq
  apply h.of_touches i .nobody
  · refine ⟨fun j hj => update_of_ne hj _ _, fun _ _ => rfl, fun _ _ => Iff.rfl,
      fun j hj => ?_, fun j hj => ?_, fun _ => .inl rfl⟩
    · rw [hworker]
      simp [Dispatcher.slot, hj.symm]
    · rw [hworker]
      simp
  · refine ⟨?_, ?_, ?_, ?_⟩
    · simp [free]
    · exact fun u => (hok.task u).trans (by simp)
    · exact hok.queue.trans (by simp)
    · simp [Dispatcher.slot]
  · exact h.nodup
  · intro hplace
    exact (hplace.elim hqueue (by simp)).elim
  · exact fun u post hsending => h.filled u i post hsending
  · intro post hentry
    rcases h.given i post hentry with hdone | ⟨u, hu⟩ | ⟨hplace, -⟩
    · exact .inl hdone
    · cases (hok.task u).1 (by rw [hu]; rfl)
    · rw [hworker] at hplace
      exact (hplace.elim hqueue (by simp)).elim
  · exact fun _ _ _ hentry => hentry
  · exact fun _ hdone => hdone
  · exact h.slots

end

/-! ### The line -/

/-- An event may stand in front of another one. -/
def Fine (a b : Post) : Prop := a.number ≠ b.number ∧ ¬MustPrecede b a

/-- An event was put into the queue. -/
def Sent (s : Bus n) (post : Post) : Prop := post ∈ s.dispatched ∨ post ∈ s.line

/-- A number is that of an event that was put into the queue. -/
def Named (s : Bus n) (number : Nat) : Prop := ∃ post, Sent s post ∧ post.number = number

/-- What is true of a task. -/
structure TaskOk (s : Bus n) (poster : Poster) : Prop where
  number : ∀ p, poster.unsent = some p → p.number < s.posts
  unsent : ∀ p, poster.unsent = some p → ∀ x, Sent s x → x.number ≠ p.number
  before : ∀ p, poster.unsent = some p → ∀ k ∈ p.before, Named s k
  leaving : ∀ p, poster = .leaving p → Sent s p
  message : ∀ c, poster.control = some c → c.message < s.messages
  control : ∀ c, poster.control = some c → ∀ x, Sent s x → ¬Earlier (some c) x.control

/-- What holds of the events that were put into the queue and of those that are not yet. -/
structure OrderInv (s : Bus n) : Prop where
  line : s.line.Pairwise Fine
  past : s.dispatched.Pairwise fun later earlier => Fine earlier later
  apart : ∀ x ∈ s.dispatched, ∀ y ∈ s.line, Fine x y
  number : ∀ x, Sent s x → x.number < s.posts
  before : ∀ x, Sent s x → ∀ k ∈ x.before, Named s k
  message : ∀ x, Sent s x → ∀ c, x.control = some c → c.message < s.messages
  done : ∀ p, .returned p .ok ∈ s.log → Sent s p
  task : ∀ t, TaskOk s (s.tasks t)
  distinct : ∀ t u p q, (s.tasks t).unsent = some p → (s.tasks u).unsent = some q →
    p.number = q.number → t = u

theorem mem_returned {k : Nat} : k ∈ s.returned ↔ ∃ p, .returned p .ok ∈ s.log ∧ p.number = k := by
  unfold returned
  rw [List.mem_filterMap]
  constructor
  · rintro ⟨entry, hmem, hentry⟩
    unfold succeeded at hentry
    split at hentry
    · exact ⟨_, hmem, Option.some.inj hentry⟩
    · cases hentry
  · rintro ⟨p, hmem, rfl⟩
    exact ⟨_, hmem, rfl⟩

theorem OrderInv.named (h : OrderInv s) : ∀ k ∈ s.returned, Named s k := by
  intro k hk
  rcases mem_returned.1 hk with ⟨p, hmem, hp⟩
  exact ⟨p, h.done p hmem, hp⟩

theorem Named.mono {k : Nat} (hsent : ∀ x, Sent s x → Sent s' x) (h : Named s k) : Named s' k := by
  rcases h with ⟨p, hp, hk⟩
  exact ⟨p, hsent p hp, hk⟩

theorem TaskOk.of_same (h : TaskOk s poster) (hsent : ∀ x, Sent s' x ↔ Sent s x)
    (hposts : s.posts ≤ s'.posts) (hmessages : s.messages ≤ s'.messages) : TaskOk s' poster where
  number p hp := (h.number p hp).trans_le hposts
  unsent p hp x hx := h.unsent p hp x ((hsent x).1 hx)
  before p hp k hk := (h.before p hp k hk).mono fun x hx => (hsent x).2 hx
  leaving p hp := (hsent p).2 (h.leaving p hp)
  message c hc := (h.message c hc).trans_le hmessages
  control c hc x hx := h.control c hc x ((hsent x).1 hx)

theorem sent_congr (hdispatched : s'.dispatched = s.dispatched) (hline : s'.line = s.line) :
    ∀ x, Sent s' x ↔ Sent s x := by
  intro x
  unfold Sent
  rw [hdispatched, hline]

theorem OrderInv.of_task (h : OrderInv s) (t : Fin n) (poster : Poster)
    (hdispatched : s'.dispatched = s.dispatched) (hline : s'.line = s.line)
    (hposts : s.posts ≤ s'.posts) (hmessages : s.messages ≤ s'.messages)
    (htasks : s'.tasks = update s.tasks t poster) (hok : TaskOk s' poster)
    (hdistinct : ∀ p, poster.unsent = some p → ∀ u, u ≠ t → ∀ q, (s.tasks u).unsent = some q →
      p.number ≠ q.number) (hdone : ∀ p, .returned p .ok ∈ s'.log → Sent s p) : OrderInv s' := by
  have hsent := sent_congr hdispatched hline
  refine ⟨?_, ?_, ?_, ?_, ?_, ?_, ?_, ?_, ?_⟩
  · rw [hline]
    exact h.line
  · rw [hdispatched]
    exact h.past
  · rw [hdispatched, hline]
    exact h.apart
  · exact fun x hx => (h.number x ((hsent x).1 hx)).trans_le hposts
  · exact fun x hx k hk => (h.before x ((hsent x).1 hx) k hk).mono fun y hy => (hsent y).2 hy
  · exact fun x hx c hc => (h.message x ((hsent x).1 hx) c hc).trans_le hmessages
  · exact fun p hp => (hsent p).2 (hdone p hp)
  · intro u
    rw [htasks]
    by_cases hu : u = t
    · rw [hu, update_self]
      exact hok
    · rw [update_of_ne hu]
      exact (h.task u).of_same hsent hposts hmessages
  · intro u v p q hp hq hpq
    rw [htasks] at hp hq
    by_cases hu : u = t
    · rw [hu, update_self] at hp
      by_cases hv : v = t
      · exact hu.trans hv.symm
      · rw [update_of_ne hv] at hq
        exact absurd hpq (hdistinct p hp v hv q hq)
    rw [update_of_ne hu] at hp
    by_cases hv : v = t
    · rw [hv, update_self] at hq
      exact absurd hpq.symm (hdistinct q hq u hu p hp)
    · rw [update_of_ne hv] at hq
      exact h.distinct u v p q hp hq hpq

theorem OrderInv.of_keep (h : OrderInv s) (t : Fin n) (poster : Poster)
    (hdispatched : s'.dispatched = s.dispatched) (hline : s'.line = s.line)
    (hposts : s.posts ≤ s'.posts) (hmessages : s.messages ≤ s'.messages)
    (htasks : s'.tasks = update s.tasks t poster)
    (hunsent : ∀ p, poster.unsent = some p → (s.tasks t).unsent = some p)
    (hcontrol : ∀ c, poster.control = some c → (s.tasks t).control = some c)
    (hleaving : ∀ p, poster ≠ .leaving p)
    (hdone : ∀ p, .returned p .ok ∈ s'.log → Sent s p) : OrderInv s' := by
  have hold := (h.task t).of_same (sent_congr hdispatched hline) hposts hmessages
  refine h.of_task t poster hdispatched hline hposts hmessages htasks ?_ ?_ hdone
  · exact ⟨fun p hp => hold.number p (hunsent p hp), fun p hp => hold.unsent p (hunsent p hp),
      fun p hp => hold.before p (hunsent p hp), fun p hp => absurd hp (hleaving p),
      fun c hc => hold.message c (hcontrol c hc), fun c hc => hold.control c (hcontrol c hc)⟩
  · intro p hp u hu q hq hpq
    exact hu (h.distinct u t q p hq (hunsent p hp) hpq.symm)

theorem orderInv_call (h : OrderInv s) (priority : Priority) {control : Option Control}
    (hcontrol : ∀ c, control = some c → (s.tasks t).control = some c) :
    OrderInv (s.call t priority control) := by
  have hline : (s.call t priority control).line = s.line := rfl
  have hsent : ∀ x, Sent (s.call t priority control) x ↔ Sent s x := sent_congr rfl hline
  have hposts : s.posts ≤ (s.call t priority control).posts := Nat.le_succ _
  have hold := (h.task t).of_same hsent hposts le_rfl
  refine h.of_task t
    (.calling { number := s.posts, priority, control, before := s.returned })
    rfl hline hposts le_rfl rfl ⟨?_, ?_, ?_, ?_, ?_, ?_⟩ ?_ h.done
  · intro p hp
    cases hp
    exact Nat.lt_succ_self _
  · intro p hp x hx
    cases hp
    exact (h.number x ((hsent x).1 hx)).ne
  · intro p hp k hk
    cases hp
    exact (h.named k hk).mono fun x hx => (hsent x).2 hx
  · nofun
  · exact fun c hc => hold.message c (hcontrol c hc)
  · exact fun c hc => hold.control c (hcontrol c hc)
  · intro p hp u hu q hq
    cases hp
    exact ((h.task u).number q hq).ne'

theorem orderInv_ret (h : OrderInv s) {err : EspErr} (hok : err = .ok → Sent s p) :
    OrderInv (s.ret t p err) := by
  refine h.of_keep t .idle rfl rfl le_rfl le_rfl rfl nofun
    nofun nofun fun q hq => ?_
  rcases List.mem_cons.1 hq with heq | hq
  · cases heq
    exact hok rfl
  · exact h.done q hq

/-- What is written into a slot outside of the line does not change the line. -/
theorem line_of_pool {post : Option Post} (hqueue : i ∉ s.queue)
    (hworker : s.worker ≠ .dispatching i) (hq : s'.queue = s.queue) (hw : s'.worker = s.worker)
    (hp : s'.pool = update s.pool i post) : s'.line = s.line := by
  unfold line front waiting
  rw [hq, hw, hp]
  congr 1
  · split
    · rename_i j hj
      have hne : j ≠ i := by
        rintro rfl
        exact hworker hj
      rw [update_of_ne hne]
    · rfl
  · apply List.filterMap_congr
    intro j hj
    have hne : j ≠ i := by
      rintro rfl
      exact hqueue hj
    rw [update_of_ne hne]

/-- A slot that neither the queue nor the task of the bus has is not in the line. -/
theorem SlotOk.off_line {holder : Holder n} (h : SlotOk s i holder) (hqueue : holder ≠ .queue)
    (hworker : holder ≠ .worker) : i ∉ s.queue ∧ s.worker ≠ .dispatching i :=
  ⟨fun hq => hqueue (h.queue.1 hq), fun hw => hworker (h.worker.1 (by rw [hw]; rfl))⟩

/-- An event that goes into the queue may stand behind everything that was put there before. -/
theorem fine_before (h : OrderInv s) (hunsent : (s.tasks t).unsent = some p)
    (hcontrol : (s.tasks t).control = p.control) {x : Post} (hx : Sent s x) : Fine x p := by
  refine ⟨(h.task t).unsent p hunsent x hx, ?_⟩
  rintro (⟨-, hbefore⟩ | hearlier)
  · rcases h.before x hx p.number hbefore with ⟨y, hy, hnumber⟩
    exact (h.task t).unsent p hunsent y hy hnumber
  cases hp : p.control with
  | none =>
    rw [hp] at hearlier
    exact hearlier
  | some c =>
    rw [hp] at hearlier hcontrol
    exact (h.task t).control c hcontrol x hx hearlier

theorem line_enqueue (hpool : s.pool i = some p) (priority : Priority) :
    (s.enqueue i priority).line =
      match priority with
      | .high => s.front.toList ++ p :: s.waiting
      | .normal => s.line ++ [p] := by
  cases priority with
  | high =>
    dsimp only [line, enqueue, waiting, front]
    rw [List.filterMap_cons, hpool]
  | normal =>
    dsimp only [line, enqueue, waiting, front]
    rw [List.filterMap_append, List.filterMap_cons, hpool, List.filterMap_nil,
      List.append_assoc]

theorem mem_line_enqueue (hpool : s.pool i = some p) (priority : Priority) (x : Post) :
    x ∈ (s.enqueue i priority).line ↔ x ∈ s.line ∨ x = p := by
  rw [line_enqueue hpool]
  cases priority with
  | high =>
    simp only [line, List.mem_append, List.mem_cons]
    tauto
  | normal => simp only [List.mem_append, List.mem_singleton]

/-- The line stays in order if an event goes to the front of the queue that none of those in the
    queue must precede, or to its end. -/
theorem line_pairwise (hline : s.line.Pairwise Fine) (hpool : s.pool i = some p)
    (hbefore : ∀ x ∈ s.line, Fine x p) (priority : Priority)
    (hafter : priority = .high → ∀ y ∈ s.waiting, Fine p y) :
    (s.enqueue i priority).line.Pairwise Fine := by
  rw [line_enqueue hpool]
  cases priority with
  | high =>
    rw [line, List.pairwise_append] at hline
    rcases hline with ⟨hfront, hwaiting, hcross⟩
    refine List.pairwise_append.2 ⟨hfront, List.pairwise_cons.2 ⟨hafter rfl, hwaiting⟩, ?_⟩
    intro x hx y hy
    rcases List.mem_cons.1 hy with rfl | hy
    · exact hbefore x (List.mem_append_left _ hx)
    · exact hcross x hx y hy
  | normal =>
    refine List.pairwise_append.2 ⟨hline, List.pairwise_singleton _ _, ?_⟩
    intro x hx y hy
    rw [List.mem_singleton.1 hy]
    exact hbefore x hx

theorem TaskOk.of_sent (h : TaskOk s poster) (hsent : ∀ x, Sent s' x ↔ Sent s x ∨ x = p)
    (hposts : s'.posts = s.posts) (hmessages : s'.messages = s.messages)
    (hunsent : ∀ q, poster.unsent = some q → p.number ≠ q.number)
    (hcontrol : ¬Earlier poster.control p.control) : TaskOk s' poster where
  number q hq := by
    rw [hposts]
    exact h.number q hq
  unsent q hq x hx := by
    rcases (hsent x).1 hx with hx | rfl
    · exact h.unsent q hq x hx
    · exact hunsent q hq
  before q hq k hk := (h.before q hq k hk).mono fun x hx => (hsent x).2 (.inl hx)
  leaving q hq := (hsent q).2 (.inl (h.leaving q hq))
  message c hc := by
    rw [hmessages]
    exact h.message c hc
  control c hc x hx := by
    rcases (hsent x).1 hx with hx | rfl
    · exact h.control c hc x hx
    · rw [← hc]
      exact hcontrol

/-- A task puts its event into the queue, and the line is in order with it. -/
theorem OrderInv.of_sent (h : OrderInv s) (htask : s.tasks t = .sending i p)
    (htasks : s'.tasks = update s.tasks t (.leaving p)) (hposts : s'.posts = s.posts)
    (hmessages : s'.messages = s.messages) (hlog : s'.log = s.log)
    (hline : s'.line.Pairwise Fine) (hmem : ∀ x, x ∈ s'.line ↔ x ∈ s.line ∨ x = p)
    (hearlier : ∀ u, ¬Earlier (s.tasks u).control p.control) : OrderInv s' := by
  have hunsent : (s.tasks t).unsent = some p := by rw [htask]; rfl
  have hcontrol : (s.tasks t).control = p.control := by rw [htask]; rfl
  have hdispatched : s'.dispatched = s.dispatched := by
    unfold dispatched
    rw [hlog]
  have hsent : ∀ x, Sent s' x ↔ Sent s x ∨ x = p := by
    intro x
    unfold Sent
    rw [hdispatched, hmem x, or_assoc]
  have hnamed : ∀ k, Named s k → Named s' k :=
    fun k hk => hk.mono fun x hx => (hsent x).2 (.inl hx)
  refine ⟨hline, ?_, ?_, ?_, ?_, ?_, ?_, ?_, ?_⟩
  · rw [hdispatched]
    exact h.past
  · intro x hx y hy
    rw [hdispatched] at hx
    rcases (hmem y).1 hy with hy | rfl
    · exact h.apart x hx y hy
    · exact fine_before h hunsent hcontrol (.inl hx)
  · intro x hx
    rw [hposts]
    rcases (hsent x).1 hx with hx | rfl
    · exact h.number x hx
    · exact (h.task t).number x hunsent
  · intro x hx k hk
    rcases (hsent x).1 hx with hx | rfl
    · exact hnamed k (h.before x hx k hk)
    · exact hnamed k ((h.task t).before x hunsent k hk)
  · intro x hx c hc
    rw [hmessages]
    rcases (hsent x).1 hx with hx | rfl
    · exact h.message x hx c hc
    · exact (h.task t).message c (hcontrol.trans hc)
  · intro q hq
    rw [hlog] at hq
    exact (hsent q).2 (.inl (h.done q hq))
  · intro u
    rw [htasks]
    by_cases hu : u = t
    · -- The task has nothing in hand but the event that is in the queue now.
      rw [hu, update_self]
      have hleaving : ∀ q, Poster.leaving p = .leaving q → Sent s' q := by
        intro q hq
        cases hq
        exact (hsent p).2 (.inr rfl)
      exact ⟨nofun, nofun, nofun, hleaving, nofun, nofun⟩
    · rw [update_of_ne hu]
      refine (h.task u).of_sent hsent hposts hmessages (fun q hq heq => ?_) (hearlier u)
      exact hu (h.distinct u t q p hq hunsent heq.symm)
  · intro u v q r hq hr hqr
    rw [htasks] at hq hr
    by_cases hu : u = t
    · rw [hu, update_self] at hq
      cases hq
    by_cases hv : v = t
    · rw [hv, update_self] at hr
      cases hr
    rw [update_of_ne hu] at hq
    rw [update_of_ne hv] at hr
    exact h.distinct u v q r hq hr hqr

theorem orderInv_send (h : OrderInv s) (htask : s.tasks t = .sending i p)
    (hpool : s.pool i = some p)
    (hhigh : p.priority = .high → ∀ other ∈ s.waiting, ¬MustPrecede other p)
    (hearlier : ∀ u, ¬Earlier (s.tasks u).control p.control) :
    OrderInv ((s.enqueue i p.priority).setTask t (.leaving p)) := by
  have hunsent : (s.tasks t).unsent = some p := by rw [htask]; rfl
  have hcontrol : (s.tasks t).control = p.control := by rw [htask]; rfl
  have hbefore : ∀ x, Sent s x → Fine x p := fun x hx => fine_before h hunsent hcontrol hx
  have hline : (s.enqueue i p.priority).line.Pairwise Fine := by
    refine line_pairwise h.line hpool (fun x hx => hbefore x (.inr hx)) p.priority fun hp y hy => ?_
    exact ⟨(hbefore y (.inr (List.mem_append_right _ hy))).1.symm, hhigh hp y hy⟩
  have hmem := mem_line_enqueue hpool p.priority
  rw [enqueue_eq] at hline hmem ⊢
  exact h.of_sent htask rfl rfl rfl rfl hline hmem hearlier

/-! ### The task of the bus -/

theorem OrderInv.of_work (h : OrderInv s) (htasks : s'.tasks = s.tasks) (hposts : s'.posts = s.posts)
    (hmessages : s'.messages = s.messages) (hsent : ∀ x, Sent s' x ↔ Sent s x)
    (hline : s'.line.Pairwise Fine)
    (hpast : s'.dispatched.Pairwise fun later earlier => Fine earlier later)
    (hapart : ∀ x ∈ s'.dispatched, ∀ y ∈ s'.line, Fine x y)
    (hdone : ∀ p, .returned p .ok ∈ s'.log → .returned p .ok ∈ s.log) : OrderInv s' where
  line := hline
  past := hpast
  apart := hapart
  number x hx := by
    rw [hposts]
    exact h.number x ((hsent x).1 hx)
  before x hx k hk := (h.before x ((hsent x).1 hx) k hk).mono fun y hy => (hsent y).2 hy
  message x hx c hc := by
    rw [hmessages]
    exact h.message x ((hsent x).1 hx) c hc
  done p hp := (hsent p).2 (h.done p (hdone p hp))
  task t := by
    rw [htasks]
    exact (h.task t).of_same hsent hposts.ge hmessages.ge
  distinct := by
    rw [htasks]
    exact h.distinct

/-- The task of the bus takes a slot out of the queue, or gives one back. -/
theorem OrderInv.of_line (h : OrderInv s) {inUse : PoolSlot → Bool}
    {pool : PoolSlot → Option Post} {queue : List PoolSlot} {worker : Dispatcher}
    (hline : ({ s with inUse, pool, queue, worker } : Bus n).line = s.line) :
    OrderInv { s with inUse, pool, queue, worker } := by
  refine h.of_work rfl rfl rfl (sent_congr rfl hline) ?_ h.past ?_ fun _ hp => hp
  · rw [hline]
    exact h.line
  · rw [hline]
    exact h.apart

/-- The handlers run, and the event at the front of the line is dispatched. -/
theorem orderInv_dispatch (h : OrderInv s) (hworker : s.worker = .dispatching i)
    (hpool : s.pool i = some p) :
    OrderInv { s with log := .dispatched p :: s.log, worker := .freeing i } := by
  have hline : s.line = p :: s.waiting := by
    unfold line front
    rw [hworker]
    dsimp only
    rw [hpool]
    rfl
  have hold := h.line
  have happ := h.apart
  rw [hline] at hold happ
  rw [List.pairwise_cons] at hold
  refine h.of_work rfl rfl rfl ?_ hold.2 ?_ ?_ ?_
  · intro x
    unfold Sent
    rw [hline]
    change x ∈ p :: s.dispatched ∨ x ∈ s.waiting ↔ _
    rw [List.mem_cons, List.mem_cons]
    tauto
  · exact List.pairwise_cons.2 ⟨fun x hx => happ x hx p List.mem_cons_self, h.past⟩
  · intro x hx y hy
    rcases List.mem_cons.1 hx with rfl | hx
    · exact hold.1 y hy
    · exact happ x hx y (.tail _ hy)
  · exact fun q hq => (List.mem_cons.1 hq).resolve_left nofun

/-! ### Runs -/

/-- What holds of the bus. -/
structure Inv (s : Bus n) : Prop where
  slots : SlotInv s
  order : OrderInv s

theorem inUse_of_alloc (h : s.alloc = some i) : s.inUse i = false := by
  have hfree := List.find?_some h
  simpa using hfree

section

variable (h : Inv s)
include h

theorem inv_call (hheld : (s.tasks t).holding = none) (priority : Priority)
    {control : Option Control} (hcontrol : ∀ c, control = some c → (s.tasks t).control = some c) :
    Inv (s.call t priority control) :=
  ⟨(slotInv_setTask h.slots hheld rfl).withCounters _ _ _, orderInv_call h.order priority hcontrol⟩

theorem inv_alloc (htask : s.tasks t = .calling p) (hi : s.inUse i = false) :
    Inv { s.setTask t (.filling i p) with
      inUse := update s.inUse i true
      pool := update s.pool i none
      log := .given i p :: s.log } := by
  rcases (h.slots.of_free hi).off_line nofun nofun with ⟨hqueue, hworker⟩
  refine ⟨slotInv_alloc h.slots htask hi, ?_⟩
  refine h.order.of_keep t (.filling i p) rfl (line_of_pool hqueue hworker rfl rfl rfl) le_rfl le_rfl
    rfl ?_ ?_ ?_ ?_
  · rw [htask]
    exact fun _ hp => hp
  · rw [htask]
    exact fun _ hc => hc
  · exact nofun
  · exact fun q hq => h.order.done q ((List.mem_cons.1 hq).resolve_left nofun)

theorem inv_fill (htask : s.tasks t = .filling i p) :
    Inv { s.setTask t (.sending i p) with pool := update s.pool i (some p) } := by
  have hok := h.slots.of_task (by rw [htask]; rfl)
  rcases hok.off_line nofun nofun with ⟨hqueue, hworker⟩
  refine ⟨slotInv_fill h.slots htask, ?_⟩
  refine h.order.of_keep t (.sending i p) rfl (line_of_pool hqueue hworker rfl rfl rfl) le_rfl le_rfl
    rfl ?_ ?_ ?_ ?_
  · rw [htask]
    exact fun _ hp => hp
  · rw [htask]
    exact fun _ hc => hc
  · exact nofun
  · exact h.order.done

theorem inv_refuse (htask : s.tasks t = .sending i p) : Inv (s.setTask t (.refused i p)) := by
  refine ⟨slotInv_refuse h.slots htask, ?_⟩
  exact h.order.of_keep t (.refused i p) rfl rfl le_rfl le_rfl rfl nofun
    nofun nofun h.order.done

theorem inv_giveUp (htask : s.tasks t = .refused i p) : Inv ((s.free i).ret t p .timeout) := by
  refine ⟨slotInv_giveUp h.slots htask (by decide), ?_⟩
  have hfree : OrderInv (s.free i) := h.order.of_line rfl
  exact orderInv_ret hfree nofun

theorem inv_go {valid : Bool} (hcareful : Careful s (.go t valid))
    (hs : s.go t valid = some s') : Inv s' := by
  unfold go at hs
  cases htask : s.tasks t with
  | idle =>
    rw [htask] at hs
    cases hs
  | ingested control =>
    rw [htask] at hs
    cases hs
    apply inv_call h (by rw [htask]; rfl)
    rw [htask]
    exact fun _ hc => hc
  | calling p =>
    rw [htask] at hs
    dsimp only at hs
    have hheld : (s.tasks t).holding = none := by rw [htask]; rfl
    by_cases hvalid : valid = true
    · rw [if_neg (by simp [hvalid])] at hs
      cases halloc : s.alloc with
      | none =>
        rw [halloc] at hs
        cases hs
        exact ⟨slotInv_ret h.slots hheld _, orderInv_ret h.order nofun⟩
      | some i =>
        rw [halloc] at hs
        cases hs
        exact inv_alloc h htask (inUse_of_alloc halloc)
    · rw [if_pos (by simp [hvalid])] at hs
      cases hs
      exact ⟨slotInv_ret h.slots hheld _, orderInv_ret h.order nofun⟩
  | filling i p =>
    rw [htask] at hs
    cases hs
    exact inv_fill h htask
  | sending i p =>
    rw [htask] at hs
    rcases hcareful p (by rw [htask]; rfl) with ⟨hhigh, hearlier⟩
    by_cases hroom : s.queue.length < eventBusQueueLen
    · rw [← Option.some.inj ((if_pos hroom).symm.trans hs)]
      exact ⟨slotInv_send h.slots htask p.priority,
        orderInv_send h.order htask (h.slots.filled t i p htask) hhigh hearlier⟩
    · rw [← Option.some.inj ((if_neg hroom).symm.trans hs)]
      exact inv_refuse h htask
  | refused i p =>
    rw [htask] at hs
    cases hs
    exact inv_giveUp h htask
  | leaving p =>
    rw [htask] at hs
    cases hs
    exact ⟨slotInv_ret h.slots (by rw [htask]; rfl) .ok,
      orderInv_ret h.order fun _ => (h.order.task t).leaving p htask⟩

theorem inv_work (hs : s.work = some s') : Inv s' := by
  unfold work at hs
  cases hworker : s.worker with
  | receiving =>
    rw [hworker] at hs
    cases hqueue : s.queue with
    | nil =>
      rw [hqueue] at hs
      cases hs
    | cons i queue =>
      rw [hqueue] at hs
      cases hs
      refine ⟨slotInv_receive h.slots hworker hqueue, ?_⟩
      -- The slot that is received has an event in it, so the line is the same.
      have hcontent := h.slots.content i (.inl (by rw [hqueue]; exact .head _))
      rcases Option.isSome_iff_exists.1 hcontent with ⟨p, hp⟩
      refine h.order.of_line ?_
      unfold line front waiting
      rw [hworker, hqueue]
      dsimp only
      rw [List.filterMap_cons, hp]
      rfl
  | dispatching i =>
    rw [hworker] at hs
    rcases Option.isSome_iff_exists.1 (h.slots.content i (.inr hworker)) with ⟨p, hp⟩
    dsimp only at hs
    rw [hp] at hs
    cases hs
    exact ⟨slotInv_dispatch h.slots hworker hp, orderInv_dispatch h.order hworker hp⟩
  | freeing i =>
    rw [hworker] at hs
    cases hs
    refine ⟨slotInv_free h.slots hworker, h.order.of_line ?_⟩
    unfold line front
    rw [hworker]
    rfl

theorem inv_ingest {msg : Ingest.Message} (hs : s.ingest t msg = some s') : Inv s' := by
  unfold ingest at hs
  split at hs
  · rename_i htask
    cases hs
    have hheld : (s.tasks t).holding = none := by rw [htask]; rfl
    have hmessages : s.messages ≤ s.messages + 1 := Nat.le_succ _
    cases hevent : (Ingest.handleMqtt s.devices msg).2 with
    | none =>
      refine ⟨(slotInv_setTask h.slots hheld rfl).withCounters _ _ _, ?_⟩
      exact h.order.of_keep t .idle rfl rfl le_rfl hmessages rfl nofun
        nofun nofun h.order.done
    | some event =>
      refine ⟨(slotInv_setTask h.slots hheld rfl).withCounters _ _ _, ?_⟩
      refine h.order.of_task t (.ingested { event, message := s.messages }) rfl rfl le_rfl
        hmessages rfl ⟨nofun, nofun, nofun, nofun, ?_, ?_⟩ nofun h.order.done
      · intro c hc
        cases hc
        exact Nat.lt_succ_self _
      -- All events in the line are of messages that were read before.
      intro c hc x hx hearlier
      cases hc
      cases hx' : x.control with
      | none =>
        rw [hx'] at hearlier
        exact hearlier
      | some d =>
        rw [hx'] at hearlier
        have hold : d.message < s.messages := h.order.message x hx d hx'
        have hlt : s.messages < d.message := hearlier.2
        omega
  · cases hs

theorem inv_step {act : BusStep n} (hcareful : Careful s act)
    (hs : busStep s act = some s') : Inv s' := by
  cases act with
  | ingest t msg => exact inv_ingest h hs
  | post t priority =>
    unfold busStep post at hs
    dsimp only at hs
    split at hs
    · rename_i htask
      cases hs
      exact inv_call h (by rw [htask]; rfl) priority nofun
    · cases hs
  | go t valid => exact inv_go h hcareful hs
  | work => exact inv_work h hs

end

theorem inv_start (n : Nat) : Inv ({} : Bus n) where
  slots :=
    { holder := ⟨fun _ => .nobody, fun _ => ⟨by simp, by simp [Poster.holding], by simp,
        by simp [Dispatcher.slot]⟩⟩
      nodup := List.nodup_nil
      content := fun _ h => by simp at h
      filled := fun _ _ _ h => by simp at h
      given := nofun
      slots := trivial }
  order :=
    { line := List.Pairwise.nil
      past := List.Pairwise.nil
      apart := nofun
      number := fun _ h => absurd h (by simp [Sent, dispatched, line, front, waiting])
      before := fun _ h => absurd h (by simp [Sent, dispatched, line, front, waiting])
      message := fun _ h => absurd h (by simp [Sent, dispatched, line, front, waiting])
      done := nofun
      task := fun _ => ⟨nofun, nofun, nofun, nofun, nofun, nofun⟩
      distinct := nofun }

/-- The steps that the task of the bus has to take until it waits for an event. -/
def backlog (s : Bus n) : Nat :=
  3 * s.queue.length + match s.worker with
    | .receiving => 0
    | .dispatching _ => 2
    | .freeing _ => 1

/-- The task of the bus takes a step as long as there is one to take. -/
theorem work_backlog (h : s.backlog ≠ 0) : ∃ s', s.work = some s' ∧ s'.backlog + 1 = s.backlog := by
  unfold backlog at h ⊢
  unfold work
  cases hworker : s.worker with
  | receiving =>
    rw [hworker] at h
    cases hqueue : s.queue with
    | nil =>
      rw [hqueue] at h
      exact absurd rfl h
    | cons i queue =>
      refine ⟨_, rfl, ?_⟩
      simp only [List.length_cons]
      omega
  | dispatching i => exact ⟨_, rfl, rfl⟩
  | freeing i => exact ⟨_, rfl, rfl⟩

/-- The task of the bus empties the queue. -/
theorem drain : ∀ (k : Nat) (s : Bus n), s.backlog = k →
    ∃ s', Lib.run busStep s (List.replicate k .work) = some s' ∧ s'.line = [] := by
  intro k
  induction k with
  | zero =>
    intro s hs
    refine ⟨s, rfl, ?_⟩
    unfold backlog at hs
    cases hworker : s.worker with
    | receiving =>
      rw [hworker] at hs
      have hqueue : s.queue = [] := List.length_eq_zero_iff.1 (by dsimp only at hs; omega)
      unfold line front waiting
      rw [hworker, hqueue]
      rfl
    | dispatching i | freeing i =>
      rw [hworker] at hs
      dsimp only at hs
      omega
  | succ k ih =>
    intro s hs
    rcases work_backlog (s := s) (by omega) with ⟨next, hnext, hless⟩
    rcases ih next (by omega) with ⟨s', hrun, hline⟩
    refine ⟨s', ?_, hline⟩
    rw [List.replicate_succ, Lib.run_cons (show busStep s .work = some next from hnext)]
    exact hrun

theorem Inv.delivered (h : Inv s) : Delivered s where
  order := h.order.past.imp fun hfine => hfine.2
  once := h.order.past.imp fun hfine heq => hfine.1 (by rw [heq])
  kept := h.order.done
  apart := fun p hp hd => (h.order.apart p hd p hp).1 rfl
  drains := ⟨s.backlog, drain s.backlog s rfl⟩
  slots := h.slots.slots

/-- In every run of careful steps, of any number of tasks, events are dispatched in order and
    exactly once, and no slot is given away before its event was dispatched. -/
theorem events_delivered {n : Nat} {s : Bus n} {acts : List (BusStep n)}
    (heach : Lib.EachStep busStep Careful {} acts) (hrun : Lib.run busStep {} acts = some s) :
    Delivered s :=
  (Lib.invariant_of_run (fun _ _ _ h hcareful hs => inv_step h hcareful hs) (inv_start n) heach
    hrun).delivered

/-- The door reports that it was opened, and that it was closed. -/
def opened : Ingest.Message where
  topic := "cp/v1/dev/door/event".toList
  payload := "\x7b\"event\":\"opened\"\x7d".toList
  nowMs := 10

def closed : Ingest.Message where
  topic := "cp/v1/dev/door/event".toList
  payload := "\x7b\"event\":\"closed\"\x7d".toList
  nowMs := 20

/-- A message is handled and its control event is posted. -/
def report (msg : Ingest.Message) : List (BusStep 1) :=
  .ingest 0 msg :: List.replicate 5 (.go 0 true)

/-- The actions of the control events that were dispatched, newest first. -/
def actions (s : Bus n) : List (List Char) :=
  s.dispatched.filterMap fun post => post.control.map fun control => control.event.actionId

/-- The task of the bus keeps up with the door. -/
def prompt : List (BusStep 1) :=
  report opened ++ List.replicate 3 .work ++ report closed ++ List.replicate 3 .work

theorem events_delivered_door :
    (Lib.run busStep {} prompt).map actions = some ["closed".toList, "opened".toList] ∧
    ∀ s, Lib.run busStep {} prompt = some s → Delivered s :=
  ⟨by decide +kernel, fun _ hrun => events_delivered (by decide +kernel) hrun⟩

/-- The task of the bus gets to run when the door was closed again. -/
def lagging : List (BusStep 1) :=
  report opened ++ report closed ++ List.replicate 6 .work

/-- Events are delivered in every run. -/
def AlwaysDelivered : Prop :=
  ∀ (n : Nat) (acts : List (BusStep n)) (s : Bus n), Lib.run busStep {} acts = some s → Delivered s

/-- The handlers learn that the door was closed, and then that it was opened. -/
theorem not_alwaysDelivered :
    (Lib.run busStep {} lagging).map actions = some ["opened".toList, "closed".toList] ∧
    ¬AlwaysDelivered := by
  refine ⟨by decide +kernel, fun h => ?_⟩
  have hpair : ((Lib.run busStep {} lagging).map fun s =>
      decide (s.dispatched.Pairwise fun later earlier => ¬MustPrecede later earlier)) =
        some false := by
    decide +kernel
  cases hrun : Lib.run busStep {} lagging with
  | none =>
    rw [hrun] at hpair
    cases hpair
  | some s =>
    rw [hrun] at hpair
    exact of_decide_eq_false (Option.some.inj hpair) (h 1 lagging s hrun).order

end Bus

end SceneHub.Hub
