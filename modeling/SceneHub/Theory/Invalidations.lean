import Mathlib.Data.Nat.Basic
import Mathlib.Order.Basic
import SceneHub.Hub.StateNotify

/-!
# Lost Invalidations

Whether every change of a room's session or of a device, and every invalidation that is asked
for, is broadcast, over every interleaving of changes, calls and the watcher.

A change is found when the generations differ from those of the last time. That sets the bit
of its slice, and the bit is sent as an invalidation without a target unless an invalidation
of the slice is pending that was asked for. The watcher asks for one with the id that changed
last. So if two rooms change before the watcher has passed the first one on, the id of the
second takes the place of the bit, and the first is lost. An invalidation that is asked for is
lost if eight others are pending.

Nothing is lost if, whenever a bit is taken off, the pending invalidations cover what has
changed, and if there is room for what is asked for.

## Main definitions

* `Careful`: The steps in which nothing is lost.
* `UnderWay`: How what is not covered yet will be broadcast.
* `Announced`: What is promised of the broadcasts.
* `Inv`: What holds of the pending invalidations.

## Theorems

* `underWay_commit`: A call under the state mutex forgets nothing.
* `inv_step`: A careful step keeps the invariant.
* `pass_alone`: What the watcher does when nobody else does anything.
* `changes_announced`: The broadcasts over every run of careful steps.
-/

namespace SceneHub.Hub

open Function (update update_self update_of_ne)

variable {pending renewed : List Item} {need : Need} {p : Item}

/-- What a call was asked for and has not put into the queue yet. -/
def Call.item : Call → Option Item
  | .reading item _ _ _ => item
  | .waiting item _ _ => item
  | .holding item _ _ => item
  | _ => none

def Call.messages : Call → List Broadcast
  | .sending left => left
  | _ => []

def Call.got : Call → Option Reading
  | .reading _ _ _ got => some got
  | .waiting _ _ got => some got
  | .holding _ _ got => some got
  | _ => none

/-- A change of a source that is among those a call has found. -/
def Need.found (src : Runtime) (got : Reading) : Need → Bool
  | .change other number _ => other = src && number ≤ got.changes src.source
  | .request _ _ => false

/-- The sources whose changes must not be lost. -/
def Runtime.all : List Runtime := [.ingest, .session]

theorem Runtime.mem_all (src : Runtime) : src ∈ Runtime.all := by
  cases src <;> decide

namespace Notifier

variable {s s' : Notifier} {task : Nat} {item : Option Item} {now : UInt32} {got : Reading}

/-! ### What is asked of the steps -/

/-- What is asked for has room among the pending invalidations, and its target is not cut. -/
def Fits (s : Notifier) (item : Option Item) : Prop :=
  ∀ p ∈ item, p.target.length < targetIdMaxLen ∧
    ((renew p s.pending).isSome = true ∨ s.pending.length < maxPendingExplicit)

/-- A generation that is the last one is not another one that has come round. -/
def Unmistaken (s : Notifier) (got : Reading) : Prop :=
  ∀ src ∈ Runtime.all, s.lastVersions.generation src.source = got.generation src.source →
    got.changes src.source ≤ s.lastVersions.changes src.source

/-- If the bit of a slice is taken off because of an invalidation that is pending, the pending
    ones cover all changes that were found. -/
def Masked (s : Notifier) (item : Option Item) (got : Reading) : Prop :=
  ∀ src ∈ Runtime.all, explicitMask (queueExplicit s.pending item) src.slice = true →
    ∀ need ∈ Open s.log, need.found src got = true →
      ∃ p ∈ queueExplicit s.pending item, covers (explicitBroadcast p) need = true

instance (s : Notifier) (item : Option Item) : Decidable (Fits s item) :=
  inferInstanceAs (Decidable (∀ p ∈ item, _ ∧ _))

instance (s : Notifier) (got : Reading) : Decidable (Unmistaken s got) :=
  inferInstanceAs (Decidable (∀ src ∈ Runtime.all, _ → _))

instance (s : Notifier) (item : Option Item) (got : Reading) : Decidable (Masked s item got) :=
  inferInstanceAs (Decidable (∀ src ∈ Runtime.all, _ → ∀ need ∈ Open s.log, _ → _))

/-- A call that is about to do its work under the state mutex. -/
def atWork (s : Notifier) (task : Nat) : Option (Option Item × UInt32 × Reading) :=
  match s.calls task with
  | .holding item now got => some (item, now, got)
  | _ => none

/-- There is room for what is asked for, no generation comes round, and no bit is taken off for
    invalidations that do not cover what has changed. -/
def Careful (s : Notifier) : NotifyStep → Prop
  | .go task => ∀ work ∈ s.atWork task, Fits s work.1 ∧ Unmistaken s work.2.2 ∧
      (s.throttled work.2.1 = false → Masked s work.1 work.2.2)
  | .watch _ => Unmistaken s { generation := s.generation, changes := s.changes }
  | _ => True

instance (s : Notifier) : (act : NotifyStep) → Decidable (Careful s act)
  | .go task => inferInstanceAs (Decidable (∀ work ∈ s.atWork task, _ ∧ _ ∧ (_ → _)))
  | .watch _ => inferInstanceAs (Decidable (Unmistaken s _))
  | .change _ _ => inferInstanceAs (Decidable True)
  | .reset _ => inferInstanceAs (Decidable True)
  | .changeCatalog _ => inferInstanceAs (Decidable True)
  | .notify _ _ _ => inferInstanceAs (Decidable True)

/-! ### What is under way -/

/-- A task is about to send a message that covers a need. -/
def Outgoing (s : Notifier) (need : Need) : Prop :=
  ∃ task, ∃ message ∈ (s.calls task).messages, covers message need = true

/-- How what is not covered yet will be broadcast: the change was not found yet or its bit is
    set, what is asked for has not been put into the queue yet or is in it, or the message is
    about to be sent. -/
def UnderWay (s : Notifier) : Need → Prop
  | .change src number target =>
    s.lastVersions.changes src.source < number ∨ s.pendingMask src.slice = true ∨
      Outgoing s (.change src number target)
  | .request slice target =>
    (∃ task, ∃ p ∈ (s.calls task).item, p.slice = slice ∧ p.target = target) ∨
      (∃ p ∈ s.pending, p.slice = slice ∧ p.target = target) ∨
        Outgoing s (.request slice target)

/-- No call is made, nothing is pending, and the last call has found all changes. -/
structure Quiet (s : Notifier) : Prop where
  calls : ∀ task, s.calls task = .idle
  pending : s.broadcastPending = false
  found : ∀ src : Runtime, s.changes src.source ≤ s.lastVersions.changes src.source

/-- Steps of the watcher at a time. -/
def Watching (now : UInt32) (acts : List NotifyStep) : Prop :=
  ∀ act ∈ acts, act = .watch now ∨ act = .go 0

/-- Whatever has changed or was asked for is covered by a message or under way, and it is covered
    when all is quiet. The watcher gets there by itself: it goes through its loop, and again when
    the interval has passed. -/
structure Announced (s : Notifier) : Prop where
  kept : ∀ need ∈ Open s.log, UnderWay s need
  covered : Quiet s → Open s.log = []
  settles : (∀ task, s.calls task = .idle) → s.watcher = .start → ∀ now, ∃ acts s',
    Watching now acts ∧ Lib.run notifyStep s acts = some s' ∧
      ∀ later, s'.throttled later = false → ∃ more s'', Watching later more ∧
        Lib.run notifyStep s (acts ++ more) = some s'' ∧
          (Lib.EachStep notifyStep Careful s (acts ++ more) → Open s''.log = [])

/-- What holds of the pending invalidations and of the calls. -/
structure Inv (s : Notifier) : Prop where
  kept : ∀ need ∈ Open s.log, UnderWay s need
  number : ∀ src number target, .change src number target ∈ Open s.log →
    number ≤ s.changes src.source
  versions : ∀ src, s.lastVersions.changes src ≤ s.changes src
  got : ∀ task, ∀ got ∈ (s.calls task).got, ∀ src, got.changes src ≤ s.changes src
  last : ∀ src, s.lastGeneration src = s.lastVersions.generation src.source
  empty : s.broadcastPending = false →
    s.pending = [] ∧ ∀ src : Runtime, s.pendingMask src.slice = false
  mutex : ∀ task, s.mutex = some task → s.calls task ≠ .idle

/-! ### Invalidations that were asked for -/

theorem renew_mem {p q : Item} (h : renew p pending = some renewed) (hq : q ∈ pending) :
    ∃ r ∈ renewed, r.slice = q.slice ∧ r.target = q.target := by
  induction pending generalizing renewed with
  | nil => cases h
  | cons first rest ih =>
    unfold renew at h
    by_cases hsame : first.slice = p.slice ∧ first.target = p.target
    · rw [if_pos hsame] at h
      cases h
      rcases List.mem_cons.1 hq with rfl | hq
      · exact ⟨_, .head _, rfl, rfl⟩
      · exact ⟨q, .tail _ hq, rfl, rfl⟩
    rw [if_neg hsame] at h
    rcases Option.map_eq_some_iff.1 h with ⟨tail, htail, rfl⟩
    rcases List.mem_cons.1 hq with rfl | hq
    · exact ⟨q, .head _, rfl, rfl⟩
    · rcases ih htail hq with ⟨r, hr, hsame⟩
      exact ⟨r, .tail _ hr, hsame⟩

theorem renew_self (h : renew p pending = some renewed) :
    ∃ r ∈ renewed, r.slice = p.slice ∧ r.target = p.target := by
  induction pending generalizing renewed with
  | nil => cases h
  | cons first rest ih =>
    unfold renew at h
    by_cases hsame : first.slice = p.slice ∧ first.target = p.target
    · rw [if_pos hsame] at h
      cases h
      exact ⟨_, .head _, hsame⟩
    rw [if_neg hsame] at h
    rcases Option.map_eq_some_iff.1 h with ⟨tail, htail, rfl⟩
    rcases ih htail with ⟨r, hr, hsame⟩
    exact ⟨r, .tail _ hr, hsame⟩

theorem queueExplicit_renew (h : renew p pending = some renewed) :
    queueExplicit pending (some p) = renewed := by
  dsimp only [queueExplicit]
  rw [h]

theorem queueExplicit_full (h : renew p pending = none)
    (hfull : maxPendingExplicit ≤ pending.length) : queueExplicit pending (some p) = pending := by
  dsimp only [queueExplicit]
  rw [h]
  exact if_pos hfull

theorem queueExplicit_room (h : renew p pending = none)
    (hroom : ¬maxPendingExplicit ≤ pending.length) : queueExplicit pending (some p) = pending ++
      [{ slice := p.slice
         target := copyText targetIdMaxLen p.target
         reason := copyText reasonMaxLen p.reason }] := by
  dsimp only [queueExplicit]
  rw [h]
  exact if_neg hroom

theorem queueExplicit_mem {q : Item} (item : Option Item) (hq : q ∈ pending) :
    ∃ r ∈ queueExplicit pending item, r.slice = q.slice ∧ r.target = q.target := by
  cases item with
  | none => exact ⟨q, hq, rfl, rfl⟩
  | some p =>
    cases hrenew : renew p pending with
    | some renewed =>
      rw [queueExplicit_renew hrenew]
      exact renew_mem hrenew hq
    | none =>
      by_cases hfull : maxPendingExplicit ≤ pending.length
      · rw [queueExplicit_full hrenew hfull]
        exact ⟨q, hq, rfl, rfl⟩
      · rw [queueExplicit_room hrenew hfull]
        exact ⟨q, List.mem_append_left _ hq, rfl, rfl⟩

theorem queueExplicit_self (hfits : Fits s (some p)) :
    ∃ r ∈ queueExplicit s.pending (some p), r.slice = p.slice ∧ r.target = p.target := by
  rcases hfits p rfl with ⟨hlength, hroom⟩
  cases hrenew : renew p s.pending with
  | some renewed =>
    rw [queueExplicit_renew hrenew]
    exact renew_self hrenew
  | none =>
    rw [hrenew] at hroom
    have hlt := hroom.resolve_left (by decide)
    rw [queueExplicit_room hrenew (by omega)]
    have hle : p.target.length ≤ targetIdMaxLen - 1 := by omega
    exact ⟨_, List.mem_append_right _ List.mem_cons_self, rfl, List.take_of_length_le hle⟩

theorem queueExplicit_ne_nil (pending : List Item) (p : Item) :
    queueExplicit pending (some p) ≠ [] := by
  cases hrenew : renew p pending with
  | some renewed =>
    rw [queueExplicit_renew hrenew]
    rcases renew_self hrenew with ⟨r, hr, -⟩
    exact List.ne_nil_of_mem hr
  | none =>
    by_cases hfull : maxPendingExplicit ≤ pending.length
    · rw [queueExplicit_full hrenew hfull]
      intro hnil
      rw [hnil] at hfull
      exact absurd hfull (by decide)
    · rw [queueExplicit_room hrenew hfull]
      exact List.append_ne_nil_of_right_ne_nil _ (List.cons_ne_nil _ _)

theorem covers_explicit (hslice : p.slice = need.slice) (htarget : p.target = need.target) :
    covers (explicitBroadcast p) need = true := by
  unfold explicitBroadcast
  split
  · rfl
  · simp [covers, hslice, htarget]

/-! ### The work under the state mutex -/

/-- The slices that have changed. -/
def changeMask (s : Notifier) (got : Reading) : Mask :=
  collectChangeMask s.lastVersions.generation got.generation

/-- What is asked for is pending. -/
def asked (s : Notifier) (item : Option Item) (got : Reading) : Notifier :=
  { s with
    pending := queueExplicit s.pending item
    lastGeneration := fun src => got.generation src.source }

/-- What has changed is found. -/
def found (s : Notifier) (item : Option Item) (got : Reading) : Notifier :=
  { s.asked item got with
    lastVersions := got
    pendingMask := fun bit => s.pendingMask bit || s.changeMask got bit }

/-- Nothing is pending any more. -/
def flushed (s : Notifier) (item : Option Item) (now : UInt32) (got : Reading) : Notifier :=
  { s.found item got with
    wsGeneration := s.wsGeneration + 1
    lastBroadcastAt := now
    broadcastPending := false
    pending := []
    pendingMask := fun _ => false }

/-- What is sent when all that is pending is. -/
def messages (s : Notifier) (item : Option Item) (got : Reading) : List Broadcast :=
  .versions (s.wsGeneration + 1) got.generation ::
    ((queueExplicit s.pending item).map explicitBroadcast ++
      coarseBroadcasts fun bit => (s.pendingMask bit || s.changeMask got bit) &&
        !explicitMask (queueExplicit s.pending item) bit)

theorem commit_eq (s : Notifier) (item : Option Item) (now : UInt32) (got : Reading) :
    s.commit item now got =
      if (s.asked item got).nothing (s.changeMask got) then (s.asked item got, [])
      else if s.throttled now then ({ s.found item got with broadcastPending := true }, [])
      else (s.flushed item now got, s.messages item got) :=
  rfl

theorem slice_mem_all (src : Runtime) : src.slice ∈ Slice.all := by
  cases src <;> decide

/-- The bit of a source is set exactly if its generation is another one. -/
theorem changeMask_slice (s : Notifier) (got : Reading) (src : Runtime) :
    s.changeMask got src.slice = true ↔
      s.lastVersions.generation src.source ≠ got.generation src.source := by
  cases src <;> simp [changeMask, collectChangeMask, Runtime.slice, Runtime.source]

theorem nothing_spec (h : (s.asked item got).nothing (s.changeMask got) = true) :
    queueExplicit s.pending item = [] ∧ s.broadcastPending = false ∧ ∀ src : Runtime,
      s.lastVersions.generation src.source = got.generation src.source := by
  unfold nothing at h
  simp only [Bool.and_eq_true, List.all_eq_true, Bool.not_eq_true', asked,
    List.isEmpty_iff] at h
  rcases h with ⟨⟨⟨hchange, hpending⟩, -⟩, hqueue⟩
  refine ⟨hqueue, hpending, fun src => ?_⟩
  by_cases hsame : s.lastVersions.generation src.source = got.generation src.source
  · exact hsame
  have hbit := (changeMask_slice s got src).2 hsame
  rw [hchange src.slice (slice_mem_all src)] at hbit
  cases hbit

/-- The bit of a slice that is not taken off is sent, and covers every change of the source. -/
theorem coarse_covers (mask : Mask) (src : Runtime) (h : mask src.slice = true) (number : Nat)
    (target : List Char) :
    ∃ message ∈ coarseBroadcasts mask, covers message (.change src number target) = true := by
  have hentry : ∃ reason, (src.slice, reason) ∈ coarseSlices := by
    cases src with
    | ingest => exact ⟨"device_runtime_changed".toList, by simp [coarseSlices, Runtime.slice]⟩
    | session => exact ⟨"room_runtime_changed".toList, by simp [coarseSlices, Runtime.slice]⟩
  rcases hentry with ⟨reason, hentry⟩
  refine ⟨.invalidation src.slice [] .global reason, ?_, ?_⟩
  · exact List.mem_map.2 ⟨(src.slice, reason), List.mem_filter.2 ⟨hentry, h⟩, rfl⟩
  · simp [covers, Need.slice]

theorem messages_change (hmasked : Masked s item got) {src : Runtime} {number : Nat}
    {target : List Char} (hopen : .change src number target ∈ Open s.log)
    (hfound : number ≤ got.changes src.source)
    (hbit : s.pendingMask src.slice = true ∨ s.changeMask got src.slice = true) :
    ∃ message ∈ s.messages item got, covers message (.change src number target) = true := by
  by_cases hmask : explicitMask (queueExplicit s.pending item) src.slice = true
  · -- The bit is taken off, and the pending invalidations stand in for it.
    rcases hmasked src src.mem_all hmask _ hopen (by simp [Need.found, hfound]) with
      ⟨p, hp, hcovers⟩
    refine ⟨_, ?_, hcovers⟩
    exact .tail _ (List.mem_append_left _ (List.mem_map_of_mem hp))
  · rcases coarse_covers (fun bit => (s.pendingMask bit || s.changeMask got bit) &&
        !explicitMask (queueExplicit s.pending item) bit) src
      (by simp [hmask, hbit]) number target with ⟨message, hmessage, hcovers⟩
    exact ⟨message, .tail _ (List.mem_append_right _ hmessage), hcovers⟩

theorem messages_request (hp : p ∈ queueExplicit s.pending item) (hslice : p.slice = need.slice)
    (htarget : p.target = need.target) :
    ∃ message ∈ s.messages item got, covers message need = true :=
  ⟨_, .tail _ (List.mem_append_left _ (List.mem_map_of_mem hp)),
    covers_explicit hslice htarget⟩

@[simp] theorem setCall_self (s : Notifier) (task : Nat) (call : Call) :
    (s.setCall task call).calls task = call :=
  update_self _ _ _

theorem setCall_of_ne (s : Notifier) {task other : Nat} (h : other ≠ task) (call : Call) :
    (s.setCall task call).calls other = s.calls other :=
  update_of_ne h _ _

/-- What another task is about to send is not affected by a task that sends nothing yet. -/
theorem Outgoing.setCall (h : Outgoing s need) (hcalls : s'.calls = s.calls)
    (hnone : (s.calls task).messages = []) (call : Call) :
    Outgoing (s'.setCall task call) need := by
  rcases h with ⟨other, message, hmessage, hcovers⟩
  have hne : other ≠ task := by
    rintro rfl
    rw [hnone] at hmessage
    cases hmessage
  refine ⟨other, message, ?_, hcovers⟩
  rw [setCall_of_ne s' hne, hcalls]
  exact hmessage

theorem Outgoing.of_messages {messages : List Broadcast}
    (h : ∃ message ∈ messages, covers message need = true) :
    Outgoing (s.setCall task (.sending messages)) need := by
  rcases h with ⟨message, hmessage, hcovers⟩
  refine ⟨task, message, ?_, hcovers⟩
  rw [setCall_self]
  exact hmessage

/-- What is asked for is with another call, among the pending invalidations once the call has put
    its own there, or about to be sent. -/
theorem request_cases (hcall : s.calls task = .holding item now got) (hfits : Fits s item)
    {slice : Slice} {target : List Char} (hway : UnderWay s (.request slice target)) :
    (∃ other, other ≠ task ∧ ∃ p ∈ (s.calls other).item, p.slice = slice ∧ p.target = target) ∨
      (∃ r ∈ queueExplicit s.pending item, r.slice = slice ∧ r.target = target) ∨
        Outgoing s (.request slice target) := by
  rcases hway with ⟨other, p, hp, hslice, htarget⟩ | ⟨p, hp, hslice, htarget⟩ | hout
  · by_cases hother : other = task
    · rw [hother, hcall] at hp
      have hitem : item = some p := hp
      rw [hitem] at hfits ⊢
      rcases queueExplicit_self hfits with ⟨r, hr, hslice', htarget'⟩
      exact .inr (.inl ⟨r, hr, hslice'.trans hslice, htarget'.trans htarget⟩)
    · exact .inl ⟨other, hother, p, hp, hslice, htarget⟩
  · rcases queueExplicit_mem item hp with ⟨r, hr, hslice', htarget'⟩
    exact .inr (.inl ⟨r, hr, hslice'.trans hslice, htarget'.trans htarget⟩)
  · exact .inr (.inr hout)

theorem underWay_of_other {slice : Slice} {target : List Char} (hcalls : s'.calls = s.calls)
    (h : ∃ other, other ≠ task ∧ ∃ p ∈ (s.calls other).item, p.slice = slice ∧ p.target = target)
    (call : Call) : UnderWay (s'.setCall task call) (.request slice target) := by
  rcases h with ⟨other, hother, hp⟩
  refine .inl ⟨other, ?_⟩
  rw [setCall_of_ne s' hother, hcalls]
  exact hp

theorem underWay_commit (hcall : s.calls task = .holding item now got) (hfits : Fits s item)
    (hun : Unmistaken s got) (hmasked : s.throttled now = false → Masked s item got)
    (hopen : need ∈ Open s.log) (hway : UnderWay s need) : UnderWay
      ((s.commit item now got).1.setCall task (.sending (s.commit item now got).2)) need := by
  have hnone : (s.calls task).messages = [] := by rw [hcall]; rfl
  rw [commit_eq]
  by_cases hnothing : (s.asked item got).nothing (s.changeMask got) = true
  · rw [if_pos hnothing]
    rcases nothing_spec hnothing with ⟨hqueue, -, -⟩
    cases need with
    | change src number target =>
      rcases hway with hlater | hmask | hout
      · exact .inl hlater
      · exact .inr (.inl hmask)
      · exact .inr (.inr (hout.setCall rfl hnone _))
    | request slice target =>
      rcases request_cases hcall hfits hway with hother | ⟨r, hr, -⟩ | hout
      · exact underWay_of_other (by rfl) hother _
      · rw [hqueue] at hr
        cases hr
      · exact .inr (.inr (hout.setCall rfl hnone _))
  rw [if_neg hnothing]
  by_cases hthrottled : s.throttled now = true
  · rw [if_pos hthrottled]
    cases need with
    | change src number target =>
      rcases hway with hlater | hmask | hout
      · by_cases hfound : got.changes src.source < number
        · exact .inl hfound
        -- The change was found, so its generation is another one and its bit is set.
        refine .inr (.inl ?_)
        have hbit : s.changeMask got src.slice = true := by
          refine (changeMask_slice s got src).2 fun hsame => ?_
          have := hun src src.mem_all hsame
          omega
        simp [found, setCall, hbit]
      · refine .inr (.inl ?_)
        simp [found, setCall, hmask]
      · exact .inr (.inr (hout.setCall rfl hnone _))
    | request slice target =>
      rcases request_cases hcall hfits hway with hother | hpending | hout
      · exact underWay_of_other (by rfl) hother _
      · exact .inr (.inl hpending)
      · exact .inr (.inr (hout.setCall rfl hnone _))
  · rw [if_neg hthrottled]
    have hall := hmasked (by simpa using hthrottled)
    cases need with
    | change src number target =>
      by_cases hfound : got.changes src.source < number
      · exact .inl hfound
      refine .inr (.inr ?_)
      rcases hway with hlater | hmask | hout
      · have hbit : s.changeMask got src.slice = true := by
          refine (changeMask_slice s got src).2 fun hsame => ?_
          have := hun src src.mem_all hsame
          omega
        exact .of_messages (messages_change hall hopen (by omega) (.inr hbit))
      · exact .of_messages (messages_change hall hopen (by omega) (.inl hmask))
      · exact hout.setCall rfl hnone _
    | request slice target =>
      rcases request_cases hcall hfits hway with hother | ⟨r, hr, hslice, htarget⟩ | hout
      · exact underWay_of_other (by rfl) hother _
      · exact .inr (.inr (.of_messages (messages_request hr hslice htarget)))
      · exact .inr (.inr (hout.setCall rfl hnone _))

/-! ### Steps of a call -/

/-- A step of a call that does not come to the state mutex. -/
structure Frame (s s' : Notifier) : Prop where
  generation : s'.generation = s.generation
  changes : s'.changes = s.changes
  lastVersions : s'.lastVersions = s.lastVersions
  lastGeneration : s'.lastGeneration = s.lastGeneration
  pendingMask : s'.pendingMask = s.pendingMask
  pending : s'.pending = s.pending
  broadcastPending : s'.broadcastPending = s.broadcastPending

theorem UnderWay.of_frame (h : UnderWay s need) (hf : Frame s s')
    (hitem : ∀ u, ∀ p ∈ (s.calls u).item, p ∈ (s'.calls u).item)
    (hmessages : ∀ u, ∀ message ∈ (s.calls u).messages, covers message need = true →
      message ∈ (s'.calls u).messages) : UnderWay s' need := by
  have hout : Outgoing s need → Outgoing s' need := by
    rintro ⟨u, message, hmessage, hcovers⟩
    exact ⟨u, message, hmessages u message hmessage hcovers, hcovers⟩
  cases need with
  | change src number target =>
    unfold UnderWay at h ⊢
    rw [hf.lastVersions, hf.pendingMask]
    exact h.imp_right (Or.imp_right hout)
  | request slice target =>
    unfold UnderWay at h ⊢
    rw [hf.pending]
    refine h.imp ?_ (Or.imp_right hout)
    rintro ⟨u, p, hp, hsame⟩
    exact ⟨u, p, hitem u p hp, hsame⟩

theorem Inv.of_frame (h : Inv s) (hf : Frame s s') (hkept : ∀ need ∈ Open s'.log, UnderWay s' need)
    (hnumber : ∀ src number target, .change src number target ∈ Open s'.log →
      .change src number target ∈ Open s.log)
    (hgot : ∀ task, ∀ got ∈ (s'.calls task).got, ∀ src, got.changes src ≤ s.changes src)
    (hmutex : ∀ task, s'.mutex = some task → s'.calls task ≠ .idle) : Inv s' where
  kept := hkept
  number src number target hopen := by
    rw [hf.changes]
    exact h.number src number target (hnumber src number target hopen)
  versions := by
    rw [hf.lastVersions, hf.changes]
    exact h.versions
  got := by
    rw [hf.changes]
    exact hgot
  last := by
    rw [hf.lastGeneration, hf.lastVersions]
    exact h.last
  empty := by
    rw [hf.broadcastPending, hf.pending, hf.pendingMask]
    exact h.empty
  mutex := hmutex

theorem Inv.of_call (h : Inv s) {call : Call} (hf : Frame s s')
    (hcalls : s'.calls = update s.calls task call) (hlog : s'.log = s.log)
    (hitem : call.item = (s.calls task).item) (hmessages : call.messages = (s.calls task).messages)
    (hgot : ∀ got ∈ call.got, ∀ src, got.changes src ≤ s.changes src)
    (hmutex : ∀ u, s'.mutex = some u → s'.calls u ≠ .idle) : Inv s' := by
  have hother : ∀ u, u ≠ task → s'.calls u = s.calls u := by
    intro u hu
    rw [hcalls, update_of_ne hu]
  have hself : s'.calls task = call := by
    rw [hcalls, update_self]
  refine h.of_frame hf ?_ ?_ ?_ hmutex
  · intro need hopen
    rw [hlog] at hopen
    apply (h.kept need hopen).of_frame hf
    · intro u p hp
      by_cases hu : u = task
      · rw [hu] at hp ⊢
        rw [hself, hitem]
        exact hp
      · rw [hother u hu]
        exact hp
    intro u message hmessage _
    by_cases hu : u = task
    · rw [hu] at hmessage ⊢
      rw [hself, hmessages]
      exact hmessage
    · rw [hother u hu]
      exact hmessage
  · rw [hlog]
    exact fun _ _ _ hopen => hopen
  · intro u got hu
    by_cases hut : u = task
    · rw [hut, hself] at hu
      exact hgot got hu
    · rw [hother u hut] at hu
      exact h.got u got hu

theorem mutex_setCall (h : Inv s) {call : Call} (hidle : call ≠ .idle) (hmutex : s'.mutex = s.mutex)
    (hcalls : s'.calls = update s.calls task call) :
    ∀ u, s'.mutex = some u → s'.calls u ≠ .idle := by
  intro u hu
  rw [hmutex] at hu
  rw [hcalls]
  by_cases hut : u = task
  · rw [hut, update_self]
    exact hidle
  · rw [update_of_ne hut]
    exact h.mutex u hu

theorem readGeneration_le {src : Source} (hgot : ∀ src, got.changes src ≤ s.changes src)
    (other : Source) : (s.readGeneration src got).changes other ≤ s.changes other := by
  dsimp only [readGeneration]
  by_cases hother : other = src
  · rw [hother, update_self]
  · rw [update_of_ne hother]
    exact hgot other

section

variable (h : Inv s)
include h

theorem inv_send {message : Broadcast} {left : List Broadcast}
    (hcall : s.calls task = .sending (message :: left)) :
    Inv { s.setCall task (.sending left) with log := .sent message :: s.log } := by
  refine h.of_frame ⟨rfl, rfl, rfl, rfl, rfl, rfl, rfl⟩ ?_ ?_ ?_ ?_
  · intro need hopen
    rcases List.mem_filter.1 hopen with ⟨hopen, huncovered⟩
    refine (h.kept need hopen).of_frame ?_ ?_ ?_
    · exact ⟨rfl, rfl, rfl, rfl, rfl, rfl, rfl⟩
    · intro u p hp
      by_cases hu : u = task
      · rw [hu, hcall] at hp
        cases hp
      · exact (setCall_of_ne s hu _).symm ▸ hp
    intro u other hother hcovers
    by_cases hu : u = task
    · rw [hu] at hother ⊢
      rw [hcall] at hother
      rw [setCall_self]
      refine (List.mem_cons.1 hother).resolve_left ?_
      rintro rfl
      rw [hcovers] at huncovered
      cases huncovered
    · exact (setCall_of_ne s hu _).symm ▸ hother
  · intro src number target hopen
    exact (List.mem_filter.1 hopen).1
  · intro u got hu
    by_cases hut : u = task
    · rw [hut] at hu
      rw [setCall_self] at hu
      cases hu
    · exact h.got u got ((setCall_of_ne s hut _) ▸ hu)
  · exact mutex_setCall h (by simp) rfl rfl

theorem inv_call (hcall : s.calls task = .idle) (item : Option Item) (now : UInt32) :
    Inv (s.call task item now) := by
  have hself : (s.call task item now).calls task = .reading item now versionsOrder {} :=
    setCall_self _ _ _
  have hother : ∀ u, u ≠ task → (s.call task item now).calls u = s.calls u :=
    fun u hu => setCall_of_ne s hu _
  have hf : Frame s (s.call task item now) := ⟨rfl, rfl, rfl, rfl, rfl, rfl, rfl⟩
  have hold : ∀ need ∈ Open s.log, UnderWay (s.call task item now) need := by
    intro need hopen
    apply (h.kept need hopen).of_frame hf
    · intro u p hp
      by_cases hu : u = task
      · rw [hu, hcall] at hp
        cases hp
      · rw [hother u hu]
        exact hp
    intro u message hmessage _
    by_cases hu : u = task
    · rw [hu, hcall] at hmessage
      cases hmessage
    · rw [hother u hu]
      exact hmessage
  refine h.of_frame hf ?_ ?_ ?_ ?_
  · cases item with
    | none => exact hold
    | some p =>
      intro need hopen
      rcases List.mem_cons.1 hopen with rfl | hopen
      · refine .inl ⟨task, p, ?_, rfl, rfl⟩
        rw [hself]
        rfl
      · exact hold need hopen
  · intro src number target hopen
    cases item with
    | none => exact hopen
    | some p => exact (List.mem_cons.1 hopen).resolve_left nofun
  · intro u got hu
    by_cases hut : u = task
    · rw [hut, hself] at hu
      cases hu
      exact fun _ => Nat.zero_le _
    · rw [hother u hut] at hu
      exact h.got u got hu
  · exact mutex_setCall h (by simp) rfl rfl

theorem inv_commit (hcall : s.calls task = .holding item now got)
    (hfits : Fits s item) (hun : Unmistaken s got)
    (hmasked : s.throttled now = false → Masked s item got) :
    Inv ((s.commit item now got).1.setCall task (.sending (s.commit item now got).2)) := by
  have hkept := fun need hopen => underWay_commit hcall hfits hun hmasked hopen (h.kept need hopen)
  have hle : ∀ src, got.changes src ≤ s.changes src := by
    apply h.got task got
    rw [hcall]
    rfl
  have hgot : ∀ call : Call, call.got = none → ∀ u, ∀ old ∈ ((s.setCall task call).calls u).got,
      ∀ src, old.changes src ≤ s.changes src := by
    intro call hnone u old hu
    by_cases hut : u = task
    · rw [hut, setCall_self, hnone] at hu
      cases hu
    · rw [setCall_of_ne s hut] at hu
      exact h.got u old hu
  rw [commit_eq] at hkept ⊢
  by_cases hnothing : (s.asked item got).nothing (s.changeMask got) = true
  · rw [if_pos hnothing] at hkept ⊢
    rcases nothing_spec hnothing with ⟨hqueue, hpending, hsame⟩
    refine ⟨hkept, h.number, h.versions, hgot _ rfl, fun src => (hsame src).symm, fun _ => ?_, ?_⟩
    · exact ⟨hqueue, (h.empty hpending).2⟩
    · exact mutex_setCall h (by simp) rfl rfl
  rw [if_neg hnothing] at hkept ⊢
  by_cases hthrottled : s.throttled now = true
  · rw [if_pos hthrottled] at hkept ⊢
    refine ⟨hkept, h.number, hle, hgot _ rfl, fun _ => rfl, fun hpending => ?_, ?_⟩
    · cases hpending
    · exact mutex_setCall h (by simp) rfl rfl
  · rw [if_neg hthrottled] at hkept ⊢
    refine ⟨hkept, h.number, hle, hgot _ rfl, fun _ => rfl, fun _ => ⟨rfl, fun _ => rfl⟩, ?_⟩
    exact mutex_setCall h (by simp) rfl rfl

theorem inv_go (hcareful : Careful s (.go task)) (hs : s.go task = some s') : Inv s' := by
  unfold go at hs
  cases hcall : s.calls task with
  | idle =>
    rw [hcall] at hs
    cases hs
  | reading item now left got =>
    rw [hcall] at hs
    have hgot := h.got task got (by rw [hcall]; rfl)
    cases left with
    | cons src left =>
      cases hs
      refine h.of_call ⟨rfl, rfl, rfl, rfl, rfl, rfl, rfl⟩ rfl rfl ?_ ?_ ?_
        (mutex_setCall h (by simp) rfl rfl)
      · rw [hcall]
        rfl
      · rw [hcall]
        rfl
      · intro new hnew
        cases hnew
        exact readGeneration_le hgot
    | nil =>
      cases hs
      refine h.of_call ⟨rfl, rfl, rfl, rfl, rfl, rfl, rfl⟩ rfl rfl ?_ ?_ ?_
        (mutex_setCall h (by simp) rfl rfl)
      · rw [hcall]
        rfl
      · rw [hcall]
        rfl
      · intro new hnew
        cases hnew
        exact hgot
  | waiting item now got =>
    rw [hcall] at hs
    cases hmutex : s.mutex with
    | some other =>
      rw [hmutex] at hs
      cases hs
    | none =>
      rw [hmutex] at hs
      cases hs
      refine h.of_call ⟨rfl, rfl, rfl, rfl, rfl, rfl, rfl⟩ rfl rfl ?_ ?_ ?_ ?_
      · rw [hcall]
        rfl
      · rw [hcall]
        rfl
      · intro new hnew
        cases hnew
        exact h.got task got (by rw [hcall]; rfl)
      · intro u hu
        cases hu
        exact fun hidle => by
          rw [setCall_self] at hidle
          cases hidle
  | holding item now got =>
    rw [hcall] at hs
    cases hs
    rcases hcareful (item, now, got) (by unfold atWork; rw [hcall]; rfl) with
      ⟨hfits, hun, hmasked⟩
    exact inv_commit h hcall hfits hun hmasked
  | sending left =>
    rw [hcall] at hs
    cases left with
    | cons message left =>
      cases hs
      exact inv_send h hcall
    | nil =>
      cases hs
      refine h.of_call ⟨rfl, rfl, rfl, rfl, rfl, rfl, rfl⟩ rfl rfl ?_ ?_ ?_ ?_
      · rw [hcall]
        rfl
      · rw [hcall]
        rfl
      · nofun
      · nofun

/-! ### Changes, and the watcher -/

omit h in
theorem le_update (src other : Source) :
    s.changes other ≤ update s.changes src (s.changes src + 1) other := by
  by_cases hother : other = src
  · rw [hother, update_self]
    omega
  · rw [update_of_ne hother]

section

variable {generation : Source → UInt32} {lastChanged : Runtime → List Char}

/-- There are more changes, of which nobody has to be told. -/
theorem Inv.changed {changes : Source → Nat} (hle : ∀ src, s.changes src ≤ changes src) :
    Inv { s with generation, lastChanged, changes } := by
  refine ⟨?_, ?_, ?_, ?_, h.last, h.empty, h.mutex⟩
  · intro need hopen
    have hway := h.kept need hopen
    cases need with
    | change => exact hway
    | request => exact hway
  · exact fun other n target hopen => (h.number other n target hopen).trans (hle other.source)
  · exact fun other => (h.versions other).trans (hle other)
  · exact fun u got hu other => (h.got u got hu other).trans (hle other)

theorem inv_needs (src : Runtime) (targets : List (List Char)) {log : List NotifyEntry}
    (hlog : log = targets.map (fun target =>
      .needed (.change src (s.changes src.source + 1) target)) ++ s.log) :
    Inv { s with
      generation, lastChanged, log
      changes := update s.changes src.source (s.changes src.source + 1) } := by
  have hopen : Open log =
      targets.map (Need.change src (s.changes src.source + 1)) ++ Open s.log := by
    rw [hlog]
    clear hlog
    induction targets with
    | nil => rfl
    | cons target targets ih => exact congrArg (_ :: ·) ih
  rcases show Inv { s with generation, lastChanged, changes := _ } from
    h.changed (le_update src.source) with ⟨hkept, hnumber, hversions, hgot, hlast, hempty, hmutex⟩
  refine ⟨fun need hneed => ?_, fun other n target hneed => ?_, hversions, hgot, hlast, hempty,
    hmutex⟩
  · rw [hopen] at hneed
    rcases List.mem_append.1 hneed with hnew | hold
    · rcases List.mem_map.1 hnew with ⟨target, -, rfl⟩
      -- The change has a number that no call has found yet.
      exact .inl (Nat.lt_succ_of_le (h.versions src.source))
    · have hway := hkept need hold
      cases need with
      | change => exact hway
      | request => exact hway
  · rw [hopen] at hneed
    rcases List.mem_append.1 hneed with hnew | hold
    · rcases List.mem_map.1 hnew with ⟨target', -, heq⟩
      cases heq
      dsimp only
      rw [update_self]
    · exact hnumber other n target hold

end

theorem inv_change {src : Runtime} {ids : List Id} (hs : s.change src ids = some s') : Inv s' := by
  unfold change at hs
  split at hs
  · cases hs
  cases hs
  exact inv_needs h src (ids.map Subtype.val) (by rw [List.map_map]; rfl)

theorem inv_catalog {src : Source} (hs : s.changeCatalog src = some s') : Inv s' := by
  unfold changeCatalog at hs
  split at hs
  · cases hs
  · cases hs
  · cases hs
    exact h.changed (le_update src)

theorem Inv.withWatcher (watcher : Watcher) : Inv { s with watcher } := by
  refine ⟨?_, h.number, h.versions, h.got, h.last, h.empty, h.mutex⟩
  intro need hopen
  have hway := h.kept need hopen
  cases need with
  | change => exact hway
  | request => exact hway

theorem inv_watch (hs : s.watch now = some s') : Inv s' := by
  unfold watch at hs
  split at hs
  · rename_i hidle
    cases hs
    split
    · exact h.withWatcher _
    · exact h.withWatcher _
    · exact h.withWatcher _
    · exact (inv_call h hidle _ now).withWatcher _
    · exact (inv_call h hidle _ now).withWatcher _
    · exact (inv_call h hidle _ now).withWatcher _
    · exact h.withWatcher _
    · exact (inv_call h hidle _ now).withWatcher _
    · exact h.withWatcher _
  · cases hs

theorem inv_step {act : NotifyStep} (hcareful : Careful s act)
    (hs : notifyStep s act = some s') : Inv s' := by
  cases act with
  | change src ids => exact inv_change h hs
  | reset src =>
    cases hs
    exact inv_needs h src [[]] rfl
  | changeCatalog src => exact inv_catalog h hs
  | notify task item now =>
    unfold notifyStep at hs
    dsimp only at hs
    split at hs
    · rename_i hidle
      by_cases htask : task = 0
      · rw [if_pos htask] at hs
        cases hs
      rw [if_neg htask] at hs
      cases hs
      exact inv_call h hidle item now
    · cases hs
  | go task => exact inv_go h hcareful hs
  | watch now => exact inv_watch h hs

end

theorem inv_atStart (generation : Source → UInt32) : Inv (atStart generation) where
  kept _ hopen := nomatch hopen
  number _ _ _ hopen := nomatch hopen
  versions _ := le_rfl
  got _ _ hgot := by cases hgot
  last _ := rfl
  empty _ := ⟨rfl, fun _ => rfl⟩
  mutex _ hmutex := by cases hmutex

/-! ### When all is quiet -/

theorem open_of_quiet (h : Inv s) (hquiet : Quiet s) : Open s.log = [] := by
  have hnothing : ∀ need, ¬Outgoing s need := by
    rintro need ⟨task, message, hmessage, -⟩
    rw [hquiet.calls task] at hmessage
    cases hmessage
  rcases h.empty hquiet.pending with ⟨hpending, hmask⟩
  refine List.eq_nil_iff_forall_not_mem.2 fun need hopen => ?_
  have hway := h.kept need hopen
  cases need with
  | change src number target =>
    rcases hway with hlater | hbit | hout
    · have hnumber := h.number src number target hopen
      have hfound := hquiet.found src
      omega
    · rw [hmask src] at hbit
      cases hbit
    · exact hnothing _ hout
  | request slice target =>
    rcases hway with ⟨task, p, hp, -⟩ | ⟨p, hp, -⟩ | hout
    · rw [hquiet.calls task] at hp
      cases hp
    · rw [hpending] at hp
      cases hp
    · exact hnothing _ hout

/-! ### The watcher alone -/

/-- The generations behind a list of sources that are read. -/
def readAll (s : Notifier) : List Source → Reading → Reading
  | [], got => got
  | src :: left, got => readAll s left (s.readGeneration src got)

theorem setCall_setCall (s : Notifier) (task : Nat) (call other : Call) :
    (s.setCall task call).setCall task other = s.setCall task other := by
  unfold setCall
  rw [Function.update_idem]

theorem reading_run {left : List Source} (hcall : s.calls task = .reading item now left got) :
    Lib.run notifyStep s (List.replicate left.length (.go task)) =
      some (s.setCall task (.reading item now [] (s.readAll left got))) := by
  induction left generalizing s got with
  | nil =>
    have hsame : s.setCall task (.reading item now [] got) = s := by
      unfold setCall
      rw [← hcall, Function.update_eq_self]
    rw [readAll, hsame]
    rfl
  | cons src left ih =>
    have hstep : notifyStep s (.go task) =
        some (s.setCall task (.reading item now left (s.readGeneration src got))) := by
      dsimp only [notifyStep, go]
      rw [hcall]
    rw [List.length_cons, List.replicate_succ, Lib.run_cons hstep,
      ih (setCall_self s task (.reading item now left (s.readGeneration src got))),
      setCall_setCall]
    -- What is read does not depend on where the calls stand.
    have hread : ∀ (left : List Source) (got : Reading) (call : Call),
        (s.setCall task call).readAll left got = s.readAll left got := by
      intro left
      induction left with
      | nil => exact fun _ _ => rfl
      | cons src left ih => exact fun got call => ih (s.readGeneration src got) call
    rw [hread]
    rfl

theorem sending_run {left : List Broadcast} (hcall : s.calls task = .sending left) :
    Lib.run notifyStep s (List.replicate (left.length + 1) (.go task)) =
      some { s.setCall task .idle with
        mutex := none
        log := (left.map NotifyEntry.sent).reverse ++ s.log } := by
  induction left generalizing s with
  | nil =>
    have hstep : notifyStep s (.go task) = some { s.setCall task .idle with mutex := none } := by
      dsimp only [notifyStep, go]
      rw [hcall]
    rw [List.length_nil, List.replicate_succ, Lib.run_cons hstep]
    rfl
  | cons message left ih =>
    have hstep : notifyStep s (.go task) =
        some { s.setCall task (.sending left) with log := .sent message :: s.log } := by
      dsimp only [notifyStep, go]
      rw [hcall]
    have hcall' : ({ s.setCall task (.sending left) with log := .sent message :: s.log }
        : Notifier).calls task = .sending left := setCall_self s task _
    rw [List.length_cons, List.replicate_succ, Lib.run_cons hstep]
    refine (ih hcall').trans ?_
    simp [setCall]

theorem readAll_versions (s : Notifier) (src : Runtime) :
    (s.readAll versionsOrder {}).generation src.source = s.generation src.source ∧
      (s.readAll versionsOrder {}).changes src.source = s.changes src.source := by
  cases src <;> simp [readAll, versionsOrder, readGeneration, Runtime.source, update]

/-- What a call leaves behind that had something to do and was not disturbed. -/
structure AfterCall (s s' : Notifier) (now : UInt32) : Prop where
  generation : s'.generation = s.generation
  changes : s'.changes = s.changes
  watcher : s'.watcher = s.watcher
  calls : ∀ task, s.calls task = .idle ∨ task = 0 → s'.calls task = .idle
  mutex : s'.mutex = none
  last : ∀ src : Runtime, s'.lastGeneration src = s.generation src.source
  found : ∀ src : Runtime, s'.lastVersions.changes src.source = s.changes src.source
  pending : s.throttled now = false → s'.broadcastPending = false

/-- A call that has something to do finds all changes and sends what is pending, if it is not too
    early. -/
theorem call_alone (hcall : s.calls 0 = .reading item now versionsOrder {})
    (hmutex : s.mutex = none)
    (hwork : queueExplicit s.pending item ≠ [] ∨ s.broadcastPending = true) :
    ∃ k s', Lib.run notifyStep s (List.replicate k (.go 0)) = some s' ∧ AfterCall s s' now := by
  have hread := reading_run hcall
  generalize hgot : s.readAll versionsOrder {} = got at hread
  let waiting := s.setCall 0 (.waiting item now got)
  let holding := { s.setCall 0 (.holding item now got) with mutex := some 0 }
  have hwait : notifyStep (s.setCall 0 (.reading item now [] got)) (.go 0) = some waiting := by
    dsimp only [notifyStep, go]
    rw [setCall_self]
    dsimp only
    rw [setCall_setCall]
  have hhold : notifyStep waiting (.go 0) = some holding := by
    dsimp only [notifyStep, go, waiting]
    rw [setCall_self]
    have hfree : (s.setCall 0 (.waiting item now got)).mutex = none := hmutex
    rw [hfree]
    dsimp only
    rw [setCall_setCall]
  have hheld : holding.calls 0 = .holding item now got := setCall_self s 0 _
  have hcommit : notifyStep holding (.go 0) = some ((holding.commit item now got).1.setCall 0
      (.sending (holding.commit item now got).2)) := by
    dsimp only [notifyStep, go]
    rw [hheld]
  have hsend := sending_run (setCall_self (holding.commit item now got).1 0
    (.sending (holding.commit item now got).2))
  have hrun : Lib.run notifyStep s (List.replicate (versionsOrder.length +
      (((holding.commit item now got).2.length + 1) + 1 + 1 + 1)) (.go 0)) =
        some { ((holding.commit item now got).1.setCall 0
            (.sending (holding.commit item now got).2)).setCall 0 .idle with
          mutex := none
          log := ((holding.commit item now got).2.map NotifyEntry.sent).reverse ++
            (holding.commit item now got).1.log } := by
    rw [List.replicate_add, Lib.run_append hread, List.replicate_succ, Lib.run_cons hwait,
      List.replicate_succ, Lib.run_cons hhold, List.replicate_succ, Lib.run_cons hcommit]
    exact hsend
  refine ⟨_, _, hrun, ?_⟩
  · have hsome : ¬(holding.asked item got).nothing (holding.changeMask got) = true := by
      intro hnothing
      rcases nothing_spec hnothing with ⟨hqueue, hpending, -⟩
      rcases hwork with hwork | hwork
      · exact hwork hqueue
      have hflag : holding.broadcastPending = s.broadcastPending := rfl
      rw [hflag, hwork] at hpending
      cases hpending
    have hversions := readAll_versions s
    rw [hgot] at hversions
    have hidle : ∀ (r : Notifier) (call : Call), r.calls = holding.calls →
        ∀ task, s.calls task = .idle ∨ task = 0 →
          ((r.setCall 0 call).setCall 0 .idle).calls task = .idle := by
      intro r call hr task htask
      by_cases hzero : task = 0
      · rw [hzero, setCall_self]
      · rw [setCall_of_ne _ hzero, setCall_of_ne _ hzero, hr]
        exact (setCall_of_ne s hzero _).trans (htask.resolve_right hzero)
    rw [commit_eq, if_neg hsome]
    by_cases hthrottled : holding.throttled now = true
    · rw [if_pos hthrottled]
      refine ⟨?_, ?_, ?_, hidle _ _ rfl, rfl, fun src => (hversions src).1,
        fun src => (hversions src).2, fun hnot => ?_⟩
      · simp only [Notifier.setCall, found, asked, holding]
      · simp only [Notifier.setCall, found, asked, holding]
      · simp only [Notifier.setCall, found, asked, holding]
      have hsame : holding.throttled now = s.throttled now := rfl
      rw [hsame, hnot] at hthrottled
      cases hthrottled
    · rw [if_neg hthrottled]
      refine ⟨?_, ?_, ?_, hidle _ _ rfl, rfl, fun src => (hversions src).1,
        fun src => (hversions src).2, fun _ => rfl⟩
      · simp only [Notifier.setCall, flushed, found, asked, holding]
      · simp only [Notifier.setCall, flushed, found, asked, holding]
      · simp only [Notifier.setCall, flushed, found, asked, holding]

theorem watch_call {watcher : Watcher}
    (hmutex : s.mutex = none) (hwork : item.isSome = true ∨ s.broadcastPending = true)
    (hstep : s.watch now = some { s.call 0 item now with watcher }) :
    ∃ acts s', Watching now (.watch now :: acts) ∧
      Lib.run notifyStep s (.watch now :: acts) = some s' ∧
        AfterCall { s.call 0 item now with watcher } s' now := by
  have hcall : ({ s.call 0 item now with watcher } : Notifier).calls 0 =
      .reading item now versionsOrder {} := setCall_self s 0 _
  have hmore : queueExplicit ({ s.call 0 item now with watcher } : Notifier).pending item ≠ [] ∨
      ({ s.call 0 item now with watcher } : Notifier).broadcastPending = true := by
    rcases hwork with hsome | hpending
    · rcases Option.isSome_iff_exists.1 hsome with ⟨p, rfl⟩
      exact .inl (queueExplicit_ne_nil _ p)
    · exact .inr hpending
  rcases call_alone hcall hmutex hmore with ⟨k, s', hrun, hafter⟩
  have hgo : notifyStep s (.watch now) = some { s.call 0 item now with watcher } := hstep
  refine ⟨List.replicate k (.go 0), s', ?_, (Lib.run_cons hgo _).trans hrun, hafter⟩
  intro act hact
  rcases List.mem_cons.1 hact with rfl | hact
  · exact .inl rfl
  · exact .inr (List.eq_of_mem_replicate hact)

theorem AfterCall.idle {watcher : Watcher} (hidle : ∀ task, s.calls task = .idle)
    (h : AfterCall { s.call 0 item now with watcher } s' now) (task : Nat) :
    s'.calls task = .idle := by
  refine h.calls task ?_
  by_cases hzero : task = 0
  · exact .inr hzero
  · exact .inl ((setCall_of_ne s hzero _).trans (hidle task))

/-- What a pass of the watcher leaves behind. -/
structure AfterPass (s s' : Notifier) (now : UInt32) : Prop where
  generation : s'.generation = s.generation
  changes : s'.changes = s.changes
  calls : ∀ task, s'.calls task = .idle
  watcher : s'.watcher = .start
  mutex : s'.mutex = none
  last : ∀ src : Runtime, s'.lastGeneration src = s.generation src.source
  found : Unmistaken s { generation := s.generation, changes := s.changes } →
    (∀ src : Runtime, s.lastGeneration src = s.lastVersions.generation src.source) →
      ∀ src : Runtime, s.changes src.source ≤ s'.lastVersions.changes src.source
  pending : (∀ src : Runtime, s.generation src.source = s.lastGeneration src) →
    s.throttled now = false → s'.broadcastPending = false

theorem AfterCall.pass {watcher : Watcher} {r : Notifier} (hidle : ∀ task, r.calls task = .idle)
    (hwatcher : watcher = .start) (hgeneration : r.generation = s.generation)
    (hchanges : r.changes = s.changes)
    (hsent : (∀ src : Runtime, s.generation src.source = s.lastGeneration src) →
      r.lastBroadcastAt = s.lastBroadcastAt)
    (h : AfterCall { r.call 0 item now with watcher } s' now) : AfterPass s s' now where
  generation := h.generation.trans hgeneration
  changes := h.changes.trans hchanges
  calls := h.idle hidle
  watcher := h.watcher.trans hwatcher
  mutex := h.mutex
  last src := (h.last src).trans (congrFun hgeneration src.source)
  found _ _ src := ((h.found src).trans (congrFun hchanges src.source)).ge
  pending hsame hnot := by
    refine h.pending ?_
    have hat : ({ r.call 0 item now with watcher } : Notifier).lastBroadcastAt =
        s.lastBroadcastAt := hsent hsame
    unfold throttled at hnot ⊢
    rw [hat]
    exact hnot

/-- Where the watcher stands when it has looked at the generations. -/
def look (s : Notifier) (now : UInt32) : Watcher :=
  .looked (decide (s.generation .ingest ≠ s.lastGeneration .ingest))
    (decide (s.generation .session ≠ s.lastGeneration .session))
    (s.broadcastPending && !s.throttled now)

theorem look_run (hidle : s.calls 0 = .idle) (hstart : s.watcher = .start) (now : UInt32) :
    Lib.run notifyStep s [.watch now, .watch now, .watch now] =
      some { s with watcher := s.look now } := by
  have hfirst : notifyStep s (.watch now) =
      some { s with watcher := .readIngest (s.generation .ingest) } := by
    dsimp only [notifyStep, watch]
    rw [hidle, hstart]
  have hsecond : notifyStep { s with watcher := .readIngest (s.generation .ingest) } (.watch now) =
      some { s with watcher := .read (s.generation .ingest) (s.generation .session) } := by
    dsimp only [notifyStep, watch]
    rw [hidle]
  have hthird : notifyStep
      { s with watcher := .read (s.generation .ingest) (s.generation .session) } (.watch now) =
      some { s with watcher := s.look now } := by
    dsimp only [notifyStep, watch]
    rw [hidle]
    rfl
  rw [Lib.run_cons hfirst, Lib.run_cons hsecond, Lib.run_cons hthird]
  rfl

theorem looked_pass {ingestChanged sessionChanged due : Bool}
    (hidle : ∀ task, s.calls task = .idle) (hmutex : s.mutex = none)
    (hingest : ingestChanged = decide (s.generation .ingest ≠ s.lastGeneration .ingest))
    (hsession : sessionChanged = decide (s.generation .session ≠ s.lastGeneration .session))
    (hdue : due = (s.broadcastPending && !s.throttled now)) : ∃ acts s', Watching now acts ∧
      Lib.run notifyStep { s with watcher := .looked ingestChanged sessionChanged due } acts =
        some s' ∧ AfterPass s s' now := by
  generalize hlooked : ({ s with watcher := .looked ingestChanged sessionChanged due }
    : Notifier) = looked
  have hcalls : ∀ task, looked.calls task = .idle := by
    rw [← hlooked]
    exact hidle
  have hfree : looked.mutex = none := by
    rw [← hlooked]
    exact hmutex
  by_cases hic : ingestChanged = true
  · -- The devices have changed, and the rooms come next.
    have hstep : looked.watch now = some { looked.call 0 (some
        { slice := Runtime.ingest.slice, target := s.lastChanged .ingest,
          reason := Runtime.ingest.reason }) now with watcher := .afterIngest sessionChanged } := by
      rw [← hlooked, hic]
      dsimp only [watch]
      rw [hidle]
      rfl
    have hother : ¬∀ src : Runtime, s.generation src.source = s.lastGeneration src := by
      intro hsame
      rw [hingest] at hic
      exact of_decide_eq_true hic (hsame .ingest)
    rcases watch_call hfree (.inl rfl) hstep with ⟨acts, r, hwatching, hrun, hafter⟩
    have hgeneration : r.generation = s.generation :=
      hafter.generation.trans (by rw [← hlooked]; rfl)
    have hchanges : r.changes = s.changes :=
      hafter.changes.trans (by rw [← hlooked]; rfl)
    have hwatcher : r.watcher = .afterIngest sessionChanged := hafter.watcher
    have hidle' := hafter.idle hcalls
    by_cases hsc : sessionChanged = true
    · have hnext : r.watch now = some { r.call 0 (some
          { slice := Runtime.session.slice, target := r.lastChanged .session,
            reason := Runtime.session.reason }) now with watcher := .start } := by
        dsimp only [watch]
        rw [hidle' 0, hwatcher, hsc]
        rfl
      rcases watch_call hafter.mutex (.inl rfl) hnext with
        ⟨more, s', hmore, hrun', hafter'⟩
      refine ⟨_ ++ _, s', List.forall_mem_append.2 ⟨hwatching, hmore⟩,
        (Lib.run_append hrun _).trans hrun', ?_⟩
      exact hafter'.pass hidle' rfl hgeneration hchanges fun hsame =>
        absurd hsame hother
    · have hnext : notifyStep r (.watch now) = some { r with watcher := .start } := by
        dsimp only [notifyStep, watch]
        rw [hidle' 0, hwatcher, Bool.eq_false_iff.2 hsc]
      refine ⟨_ ++ [.watch now], { r with watcher := .start },
        List.forall_mem_append.2 ⟨hwatching, by simp⟩,
        (Lib.run_append hrun _).trans (Lib.run_cons hnext []), ?_⟩
      refine ⟨hgeneration, hchanges, hidle', rfl, hafter.mutex, ?_, ?_,
        fun hsame => absurd hsame hother⟩
      · exact fun src => (hafter.last src).trans (by rw [← hlooked]; rfl)
      · exact fun _ _ src => ((hafter.found src).trans (by rw [← hlooked]; rfl)).ge
  have hic := Bool.eq_false_iff.2 hic
  by_cases hsc : sessionChanged = true
  · have hstep : looked.watch now = some { looked.call 0 (some
        { slice := Runtime.session.slice, target := s.lastChanged .session,
          reason := Runtime.session.reason }) now with watcher := .start } := by
      rw [← hlooked, hic, hsc]
      dsimp only [watch]
      rw [hidle]
      rfl
    rcases watch_call hfree (.inl rfl) hstep with ⟨acts, s', hwatching, hrun, hafter⟩
    refine ⟨_, s', hwatching, hrun, ?_⟩
    exact hafter.pass hcalls rfl (by rw [← hlooked]) (by rw [← hlooked]) fun _ => by
      rw [← hlooked]
  have hsc := Bool.eq_false_iff.2 hsc
  by_cases hd : due = true
  · have hstep : looked.watch now =
        some { looked.call 0 none now with watcher := .start } := by
      rw [← hlooked, hic, hsc, hd]
      dsimp only [watch]
      rw [hidle]
    have hpending : looked.broadcastPending = true := by
      rw [hd] at hdue
      rw [← hlooked]
      exact (Bool.and_eq_true_iff.1 hdue.symm).1
    rcases watch_call hfree (.inr hpending) hstep with ⟨acts, s', hwatching, hrun, hafter⟩
    refine ⟨_, s', hwatching, hrun, ?_⟩
    exact hafter.pass hcalls rfl (by rw [← hlooked]) (by rw [← hlooked]) fun _ => by
      rw [← hlooked]
  -- No generation is another one, so there was no change.
  have hsame : ∀ src : Runtime, s.generation src.source = s.lastGeneration src := by
    intro src
    cases src with
    | ingest => simpa [hic, Runtime.source] using hingest
    | session => simpa [hsc, Runtime.source] using hsession
  have hnext : notifyStep looked (.watch now) = some { s with watcher := .start } := by
    rw [← hlooked, hic, hsc, Bool.eq_false_iff.2 hd]
    dsimp only [notifyStep, watch]
    rw [hidle]
  refine ⟨[.watch now], { s with watcher := .start }, by simp [Watching],
    Lib.run_cons hnext [], ?_⟩
  refine ⟨rfl, rfl, hidle, rfl, hmutex, fun src => (hsame src).symm, ?_, ?_⟩
  · intro hun hlast src
    exact hun src src.mem_all ((hlast src).symm.trans (hsame src).symm)
  intro _ hnot
  rw [Bool.eq_false_iff.2 hd, hnot] at hdue
  simpa using hdue

theorem pass_alone (hidle : ∀ task, s.calls task = .idle) (hmutex : s.mutex = none)
    (hstart : s.watcher = .start) (now : UInt32) : ∃ acts s', Watching now (.watch now :: acts) ∧
      Lib.run notifyStep s (.watch now :: acts) = some s' ∧ AfterPass s s' now := by
  have hlook := look_run (hidle 0) hstart now
  rcases looked_pass hidle hmutex rfl rfl rfl with ⟨acts, s', hwatching, hrun, hafter⟩
  refine ⟨.watch now :: .watch now :: acts, s', ?_, (Lib.run_append hlook acts).trans hrun, hafter⟩
  intro act hact
  simp only [List.mem_cons] at hact
  rcases hact with rfl | rfl | rfl | hact
  · exact .inl rfl
  · exact .inl rfl
  · exact .inl rfl
  · exact hwatching act hact

/-! ### Every run -/

/-- What the invariant promises of the broadcasts. -/
theorem Inv.announced (h : Inv s) : Announced s where
  kept := h.kept
  covered := open_of_quiet h
  settles hidle hstart now := by
    have hmutex : s.mutex = none := by
      cases hheld : s.mutex with
      | none => rfl
      | some task => exact absurd (hidle task) (h.mutex task hheld)
    rcases pass_alone hidle hmutex hstart now with ⟨acts, s', hwatching, hrun, hafter⟩
    refine ⟨_, s', hwatching, hrun, fun later hnot => ?_⟩
    rcases pass_alone hafter.calls hafter.mutex hafter.watcher later with
      ⟨more, s'', hwatching', hrun', hafter'⟩
    refine ⟨_, s'', hwatching', (Lib.run_append hrun _).trans hrun', fun heach => ?_⟩
    rcases Lib.EachStep.of_append hrun heach with ⟨hfirst, hsecond⟩
    have hinv := Lib.invariant_of_run (fun _ _ _ h hcareful hs => inv_step h hcareful hs) h
      hfirst hrun
    have hinv' := Lib.invariant_of_run (fun _ _ _ h hcareful hs => inv_step h hcareful hs) hinv
      hsecond hrun'
    refine open_of_quiet hinv' ⟨hafter'.calls, ?_, ?_⟩
    · -- The first pass has found all changes, so the second sends what is pending.
      refine hafter'.pending (fun src => ?_) hnot
      rw [hafter.generation, hafter.last]
    · rw [hafter'.changes]
      exact hafter'.found hsecond.1 hinv.last

/-- In every run of careful steps, whatever has changed or was asked for is broadcast. -/
theorem changes_announced {generation : Source → UInt32} {acts : List NotifyStep}
    (heach : Lib.EachStep notifyStep Careful (atStart generation) acts)
    (hrun : Lib.run notifyStep (atStart generation) acts = some s) : Announced s :=
  (Lib.invariant_of_run (fun _ _ _ h hcareful hs => inv_step h hcareful hs)
    (inv_atStart generation) heach hrun).announced

/-- A pass of the watcher that finds a change of the sessions and sends three messages. -/
def sessionPass (now : UInt32) : List NotifyStep :=
  List.replicate 4 (.watch now) ++ List.replicate 13 (.go 0)

def firstRoom : Id := ⟨"r1".toList, by decide⟩

def secondRoom : Id := ⟨"r2".toList, by decide⟩

/-- The session of a room changes, and the watcher passes it on. -/
def oneRoom : List NotifyStep :=
  .change .session [firstRoom] :: sessionPass 1000

theorem changes_announced_room :
    (Lib.run notifyStep (atStart fun _ => 0) oneRoom).map (fun s => Open s.log) = some [] ∧
    ∀ s, Lib.run notifyStep (atStart fun _ => 0) oneRoom = some s → Announced s :=
  ⟨by decide +kernel, fun _ hrun => changes_announced (by decide +kernel) hrun⟩

/-- The sessions of two rooms change before the watcher passes. -/
def twoRooms : List NotifyStep :=
  [.change .session [firstRoom], .change .session [secondRoom]] ++ sessionPass 1000

/-- Nine invalidations are asked for within the interval, and the watcher sends what is
    pending. -/
def nineRequests : List NotifyStep :=
  .change .session [firstRoom] :: sessionPass 1000 ++
    [Slice.roomScenarios, .roomProfiles, .devicesRuntime, .roomRuntime, .gmSidebarPresets,
      .systemSummary, .roomCatalog, .devicesCatalog, .fullSnapshot].flatMap (fun slice =>
        .notify 1 (some { slice, target := firstRoom, reason := [] }) 1100 ::
          List.replicate 10 (.go 1)) ++
    List.replicate 4 (.watch 1300) ++ List.replicate 19 (.go 0)

/-- Every run keeps what is promised of the broadcasts. -/
def AlwaysAnnounced : Prop :=
  ∀ generation acts s, Lib.run notifyStep (atStart generation) acts = some s → Announced s

/-- The change of the first room is not covered when all is quiet, and neither is the ninth
    invalidation that was asked for. -/
theorem not_alwaysAnnounced :
    (Lib.run notifyStep (atStart fun _ => 0) twoRooms).map (fun s => Open s.log) =
      some [.change .session 1 firstRoom] ∧
    (Lib.run notifyStep (atStart fun _ => 0) nineRequests).map (fun s => Open s.log) =
      some [.request .fullSnapshot firstRoom] ∧ ¬AlwaysAnnounced := by
  have hopen : (Lib.run notifyStep (atStart fun _ => 0) twoRooms).map (fun s => Open s.log) =
      some [.change .session 1 firstRoom] := by
    decide +kernel
  refine ⟨hopen, by decide +kernel, fun h => ?_⟩
  cases hrun : Lib.run notifyStep (atStart fun _ => 0) twoRooms with
  | none =>
    rw [hrun] at hopen
    cases hopen
  | some s =>
    have hcalls : ∀ task, (Lib.run notifyStep (atStart fun _ => 0) twoRooms).map
        (fun s => s.calls task) = some .idle := by
      intro task
      cases task with
      | zero => rfl
      | succ => rfl
    have hflag : (Lib.run notifyStep (atStart fun _ => 0) twoRooms).map
        (fun s => s.broadcastPending) = some false := by
      decide +kernel
    have hfound : ∀ src : Runtime, (Lib.run notifyStep (atStart fun _ => 0) twoRooms).map
        (fun s => decide (s.changes src.source ≤ s.lastVersions.changes src.source)) =
          some true := by
      intro src
      cases src with
      | ingest => decide +kernel
      | session => decide +kernel
    rw [hrun] at hopen hcalls hflag hfound
    have hquiet : Quiet s :=
      ⟨fun task => Option.some.inj (hcalls task), Option.some.inj hflag,
        fun src => of_decide_eq_true (Option.some.inj (hfound src))⟩
    have hnone := (h _ _ s hrun).covered hquiet
    rw [Option.map_some, hnone] at hopen
    cases hopen

end Notifier

end SceneHub.Hub
