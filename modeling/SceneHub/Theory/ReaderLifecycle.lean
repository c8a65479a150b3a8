import SceneHub.Hub.AudioRuntime

/-!
# Readers That Come and Go

What the audio runtime knows of its readers.

A slot has a context for one reader, which is taken before the reader is created and given
back by the reader as it ends. So no slot has two readers. What else is known of a reader is
written by several tasks. The creator records the task after the reader may have run; where the
reader has ended by then, the record stays behind it. A reader clears its stop bit as it
starts, though it was cleared before it was created; a stop that came in between is lost. And
a handler can set the state to playing or paused when the last reader has just ended.

Where none of the three comes too late, the slots, the stop bits and the state agree with the
readers.

## Main definitions

* `InTime`: A step does not come too late.
* `Lifecycle`: What is asked of the readers.
* `Slots`: What holds of the records, the contexts and the stop bits.
* `Course`: What the statements that are left will do to the state.

## Theorems

* `Slots.step`, `Course.step`: What a step keeps.
* `readers_keep_lifecycle`: The lifecycle in every run in which no step comes too late.
* `not_everyRunRecorded`: What other runs come to.
-/

namespace SceneHub.Hub

namespace AudioRuntime

open Function (update update_self update_of_ne)

variable {rest : List AudioOp}

variable {s s' : AudioRuntime} {reply : Bool} {slot : RuntimeSlot} {i j : Nat}

/-- The slot of a reader, until it has ended. -/
def slotOf (s : AudioRuntime) (i : Nat) : Option RuntimeSlot := (s.readers i).slot

/-- Some reader has not ended. -/
def alive (s : AudioRuntime) : Bool := (List.range s.created).any fun i => (s.slotOf i).isSome

/-- The runtime task does not come too late: the reader that it records has not ended, and it
    does not set the state to playing or paused behind the last reader. -/
def goesInTime (s : AudioRuntime) : AudioTask → Bool
  | .record _ reader _ => (s.slotOf reader).isSome
  | .next (.setState .playing :: _) | .next (.setState .paused :: _) => s.alive
  | _ => true

/-- A reader does not come too late: it clears no stop that was requested. -/
def readsInTime (s : AudioRuntime) : ReaderTask → Bool
  | .clearsStop slot => !s.stopBit slot
  | _ => true

/-- A step does not come too late. -/
def InTime (s : AudioRuntime) : AudioStep → Prop
  | .receive _ => True
  | .go _ => goesInTime s s.task = true
  | .read reader => readsInTime s (s.readers reader) = true

instance (s : AudioRuntime) : (act : AudioStep) → Decidable (InTime s act)
  | .receive _ => inferInstanceAs (Decidable True)
  | .go _ => inferInstanceAs (Decidable (_ = true))
  | .read _ => inferInstanceAs (Decidable (_ = true))

/-- What is asked of the readers. -/
structure Lifecycle (s : AudioRuntime) : Prop where
  oneReader : ∀ slot i j, s.slotOf i = some slot → s.slotOf j = some slot → i = j
  recordedEnded : ∀ slot, (∀ i, s.slotOf i ≠ some slot) →
    (s.channels slot).task = none ∨ (s.channels slot).done = true
  stopReturns : ∀ slot orReturn rest, s.task = .checkReader slot orReturn rest →
    (∀ i, s.slotOf i ≠ some slot) → (s.checkReader slot orReturn rest).task = .next rest
  playStarts : ∀ slot rest reply, s.task = .next (.startSlot slot :: rest) →
    (∀ i, s.slotOf i ≠ some slot) →
      (s.exec reply rest (.startSlot slot)).task = .clearBits slot rest
  stopSeen : ∀ slot i, s.slotOf i = some slot → s.asked i = true → s.stopSeen slot = true
  idle : s.task = .waiting → (∀ i, s.slotOf i = none) → s.state = .idle ∨ s.failed = true

/-! ### Records, contexts and stop bits -/

/-- The slot whose context the runtime task has taken for a reader that does not exist. -/
def claim : AudioTask → Option RuntimeSlot
  | .clearBits slot _ | .markStarting slot _ | .createTask slot _ | .destroyCtx slot => some slot
  | _ => none

/-- The reader that the runtime task is about to record. -/
def recording : AudioTask → Option (RuntimeSlot × Nat)
  | .record slot reader _ => some (slot, reader)
  | _ => none

structure Slots (s : AudioRuntime) : Prop where
  fresh : ∀ i, s.created ≤ i → s.slotOf i = none ∧ s.asked i = false
  unique : ∀ slot i j, s.slotOf i = some slot → s.slotOf j = some slot → i = j
  ctx : ∀ slot i, s.slotOf i = some slot → s.ctxInUse slot = true
  held : ∀ slot, s.ctxInUse slot = true → (∃ i, s.slotOf i = some slot) ∨ claim s.task = some slot
  claimed : ∀ slot, claim s.task = some slot →
    s.ctxInUse slot = true ∧ ∀ i, s.slotOf i ≠ some slot
  recorded : ∀ slot i, (s.channels slot).task = some i → s.slotOf i = some slot
  pending : ∀ slot i, recording s.task = some (slot, i) → ∀ slot', s.slotOf i = some slot' →
    slot' = slot
  asked : ∀ slot i, s.slotOf i = some slot → s.asked i = true → s.stopBit slot = true

section

variable (h : s.Slots)
include h

/-- A step that moves no reader in or out of a slot, and clears no stop bit. -/
theorem Slots.quiet (hclaim : claim s'.task = claim s.task)
    (hrecording : recording s'.task = recording s.task ∨ recording s'.task = none)
    (htask : ∀ slot, (s'.channels slot).task = (s.channels slot).task)
    (hslot : ∀ i, s'.slotOf i = s.slotOf i)
    (hcreated : s'.created = s.created) (hctx : s'.ctxInUse = s.ctxInUse)
    (hasked : s'.asked = s.asked) (hbit : s'.stopBit = s.stopBit) :
    s'.Slots where
  fresh := fun i hi => by
    rw [hslot, hasked]
    exact h.fresh i (hcreated ▸ hi)
  unique := fun slot i j hi hj => by
    rw [hslot] at hi hj
    exact h.unique slot i j hi hj
  ctx := fun slot i hi => by
    rw [hslot] at hi
    rw [hctx]
    exact h.ctx slot i hi
  held := fun slot hheld => by
    rw [hctx] at hheld
    rw [hclaim]
    rcases h.held slot hheld with ⟨i, hi⟩ | hheld
    · exact .inl ⟨i, by rw [hslot, hi]⟩
    · exact .inr hheld
  claimed := fun slot hslotClaim => by
    rw [hclaim] at hslotClaim
    rw [hctx]
    refine ⟨(h.claimed slot hslotClaim).1, fun i => ?_⟩
    rw [hslot]
    exact (h.claimed slot hslotClaim).2 i
  recorded := fun slot i hi => by
    rw [htask] at hi
    rw [hslot]
    exact h.recorded slot i hi
  pending := fun slot i hpending slot' hi => by
    rw [hslot] at hi
    rcases hrecording with hsame | hnone
    · exact h.pending slot i (hsame ▸ hpending) slot' hi
    · rw [hnone] at hpending
      cases hpending
  asked := fun slot i hi hask => by
    rw [hslot] at hi
    rw [hasked] at hask
    rw [hbit]
    exact h.asked slot i hi hask

theorem Slots.turn {task : AudioTask} (hclaim : claim task = claim s.task)
    (hrecording : recording task = none) : (s.setTask task).Slots :=
  h.quiet hclaim (.inr hrecording) (fun _ => rfl) (fun _ => rfl) rfl rfl rfl rfl

theorem Slots.requestStop (slot : RuntimeSlot) : (s.requestStop slot).Slots where
  fresh := fun i hi => by
    have hfresh := h.fresh i hi
    refine ⟨hfresh.1, ?_⟩
    show (s.asked i || decide (s.slotOf i = some slot)) = false
    rw [hfresh.1, hfresh.2]
    rfl
  unique := h.unique
  ctx := h.ctx
  held := h.held
  claimed := h.claimed
  recorded := h.recorded
  pending := h.pending
  asked := fun slot' i hi hask => by
    show update s.stopBit slot true slot' = true
    by_cases hslot : slot' = slot
    · rw [hslot, update_self]
    rw [update_of_ne hslot]
    replace hask : (s.asked i || decide (s.slotOf i = some slot)) = true := hask
    replace hi : s.slotOf i = some slot' := hi
    refine h.asked slot' i hi ?_
    -- The reader is in another slot than the one that is to stop.
    have hne : s.slotOf i ≠ some slot := fun heq => hslot (Option.some.inj (hi.symm.trans heq))
    rw [decide_eq_false hne, Bool.or_false] at hask
    exact hask

theorem Slots.take (hclaim : claim s.task = none) (hfree : s.ctxInUse slot = false) :
    ({ s with ctxInUse := update s.ctxInUse slot true }.setTask
      (.clearBits slot rest)).Slots where
  fresh := h.fresh
  unique := h.unique
  ctx := fun slot' i hi => by
    show update s.ctxInUse slot true slot' = true
    by_cases hslot : slot' = slot
    · rw [hslot, update_self]
    · rw [update_of_ne hslot]
      exact h.ctx slot' i hi
  held := fun slot' hheld => by
    replace hheld : update s.ctxInUse slot true slot' = true := hheld
    by_cases hslot : slot' = slot
    · exact .inr (congrArg some hslot.symm)
    rw [update_of_ne hslot] at hheld
    rcases h.held slot' hheld with hlive | hother
    · exact .inl hlive
    · rw [hclaim] at hother
      cases hother
  claimed := fun slot' hslot => by
    cases hslot
    refine ⟨update_self _ _ _, fun i hi => ?_⟩
    have hused := h.ctx slot i hi
    rw [hfree] at hused
    cases hused
  recorded := h.recorded
  pending := nofun
  asked := h.asked

theorem Slots.clearBit (hclaim : claim s'.task = claim s.task)
    (hrecording : recording s'.task = recording s.task ∨ recording s'.task = none)
    (hnone : ∀ i, s.slotOf i = some slot → s.asked i = false)
    (hslot : ∀ i, s'.slotOf i = s.slotOf i)
    (hcreated : s'.created = s.created) (hctx : s'.ctxInUse = s.ctxInUse)
    (hasked : s'.asked = s.asked) (htask : s'.channels = s.channels)
    (hbit : s'.stopBit = update s.stopBit slot false) : s'.Slots := by
  have hquiet : ({ s' with stopBit := s.stopBit } : AudioRuntime).Slots :=
    h.quiet hclaim hrecording (fun slot => by rw [htask]) hslot hcreated hctx hasked rfl
  refine { hquiet with asked := fun slot' i hi hask => ?_ }
  rw [hslot] at hi
  rw [hasked] at hask
  rw [hbit]
  by_cases heq : slot' = slot
  · subst heq
    rw [hnone i hi] at hask
    cases hask
  · rw [update_of_ne heq]
    exact h.asked slot' i hi hask

theorem Slots.create (htask : s.task = .createTask slot rest) :
    (s.createReader slot rest).Slots := by
  have hclaimed := h.claimed slot (by rw [htask]; rfl)
  have hself : (s.createReader slot rest).slotOf s.created = some slot := by
    show (update s.readers s.created (.clearsStop slot) s.created).slot = some slot
    rw [update_self]
    rfl
  have hother : ∀ i, i ≠ s.created → (s.createReader slot rest).slotOf i = s.slotOf i := by
    intro i hi
    show (update s.readers s.created (.clearsStop slot) i).slot = (s.readers i).slot
    rw [update_of_ne hi]
  refine ⟨fun i hi => ?_, fun slot' i j hi hj => ?_, fun slot' i hi => ?_, fun slot' hheld => ?_,
    nofun, fun slot' i hi => ?_, fun slot' i hpending slot'' hi => ?_,
    fun slot' i hi hask => ?_⟩
  · replace hi : s.created + 1 ≤ i := hi
    rw [hother i (by omega)]
    exact h.fresh i (by omega)
  · by_cases hi0 : i = s.created
    · by_cases hj0 : j = s.created
      · rw [hi0, hj0]
      rw [hi0, hself] at hi
      rw [hother j hj0, ← hi] at hj
      exact absurd hj (hclaimed.2 j)
    rw [hother i hi0] at hi
    by_cases hj0 : j = s.created
    · rw [hj0, hself] at hj
      rw [← hj] at hi
      exact absurd hi (hclaimed.2 i)
    · rw [hother j hj0] at hj
      exact h.unique slot' i j hi hj
  · by_cases hi0 : i = s.created
    · rw [hi0, hself] at hi
      cases hi
      exact hclaimed.1
    · rw [hother i hi0] at hi
      exact h.ctx slot' i hi
  · rcases h.held slot' hheld with ⟨i, hi⟩ | hclaim
    · refine .inl ⟨i, ?_⟩
      rw [hother i, hi]
      intro heq
      rw [heq, (h.fresh s.created (Nat.le_refl _)).1] at hi
      cases hi
    · rw [htask] at hclaim
      cases hclaim
      exact .inl ⟨s.created, hself⟩
  · have hold := h.recorded slot' i hi
    rw [hother i, hold]
    intro heq
    rw [heq, (h.fresh s.created (Nat.le_refl _)).1] at hold
    cases hold
  · cases hpending
    rw [hself] at hi
    exact (Option.some.inj hi).symm
  · by_cases hi0 : i = s.created
    · -- Nobody has asked the new reader to stop.
      have hnew : s.asked s.created = false := (h.fresh s.created (Nat.le_refl _)).2
      rw [hi0] at hask
      exact absurd (hask.symm.trans hnew) (by decide)
    · rw [hother i hi0] at hi
      exact h.asked slot' i hi hask

theorem Slots.destroy (htask : s.task = .destroyCtx slot) :
    ({ s with ctxInUse := update s.ctxInUse slot false }.setTask (.fail [])).Slots where
  fresh := h.fresh
  unique := h.unique
  ctx := fun slot' i hi => by
    show update s.ctxInUse slot false slot' = true
    have hne : slot' ≠ slot := by
      intro heq
      subst heq
      exact (h.claimed slot' (by rw [htask]; rfl)).2 i hi
    rw [update_of_ne hne]
    exact h.ctx slot' i hi
  held := fun slot' hheld => by
    replace hheld : update s.ctxInUse slot false slot' = true := hheld
    by_cases hslot : slot' = slot
    · rw [hslot, update_self] at hheld
      cases hheld
    rw [update_of_ne hslot] at hheld
    rcases h.held slot' hheld with hlive | hother
    · exact .inl hlive
    · rw [htask] at hother
      exact absurd (Option.some.inj hother).symm hslot
  claimed := nofun
  recorded := h.recorded
  pending := nofun
  asked := h.asked

theorem Slots.record (htask : s.task = .record slot i rest)
    (hlive : (s.slotOf i).isSome = true) (channel : AudioChannel) (hi : channel.task = some i) :
    ((s.setChannel slot channel).setTask (.next rest)).Slots where
  fresh := h.fresh
  unique := h.unique
  ctx := h.ctx
  held := fun slot' hheld => by
    rcases h.held slot' hheld with hsome | hclaim
    · exact .inl hsome
    · rw [htask] at hclaim
      cases hclaim
  claimed := nofun
  recorded := fun slot' j hj => by
    replace hj : (update s.channels slot channel slot').task = some j := hj
    show s.slotOf j = some slot'
    by_cases hslot : slot' = slot
    · rw [hslot, update_self, hi] at hj
      cases hj
      rcases Option.isSome_iff_exists.1 hlive with ⟨own, hown⟩
      rw [hown, h.pending slot i (by rw [htask]; rfl) own hown, hslot]
    · rw [update_of_ne hslot] at hj
      exact h.recorded slot' j hj
  pending := nofun
  asked := h.asked

theorem Slots.finish (htask : s.readers i = .finishes slot) : (s.readerFinished i slot).Slots := by
  have hlive : s.slotOf i = some slot := by
    unfold slotOf
    rw [htask]
    rfl
  have hself : (s.readerFinished i slot).slotOf i = none := by
    show (update s.readers i (.notifies (s.channels slot).waiter) i).slot = none
    rw [update_self]
    rfl
  have hother : ∀ j, j ≠ i → (s.readerFinished i slot).slotOf j = s.slotOf j := by
    intro j hj
    unfold slotOf
    show (update s.readers i (.notifies (s.channels slot).waiter) j).slot = _
    rw [update_of_ne hj]
  -- What is in a slot was in it before, and is not the reader that ends.
  have hback : ∀ slot' j, (s.readerFinished i slot).slotOf j = some slot' →
      j ≠ i ∧ s.slotOf j = some slot' := by
    intro slot' j hj
    by_cases hji : j = i
    · rw [hji, hself] at hj
      cases hj
    · rw [hother j hji] at hj
      exact ⟨hji, hj⟩
  have hempty : ∀ slot' j, (s.readerFinished i slot).slotOf j = some slot' → slot' ≠ slot := by
    intro slot' j hj heq
    rcases hback slot' j hj with ⟨hji, hold⟩
    rw [heq] at hold
    exact hji (h.unique slot j i hold hlive)
  refine ⟨fun j hj => ?_, fun slot' j k hj hk => ?_, fun slot' j hj => ?_, fun slot' hheld => ?_,
    fun slot' hclaim => ?_, fun slot' j hj => ?_, fun slot' j hpending slot'' hj => ?_,
    fun slot' j hj hask => ?_⟩
  · refine ⟨?_, (h.fresh j hj).2⟩
    by_cases hji : j = i
    · rw [hji, hself]
    · rw [hother j hji]
      exact (h.fresh j hj).1
  · exact h.unique slot' j k (hback slot' j hj).2 (hback slot' k hk).2
  · show update s.ctxInUse slot false slot' = true
    rw [update_of_ne (hempty slot' j hj)]
    exact h.ctx slot' j (hback slot' j hj).2
  · replace hheld : update s.ctxInUse slot false slot' = true := hheld
    by_cases hslot : slot' = slot
    · rw [hslot, update_self] at hheld
      cases hheld
    rw [update_of_ne hslot] at hheld
    rcases h.held slot' hheld with ⟨j, hj⟩ | hclaim
    · refine .inl ⟨j, ?_⟩
      rw [hother j, hj]
      intro heq
      rw [heq, hlive] at hj
      exact hslot (Option.some.inj hj).symm
    · exact .inr hclaim
  · -- The runtime task holds another context than the reader.
    have hold := h.claimed slot' hclaim
    have hne : slot' ≠ slot := fun heq => hold.2 i (heq ▸ hlive)
    refine ⟨?_, fun j hj => hold.2 j (hback slot' j hj).2⟩
    show update s.ctxInUse slot false slot' = true
    rw [update_of_ne hne]
    exact hold.1
  · replace hj : (update s.channels slot { task := none, waiter := false, done := true }
      slot').task = some j := hj
    by_cases hslot : slot' = slot
    · rw [hslot, update_self] at hj
      cases hj
    rw [update_of_ne hslot] at hj
    have hold := h.recorded slot' j hj
    rw [hother j, hold]
    intro heq
    rw [heq, hlive] at hold
    exact hslot (Option.some.inj hold).symm
  · exact h.pending slot' j hpending slot'' (hback slot'' j hj).2
  · exact h.asked slot' j (hback slot' j hj).2 hask

theorem Slots.rewrite (slot : RuntimeSlot) (channel : AudioChannel)
    (hsame : channel.task = (s.channels slot).task) {task : AudioTask}
    (hclaim : claim task = claim s.task) (hrecording : recording task = none) :
    ((s.setChannel slot channel).setTask task).Slots := by
  refine h.quiet hclaim (.inr hrecording) (fun slot' => ?_) (fun _ => rfl) rfl rfl rfl rfl
  show (update s.channels slot channel slot').task = (s.channels slot').task
  by_cases hslot : slot' = slot
  · rw [hslot, update_self, hsame]
  · rw [update_of_ne hslot]

theorem Slots.exec (reply : Bool) {op : AudioOp}
    (htask : s.task = .next (op :: rest)) : (s.exec reply rest op).Slots := by
  have hclaim : claim s.task = none := by rw [htask]; rfl
  have hsame : ∀ task : AudioTask, claim task = none → claim task = claim s.task := by
    intro task hnone
    rw [hclaim, hnone]
  cases op with
  | clearPaused | setPaused | setState _ | switchTo _ =>
    exact h.quiet (hsame _ rfl) (.inr rfl) (fun _ => rfl) (fun _ => rfl) rfl rfl rfl rfl
  | checkStorage =>
    refine h.turn (hsame _ ?_) ?_
    · cases reply <;> rfl
    · cases reply <;> rfl
  | checkBackground | waitPrimed _ _ | checkPause | checkResume => exact h.turn (hsame _ rfl) rfl
  | stopSlot slot orReturn => exact (h.requestStop slot).turn (hsame _ rfl) rfl
  | startSlot slot =>
    simp only [AudioRuntime.exec]
    split
    · exact h.turn (hsame _ rfl) rfl
    · next hfree => exact h.take hclaim (Bool.eq_false_iff.2 hfree)

theorem Slots.go (hin : InTime s (.go reply)) (hgo : s.go reply = some s') : s'.Slots := by
  unfold AudioRuntime.go at hgo
  simp only [InTime] at hin
  cases htask : s.task with
  | waiting =>
    rw [htask] at hgo
    cases hgo
  | next ops =>
    rw [htask] at hgo
    have hclaim : claim s.task = none := by rw [htask]; rfl
    cases ops with
    | nil =>
      cases hgo
      exact h.quiet hclaim.symm (.inr rfl) (fun _ => rfl) (fun _ => rfl) rfl rfl rfl rfl
    | cons op rest =>
      cases hgo
      exact h.exec reply htask
  | markStopping slot orReturn rest | dropNotice slot orReturn rest | fail rest =>
    have hclaim : claim s.task = none := by rw [htask]; rfl
    rw [htask] at hgo
    cases hgo
    exact h.quiet hclaim.symm (.inr rfl) (fun _ => rfl) (fun _ => rfl) rfl rfl rfl rfl
  | checkReader slot orReturn rest =>
    have hclaim : claim s.task = none := by rw [htask]; rfl
    rw [htask] at hgo
    cases hgo
    unfold AudioRuntime.checkReader
    split
    · refine h.rewrite slot { s.channels slot with done := true, waiter := false } rfl ?_ rfl
      exact hclaim.symm
    split
    · exact h.turn hclaim.symm rfl
    · refine h.rewrite slot { s.channels slot with waiter := true } rfl ?_ rfl
      exact hclaim.symm
  | awaitReader slot orReturn rest =>
    have hclaim : claim s.task = none := by rw [htask]; rfl
    rw [htask] at hgo
    simp only at hgo
    split at hgo
    · cases hgo
      exact h.quiet hclaim.symm (.inr rfl) (fun _ => rfl) (fun _ => rfl) rfl rfl rfl rfl
    · cases hgo
      exact h.turn hclaim.symm rfl
  | forgetWaiter slot orReturn rest =>
    have hclaim : claim s.task = none := by rw [htask]; rfl
    rw [htask] at hgo
    cases hgo
    refine h.rewrite slot { s.channels slot with waiter := false } rfl ?_ rfl
    exact hclaim.symm
  | clearBits slot rest =>
    have hclaimed := h.claimed slot (by rw [htask]; rfl)
    have hclaim : claim s.task = some slot := by rw [htask]; rfl
    rw [htask] at hgo
    cases hgo
    exact h.clearBit hclaim.symm (.inr rfl) (fun i hi => absurd hi (hclaimed.2 i))
      (fun _ => rfl) rfl rfl rfl rfl rfl
  | markStarting slot rest =>
    have hclaim : claim s.task = some slot := by rw [htask]; rfl
    rw [htask] at hgo
    cases hgo
    exact h.quiet hclaim.symm (.inr rfl) (fun _ => rfl) (fun _ => rfl) rfl rfl rfl rfl
  | createTask slot rest =>
    have hclaim : claim s.task = some slot := by rw [htask]; rfl
    rw [htask] at hgo
    simp only at hgo
    split at hgo
    · cases hgo
      exact h.create htask
    · cases hgo
      exact h.turn hclaim.symm rfl
  | destroyCtx slot =>
    rw [htask] at hgo
    cases hgo
    exact h.destroy htask
  | record slot reader rest =>
    rw [htask] at hgo hin
    cases hgo
    exact h.record htask hin _ rfl

theorem Slots.read (hin : InTime s (.read i)) (hread : s.read i = some s') : s'.Slots := by
  unfold AudioRuntime.read at hread
  simp only [InTime] at hin
  -- A reader that stays in its slot.
  have hsame : ∀ (o : AudioRuntime) (task : ReaderTask), o.readers = s.readers →
      task.slot = (s.readers i).slot → ∀ j, (o.setReader i task).slotOf j = s.slotOf j := by
    intro o task ho hslot j
    show (update o.readers i task j).slot = (s.readers j).slot
    by_cases hji : j = i
    · rw [hji, update_self, hslot]
    · rw [update_of_ne hji, ho]
  cases htask : s.readers i with
  | gone =>
    rw [htask] at hread
    cases hread
  | clearsStop slot =>
    have hslot : s.slotOf i = some slot := by
      unfold slotOf
      rw [htask]
      rfl
    rw [htask] at hread hin
    cases hread
    replace hin : (!s.stopBit slot) = true := hin
    refine h.clearBit rfl (.inl rfl) ?_ (hsame _ _ rfl (by rw [htask]; rfl)) rfl rfl rfl rfl rfl
    intro j hj
    -- Whoever had been asked to stop would see it.
    by_cases hasked : s.asked j = true
    · rw [h.asked slot j hj hasked] at hin
      cases hin
    · exact Bool.eq_false_iff.2 hasked
  | starts slot =>
    rw [htask] at hread
    cases hread
    refine h.quiet rfl (.inl rfl) (fun slot' => ?_) (hsame _ _ rfl (by rw [htask]; rfl))
      rfl rfl rfl rfl
    show (update s.channels slot _ slot').task = (s.channels slot').task
    by_cases hslot : slot' = slot
    · rw [hslot, update_self]
    · rw [update_of_ne hslot]
  | finishes slot =>
    rw [htask] at hread
    cases hread
    exact h.finish htask
  | notifies waiter =>
    rw [htask] at hread
    cases hread
    exact h.quiet rfl (.inl rfl) (fun _ => rfl) (hsame _ _ rfl (by rw [htask]; rfl))
      rfl rfl rfl rfl

theorem Slots.step (act : AudioStep) (hin : InTime s act)
    (hstep : audioStep s act = some s') : s'.Slots := by
  cases act with
  | receive command =>
    replace hstep : s.receive command = some s' := hstep
    unfold AudioRuntime.receive at hstep
    cases htask : s.task with
    | waiting =>
      have hclaim : claim s.task = none := by rw [htask]; rfl
      rw [htask] at hstep
      cases hstep
      exact h.turn hclaim.symm rfl
    | _ =>
      rw [htask] at hstep
      cases hstep
  | go reply => exact h.go hin hstep
  | read reader => exact h.read hin hstep

end

/-! ### The state behind a handler -/

/-- The state is one that no reader is needed for, or there is a reader. -/
def Settled (s : AudioRuntime) : Prop :=
  (s.state = .idle ∨ s.state = .error) ∨ ∃ i, s.slotOf i ≠ none

/-- Behind a statement the state fits the readers, or other statements follow that see to
    it. -/
def closes : AudioOp → Bool
  | .setState .idle | .setState .playing | .setState .paused => true
  | .checkBackground | .startSlot _ | .waitPrimed _ _ => true
  | _ => false

/-- The last of some statements closes. -/
def Closing (ops : List AudioOp) : Prop := ∃ front op, ops = front ++ [op] ∧ closes op = true

theorem Closing.append (h : Closing rest) (ops : List AudioOp) : Closing (ops ++ rest) := by
  rcases h with ⟨front, op, hrest, hop⟩
  exact ⟨ops ++ front, op, by rw [hrest, List.append_assoc], hop⟩

theorem Closing.cons {op : AudioOp} (h : Closing (op :: rest)) :
    rest = [] ∧ closes op = true ∨ Closing rest := by
  rcases h with ⟨front, last, hops, hlast⟩
  cases front with
  | nil =>
    cases hops
    exact .inl ⟨rfl, hlast⟩
  | cons first front =>
    cases hops
    exact .inr ⟨front, last, rfl, hlast⟩

/-- What the runtime task still has to do about the state. Where it has nothing to do, the
    state is settled. -/
def Due (settled : Prop) : AudioTask → Prop
  | .waiting => settled
  | .next ops =>
    Closing ops ∨ settled ∧ (ops = [] ∨ ops = [.checkPause] ∨ ops = [.checkResume])
  | .markStopping _ _ rest | .checkReader _ _ rest | .dropNotice _ _ rest
  | .awaitReader _ _ rest | .forgetWaiter _ _ rest => Closing rest
  | .clearBits _ rest | .markStarting _ rest | .createTask _ rest | .record _ _ rest
  | .fail rest => rest = [] ∨ Closing rest
  | .destroyCtx _ => True

theorem Due.mono {settled settled' : Prop} (himp : settled → settled') {task : AudioTask}
    (h : Due settled task) : Due settled' task := by
  cases task with
  | waiting => exact himp h
  | next ops =>
    rcases h with hclosing | ⟨hsettled, hops⟩
    · exact .inl hclosing
    · exact .inr ⟨himp hsettled, hops⟩
  | _ => exact h

theorem due_handler {settled : Prop} (h : settled) (command : AudioCommand) :
    Due settled (.next command.handler) := by
  cases command with
  | none => exact .inr ⟨h, .inl rfl⟩
  | pause => exact .inr ⟨h, .inr (.inl rfl)⟩
  | resume => exact .inr ⟨h, .inr (.inr rfl)⟩
  | play | playEffect | seek =>
    exact .inl ⟨[.checkStorage, .stopSlot .effect true], .startSlot .effect, rfl, rfl⟩
  | playBackground => exact .inl ⟨[.checkStorage], .checkBackground, rfl, rfl⟩
  | stop =>
    exact .inl ⟨[.clearPaused, .stopSlot .bgA false, .stopSlot .bgB false,
      .stopSlot .effect false], .setState .idle, rfl, rfl⟩
  | stopBackground =>
    exact .inl ⟨[.stopSlot .bgA false, .stopSlot .bgB false], .setState .idle, rfl, rfl⟩
  | stopEffect => exact .inl ⟨[.stopSlot .effect false], .setState .idle, rfl, rfl⟩

structure Course (s : AudioRuntime) : Prop where
  due : Due s.Settled s.task
  failed : s.task = .waiting → s.state = .error → s.failed = true

theorem Slots.alive_of_task (h : s.Slots) (slot : RuntimeSlot)
    (hslot : (s.channels slot).task.isNone = false) : ∃ i, s.slotOf i ≠ none := by
  cases htask : (s.channels slot).task with
  | none =>
    rw [htask] at hslot
    cases hslot
  | some i =>
    refine ⟨i, ?_⟩
    rw [h.recorded slot i htask]
    exact Option.some_ne_none slot

/-- A state without readers in which no slot has a task stays settled as a reader ends. The last
    reader finds no task and sets the state to idle. -/
theorem Slots.settled_finish (h : s.Slots) (htask : s.readers i = .finishes slot) :
    (s.readerFinished i slot).Settled := by
  have hslots := h.finish htask
  by_cases hnone : (s.setChannel slot { task := none, waiter := false, done := true }).noTask = true
  · refine .inl (.inl ?_)
    show (if _ then RuntimeState.idle else s.state) = .idle
    rw [if_pos hnone]
  refine .inr ?_
  replace hnone := Bool.eq_false_iff.2 hnone
  unfold noTask at hnone
  rw [Bool.and_eq_false_iff, Bool.and_eq_false_iff] at hnone
  rcases hnone with (hbgA | hbgB) | heffect
  · exact hslots.alive_of_task .bgA hbgA
  · exact hslots.alive_of_task .bgB hbgB
  · exact hslots.alive_of_task .effect heffect

theorem Slots.settled_read (h : s.Slots) (hsettled : s.Settled) (hread : s.read i = some s') :
    s'.Settled := by
  unfold AudioRuntime.read at hread
  -- A reader that stays where it is.
  have hkeep : ∀ (o : AudioRuntime) (task : ReaderTask), o.readers = s.readers →
      task.slot = (s.readers i).slot →
      (s.state = .idle ∨ s.state = .error → o.state = .idle ∨ o.state = .error) →
      (o.setReader i task).Settled := by
    intro o task ho hslot hstate
    rcases hsettled with hcalm | ⟨j, hj⟩
    · exact .inl (hstate hcalm)
    refine .inr ⟨j, ?_⟩
    show (update o.readers i task j).slot ≠ none
    by_cases hji : j = i
    · rw [hji, update_self, hslot, ← hji]
      exact hj
    · rw [update_of_ne hji, ho]
      exact hj
  cases htask : s.readers i with
  | gone =>
    rw [htask] at hread
    cases hread
  | clearsStop slot | notifies waiter =>
    rw [htask] at hread
    cases hread
    exact hkeep _ _ rfl (by rw [htask]; rfl) id
  | starts slot =>
    rw [htask] at hread
    cases hread
    refine hkeep _ _ rfl (by rw [htask]; rfl) fun hcalm => ?_
    show (if s.state = RuntimeState.starting then RuntimeState.playing else s.state) = .idle ∨
      (if s.state = RuntimeState.starting then RuntimeState.playing else s.state) = .error
    rw [if_neg]
    · exact hcalm
    intro hstarting
    rw [hstarting] at hcalm
    rcases hcalm with hidle | herror
    · cases hidle
    · cases herror
  | finishes slot =>
    rw [htask] at hread
    cases hread
    exact h.settled_finish htask

/-- A reader leaves the runtime task and its last command alone, and does not set the state to
    error. -/
theorem read_kept (hread : s.read i = some s') :
    s'.task = s.task ∧ s'.failed = s.failed ∧ (s'.state = .error → s.state = .error) := by
  unfold AudioRuntime.read at hread
  cases htask : s.readers i with
  | gone =>
    rw [htask] at hread
    cases hread
  | clearsStop slot | notifies waiter =>
    rw [htask] at hread
    cases hread
    exact ⟨rfl, rfl, id⟩
  | starts slot =>
    rw [htask] at hread
    cases hread
    refine ⟨rfl, rfl, fun herror => ?_⟩
    replace herror : (if s.state = RuntimeState.starting then RuntimeState.playing
      else s.state) = .error := herror
    split at herror
    · cases herror
    · exact herror
  | finishes slot =>
    rw [htask] at hread
    cases hread
    refine ⟨rfl, rfl, fun herror => ?_⟩
    replace herror : (if _ then RuntimeState.idle else s.state) = .error := herror
    split at herror
    · cases herror
    · exact herror

theorem alive_iff : s.alive = true ↔ ∃ i < s.created, s.slotOf i ≠ none := by
  unfold alive
  rw [List.any_eq_true]
  refine ⟨fun ⟨i, hi, hlive⟩ => ⟨i, List.mem_range.1 hi, ?_⟩,
    fun ⟨i, hi, hlive⟩ => ⟨i, List.mem_range.2 hi, Option.isSome_iff_ne_none.2 hlive⟩⟩
  exact Option.isSome_iff_ne_none.1 hlive

theorem Course.exec (h : s.Course) {op : AudioOp} (hin : InTime s (.go reply))
    (htask : s.task = .next (op :: rest)) :
    Due (s.exec reply rest op).Settled (s.exec reply rest op).task := by
  have hdue := h.due
  rw [htask] at hdue
  replace hin : goesInTime s s.task = true := hin
  rw [htask] at hin
  rcases hdue with hclosing | ⟨hsettled, hops⟩
  · -- The statement is the last one and closes, or one of the statements behind it does.
    rcases hclosing.cons with ⟨hrest, hop⟩ | hrest
    · subst hrest
      cases op with
      | clearPaused | setPaused | checkStorage | stopSlot _ _ | switchTo _ | checkPause
      | checkResume => cases hop
      | setState state =>
        refine .inr ⟨?_, .inl rfl⟩
        cases state with
        | idle => exact .inl (.inl rfl)
        | playing | paused =>
          rcases alive_iff.1 hin with ⟨i, -, hi⟩
          exact .inr ⟨i, hi⟩
        | starting | stopping | error => cases hop
      | checkBackground =>
        refine .inl ?_
        rw [List.append_nil]
        unfold routeBackground
        split
        · exact ⟨[_], _, rfl, rfl⟩
        · exact ⟨[_], _, rfl, rfl⟩
      | startSlot slot =>
        simp only [AudioRuntime.exec]
        split
        · exact .inl rfl
        · exact .inl rfl
      | waitPrimed oldSlot nextSlot =>
        refine .inl ?_
        rw [List.append_nil]
        cases reply with
        | true => exact ⟨[_, _], _, rfl, rfl⟩
        | false => exact ⟨[_], _, rfl, rfl⟩
    · cases op with
      | clearPaused | setPaused | setState _ | switchTo _ => exact .inl hrest
      | stopSlot _ _ => exact hrest
      | checkBackground | waitPrimed _ _ | checkPause | checkResume => exact .inl (hrest.append _)
      | checkStorage =>
        cases reply with
        | true => exact .inl hrest
        | false => exact .inl rfl
      | startSlot slot =>
        simp only [AudioRuntime.exec]
        split
        · exact .inl rfl
        · exact .inr hrest
  · -- A pause or a resume that finds nothing to do leaves the state as it is.
    rcases hops with hnone | hpause | hresume
    · cases hnone
    · cases hpause
      by_cases hstate : s.state = .playing ∨ s.state = .starting
      · refine .inl ?_
        rw [if_pos hstate]
        exact ⟨[_], _, rfl, rfl⟩
      · refine .inr ⟨hsettled, .inl ?_⟩
        rw [if_neg hstate]
        rfl
    · cases hresume
      by_cases hstate : s.state = .paused
      · refine .inl ?_
        rw [if_pos hstate]
        exact ⟨[_], _, rfl, rfl⟩
      · refine .inr ⟨hsettled, .inl ?_⟩
        rw [if_neg hstate]
        rfl

/-- A statement does not end a command. -/
theorem exec_task_ne (s : AudioRuntime) (reply : Bool) (rest : List AudioOp) (op : AudioOp) :
    (s.exec reply rest op).task ≠ .waiting := by
  intro heq
  cases op with
  | startSlot slot =>
    simp only [AudioRuntime.exec] at heq
    split at heq
    · cases heq
    · cases heq
  | checkStorage =>
    cases reply with
    | true => cases heq
    | false => cases heq
  | _ => cases heq

theorem Course.go (h : s.Course) (hin : InTime s (.go reply)) (hgo : s.go reply = some s') :
    s'.Course := by
  have hdue := h.due
  unfold AudioRuntime.go at hgo
  -- A step behind which the task is inside a command.
  have hinside : ∀ o : AudioRuntime, o.task ≠ .waiting → Due o.Settled o.task → o.Course :=
    fun o htask hnext => ⟨hnext, fun hwaiting => absurd hwaiting htask⟩
  cases htask : s.task with
  | waiting =>
    rw [htask] at hgo
    cases hgo
  | next ops =>
    rw [htask] at hgo hdue
    cases ops with
    | nil =>
      cases hgo
      refine ⟨?_, fun _ herror => decide_eq_true herror⟩
      rcases hdue with ⟨front, op, hnil, -⟩ | ⟨hsettled, -⟩
      · cases front with
        | nil => cases hnil
        | cons _ _ => cases hnil
      · exact hsettled
    | cons op rest =>
      cases hgo
      exact hinside _ (exec_task_ne s reply rest op) (h.exec hin htask)
  | markStopping slot orReturn rest | dropNotice slot orReturn rest | clearBits slot rest
  | markStarting slot rest =>
    rw [htask] at hgo hdue
    cases hgo
    exact hinside _ nofun hdue
  | checkReader slot orReturn rest =>
    rw [htask] at hgo hdue
    cases hgo
    unfold AudioRuntime.checkReader
    split
    · exact hinside _ nofun (.inl hdue)
    split
    · exact hinside _ nofun (.inl hdue)
    · exact hinside _ nofun hdue
  | awaitReader slot orReturn rest =>
    rw [htask] at hgo hdue
    simp only at hgo
    split at hgo
    · cases hgo
      exact hinside _ nofun (.inl hdue)
    · cases hgo
      exact hinside _ nofun hdue
  | forgetWaiter slot orReturn rest =>
    rw [htask] at hgo hdue
    cases hgo
    refine hinside _ nofun ?_
    cases orReturn with
    | true => exact .inl rfl
    | false => exact .inr hdue
  | createTask slot rest =>
    rw [htask] at hgo hdue
    simp only at hgo
    split at hgo
    · cases hgo
      exact hinside _ nofun hdue
    · cases hgo
      exact hinside _ nofun trivial
  | destroyCtx slot =>
    rw [htask] at hgo
    cases hgo
    exact hinside _ nofun (.inl rfl)
  | record slot reader rest =>
    replace hin : goesInTime s s.task = true := hin
    rw [htask] at hgo hdue hin
    cases hgo
    refine hinside _ nofun ?_
    rcases hdue with hrest | hclosing
    · exact .inr ⟨.inr ⟨reader, Option.isSome_iff_ne_none.1 hin⟩, .inl hrest⟩
    · exact .inl hclosing
  | fail rest =>
    rw [htask] at hgo hdue
    cases hgo
    refine hinside _ nofun ?_
    rcases hdue with hrest | hclosing
    · exact .inr ⟨.inl (.inr rfl), .inl hrest⟩
    · exact .inl hclosing

theorem Course.step (h : s.Course) (hslots : s.Slots) (act : AudioStep) (hin : InTime s act)
    (hstep : audioStep s act = some s') : s'.Course := by
  cases act with
  | receive command =>
    replace hstep : s.receive command = some s' := hstep
    unfold AudioRuntime.receive at hstep
    have hdue := h.due
    cases htask : s.task with
    | waiting =>
      rw [htask] at hstep hdue
      cases hstep
      exact ⟨due_handler hdue command, nofun⟩
    | _ =>
      rw [htask] at hstep
      cases hstep
  | go reply => exact h.go hin hstep
  | read reader =>
    rcases read_kept hstep with ⟨htask, hfailed, hstate⟩
    refine ⟨?_, fun hwaiting herror => ?_⟩
    · rw [htask]
      exact h.due.mono fun hsettled => hslots.settled_read hsettled hstep
    · rw [hfailed]
      exact h.failed (htask ▸ hwaiting) (hstate herror)

theorem Slots.atStart : Slots atStart where
  fresh := fun _ _ => ⟨rfl, rfl⟩
  unique := nofun
  ctx := nofun
  held := nofun
  claimed := nofun
  recorded := nofun
  pending := nofun
  asked := nofun

theorem Course.atStart : Course atStart where
  due := .inl (.inl rfl)
  failed := nofun

theorem lifecycle (hslots : s.Slots) (hcourse : s.Course) : s.Lifecycle where
  oneReader := hslots.unique
  recordedEnded := fun slot hnone => by
    refine .inl ?_
    cases htask : (s.channels slot).task with
    | none => rfl
    | some i => exact absurd (hslots.recorded slot i htask) (hnone i)
  stopReturns := fun slot orReturn rest _ hnone => by
    unfold AudioRuntime.checkReader
    cases htask : (s.channels slot).task with
    | none => rfl
    | some i => exact absurd (hslots.recorded slot i htask) (hnone i)
  playStarts := fun slot rest reply htask hnone => by
    have hfree : s.ctxInUse slot = false := by
      refine Bool.eq_false_iff.2 fun hused => ?_
      rcases hslots.held slot hused with ⟨i, hi⟩ | hclaim
      · exact hnone i hi
      · rw [htask] at hclaim
        cases hclaim
    simp only [AudioRuntime.exec, hfree]
    rfl
  stopSeen := hslots.asked
  idle := fun hwaiting hnone => by
    have hdue := hcourse.due
    rw [hwaiting] at hdue
    rcases hdue with (hidle | herror) | ⟨i, hi⟩
    · exact .inl hidle
    · exact .inr (hcourse.failed hwaiting herror)
    · exact absurd (hnone i) hi

/-- **In every run in which no reader is recorded behind its end, no reader clears a stop that
    was requested, and no handler sets the state to playing or paused behind the last reader:
    a slot has one reader, a slot whose reader has ended can be stopped and started at once, a
    reader sees the stop that was requested from it, and without readers the state is idle
    between commands, unless the last one ended in an error.** -/
theorem readers_keep_lifecycle (acts : List AudioStep) (s : AudioRuntime)
    (hin : Lib.EachStep audioStep InTime atStart acts)
    (hrun : Lib.run audioStep atStart acts = some s) : s.Lifecycle := by
  have hstart : atStart.Slots ∧ atStart.Course := ⟨Slots.atStart, Course.atStart⟩
  have hstep : ∀ (s : AudioRuntime) act s', s.Slots ∧ s.Course → InTime s act →
      audioStep s act = some s' → s'.Slots ∧ s'.Course := fun s act s' hboth hin hnext =>
    ⟨hboth.1.step act hin hnext, hboth.2.step hboth.1 act hin hnext⟩
  have hinv := Lib.invariant_of_run hstep hstart hin hrun
  exact lifecycle hinv.1 hinv.2

/-! ### Runs in time, and too late -/

/-- A play on the effect channel, up to the creation of the reader. -/
def creating : List AudioStep := .receive .playEffect :: List.replicate 8 (.go true)

/-- The reader is recorded, and the handler returns. -/
def returning : List AudioStep := [.go true, .go true]

/-- The reader starts. -/
def starting : List AudioStep := [.read 0, .read 0]

/-- Where a run leads. -/
def after (acts : List AudioStep) : AudioRuntime := (Lib.run audioStep atStart acts).getD {}

theorem run_after (acts : List AudioStep) (hsome : (Lib.run audioStep atStart acts).isSome = true) :
    Lib.run audioStep atStart acts = some (after acts) := by
  rcases Option.isSome_iff_exists.1 hsome with ⟨s, hs⟩
  unfold after
  rw [hs]
  rfl

/-- A file is played to its end. -/
theorem readers_keep_lifecycle_one :
    (after (creating ++ returning ++ starting ++ [.read 0, .read 0])).state = .idle ∧
    (after (creating ++ returning ++ starting ++ [.read 0, .read 0])).Lifecycle :=
  ⟨by decide +kernel, readers_keep_lifecycle _ _ (by decide +kernel)
    (run_after _ (by decide +kernel))⟩

/-- A reader that ends before it is recorded leaves its slot busy; a stop is lost on a reader that
    has not started; and a pause behind the last reader leaves the runtime paused. -/
theorem not_everyRunRecorded : ¬(∀ acts s, Lib.run audioStep atStart acts = some s →
      ∀ slot, (∀ i, s.slotOf i ≠ some slot) →
        (s.channels slot).task = none ∨ (s.channels slot).done = true) ∧
    ¬(∀ acts s, Lib.run audioStep atStart acts = some s →
      ∀ slot i, s.slotOf i = some slot → s.asked i = true → s.stopSeen slot = true) ∧
    ¬(∀ acts s, Lib.run audioStep atStart acts = some s →
      s.task = .waiting → (∀ i, s.slotOf i = none) → s.state = .idle ∨ s.failed = true) := by
  refine ⟨fun hrecorded => ?_, fun hseen => ?_, fun hidle => ?_⟩
  · have hlate := hrecorded _ _ (run_after (creating ++ starting ++ [.read 0] ++ returning)
      (by decide +kernel)) .effect ?_
    · revert hlate
      decide +kernel
    intro i
    cases i with
    | zero => decide +kernel
    | succ i => exact nofun
  · have hlost := hseen _ _ (run_after (creating ++ returning ++
      [.receive .stopEffect, .go true, .read 0]) (by decide +kernel)) .effect 0 (by decide +kernel)
      (by decide +kernel)
    revert hlost
    decide +kernel
  · have hpaused := hidle _ _ (run_after (creating ++ returning ++ starting ++
      [.receive .pause, .go true, .read 0, .go true, .go true, .go true]) (by decide +kernel))
      (by decide +kernel) ?_
    · revert hpaused
      decide +kernel
    intro i
    cases i with
    | zero => decide +kernel
    | succ i => rfl

end AudioRuntime

end SceneHub.Hub
