import Mathlib.Data.List.Infix
import SceneHub.Desktop.GmVersionsWs
import SceneHub.Theory.Invalidations

/-!
# Stale Queries

Whether the desktop app invalidates every query whose data has changed on the hub, over every
order of changes, messages, disconnects and timers.

The messages that are ignored do no harm, since only the versions are: every invalidation goes
into one of the maps, a map is flushed once its timer fires, and a resync that empties the maps
invalidates all there is. What does harm is a message that the client never gets. It is lost
when the client is not subscribed, with the connection, or with the maps, and nothing makes up
for it when the client subscribes again.

## Main definitions

* `Untold`: What has changed and was not broadcast since.
* `Harmless`: The steps that lose nothing the client needs.
* `UpToDate`: What is promised of the queries.
* `Inv`: How what is stale will be invalidated.

## Theorems

* `awaits_queue`: An invalidation that is put into a map is awaited there.
* `inv_step`: A harmless step keeps the invariant.
* `catch_up`: What the client does when nobody else does anything.
* `queries_fresh`: The queries over every run of harmless steps.
* `untold_of_quiet`: A quiet hub that has lost nothing has told everything.
-/

namespace SceneHub.Desktop

open Hub

variable {log : List DeskEntry} {keys : List QueryKey} {acts : List DeskStep}
  {message : Broadcast}

/-- What a message makes the client invalidate. The versions may be ignored. -/
def messageKeys : Broadcast → List QueryKey
  | .versions _ _ => []
  | .invalidation slice target _ _ => applyInvalidation slice target
  | .resync _ _ => applyResyncRequired

def Covering (keys : List QueryKey) (key : QueryKey) : Bool :=
  keys.any fun k => k.isPrefixOf key

theorem covering_iff {key : QueryKey} : Covering keys key = true ↔ ∃ k ∈ keys, k <+: key := by
  unfold Covering
  simp only [List.any_eq_true, List.isPrefixOf_iff_prefix]

def StaleKeys : List DeskEntry → List QueryKey
  | [] => []
  | .changed key :: past => key :: StaleKeys past
  | .broadcast _ :: past => StaleKeys past
  | .invalidated key :: past => (StaleKeys past).filter fun stale => !key.isPrefixOf stale

def Untold : List DeskEntry → List QueryKey
  | [] => []
  | .changed key :: past => key :: Untold past
  | .broadcast message :: past =>
    (Untold past).filter fun key => !Covering (messageKeys message) key
  | .invalidated _ :: past => Untold past

theorem staleKeys_of_stale {query : QueryKey} (h : Stale log query = true) :
    ∃ key ∈ StaleKeys log, key <+: query := by
  induction log with
  | nil => cases h
  | cons entry past ih =>
    cases entry with
    | changed key =>
      rcases Bool.or_eq_true_iff.1 h with hkey | hpast
      · exact ⟨key, .head _, List.isPrefixOf_iff_prefix.1 hkey⟩
      · rcases ih hpast with ⟨k, hk, hquery⟩
        exact ⟨k, .tail _ hk, hquery⟩
    | broadcast message => exact ih h
    | invalidated key =>
      rcases Bool.and_eq_true_iff.1 h with ⟨hnot, hpast⟩
      rcases ih hpast with ⟨k, hk, hquery⟩
      refine ⟨k, List.mem_filter.2 ⟨hk, ?_⟩, hquery⟩
      -- What covers a key also covers its queries.
      cases hprefix : key.isPrefixOf k with
      | false => rfl
      | true =>
        have := (List.isPrefixOf_iff_prefix.1 hprefix).trans hquery
        rw [List.isPrefixOf_iff_prefix.2 this] at hnot
        cases hnot

theorem mem_staleKeys_changed {key : QueryKey} :
    key ∈ StaleKeys (keys.map DeskEntry.changed ++ log) ↔ key ∈ keys ∨ key ∈ StaleKeys log := by
  induction keys with
  | nil => simp
  | cons first rest ih =>
    rw [List.map_cons, List.cons_append, StaleKeys, List.mem_cons, ih, List.mem_cons, or_assoc]

theorem mem_untold_changed {key : QueryKey} :
    key ∈ Untold (keys.map DeskEntry.changed ++ log) ↔ key ∈ keys ∨ key ∈ Untold log := by
  induction keys with
  | nil => simp
  | cons first rest ih =>
    rw [List.map_cons, List.cons_append, Untold, List.mem_cons, ih, List.mem_cons, or_assoc]

theorem mem_staleKeys_invalidated {key : QueryKey} :
    key ∈ StaleKeys (keys.map DeskEntry.invalidated ++ log) ↔
      key ∈ StaleKeys log ∧ Covering keys key = false := by
  induction keys with
  | nil => simp [Covering]
  | cons first rest ih =>
    rw [List.map_cons, List.cons_append, StaleKeys, List.mem_filter, ih]
    simp only [Covering, List.any_cons, Bool.or_eq_false_iff, Bool.not_eq_true']
    constructor
    · rintro ⟨⟨hstale, hrest⟩, hfirst⟩
      exact ⟨hstale, hfirst, hrest⟩
    · rintro ⟨hstale, hfirst, hrest⟩
      exact ⟨⟨hstale, hrest⟩, hfirst⟩

theorem untold_invalidated (keys : List QueryKey) (log : List DeskEntry) :
    Untold (keys.map DeskEntry.invalidated ++ log) = Untold log := by
  induction keys with
  | nil => rfl
  | cons first rest ih => exact ih

/-! ### The client -/

namespace Client

variable {c : Client} {key : QueryKey}

/-- The client will invalidate a key when its timers fire. -/
def awaits (c : Client) (key : QueryKey) : Bool :=
  Covering (applyAll (c.pendingInvalidations ++ c.pendingRuntimeInvalidations)) key

theorem awaits_iff : c.awaits key = true ↔
    (∃ item ∈ c.pendingInvalidations,
      Covering (applyInvalidation item.slice item.target) key = true) ∨
    ∃ item ∈ c.pendingRuntimeInvalidations,
      Covering (applyInvalidation item.slice item.target) key = true := by
  unfold awaits applyAll
  simp only [covering_iff, List.mem_flatMap, List.mem_append]
  constructor
  · rintro ⟨k, ⟨item, hitem | hitem, hk⟩, hkey⟩
    · exact .inl ⟨item, hitem, k, hk, hkey⟩
    · exact .inr ⟨item, hitem, k, hk, hkey⟩
  · rintro (⟨item, hitem, k, hk, hkey⟩ | ⟨item, hitem, k, hk, hkey⟩)
    · exact ⟨k, ⟨item, .inl hitem, hk⟩, hkey⟩
    · exact ⟨k, ⟨item, .inr hitem, hk⟩, hkey⟩

/-- A map that is not empty has a timer. -/
structure Timed (c : Client) : Prop where
  flush : c.pendingInvalidations ≠ [] → c.invalidationFlushTimer.isSome = true
  flushRuntime :
    c.pendingRuntimeInvalidations ≠ [] → c.runtimeInvalidationFlushTimer.isSome = true

theorem mem_setInvalidation (items : List Invalidation) (item : Invalidation) :
    item ∈ setInvalidation items item := by
  unfold setInvalidation
  by_cases hitem : item ∈ items
  · rw [if_pos hitem]
    exact hitem
  · rw [if_neg hitem]
    exact List.mem_append_right _ List.mem_cons_self

theorem mem_setInvalidation_of_mem {items : List Invalidation} {old : Invalidation}
    (item : Invalidation) (h : old ∈ items) : old ∈ setInvalidation items item := by
  unfold setInvalidation
  by_cases hitem : item ∈ items
  · rw [if_pos hitem]
    exact h
  · rw [if_neg hitem]
    exact List.mem_append_left _ h

/-- An invalidation that is put into a map is awaited there, and so is what was before. -/
theorem awaits_queue (now : Int) (item : Invalidation)
    (h : c.awaits key = true ∨ Covering (applyInvalidation item.slice item.target) key = true) :
    (c.queueInvalidation now item).awaits key = true := by
  rw [awaits_iff] at h ⊢
  unfold queueInvalidation queueRuntimeInvalidation
  by_cases hslice : item.slice = .roomRuntime
  · rw [if_pos hslice]
    rcases h with (hold | ⟨old, hold, hkey⟩) | hkey
    · exact .inl hold
    · exact .inr ⟨old, mem_setInvalidation_of_mem item hold, hkey⟩
    · exact .inr ⟨item, mem_setInvalidation _ item, hkey⟩
  rw [if_neg hslice]
  rcases h with (⟨old, hold, hkey⟩ | hold) | hkey
  · exact .inl ⟨old, mem_setInvalidation_of_mem item hold, hkey⟩
  · exact .inr hold
  · exact .inl ⟨item, mem_setInvalidation _ item, hkey⟩

theorem timed_queue (h : Timed c) (now : Int) (item : Invalidation) :
    Timed (c.queueInvalidation now item) := by
  unfold queueInvalidation queueRuntimeInvalidation
  by_cases hslice : item.slice = .roomRuntime
  · rw [if_pos hslice]
    refine ⟨h.flush, fun _ => ?_⟩
    cases hdelay : c.runtimeInvalidationFlushTimer <;> rfl
  · rw [if_neg hslice]
    refine ⟨fun _ => ?_, h.flushRuntime⟩
    cases hdelay : c.invalidationFlushTimer <;> rfl

end Client

namespace Desk

variable {s s' : Desk} {key : QueryKey}

/-! ### What is asked of the steps -/

/-- A message under way covers a key. -/
def underWay (s : Desk) (key : QueryKey) : Bool :=
  s.queue.any fun message => Covering (messageKeys message) key

theorem underWay_iff : s.underWay key = true ↔
    ∃ message ∈ s.queue, Covering (messageKeys message) key = true := by
  exact List.any_eq_true

/-- Nothing is lost that the client needs: if a message that is lost covers something that is
    stale, another one does too that is under way or in the maps, or the hub has not told it
    yet. -/
def Harmless (s : Desk) : DeskStep → Prop
  | .broadcast message => s.link ≠ .subscribed → ∀ key ∈ StaleKeys s.log, key ∈ Untold s.log →
    Covering (messageKeys message) key = true →
      s.underWay key = true ∨ s.client.awaits key = true
  | .disconnect => ∀ key ∈ StaleKeys s.log, s.underWay key = true →
    key ∈ Untold s.log ∨ s.client.awaits key = true
  | .remount => ∀ key ∈ StaleKeys s.log, s.underWay key = true ∨ s.client.awaits key = true →
    key ∈ Untold s.log
  | _ => True

instance (s : Desk) : (act : DeskStep) → Decidable (Harmless s act)
  | .broadcast _ => inferInstanceAs (Decidable (_ → ∀ key ∈ StaleKeys s.log, _ → _ → _ ∨ _))
  | .disconnect => inferInstanceAs (Decidable (∀ key ∈ StaleKeys s.log, _ → _ ∨ _))
  | .remount => inferInstanceAs (Decidable (∀ key ∈ StaleKeys s.log, _ ∨ _ → _))
  | .change _ => inferInstanceAs (Decidable True)
  | .connect => inferInstanceAs (Decidable True)
  | .subscribe => inferInstanceAs (Decidable True)
  | .forget => inferInstanceAs (Decidable True)
  | .receive _ => inferInstanceAs (Decidable True)
  | .flush => inferInstanceAs (Decidable True)
  | .flushRuntime _ => inferInstanceAs (Decidable True)

/-! ### What is promised -/

/-- The client is subscribed, the hub has broadcast all that has changed, and nothing is under
    way or awaited. -/
structure Settled (s : Desk) : Prop where
  link : s.link = .subscribed
  told : Untold s.log = []
  queue : s.queue = []
  timer : s.client.invalidationFlushTimer = none
  runtimeTimer : s.client.runtimeInvalidationFlushTimer = none

/-- Steps of the client at a time. -/
def Own (now : Int) (acts : List DeskStep) : Prop :=
  ∀ act ∈ acts, act = .receive now ∨ act = .flush ∨ act = .flushRuntime now

/-- When all is settled, no query is stale. Once the client is subscribed and the hub has
    broadcast what has changed, the client gets there by itself. -/
structure UpToDate (s : Desk) : Prop where
  fresh : Settled s → ∀ query, Stale s.log query = false
  settles : s.link = .subscribed → Untold s.log = [] → ∀ now, ∃ acts s', Own now acts ∧
    Lib.run deskStep s acts = some s' ∧ Settled s' ∧ ∀ query, Stale s'.log query = false

/-! ### The invariant -/

/-- What is stale was not told yet, is covered by a message under way, or is awaited. -/
structure Inv (s : Desk) : Prop where
  way : ∀ key ∈ StaleKeys s.log,
    key ∈ Untold s.log ∨ s.underWay key = true ∨ s.client.awaits key = true
  timed : s.client.Timed

theorem inv_change (h : Inv s) (keys : List QueryKey) :
    Inv { s with log := keys.map DeskEntry.changed ++ s.log } where
  way key hkey := by
    rcases mem_staleKeys_changed.1 hkey with hnew | hold
    · exact .inl (mem_untold_changed.2 (.inl hnew))
    · exact (h.way key hold).imp_left fun huntold => mem_untold_changed.2 (.inr huntold)
  timed := h.timed

theorem inv_broadcast (h : Inv s) (hsafe : Harmless s (.broadcast message)) :
    Inv (s.broadcast message) where
  way key hkey := by
    have hqueue : s.underWay key = true → (s.broadcast message).underWay key = true := by
      intro hold
      rcases underWay_iff.1 hold with ⟨old, hmem, hcovers⟩
      refine underWay_iff.2 ⟨old, ?_, hcovers⟩
      unfold broadcast
      by_cases hlink : s.link = .subscribed
      · rw [if_pos hlink]
        exact List.mem_append_left _ hmem
      · rw [if_neg hlink]
        exact hmem
    rcases h.way key hkey with huntold | hold | hawaits
    · cases hcovers : Covering (messageKeys message) key with
      | false => exact .inl (List.mem_filter.2 ⟨huntold, by rw [hcovers]; rfl⟩)
      | true =>
        -- The hub has told it with this message, which is on its way or was lost.
        by_cases hlink : s.link = .subscribed
        · refine .inr (.inl (underWay_iff.2 ⟨message, ?_, hcovers⟩))
          unfold broadcast
          rw [if_pos hlink]
          exact List.mem_append_right _ List.mem_cons_self
        · exact .inr ((hsafe hlink key hkey huntold hcovers).imp_left hqueue)
    · exact .inr (.inl (hqueue hold))
    · exact .inr (.inr hawaits)
  timed := h.timed

/-- The client does something: whatever it awaited and what it was told is awaited or
    invalidated. -/
theorem Inv.of_client (h : Inv s) (queue : List Broadcast) {r : Client × List QueryKey}
    (hrest : ∀ key, s.underWay key = true ∨ s.client.awaits key = true →
      ({ s with queue } : Desk).underWay key = true ∨ r.1.awaits key = true ∨
        Covering r.2 key = true) (htimed : r.1.Timed) : Inv ({ s with queue }.invalidate r) where
  way key hkey := by
    rcases mem_staleKeys_invalidated.1 hkey with ⟨hold, hnot⟩
    have huntold : Untold ({ s with queue }.invalidate r).log = Untold s.log :=
      untold_invalidated r.2 s.log
    rw [huntold]
    refine (h.way key hold).imp_right fun hway => ?_
    rcases hrest key hway with hqueue | hawaits | hcovering
    · exact .inl hqueue
    · exact .inr hawaits
    · rw [hnot] at hcovering
      cases hcovering
  timed := htimed

theorem all_rooms_prefix (kind : Segment) (roomId : Option (List Char)) :
    invalidateRoom kind none <+: invalidateRoom kind roomId := by
  cases roomId with
  | none => exact List.prefix_refl _
  | some room => exact ⟨[.id room], rfl⟩

theorem covering_resync {slice : Slice} {target : List Char}
    (h : Covering (applyInvalidation slice target) key = true) :
    Covering applyResyncRequired key = true := by
  rcases covering_iff.1 h with ⟨k, hk, hkey⟩
  have hmore : ∃ k' ∈ applyResyncRequired, k' <+: k := by
    have hstate : ∃ k' ∈ applyResyncRequired, k' <+: invalidateState :=
      ⟨_, .head _, List.prefix_refl _⟩
    have hroom : ∀ kind ∈ [Segment.roomRuntime, .roomProfiles, .roomScenarios], ∀ roomId,
        ∃ k' ∈ applyResyncRequired, k' <+: invalidateRoom kind roomId := by
      intro kind hkind roomId
      refine ⟨invalidateRoom kind none, ?_, all_rooms_prefix kind roomId⟩
      simp only [List.mem_cons, List.not_mem_nil, or_false] at hkind
      rcases hkind with rfl | rfl | rfl <;> decide
    generalize htargetId : (if target = [] then none else some target) = targetId
    unfold applyInvalidation at hk
    rw [htargetId] at hk
    cases slice with
    | fullSnapshot | roomCatalog => exact ⟨k, hk, List.prefix_refl k⟩
    | gmSidebarPresets => cases hk
    | systemSummary =>
      rw [List.mem_singleton.1 hk]
      exact hstate
    | roomRuntime =>
      rw [List.mem_singleton.1 hk]
      exact hroom _ (by decide) targetId
    | devicesCatalog | devicesRuntime =>
      rcases List.mem_pair.1 hk with rfl | rfl
      · exact hstate
      · exact hroom _ (by decide) none
    | roomScenarios | roomProfiles =>
      rcases List.mem_pair.1 hk with rfl | rfl
      · exact hroom _ (by decide) targetId
      · exact hroom _ (by decide) targetId
  rcases hmore with ⟨k', hk', hprefix⟩
  exact covering_iff.2 ⟨k', hk', hprefix.trans hkey⟩

/-- What the client awaited is awaited or invalidated after a message, and what the message
    covers is too. -/
theorem receive_way {c : Client} (now : Int) (message : Broadcast)
    (h : Covering (messageKeys message) key = true ∨ c.awaits key = true) :
    (c.receive now message).1.awaits key = true ∨
      Covering (c.receive now message).2 key = true := by
  cases message with
  | invalidation slice target scope reason =>
    refine .inl (Client.awaits_queue now { slice, target } ?_)
    exact h.symm
  | resync target reason =>
    refine .inr ?_
    rcases h with hcovers | hawaits
    · exact hcovers
    rcases Client.awaits_iff.1 hawaits with ⟨item, -, hitem⟩ | ⟨item, -, hitem⟩
    · exact covering_resync hitem
    · exact covering_resync hitem
  | versions generation versions =>
    have hawaits := h.resolve_left (by simp [messageKeys, Covering])
    refine .inl ?_
    -- The versions leave the maps as they are.
    unfold Client.receive Client.applyVersionsChanged
    dsimp only
    by_cases hignored : now < c.versionsIgnoreUntil
    · rw [if_pos hignored]
      exact hawaits
    rw [if_neg hignored]
    split
    · exact hawaits
    split
    · exact hawaits
    · exact hawaits

theorem receive_timed {c : Client} (h : c.Timed) (now : Int) (message : Broadcast) :
    (c.receive now message).1.Timed := by
  cases message with
  | invalidation slice target scope reason =>
    exact Client.timed_queue (c := { c with versionsIgnoreUntil := now + 500 })
      ⟨h.flush, h.flushRuntime⟩ now { slice, target }
  | resync target reason => exact ⟨fun hne => absurd rfl hne, fun hne => absurd rfl hne⟩
  | versions generation versions =>
    unfold Client.receive Client.applyVersionsChanged
    dsimp only
    by_cases hignored : now < c.versionsIgnoreUntil
    · rw [if_pos hignored]
      exact h
    rw [if_neg hignored]
    split
    · exact ⟨h.flush, h.flushRuntime⟩
    split
    · exact h
    · exact ⟨h.flush, h.flushRuntime⟩

theorem inv_receive (h : Inv s) {rest : List Broadcast} (hqueue : s.queue = message :: rest)
    (now : Int) : Inv ({ s with queue := rest }.invalidate (s.client.receive now message)) := by
  refine h.of_client rest (fun key hway => ?_) (receive_timed h.timed now message)
  rcases hway with hunder | hawaits
  · rcases underWay_iff.1 hunder with ⟨other, hother, hcovers⟩
    rw [hqueue] at hother
    rcases List.mem_cons.1 hother with rfl | hother
    · exact .inr (receive_way now other (.inl hcovers))
    · exact .inl (underWay_iff.2 ⟨other, hother, hcovers⟩)
  · exact .inr (receive_way now message (.inr hawaits))

theorem flush_way {items : List Invalidation} {item : Invalidation} (hitem : item ∈ items)
    (h : Covering (applyInvalidation item.slice item.target) key = true) :
    Covering (Client.applyAll items) key = true := by
  rcases covering_iff.1 h with ⟨k, hk, hkey⟩
  exact covering_iff.2 ⟨k, List.mem_flatMap.2 ⟨item, hitem, hk⟩, hkey⟩

theorem inv_flush (h : Inv s) : Inv (s.invalidate s.client.flushInvalidations) := by
  refine h.of_client s.queue (fun key hway => ?_)
    ⟨fun hne => absurd rfl hne, h.timed.flushRuntime⟩
  refine hway.imp_right fun hawaits => ?_
  rcases Client.awaits_iff.1 hawaits with ⟨item, hitem, hcovers⟩ | hruntime
  · exact .inr (flush_way hitem hcovers)
  · exact .inl (Client.awaits_iff.2 (.inr hruntime))

theorem inv_flushRuntime (h : Inv s) (now : Int) :
    Inv (s.invalidate (s.client.flushRuntimeInvalidations now)) := by
  refine h.of_client s.queue (fun key hway => ?_)
    ⟨h.timed.flush, fun hne => absurd rfl hne⟩
  refine hway.imp_right fun hawaits => ?_
  rcases Client.awaits_iff.1 hawaits with hother | ⟨item, hitem, hcovers⟩
  · exact .inl (Client.awaits_iff.2 (.inl hother))
  · exact .inr (flush_way hitem hcovers)

theorem inv_step {act : DeskStep} (h : Inv s) (hsafe : Harmless s act)
    (hs : deskStep s act = some s') : Inv s' := by
  cases act with
  | change keys =>
    cases hs
    exact inv_change h keys
  | broadcast message =>
    cases hs
    exact inv_broadcast h hsafe
  | connect | subscribe | forget =>
    dsimp only [deskStep] at hs
    split at hs
    · cases hs
      exact ⟨h.way, h.timed⟩
    · cases hs
  | disconnect =>
    dsimp only [deskStep] at hs
    split at hs
    · cases hs
    cases hs
    refine ⟨fun key hkey => ?_, h.timed⟩
    rcases h.way key hkey with huntold | hunder | hawaits
    · exact .inl huntold
    · exact (hsafe key hkey hunder).imp_right .inr
    · exact .inr (.inr hawaits)
  | receive now =>
    dsimp only [deskStep] at hs
    split at hs
    · cases hs
    rename_i message rest hqueue
    cases hs
    exact inv_receive h hqueue now
  | flush =>
    dsimp only [deskStep] at hs
    split at hs
    · cases hs
    · cases hs
      exact inv_flush h
  | flushRuntime now =>
    dsimp only [deskStep] at hs
    split at hs
    · cases hs
    · cases hs
      exact inv_flushRuntime h now
  | remount =>
    cases hs
    refine ⟨fun key hkey => ?_, fun hne => absurd rfl hne, fun hne => absurd rfl hne⟩
    rcases h.way key hkey with huntold | hrest
    · exact .inl huntold
    · exact .inl (hsafe key hkey hrest)

/-! ### The client alone -/

theorem receive_all (now : Int) : ∃ acts s', Own now acts ∧ Lib.run deskStep s acts = some s' ∧
    s'.queue = [] ∧ s'.link = s.link ∧ Untold s'.log = Untold s.log := by
  generalize hqueue : s.queue = queue
  induction queue generalizing s with
  | nil => exact ⟨[], s, nofun, rfl, hqueue, rfl, rfl⟩
  | cons message rest ih =>
    have hstep : deskStep s (.receive now) =
        some ({ s with queue := rest }.invalidate (s.client.receive now message)) := by
      dsimp only [deskStep]
      rw [hqueue]
    have hrest : ({ s with queue := rest }.invalidate (s.client.receive now message)).queue =
        rest := rfl
    rcases ih hrest with ⟨acts, s', hown, hrun, hempty, hlink, huntold⟩
    refine ⟨.receive now :: acts, s', List.forall_mem_cons.2 ⟨.inl rfl, hown⟩,
      (Lib.run_cons hstep acts).trans hrun, hempty, hlink, ?_⟩
    exact huntold.trans (untold_invalidated _ s.log)

theorem flush_if_set (now : Int) : ∃ acts s', Own now acts ∧
    Lib.run deskStep s acts = some s' ∧ s'.client.invalidationFlushTimer = none ∧
      s'.queue = s.queue ∧ s'.link = s.link ∧ Untold s'.log = Untold s.log := by
  cases htimer : s.client.invalidationFlushTimer with
  | none => exact ⟨[], s, nofun, rfl, htimer, rfl, rfl, rfl⟩
  | some delay =>
    have hstep : deskStep s .flush = some (s.invalidate s.client.flushInvalidations) := by
      dsimp only [deskStep]
      rw [htimer]
    refine ⟨[.flush], _, by simp [Own], (Lib.run_cons hstep []).trans rfl, rfl, rfl, rfl, ?_⟩
    exact untold_invalidated _ s.log

theorem flushRuntime_if_set (now : Int) : ∃ acts s', Own now acts ∧
    Lib.run deskStep s acts = some s' ∧ s'.client.runtimeInvalidationFlushTimer = none ∧
      s'.client.invalidationFlushTimer = s.client.invalidationFlushTimer ∧
        s'.queue = s.queue ∧ s'.link = s.link ∧ Untold s'.log = Untold s.log := by
  cases htimer : s.client.runtimeInvalidationFlushTimer with
  | none =>
    exact ⟨[], s, nofun, rfl, htimer, rfl, rfl, rfl, rfl⟩
  | some delay =>
    have hstep : deskStep s (.flushRuntime now) =
        some (s.invalidate (s.client.flushRuntimeInvalidations now)) := by
      dsimp only [deskStep]
      rw [htimer]
    refine ⟨[.flushRuntime now], _, by simp [Own], (Lib.run_cons hstep []).trans rfl, rfl, rfl,
      rfl, rfl, ?_⟩
    exact untold_invalidated _ s.log

/-- What the client does when nobody else does anything. -/
theorem catch_up (hlink : s.link = .subscribed) (htold : Untold s.log = []) (now : Int) :
    ∃ acts s', Own now acts ∧ Lib.run deskStep s acts = some s' ∧ Settled s' := by
  rcases s.receive_all now with ⟨first, s₁, hown₁, hrun₁, hqueue₁, hlink₁, huntold₁⟩
  rcases s₁.flush_if_set now with ⟨second, s₂, hown₂, hrun₂, htimer, hqueue₂, hlink₂, huntold₂⟩
  rcases s₂.flushRuntime_if_set now with
    ⟨third, s₃, hown₃, hrun₃, hruntime, hsame, hqueue₃, hlink₃, huntold₃⟩
  refine ⟨first ++ (second ++ third), s₃, ?_, ?_, ?_⟩
  · exact List.forall_mem_append.2 ⟨hown₁, List.forall_mem_append.2 ⟨hown₂, hown₃⟩⟩
  · rw [Lib.run_append hrun₁, Lib.run_append hrun₂]
    exact hrun₃
  exact ⟨(hlink₃.trans (hlink₂.trans hlink₁)).trans hlink,
    (huntold₃.trans (huntold₂.trans huntold₁)).trans htold,
    (hqueue₃.trans hqueue₂).trans hqueue₁, hsame.trans htimer, hruntime⟩

theorem harmless_of_own {now : Int} (h : Own now acts) : Lib.EachStep deskStep Harmless s acts := by
  induction acts generalizing s with
  | nil => trivial
  | cons act acts ih =>
    rcases List.forall_mem_cons.1 h with ⟨hact, hrest⟩
    constructor
    · rcases hact with rfl | rfl | rfl <;> trivial
    cases hnext : deskStep s act with
    | none => trivial
    | some next => exact ih hrest

theorem fresh_of_settled (h : Inv s) (hsettled : Settled s) (query : QueryKey) :
    Stale s.log query = false := by
  cases hstale : Stale s.log query with
  | false => rfl
  | true =>
    rcases staleKeys_of_stale hstale with ⟨key, hkey, -⟩
    rcases h.way key hkey with huntold | hunder | hawaits
    · rw [hsettled.told] at huntold
      cases huntold
    · rcases underWay_iff.1 hunder with ⟨message, hmessage, -⟩
      rw [hsettled.queue] at hmessage
      cases hmessage
    -- What is awaited has a timer.
    exfalso
    rcases Client.awaits_iff.1 hawaits with ⟨item, hitem, -⟩ | ⟨item, hitem, -⟩
    · have htimer := h.timed.flush (List.ne_nil_of_mem hitem)
      rw [hsettled.timer] at htimer
      cases htimer
    · have htimer := h.timed.flushRuntime (List.ne_nil_of_mem hitem)
      rw [hsettled.runtimeTimer] at htimer
      cases htimer

/-! ### Every run -/

theorem inv_start : Inv {} where
  way _ hkey := nomatch hkey
  timed := ⟨fun hne => absurd rfl hne, fun hne => absurd rfl hne⟩

theorem inv_run (h : Inv s) (heach : Lib.EachStep deskStep Harmless s acts)
    (hrun : Lib.run deskStep s acts = some s') : Inv s' :=
  Lib.invariant_of_run (fun _ _ _ h hsafe hs => inv_step h hsafe hs) h heach hrun

/-- In every run of harmless steps, no query stays stale. -/
theorem queries_fresh {acts : List DeskStep} (heach : Lib.EachStep deskStep Harmless {} acts)
    (hrun : Lib.run deskStep {} acts = some s) : UpToDate s where
  fresh := fresh_of_settled (inv_run inv_start heach hrun)
  settles hlink htold now := by
    rcases catch_up hlink htold now with ⟨own, s', hown, hrun', hsettled⟩
    have hinv := inv_run (inv_run inv_start heach hrun) (harmless_of_own hown) hrun'
    exact ⟨own, s', hown, hrun', hsettled, fresh_of_settled hinv hsettled⟩

def firstRoom : List Char := "r1".toList

def runtimeQuery (room : List Char) : QueryKey := [.roomRuntime, .id room]

def runtimeChanged : List DeskStep :=
  [.change [runtimeQuery firstRoom],
    .broadcast (.invalidation .roomRuntime firstRoom .room "watcher_session".toList)]

/-- The client gets the invalidation, ignores the versions, and its timer fires. -/
def listening : List DeskStep :=
  [.connect, .subscribe] ++ runtimeChanged ++
    [.broadcast (.versions 1 fun _ => 0), .receive 10, .receive 20, .flushRuntime 2510]

theorem queries_fresh_listening :
    (Lib.run deskStep {} listening).map (fun s => (Stale s.log (runtimeQuery firstRoom),
      s.client.lastVersions)) = some (false, none) ∧
    ∀ s, Lib.run deskStep {} listening = some s → UpToDate s :=
  ⟨by decide +kernel, fun _ hrun => queries_fresh (by decide +kernel) hrun⟩

/-- The runtime of a room changes when there is no connection, and the client subscribes. -/
def missed : List DeskStep :=
  runtimeChanged ++ [.connect, .subscribe]

/-- The effect of the hook runs again before a timer fires. -/
def cleared : List DeskStep :=
  [.connect, .subscribe] ++ runtimeChanged ++ [.receive 10, .remount, .connect, .subscribe]

/-- No run leaves a query stale. -/
def AlwaysUpToDate : Prop :=
  ∀ acts s, Lib.run deskStep {} acts = some s → UpToDate s

/-- The query of the room stays stale though the client is subscribed and nothing is under way. -/
theorem not_alwaysUpToDate :
    (Lib.run deskStep {} missed).map (fun s => Stale s.log (runtimeQuery firstRoom)) =
      some true ∧
    (Lib.run deskStep {} cleared).map (fun s => Stale s.log (runtimeQuery firstRoom)) =
      some true ∧ ¬AlwaysUpToDate := by
  refine ⟨by decide +kernel, by decide +kernel, fun h => ?_⟩
  have hfresh := (h missed _ rfl).fresh ⟨rfl, by decide +kernel, rfl, rfl, rfl⟩
    (runtimeQuery firstRoom)
  revert hfresh
  decide +kernel

/-! ### The messages of the hub -/

/-- What an entry of the hub is to the client. -/
def ofNotify : NotifyEntry → List DeskEntry
  | .needed need => (applyInvalidation need.slice need.target).map DeskEntry.changed
  | .sent message => [.broadcast message]

/-- What has happened on the hub. -/
def DeskEntry.ofHub : DeskEntry → Bool
  | .invalidated _ => false
  | _ => true

theorem untold_ofHub (log : List DeskEntry) : Untold (log.filter DeskEntry.ofHub) = Untold log := by
  induction log with
  | nil => rfl
  | cons entry past ih =>
    cases entry with
    | changed key => exact congrArg (key :: ·) ih
    | broadcast message =>
      exact congrArg (List.filter fun key => !Covering (messageKeys message) key) ih
    | invalidated key => exact ih

/-- An invalidation without a target makes the client invalidate at least as much. -/
theorem covering_untargeted {slice : Slice} {target : List Char}
    (h : key ∈ applyInvalidation slice target) :
    Covering (applyInvalidation slice []) key = true := by
  have hself : ∀ {keys : List QueryKey}, key ∈ keys → Covering keys key = true :=
    fun hmem => covering_iff.2 ⟨key, hmem, List.prefix_refl key⟩
  generalize htargetId : (if target = [] then none else some target) = targetId
  unfold applyInvalidation at h
  rw [htargetId] at h
  cases slice with
  | fullSnapshot => exact hself h
  | roomCatalog => exact hself h
  | devicesCatalog => exact hself h
  | devicesRuntime => exact hself h
  | systemSummary => exact hself h
  | gmSidebarPresets => cases h
  | roomRuntime =>
    rw [List.mem_singleton.1 h]
    exact covering_iff.2 ⟨_, .head _, all_rooms_prefix _ targetId⟩
  | roomScenarios | roomProfiles =>
    rcases List.mem_pair.1 h with rfl | rfl
    · exact covering_iff.2 ⟨_, .head _, all_rooms_prefix _ targetId⟩
    · exact covering_iff.2 ⟨_, .tail _ List.mem_cons_self,
        all_rooms_prefix _ targetId⟩

/-- A message that covers a need makes the client invalidate what is behind it. -/
theorem covering_of_covers {need : Need} (h : covers message need = true)
    (hkey : key ∈ applyInvalidation need.slice need.target) :
    Covering (messageKeys message) key = true := by
  cases message with
  | versions generation versions => cases h
  | resync target reason =>
    exact covering_resync (covering_iff.2 ⟨key, hkey, List.prefix_refl key⟩)
  | invalidation slice target scope reason =>
    simp only [covers, Bool.and_eq_true, Bool.or_eq_true, decide_eq_true_eq] at h
    rcases h with ⟨rfl, rfl | rfl⟩
    · exact covering_untargeted hkey
    · exact covering_iff.2 ⟨key, hkey, List.prefix_refl key⟩

/-- What the hub has not told belongs to what no message has covered. -/
theorem open_of_untold {log : List NotifyEntry} (h : key ∈ Untold (log.flatMap ofNotify)) :
    ∃ need ∈ Open log, key ∈ applyInvalidation need.slice need.target := by
  induction log with
  | nil => cases h
  | cons entry past ih =>
    rw [List.flatMap_cons] at h
    cases entry with
    | needed need =>
      rcases mem_untold_changed.1 h with hnew | hold
      · exact ⟨need, .head _, hnew⟩
      · rcases ih hold with ⟨other, hother, hkey⟩
        exact ⟨other, .tail _ hother, hkey⟩
    | sent message =>
      rcases List.mem_filter.1 h with ⟨hold, hnot⟩
      rcases ih hold with ⟨need, hneed, hkey⟩
      refine ⟨need, List.mem_filter.2 ⟨hneed, ?_⟩, hkey⟩
      cases hcovers : covers message need with
      | false => rfl
      | true =>
        rw [covering_of_covers hcovers hkey] at hnot
        cases hnot

theorem untold_of_quiet {hub : Notifier} (h : Notifier.Inv hub) (hquiet : Notifier.Quiet hub)
    (hlog : s.log.filter DeskEntry.ofHub = hub.log.flatMap ofNotify) : Untold s.log = [] := by
  rw [← untold_ofHub, hlog]
  refine List.eq_nil_iff_forall_not_mem.2 fun key hkey => ?_
  rcases open_of_untold hkey with ⟨need, hneed, -⟩
  rw [Notifier.open_of_quiet h hquiet] at hneed
  cases hneed

end Desk

end SceneHub.Desktop
