import Mathlib.Data.List.Induction
import Mathlib.Data.List.Nodup
import SceneHub.Executor.Pending

/-!
# Pending Commands

A request whose result is awaited stays in the table until it leaves it, and it
leaves once: with its result, when it is cancelled, with a reset, or with one
event that says it timed out. The ledger of a run notes what was tracked and
what left, told from the operations alone; the table balances it.

All this needs that the ids fit their arrays. An id that does not is compared
whole and kept cut off, so it can be tracked twice and is never recognised.

## Main definitions

* `due`: The requests whose time has come, in the order of the slots.
* `tracked`, `departed`: What an operation brings in and what it sends away.
* `Ledger`: The table with all that was tracked and all that left.
* `IdsFit`: An operation whose ids fit their arrays.
* `Balanced`: What holds of every ledger.

## Theorems

* `ceTimeReached_eq`: The clock never wraps around.
* `step_balanced`: Every operation keeps the balance.
* `pending_accounted`: What holds after every run.
-/

namespace SceneHub.Executor

open Ingest (ControlEvent)

open Lib (occupants)

variable {t : PendingTable}

/-! ### The ledger -/

/-- How a request leaves the table. -/
inductive Departure where
  | result
  | cancel
  | reset
  | timeout
  deriving DecidableEq, Repr

/-- The requests whose time has come, in the order of the slots. -/
def due (timer : TimerUs) (t : PendingTable) : List Pending :=
  (occupants t).filter fun p => p.deadlineMs.toNat ≤ timer.us / 1000

def withId (requestId : List Char) (t : PendingTable) : List Pending :=
  (occupants t).filter fun p => p.requestId = requestId

/-- The request a successful operation tracks, with its ids as they were given. -/
def tracked (t : PendingTable) : PendingOp → List Pending
  | .track timer requestId sourceId timeoutMs =>
    if (trackPending t timer.nowMs requestId sourceId timeoutMs).1 = .ok then
      [{ deadlineMs := deadlineMs timer.nowMs timeoutMs, requestId, sourceId }]
    else []
  | _ => []

/-- The requests an operation ends, and how. A poll ends the first that are due. -/
def departed (t : PendingTable) : PendingOp → List (Pending × Departure)
  | .track .. => []
  | .event none => []
  | .event (some message) =>
    if message.source = .result ∧ commandResultIsTerminal (String.ofList message.payload) then
      (withId message.actionId t).map fun p => (p, .result)
    else []
  | .cancel requestId => (withId requestId t).map fun p => (p, .cancel)
  | .poll timer maxEvents => ((due timer t).take maxEvents).map fun p => (p, .timeout)
  | .reset => (occupants t).map fun p => (p, .reset)

structure Ledger where
  table : PendingTable := .empty
  tracked : List Pending := []
  departed : List (Pending × Departure) := []
  deriving DecidableEq, Repr

def Ledger.step (l : Ledger) (op : PendingOp) : Ledger :=
  { table := stepPending l.table op
    tracked := Executor.tracked l.table op ++ l.tracked
    departed := Executor.departed l.table op ++ l.departed }

def ledger (ops : List PendingOp) : Ledger := ops.foldl Ledger.step {}

theorem ledger_concat (ops : List PendingOp) (op : PendingOp) :
    ledger (ops ++ [op]) = (ledger ops).step op := List.foldl_concat ..

theorem ledger_table (ops : List PendingOp) : (ledger ops).table = runPending ops := by
  induction ops using List.reverseRecOn with
  | nil => rfl
  | append_singleton ops op ih =>
    have hrun : runPending (ops ++ [op]) = stepPending (runPending ops) op :=
      List.foldl_concat ..
    rw [ledger_concat, hrun, ← ih]
    rfl

/-- The timeout event of a request, with its own ids. -/
def timeoutEvent (timer : TimerUs) (p : Pending) : ControlEvent :=
  { deviceId := p.sourceId
    actionId := p.requestId
    source := .result
    payload := "timeout".toList
    argsJson := []
    timestampMs := timer.us / 1000 }

/-- The ids fit the arrays they are kept in. -/
def IdsFit : PendingOp → Prop
  | .track _ requestId sourceId _ =>
    requestId.length < requestIdMaxLen ∧ sourceId.length < sourceIdMaxLen
  | _ => True

instance : DecidablePred IdsFit
  | .track _ _ _ _ => inferInstanceAs (Decidable (_ ∧ _))
  | .event _ => .isTrue trivial
  | .cancel _ => .isTrue trivial
  | .poll _ _ => .isTrue trivial
  | .reset => .isTrue trivial

/-! ### Times -/

theorem nowMs_toNat (timer : TimerUs) : timer.nowMs.toNat = timer.us / 1000 := by
  have h := timer.inRange
  unfold TimerUs.nowMs
  rw [UInt64.toNat_ofNat']
  exact Nat.mod_eq_of_lt (by omega)

/-- The latest deadline there can be. -/
def lastDeadline : Nat := 2 ^ 63 / 1000 + 2 ^ 32

theorem deadlineMs_toNat (timer : TimerUs) (timeoutMs : UInt32) :
    (deadlineMs timer.nowMs timeoutMs).toNat =
      timer.us / 1000 + (if timeoutMs ≠ 0 then timeoutMs.toNat else 3000) := by
  have h := timer.inRange
  have ht := timeoutMs.toNat_lt
  have hd : timeoutDefaultMs.toNat = 3000 := rfl
  unfold deadlineMs
  rw [UInt64.toNat_add, nowMs_toNat, UInt32.toNat_toUInt64]
  by_cases hz : timeoutMs ≠ 0
  · rw [if_pos hz, if_pos hz]
    omega
  · rw [if_neg hz, if_neg hz, hd]
    omega

/-- What holds of every deadline: it is neither zero nor far off. -/
structure DeadlineSound (deadlineMs : UInt64) : Prop where
  pos : 0 < deadlineMs.toNat
  last : deadlineMs.toNat ≤ lastDeadline

theorem deadlineMs_sound (timer : TimerUs) (timeoutMs : UInt32) :
    DeadlineSound (deadlineMs timer.nowMs timeoutMs) := by
  have h := timer.inRange
  have ht := timeoutMs.toNat_lt
  have hd := deadlineMs_toNat timer timeoutMs
  have hzero : timeoutMs ≠ 0 → 0 < timeoutMs.toNat := by
    intro hne
    rcases Nat.eq_zero_or_pos timeoutMs.toNat with hz | hpos
    · exact absurd (UInt32.toNat_inj.1 hz) hne
    · exact hpos
  constructor
  · rw [hd]
    split
    · next hne => exact Nat.add_pos_right _ (hzero hne)
    · omega
  · rw [hd]
    unfold lastDeadline
    split <;> omega

/-- The difference never wraps around. -/
theorem ceTimeReached_eq (timer : TimerUs) {deadline : UInt64} (h : DeadlineSound deadline) :
    ceTimeReached timer.nowMs deadline = decide (deadline.toNat ≤ timer.us / 1000) := by
  have hr := timer.inRange
  have hpos := h.pos
  have hlast := h.last
  have hnow := nowMs_toNat timer
  unfold lastDeadline at hlast
  have hz : 0 < deadline := UInt64.lt_iff_toNat_lt.2 hpos
  unfold ceTimeReached
  rw [decide_eq_true hz, Bool.true_and, UInt64.toNat_sub, hnow]
  by_cases hle : deadline.toNat ≤ timer.us / 1000
  · rw [decide_eq_true hle, decide_eq_true]
    omega
  · rw [decide_eq_false hle, decide_eq_false]
    omega

/-! ### The balance -/

/-- A request as the table keeps it. -/
structure Kept (p : Pending) : Prop where
  request : p.requestId ≠ []
  requestFits : p.requestId.length < requestIdMaxLen
  source : p.sourceId ≠ []
  sourceFits : p.sourceId.length < sourceIdMaxLen
  deadline : DeadlineSound p.deadlineMs

structure Balanced (l : Ledger) : Prop where
  distinct : ((occupants l.table).map Pending.requestId).Nodup
  kept : ∀ p ∈ occupants l.table, Kept p
  balance : l.tracked.Perm (l.departed.map Prod.fst ++ occupants l.table)

theorem strCopy_of_fits {size : Nat} {text : List Char} (h : text.length < size) :
    Ingest.strCopy size text = text := List.take_of_length_le (by omega)

theorem trackPending_cases (t : PendingTable) (timer : TimerUs) (requestId sourceId : List Char)
    (timeoutMs : UInt32) (hfit : IdsFit (.track timer requestId sourceId timeoutMs)) :
    let new : Pending := { deadlineMs := deadlineMs timer.nowMs timeoutMs, requestId, sourceId }
    let out := trackPending t timer.nowMs requestId sourceId timeoutMs
    (out.1 ≠ .ok ∧ out.2 = t) ∨
      (out.1 = .ok ∧ Kept new ∧ (∀ p ∈ occupants t, p.requestId ≠ requestId) ∧
        (occupants out.2).Perm (new :: occupants t)) := by
  intro new out
  have hout : out = trackPending t timer.nowMs requestId sourceId timeoutMs := rfl
  unfold trackPending at hout
  by_cases hempty : requestId = [] ∨ sourceId = []
  · rw [if_pos hempty] at hout
    exact Or.inl ⟨by rw [hout]; simp, by rw [hout]⟩
  rw [if_neg hempty] at hout
  rcases not_or.1 hempty with ⟨hrequest, hsource⟩
  by_cases hany : ((occupants t).any fun p => p.requestId = requestId) = true
  · rw [if_pos hany] at hout
    exact Or.inl ⟨by rw [hout]; simp, by rw [hout]⟩
  rw [if_neg hany, strCopy_of_fits hfit.1, strCopy_of_fits hfit.2] at hout
  cases hslots : Lib.occupy new t with
  | none =>
    rw [hslots] at hout
    exact Or.inl ⟨by rw [hout]; simp, by rw [hout]⟩
  | some t' =>
    rw [hslots] at hout
    refine Or.inr ⟨by rw [hout], ?_, ?_, ?_⟩
    · exact ⟨hrequest, hfit.1, hsource, hfit.2, deadlineMs_sound timer timeoutMs⟩
    · intro p hp heq
      exact hany (List.any_eq_true.2 ⟨p, hp, decide_eq_true heq⟩)
    · rw [hout]
      exact Lib.occupy_perm hslots

theorem clearPending_perm (hdistinct : ((occupants t).map Pending.requestId).Nodup)
    (hkept : ∀ p ∈ occupants t, Kept p) (requestId : List Char) :
    (occupants t).Perm (withId requestId t ++ occupants (clearPending t requestId)) := by
  unfold clearPending withId
  by_cases hempty : requestId = []
  · -- no request has an empty id
    have hnone : ((occupants t).filter fun p => p.requestId = requestId) = [] := by
      rw [List.filter_eq_nil_iff]
      intro p hp heq
      exact (hkept p hp).request ((of_decide_eq_true heq).trans hempty)
    rw [if_pos hempty, hnone]
    exact List.Perm.refl _
  · rw [if_neg hempty, ← Lib.filter_key_take_one Pending.requestId hdistinct requestId,
      ← Lib.drain_taken]
    exact Lib.drain_perm _ 1 t

theorem due_eq (hkept : ∀ p ∈ occupants t, Kept p) (timer : TimerUs) :
    ((occupants t).filter fun p => ceTimeReached timer.nowMs p.deadlineMs) = due timer t := by
  refine List.filter_congr fun p hp => ?_
  exact ceTimeReached_eq timer (hkept p hp).deadline

/-- A poll sends one event for each of the first requests that are due, and keeps
    the others. -/
theorem pollTimeouts_eq (hkept : ∀ p ∈ occupants t, Kept p) (timer : TimerUs) (maxEvents : Nat) :
    (pollTimeouts t timer.nowMs maxEvents).1 =
        ((due timer t).take maxEvents).map (fun p => some (timeoutEvent timer p)) ∧
      (occupants t).Perm ((due timer t).take maxEvents ++
        occupants (pollTimeouts t timer.nowMs maxEvents).2) := by
  have htaken := Lib.drain_taken (fun p => ceTimeReached timer.nowMs p.deadlineMs) maxEvents t
  have hperm := Lib.drain_perm (fun p => ceTimeReached timer.nowMs p.deadlineMs) maxEvents t
  rw [due_eq hkept] at htaken
  rw [htaken] at hperm
  refine ⟨?_, hperm⟩
  unfold pollTimeouts
  simp only [htaken]
  refine List.map_congr_left fun p hp => ?_
  have hp' := hkept p (List.mem_of_mem_filter (List.mem_of_mem_take hp))
  have hsource := hp'.sourceFits
  have hrequest := hp'.requestFits
  unfold sourceIdMaxLen at hsource
  unfold requestIdMaxLen at hrequest
  unfold makeDeviceControlResult timeoutEvent
  rw [if_neg (not_or.2 ⟨hp'.source, hp'.request⟩), strCopy_of_fits (by omega),
    strCopy_of_fits (by omega), strCopy_of_fits (by decide), nowMs_toNat]

theorem map_fst_pair (l : List Pending) (d : Departure) :
    (l.map fun p => (p, d)).map Prod.fst = l := by
  rw [List.map_map]
  exact List.map_id l

theorem onEvent_perm (hdistinct : ((occupants t).map Pending.requestId).Nodup)
    (hkept : ∀ p ∈ occupants t, Kept p) (message : ControlEvent) :
    (occupants t).Perm ((departed t (.event (some message))).map Prod.fst ++
      occupants (onEvent t (some message))) := by
  have hclear := clearPending_perm hdistinct hkept message.actionId
  simp only [departed, onEvent]
  by_cases hsource : message.source = .result
  · by_cases hend : commandResultIsTerminal (String.ofList message.payload) = true
    · rw [if_pos ⟨hsource, hend⟩, if_neg (fun hne => hne hsource), hend, map_fst_pair]
      exact hclear
    have hnot := Bool.eq_false_iff.2 hend
    rw [if_neg (fun hc => hend hc.2), if_neg (fun hne => hne hsource), hnot]
    exact List.Perm.refl _
  · rw [if_neg (fun hc => hsource hc.1), if_pos hsource]
    exact List.Perm.refl _

theorem Balanced.leave {l : Ledger} (h : Balanced l) {gone : List (Pending × Departure)}
    (hperm : (occupants l.table).Perm (gone.map Prod.fst ++ occupants t)) :
    Balanced { table := t, tracked := l.tracked, departed := gone ++ l.departed } := by
  refine ⟨?_, ?_, ?_⟩
  · have hids := (hperm.map Pending.requestId).nodup_iff.1 h.distinct
    rw [List.map_append] at hids
    exact (List.nodup_append.1 hids).2.1
  · intro p hp
    exact h.kept p (hperm.mem_iff.2 (List.mem_append_right _ hp))
  · refine h.balance.trans ((hperm.append_left _).trans ?_)
    rw [List.map_append, List.append_assoc, ← List.append_assoc, ← List.append_assoc]
    exact List.perm_append_comm.append_right _

theorem step_balanced {l : Ledger} (h : Balanced l) {op : PendingOp} (hfit : IdsFit op) :
    Balanced (l.step op) := by
  cases op with
  | track timer requestId sourceId timeoutMs =>
    rcases trackPending_cases l.table timer requestId sourceId timeoutMs hfit with
      ⟨herr, hsame⟩ | ⟨hok, hkept, hother, hperm⟩
    · have hstep : l.step (.track timer requestId sourceId timeoutMs) = l := by
        unfold Ledger.step tracked departed stepPending
        simp [if_neg herr, hsame]
      rw [hstep]
      exact h
    have hstep : l.step (.track timer requestId sourceId timeoutMs) =
        { table := (trackPending l.table timer.nowMs requestId sourceId timeoutMs).2
          tracked := { deadlineMs := deadlineMs timer.nowMs timeoutMs, requestId, sourceId } ::
            l.tracked
          departed := l.departed } := by
      unfold Ledger.step tracked departed stepPending
      simp [if_pos hok, List.singleton_append]
    rw [hstep]
    refine ⟨?_, ?_, ?_⟩
    · refine ((hperm.map Pending.requestId).nodup_iff).2 ?_
      rw [List.map_cons, List.nodup_cons]
      refine ⟨fun hmem => ?_, h.distinct⟩
      rcases List.mem_map.1 hmem with ⟨p, hp, heq⟩
      exact hother p hp heq
    · intro p hp
      rcases List.mem_cons.1 (hperm.mem_iff.1 hp) with heq | hp'
      · rw [heq]
        exact hkept
      · exact h.kept p hp'
    · refine (h.balance.cons _).trans (List.perm_middle.symm.trans ?_)
      exact (hperm.symm.append_left _)
  | event message =>
    cases message with
    | none => exact h.leave (List.Perm.refl _)
    | some message => exact h.leave (onEvent_perm h.distinct h.kept message)
  | cancel requestId =>
    refine h.leave ?_
    rw [departed, map_fst_pair]
    exact clearPending_perm h.distinct h.kept requestId
  | poll timer maxEvents =>
    refine h.leave ?_
    rw [departed, map_fst_pair]
    exact (pollTimeouts_eq h.kept timer maxEvents).2
  | reset =>
    have hempty : occupants (resetPending l.table) = [] := Lib.occupants_replicate maxPending
    refine h.leave ?_
    rw [departed, map_fst_pair, stepPending, hempty, List.append_nil]

/-! ### Runs -/

theorem ledger_balanced (ops : List PendingOp) (hfit : ∀ op ∈ ops, IdsFit op) :
    Balanced (ledger ops) := by
  induction ops using List.reverseRecOn with
  | nil =>
    have hempty : occupants PendingTable.empty = [] := Lib.occupants_replicate maxPending
    refine ⟨?_, ?_, ?_⟩
    · rw [show (ledger []).table = .empty from rfl, hempty]
      exact List.nodup_nil
    · intro p hp
      rw [show (ledger []).table = .empty from rfl, hempty] at hp
      exact nomatch hp
    · rw [show (ledger []).table = .empty from rfl, hempty]
      exact List.Perm.refl _
  | append_singleton ops op ih =>
    rw [ledger_concat]
    refine step_balanced (ih fun o ho => hfit o (List.mem_append_left _ ho)) ?_
    exact hfit op (List.mem_append_right _ List.mem_cons_self)

/-- After every run whose ids fit: the ids in the table are distinct, whatever was
    tracked has either left once or is in the table, and a poll sends its own event
    for each of the first requests that are due, as many as there is room for, which
    leave the table, and keeps all others. -/
theorem pending_accounted (ops : List PendingOp) (hfit : ∀ op ∈ ops, IdsFit op) :
    ((occupants (runPending ops)).map Pending.requestId).Nodup ∧
      (ledger ops).tracked.Perm
        ((ledger ops).departed.map Prod.fst ++ occupants (runPending ops)) ∧
      ∀ timer maxEvents,
        let out := pollTimeouts (runPending ops) timer.nowMs maxEvents
        out.1 = ((due timer (runPending ops)).take maxEvents).map
            (fun p => some (timeoutEvent timer p)) ∧
          out.1.length ≤ maxEvents ∧
          (occupants (runPending ops)).Perm
            ((due timer (runPending ops)).take maxEvents ++ occupants out.2) ∧
          ∀ p ∈ occupants (runPending ops),
            p ∈ occupants out.2 ↔ p ∉ (due timer (runPending ops)).take maxEvents := by
  have h := ledger_balanced ops hfit
  have hdistinct := h.distinct
  have hkept := h.kept
  have hbalance := h.balance
  rw [ledger_table] at hdistinct hkept hbalance
  refine ⟨hdistinct, hbalance, fun timer maxEvents => ?_⟩
  rcases pollTimeouts_eq hkept timer maxEvents with ⟨hevents, hperm⟩
  refine ⟨hevents, ?_, hperm, fun p hp => ?_⟩
  · rw [hevents, List.length_map]
    exact List.length_take_le _ _
  have hnodup := hperm.nodup_iff.1 (List.Nodup.of_map _ hdistinct)
  constructor
  · intro hstays hleaves
    exact (List.nodup_append.1 hnodup).2.2 p hleaves p hstays rfl
  intro hstays
  rcases List.mem_append.1 (hperm.mem_iff.1 hp) with hleaves | hin
  · exact absurd hleaves hstays
  · exact hin

/-- One request, tracked at the start and polled three seconds later. -/
def overdueOps : List PendingOp :=
  [.track ⟨0, by decide⟩ "req-1".toList "door".toList 0, .poll ⟨3000000, by decide⟩ 4]

theorem overdue_accounted : (ledger overdueOps).tracked.Perm
      ((ledger overdueOps).departed.map Prod.fst ++ occupants (runPending overdueOps)) :=
  (pending_accounted overdueOps (by decide)).2.1

/-- An id of forty-eight characters is tracked twice. -/
theorem not_distinct_long_id : ¬ ∀ ops : List PendingOp,
      ((occupants (runPending ops)).map Pending.requestId).Nodup := by
  intro h
  have htwice := h (List.replicate 2
    (.track ⟨0, by decide⟩ (List.replicate 48 'a') "door".toList 0))
  exact absurd htwice (by decide)

end SceneHub.Executor
