import Mathlib.Tactic.Common

/-!
# Calls

Tasks make calls, each task one at a time, and a log says what happens to them. A
log is orderly if each event fits what happened before it. The log grows at its
front, so the events behind an event are its past.

Calls are numbered in the order in which they begin. A number that was never given
out occurs nowhere, so a new call is not confused with an old one, and as long as a
task is in a call, the call has not ended.

## Main definitions

* `Orderly`: Every event fits its past.
* `Numbered`: The numbers of the calls in a log and of those tasks are in.

## Theorems

* `Numbered.weaken`: Tasks leave calls, and numbers are passed over.
* `Numbered.note`: An event is added.
* `Numbered.begin`, `Numbered.finish`: A task begins a call, and a call ends.
-/

namespace SceneHub.Lib

open Function (update update_self update_of_ne)

variable {ε : Type} {fits : ε → List ε → Prop} {about : ε → Option Nat} {ends : ε → Prop}
  {calls calls' : Nat → Option Nat} {next next' : Nat} {log : List ε}

/-- Every event of a log fits the events before it. -/
def Orderly (fits : ε → List ε → Prop) : List ε → Prop
  | [] => True
  | event :: past => fits event past ∧ Orderly fits past

/-- The calls in a log and those that tasks are in have numbers that were given out. No two
    tasks are in one call, and a call that a task is in has not ended. -/
structure Numbered (fits : ε → List ε → Prop) (about : ε → Option Nat) (ends : ε → Prop)
    (calls : Nat → Option Nat) (next : Nat) (log : List ε) : Prop where
  orderly : Orderly fits log
  log_lt : ∀ event ∈ log, ∀ call, about event = some call → call < next
  call_lt : ∀ task call, calls task = some call → call < next
  call_inj : ∀ task other call, calls task = some call → calls other = some call → task = other
  goes_on : ∀ task call, calls task = some call → ∀ event ∈ log, about event = some call →
    ¬ends event

namespace Numbered

section

variable (h : Numbered fits about ends calls next log)
include h

/-- Tasks may leave their calls, and numbers may be passed over. -/
theorem weaken (hcalls : ∀ task call, calls' task = some call → calls task = some call)
    (hnext : next ≤ next') : Numbered fits about ends calls' next' log where
  orderly := h.orderly
  log_lt event he call hc := Nat.lt_of_lt_of_le (h.log_lt event he call hc) hnext
  call_lt task call hc := Nat.lt_of_lt_of_le (h.call_lt task call (hcalls task call hc)) hnext
  call_inj task other call ht ho :=
    h.call_inj task other call (hcalls task call ht) (hcalls other call ho)
  goes_on task call hc := h.goes_on task call (hcalls task call hc)

theorem note (event : ε) (hfits : fits event log)
    (hlt : ∀ call, about event = some call → call < next)
    (hends : ends event → ∀ task call, calls task = some call → about event ≠ some call) :
    Numbered fits about ends calls next (event :: log) where
  orderly := ⟨hfits, h.orderly⟩
  log_lt e he := by
    rcases List.mem_cons.1 he with rfl | hold
    · exact hlt
    · exact h.log_lt e hold
  call_lt := h.call_lt
  call_inj := h.call_inj
  goes_on task call hc e he := by
    rcases List.mem_cons.1 he with rfl | hold
    · exact fun habout hend => hends hend task call hc habout
    · exact h.goes_on task call hc e hold

theorem begin (task : Nat) :
    Numbered fits about ends (update calls task (some next)) (next + 1) log := by
  have hcases : ∀ u call, update calls task (some next) u = some call →
      (u ≠ task ∧ calls u = some call) ∨ (u = task ∧ call = next) := by
    intro u call hc
    by_cases hu : u = task
    · rw [hu, update_self] at hc
      exact .inr ⟨hu, (Option.some.inj hc).symm⟩
    · rw [update_of_ne hu] at hc
      exact .inl ⟨hu, hc⟩
  refine ⟨h.orderly, fun e he call hc => Nat.lt_succ_of_lt (h.log_lt e he call hc),
    fun u call hc => ?_, fun u v call hu hv => ?_, fun u call hc e he habout => ?_⟩
  · rcases hcases u call hc with ⟨-, hold⟩ | ⟨-, rfl⟩
    · exact Nat.lt_succ_of_lt (h.call_lt u call hold)
    · exact Nat.lt_succ_self _
  · rcases hcases u call hu with ⟨-, hold⟩ | ⟨hut, rfl⟩
    · rcases hcases v call hv with ⟨-, hother⟩ | ⟨-, rfl⟩
      · exact h.call_inj u v call hold hother
      · exact absurd (h.call_lt u _ hold) (Nat.lt_irrefl _)
    · rcases hcases v _ hv with ⟨-, hother⟩ | ⟨hvt, -⟩
      · exact absurd (h.call_lt v _ hother) (Nat.lt_irrefl _)
      · exact hut.trans hvt.symm
  · rcases hcases u call hc with ⟨-, hold⟩ | ⟨-, rfl⟩
    · exact h.goes_on u call hold e he habout
    · exact absurd (h.log_lt e he _ habout) (Nat.lt_irrefl _)

theorem leave (task : Nat) : Numbered fits about ends (update calls task none) next log := by
  refine h.weaken (fun u call hu => ?_) (Nat.le_refl _)
  by_cases hsame : u = task
  · rw [hsame, update_self] at hu
    cases hu
  · rw [update_of_ne hsame] at hu
    exact hu

theorem finish {task call : Nat}
    (hcall : calls task = some call) {event : ε} (hfits : fits event log)
    (habout : about event = some call) :
    Numbered fits about ends (update calls task none) next (event :: log) := by
  refine (h.leave task).note event hfits (fun other heq => ?_) fun _ u other hu heq => ?_
  · rw [habout] at heq
    cases heq
    exact h.call_lt task call hcall
  -- No other task was in this call.
  rw [habout] at heq
  cases heq
  by_cases hsame : u = task
  · rw [hsame, update_self] at hu
    cases hu
  · rw [update_of_ne hsame] at hu
    exact hsame (h.call_inj u task call hu hcall)

end

end Numbered

end SceneHub.Lib
