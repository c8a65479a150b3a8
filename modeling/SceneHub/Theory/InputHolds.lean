import Mathlib.Data.List.Chain
import Mathlib.Data.List.Infix
import Mathlib.Data.List.Nodup
import SceneHub.Lib.Debounce
import SceneHub.Theory.EngineSteps

/-!
# Edges and Holds of an Input

What the engine reports of an input, told by the samples it took. What it keeps of an input are the
level and the beginning of the last period, since when another level is pending, and which rules
have had their hold in this period. As long as samples come often enough for its clock of 32 bits,
this is what the samples say, and so are the edges and the holds.

A reset, a pause and a resume let the engine forget its inputs. It then starts over with the next
sample, whose level it does not report.

## Main definitions

* `history`: The samples of an input that count.
* `InputDue`: What is to be reported with a sample.
* `SampleCase`: What the engine can do with a sample.
* `Seen`: What the engine keeps of an input that has been sampled.

## Theorems

* `holdLoop_fires`: The holds that are reported with a sample.
* `sample_follows`: A sample is reported as it should be.
* `input_reports_right`: So is every sample of a run, and edges alternate.
-/

namespace SceneHub.Node

open Lib (Sample Edge HoldDue HeldFor Paced period runStart stamp)

variable {s' : EngineTask} {turn : EngineTurn} {rule : CompiledRule}

variable {around : Surroundings} {inputs : List InputConfig} {active : Option Bundle} {b : Bundle}
  {channel : Nat} {level : Bool} {nowMs : UInt32} {s : EngineTask}

/-! ### What is to be reported -/

/-- The samples of an input behind a turn. -/
def remember (channel : Nat) (h : List Sample) : EngineTurn → List Sample
  | .sample other level nowMs => if other = channel then ⟨level, nowMs⟩ :: h else h
  | .reset | .pause | .resume => []
  | .event _ | .setEnabled _ | .visit _ _ => h

/-- The samples of an input since it was last forgotten. -/
def history (channel : Nat) (turns : List (Surroundings × EngineTurn)) : List Sample :=
  turns.foldl (fun h turn => remember channel h turn.2) []

def rulesOf (active : Option Bundle) : List CompiledRule := (active.map Bundle.rules).getD []

theorem EngineSetup.room (setup : EngineSetup) : (rulesOf setup.active).length ≤ maxRules := by
  cases hactive : setup.active with
  | none => exact Nat.zero_le _
  | some b => exact (setup.runnable b hactive).rules

/-- A turn that lets the engine forget its inputs. -/
def EngineTurn.forgets : EngineTurn → Bool
  | .reset | .pause | .resume => true
  | .event _ | .setEnabled _ | .sample _ _ _ | .visit _ _ => false

/-- What is to be reported of an input with a sample behind others. -/
def InputDue (rules : List CompiledRule) (debounce channel : Nat) (sample : Sample)
    (h : List Sample) : PollReport → Prop
  | .edge other level => other = channel ∧ level = sample.level ∧ Edge debounce sample h
  | .hold other level durationMs =>
    other = channel ∧ level = sample.level ∧ HoldDue debounce durationMs.toNat sample h ∧
    ∃ rule ∈ rules, holdRule rule channel level = true ∧ rule.triggerDurationMs = durationMs
  | .timer _ => False

def PollReport.input : PollReport → Option Nat
  | .edge channel _ | .hold channel _ _ => some channel
  | .timer _ => none

def PollReport.edgeLevel (channel : Nat) : PollReport → Option Bool
  | .edge other level => if other = channel then some level else none
  | .hold _ _ _ | .timer _ => none

/-! ### The slot of an input -/

section

variable (s : EngineTask)

@[simp]
theorem slot_setSlot (channel : Nat) (slot : InputSlot) :
    (s.setSlot channel slot).slot channel = slot :=
  Function.update_self _ _ _

@[simp]
theorem timing_setSlot (channel other : Nat) (slot : InputSlot) :
    (s.setSlot channel slot).timing other = s.timing other := rfl

@[simp]
theorem timing_setTiming (channel : Nat) (timing : InputTiming) :
    (s.setTiming channel timing).timing channel = timing :=
  Function.update_self _ _ _

@[simp]
theorem slot_setTiming (channel other : Nat) (timing : InputTiming) :
    (s.setTiming channel timing).slot other = s.slot other := rfl

@[simp]
theorem slot_report (report : PollReport) (event : RuleEvent Nat) (other : Nat) :
    (s.report around active report event).slot other = s.slot other :=
  congrFun (dispatchEvent_inputs around active event s.engine) (other - 1)

@[simp]
theorem timing_report (report : PollReport) (event : RuleEvent Nat) (other : Nat) :
    (s.report around active report event).timing other = s.timing other := rfl

@[simp]
theorem reports_setTiming (channel : Nat) (timing : InputTiming) :
    (s.setTiming channel timing).reports = s.reports := rfl

end

theorem slot_setSlot_of_ne {other : Nat} (hne : channel - 1 ≠ other - 1) (slot : InputSlot) :
    (s.setSlot other slot).slot channel = s.slot channel :=
  Function.update_of_ne hne _ _

theorem timing_setTiming_of_ne {other : Nat} (hne : channel - 1 ≠ other - 1)
    (timing : InputTiming) : (s.setTiming other timing).timing channel = s.timing channel :=
  Function.update_of_ne hne _ _

/-! ### What the engine does with a sample -/

/-- What the engine does with a sample of an input, and when. -/
inductive SampleCase (around : Surroundings) (inputs : List InputConfig) (active : Option Bundle)
    (channel : Nat) (level : Bool) (nowMs : UInt32) (s : EngineTask) : EngineTask → Prop
  | begin (hnew : (s.slot channel).initialized = false) :
    SampleCase around inputs active channel level nowMs s
      ((s.setSlot channel { initialized := true, stableActive := level }).setTiming channel
        { s.timing channel with stableSinceMs := nowMs, pendingValid := false })
  | edge (hold : (s.slot channel).initialized = true)
    (hlevel : level ≠ (s.slot channel).stableActive)
    (hlong : inputDebounceMs inputs channel = 0 ∨ (s.timing channel).pendingValid = true ∧
      (s.timing channel).pendingActive = level ∧
      inputDebounceMs inputs channel ≤ nowMs - (s.timing channel).pendingSinceMs) :
    SampleCase around inputs active channel level nowMs s
      (((s.setSlot channel { initialized := true, stableActive := level }).setTiming channel
        ((s.timing channel).stable nowMs)).report around active (.edge channel level)
          (inputEdgeEvent channel level))
  | pend (hold : (s.slot channel).initialized = true)
    (hlevel : level ≠ (s.slot channel).stableActive) (hslow : inputDebounceMs inputs channel ≠ 0)
    (hfirst : (s.timing channel).pendingValid = false ∨ (s.timing channel).pendingActive ≠ level) :
    SampleCase around inputs active channel level nowMs s
      (s.setTiming channel { s.timing channel with
        pendingValid := true, pendingActive := level, pendingSinceMs := nowMs })
  | wait (hold : (s.slot channel).initialized = true)
    (hlevel : level ≠ (s.slot channel).stableActive) (hslow : inputDebounceMs inputs channel ≠ 0)
    (hvalid : (s.timing channel).pendingValid = true)
    (hpending : (s.timing channel).pendingActive = level)
    (hshort : ¬ inputDebounceMs inputs channel ≤ nowMs - (s.timing channel).pendingSinceMs) :
    SampleCase around inputs active channel level nowMs s s
  | same (hold : (s.slot channel).initialized = true)
    (hlevel : level = (s.slot channel).stableActive) :
    SampleCase around inputs active channel level nowMs s
      (processInputHoldEvents around active channel nowMs
        (s.setTiming channel { s.timing channel with pendingValid := false }))

theorem processInputSample_cases (hpos : channel ≠ 0) (hle : channel ≤ universalIoMax) :
    SampleCase around inputs active channel level nowMs s
      (processInputSample around inputs active channel level nowMs s) := by
  unfold processInputSample
  rw [if_neg (by omega)]
  dsimp only
  cases hinit : (s.slot channel).initialized with
  | false => exact .begin hinit
  | true =>
    rw [Bool.not_true, if_neg Bool.false_ne_true]
    by_cases hlevel : level = (s.slot channel).stableActive
    · rw [if_neg (not_not_intro hlevel)]
      exact .same hinit hlevel
    rw [if_pos hlevel]
    by_cases hfast : inputDebounceMs inputs channel = 0
    · rw [if_pos hfast]
      exact .edge hinit hlevel (Or.inl hfast)
    rw [if_neg hfast]
    by_cases hfirst : (s.timing channel).pendingValid = false ∨
        (s.timing channel).pendingActive ≠ level
    · rw [if_pos (by simpa using hfirst)]
      exact .pend hinit hlevel hfast hfirst
    rw [if_neg (by simpa using hfirst)]
    have hvalid : (s.timing channel).pendingValid = true :=
      Bool.of_not_eq_false fun hfalse => hfirst (Or.inl hfalse)
    have hpending : (s.timing channel).pendingActive = level :=
      not_not.1 fun hne => hfirst (Or.inr hne)
    rw [hpending]
    split
    · next hlong => exact .edge hinit hlevel (Or.inr ⟨hvalid, hpending, hlong⟩)
    · next hshort => exact .wait hinit hlevel hfast hvalid hpending hshort

/-! ### Holds -/

/-- A rule whose hold has come, and was not yet noticed. -/
def HoldWaits (channel : Nat) (nowMs : UInt32) (s : EngineTask) (i : Nat)
    (rule : CompiledRule) : Prop :=
  holdRule rule channel (s.slot channel).stableActive = true ∧
  rule.triggerDurationMs ≤ nowMs - (s.timing channel).stableSinceMs ∧
  (s.timing channel).firedHoldRules i = false

/-- What the holds of an input do that are reported at a time. -/
structure HoldsFired (rules : List CompiledRule) (channel : Nat) (s s' : EngineTask)
    (fired : List UInt32) : Prop where
  reports : s'.reports =
    fired.map (PollReport.hold channel (s.slot channel).stableActive) ++ s.reports
  slot : ∀ other, s'.slot other = s.slot other
  others : ∀ other, other - 1 ≠ channel - 1 → s'.timing other = s.timing other
  timing : s'.timing channel =
    { s.timing channel with firedHoldRules := (s'.timing channel).firedHoldRules }
  mask : ∀ i, i < 32 → ∀ rule ∈ rules[i]?,
    ((s'.timing channel).firedHoldRules i = true ↔ (s.timing channel).firedHoldRules i = true ∨
      holdRule rule channel (s.slot channel).stableActive = true ∧ rule.triggerDurationMs ∈ fired)

theorem HoldsFired.none (rules : List CompiledRule) (channel : Nat) (s : EngineTask) :
    HoldsFired rules channel s s [] where
  reports := rfl
  slot _ := rfl
  others _ _ := rfl
  timing := rfl
  mask i _ rule _ := by simp

theorem markHoldRulesFired_iff (timing : InputTiming) {i : Nat} {durationMs : UInt32}
    (hi : i < 32) (hrule : rule ∈ b.rules[i]?) :
    (timing.markHoldRulesFired b channel level durationMs).firedHoldRules i = true ↔
      timing.firedHoldRules i = true ∨
        holdRule rule channel level = true ∧ rule.triggerDurationMs = durationMs := by
  unfold InputTiming.markHoldRulesFired
  simp [Option.mem_def.1 hrule, hi]

theorem HoldsFired.cons {rules : List CompiledRule} {s s₁ s' : EngineTask} {durationMs : UInt32}
    {fired : List UInt32} (hfirst : HoldsFired rules channel s s₁ [durationMs])
    (hrest : HoldsFired rules channel s₁ s' fired) :
    HoldsFired rules channel s s' (fired ++ [durationMs]) := by
  have hslot : s₁.slot channel = s.slot channel := hfirst.slot channel
  refine ⟨?_, fun other => (hrest.slot other).trans (hfirst.slot other),
    fun other hne => (hrest.others other hne).trans (hfirst.others other hne), ?_, ?_⟩
  · rw [hrest.reports, hfirst.reports, hslot, List.map_append, List.append_assoc]
  · rw [hrest.timing, hfirst.timing]
  intro i hi rule hrule
  rw [hrest.mask i hi rule hrule, hfirst.mask i hi rule hrule, hslot, List.mem_append]
  tauto

theorem HoldsFired.waits_iff {rules : List CompiledRule} {s s' : EngineTask} {fired : List UInt32}
    {i : Nat} (h : HoldsFired rules channel s s' fired) (hi : i < 32)
    (hrule : rules[i]? = some rule) (hother : rule.triggerDurationMs ∉ fired) :
    HoldWaits channel nowMs s' i rule ↔ HoldWaits channel nowMs s i rule := by
  have hmask := h.mask i hi rule hrule
  have hsince : (s'.timing channel).stableSinceMs = (s.timing channel).stableSinceMs := by
    rw [h.timing]
  simp only [hother, and_false, or_false, Bool.eq_iff_iff.symm] at hmask
  unfold HoldWaits
  rw [h.slot channel, hsince, hmask]

theorem report_hold_fired (around : Surroundings) (active : Option Bundle) (s : EngineTask)
    (durationMs : UInt32) (event : RuleEvent Nat) : let level := (s.slot channel).stableActive
    let s₁ := s.report around active (.hold channel level durationMs) event
    HoldsFired b.rules channel s (s₁.setTiming channel
      ((s₁.timing channel).markHoldRulesFired b channel level durationMs)) [durationMs] := by
  intro level s₁
  refine ⟨rfl, fun other => ?_, fun other hne => ?_, ?_, fun i hi rule hrule => ?_⟩
  · exact slot_report s (.hold channel level durationMs) event other
  · exact timing_setTiming_of_ne hne _
  · rw [timing_setTiming]
    rfl
  · rw [timing_setTiming, markHoldRulesFired_iff _ hi hrule, timing_report, List.mem_singleton]

theorem holdLoop_fires (around : Surroundings) (rules : List (CompiledRule × Nat))
    (hrules : ∀ entry ∈ rules, entry.2 < 32 ∧ b.rules[entry.2]? = some entry.1)
    (dispatched : List UInt32) (s : EngineTask) : ∃ fired : List UInt32,
      HoldsFired b.rules channel s (holdLoop around b channel nowMs rules dispatched s) fired ∧
      fired.Nodup ∧ ∀ d, d ∈ fired ↔ d ∉ dispatched ∧ ∃ entry ∈ rules,
        HoldWaits channel nowMs s entry.2 entry.1 ∧ entry.1.triggerDurationMs = d := by
  induction rules generalizing dispatched s with
  | nil =>
    refine ⟨[], .none b.rules channel s, List.nodup_nil, fun d => ?_⟩
    simp
  | cons entry rules ih =>
    rcases entry with ⟨rule, i⟩
    have hplace := hrules (rule, i) List.mem_cons_self
    have hothers : ∀ entry ∈ rules, entry.2 < 32 ∧ b.rules[entry.2]? = some entry.1 :=
      fun entry hmem => hrules entry (.tail _ hmem)
    unfold holdLoop
    dsimp only
    split
    · next hskip =>
        have hnot : ¬ HoldWaits channel nowMs s i rule := by
          rintro ⟨hrule, hlong, hfired⟩
          rcases hskip with hskip | hskip | hskip
          · rw [hrule] at hskip
            cases hskip
          · exact absurd hlong (UInt32.not_le.2 hskip)
          · rw [hfired] at hskip
            cases hskip
        rcases ih hothers dispatched s with ⟨fired, hfires, honce, hdue⟩
        refine ⟨fired, hfires, honce, fun d => ?_⟩
        rw [hdue]
        simp [hnot]
    · next hwaits =>
        split
        · next hdone =>
            rcases ih hothers dispatched s with ⟨fired, hfires, honce, hdue⟩
            refine ⟨fired, hfires, honce, fun d => ?_⟩
            rw [hdue]
            simp only [List.mem_cons, exists_eq_or_imp]
            constructor
            · exact fun h => ⟨h.1, Or.inr h.2⟩
            rintro ⟨hnew, ⟨-, heq⟩ | hrest⟩
            · exact absurd (heq ▸ hdone) hnew
            · exact ⟨hnew, hrest⟩
        · next hnew =>
            have hmine : HoldWaits channel nowMs s i rule := by
              refine ⟨?_, ?_, ?_⟩
              · exact Bool.of_not_eq_false fun hfalse =>
                  hwaits (Or.inl (by rw [hfalse, Bool.not_false]))
              · exact UInt32.not_lt.1 fun hlt => hwaits (Or.inr (Or.inl hlt))
              · exact Bool.of_not_eq_true fun htrue => hwaits (Or.inr (Or.inr htrue))
            have hone : HoldsFired b.rules channel s _ [rule.triggerDurationMs] :=
              report_hold_fired around (some b) s rule.triggerDurationMs
                (inputHoldEvent channel (s.slot channel).stableActive rule.triggerDurationMs)
            rcases ih hothers (dispatched ++ [rule.triggerDurationMs]) _ with
              ⟨fired, hfires, honce, hdue⟩
            refine ⟨_, hone.cons hfires, ?_, fun d => ?_⟩
            · rw [List.nodup_append]
              refine ⟨honce, List.pairwise_singleton _ _, fun d hd d' hd' heq => ?_⟩
              have hlast := (hdue d).1 hd
              rw [List.mem_singleton.1 hd'] at heq
              exact hlast.1 (heq ▸ List.mem_append_right _ List.mem_cons_self)
            rw [List.mem_append, hdue, List.mem_append, List.mem_singleton]
            by_cases hd : d = rule.triggerDurationMs
            · simp only [hd, hnew, or_true, not_true_eq_false, false_and, not_false_eq_true,
                true_and, true_iff]
              exact ⟨(rule, i), .head _, hmine, rfl⟩
            -- A hold of another duration leaves no mark on the others.
            simp only [hd, or_false, List.mem_cons, exists_eq_or_imp, Ne.symm hd, and_false,
              false_or]
            refine and_congr_right fun _ => exists_congr fun entry =>
              and_congr_right fun hmem => ?_
            refine and_congr_left fun heq => ?_
            exact hone.waits_iff (hothers entry hmem).1 (hothers entry hmem).2
              (by rw [heq, List.mem_singleton]; exact hd)

theorem processInputHoldEvents_fires (around : Surroundings) (nowMs : UInt32)
    (hroom : (rulesOf active).length ≤ maxRules) (hinit : (s.slot channel).initialized = true) :
    ∃ fired : List UInt32, HoldsFired (rulesOf active) channel s
        (processInputHoldEvents around active channel nowMs s) fired ∧
      fired.Nodup ∧ ∀ d, d ∈ fired ↔ ∃ i < 32, ∃ rule ∈ (rulesOf active)[i]?,
        HoldWaits channel nowMs s i rule ∧ rule.triggerDurationMs = d := by
  cases active with
  | none =>
    refine ⟨[], .none _ channel s, List.nodup_nil, fun d => ?_⟩
    simp [rulesOf]
  | some b =>
    have hall : b.rules.take 32 = b.rules := List.take_of_length_le hroom
    unfold processInputHoldEvents
    rw [hinit, Bool.not_true]
    dsimp only
    rw [if_neg Bool.false_ne_true, hall]
    have hplaces : ∀ entry ∈ b.rules.zipIdx,
        entry.2 < 32 ∧ b.rules[entry.2]? = some entry.1 := by
      intro entry hmem
      have hentry := List.mem_zipIdx_iff_getElem?.1 hmem
      have hlt := (List.getElem?_eq_some_iff.1 hentry).1
      exact ⟨Nat.lt_of_lt_of_le hlt hroom, hentry⟩
    rcases holdLoop_fires around b.rules.zipIdx hplaces [] s with
      ⟨fired, hfires, honce, hdue⟩
    refine ⟨fired, hfires, honce, fun d => ?_⟩
    rw [hdue]
    constructor
    · rintro ⟨-, entry, hmem, hwaits, heq⟩
      exact ⟨entry.2, (hplaces entry hmem).1, entry.1, (hplaces entry hmem).2, hwaits, heq⟩
    · rintro ⟨i, -, rule, hrule, hwaits, heq⟩
      exact ⟨List.not_mem_nil, (rule, i), List.mem_zipIdx_iff_getElem?.2 hrule, hwaits, heq⟩

/-! ### What the engine keeps of its samples -/

/-- What the engine keeps of an input, told by the samples. -/
structure Seen (rules : List CompiledRule) (debounce channel : Nat) (first last : Sample)
    (h : List Sample) (s : EngineTask) : Prop where
  began : first ∈ (period debounce (last :: h)).getLast?
  slot : s.slot channel = { initialized := true, stableActive := first.level }
  since : (s.timing channel).stableSinceMs = stamp first.time
  settled : last.level = first.level → (s.timing channel).pendingValid = false
  pending : last.level ≠ first.level → (s.timing channel).pendingValid = true ∧
    (s.timing channel).pendingActive = last.level ∧
    (s.timing channel).pendingSinceMs = stamp (runStart last h)
  fired : ∀ i, i < 32 → ∀ rule ∈ rules[i]?, ((s.timing channel).firedHoldRules i = true ↔
    holdRule rule channel first.level = true ∧
    ∃ earlier ∈ (period debounce (last :: h)).dropLast,
      HeldFor rule.triggerDurationMs.toNat first earlier)

/-- What the engine keeps of an input is what its samples say. -/
def Recalls (rules : List CompiledRule) (debounce channel : Nat) (s : EngineTask) :
    List Sample → Prop
  | [] => s.slot channel = {} ∧ s.timing channel = {}
  | last :: h => ∃ first, Seen rules debounce channel first last h s

/-- Everything that is waited for comes within a cycle of the clock, if samples come within a time
    of each other. -/
def ClockFits (gap debounce channel : Nat) (rules : List CompiledRule) : Prop :=
  debounce + 2 * gap < 4294967296 ∧ ∀ rule ∈ rules, rule.triggerKind = .inputHold →
    rule.inputChannel = channel → rule.triggerDurationMs.toNat + debounce + 2 * gap < 4294967296

variable {rules : List CompiledRule} {debounce gap : Nat} {first last sample : Sample}
  {h : List Sample}

theorem inputDue_of_edge (hedge : Edge debounce sample h) (report : PollReport) :
    InputDue rules debounce channel sample h report ↔ report = .edge channel sample.level := by
  cases report with
  | edge other level =>
    simp [InputDue, hedge, PollReport.edge.injEq]
  | hold other level durationMs =>
    simp only [InputDue, reduceCtorEq, iff_false]
    rintro ⟨-, -, hhold, -⟩
    rcases hedge with ⟨first, hfirst, hlevel, -⟩
    exact hlevel ((Lib.holdDue_iff hfirst).1 hhold).1.1
  | timer index => simp only [InputDue, reduceCtorEq]

theorem not_inputDue (hfirst : first ∈ (period debounce h).getLast?)
    (hlevel : sample.level ≠ first.level) (hedge : ¬ Edge debounce sample h)
    (report : PollReport) : ¬ InputDue rules debounce channel sample h report := by
  cases report with
  | edge other level => exact fun hdue => hedge hdue.2.2
  | hold other level durationMs =>
    exact fun hdue => hlevel ((Lib.holdDue_iff hfirst).1 hdue.2.2.1).1.1
  | timer index => exact id

theorem seen_begin (hperiod : period debounce (sample :: h) = [sample]) {s' : EngineTask}
    (hslot : s'.slot channel = { initialized := true, stableActive := sample.level })
    (hsince : (s'.timing channel).stableSinceMs = stamp sample.time)
    (hpending : (s'.timing channel).pendingValid = false)
    (hfired : (s'.timing channel).firedHoldRules = fun _ => false) :
    Seen rules debounce channel sample sample h s' where
  began := by rw [hperiod]; rfl
  slot := hslot
  since := hsince
  settled _ := hpending
  pending hne := absurd rfl hne
  fired i _ rule _ := by
    rw [hfired, hperiod]
    simp [List.dropLast_singleton]

section

variable (hs : Seen rules debounce channel first last h s)
include hs

theorem Seen.interrupted
    (hedge : ¬ Edge debounce sample (last :: h)) (hlevel : sample.level ≠ first.level)
    (hslot : s'.slot channel = s.slot channel)
    (hsince : (s'.timing channel).stableSinceMs = (s.timing channel).stableSinceMs)
    (hmask : (s'.timing channel).firedHoldRules = (s.timing channel).firedHoldRules)
    (hpending : (s'.timing channel).pendingValid = true ∧
      (s'.timing channel).pendingActive = sample.level ∧
      (s'.timing channel).pendingSinceMs = stamp (runStart sample (last :: h))) :
    Seen rules debounce channel first sample (last :: h) s' where
  began := Lib.first_of_not_edge hs.began hedge
  slot := hslot.trans hs.slot
  since := hsince.trans hs.since
  settled heq := absurd heq hlevel
  pending _ := hpending
  fired i hi rule hrule := by
    rw [hmask, hs.fired i hi rule hrule, Lib.dropLast_of_not_edge hs.began hedge]
    simp only [List.mem_cons, exists_eq_or_imp]
    refine and_congr_right fun _ => ⟨Or.inr, fun hheld => ?_⟩
    rcases hheld with hheld | hheld
    · exact absurd hheld.1 hlevel
    · exact hheld

theorem Seen.pending_iff
    (hfits : ClockFits gap debounce channel rules) (hpaced : Paced gap (sample :: last :: h))
    (hlast : last.level ≠ first.level) (hlevel : sample.level ≠ first.level) {bound : UInt32}
    (hbound : bound.toNat = debounce) :
    bound ≤ stamp sample.time - (s.timing channel).pendingSinceMs ↔
      Edge debounce sample (last :: h) := by
  rcases Lib.first_before hs.began hlast with ⟨hbefore, hnot⟩
  -- There are two levels.
  have hsame : last.level = sample.level := by
    revert hlast hlevel
    cases last.level <;> cases sample.level <;> cases first.level <;> decide
  have hrun : runStart sample (last :: h) = runStart last h := Lib.runStart_cons_of_eq hsame
  have hlt := Lib.run_lt_of_not_edge hpaced hbefore hlast hnot
  have hle := Lib.runStart_le hpaced
  have hcycle := hfits.1
  rw [(hs.pending hlast).2.2, Lib.le_stamp_sub_iff (by omega) (by omega),
    Lib.edge_iff hs.began, hbound, hrun]
  exact ⟨fun hlong => ⟨hlevel, hlong⟩, fun hboth => hboth.2⟩

theorem Seen.waits_iff
    (hfits : ClockFits gap debounce channel rules) (hpaced : Paced gap (sample :: last :: h))
    {i : Nat} (hi : i < 32) (hrule : rule ∈ rules[i]?) :
    HoldWaits channel (stamp sample.time) s i rule ↔
      holdRule rule channel first.level = true ∧
      first.time + rule.triggerDurationMs.toNat ≤ sample.time ∧
      ∀ earlier ∈ (period debounce (last :: h)).dropLast,
        ¬ HeldFor rule.triggerDurationMs.toNat first earlier := by
  have hmask := hs.fired i hi rule hrule
  have hslot : (s.slot channel).stableActive = first.level := by rw [hs.slot]
  unfold HoldWaits
  rw [hslot, hs.since]
  refine and_congr_right fun hhold => ?_
  have hnot : (s.timing channel).firedHoldRules i = false ↔
      ∀ earlier ∈ (period debounce (last :: h)).dropLast,
        ¬ HeldFor rule.triggerDurationMs.toNat first earlier := by
    rw [← Bool.not_eq_true, hmask]
    simp [hhold, not_exists]
  rw [hnot]
  refine and_congr_left fun hheld => ?_
  have hkind : rule.triggerKind = .inputHold ∧ rule.inputChannel = channel := by
    unfold holdRule at hhold
    simp only [Bool.and_eq_true, decide_eq_true_eq] at hhold
    exact ⟨hhold.1.1.2, hhold.1.2⟩
  have hcycle := hfits.2 rule (List.mem_of_getElem? hrule) hkind.1 hkind.2
  have hlt := Lib.span_lt_of_not_held hpaced hs.began hheld
  have hle := Lib.first_le hpaced.2 hs.began
  have hpace := (hpaced.1 last rfl).1
  exact Lib.le_stamp_sub_iff (by omega) (by omega)

end

/-- What a sample does to an input, and what is reported with it. -/
def SampleRight (rules : List CompiledRule) (debounce channel : Nat) (sample : Sample)
    (h : List Sample) (s s' : EngineTask) : Prop :=
  Recalls rules debounce channel s' (sample :: h) ∧ ∃ new, s'.reports = new ++ s.reports ∧
    new.Nodup ∧ ∀ report, report ∈ new ↔ InputDue rules debounce channel sample h report

theorem SampleRight.quiet (hs' : Recalls rules debounce channel s' (sample :: h))
    (hreports : s'.reports = s.reports)
    (hdue : ∀ report, ¬ InputDue rules debounce channel sample h report) :
    SampleRight rules debounce channel sample h s s' := by
  refine ⟨hs', [], hreports, List.nodup_nil, fun report => ?_⟩
  simp [hdue report]

theorem Seen.held (hs : Seen (rulesOf active) debounce channel first last h s)
    (hroom : (rulesOf active).length ≤ maxRules)
    (hfits : ClockFits gap debounce channel (rulesOf active))
    (hpaced : Paced gap (sample :: last :: h)) (hlevel : sample.level = first.level) :
    SampleRight (rulesOf active) debounce channel sample (last :: h) s
      (processInputHoldEvents around active channel (stamp sample.time)
        (s.setTiming channel { s.timing channel with pendingValid := false })) := by
  have hedge : ¬ Edge debounce sample (last :: h) := by
    rw [Lib.edge_iff hs.began]
    exact fun hcond => hcond.1 hlevel
  generalize hs₁ : s.setTiming channel { s.timing channel with pendingValid := false } = s₁
  have htiming : s₁.timing channel = { s.timing channel with pendingValid := false } := by
    rw [← hs₁, timing_setTiming]
  have hslot : s₁.slot channel = { initialized := true, stableActive := first.level } := by
    rw [← hs₁, slot_setTiming, hs.slot]
  have hwaits (i : Nat) (rule : CompiledRule) : HoldWaits channel (stamp sample.time) s₁ i rule ↔
      HoldWaits channel (stamp sample.time) s i rule := by
    unfold HoldWaits
    rw [htiming, hslot, hs.slot]
  rcases processInputHoldEvents_fires (s := s₁) around (stamp sample.time) hroom (by rw [hslot])
    with ⟨fired, hfires, honce, hdue⟩
  have hmem (d : UInt32) : d ∈ fired ↔ HoldDue debounce d.toNat sample (last :: h) ∧
      ∃ rule ∈ rulesOf active, holdRule rule channel first.level = true ∧
        rule.triggerDurationMs = d := by
    rw [hdue, Lib.holdDue_iff hs.began]
    constructor
    · rintro ⟨i, hi, rule, hrule, hwait, heq⟩
      rw [hwaits, hs.waits_iff hfits hpaced hi hrule, heq] at hwait
      exact ⟨⟨⟨hlevel, hwait.2.1⟩, hwait.2.2⟩, rule, List.mem_of_getElem? hrule, hwait.1, heq⟩
    rintro ⟨⟨hlong, hnot⟩, rule, hrule, hhold, heq⟩
    rcases List.mem_iff_getElem?.1 hrule with ⟨i, hi⟩
    have hlt : i < 32 :=
      Nat.lt_of_lt_of_le (List.getElem?_eq_some_iff.1 hi).1 hroom
    refine ⟨i, hlt, rule, hi, ?_, heq⟩
    rw [hwaits, hs.waits_iff hfits hpaced hlt hi, heq]
    exact ⟨hhold, hlong.2, hnot⟩
  refine ⟨⟨first, ?_⟩, fired.map (PollReport.hold channel first.level), ?_, ?_, fun report => ?_⟩
  · refine ⟨Lib.first_of_not_edge hs.began hedge, (hfires.slot channel).trans hslot, ?_, fun _ => ?_,
      fun hne => absurd hlevel hne, fun i hi rule hrule => ?_⟩
    · rw [hfires.timing, htiming]
      exact hs.since
    · rw [hfires.timing, htiming]
    rw [hfires.mask i hi rule hrule, hslot, htiming, Lib.dropLast_of_not_edge hs.began hedge,
      hmem, Lib.holdDue_iff hs.began]
    have hbefore := hs.fired i hi rule hrule
    have hin : rule ∈ rulesOf active := List.mem_of_getElem? hrule
    simp only [hbefore, List.mem_cons, exists_eq_or_imp]
    constructor
    · rintro (⟨hhold, hearlier⟩ | ⟨hhold, ⟨hheld, -⟩, -⟩)
      · exact ⟨hhold, Or.inr hearlier⟩
      · exact ⟨hhold, Or.inl hheld⟩
    rintro ⟨hhold, hheld | hearlier⟩
    · by_cases hbefore : ∃ earlier ∈ (period debounce (last :: h)).dropLast,
          HeldFor rule.triggerDurationMs.toNat first earlier
      · exact Or.inl ⟨hhold, hbefore⟩
      · refine Or.inr ⟨hhold, ⟨hheld, fun earlier hmem hfor => ?_⟩, rule, hin, hhold, rfl⟩
        exact hbefore ⟨earlier, hmem, hfor⟩
    · exact Or.inl ⟨hhold, hearlier⟩
  · rw [hfires.reports, hslot, ← hs₁, reports_setTiming]
  · exact List.Nodup.map (fun d d' heq => by injection heq) honce
  · rw [List.mem_map]
    cases report with
    | edge other level =>
      simp [InputDue, hedge]
    | hold other level durationMs =>
      simp only [PollReport.hold.injEq, InputDue, hlevel]
      constructor
      · rintro ⟨d, hd, rfl, rfl, rfl⟩
        exact ⟨rfl, rfl, (hmem d).1 hd⟩
      · rintro ⟨rfl, rfl, hrest⟩
        exact ⟨durationMs, (hmem durationMs).2 hrest, rfl, rfl, rfl⟩
    | timer index => simp only [reduceCtorEq, and_false, exists_false, InputDue]

theorem sample_follows (around : Surroundings) (hpos : channel ≠ 0) (hle : channel ≤ universalIoMax)
    (hroom : (rulesOf active).length ≤ maxRules)
    (hdebounce : (inputDebounceMs inputs channel).toNat = debounce)
    (hfits : ClockFits gap debounce channel (rulesOf active)) (hpaced : Paced gap (sample :: h))
    (hs : Recalls (rulesOf active) debounce channel s h) :
    SampleRight (rulesOf active) debounce channel sample h s
      (processInputSample around inputs active channel sample.level (stamp sample.time) s) := by
  have hzero : inputDebounceMs inputs channel = 0 ↔ debounce = 0 := by
    rw [← hdebounce, ← UInt32.toNat_inj, UInt32.toNat_zero]
  have hcase : SampleCase around inputs active channel sample.level (stamp sample.time) s _ :=
    processInputSample_cases hpos hle
  generalize processInputSample around inputs active channel sample.level (stamp sample.time) s = s'
    at hcase ⊢
  cases h with
  | nil =>
    rcases hs with ⟨hslot, htiming⟩
    have hnew : (s.slot channel).initialized = false := by rw [hslot]
    cases hcase with
    | begin _ =>
      refine .quiet ⟨sample, seen_begin rfl ?_ ?_ ?_ ?_⟩ rfl fun report hdue => ?_
      · rw [slot_setTiming, slot_setSlot]
      · rw [timing_setTiming]
      · rw [timing_setTiming]
      · rw [timing_setTiming, htiming]
      -- There is no period yet.
      cases report with
      | edge other level =>
        rcases hdue.2.2 with ⟨first, hfirst, -⟩
        cases hfirst
      | hold other level durationMs =>
        rcases hdue.2.2.1 with ⟨first, hfirst, -⟩
        cases hfirst
      | timer index => exact hdue
    | edge hold _ _ | pend hold _ _ _ => exact absurd (hold.symm.trans hnew) Bool.true_eq_false.mp
    | wait hold _ _ _ _ _ | same hold _ => exact absurd (hold.symm.trans hnew) Bool.true_eq_false.mp
  | cons last h =>
    rcases hs with ⟨first, hs⟩
    have hstable : (s.slot channel).stableActive = first.level := by rw [hs.slot]
    cases hcase with
    | begin hnew =>
      rw [hs.slot] at hnew
      cases hnew
    | edge _ hlevel hlong =>
      rw [hstable] at hlevel
      have hedge : Edge debounce sample (last :: h) := by
        rcases hlong with hfast | ⟨hvalid, hpending, hlong⟩
        · rw [Lib.edge_iff hs.began, hzero.1 hfast]
          exact ⟨hlevel, Lib.runStart_le hpaced⟩
        have hlast : last.level ≠ first.level := by
          intro heq
          rw [hs.settled heq] at hvalid
          cases hvalid
        exact (hs.pending_iff hfits hpaced hlast hlevel hdebounce).1 hlong
      refine ⟨⟨sample, seen_begin (Lib.period_of_edge hedge) ?_ ?_ ?_ ?_⟩,
        [.edge channel sample.level], rfl, List.pairwise_singleton _ _, fun report => ?_⟩
      · rw [slot_report, slot_setTiming, slot_setSlot]
      · rw [timing_report, timing_setTiming]
        rfl
      · rw [timing_report, timing_setTiming]
        rfl
      · rw [timing_report, timing_setTiming]
        rfl
      · rw [List.mem_singleton, inputDue_of_edge hedge]
    | pend _ hlevel hslow hfirst =>
      rw [hstable] at hlevel
      have hlast : last.level ≠ sample.level := by
        intro hsame
        have hpending := hs.pending (hsame ▸ hlevel)
        rcases hfirst with hinvalid | hother
        · rw [hpending.1] at hinvalid
          cases hinvalid
        · exact hother (hpending.2.1.trans hsame)
      have hrun : runStart sample (last :: h) = sample.time := Lib.runStart_cons_of_ne hlast
      have hedge : ¬ Edge debounce sample (last :: h) := by
        rw [Lib.edge_iff hs.began, hrun]
        have hlong : debounce ≠ 0 := fun heq => hslow (hzero.2 heq)
        omega
      refine .quiet ⟨first, hs.interrupted hedge hlevel ?_ ?_ ?_ ?_⟩ rfl
        (not_inputDue hs.began hlevel hedge)
      · rw [slot_setTiming]
      · rw [timing_setTiming]
      · rw [timing_setTiming]
      · rw [timing_setTiming, hrun]
        exact ⟨rfl, rfl, rfl⟩
    | wait _ hlevel hslow hvalid hpending hshort =>
      rw [hstable] at hlevel
      have hlast : last.level ≠ first.level := by
        intro heq
        rw [hs.settled heq] at hvalid
        cases hvalid
      have hsame : last.level = sample.level := (hs.pending hlast).2.1.symm.trans hpending
      have hrun : runStart sample (last :: h) = runStart last h :=
        Lib.runStart_cons_of_eq hsame
      have hedge : ¬ Edge debounce sample (last :: h) := by
        rw [← hs.pending_iff hfits hpaced hlast hlevel hdebounce]
        exact hshort
      refine .quiet ⟨first, hs.interrupted hedge hlevel rfl rfl rfl ⟨hvalid, hpending, ?_⟩⟩ rfl
        (not_inputDue hs.began hlevel hedge)
      rw [hrun]
      exact (hs.pending hlast).2.2
    | same _ hlevel =>
      rw [hstable] at hlevel
      exact hs.held hroom hfits hpaced hlevel

/-! ### Turns -/

def TurnDue (rules : List CompiledRule) (debounce channel : Nat) (h : List Sample)
    (report : PollReport) : EngineTurn → Prop
  | .sample other level nowMs =>
    other = channel ∧ InputDue rules debounce channel ⟨level, nowMs⟩ h report
  | .event _ | .reset | .setEnabled _ | .pause | .resume | .visit _ _ => False

/-- A turn reports of an input what is due, and nothing twice. -/
def TurnRight (setup : EngineSetup) (channel : Nat) (h : List Sample) (turn : EngineTurn)
    (s s' : EngineTask) : Prop :=
  ∃ new, s'.reports = new ++ s.reports ∧
    (new.filter fun report => report.input = some channel).Nodup ∧
    ∀ report, report.input = some channel → (report ∈ new ↔ TurnDue (rulesOf setup.active)
      (inputDebounceMs setup.inputs channel).toNat channel h report turn)

/-- A turn that is not about an input. -/
structure Bystands (channel : Nat) (s s' : EngineTask) : Prop where
  slot : s'.slot channel = s.slot channel
  timing : s'.timing channel = s.timing channel
  reports : ∃ new, s'.reports = new ++ s.reports ∧ ∀ report ∈ new, report.input ≠ some channel

theorem Bystands.refl (channel : Nat) (s : EngineTask) : Bystands channel s s :=
  ⟨rfl, rfl, [], rfl, nofun⟩

theorem Bystands.single (report : PollReport) (hslot : s'.slot channel = s.slot channel)
    (htiming : s'.timing channel = s.timing channel) (hreports : s'.reports = report :: s.reports)
    (hother : report.input ≠ some channel) : Bystands channel s s' :=
  ⟨hslot, htiming, [report], hreports, fun _ hmem => List.mem_singleton.1 hmem ▸ hother⟩

theorem sample_bystands (around : Surroundings) (inputs : List InputConfig) {other : Nat}
    (hroom : (rulesOf active).length ≤ maxRules) (hne : other ≠ channel) (hpos : channel ≠ 0)
    (level : Bool) (nowMs : UInt32) (s : EngineTask) :
    Bystands channel s (processInputSample around inputs active other level nowMs s) := by
  by_cases hout : other = 0 ∨ universalIoMax < other
  · unfold processInputSample
    rw [if_pos hout]
    exact .refl channel s
  have hslots : channel - 1 ≠ other - 1 := by omega
  have hcase : SampleCase around inputs active other level nowMs s _ :=
    processInputSample_cases (by omega) (by omega)
  generalize processInputSample around inputs active other level nowMs s = s' at hcase ⊢
  cases hcase with
  | begin _ =>
    refine ⟨?_, timing_setTiming_of_ne hslots _, [], rfl, fun _ hmem => absurd hmem
      List.not_mem_nil⟩
    rw [slot_setTiming, slot_setSlot_of_ne hslots]
  | edge _ _ _ =>
    refine .single (.edge other level) ?_ ?_ rfl ?_
    · rw [slot_report, slot_setTiming, slot_setSlot_of_ne hslots]
    · rw [timing_report, timing_setTiming_of_ne hslots, timing_setSlot]
    · exact fun heq => hne (Option.some.inj heq)
  | pend _ _ _ _ =>
    exact ⟨rfl, timing_setTiming_of_ne hslots _, [], rfl, fun _ hmem => absurd hmem
      List.not_mem_nil⟩
  | wait _ _ _ _ _ _ => exact .refl channel s
  | same hold _ =>
    generalize hs₁ : s.setTiming other { s.timing other with pendingValid := false } = s₁
    have hinit : (s₁.slot other).initialized = true := by
      rw [← hs₁, slot_setTiming]
      exact hold
    rcases processInputHoldEvents_fires around nowMs hroom hinit with ⟨fired, hfires, -, -⟩
    refine ⟨?_, ?_, fired.map (PollReport.hold other (s₁.slot other).stableActive), ?_, ?_⟩
    · rw [hfires.slot, ← hs₁, slot_setTiming]
    · rw [hfires.others channel hslots, ← hs₁, timing_setTiming_of_ne hslots]
    · rw [hfires.reports, ← hs₁, reports_setTiming]
    intro report hmem heq
    rcases List.mem_map.1 hmem with ⟨d, -, rfl⟩
    exact hne (Option.some.inj heq)

theorem turn_bystands (setup : EngineSetup) (around : Surroundings) (hpos : channel ≠ 0)
    (turn : EngineTurn) (hsample : ∀ level nowMs, turn ≠ .sample channel level nowMs)
    (hforget : turn.forgets = false) (s : EngineTask) :
    Bystands channel s (engineTurn setup around s turn) := by
  cases turn with
  | event event =>
    refine ⟨?_, rfl, [], rfl, nofun⟩
    exact congrFun (dispatchEvent_inputs around setup.active event s.engine) (channel - 1)
  | reset => cases hforget
  | setEnabled enabled =>
    exact ⟨rfl, rfl, [], rfl, nofun⟩
  | pause => cases hforget
  | resume => cases hforget
  | sample other level nowMs =>
    refine sample_bystands around setup.inputs setup.room ?_ hpos level _ s
    intro heq
    exact hsample level nowMs (by rw [heq])
  | visit timer nowMs =>
    unfold engineTurn
    dsimp only
    split
    · exact .refl channel s
    · next b hactive =>
        split
        · exact .refl channel s
        unfold pollTimer
        dsimp only
        split
        · exact .refl channel s
        refine .single (.timer timer) ?_ rfl rfl nofun
        rw [slot_report]
        rfl

theorem turn_forgets (setup : EngineSetup) (around : Surroundings) (hforget : turn.forgets = true)
    (channel : Nat) (s : EngineTask) : let s' := engineTurn setup around s turn
    s'.slot channel = {} ∧ s'.timing channel = {} ∧ s'.reports = s.reports := by
  cases turn with
  | event event => cases hforget
  | reset => exact ⟨rfl, rfl, rfl⟩
  | setEnabled enabled => cases hforget
  | pause => exact ⟨rfl, rfl, rfl⟩
  | resume =>
    unfold engineTurn
    dsimp only
    split
    · exact ⟨rfl, rfl, rfl⟩
    refine ⟨?_, rfl, rfl⟩
    unfold EngineTask.slot
    rw [dispatchEvent_inputs]
    rfl
  | sample other level nowMs => cases hforget
  | visit timer nowMs => cases hforget

theorem remember_forgets (hforget : turn.forgets = true) (channel : Nat) (h : List Sample) :
    remember channel h turn = [] := by
  cases turn with
  | reset | pause | resume => rfl
  | event _ | setEnabled _ | sample _ _ _ | visit _ _ => cases hforget

theorem remember_bystands (hforget : turn.forgets = false)
    (hsample : ∀ level nowMs, turn ≠ .sample channel level nowMs) (h : List Sample) :
    remember channel h turn = h := by
  cases turn with
  | reset | pause | resume => cases hforget
  | event _ | setEnabled _ | visit _ _ => rfl
  | sample other level nowMs =>
    refine if_neg fun heq => hsample level nowMs ?_
    rw [heq]

theorem Recalls.congr (hs : Recalls rules debounce channel s h)
    (hslot : s'.slot channel = s.slot channel) (htiming : s'.timing channel = s.timing channel) :
    Recalls rules debounce channel s' h := by
  cases h with
  | nil =>
    unfold Recalls at hs ⊢
    rw [hslot, htiming]
    exact hs
  | cons last h =>
    rcases hs with ⟨first, hs⟩
    refine ⟨first, hs.began, hslot.trans hs.slot, ?_, ?_, ?_, ?_⟩
    · rw [htiming]
      exact hs.since
    · rw [htiming]
      exact hs.settled
    · rw [htiming]
      exact hs.pending
    · rw [htiming]
      exact hs.fired

theorem turn_follows (setup : EngineSetup) (around : Surroundings) (hpos : channel ≠ 0)
    (hle : channel ≤ universalIoMax)
    (hdebounce : (inputDebounceMs setup.inputs channel).toNat = debounce)
    (hfits : ClockFits gap debounce channel (rulesOf setup.active)) (turn : EngineTurn)
    (hpaced : Paced gap (remember channel h turn))
    (hs : Recalls (rulesOf setup.active) debounce channel s h) :
    Recalls (rulesOf setup.active) debounce channel (engineTurn setup around s turn)
      (remember channel h turn) ∧
    TurnRight setup channel h turn s (engineTurn setup around s turn) := by
  by_cases hsample : ∃ level nowMs, turn = .sample channel level nowMs
  · rcases hsample with ⟨level, nowMs, rfl⟩
    have hcons : remember channel h (.sample channel level nowMs) = ⟨level, nowMs⟩ :: h :=
      if_pos rfl
    rw [hcons] at hpaced ⊢
    rcases sample_follows around hpos hle setup.room hdebounce hfits hpaced hs with
      ⟨hfollows, new, hreports, honce, hdue⟩
    refine ⟨hfollows, new, hreports, honce.filter _, fun report _ => ?_⟩
    rw [hdue, hdebounce]
    exact ⟨fun h => ⟨rfl, h⟩, fun h => h.2⟩
  have hother (level : Bool) (nowMs : Nat) : turn ≠ .sample channel level nowMs :=
    fun heq => hsample ⟨level, nowMs, heq⟩
  have hnone (report : PollReport) : ¬ TurnDue (rulesOf setup.active)
      (inputDebounceMs setup.inputs channel).toNat channel h report turn := by
    intro hdue
    cases turn with
    | sample other level nowMs => exact hother level nowMs (by rw [hdue.1])
    | event _ | reset | setEnabled _ | pause | resume | visit _ _ => exact hdue
  cases hforget : turn.forgets with
  | true =>
    have hturn := turn_forgets setup around hforget channel s
    rw [remember_forgets hforget]
    refine ⟨⟨hturn.1, hturn.2.1⟩, [], hturn.2.2, List.nodup_nil, fun report _ => ?_⟩
    simp [hnone report]
  | false =>
    have hturn := turn_bystands setup around hpos turn hother hforget s
    rcases hturn.reports with ⟨new, hreports, hnew⟩
    rw [remember_bystands hforget hother]
    refine ⟨hs.congr hturn.slot hturn.timing, new, hreports, ?_, fun report hinput => ?_⟩
    · rw [List.filter_eq_nil_iff.2 fun report hmem => by simpa using hnew report hmem]
      exact List.nodup_nil
    · exact ⟨fun hmem => absurd hinput (hnew report hmem), fun hdue => absurd hdue
        (hnone report)⟩

/-! ### Runs -/

theorem engineRun_append (setup : EngineSetup) (s : EngineTask)
    (turns more : List (Surroundings × EngineTurn)) :
    engineRun setup s (turns ++ more) = engineRun setup (engineRun setup s turns) more :=
  List.foldl_append

theorem history_append (channel : Nat) (turns : List (Surroundings × EngineTurn))
    (turn : Surroundings × EngineTurn) :
    history channel (turns ++ [turn]) = remember channel (history channel turns) turn.2 :=
  List.foldl_append

theorem edgeLevel_of_input_ne {report : PollReport} (hne : report.input ≠ some channel) :
    report.edgeLevel channel = none := by
  cases report with
  | edge other level => exact if_neg fun heq => hne (congrArg some heq)
  | hold _ _ _ | timer _ => rfl

theorem turn_edges (setup : EngineSetup) (around : Surroundings) (hpos : channel ≠ 0)
    (hle : channel ≤ universalIoMax) (hforget : turn.forgets = false) (s : EngineTask) :
    ∃ new, (engineTurn setup around s turn).reports = new ++ s.reports ∧
      (new.filterMap (PollReport.edgeLevel channel) = [] ∧ ((s.slot channel).initialized = true →
          (engineTurn setup around s turn).slot channel = s.slot channel) ∨
        ∃ level, new.filterMap (PollReport.edgeLevel channel) = [level] ∧
          level ≠ (s.slot channel).stableActive ∧ (engineTurn setup around s turn).slot channel =
            { initialized := true, stableActive := level }) := by
  by_cases hsample : ∃ level nowMs, turn = .sample channel level nowMs
  · rcases hsample with ⟨level, nowMs, rfl⟩
    have hcase : SampleCase around setup.inputs setup.active channel level (UInt32.ofNat nowMs) s
        (engineTurn setup around s (.sample channel level nowMs)) :=
      processInputSample_cases hpos hle
    generalize engineTurn setup around s (.sample channel level nowMs) = s' at hcase ⊢
    cases hcase with
    | begin hnew =>
      refine ⟨[], rfl, Or.inl ⟨rfl, fun hinit => ?_⟩⟩
      rw [hnew] at hinit
      cases hinit
    | edge _ hlevel _ =>
      refine ⟨[.edge channel level], rfl, Or.inr ⟨level, ?_, hlevel, ?_⟩⟩
      · simp [PollReport.edgeLevel]
      · rw [slot_report, slot_setTiming, slot_setSlot]
    | pend _ _ _ _ => exact ⟨[], rfl, Or.inl ⟨rfl, fun _ => slot_setTiming _ _ _ _⟩⟩
    | wait _ _ _ _ _ _ => exact ⟨[], rfl, Or.inl ⟨rfl, fun _ => rfl⟩⟩
    | same hold _ =>
      generalize hs₁ : s.setTiming channel { s.timing channel with pendingValid := false } = s₁
      have hslot : s₁.slot channel = s.slot channel := by rw [← hs₁, slot_setTiming]
      rcases processInputHoldEvents_fires around (UInt32.ofNat nowMs) setup.room
        (hslot ▸ hold) with ⟨fired, hfires, -, -⟩
      refine ⟨fired.map (PollReport.hold channel (s₁.slot channel).stableActive), ?_,
        Or.inl ⟨?_, fun _ => (hfires.slot channel).trans hslot⟩⟩
      · rw [hfires.reports, ← hs₁, reports_setTiming]
      · rw [List.filterMap_map, List.filterMap_eq_nil_iff]
        exact fun d _ => rfl
  · have hother (level : Bool) (nowMs : Nat) : turn ≠ .sample channel level nowMs :=
      fun heq => hsample ⟨level, nowMs, heq⟩
    have hturn := turn_bystands setup around hpos turn hother hforget s
    rcases hturn.reports with ⟨new, hreports, hnew⟩
    refine ⟨new, hreports, Or.inl ⟨?_, fun _ => hturn.slot⟩⟩
    rw [List.filterMap_eq_nil_iff]
    exact fun report hmem => edgeLevel_of_input_ne (hnew report hmem)

/-- Between two resets the edges of an input alternate, however its samples come. -/
theorem edges_alternate (setup : EngineSetup) (hpos : channel ≠ 0) (hle : channel ≤ universalIoMax)
    (stretch : List (Surroundings × EngineTurn))
    (hforget : ∀ turn ∈ stretch, turn.2.forgets = false) (s : EngineTask) :
    ∃ new, (engineRun setup s stretch).reports = new ++ s.reports ∧
      (new.filterMap (PollReport.edgeLevel channel)).IsChain (· ≠ ·) ∧
      ∀ level ∈ (new.filterMap (PollReport.edgeLevel channel)).head?,
        (engineRun setup s stretch).slot channel =
          { initialized := true, stableActive := level } := by
  induction stretch using List.reverseRecOn with
  | nil => exact ⟨[], rfl, .nil, nofun⟩
  | append_singleton stretch turn ih =>
    have hbefore : ∀ turn ∈ stretch, turn.2.forgets = false :=
      fun other hmem => hforget other (List.mem_append_left _ hmem)
    have hlast : turn.2.forgets = false := hforget turn (List.mem_append_right _ List.mem_cons_self)
    rcases ih hbefore with ⟨new, hreports, hchain, hstable⟩
    rw [engineRun_append]
    generalize engineRun setup s stretch = s₁ at hreports hstable ⊢
    rcases turn_edges setup turn.1 hpos hle hlast s₁ with ⟨more, hmore, hedges⟩
    refine ⟨more ++ new, ?_, ?_⟩
    · exact hmore.trans (by rw [hreports, List.append_assoc])
    rw [List.filterMap_append]
    rcases hedges with ⟨hnone, hslot⟩ | ⟨level, hone, hchange, hslot⟩
    · -- The last edge is the one from before.
      rw [hnone, List.nil_append]
      refine ⟨hchain, fun level hmem => ?_⟩
      have hold := hstable level hmem
      exact (hslot (by rw [hold])).trans hold
    rw [hone, List.singleton_append]
    refine ⟨?_, fun other hmem => Option.some.inj hmem ▸ hslot⟩
    refine List.isChain_cons.2 ⟨fun other hmem => ?_, hchain⟩
    rw [hstable other hmem] at hchange
    exact hchange

/-- Behind every part of a run, the engine keeps what the samples say. -/
theorem run_follows (setup : EngineSetup) (hpos : channel ≠ 0) (hle : channel ≤ universalIoMax)
    (hdebounce : (inputDebounceMs setup.inputs channel).toNat = debounce)
    (hfits : ClockFits gap debounce channel (rulesOf setup.active))
    (hs : s.slot channel = {} ∧ s.timing channel = {}) (turns : List (Surroundings × EngineTurn))
    (hpaced : ∀ front, front <+: turns → Paced gap (history channel front)) :
    Recalls (rulesOf setup.active) debounce channel (engineRun setup s turns)
      (history channel turns) := by
  induction turns using List.reverseRecOn with
  | nil => exact hs
  | append_singleton turns turn ih =>
    have hbefore := ih fun front hfront =>
      hpaced front (hfront.trans (List.prefix_append turns [turn]))
    have hlast := hpaced _ List.prefix_rfl
    rw [history_append] at hlast ⊢
    rw [engineRun_append]
    exact (turn_follows setup turn.1 hpos hle hdebounce hfits turn.2 hlast hbefore).1

/-- What is reported of an input in a run is right: with every turn what is due, and between two
    resets edges alternate. -/
structure ReportsRight (setup : EngineSetup) (channel : Nat) (s : EngineTask)
    (turns : List (Surroundings × EngineTurn)) : Prop where
  turn : ∀ front turn back, turns = front ++ turn :: back →
    TurnRight setup channel (history channel front) turn.2 (engineRun setup s front)
      (engineRun setup s (front ++ [turn]))
  alternate : ∀ front stretch back, turns = front ++ stretch ++ back →
    (∀ turn ∈ stretch, turn.2.forgets = false) →
    ∃ new, (engineRun setup s (front ++ stretch)).reports =
        new ++ (engineRun setup s front).reports ∧
      (new.filterMap (PollReport.edgeLevel channel)).IsChain (· ≠ ·)

/-- Of an input whose samples come within a time of each other, an edge is reported with the first
    sample at which another level was seen for the debounce time, and a hold with the first sample
    of a period, behind the one that began it, at which the level of the period was held for the
    duration of a rule. Nothing else is reported of it, and nothing twice. Between two resets edges
    alternate. -/
theorem input_reports_right (setup : EngineSetup) (gap : Nat) {channel : Nat} (hpos : channel ≠ 0)
    (hle : channel ≤ universalIoMax)
    (hfits : ClockFits gap (inputDebounceMs setup.inputs channel).toNat channel
      (rulesOf setup.active)) {s : EngineTask} (hs : s.slot channel = {} ∧ s.timing channel = {})
    (turns : List (Surroundings × EngineTurn))
    (hpaced : ∀ front, front <+: turns → Paced gap (history channel front)) :
    ReportsRight setup channel s turns := by
  constructor
  · intro front turn back hturns
    have hfront : front <+: turns := ⟨turn :: back, hturns.symm⟩
    have hnext : front ++ [turn] <+: turns := ⟨back, by rw [hturns, List.append_assoc]; rfl⟩
    have hbefore := run_follows setup hpos hle rfl hfits hs front
      fun part hpart => hpaced part (hpart.trans hfront)
    have hlast := hpaced _ hnext
    rw [history_append] at hlast
    rw [engineRun_append]
    exact (turn_follows setup turn.1 hpos hle rfl hfits turn.2 hlast hbefore).2
  · intro front stretch back _ hforget
    rw [engineRun_append]
    rcases edges_alternate setup hpos hle stretch hforget (engineRun setup s front) with
      ⟨new, hreports, hchain, -⟩
    exact ⟨new, hreports, hchain⟩

/-- An input with a rule that waits for it to be held. -/
def heldSetup : EngineSetup where
  inputs := [{ enabled := true, channel := 1, isInput := true, debounceMs := 50 }]
  active := some { rules := [{
    id := "held", enabled := true, triggerKind := .inputHold, inputChannel := 1
    triggerValue := 1, triggerDurationMs := 100 }] }
  initial := fun _ => {}
  runnable := by
    intro b hactive
    cases Option.some.inj hactive
    exact ⟨by decide, List.nodup_nil, Nat.zero_le _, fun action hmem => by cases hmem⟩

/-- The engine before its first turn. -/
def taskStart : EngineTask where
  engine := { states := fun _ => {}, timers := fun _ => {}, inputs := fun _ => {} }

/-- A sample of an input, where everything goes well. -/
def sampleTurn (level : Bool) (nowMs : Nat) : Surroundings × EngineTurn :=
  ({ answer := fun _ => .ok, nowMs := fun _ => 0 }, .sample 1 level nowMs)

/-- An input that is held. -/
def heldTurns : List (Surroundings × EngineTurn) :=
  [sampleTurn false 0, sampleTurn true 50, sampleTurn true 100, sampleTurn false 150,
    sampleTurn true 200, sampleTurn true 250]

theorem input_reports_right_held : ReportsRight heldSetup 1 taskStart heldTurns ∧
    (engineRun heldSetup taskStart heldTurns).reports = [.hold 1 true 100, .edge 1 true] := by
  have hpaced : ∀ front ∈ heldTurns.inits, Paced 50 (history 1 front) := by decide
  constructor
  · refine input_reports_right heldSetup 50 (by decide) (by decide) ?_ ⟨rfl, rfl⟩ heldTurns
      fun front hfront => hpaced front ((List.mem_inits _ _).2 hfront)
    exact ⟨by decide, fun rule hrule _ _ => by rw [List.mem_singleton.1 hrule]; decide⟩
  · decide +kernel

/-- What is reported of an input is right whenever its samples come. -/
def EveryInputRight : Prop :=
  ∀ (setup : EngineSetup) (channel : Nat), channel ≠ 0 → channel ≤ universalIoMax →
    ∀ s : EngineTask, s.slot channel = {} ∧ s.timing channel = {} →
    ∀ turns : List (Surroundings × EngineTurn),
    (∀ front, front <+: turns → ((history channel front).map Sample.time).Pairwise (· ≥ ·)) →
    ReportsRight setup channel s turns

/-- A level that is seen for a whole cycle of the clock counts as new. -/
theorem not_everyInputRight : ¬ EveryInputRight := by
  intro hall
  have hordered : ∀ front ∈ [sampleTurn false 0, sampleTurn true 1,
      sampleTurn true 4294967297].inits,
      ((history 1 front).map Sample.time).Pairwise (· ≥ ·) := by decide
  have hright := hall heldSetup 1 (by decide) (by decide) taskStart ⟨rfl, rfl⟩ _
    fun front hfront => hordered front ((List.mem_inits _ _).2 hfront)
  rcases hright.turn [sampleTurn false 0, sampleTurn true 1] (sampleTurn true 4294967297) [] rfl
    with ⟨new, hreports, -, hdue⟩
  have hnone : (engineRun heldSetup taskStart [sampleTurn false 0, sampleTurn true 1,
      sampleTurn true 4294967297]).reports = [] := by decide +kernel
  have hedge : Edge 50 ⟨true, 4294967297⟩ (history 1 [sampleTurn false 0, sampleTurn true 1]) := by
    decide
  have hmem := (hdue (.edge 1 true) rfl).2 ⟨rfl, rfl, rfl, hedge⟩
  rw [(List.append_eq_nil_iff.1 (hreports.symm.trans hnone)).1] at hmem
  cases hmem

end SceneHub.Node
