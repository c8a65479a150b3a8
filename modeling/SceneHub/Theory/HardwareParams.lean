import Mathlib.Tactic.Linarith
import SceneHub.Executor.Hardware
import SceneHub.Lib.Codec

/-!
# Arguments of the Hardware

What a command passes to the hardware is what its parameters say, and its effect ends in
time, as long as the integers written there fit. A larger one is cut to the nearest `int`,
and the cycle of a breathing light is added up in an `int`.

## Main definitions

* `Written`: An integer that is written for a key.
* `HardwareCall.Right`: What is passed is what is written, and an effect is not too long.
* `ParamsFit`: The integers fit.

## Theorems

* `executeHardware_accepted`: What is read and checked for a call.
* `hardware_right_iff`: A call is right if and only if the integers fit.
-/

namespace SceneHub.Executor

open Hub (RelayCommand MosfetCommand IoCommand)
open JsonText (saturate)
open Lib (bind_eq_ok_iff)

/-! ### Integers -/

/-- The integer a text denotes, however large. -/
def decimal (text : List Char) : Option Int :=
  let (negative, digits) := strtolSign (text.dropWhile isSpace)
  if digits ≠ [] ∧ digits.all JsonText.isDigit then
    some (if negative then -(JsonText.Number.ofDigits digits : Int)
      else JsonText.Number.ofDigits digits)
  else none

/-- An integer is written as a number, or in a string that is no longer than one. -/
def ParamValue.Writes : ParamValue → Int → Prop
  | .number text, n => decimal text = some n
  | .string body, n => ∃ text, copyJsonString intSize body [] = .ok text ∧ decimal text = some n
  | _, _ => False

/-- An integer is written for a key. -/
def Written (params : List Char) (key : String) (n : Int) : Prop :=
  ∃ value, paramsFind params key = .ok value ∧ value.Writes n

variable {params : List Char} {key : String} {n m : Int}

theorem Written.unique (h : Written params key n) (h' : Written params key m) : n = m := by
  obtain ⟨value, hvalue, hn⟩ := h
  obtain ⟨_, hvalue', hm⟩ := h'
  obtain rfl := Except.ok.inj (hvalue.symm.trans hvalue')
  cases value with
  | number text => exact Option.some.inj (hn.symm.trans hm)
  | string body =>
    obtain ⟨text, htext, hn⟩ := hn
    obtain ⟨_, htext', hm⟩ := hm
    obtain rfl := Except.ok.inj (htext.symm.trans htext')
    exact Option.some.inj (hn.symm.trans hm)
  | bool value => cases hn
  | null => cases hn

theorem strtolChecked_ok {text : List Char} (h : strtolChecked text = .ok n) :
    ∃ m, decimal text = some m ∧ n = saturate m := by
  have heq : strtol text = (decimal text).map saturate := by
    unfold strtol decimal
    simp only
    split_ifs <;> rfl
  unfold strtolChecked at h
  rw [heq] at h
  cases hdecimal : decimal text with
  | none =>
    rw [hdecimal] at h
    cases h
  | some m =>
    rw [hdecimal] at h
    exact ⟨m, rfl, (Except.ok.inj h).symm⟩

theorem intOf_ok {value : ParamValue} (h : intOf value = .ok n) :
    ∃ m, value.Writes m ∧ n = saturate m := by
  cases value with
  | number text =>
    rw [intOf] at h
    split_ifs at h
    exact strtolChecked_ok h
  | string body =>
    rw [intOf] at h
    split at h
    · cases h
    · next text htext =>
        split_ifs at h
        obtain ⟨m, hm, hn⟩ := strtolChecked_ok h
        exact ⟨m, ⟨text, htext, hm⟩, hn⟩
  | bool value => cases h
  | null => cases h

/-- What is passed for a key is the nearest `int` to what is written, or 0 where nothing is. -/
def Reads (params : List Char) (key : String) (n : Int) : Prop :=
  (∃ m, Written params key m ∧ n = saturate m) ∨ (n = 0 ∧ ∀ m, ¬Written params key m)

theorem paramsGetInt_ok {required : Bool} {result : Option Int}
    (h : paramsGetInt params key required = .ok result) : Reads params key (result.getD 0) := by
  have habsent (hnone : ∀ m, ¬Written params key m)
      (h : absent required = (.ok result : Except EspErr (Option Int))) :
      Reads params key (result.getD 0) := by
    unfold absent at h
    split_ifs at h
    rw [← Except.ok.inj h]
    exact .inr ⟨rfl, hnone⟩
  unfold paramsGetInt paramsGet at h
  split_ifs at h with hempty
  · refine habsent (fun m hm => ?_) h
    obtain ⟨value, hvalue, -⟩ := hm
    rw [hempty] at hvalue
    cases hvalue
  split at h
  · next err hfind =>
      refine habsent (fun m hm => ?_) (by split_ifs at h; exact h)
      obtain ⟨value, hvalue, -⟩ := hm
      cases hfind.symm.trans hvalue
  · next hfind =>
      refine habsent (fun m hm => ?_) h
      obtain ⟨value, hvalue, hm⟩ := hm
      cases hfind.symm.trans hvalue
      exact hm
  · next value _ hfind =>
      cases hint : intOf value with
      | error err =>
        rw [hint] at h
        cases h
      | ok n =>
        rw [hint] at h
        rw [← Except.ok.inj h]
        obtain ⟨m, hm, hn⟩ := intOf_ok hint
        exact .inl ⟨m, ⟨value, hfind, hm⟩, hn⟩

/-! ### Calls -/

def blinkInts (onMs offMs count : UInt32) : List (String × Nat) :=
  [("on_ms", onMs.toNat), ("off_ms", offMs.toNat), ("count", count.toNat)]

/-- The integers of a call, with their keys. -/
def HardwareCall.ints : HardwareCall → List (String × Nat)
  | .relay channel command => ("channel", channel.toNat) :: match command with
    | .pulse durationMs => [("duration_ms", durationMs.toNat)]
    | .blink onMs offMs count _ => blinkInts onMs offMs count
    | _ => []
  | .mosfet channel command => ("channel", channel.toNat) :: match command with
    | .set value => [("value", value.toNat)]
    | .fade target durationMs => [("target", target.toNat), ("duration_ms", durationMs.toNat)]
    | .pulse value durationMs => [("value", value.toNat), ("duration_ms", durationMs.toNat)]
    | .blink value onMs offMs count finalValue =>
      ("value", value.toNat) :: ("final_value", finalValue.toNat) :: blinkInts onMs offMs count
    | .breathe minValue maxValue fadeMs holdMs count finalValue =>
      [("min", minValue.toNat), ("max", maxValue.toNat), ("final_value", finalValue.toNat),
        ("fade_ms", fadeMs.toNat), ("hold_ms", holdMs.toNat), ("count", count.toNat)]
  | .mosfetAllOff => []
  | .io channel command => ("channel", channel.toNat) :: match command with
    | .pulse _ durationMs => [("duration_ms", durationMs.toNat)]
    | .blink onMs offMs count _ => blinkInts onMs offMs count
    | _ => []
  | .ioGet channel => [("channel", channel.toNat)]

def blinkTiming (onMs offMs count : UInt32) : List Nat × Option (Nat × Nat) :=
  ([onMs.toNat, offMs.toNat], some (onMs.toNat + offMs.toNat, count.toNat))

/-- The durations that have to be positive, and the length of a cycle of an effect and how
    often it is repeated. -/
def HardwareCall.timing : HardwareCall → List Nat × Option (Nat × Nat)
  | .relay _ (.pulse durationMs) => ([durationMs.toNat], none)
  | .relay _ (.blink onMs offMs count _) => blinkTiming onMs offMs count
  | .mosfet _ (.pulse _ durationMs) => ([durationMs.toNat], none)
  | .mosfet _ (.blink _ onMs offMs count _) => blinkTiming onMs offMs count
  | .mosfet _ (.breathe _ _ fadeMs holdMs count _) =>
    ([fadeMs.toNat], some (fadeMs.toNat * 2 + holdMs.toNat * 2, count.toNat))
  | .io _ (.pulse _ durationMs) => ([durationMs.toNat], none)
  | .io _ (.blink onMs offMs count _) => blinkTiming onMs offMs count
  | _ => ([], none)

def Call.intKey : Call → Option String
  | .int key _ => some key
  | _ => none

/-- What is read and checked for a call. Only the cycle of a breathing light can be so long
    that it seems short. -/
structure HardwareCall.Accepted (reads : List Call) (params : List Char) (call : HardwareCall) :
    Prop where
  keys : reads.filterMap Call.intKey = call.ints.map Prod.fst
  ints : ∀ entry ∈ call.ints, Reads params entry.1 entry.2
  positive : ∀ ms ∈ call.timing.1, 0 < ms
  counted : ∀ effect ∈ call.timing.2, 0 < effect.2 → effect.1 * effect.2 ≤ maxEffectMs ∨
    (2 ^ 32 ≤ effect.1 ∧ "fade_ms" ∈ call.ints.map Prod.fst)

theorem HardwareCall.Accepted.brief {reads : List Call} {call : HardwareCall}
    (hkeys : reads.filterMap Call.intKey = call.ints.map Prod.fst)
    (hints : ∀ entry ∈ call.ints, Reads params entry.1 entry.2) (h : call.timing = ([], none)) :
    call.Accepted reads params :=
  ⟨hkeys, hints, by simp [h], by simp [h]⟩

theorem pure_ok {α : Type} {a b : α} : (pure a : Except Failure α) = .ok b ↔ a = b :=
  ⟨fun h => Except.ok.inj h, fun h => h ▸ rfl⟩

theorem refuseIf_ok {bad : Prop} [Decidable bad] {text : String} {u : Unit} :
    refuseIf bad text = .ok u ↔ ¬bad := by
  unfold refuseIf
  split_ifs with h <;> simp [h]

theorem getInt_ok {missing : String} (h : getInt params key missing = .ok n) :
    Reads params key n := by
  unfold getInt at h
  split at h
  · next result hget =>
      rw [← Except.ok.inj h]
      exact paramsGetInt_ok hget
  · cases h

theorem Reads.range (h : Reads params key n) : -2147483648 ≤ n ∧ n ≤ 2147483647 := by
  rcases h with ⟨m, -, rfl⟩ | ⟨rfl, -⟩
  · unfold saturate
    omega
  · omega

/-- A conversion of what was checked. -/
theorem Reads.byte (h : Reads params key n) (hn : 0 ≤ n) (hle : n ≤ 255) :
    Reads params key (UInt8.ofInt n).toNat := by
  rwa [show ((UInt8.ofInt n).toNat : Int) = n by simp [UInt8.ofInt]; omega]

theorem Reads.word (h : Reads params key n) (hn : 0 ≤ n) : ((UInt32.ofInt n).toNat : Int) = n := by
  have := h.range
  simp [UInt32.ofInt]
  omega

theorem getChannel_ok {channel : UInt8}
    (h : hardwareGetChannel params Hub.channelCount = .ok channel) :
    Reads params "channel" channel.toNat := by
  simp only [hardwareGetChannel, bind_eq_ok_iff, refuseIf_ok, pure_ok] at h
  obtain ⟨n, hread, -, hcheck, rfl⟩ := h
  have hcount : (Hub.channelCount : Int) = 4 := rfl
  exact (getInt_ok hread).byte (by omega) (by omega)

theorem getPwmValue_ok {value : UInt8} (h : hardwareGetPwmValue params key = .ok value) :
    Reads params key value.toNat := by
  simp only [hardwareGetPwmValue, bind_eq_ok_iff, refuseIf_ok, pure_ok] at h
  obtain ⟨n, hread, -, hcheck, rfl⟩ := h
  exact (getInt_ok hread).byte (by omega) (by omega)

theorem getFinalValue_ok {value : UInt8} (h : hardwareGetFinalValue params = .ok value) :
    Reads params "final_value" value.toNat := by
  unfold hardwareGetFinalValue at h
  split at h
  · next result hget =>
      simp only [bind_eq_ok_iff, refuseIf_ok, pure_ok] at h
      obtain ⟨-, hcheck, rfl⟩ := h
      exact (paramsGetInt_ok hget).byte (by omega) (by omega)
  · cases h

theorem getPulse_ok {kind : String} {durationMs : UInt32}
    (h : getPulse params kind = .ok durationMs) :
    Reads params "duration_ms" durationMs.toNat ∧ 0 < durationMs.toNat := by
  simp only [getPulse, bind_eq_ok_iff, refuseIf_ok, pure_ok] at h
  obtain ⟨n, hread, -, hcheck, rfl⟩ := h
  have hread := getInt_ok hread
  have hword := hread.word (by omega)
  exact ⟨by rwa [hword], by omega⟩

/-- A cycle that does not wrap, or wraps to a negative one, is counted as it is. -/
theorem counted_le {cycle count : Nat} (h : ¬effectTooLong (intWrap cycle) count)
    (hpos : 0 < count) (hcount : count ≤ 2147483647) (hcycle : cycle < 2 ^ 32) :
    cycle * count ≤ maxEffectMs := by
  have hshort : intWrap cycle * count % 18446744073709551616 ≤ maxEffectMs :=
    not_lt.1 fun hlong => h ⟨by omega, hlong⟩
  unfold maxEffectMs at hshort ⊢
  unfold intWrap at hshort
  rw [Int.bmod_def] at hshort
  push_cast at hshort
  by_cases hlt : cycle < 2 ^ 31
  · have hsame : (cycle : Int) % 4294967296 = cycle := by omega
    have hmul : (cycle : Int) * count < 18446744073709551616 := by nlinarith
    rw [if_pos (by omega), hsame] at hshort
    have hle : (cycle : Int) * count ≤ 600000 := by omega
    exact_mod_cast hle
  have hsame : (cycle : Int) % 4294967296 - 4294967296 = cycle - 4294967296 := by omega
  have hlow : -(2 ^ 62) < ((cycle : Int) - 4294967296) * count := by nlinarith
  have hneg : ((cycle : Int) - 4294967296) * count < 0 := by nlinarith
  rw [if_neg (by omega), hsame] at hshort
  omega

theorem getBlink_ok {kind : String} {onMs offMs count : UInt32}
    (h : getBlink params kind = .ok (onMs, offMs, count)) :
    (∀ entry ∈ blinkInts onMs offMs count, Reads params entry.1 entry.2) ∧
      (0 < onMs.toNat ∧ 0 < offMs.toNat) ∧
      (0 < count.toNat → (onMs.toNat + offMs.toNat) * count.toNat ≤ maxEffectMs) := by
  simp only [getBlink, bind_eq_ok_iff, refuseIf_ok, pure_ok, Prod.mk.injEq, not_or, not_le, not_lt] at h
  obtain ⟨on, hon, off, hoff, times, htimes, -, ⟨hpos, hpos', hnonneg, hshort⟩, rfl, rfl, rfl⟩ := h
  have hon := getInt_ok hon
  have hoff := getInt_ok hoff
  have htimes := getInt_ok htimes
  have hrange := hon.range
  have hrange' := hoff.range
  have hrange'' := htimes.range
  have hword := hon.word (by omega)
  have hword' := hoff.word (by omega)
  have hword'' := htimes.word hnonneg
  refine ⟨by simp [blinkInts, hword, hword', hword'', hon, hoff, htimes], ⟨by omega, by omega⟩,
    fun hcount => counted_le ?_ hcount (by omega) (by omega)⟩
  rwa [Nat.cast_add, hword, hword', hword'']

variable {hardware : HardwareCall → EspErr} {command : Command} {call : HardwareCall}

theorem callHardware_ok {call' : HardwareCall} {text : String}
    (h : callHardware hardware call text = .ok call') : call' = call := by
  unfold callHardware at h
  split_ifs at h
  exact (Except.ok.inj h).symm

theorem hardwareExecuteRelay_accepted
    (h : hardwareExecuteRelay hardware command params = .ok call) :
    call.Accepted (relayCalls command) params := by
  obtain ⟨channel, hchannel, h⟩ := bind_eq_ok_iff.1 h
  have hchannel := getChannel_ok hchannel
  unfold relayCalls
  split_ifs at h ⊢ with hset hpulse hblink htoggle
  · obtain ⟨on, -, h⟩ := bind_eq_ok_iff.1 h
    rw [callHardware_ok h]
    exact .brief rfl (by simpa [HardwareCall.ints]) rfl
  · obtain ⟨durationMs, hread, h⟩ := bind_eq_ok_iff.1 h
    rw [callHardware_ok h]
    obtain ⟨hint, hpos⟩ := getPulse_ok hread
    exact ⟨rfl, by simpa [HardwareCall.ints] using ⟨hchannel, hint⟩,
      by simpa [HardwareCall.timing], by simp [HardwareCall.timing]⟩
  · obtain ⟨⟨onMs, offMs, count⟩, hread, h⟩ := bind_eq_ok_iff.1 h
    rw [callHardware_ok h]
    obtain ⟨hints, hpos, hshort⟩ := getBlink_ok hread
    exact ⟨rfl, List.forall_mem_cons.2 ⟨hchannel, hints⟩,
      by simpa [HardwareCall.timing, blinkTiming] using hpos,
      by simpa [HardwareCall.timing, blinkTiming] using fun hcount => .inl (hshort hcount)⟩
  · rw [callHardware_ok h]
    exact .brief rfl (by simpa [HardwareCall.ints]) rfl

theorem hardwareExecuteMosfet_accepted
    (h : hardwareExecuteMosfet hardware command params = .ok call) :
    call.Accepted (mosfetCalls command) params := by
  unfold hardwareExecuteMosfet at h
  unfold mosfetCalls
  by_cases hoff : isCommand command "all_off" "mosfet.all_off" = true
  · rw [if_pos hoff] at h ⊢
    rw [callHardware_ok h]
    exact .brief rfl (by simp [HardwareCall.ints]) rfl
  rw [if_neg hoff] at h ⊢
  obtain ⟨channel, hchannel, h⟩ := bind_eq_ok_iff.1 h
  have hchannel := getChannel_ok hchannel
  split_ifs at h ⊢ with hset hfade hpulse hblink hbreathe
  · obtain ⟨value, hvalue, h⟩ := bind_eq_ok_iff.1 h
    rw [callHardware_ok h]
    exact .brief rfl (by simpa [HardwareCall.ints] using ⟨hchannel, getPwmValue_ok hvalue⟩) rfl
  · simp only [bind_eq_ok_iff, refuseIf_ok] at h
    obtain ⟨target, htarget, durationMs, hread, -, hpos, -, hcheck, h⟩ := h
    rw [callHardware_ok h]
    have hint := getInt_ok hread
    rw [← hint.word (by omega)] at hint
    exact .brief rfl (by simpa [HardwareCall.ints] using
      ⟨hchannel, getPwmValue_ok htarget, hint⟩) rfl
  · simp only [bind_eq_ok_iff] at h
    obtain ⟨value, hvalue, durationMs, hread, h⟩ := h
    rw [callHardware_ok h]
    obtain ⟨hint, hpos⟩ := getPulse_ok hread
    exact ⟨rfl, by simpa [HardwareCall.ints] using ⟨hchannel, getPwmValue_ok hvalue, hint⟩,
      by simpa [HardwareCall.timing], by simp [HardwareCall.timing]⟩
  · simp only [bind_eq_ok_iff] at h
    obtain ⟨value, hvalue, finalValue, hfinal, ⟨onMs, offMs, count⟩, hread, h⟩ := h
    rw [callHardware_ok h]
    obtain ⟨hints, hpos, hshort⟩ := getBlink_ok hread
    exact ⟨rfl, List.forall_mem_cons.2 ⟨hchannel, List.forall_mem_cons.2
        ⟨getPwmValue_ok hvalue, List.forall_mem_cons.2 ⟨getFinalValue_ok hfinal, hints⟩⟩⟩,
      by simpa [HardwareCall.timing, blinkTiming] using hpos,
      by simpa [HardwareCall.timing, blinkTiming] using fun hcount => .inl (hshort hcount)⟩
  · simp only [bind_eq_ok_iff, refuseIf_ok, not_or, not_le, not_lt] at h
    obtain ⟨minValue, hmin, maxValue, hmax, finalValue, hfinal, fade, hfade, hold, hhold, times,
      htimes, -, ⟨hpos, hnonneg, hnonneg', -, hshort⟩, h⟩ := h
    rw [callHardware_ok h]
    have hfade := getInt_ok hfade
    have hhold := getInt_ok hhold
    have htimes := getInt_ok htimes
    have hrange := htimes.range
    have hword := hfade.word (by omega)
    have hword' := hhold.word hnonneg
    have hword'' := htimes.word hnonneg'
    rw [intWrap, intWrap, intWrap, Int.add_bmod_bmod, Int.bmod_add_bmod] at hshort
    refine ⟨rfl, ?_, by simp [HardwareCall.timing]; omega, ?_⟩
    · simp only [HardwareCall.ints, List.forall_mem_cons, hword, hword', hword'']
      exact ⟨hchannel, getPwmValue_ok hmin, getPwmValue_ok hmax, getFinalValue_ok hfinal, hfade,
        hhold, htimes, List.forall_mem_nil _⟩
    intro effect heffect hcount
    cases heffect
    by_cases hlt : (UInt32.ofInt fade).toNat * 2 + (UInt32.ofInt hold).toNat * 2 < 2 ^ 32
    · refine .inl (counted_le ?_ hcount (by omega) hlt)
      rwa [Nat.cast_add, Nat.cast_mul, Nat.cast_mul, hword, hword', hword'']
    · exact .inr ⟨not_lt.1 hlt, by simp [HardwareCall.ints]⟩

theorem hardwareExecuteIo_accepted (h : hardwareExecuteIo hardware command params = .ok call) :
    call.Accepted (ioCalls command) params := by
  obtain ⟨channel, hchannel, h⟩ := bind_eq_ok_iff.1 h
  have hchannel := getChannel_ok hchannel
  unfold ioCalls
  split_ifs at h ⊢ with hset hpulse hblink htoggle hget
  · obtain ⟨active, -, h⟩ := bind_eq_ok_iff.1 h
    rw [callHardware_ok h]
    exact .brief rfl (by simpa [HardwareCall.ints]) rfl
  · simp only [bind_eq_ok_iff] at h
    obtain ⟨active, -, durationMs, hread, h⟩ := h
    rw [callHardware_ok h]
    obtain ⟨hint, hpos⟩ := getPulse_ok hread
    exact ⟨rfl, by simpa [HardwareCall.ints] using ⟨hchannel, hint⟩,
      by simpa [HardwareCall.timing], by simp [HardwareCall.timing]⟩
  · obtain ⟨⟨onMs, offMs, count⟩, hread, h⟩ := bind_eq_ok_iff.1 h
    rw [callHardware_ok h]
    obtain ⟨hints, hpos, hshort⟩ := getBlink_ok hread
    exact ⟨rfl, List.forall_mem_cons.2 ⟨hchannel, hints⟩,
      by simpa [HardwareCall.timing, blinkTiming] using hpos,
      by simpa [HardwareCall.timing, blinkTiming] using fun hcount => .inl (hshort hcount)⟩
  · rw [callHardware_ok h]
    exact .brief rfl (by simpa [HardwareCall.ints]) rfl
  · rw [callHardware_ok h]
    exact .brief rfl (by simpa [HardwareCall.ints]) rfl

variable {available : Bool} {deviceId : String}

theorem executeHardware_accepted
    (h : executeHardware hardware command params available deviceId = .ok call) :
    call.Accepted (hardwareCalls deviceId command) params := by
  unfold executeHardware at h
  unfold hardwareCalls
  split_ifs at h ⊢ with hnone hrelay hmosfet hio
  · exact hardwareExecuteRelay_accepted h
  · exact hardwareExecuteMosfet_accepted h
  · exact hardwareExecuteIo_accepted h

/-! ### Calls that are right -/

/-- What is written for a key, or 0 where nothing is. -/
def Holds (params : List Char) (key : String) (n : Int) : Prop :=
  Written params key n ∨ (n = 0 ∧ ∀ m, ¬Written params key m)

theorem Reads.holds (h : Reads params key n)
    (hfit : ∀ m, Written params key m → -2147483648 ≤ m ∧ m ≤ 2147483647) : Holds params key n := by
  rcases h with ⟨m, hm, rfl⟩ | h
  · have hsame : saturate m = m := by
      have := hfit m hm
      unfold saturate
      omega
    rw [hsame]
    exact .inl hm
  · exact .inr h

theorem Holds.eq (h : Holds params key n) (hm : Written params key m) : m = n := by
  rcases h with h | ⟨-, hnone⟩
  · exact hm.unique h
  · exact absurd hm (hnone m)

theorem Holds.written (h : Holds params key n) (hn : n ≠ 0) : Written params key n :=
  h.resolve_right fun hzero => hn hzero.1

/-- A call with what is written, for no longer than the limit, and nothing on the way to it
    wraps. -/
structure HardwareCall.Right (params : List Char) (call : HardwareCall) : Prop where
  written : ∀ entry ∈ call.ints, Holds params entry.1 entry.2
  positive : ∀ ms ∈ call.timing.1, 0 < ms
  bounded : ∀ effect ∈ call.timing.2, 0 < effect.2 → effect.1 * effect.2 ≤ maxEffectMs
  unwrapped : ∀ effect ∈ call.timing.2, 0 < effect.2 →
    effect.1 < 2 ^ 31 ∧ effect.1 * effect.2 < 2 ^ 64

/-- The integers that a command reads. -/
def intKeys (deviceId : String) (command : Command) : List String :=
  (hardwareCalls deviceId command).filterMap Call.intKey

/-- The integers fit an `int`, and the cycle of a breathing light that ends does. -/
structure ParamsFit (deviceId : String) (command : Command) (params : List Char) : Prop where
  ints : ∀ key ∈ intKeys deviceId command, ∀ n, Written params key n →
    -2147483648 ≤ n ∧ n ≤ 2147483647
  breathe : "fade_ms" ∈ intKeys deviceId command → ∀ fadeMs holdMs count,
    Written params "fade_ms" fadeMs → Written params "hold_ms" holdMs →
    Written params "count" count → 0 < count → fadeMs + holdMs < 1073741824

/-- The only call with the key of a fading light is the breathing one. -/
theorem timing_of_fade (h : "fade_ms" ∈ call.ints.map Prod.fst) :
    ∃ fadeMs holdMs count, call.timing.2 = some (fadeMs * 2 + holdMs * 2, count) ∧
      ("fade_ms", fadeMs) ∈ call.ints ∧ ("hold_ms", holdMs) ∈ call.ints ∧
      ("count", count) ∈ call.ints := by
  cases call with
  | relay channel command => cases command <;> simp [HardwareCall.ints, blinkInts] at h
  | mosfet channel command =>
    cases command <;> simp [HardwareCall.ints, HardwareCall.timing, blinkInts] at h ⊢
  | mosfetAllOff => simp [HardwareCall.ints] at h
  | io channel command => cases command <;> simp [HardwareCall.ints, blinkInts] at h
  | ioGet channel => simp [HardwareCall.ints] at h

/-- What is right about a call comes down to the integers that are read for it. -/
theorem HardwareCall.Accepted.right_iff
    (h : call.Accepted (hardwareCalls deviceId command) params) :
    call.Right params ↔ ParamsFit deviceId command params := by
  have hkeys : intKeys deviceId command = call.ints.map Prod.fst := h.keys
  constructor
  · intro hright
    refine ⟨fun key hkey n hn => ?_, fun hkey fadeMs holdMs count hfade hhold hcount hpos => ?_⟩
    · rw [hkeys] at hkey
      obtain ⟨entry, hmem, rfl⟩ := List.mem_map.1 hkey
      rw [(hright.written entry hmem).eq hn]
      exact (h.ints entry hmem).range
    rw [hkeys] at hkey
    obtain ⟨fade, hold, times, heffect, hmem, hmem', hmem''⟩ := timing_of_fade hkey
    rw [(hright.written _ hmem).eq hfade, (hright.written _ hmem').eq hhold]
    rw [(hright.written _ hmem'').eq hcount] at hpos
    have := (hright.unwrapped _ heffect (by simpa using hpos)).1
    omega
  intro hfit
  have hholds : ∀ entry ∈ call.ints, Holds params entry.1 entry.2 := fun entry hmem =>
    (h.ints entry hmem).holds (hfit.ints entry.1 (hkeys ▸ List.mem_map_of_mem hmem))
  have hbounded : ∀ effect ∈ call.timing.2, 0 < effect.2 →
      effect.1 * effect.2 ≤ maxEffectMs := by
    intro effect heffect hpos
    rcases h.counted effect heffect hpos with hle | ⟨hlarge, hkey⟩
    · exact hle
    -- Neither the fade nor the hold is 0, so both are written.
    obtain ⟨fade, hold, times, hbreathe, hfade, hhold, hcount⟩ := timing_of_fade hkey
    obtain rfl := Option.some.inj (hbreathe.symm.trans heffect)
    have hle := (h.ints _ hfade).range
    have hle' := (h.ints _ hhold).range
    have := hfit.breathe (hkeys ▸ hkey) _ _ _ ((hholds _ hfade).written (by omega))
      ((hholds _ hhold).written (by omega)) ((hholds _ hcount).written (by omega)) (by omega)
    omega
  refine ⟨hholds, h.positive, hbounded, fun effect heffect hpos => ?_⟩
  have hle := hbounded effect heffect hpos
  have hone := Nat.le_mul_of_pos_right effect.1 hpos
  unfold maxEffectMs at hle
  omega

theorem hardware_right_iff {hardware : HardwareCall → EspErr} {command : Command}
    {params : List Char} {available : Bool} {deviceId : String} {call : HardwareCall}
    (h : executeHardware hardware command params available deviceId = .ok call) :
    call.Right params ↔ ParamsFit deviceId command params :=
  (executeHardware_accepted h).right_iff

def breathe : Command := ⟨"breathe", "mosfet.breathe", [], []⟩

/-- Two phases that are longer together than an `int` can tell. -/
def longBreath : List Char :=
  ("\x7b\"channel\":1,\"min\":0,\"max\":9,\"fade_ms\":1073741824,\"hold_ms\":1073741825," ++
    "\"count\":1\x7d").toList

theorem longBreath_accepted :
    executeHardware (fun _ => .ok) breathe longBreath true systemMosfetId =
      .ok (.mosfet 1 (.breathe 0 9 1073741824 1073741825 1 0)) := by
  decide +kernel

theorem hardware_right_iff_longBreath :
    HardwareCall.Right longBreath (.mosfet 1 (.breathe 0 9 1073741824 1073741825 1 0)) ↔
      ParamsFit systemMosfetId breathe longBreath :=
  hardware_right_iff longBreath_accepted

theorem not_everyCallRight : ¬∀ (hardware : HardwareCall → EspErr) (command : Command)
    (params : List Char) (available : Bool) (deviceId : String) (call : HardwareCall),
    executeHardware hardware command params available deviceId = .ok call →
      call.Right params := by
  intro h
  have hshort := (h _ _ _ _ _ _ longBreath_accepted).bounded _ rfl (by decide)
  revert hshort
  decide

end SceneHub.Executor
