import Mathlib.Data.List.Induction
import SceneHub.Session.Core
import SceneHub.Lib.Names

/-!
# Flag Events

While the sessions lock is held, flags of any number of rooms are set. Each
change leaves an event in a table of the lock, which is posted when the lock is
given back. The table knows flags by name only and holds sixteen of them.

A call writes the flag of its room first and the table after it. So two things
can go wrong: the table has no room for the event of a flag that is written by
then, and two rooms have changed flags of one name to different values. Short
of these, every transaction does what one expects of it.

## Main definitions

* `putFlag`: A flag is overwritten, or added behind the others.
* `FlagTransaction`: The lock, the flags of every room, and which of them
  successful calls have changed.
* `EventsAgree`: The table holds what is to be told of the changed flags.
* `FlagsKept`: What one expects of a transaction.
* `Writes`, `Fits`: A call that writes, and one that goes well.

## Theorems

* `setFlag_idle`, `setFlag_writes`: What a call does.
* `call_fits_iff`: A call goes well if and only if it fits.
* `flags_kept_iff`: All of a transaction goes well if and only if every call
  of it fits.
-/

namespace SceneHub

open Function (update update_self update_of_ne)

variable {t : FlagTransaction}

/-! ### A table of flags -/

/-- Overwrite the flag of that name, or add it behind the others. -/
def putFlag (name : String) (value : Bool) (flags : List Flag) : List Flag :=
  (overwriteFlag name value flags).getD (flags ++ [⟨name, value⟩])

def UniqueNames (flags : List Flag) : Prop := (flags.map Flag.name).Nodup

section

variable (name : String) (value : Bool)

theorem overwriteFlag_eq_none_iff (flags : List Flag) :
    overwriteFlag name value flags = none ↔ name ∉ flags.map Flag.name := by
  induction flags with
  | nil => simp [overwriteFlag]
  | cons f fs ih =>
    unfold overwriteFlag
    by_cases h : f.name = name
    · simp [h]
    · have h' : ¬ name = f.name := fun hc => h hc.symm
      simp [if_neg h, Option.map_eq_none_iff, ih, h']

theorem putFlag_nil : putFlag name value [] = [⟨name, value⟩] := rfl

theorem putFlag_cons (f : Flag) (fs : List Flag) : putFlag name value (f :: fs) =
      if f.name = name then ⟨name, value⟩ :: fs else f :: putFlag name value fs := by
  unfold putFlag
  rw [overwriteFlag]
  by_cases h : f.name = name
  · subst h
    simp
  rw [if_neg h, if_neg h]
  cases overwriteFlag name value fs with
  | none => rfl
  | some fs' => rfl

theorem putFlag_names (flags : List Flag) :
    (putFlag name value flags).map Flag.name = Lib.addName (flags.map Flag.name) name := by
  induction flags with
  | nil => rfl
  | cons f fs ih =>
    rw [putFlag_cons]
    unfold Lib.addName at ih ⊢
    by_cases h : f.name = name
    · simp [h]
    have h' : ¬ name = f.name := fun hc => h hc.symm
    rw [if_neg h, List.map_cons, List.map_cons, ih]
    by_cases hmem : name ∈ fs.map Flag.name
    · rw [if_pos hmem, if_pos (.tail _ hmem)]
    have hnot : name ∉ f.name :: fs.map Flag.name := by
      rw [List.mem_cons]
      tauto
    rw [if_neg hmem, if_neg hnot]
    rfl

end

theorem UniqueNames.put {flags : List Flag} (h : UniqueNames flags) (name : String)
    (value : Bool) : UniqueNames (putFlag name value flags) := by
  unfold UniqueNames
  rw [putFlag_names]
  exact Lib.addName_nodup h name

theorem mem_putFlag {flags : List Flag} (h : UniqueNames flags) (name : String) (value : Bool)
    (e : Flag) : e ∈ putFlag name value flags ↔ e = ⟨name, value⟩ ∨ e ∈ flags ∧ e.name ≠ name := by
  induction flags with
  | nil => simp [putFlag_nil]
  | cons f fs ih =>
    have hfs : UniqueNames fs := (List.nodup_cons.1 h).2
    have hf : ∀ g ∈ fs, g.name ≠ f.name := by
      intro g hg heq
      exact (List.nodup_cons.1 h).1 (heq ▸ List.mem_map_of_mem hg)
    rw [putFlag_cons]
    by_cases hname : f.name = name
    · rw [if_pos hname, List.mem_cons, List.mem_cons]
      refine or_congr_right ⟨fun he => ⟨Or.inr he, hname ▸ hf e he⟩, ?_⟩
      rintro ⟨he | he, hne⟩
      · exact absurd (he ▸ hname) hne
      · exact he
    rw [if_neg hname, List.mem_cons, List.mem_cons, ih hfs]
    constructor
    · rintro (he | he | he)
      · exact Or.inr ⟨Or.inl he, he ▸ hname⟩
      · exact Or.inl he
      · exact Or.inr ⟨Or.inr he.1, he.2⟩
    rintro (he | ⟨he | he, hne⟩)
    · exact Or.inr (Or.inl he)
    · exact Or.inl he
    · exact Or.inr (Or.inr ⟨he, hne⟩)

theorem getFlag_putFlag (flags : List Flag) (name other : String) (value : Bool)
    (hname : name ≠ "") : getFlag (putFlag name value flags) other =
      if other = name then some value else getFlag flags other := by
  unfold getFlag
  by_cases hother : other = ""
  · have hne : ¬ "" = name := fun hc => hname hc.symm
    simp [hother, hne]
  rw [if_neg hother, if_neg hother]
  induction flags with
  | nil =>
    rw [putFlag_nil, List.find?_cons]
    by_cases h : other = name
    · simp [h]
    · have h' : ¬ name = other := fun hc => h hc.symm
      simp [h, h']
  | cons f fs ih =>
    rw [putFlag_cons]
    by_cases hf : f.name = name
    · rw [if_pos hf, List.find?_cons, List.find?_cons]
      by_cases h : other = name
      · simp [h]
      · have h' : ¬ name = other := fun hc => h hc.symm
        simp [h, h', hf]
    rw [if_neg hf, List.find?_cons, List.find?_cons]
    by_cases h : f.name = other
    · have h' : ¬ other = name := fun hc => hf (h.trans hc)
      simp [h, h']
    · simp only [decide_eq_false h]
      exact ih

theorem getFlag_eq_none_iff (flags : List Flag) (name : String) (hname : name ≠ "") :
    getFlag flags name = none ↔ name ∉ flags.map Flag.name := by
  unfold getFlag
  rw [if_neg hname, Option.map_eq_none_iff, List.find?_eq_none]
  simp

/-! ### One call -/

/-- The call changes the value of its flag or adds the flag. -/
def Writes (flags : List Flag) (f : Flag) : Prop :=
  f.name ≠ "" ∧ getFlag flags f.name ≠ some f.value ∧
    (getFlag flags f.name = none → flags.length < scenarioMaxFlags)

instance (flags : List Flag) (f : Flag) : Decidable (Writes flags f) :=
  inferInstanceAs (Decidable (_ ∧ _ ∧ (_ → _)))

/-- The table of events has the name, or room for it. -/
def EventFits (l : Lock) (name : String) : Prop :=
  name ∈ l.flagEvents.map Flag.name ∨ l.flagEvents.length < scenarioMaxFlags

instance (l : Lock) (name : String) : Decidable (EventFits l name) :=
  inferInstanceAs (Decidable (_ ∨ _))

theorem deferFlagEvent_fits (l : Lock) (f : Flag) (h : EventFits l f.name) :
    l.deferFlagEvent f.name f.value =
      (.ok, { l with flagEvents := putFlag f.name f.value l.flagEvents }) := by
  unfold Lock.deferFlagEvent putFlag
  cases hover : overwriteFlag f.name f.value l.flagEvents with
  | some events => rfl
  | none =>
    rcases h with hmem | hroom
    · exact absurd hmem ((overwriteFlag_eq_none_iff _ _ _).1 hover)
    · rw [if_neg (by omega)]
      rfl

theorem deferFlagEvent_full (l : Lock) (f : Flag) (h : ¬ EventFits l f.name) :
    l.deferFlagEvent f.name f.value = (.noMem, l) := by
  rcases not_or.1 h with ⟨habsent, hfull⟩
  unfold Lock.deferFlagEvent
  rw [(overwriteFlag_eq_none_iff _ f.value _).2 habsent]
  exact if_pos (by omega)

theorem setFlag_idle (l : Lock) (flags : List Flag) (f : Flag) (h : ¬ Writes flags f) :
    ∃ err, setFlag l flags f.name f.value = (err, l, flags) := by
  unfold setFlag
  by_cases hname : f.name = ""
  · exact ⟨_, if_pos hname⟩
  rw [if_neg hname]
  unfold Writes getFlag at h
  rw [if_neg hname] at h
  cases hfind : flags.find? fun g => g.name = f.name with
  | some g =>
    rw [hfind] at h
    have hvalue : g.value = f.value := by
      simpa [hname] using h
    exact ⟨_, if_pos hvalue⟩
  | none =>
    rw [hfind] at h
    have hfull : scenarioMaxFlags ≤ flags.length := by
      simpa [hname] using h
    exact ⟨_, if_pos hfull⟩

/-- A call that writes puts the flag among those of its room, whatever becomes
    of the event. -/
theorem setFlag_writes (l : Lock) (flags : List Flag) (f : Flag) (h : Writes flags f) :
    setFlag l flags f.name f.value =
      ((l.deferFlagEvent f.name f.value).1, (l.deferFlagEvent f.name f.value).2,
        putFlag f.name f.value flags) := by
  rcases h with ⟨hname, hvalue, hroom⟩
  have hnone := getFlag_eq_none_iff flags f.name hname
  unfold setFlag putFlag
  unfold getFlag at hvalue hroom hnone
  rw [if_neg hname] at hvalue hroom hnone ⊢
  cases hfind : flags.find? fun g => g.name = f.name with
  | some g =>
    rw [hfind] at hvalue hnone
    have hdiffers : ¬ g.value = f.value := fun hc => hvalue (congrArg some hc)
    have hfound : f.name ∈ flags.map Flag.name := by simpa using hnone
    cases hover : overwriteFlag f.name f.value flags with
    | none => exact absurd hfound ((overwriteFlag_eq_none_iff _ _ _).1 hover)
    | some flags' => exact if_neg hdiffers
  | none =>
    rw [hfind] at hroom hnone
    have habsent : f.name ∉ flags.map Flag.name := by simpa using hnone
    rw [(overwriteFlag_eq_none_iff _ f.value _).2 habsent]
    exact if_neg (Nat.not_le.2 (hroom rfl))

/-! ### A transaction -/

structure FlagCall where
  room : String
  flag : Flag
  deriving DecidableEq, Repr

/-- The lock while it is held, the flags of every room, and the flags that
    successful calls have changed. -/
structure FlagTransaction where
  lock : Lock
  flags : String → List Flag
  changed : List (String × String) := []

namespace FlagTransaction

/-- Taking the lock, with nothing deferred. -/
def start (l : Lock) (flags : String → List Flag) : FlagTransaction :=
  { lock := l.acquire, flags := flags }

def call (t : FlagTransaction) (c : FlagCall) : EspErr × FlagTransaction :=
  let (err, lock, flags) := setFlag t.lock (t.flags c.room) c.flag.name c.flag.value
  (err,
    { lock := lock
      flags := update t.flags c.room flags
      changed :=
        if err = .ok ∧ flags ≠ t.flags c.room then (c.room, c.flag.name) :: t.changed
        else t.changed })

def run (t : FlagTransaction) (calls : List FlagCall) : FlagTransaction :=
  calls.foldl (fun t c => (t.call c).2) t

/-- The flags that were changed have one event each, with the value they have
    in the end, and there are no other events. -/
structure EventsAgree (t : FlagTransaction) : Prop where
  once : UniqueNames t.lock.flagEvents
  each : ∀ room name, (room, name) ∈ t.changed →
    ∃ value, getFlag (t.flags room) name = some value ∧ ⟨name, value⟩ ∈ t.lock.flagEvents
  only : ∀ e ∈ t.lock.flagEvents, ∃ room, (room, e.name) ∈ t.changed

/-- A call that returns an error has changed neither flags nor events. -/
def CallKept (t : FlagTransaction) (c : FlagCall) : Prop :=
  (t.call c).1 ≠ .ok →
    (t.call c).2.flags = t.flags ∧ (t.call c).2.lock.flagEvents = t.lock.flagEvents

/-- What one expects of the transaction that makes these calls. -/
structure FlagsKept (t : FlagTransaction) (calls : List FlagCall) : Prop where
  unique : ∀ room, UniqueNames ((t.run calls).flags room)
  failed : ∀ before c, before ++ [c] <+: calls → (t.run before).CallKept c
  events : (t.run calls).EventsAgree

/-- The call writes nothing; or its event fits, and no other room has changed
    a flag of that name to another value. -/
def Fits (t : FlagTransaction) (c : FlagCall) : Prop :=
  Writes (t.flags c.room) c.flag →
    EventFits t.lock c.flag.name ∧
      ∀ room, room ≠ c.room → (room, c.flag.name) ∈ t.changed →
        getFlag (t.flags room) c.flag.name = some c.flag.value

section

variable (t : FlagTransaction) (c : FlagCall)

theorem call_idle (h : ¬ Writes (t.flags c.room) c.flag) : (t.call c).2 = t := by
  rcases setFlag_idle t.lock (t.flags c.room) c.flag h with ⟨err, hset⟩
  unfold call
  simp [hset]

theorem call_writes (h : Writes (t.flags c.room) c.flag) : t.call c =
      ((t.lock.deferFlagEvent c.flag.name c.flag.value).1,
        { lock := (t.lock.deferFlagEvent c.flag.name c.flag.value).2
          flags := update t.flags c.room
            (putFlag c.flag.name c.flag.value (t.flags c.room))
          changed :=
            if EventFits t.lock c.flag.name then (c.room, c.flag.name) :: t.changed
            else t.changed }) := by
  have hput : putFlag c.flag.name c.flag.value (t.flags c.room) ≠ t.flags c.room := by
    intro hsame
    have hget := getFlag_putFlag (t.flags c.room) c.flag.name c.flag.name c.flag.value h.1
    rw [hsame, if_pos rfl] at hget
    exact h.2.1 hget
  have hok : (t.lock.deferFlagEvent c.flag.name c.flag.value).1 = .ok ↔
      EventFits t.lock c.flag.name := by
    by_cases hfits : EventFits t.lock c.flag.name
    · rw [deferFlagEvent_fits t.lock c.flag hfits]
      exact ⟨fun _ => hfits, fun _ => rfl⟩
    rw [deferFlagEvent_full t.lock c.flag hfits]
    have hne : EspErr.noMem ≠ .ok := by decide
    exact ⟨fun hc => absurd hc hne, fun hc => absurd hc hfits⟩
  unfold call
  rw [setFlag_writes _ _ _ h]
  simp [hok, hput]

theorem call_flags (h : Writes (t.flags c.room) c.flag) : (t.call c).2.flags =
      update t.flags c.room (putFlag c.flag.name c.flag.value (t.flags c.room)) := by
  rw [call_writes t c h]

end

/-! ### What a call preserves -/

theorem call_unique (c : FlagCall) (h : ∀ room, UniqueNames (t.flags room)) (room : String) :
    UniqueNames ((t.call c).2.flags room) := by
  by_cases hw : Writes (t.flags c.room) c.flag
  · rw [call_flags t c hw]
    by_cases hroom : room = c.room
    · subst hroom
      rw [update_self]
      exact (h _).put _ _
    · rw [update_of_ne hroom]
      exact h room
  · rw [call_idle t c hw]
    exact h room

theorem not_callKept {c : FlagCall} (hw : Writes (t.flags c.room) c.flag)
    (hfull : ¬ EventFits t.lock c.flag.name) : ¬ t.CallKept c := by
  intro hkept
  have herr : (t.call c).1 ≠ .ok := by
    have hne : EspErr.noMem ≠ .ok := by decide
    rw [call_writes t c hw, deferFlagEvent_full _ _ hfull]
    exact hne
  have hsame := congrFun (hkept herr).1 c.room
  have hget := getFlag_putFlag (t.flags c.room) c.flag.name c.flag.name c.flag.value hw.1
  rw [call_flags t c hw, update_self] at hsame
  rw [hsame, if_pos rfl] at hget
  exact hw.2.1 hget

/-- Where the event fits, the tables agree afterwards if and only if no other
    room disagrees with the new value. -/
theorem eventsAgree_call_iff {c : FlagCall} (h : t.EventsAgree)
    (hw : Writes (t.flags c.room) c.flag) (hfits : EventFits t.lock c.flag.name) :
    (t.call c).2.EventsAgree ↔
      ∀ room, room ≠ c.room → (room, c.flag.name) ∈ t.changed →
        getFlag (t.flags room) c.flag.name = some c.flag.value := by
  have hself := getFlag_putFlag (t.flags c.room) c.flag.name c.flag.name c.flag.value hw.1
  rw [if_pos rfl] at hself
  rw [call_writes t c hw, deferFlagEvent_fits _ _ hfits, if_pos hfits]
  constructor
  · intro hagree room hroom hchanged
    rcases hagree.each room _ (.tail _ hchanged) with ⟨value, hget, hmem⟩
    simp only [update_of_ne hroom] at hget
    -- the only event of that name carries the new value
    rcases (mem_putFlag h.once _ _ _).1 hmem with heq | ⟨-, hne⟩
    · rw [hget, (Flag.mk.inj heq).2]
    · exact absurd rfl hne
  intro hothers
  refine ⟨h.once.put _ _, ?_, ?_⟩
  · intro room name hchanged
    by_cases hname : name = c.flag.name
    · -- whichever room it is, its flag has the new value
      subst hname
      refine ⟨c.flag.value, ?_, (mem_putFlag h.once _ _ _).2 (Or.inl rfl)⟩
      by_cases hroom : room = c.room
      · subst hroom
        simp only [update_self]
        exact hself
      simp only [update_of_ne hroom]
      refine hothers room hroom ?_
      rcases List.mem_cons.1 hchanged with heq | hmem
      · exact absurd (Prod.mk.inj heq).1 hroom
      · exact hmem
    have hmem : (room, name) ∈ t.changed := by
      rcases List.mem_cons.1 hchanged with heq | hmem
      · exact absurd (Prod.mk.inj heq).2 hname
      · exact hmem
    rcases h.each room name hmem with ⟨value, hget, hevent⟩
    refine ⟨value, ?_, (mem_putFlag h.once _ _ _).2 (Or.inr ⟨hevent, hname⟩)⟩
    by_cases hroom : room = c.room
    · subst hroom
      simp only [update_self]
      rw [getFlag_putFlag _ _ _ _ hw.1, if_neg hname]
      exact hget
    · simp only [update_of_ne hroom]
      exact hget
  · intro e he
    rcases (mem_putFlag h.once _ _ _).1 he with heq | ⟨hold, -⟩
    · exact ⟨c.room, heq ▸ .head _⟩
    · rcases h.only e hold with ⟨room, hmem⟩
      exact ⟨room, .tail _ hmem⟩

/-- A call goes well if and only if it fits. -/
theorem call_fits_iff (c : FlagCall) (h : t.EventsAgree) :
    t.CallKept c ∧ (t.call c).2.EventsAgree ↔ t.Fits c := by
  by_cases hw : Writes (t.flags c.room) c.flag
  · by_cases hfits : EventFits t.lock c.flag.name
    · have hkept : t.CallKept c := by
        intro herr
        rw [call_writes t c hw, deferFlagEvent_fits _ _ hfits] at herr
        exact absurd rfl herr
      rw [eventsAgree_call_iff h hw hfits]
      exact ⟨fun hc _ => ⟨hfits, hc.2⟩, fun hc => ⟨hkept, (hc hw).2⟩⟩
    · exact ⟨fun hc => absurd hc.1 (not_callKept hw hfits), fun hc => absurd (hc hw).1 hfits⟩
  · have hidle := call_idle t c hw
    refine ⟨fun _ hc => absurd hc hw, fun _ => ⟨fun _ => ?_, ?_⟩⟩
    · rw [hidle]
      exact ⟨rfl, rfl⟩
    · rw [hidle]
      exact h

/-! ### What a transaction preserves -/

theorem run_concat (t : FlagTransaction) (calls : List FlagCall) (c : FlagCall) :
    t.run (calls ++ [c]) = ((t.run calls).call c).2 := List.foldl_concat ..

theorem run_unique (h : ∀ room, UniqueNames (t.flags room)) (calls : List FlagCall) :
    ∀ room, UniqueNames ((t.run calls).flags room) := by
  induction calls using List.reverseRecOn with
  | nil => exact h
  | append_singleton calls c ih =>
    rw [run_concat]
    exact call_unique c ih

theorem start_agree {l : Lock} (h : l.flagEvents = []) (flags : String → List Flag) :
    (start l flags).EventsAgree := by
  have hevents : (start l flags).lock.flagEvents = [] := h
  refine ⟨?_, nofun, fun e he => ?_⟩
  · unfold UniqueNames
    rw [hevents]
    exact List.nodup_nil
  · rw [hevents] at he
    exact nomatch he

/-- Whenever a transaction ends, what one expects of it holds, if and only if
    every call of it fits. -/
theorem flags_kept_iff (l : Lock) (flags : String → List Flag) (calls : List FlagCall)
    (hreleased : l.flagEvents = []) (hunique : ∀ room, UniqueNames (flags room)) :
    (∀ before, before <+: calls → (start l flags).FlagsKept before) ↔
      ∀ before c, before ++ [c] <+: calls → ((start l flags).run before).Fits c := by
  induction calls using List.reverseRecOn with
  | nil =>
    constructor
    · intro _ before c hprefix
      have hnil := List.prefix_nil.1 hprefix
      exact absurd hnil (by simp)
    intro _ before hprefix
    rw [List.prefix_nil.1 hprefix]
    refine ⟨hunique, fun before c hprefix => ?_, start_agree hreleased flags⟩
    have hnil := List.prefix_nil.1 hprefix
    exact absurd hnil (by simp)
  | append_singleton calls last ih =>
    constructor
    · intro hkept before c hprefix
      rcases List.prefix_concat_iff.1 hprefix with heq | hearlier
      · rcases List.append_inj' heq rfl with ⟨rfl, hlast⟩
        cases hlast
        have hbefore := hkept before (List.prefix_append _ _)
        have hall := hkept (before ++ [last]) List.prefix_rfl
        have hagree := hall.events
        rw [run_concat] at hagree
        exact (call_fits_iff last hbefore.events).1
          ⟨hall.failed before last List.prefix_rfl, hagree⟩
      · exact ih.1 (fun b hb => hkept b (hb.trans (List.prefix_append _ _))) before c hearlier
    intro hfits before hprefix
    have hearlier := ih.2 fun b c hb => hfits b c (hb.trans (List.prefix_append _ _))
    rcases List.prefix_concat_iff.1 hprefix with heq | hshorter
    · subst heq
      have hcalls := hearlier calls List.prefix_rfl
      rcases (call_fits_iff last hcalls.events).2 (hfits calls last List.prefix_rfl) with
        ⟨hkept, hagree⟩
      refine ⟨run_unique hunique _, ?_, ?_⟩
      · intro b c hb
        rcases List.prefix_concat_iff.1 hb with heq | hb'
        · rcases List.append_inj' heq rfl with ⟨rfl, hlast⟩
          cases hlast
          exact hkept
        · exact hcalls.failed b c hb'
      · rw [run_concat]
        exact hagree
    · exact hearlier before hshorter

theorem flags_kept_single : (start {} fun _ => []).FlagsKept [⟨"hall", ⟨"lit", true⟩⟩] := by
  refine (flags_kept_iff {} (fun _ => []) [⟨"hall", ⟨"lit", true⟩⟩] rfl
    fun _ => List.nodup_nil).2 ?_ _ List.prefix_rfl
  intro before c hprefix
  have hlength := hprefix.length_le
  rw [List.length_append, List.length_singleton, List.length_singleton] at hlength
  have hnil := List.eq_nil_of_length_eq_zero (l := before) (by omega)
  subst hnil
  refine fun _ => ⟨Or.inr (by decide), nofun⟩

/-- Sixteen flags of one room fill the table: the flag of another room is set by
    a call that fails. And of two rooms that set flags of one name differently,
    one has no event with its value. -/
theorem not_flags_kept : ¬ (start {} fun _ => []).FlagsKept
        ((["a", "b", "c", "d", "e", "f", "g", "h", "i", "j", "k", "l", "m", "n", "o",
          "p"].map fun name => ⟨"hall", ⟨name, true⟩⟩) ++ [⟨"vault", ⟨"open", true⟩⟩]) ∧
      ¬ (start {} fun _ => []).FlagsKept
        [⟨"hall", ⟨"lit", true⟩⟩, ⟨"vault", ⟨"lit", true⟩⟩, ⟨"vault", ⟨"lit", false⟩⟩] := by
  constructor
  · intro hkept
    have hsame := congrFun (hkept.failed _ _ List.prefix_rfl (by decide +kernel)).1 "vault"
    exact absurd hsame (by decide +kernel)
  intro hkept
  rcases hkept.events.each "hall" "lit" (by decide +kernel) with ⟨value, hget, hmem⟩
  have hvalue : value = true := by
    have htrue : getFlag (((start {} fun _ => []).run
        [⟨"hall", ⟨"lit", true⟩⟩, ⟨"vault", ⟨"lit", true⟩⟩,
          ⟨"vault", ⟨"lit", false⟩⟩]).flags "hall") "lit" = some true := by
      decide +kernel
    exact (Option.some.inj (htrue.symm.trans hget)).symm
  subst hvalue
  exact absurd hmem (by decide +kernel)

end FlagTransaction

end SceneHub
