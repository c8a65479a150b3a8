import SceneHub.Storage.FileTable
import Mathlib.Data.List.ReduceOption

/-!
# Game Profiles

The table of game profiles: `gm_game_profile.c`. A profile is in one of 32 slots, and
keeps its slot while it is changed. An import fills the slots from the first one on.

## Main definitions

* `Stored.GameProfile`: A profile and its checks.
* `Stored.GameProfile.toJson`, `Stored.GameProfile.fromJson`: Its form in a tree.
* `Stored.GameProfiles`: The slots.
* `Stored.GameProfiles.upsert`, `Stored.GameProfiles.delete`: What changes single profiles.
* `Stored.profileTable`: The table with its file.
-/

namespace SceneHub

open Lib (bind_eq_ok_iff)
open Json

namespace Stored

variable {t : GameProfiles}

def maxProfiles : Nat := 32

structure GameProfile where
  id : String
  name : String
  roomId : String
  scenarioId : String
  durationMs : UInt32
  hintPackId : String := ""
  audioPackId : String := ""
  enabled : Bool := true
  deriving DecidableEq, Repr

namespace GameProfile

def valid (p : GameProfile) : Bool :=
  p.id ≠ "" ∧ p.name ≠ "" ∧ p.roomId ≠ "" ∧ p.scenarioId ≠ "" ∧ 0 < p.durationMs

/-- The texts fit into the arrays of the record. -/
structure Fits (p : GameProfile) : Prop where
  id : p.id.utf8ByteSize < idMaxLen
  name : p.name.utf8ByteSize < nameMaxLen
  roomId : p.roomId.utf8ByteSize < idMaxLen
  scenarioId : p.scenarioId.utf8ByteSize < idMaxLen
  hintPackId : p.hintPackId.utf8ByteSize < idMaxLen
  audioPackId : p.audioPackId.utf8ByteSize < idMaxLen

/-! ### In a tree -/

/-- The members that `gm_game_profile_to_json` adds. -/
def members (p : GameProfile) : List (String × Json) :=
  [("id", .string p.id), ("name", .string p.name), ("room_id", .string p.roomId),
    ("scenario_id", .string p.scenarioId), ("duration_ms", .number p.durationMs.toNat),
    ("hint_pack_id", .string p.hintPackId), ("audio_pack_id", .string p.audioPackId),
    ("enabled", .bool p.enabled)]

def toJson (io : TableIo) (p : GameProfile) : Except EspErr Json :=
  if !p.valid then .error .invalidArg else .ok (addedMembers io p.id p.members)

/-- The duration, which may have a fraction. -/
def readDuration (obj : Json) : Except EspErr UInt32 :=
  match obj.get "duration_ms" with
  | some (.number value) =>
    if value ≤ 0 ∨ 4294967295 < value then .error .invalidArg
    else .ok (UInt32.ofNat value.floor.toNat)
  | _ => .error .invalidArg

/-- The members that `gm_game_profile_from_json` reads. -/
def readMembers (obj : Json) : Except EspErr GameProfile := do
  let id ← obj.stringRequired "id" idMaxLen
  let name ← obj.stringRequired "name" nameMaxLen
  let roomId ← obj.stringRequired "room_id" idMaxLen
  let scenarioId ← obj.stringRequired "scenario_id" idMaxLen
  let hintPackId ← obj.stringOptional "hint_pack_id" idMaxLen
  let audioPackId ← obj.stringOptional "audio_pack_id" idMaxLen
  let durationMs ← readDuration obj
  let enabled ← obj.boolOr "enabled" true
  return { id, name, roomId, scenarioId, durationMs, hintPackId, audioPackId, enabled }

def fromJson : Json → Except EspErr GameProfile := readChecked readMembers valid

/-- The loop of `gm_game_profile_import_json`, with the ids so far. -/
def readItems : List String → List Json → Except EspErr (List GameProfile)
  | _, [] => .ok []
  | seen, item :: rest =>
    match fromJson item with
    | .error err => .error err
    | .ok p =>
      if p.id ∈ seen then .error .invalidArg
      else match readItems (seen ++ [p.id]) rest with
        | .error err => .error err
        | .ok profiles => .ok (p :: profiles)

end GameProfile

namespace GameProfile

/-! ### What the checks find -/

/-- A profile that is in a table. -/
structure Sound (p : GameProfile) : Prop where
  valid : p.valid = true
  fits : p.Fits

theorem readMembers_fits {obj : Json} {p : GameProfile} (h : readMembers obj = .ok p) : p.Fits := by
  rcases bind_eq_ok_iff.1 h with ⟨id, hid, h⟩
  rcases bind_eq_ok_iff.1 h with ⟨name, hname, h⟩
  rcases bind_eq_ok_iff.1 h with ⟨roomId, hroom, h⟩
  rcases bind_eq_ok_iff.1 h with ⟨scenarioId, hscenario, h⟩
  rcases bind_eq_ok_iff.1 h with ⟨hintPackId, hhint, h⟩
  rcases bind_eq_ok_iff.1 h with ⟨audioPackId, haudio, h⟩
  rcases bind_eq_ok_iff.1 h with ⟨durationMs, -, h⟩
  rcases bind_eq_ok_iff.1 h with ⟨enabled, -, h⟩
  cases h
  have hpos : 0 < idMaxLen := by decide
  exact ⟨(stringRequired_filled hid).2, (stringRequired_filled hname).2,
    (stringRequired_filled hroom).2, (stringRequired_filled hscenario).2,
    stringOptional_fits hpos hhint, stringOptional_fits hpos haudio⟩

theorem fromJson_sound (item : Json) (p : GameProfile) (h : fromJson item = .ok p) : p.Sound := by
  rcases readChecked_eq_ok_iff.1 h with ⟨-, hread, hvalid⟩
  exact ⟨hvalid, readMembers_fits hread⟩

/-- A loop that looks for each id among those before it finds the ids distinct. -/
theorem readItems_eq_ok_iff (seen : List String) (items : List Json) (profiles : List GameProfile) :
    readItems seen items = .ok profiles ↔ Lib.readAll fromJson items = .ok profiles ∧
      (profiles.map id).Nodup ∧ ∀ p ∈ profiles, p.id ∉ seen := by
  induction items generalizing seen profiles with
  | nil =>
    constructor
    · intro h
      cases h
      exact ⟨rfl, List.nodup_nil, nofun⟩
    · intro h
      cases h.1
      rfl
  | cons item rest ih =>
    rw [readItems, Lib.readAll]
    cases fromJson item with
    | error err => exact iff_of_false nofun fun h => nomatch h.1
    | ok p =>
      dsimp only
      by_cases hseen : p.id ∈ seen
      · rw [if_pos hseen]
        refine iff_of_false nofun ?_
        rintro ⟨h, -, hnot⟩
        rcases bind_eq_ok_iff.1 h with ⟨_, hp, h⟩
        rcases bind_eq_ok_iff.1 h with ⟨ps, -, h⟩
        cases hp
        cases h
        exact hnot p List.mem_cons_self hseen
      rw [if_neg hseen]
      constructor
      · intro h
        split at h
        · cases h
        rename_i ps hrest
        cases h
        rcases (ih _ ps).1 hrest with ⟨hread, hnodup, hnot⟩
        refine ⟨bind_eq_ok_iff.2 ⟨p, rfl, bind_eq_ok_iff.2 ⟨ps, hread, rfl⟩⟩, ?_, ?_⟩
        · rw [List.map_cons, List.nodup_cons]
          refine ⟨fun hmem => ?_, hnodup⟩
          rcases List.mem_map.1 hmem with ⟨q, hq, heq⟩
          exact hnot q hq (List.mem_append_right _ (List.mem_singleton.2 heq))
        intro q hq
        rcases List.mem_cons.1 hq with rfl | hq
        · exact hseen
        · exact fun hmem => hnot q hq (List.mem_append_left _ hmem)
      · rintro ⟨h, hnodup, hnot⟩
        rcases bind_eq_ok_iff.1 h with ⟨_, hp, h⟩
        rcases bind_eq_ok_iff.1 h with ⟨ps, hread, h⟩
        cases hp
        cases h
        rw [List.map_cons, List.nodup_cons] at hnodup
        have hrest : readItems (seen ++ [p.id]) rest = .ok ps := by
          refine (ih _ ps).2 ⟨hread, hnodup.2, fun q hq hmem => ?_⟩
          rcases List.mem_append.1 hmem with hmem | hmem
          · exact hnot q (List.mem_cons_of_mem p hq) hmem
          · have heq : q.id = p.id := List.mem_singleton.1 hmem
            exact hnodup.1 (heq ▸ List.mem_map_of_mem hq)
        rw [hrest]

theorem readDuration_refuses (obj : Json) : Refuses (readDuration obj) := by
  intro err h
  unfold readDuration at h
  split at h
  · split_ifs at h
    · cases h
      rfl
  · cases h
    rfl

theorem readMembers_refuses (obj : Json) : Refuses (readMembers obj) := by
  refine (stringRequired_refuses obj _ _).bind fun id => ?_
  refine (stringRequired_refuses obj _ _).bind fun name => ?_
  refine (stringRequired_refuses obj _ _).bind fun roomId => ?_
  refine (stringRequired_refuses obj _ _).bind fun scenarioId => ?_
  refine (stringOptional_refuses obj _ _).bind fun hintPackId => ?_
  refine (stringOptional_refuses obj _ _).bind fun audioPackId => ?_
  refine (readDuration_refuses obj).bind fun durationMs => ?_
  refine (boolOr_refuses obj _ _).bind fun enabled => ?_
  exact nofun

theorem fromJson_refuses (item : Json) : Refuses (fromJson item) :=
  readChecked_refuses readMembers_refuses item

theorem readItems_refuses (seen : List String) (items : List Json) :
    Refuses (readItems seen items) := by
  intro err h
  induction items generalizing seen with
  | nil => cases h
  | cons item rest ih =>
    rw [readItems] at h
    cases hitem : fromJson item with
    | error err' =>
      rw [hitem] at h
      cases h
      exact fromJson_refuses item _ hitem
    | ok p =>
      rw [hitem] at h
      dsimp only at h
      split_ifs at h with hseen
      · cases h
        rfl
      cases hrest : readItems (seen ++ [p.id]) rest with
      | error err' =>
        rw [hrest] at h
        cases h
        exact ih _ hrest
      | ok ps =>
        rw [hrest] at h
        cases h

end GameProfile

/-- The format of the file. -/
def profileFormat : RowFormat GameProfile where
  name := "game_profiles"
  maxRows := maxProfiles
  fileMax := 128 * 1024
  badVersion := .invalidVersion
  badCount := .invalidSize
  id := GameProfile.id
  Sound := GameProfile.Sound
  tree io p := addedMembers io p.id p.members
  toJson := GameProfile.toJson
  fromJson := GameProfile.fromJson
  readItems := GameProfile.readItems []
  name_ne := by decide
  bad_ne := by decide
  toJson_sound io p h := by
    unfold GameProfile.toJson
    rw [h.valid]
    rfl
  fromJson_sound := GameProfile.fromJson_sound
  readItems_ok items profiles := by
    rw [GameProfile.readItems_eq_ok_iff]
    exact and_congr_right fun _ => and_iff_left fun _ _ => List.not_mem_nil
  readItems_refuses := GameProfile.readItems_refuses []

/-- What `gm_game_profile_upsert_and_save` and `gm_game_profile_delete_and_save` change. -/
inductive ProfileChange where
  | upsert (profile : GameProfile) (fits : profile.Fits)
  | delete (profileId : String)

/-! ### The slots -/

/-- No two slots hold one id. -/
def Apart (a b : Option GameProfile) : Prop := ∀ p ∈ a, ∀ q ∈ b, p.id ≠ q.id

/-- `s_profiles` and `s_generation`. A slot not in use is zeroed. -/
structure GameProfiles where
  slots : List (Option GameProfile)
  generation : UInt32
  length_slots : slots.length = maxProfiles
  sound : ∀ p, some p ∈ slots → p.Sound
  distinct : slots.Pairwise Apart

namespace GameProfiles

/-- `gm_game_profile_find_locked`. -/
def find (t : GameProfiles) (profileId : String) : Option Nat :=
  if profileId = "" then none
  else t.slots.findIdx? fun slot => slot.any fun p => p.id = profileId

def findFree (t : GameProfiles) : Option Nat := t.slots.findIdx? fun slot => slot.isNone

theorem find_none {profileId : String} (hne : profileId ≠ "") (h : t.find profileId = none)
    (p : GameProfile) (hp : some p ∈ t.slots) : p.id ≠ profileId := by
  unfold find at h
  rw [if_neg hne, List.findIdx?_eq_none_iff] at h
  have hnot := h (some p) hp
  simpa using hnot

theorem find_some {profileId : String} {i : Nat} (h : t.find profileId = some i) :
    ∃ p, t.slots[i]? = some (some p) ∧ p.id = profileId := by
  unfold find at h
  split_ifs at h
  rcases List.findIdx?_eq_some_iff_getElem.1 h with ⟨hlt, hfound, -⟩
  rcases (Option.any_eq_true _ _).1 hfound with ⟨p, hp, hid⟩
  exact ⟨p, by rw [List.getElem?_eq_getElem hlt, hp], of_decide_eq_true hid⟩

theorem slot_unique {i j : Nat} {p q : GameProfile} (hi : t.slots[i]? = some (some p))
    (hj : t.slots[j]? = some (some q)) (hid : p.id = q.id) : i = j := by
  rcases List.getElem?_eq_some_iff.1 hi with ⟨hilt, hip⟩
  rcases List.getElem?_eq_some_iff.1 hj with ⟨hjlt, hjq⟩
  have hpairs := List.pairwise_iff_getElem.1 t.distinct
  rcases Nat.lt_trichotomy i j with hlt | heq | hgt
  · have hne := hpairs i j hilt hjlt hlt p (by rw [hip]; rfl) q (by rw [hjq]; rfl)
    exact absurd hid hne
  · exact heq
  · have hne := hpairs j i hjlt hilt hgt q (by rw [hjq]; rfl) p (by rw [hip]; rfl)
    exact absurd hid.symm hne

/-- The slot that takes a profile is the only one that may have its id. -/
def Takes (t : GameProfiles) (i : Nat) (slot : Option GameProfile) : Prop :=
  ∀ p ∈ slot, p.Sound ∧ ∀ j q, t.slots[j]? = some (some q) → q.id = p.id → j = i

theorem set_distinct {i : Nat} {slot : Option GameProfile} (h : t.Takes i slot) :
    (t.slots.set i slot).Pairwise Apart := by
  rw [List.pairwise_iff_getElem]
  intro j k hj hk hjk p hp q hq heq
  rw [List.length_set] at hj hk
  rw [List.getElem_set] at hp hq
  by_cases hij : i = j
  · rw [if_pos hij] at hp
    rw [if_neg (by omega)] at hq
    have hget : t.slots[k]? = some (some q) := by
      rw [List.getElem?_eq_getElem hk]
      exact congrArg some hq
    have := (h p hp).2 k q hget heq.symm
    omega
  rw [if_neg hij] at hp
  have hgetp : t.slots[j]? = some (some p) := by
    rw [List.getElem?_eq_getElem hj]
    exact congrArg some hp
  by_cases hik : i = k
  · rw [if_pos hik] at hq
    have := (h q hq).2 j p hgetp heq
    omega
  rw [if_neg hik] at hq
  have hgetq : t.slots[k]? = some (some q) := by
    rw [List.getElem?_eq_getElem hk]
    exact congrArg some hq
  have := slot_unique hgetp hgetq heq
  omega

/-- Writing a slot, which counts as a new generation. -/
def setSlot (t : GameProfiles) (i : Nat) (slot : Option GameProfile) (h : t.Takes i slot) :
    GameProfiles where
  slots := t.slots.set i slot
  generation := t.generation + 1
  length_slots := by rw [List.length_set]; exact t.length_slots
  sound p hp := by
    rcases List.mem_or_eq_of_mem_set hp with hp | hp
    · exact t.sound p hp
    · exact (h p hp.symm).1
  distinct := set_distinct h

theorem takes_slotFor {p : GameProfile} {i : Nat} (hp : p.Sound)
    (h : (t.find p.id).or t.findFree = some i) : t.Takes i (some p) := by
  intro p' hp'
  cases hp'
  refine ⟨hp, fun j q hq hid => ?_⟩
  cases hfind : t.find p.id with
  | some k =>
    rw [hfind, Option.some_or] at h
    cases h
    rcases find_some hfind with ⟨p', hp', hid'⟩
    exact slot_unique hq hp' (hid.trans hid'.symm)
  | none =>
    -- The id is in no slot, so the free slot is as good as any.
    have hne : p.id ≠ "" := by
      have hvalid := hp.valid
      exact (of_decide_eq_true hvalid).1
    exact absurd hid (find_none hne hfind q (List.mem_of_getElem? hq))

theorem takes_none (t : GameProfiles) (i : Nat) : t.Takes i none := nofun

def upsert (io : TableIo) (t : GameProfiles) (p : GameProfile) (hfits : p.Fits) :
    EspErr × GameProfiles :=
  if hvalid : p.valid = true then
    if io.store.lock ≠ .ok then (io.store.lock, t)
    else match h : (t.find p.id).or t.findFree with
      | none => (.noMem, t)
      | some i => (.ok, t.setSlot i (some p) (takes_slotFor ⟨hvalid, hfits⟩ h))
  else (.invalidArg, t)

def delete (io : TableIo) (t : GameProfiles) (profileId : String) : EspErr × GameProfiles :=
  if profileId = "" then (.invalidArg, t)
  else if io.store.lock ≠ .ok then (io.store.lock, t)
  else match t.find profileId with
    | none => (.notFound, t)
    | some i => (.ok, t.setSlot i none (t.takes_none i))

def change (io : TableIo) (t : GameProfiles) : ProfileChange → EspErr × GameProfiles
  | .upsert p fits => t.upsert io p fits
  | .delete profileId => t.delete io profileId

/-! ### The rows -/

/-- The profiles in the order of their slots. -/
def rows (t : GameProfiles) : Rows profileFormat where
  list := t.slots.reduceOption
  sound p hp := t.sound p (List.reduceOption_mem_iff.1 hp)
  distinct := by
    rw [List.Nodup, List.pairwise_map]
    unfold List.reduceOption
    rw [List.pairwise_filterMap]
    exact t.distinct
  length_le := Nat.le_trans (List.reduceOption_length_le t.slots) (Nat.le_of_eq t.length_slots)

/-- The profiles in the first slots, where an import puts them. -/
def fill (profiles : Rows profileFormat) (generation : UInt32) : GameProfiles where
  slots := profiles.list.map some ++ List.replicate (maxProfiles - profiles.list.length) none
  generation := generation
  length_slots := by
    rw [List.length_append, List.length_map, List.length_replicate]
    exact Nat.add_sub_cancel' profiles.length_le
  sound p hp := by
    rcases List.mem_append.1 hp with hp | hp
    · rcases List.mem_map.1 hp with ⟨q, hq, heq⟩
      cases heq
      exact profiles.sound p hq
    · cases List.eq_of_mem_replicate hp
  distinct := by
    rw [List.pairwise_append]
    refine ⟨?_, ?_, ?_⟩
    · rw [List.pairwise_map]
      refine (List.pairwise_map.1 profiles.distinct).imp fun hne => ?_
      rintro _ ⟨⟩ _ ⟨⟩
      exact hne
    · rw [List.pairwise_replicate]
      exact .inr nofun
    · intro a _ b hb
      rw [List.eq_of_mem_replicate hb]
      exact fun _ _ => nofun

theorem rows_fill (profiles : Rows profileFormat) (generation : UInt32) :
    (fill profiles generation).rows.list = profiles.list := by
  have hslots : (profiles.list.map some ++
      List.replicate (maxProfiles - profiles.list.length) none).reduceOption = profiles.list := by
    rw [List.reduceOption_append, List.reduceOption_replicate_none, List.append_nil]
    unfold List.reduceOption
    rw [List.filterMap_map]
    exact List.filterMap_some
  exact hslots

/-- The checks of `gm_game_profile_upsert` and `gm_game_profile_delete` pass, and there is a
    slot. -/
def Accepted (io : TableIo) (t : GameProfiles) : ProfileChange → Prop
  | .upsert p _ =>
    p.valid = true ∧ io.store.lock = .ok ∧ ((t.find p.id).or t.findFree).isSome = true
  | .delete profileId =>
    io.store.lock = .ok ∧ (t.find profileId).isSome = true

theorem change_accepted (io : TableIo) (t : GameProfiles) (k : ProfileChange)
    (h : t.Accepted io k) : (t.change io k).1 = .ok ∧
      (t.change io k).2.generation = t.generation + 1 := by
  cases k with
  | upsert p fits =>
    rcases h with ⟨hvalid, hlock, hslot⟩
    unfold change upsert
    dsimp only
    rw [dif_pos hvalid, if_neg (not_not.2 hlock)]
    split
    · next hnone =>
        rw [hnone] at hslot
        cases hslot
    · exact ⟨rfl, rfl⟩
  | delete profileId =>
    rcases h with ⟨hlock, hslot⟩
    have hne : profileId ≠ "" := by
      rintro rfl
      cases hslot
    unfold change delete
    dsimp only
    rw [if_neg hne, if_neg (not_not.2 hlock)]
    split
    · next hnone =>
        rw [hnone] at hslot
        cases hslot
    · exact ⟨rfl, rfl⟩

theorem change_refused (io : TableIo) (t : GameProfiles) (k : ProfileChange)
    (h : ¬t.Accepted io k) : (t.change io k).1 ≠ .ok ∧ (t.change io k).2 = t := by
  cases k with
  | upsert p fits =>
    unfold change upsert
    dsimp only
    split_ifs with hvalid hlock
    · exact ⟨hlock, rfl⟩
    · split
      · exact ⟨nofun, rfl⟩
      · next hslot =>
          refine absurd ⟨hvalid, not_not.1 hlock, ?_⟩ h
          rw [hslot]
          rfl
    · exact ⟨nofun, rfl⟩
  | delete profileId =>
    unfold change delete
    dsimp only
    split_ifs with hempty hlock
    · exact ⟨nofun, rfl⟩
    · exact ⟨hlock, rfl⟩
    split
    · exact ⟨nofun, rfl⟩
    · next hslot =>
        refine absurd ⟨not_not.1 hlock, ?_⟩ h
        rw [hslot]
        rfl

end GameProfiles

def profileTable : FileTable GameProfiles ProfileChange GameProfile where
  fmt := profileFormat
  rows := GameProfiles.rows
  generation := GameProfiles.generation
  fill := GameProfiles.fill
  change io t k := t.change io k
  Accepted io t k := t.Accepted io k
  rows_fill := GameProfiles.rows_fill
  generation_fill _ _ := rfl
  change_accepted := GameProfiles.change_accepted
  change_refused := GameProfiles.change_refused

end Stored

end SceneHub
