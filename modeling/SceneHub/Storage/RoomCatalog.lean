import SceneHub.Storage.FileTable

/-!
# The Room Catalogue

The table of rooms: `room_catalog.c` and `room_catalog_json.c`. The rooms are in a row
without gaps. How many of them there may be is set when the hub is built.

The number of devices of a room is in memory only.

## Main definitions

* `Stored.RoomEntry`: A room and its checks.
* `Stored.RoomEntry.toJson`, `Stored.RoomEntry.fromJson`: Its form in a tree.
* `Stored.RoomCatalog`: The rooms.
* `Stored.RoomCatalog.upsert`, `Stored.RoomCatalog.delete`: What changes single rooms.
* `Stored.roomTable`: The table with its file.
-/

namespace SceneHub

open Lib (bind_eq_ok_iff)
open Json

namespace Stored

def defaultRoomId : String := "unassigned"

/-- `room_catalog_entry_t`. -/
structure RoomEntry where
  roomId : String
  name : String
  deviceCount : UInt16 := 0
  deriving DecidableEq, Repr

namespace RoomEntry

/-- `room_catalog_normalize_name` of an entry with an id. -/
def normalizeName (e : RoomEntry) : String := if e.name ≠ "" then e.name else e.roomId

def valid (e : RoomEntry) : Bool :=
  e.roomId ≠ "" ∧ e.roomId.utf8ByteSize < idMaxLen ∧ e.normalizeName.utf8ByteSize < nameMaxLen

/-- The entry that `room_catalog_upsert` stores. -/
def normalized (e : RoomEntry) : RoomEntry := { e with name := e.normalizeName }

/-! ### In a tree -/

/-- The members that `room_catalog_entry_to_json` adds. -/
def members (e : RoomEntry) : List (String × Json) :=
  [("room_id", .string e.roomId), ("name", .string e.name)]

def toJson (io : TableIo) (e : RoomEntry) : Except EspErr Json :=
  .ok (addedMembers io e.roomId e.members)

/-- The id of a room, which may have another name. -/
def readRoomId (obj : Json) : Except EspErr String := do
  let roomId ← obj.stringOptional "room_id" idMaxLen
  if roomId ≠ "" then return roomId else obj.stringRequired "id" idMaxLen

/-- The members that `room_catalog_entry_from_json` reads. -/
def readMembers (obj : Json) : Except EspErr RoomEntry := do
  let roomId ← readRoomId obj
  let name ← obj.stringOptional "name" nameMaxLen
  return { roomId, name := if name ≠ "" then name else roomId }

def fromJson : Json → Except EspErr RoomEntry := readChecked readMembers valid

/-- The loop of `room_catalog_import_json`, and `room_catalog_has_duplicate_ids` behind it. -/
def readItems (items : List Json) : Except EspErr (List RoomEntry) :=
  match Lib.readAll fromJson items with
  | .error err => .error err
  | .ok rooms => if (rooms.map roomId).Nodup then .ok rooms else .error .invalidArg

/-! ### What the checks find -/

/-- A room that is in a table. -/
structure Sound (e : RoomEntry) : Prop where
  valid : e.valid = true
  named : e.name ≠ ""

theorem normalized_sound {e : RoomEntry} (h : e.valid = true) : e.normalized.Sound := by
  have hid : e.roomId ≠ "" := (of_decide_eq_true h).1
  have hnamed : e.normalizeName ≠ "" := by
    unfold normalizeName
    by_cases hname : e.name = ""
    · rw [if_neg (not_not.2 hname)]
      exact hid
    · rw [if_pos hname]
      exact hname
  refine ⟨?_, hnamed⟩
  -- The name is its own normal form.
  have hsame : e.normalized.normalizeName = e.normalizeName := if_pos hnamed
  unfold valid at h ⊢
  rw [hsame]
  exact h

theorem readMembers_refuses (obj : Json) : Refuses (readMembers obj) := by
  have hid : Refuses (readRoomId obj) := by
    refine (stringOptional_refuses obj _ _).bind fun roomId => ?_
    by_cases hroom : roomId ≠ ""
    · rw [if_pos hroom]
      exact nofun
    · rw [if_neg hroom]
      exact stringRequired_refuses obj _ _
  refine hid.bind fun roomId => ?_
  exact (stringOptional_refuses obj _ _).bind fun name => nofun

theorem readMembers_named {obj : Json} {e : RoomEntry} (h : readMembers obj = .ok e) :
    e.roomId ≠ "" → e.name ≠ "" := by
  rcases bind_eq_ok_iff.1 h with ⟨roomId, -, h⟩
  rcases bind_eq_ok_iff.1 h with ⟨name, -, h⟩
  cases h
  intro hid
  by_cases hname : name = ""
  · rw [if_neg (not_not.2 hname)]
    exact hid
  · rw [if_pos hname]
    exact hname

theorem fromJson_sound (item : Json) (e : RoomEntry) (h : fromJson item = .ok e) : e.Sound := by
  rcases readChecked_eq_ok_iff.1 h with ⟨-, hread, hvalid⟩
  exact ⟨hvalid, readMembers_named hread (of_decide_eq_true hvalid).1⟩

theorem readItems_eq_ok_iff (items : List Json) (rooms : List RoomEntry) :
    readItems items = .ok rooms ↔
      Lib.readAll fromJson items = .ok rooms ∧ (rooms.map roomId).Nodup := by
  unfold readItems
  cases Lib.readAll fromJson items with
  | error err => exact iff_of_false nofun fun h => nomatch h.1
  | ok read =>
    dsimp only
    by_cases hnodup : (read.map roomId).Nodup
    · rw [if_pos hnodup]
      constructor
      · intro h
        cases h
        exact ⟨rfl, hnodup⟩
      · exact And.left
    · rw [if_neg hnodup]
      refine iff_of_false nofun ?_
      rintro ⟨h, hrooms⟩
      cases h
      exact hnodup hrooms

theorem readItems_refuses (items : List Json) : Refuses (readItems items) := by
  intro err h
  unfold readItems at h
  cases hread : Lib.readAll fromJson items with
  | error err' =>
    rw [hread] at h
    cases h
    exact readAll_refuses (readChecked_refuses readMembers_refuses) items _ hread
  | ok rooms =>
    rw [hread] at h
    dsimp only at h
    split_ifs at h
    cases h
    rfl

end RoomEntry

/-- The format of the file, with the number of rooms the hub is built for. -/
def roomFormat (maxRooms : Nat) : RowFormat RoomEntry where
  name := "rooms"
  maxRows := maxRooms
  fileMax := 32 * 1024
  badVersion := .invalidArg
  badCount := .invalidArg
  id := RoomEntry.roomId
  Sound := RoomEntry.Sound
  tree io e := addedMembers io e.roomId e.members
  toJson := RoomEntry.toJson
  fromJson := RoomEntry.fromJson
  readItems := RoomEntry.readItems
  name_ne := by decide
  bad_ne := by decide
  toJson_sound _ _ _ := rfl
  fromJson_sound := RoomEntry.fromJson_sound
  readItems_ok := RoomEntry.readItems_eq_ok_iff
  readItems_refuses := RoomEntry.readItems_refuses

/-- What `room_catalog_upsert_and_save` and `room_catalog_delete_and_save` change. -/
inductive RoomChange where
  | upsert (entry : RoomEntry)
  | delete (roomId : String)

/-! ### The rooms -/

/-- `s_rooms`, `s_room_count` and `s_generation`. -/
structure RoomCatalog (maxRooms : Nat) where
  rooms : Rows (roomFormat maxRooms)
  generation : UInt32

namespace RoomCatalog

variable {maxRooms : Nat}

/-- `room_catalog_find_entry_index_locked`. -/
def find (t : RoomCatalog maxRooms) (roomId : String) : Option Nat :=
  if roomId = "" then none else t.rooms.list.findIdx? fun e => e.roomId = roomId

theorem find_none {t : RoomCatalog maxRooms} {roomId : String} (hne : roomId ≠ "")
    (h : t.find roomId = none) : roomId ∉ t.rooms.list.map RoomEntry.roomId := by
  intro hmem
  rcases List.mem_map.1 hmem with ⟨e, he, hid⟩
  unfold find at h
  rw [if_neg hne, List.findIdx?_eq_none_iff] at h
  have hnot := h e he
  rw [hid, decide_eq_true rfl] at hnot
  cases hnot

theorem find_some {t : RoomCatalog maxRooms} {roomId : String} {i : Nat}
    (h : t.find roomId = some i) : ∃ e, t.rooms.list[i]? = some e ∧ e.roomId = roomId := by
  unfold find at h
  split_ifs at h
  rcases List.findIdx?_eq_some_iff_getElem.1 h with ⟨hlt, hfound, -⟩
  exact ⟨_, List.getElem?_eq_getElem hlt, of_decide_eq_true hfound⟩

/-- A room in place of one with the same id. -/
def replace (t : RoomCatalog maxRooms) (i : Nat) (e : RoomEntry) (he : e.Sound)
    (h : t.find e.roomId = some i) : RoomCatalog maxRooms where
  rooms :=
    { list := t.rooms.list.set i e
      sound := fun row hrow => by
        rcases List.mem_or_eq_of_mem_set hrow with hrow | rfl
        · exact t.rooms.sound row hrow
        · exact he
      distinct := by
        rcases find_some h with ⟨old, hold, hid⟩
        have hget : (t.rooms.list.map RoomEntry.roomId)[i]? = some e.roomId := by
          rw [List.getElem?_map, hold, Option.map_some, hid]
        change ((t.rooms.list.set i e).map RoomEntry.roomId).Nodup
        rcases List.getElem?_eq_some_iff.1 hget with ⟨hlt, heq⟩
        rw [List.map_set, ← heq, List.set_getElem_self]
        exact t.rooms.distinct
      length_le := by
        rw [List.length_set]
        exact t.rooms.length_le }
  generation := t.generation + 1

/-- A room behind the others. -/
def push (t : RoomCatalog maxRooms) (e : RoomEntry) (he : e.Sound)
    (h : t.find e.roomId = none) (hroom : t.rooms.list.length < maxRooms) :
    RoomCatalog maxRooms where
  rooms :=
    { list := t.rooms.list ++ [e]
      sound := fun row hrow => by
        rcases List.mem_append.1 hrow with hrow | hrow
        · exact t.rooms.sound row hrow
        · rw [List.mem_singleton.1 hrow]
          exact he
      distinct := by
        have hnot := find_none (of_decide_eq_true he.valid).1 h
        rw [List.map_append, List.nodup_append]
        refine ⟨t.rooms.distinct, List.pairwise_singleton _ _, fun a ha b hb heq => ?_⟩
        rw [heq, List.mem_singleton.1 hb] at ha
        exact hnot ha
      length_le := by
        rw [List.length_append]
        exact hroom }
  generation := t.generation + 1

def upsert (io : TableIo) (t : RoomCatalog maxRooms) (e : RoomEntry) :
    EspErr × RoomCatalog maxRooms :=
  if hvalid : e.valid = true then
    if io.store.lock ≠ .ok then (io.store.lock, t)
    else match h : t.find e.normalized.roomId with
      | some i => (.ok, t.replace i e.normalized (RoomEntry.normalized_sound hvalid) h)
      | none =>
        if hroom : t.rooms.list.length < maxRooms then
          (.ok, t.push e.normalized (RoomEntry.normalized_sound hvalid) h hroom)
        else (.noMem, t)
  else (.invalidArg, t)

/-- The rooms behind one that is deleted move up. -/
def erase (t : RoomCatalog maxRooms) (i : Nat) : RoomCatalog maxRooms where
  rooms :=
    { list := t.rooms.list.eraseIdx i
      sound := fun row hrow => t.rooms.sound row (List.mem_of_mem_eraseIdx hrow)
      distinct := ((List.eraseIdx_sublist _ i).map RoomEntry.roomId).nodup t.rooms.distinct
      length_le := Nat.le_trans (List.eraseIdx_sublist _ i).length_le t.rooms.length_le }
  generation := t.generation + 1

def delete (io : TableIo) (t : RoomCatalog maxRooms) (roomId : String) :
    EspErr × RoomCatalog maxRooms :=
  if roomId = "" ∨ roomId = defaultRoomId then (.invalidArg, t)
  else if io.store.lock ≠ .ok then (io.store.lock, t)
  else match t.find roomId with
    | none => (.notFound, t)
    | some i => (.ok, t.erase i)

def change (io : TableIo) (t : RoomCatalog maxRooms) : RoomChange → EspErr × RoomCatalog maxRooms
  | .upsert e => t.upsert io e
  | .delete roomId => t.delete io roomId

/-- The checks of `room_catalog_upsert` and `room_catalog_delete` pass, and there is room. -/
def Accepted (io : TableIo) (t : RoomCatalog maxRooms) : RoomChange → Prop
  | .upsert e =>
    e.valid = true ∧ io.store.lock = .ok ∧
      ((t.find e.roomId).isSome = true ∨ t.rooms.list.length < maxRooms)
  | .delete roomId =>
    roomId ≠ defaultRoomId ∧ io.store.lock = .ok ∧ (t.find roomId).isSome = true

theorem change_accepted (io : TableIo) (t : RoomCatalog maxRooms) (k : RoomChange)
    (h : t.Accepted io k) : (t.change io k).1 = .ok ∧
      (t.change io k).2.generation = t.generation + 1 := by
  cases k with
  | upsert e =>
    rcases h with ⟨hvalid, hlock, hslot⟩
    unfold change upsert
    dsimp only
    rw [dif_pos hvalid, if_neg (not_not.2 hlock)]
    split
    · exact ⟨rfl, rfl⟩
    · next hnone =>
        have hroom : t.rooms.list.length < maxRooms := by
          rcases hslot with hslot | hroom
          · have hsame : t.find e.roomId = none := hnone
            rw [hsame] at hslot
            cases hslot
          · exact hroom
        rw [dif_pos hroom]
        exact ⟨rfl, rfl⟩
  | delete roomId =>
    rcases h with ⟨hother, hlock, hslot⟩
    have hne : roomId ≠ "" := by
      rintro rfl
      cases hslot
    unfold change delete
    dsimp only
    rw [if_neg (not_or.2 ⟨hne, hother⟩), if_neg (not_not.2 hlock)]
    split
    · next hnone =>
        rw [hnone] at hslot
        cases hslot
    · exact ⟨rfl, rfl⟩

theorem change_refused (io : TableIo) (t : RoomCatalog maxRooms) (k : RoomChange)
    (h : ¬t.Accepted io k) : (t.change io k).1 ≠ .ok ∧ (t.change io k).2 = t := by
  cases k with
  | upsert e =>
    unfold change upsert
    dsimp only
    by_cases hvalid : e.valid = true
    · rw [dif_pos hvalid]
      by_cases hlock : io.store.lock = .ok
      · rw [if_neg (not_not.2 hlock)]
        split
        · next hslot =>
            have hsome : (t.find e.roomId).isSome = true := Option.isSome_iff_exists.2 ⟨_, hslot⟩
            exact absurd ⟨hvalid, hlock, .inl hsome⟩ h
        by_cases hroom : t.rooms.list.length < maxRooms
        · exact absurd ⟨hvalid, hlock, .inr hroom⟩ h
        · rw [dif_neg hroom]
          exact ⟨nofun, rfl⟩
      · rw [if_pos hlock]
        exact ⟨hlock, rfl⟩
    · rw [dif_neg hvalid]
      exact ⟨nofun, rfl⟩
  | delete roomId =>
    unfold change delete
    dsimp only
    split_ifs with hfixed hlock
    · exact ⟨nofun, rfl⟩
    · exact ⟨hlock, rfl⟩
    split
    · exact ⟨nofun, rfl⟩
    · next hslot =>
        have hsome := Option.isSome_iff_exists.2 ⟨_, hslot⟩
        exact absurd ⟨fun heq => hfixed (.inr heq), not_not.1 hlock, hsome⟩ h

end RoomCatalog

def roomTable (maxRooms : Nat) : FileTable (RoomCatalog maxRooms) RoomChange RoomEntry where
  fmt := roomFormat maxRooms
  rows := RoomCatalog.rooms
  generation := RoomCatalog.generation
  fill := RoomCatalog.mk
  change io t k := t.change io k
  Accepted io t k := t.Accepted io k
  rows_fill _ _ := rfl
  generation_fill _ _ := rfl
  change_accepted := RoomCatalog.change_accepted
  change_refused := RoomCatalog.change_refused

end Stored

end SceneHub
