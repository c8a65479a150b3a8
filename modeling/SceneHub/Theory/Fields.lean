import SceneHub.Storage.ScenarioJson

/-!
# What Is Written Reads Back

Each small reader against the way its value is written. An exported object is a
list of fields of which some are left out, and a reader asks for one name. So
the lemmas say what a reader returns once it is known what the name holds, and
`Shows` is how that is known of an object longer than the part at hand.

The writers leave out what the readers take as the default: an empty text, a
zero, a flag that is not set.

## Main definitions

* `fieldValue`: What a list of fields holds under a name.
* `Json.Shows`: An object that holds what a list of fields does.
* `Fits`, `Filled`: The texts a reader lets pass.

## Theorems

* `Json.Shows.split`: An object that shows two lists shows both, if no name is in both.
* `StepType.fromStr_toStr` and its siblings: Every enumeration reads its own names.
-/

namespace SceneHub

open Json

/-! ### Fields -/

/-- What the first present field of a name holds. -/
def fieldValue (fields : List (String × Option Json)) (name : String) : Option Json :=
  fields.findSome? fun field => if field.1 = name then field.2 else none

@[simp] theorem fieldValue_nil (name : String) : fieldValue [] name = none := rfl

@[simp] theorem fieldValue_cons (key : String) (value : Option Json)
    (rest : List (String × Option Json)) (name : String) : fieldValue ((key, value) :: rest) name =
      if key = name then value.or (fieldValue rest name) else fieldValue rest name := by
  unfold fieldValue
  rw [List.findSome?_cons]
  by_cases h : key = name
  · rw [if_pos h, if_pos h]
    cases value <;> rfl
  · rw [if_neg h, if_neg h]

/-- A field that is left out holds nothing. -/
@[simp high] theorem fieldValue_absent (key : String) (rest : List (String × Option Json))
    (name : String) : fieldValue ((key, none) :: rest) name = fieldValue rest name := by
  rw [fieldValue_cons, Option.none_or, ite_self]

theorem fieldValue_append (fields body : List (String × Option Json)) (name : String) :
    fieldValue (fields ++ body) name = (fieldValue fields name).or (fieldValue body name) := by
  induction fields with
  | nil => rfl
  | cons field rest ih =>
    rcases field with ⟨key, value⟩
    rw [List.cons_append, fieldValue_cons, fieldValue_cons, ih]
    by_cases h : key = name
    · rw [if_pos h, if_pos h, Option.or_assoc]
    · rw [if_neg h, if_neg h]

theorem fieldValue_of_forall_ne {fields : List (String × Option Json)} {name : String}
    (h : ∀ field ∈ fields, field.1 ≠ name) : fieldValue fields name = none := by
  induction fields with
  | nil => rfl
  | cons field rest ih =>
    rcases field with ⟨key, value⟩
    rw [fieldValue_cons, if_neg (h (key, value) List.mem_cons_self)]
    exact ih fun f hf => h f (List.mem_cons_of_mem (key, value) hf)

theorem get_ofFields (fields : List (String × Option Json)) (name : String) :
    (ofFields fields).get name = fieldValue fields name := by
  unfold ofFields Json.get
  induction fields with
  | nil => rfl
  | cons field rest ih =>
    rcases field with ⟨key, value⟩
    rw [fieldValue_cons]
    cases value with
    | none =>
      rw [List.filterMap_cons_none rfl, ih]
      by_cases h : key = name
      · rw [if_pos h]
        rfl
      · rw [if_neg h]
    | some value =>
      by_cases h : key = name
      · rw [if_pos h]
        exact congrArg (Option.map Prod.snd) (List.find?_cons_of_pos (decide_eq_true h))
      rw [if_neg h, ← ih]
      exact congrArg (Option.map Prod.snd)
        (List.find?_cons_of_neg fun heq => h (of_decide_eq_true heq))

/-- The object holds under each name of the fields what they hold. -/
def Json.Shows (obj : Json) (fields : List (String × Option Json)) : Prop :=
  ∀ name ∈ fields.map Prod.fst, obj.get name = fieldValue fields name

theorem Json.shows_ofFields (fields : List (String × Option Json)) :
    (ofFields fields).Shows fields := fun name _ => get_ofFields fields name

/-- An object that shows two lists in a row shows both, if the names of the first
    are set apart from those of the second. -/
theorem Json.Shows.split {obj : Json} {fields body : List (String × Option Json)}
    (h : obj.Shows (fields ++ body)) (names : List String)
    (hfields : ∀ name ∈ fields.map Prod.fst, name ∈ names)
    (hbody : ∀ name ∈ body.map Prod.fst, name ∉ names) : obj.Shows fields ∧ obj.Shows body := by
  unfold Json.Shows at h
  rw [List.map_append] at h
  constructor
  · intro name hname
    -- Nothing of the body answers to a name of the first list.
    have hnone : fieldValue body name = none := by
      refine fieldValue_of_forall_ne fun field hfield heq => ?_
      exact hbody field.1 (List.mem_map_of_mem hfield) (heq ▸ hfields name hname)
    rw [h name (List.mem_append_left _ hname), fieldValue_append, hnone, Option.or_none]
  intro name hname
  have hnone : fieldValue fields name = none := by
    refine fieldValue_of_forall_ne fun field hfield heq => ?_
    exact hbody name hname (heq ▸ hfields field.1 (List.mem_map_of_mem hfield))
  rw [h name (List.mem_append_right _ hname), fieldValue_append, hnone]
  rfl

theorem get_ofFields_none {fields : List (String × Option Json)} {name : String}
    (h : name ∉ fields.map Prod.fst) : (ofFields fields).get name = none := by
  rw [get_ofFields]
  refine fieldValue_of_forall_ne fun field hfield heq => h ?_
  exact heq ▸ List.mem_map_of_mem hfield

/-! ### Texts -/

/-- The text fits into its array. -/
def Fits (s : String) (maxLen : Nat) : Prop := s.utf8ByteSize < maxLen

/-- The text fits, and there is one. -/
def Filled (s : String) (maxLen : Nat) : Prop := s ≠ "" ∧ Fits s maxLen

variable {obj : Json} {name : String} {maxLen : Nat}

theorem stringRequired_filled {s : String} (h : obj.stringRequired name maxLen = .ok s) :
    Filled s maxLen := by
  unfold stringRequired at h
  split at h
  · split at h
    · cases h
    rename_i hs
    cases h
    exact ⟨fun h => hs (.inl h), Nat.not_le.1 fun h => hs (.inr h)⟩
  · cases h

theorem stringRequired_eq {s : String} (h : Filled s maxLen)
    (hget : obj.get name = some (.string s)) : obj.stringRequired name maxLen = .ok s := by
  unfold stringRequired
  rw [hget]
  refine if_neg ?_
  rintro (hs | hs)
  · exact h.1 hs
  · exact absurd h.2 (Nat.not_lt.2 hs)

theorem stringOptional_fits {s : String} (hpos : 0 < maxLen)
    (h : obj.stringOptional name maxLen = .ok s) : Fits s maxLen := by
  unfold stringOptional at h
  split at h
  · cases h
    exact hpos
  · cases h
    exact hpos
  · split at h
    · cases h
    rename_i hs
    cases h
    exact Nat.not_le.1 hs
  · cases h

theorem stringOptional_eq {s : String} (h : Fits s maxLen)
    (hget : obj.get name = some (.string s)) : obj.stringOptional name maxLen = .ok s := by
  unfold stringOptional
  rw [hget]
  exact if_neg (Nat.not_le.2 h)

theorem stringOptional_nonEmpty {s : String} (h : Fits s maxLen)
    (hget : obj.get name = nonEmpty s) : obj.stringOptional name maxLen = .ok s := by
  by_cases hs : s = ""
  · subst hs
    unfold stringOptional
    rw [hget]
    rfl
  · exact stringOptional_eq h (hget.trans (if_pos hs))

/-! ### Numbers and booleans -/

theorem toUInt32_toNat (n : UInt32) : toUInt32 (n.toNat : Rat) = .ok n := by
  have hfloor : (n.toNat : Rat).floor = (n.toNat : Int) := Rat.floor_intCast n.toNat
  have hlt : n.toNat ≤ 4294967295 := Nat.le_of_lt_succ n.toNat_lt
  unfold toUInt32
  rw [if_neg, hfloor]
  · exact congrArg Except.ok (by simp)
  rintro (h | h | h)
  · exact absurd h (Rat.not_lt.2 Rat.natCast_nonneg)
  · have : ((4294967295 : Nat) : Rat) < (n.toNat : Rat) := h
    exact absurd (Rat.natCast_lt_natCast.1 this) (Nat.not_lt.2 hlt)
  · rw [hfloor] at h
    exact h rfl

theorem uint32Required_eq {n : UInt32} (hget : obj.get name = some (.number n.toNat)) :
    obj.uint32Required name = .ok n := by
  unfold uint32Required
  rw [hget]
  exact toUInt32_toNat n

theorem uint32Optional_eq {n : UInt32} (hget : obj.get name = some (.number n.toNat)) :
    obj.uint32Optional name = .ok n := by
  unfold uint32Optional
  rw [hget]
  exact toUInt32_toNat n

theorem uint32Optional_none (hget : obj.get name = none) : obj.uint32Optional name = .ok 0 := by
  unfold uint32Optional
  rw [hget]

theorem uint32Optional_nonZero {n : UInt32} (hget : obj.get name = nonZero n) :
    obj.uint32Optional name = .ok n := by
  by_cases hn : 0 < n
  · exact uint32Optional_eq (hget.trans (if_pos hn))
  have hzero : n = 0 := by
    have hnat : ¬ 0 < n.toNat := hn
    exact UInt32.toNat_inj.1 (Nat.eq_zero_of_not_pos hnat)
  rw [uint32Optional_none (hget.trans (if_neg hn)), hzero]

theorem boolRequired_eq {b : Bool} (hget : obj.get name = some (.bool b)) :
    obj.boolRequired name = .ok b := by
  unfold boolRequired
  rw [hget]

theorem boolOr_eq {b absent : Bool} (hget : obj.get name = some (.bool b)) :
    obj.boolOr name absent = .ok b := by
  unfold boolOr
  rw [hget]

theorem boolOr_set {b : Bool} (hget : obj.get name = if b then some (.bool true) else none) :
    obj.boolOr name false = .ok b := by
  unfold boolOr
  rw [hget]
  cases b <;> rfl

/-! ### Enumerations -/

section

variable {α : Type} {fromStr : String → Option α} {s : String} {value absent : α}

section

variable (h : fromStr s = some value) (hget : obj.get name = some (.string s))
include h hget

theorem enumRequired_eq : obj.enumRequired name fromStr = .ok value := by
  unfold enumRequired
  rw [hget]
  simp only [h]

theorem enumOr_eq : obj.enumOr name fromStr absent = .ok value := by
  unfold enumOr
  rw [hget]
  exact enumRequired_eq h hget

theorem enumOrNull_eq : obj.enumOrNull name fromStr absent = .ok value := by
  unfold enumOrNull
  rw [hget]
  exact enumRequired_eq h hget

end

theorem enumOrNull_none (hget : obj.get name = none) :
    obj.enumOrNull name fromStr absent = .ok absent := by
  unfold enumOrNull
  rw [hget]

end

theorem StepType.fromStr_toStr (t : StepType) : StepType.fromStr t.toStr = some t := by
  cases t <;> decide

theorem BranchType.fromStr_toStr (t : BranchType) : BranchType.fromStr t.toStr = some t := by
  cases t <;> decide

theorem ReentryMode.fromStr_toStr (m : ReentryMode) : ReentryMode.fromStr m.toStr = some m := by
  cases m <;> decide

theorem TimeoutAction.fromStr_toStr (a : TimeoutAction) :
    TimeoutAction.fromStr a.toStr = some a := by
  cases a <;> decide

theorem TriggerKind.fromStr_toStr (k : TriggerKind) (h : k ≠ .none) :
    TriggerKind.fromStr k.toStr = some k := by
  cases k with
  | none => exact absurd rfl h
  | _ => decide

theorem PolicyMode.fromStr_toStr (m : PolicyMode) : PolicyMode.fromStr m.toStr = some m := by
  cases m <;> decide

theorem ResultAction.fromStr_toStr (a : ResultAction) : ResultAction.fromStr a.toStr = some a := by
  cases a <;> decide

theorem GroupMode.fromStr_toStr (m : GroupMode) : GroupMode.fromStr m.toStr = some m := by
  cases m <;> decide

/-! ### Arrays -/

theorem items_eq {items : List Json} (hget : obj.get name = some (.array items)) :
    obj.items name = items := by
  unfold Json.items
  rw [hget]

theorem group_length {items : List Json} {max : Nat} (h : obj.group name max = .ok items) :
    items ≠ [] ∧ items.length ≤ max := by
  unfold group at h
  split at h
  · cases h
  rename_i hlen
  cases h
  refine ⟨fun h => hlen (.inl (congrArg List.length h)), ?_⟩
  exact Nat.not_lt.1 fun h => hlen (.inr h)

theorem group_eq {items : List Json} {max : Nat} (hne : items ≠ []) (hle : items.length ≤ max)
    (hget : obj.get name = some (.array items)) : obj.group name max = .ok items := by
  unfold group
  rw [items_eq hget]
  refine if_neg ?_
  rintro (h | h)
  · exact hne (List.length_eq_zero_iff.1 h)
  · exact absurd h (Nat.not_lt.2 hle)

end SceneHub
