import SceneHub.Theory.PayloadScan

/-!
# Whose Event It Is

Whether the event that is posted for a payload is the payload's own.

The request id and the command of a result are read into arrays of the device's slot that
are not cleared first, and a copy that fails is not noticed. So a result without a request
id has that of the result before it, and one without both has the command of an earlier
one. What is too long for its array is cut off; the args of an event are cut off again, to
the size they have in an event of the bus.

The text of a member is its last string of that name, and the args are the last value.

## Main definitions

* `Own`: An event is made of what is in the payload.
* `IdentityOwn`: When the request id or the command is.
* `SelfContained`: When the whole event is.

## Theorems

* `applyResult_slot`, `applyEvent_slot`: What a payload leaves in a slot.
* `control_event_own_iff`: Exactly when a posted event is its payload's own.
* `not_own`: A result without a request id has the one before.
-/

namespace SceneHub.Ingest

variable {own : Option (List Char)} {e : ControlEvent} {deviceId : List Char} {size : Nat}
  {slots : Slots}

/-! ### The own text of a payload -/

def members (payload : List Char) : List (List Char × Value) :=
  match objectBody (cText payload) with
  | none => []
  | some body => (readPairs (body.length + 1) body).1

/-- The last value of that name, without the blanks around it. -/
def ownRaw (pairs : List (List Char × Value)) (key : List Char) : Option (List Char) :=
  pairs.foldl (fun own p => if p.1 = key then some p.2.trimmed else own) none

/-- The request id, or the command of a result that has none. -/
def ownIdentity (pairs : List (List Char × Value)) : List Char :=
  match ownText pairs "request_id".toList with
  | none => (ownText pairs "command".toList).getD []
  | some requestId =>
    if requestId ≠ [] then requestId else (ownText pairs "command".toList).getD []

/-- The event is made of the topic, the time and the payload of the message. -/
def Own (msg : Message) (e : ControlEvent) : Prop :=
  match parseTopic msg.topic with
  | some (deviceId, .result) =>
    e = { deviceId
          actionId := ownIdentity (members msg.payload)
          source := .result
          payload := normalize ((ownText (members msg.payload) "status".toList).getD [])
          argsJson := []
          timestampMs := msg.nowMs }
  | some (deviceId, .event) =>
    e = { deviceId
          actionId := (ownText (members msg.payload) "event".toList).getD []
          source := .event
          payload := "event".toList
          argsJson := (ownRaw (members msg.payload) "args".toList).getD []
          timestampMs := msg.nowMs }
  | _ => False

/-- The payload has a command, and it fits. -/
def CommandOwn (pairs : List (List Char × Value)) : Prop :=
  ∃ command, ownText pairs "command".toList = some command ∧ command.length < commandMaxLen

/-- The payload has a request id that fits; or it has none, or an empty one, and neither has the
    slot that it leaves as it is, and it has a command that fits; or it has none, and its command
    is the request id that the slot has. -/
def IdentityOwn (slot : Slot) (pairs : List (List Char × Value)) : Prop :=
  match ownText pairs "request_id".toList with
  | some requestId =>
    if requestId ≠ [] then requestId.length < requestIdMaxLen else CommandOwn pairs
  | none =>
    if slot.requestId.text ≠ [] then ownText pairs "command".toList = some slot.requestId.text
    else CommandOwn pairs

/-- The texts of a payload fit, and the identity of a result is its own. -/
def SelfContained (slot : Slot) (pairs : List (List Char × Value)) : Source → Prop
  | .result =>
    IdentityOwn slot pairs ∧
      ∀ status, ownText pairs "status".toList = some status → status.length < resultStatusMaxLen
  | .event =>
    (∀ name, ownText pairs "event".toList = some name → name.length < commandMaxLen) ∧
      ∀ args, ownRaw pairs "args".toList = some args → args.length < questPayloadMaxLen

/-! ### What a payload leaves in a slot -/

theorem cText_zero (payload : List Char) : '\x00' ∉ cText payload := by
  intro hmem
  have hne := List.all_eq_true.1 List.all_takeWhile _ hmem
  simp at hne

theorem objectBody_suffix {text body : List Char} (h : objectBody text = some body) :
    body <:+ text := by
  unfold objectBody at h
  have hws := skipWs_suffix text
  split at h
  · cases h
  · next c rest hrest =>
      rw [hrest] at hws
      split_ifs at h
      cases h
      exact (List.suffix_cons c _).trans hws

theorem body_zero {payload body : List Char} (h : objectBody (cText payload) = some body) :
    '\x00' ∉ body :=
  fun hmem => cText_zero payload ((objectBody_suffix h).subset hmem)

theorem members_clean (payload : List Char) : ∀ p ∈ members payload, p.2.Clean := by
  unfold members
  split
  · exact nofun
  · next body hbody =>
      exact readPairs_clean _ (body_zero hbody)

theorem ScanError.ne_ok {err : EspErr} (h : ScanError err) : err ≠ .ok := by
  rcases h with rfl | rfl
  · exact nofun
  · exact nofun

theorem result_fold (pairs : List (List Char × Value)) (s : ResultScan) :
    (pairs.foldl ResultScan.pair s).slot.requestId =
      pairs.foldl (fun b p => if p.1 = "request_id".toList then copyStringField p.2 b else b)
        s.slot.requestId ∧
    (pairs.foldl ResultScan.pair s).slot.command =
      pairs.foldl (fun b p => if p.1 = "command".toList then copyStringField p.2 b else b)
        s.slot.command ∧
    (pairs.foldl ResultScan.pair s).status =
      pairs.foldl (fun b p => if p.1 = "status".toList then copyStringField p.2 b else b)
        s.status ∧
    (pairs.foldl ResultScan.pair s).slot.deviceId = s.slot.deviceId ∧
    (pairs.foldl ResultScan.pair s).slot.lastSeenMs = s.slot.lastSeenMs ∧
    (pairs.foldl ResultScan.pair s).slot.hasResult = s.slot.hasResult := by
  induction pairs generalizing s with
  | nil => exact ⟨rfl, rfl, rfl, rfl, rfl, rfl⟩
  | cons p rest ih =>
    simp only [List.foldl_cons]
    rcases ih (s.pair p) with ⟨hid, hcommand, hstatus, hdevice, hseen, hresult⟩
    rw [hid, hcommand, hstatus, hdevice, hseen, hresult]
    unfold ResultScan.pair
    -- The names differ, so a member changes one array at most.
    by_cases h1 : p.1 = "request_id".toList
    · simp only [h1]
      exact ⟨rfl, rfl, rfl, rfl, rfl, rfl⟩
    by_cases h2 : p.1 = "command".toList
    · simp only [h2]
      exact ⟨rfl, rfl, rfl, rfl, rfl, rfl⟩
    by_cases h3 : p.1 = "status".toList
    · simp only [h3]
      exact ⟨rfl, rfl, rfl, rfl, rfl, rfl⟩
    rw [if_neg h1, if_neg h2, if_neg h3, if_neg h1, if_neg h2, if_neg h3]
    by_cases h4 : p.1 = "data".toList
    · rw [if_pos h4]
      exact ⟨rfl, rfl, rfl, rfl, rfl, rfl⟩
    · rw [if_neg h4]
      exact ⟨rfl, rfl, rfl, rfl, rfl, rfl⟩

theorem applyResult_slot {memory : Bool} {slot : Slot} {payload : List Char}
    (h : (applyResult memory slot (cText payload)).1 = .ok) :
    let after := (applyResult memory slot (cText payload)).2
    Buffer.Tracks slot.requestId (ownText (members payload) "request_id".toList) after.requestId ∧
    Buffer.Tracks slot.command (ownText (members payload) "command".toList) after.command ∧
    (∃ status : Buffer resultStatusMaxLen,
      Buffer.Tracks (.zero (by decide)) (ownText (members payload) "status".toList) status ∧
      after.status = strCopy resultStatusMaxLen (normalize status.text)) ∧
    after.deviceId = slot.deviceId ∧ after.lastSeenMs = slot.lastSeenMs ∧
    after.hasResult = true := by
  have hclean := members_clean payload
  unfold members at hclean ⊢
  unfold applyResult at h ⊢
  cases hbody : objectBody (cText payload) with
  | none =>
    rw [hbody] at h
    cases h
  | some body =>
    rw [hbody] at h hclean
    dsimp only at h hclean ⊢
    rcases result_fold (readPairs (body.length + 1) body).1
      { slot := { slot with hasResult := true } } with
      ⟨hid, hcommand, hstatus, hdevice, hseen, hresult⟩
    cases hend : (readPairs (body.length + 1) body).2 with
    | error err =>
      rw [hend] at h
      cases h
      exact absurd rfl (readPairs_error _ (body_zero hbody) (Nat.lt_succ_self _) hend).ne_ok
    | ok rest =>
      rw [hend] at h
      dsimp only at h ⊢
      by_cases htail : skipWs rest ≠ []
      · rw [if_pos htail] at h
        cases h
      rw [if_neg htail]
      refine ⟨?_, ?_, ⟨_, ?_, rfl⟩, hdevice, hseen, hresult⟩
      · rw [hid]
        exact Buffer.Tracks.fold _ _ hclean
      · rw [hcommand]
        exact Buffer.Tracks.fold _ _ hclean
      · rw [hstatus]
        exact Buffer.Tracks.fold _ _ hclean

theorem event_fold (pairs : List (List Char × Value)) (slot : Slot) :
    (pairs.foldl Slot.eventPair slot).eventName =
      pairs.foldl (fun b p => if p.1 = "event".toList then copyStringField p.2 b else b)
        slot.eventName ∧
    (pairs.foldl Slot.eventPair slot).eventArgs =
      pairs.foldl (fun args p => if p.1 = "args".toList then
        if eventArgsMaxLen < p.2.trimmed.length + 1 then args else p.2.trimmed else args)
        slot.eventArgs ∧
    (pairs.foldl Slot.eventPair slot).deviceId = slot.deviceId ∧
    (pairs.foldl Slot.eventPair slot).lastSeenMs = slot.lastSeenMs := by
  induction pairs generalizing slot with
  | nil => exact ⟨rfl, rfl, rfl, rfl⟩
  | cons p rest ih =>
    simp only [List.foldl_cons]
    rcases ih (slot.eventPair p) with ⟨hname, hargs, hdevice, hseen⟩
    rw [hname, hargs, hdevice, hseen]
    unfold Slot.eventPair
    by_cases h1 : p.1 = "event".toList
    · simp only [h1]
      exact ⟨rfl, rfl, rfl, rfl⟩
    rw [if_neg h1, if_neg h1]
    by_cases h2 : p.1 = "args".toList
    · rw [if_pos h2, if_pos h2]
      split_ifs <;> exact ⟨rfl, rfl, rfl, rfl⟩
    · rw [if_neg h2, if_neg h2]
      exact ⟨rfl, rfl, rfl, rfl⟩

/-- Args are copied whole or not at all. -/
def ArgsTrack (own : Option (List Char)) (args : List Char) : Prop :=
  match own with
  | none => args = []
  | some text => text.length < eventArgsMaxLen → args = text

theorem args_fold (pairs : List (List Char × Value)) : ArgsTrack (ownRaw pairs "args".toList)
      (pairs.foldl (fun args p => if p.1 = "args".toList then
        if eventArgsMaxLen < p.2.trimmed.length + 1 then args else p.2.trimmed else args) []) := by
  have hfrom : ∀ own args, ArgsTrack own args → ArgsTrack
      (pairs.foldl (fun own p => if p.1 = "args".toList then some p.2.trimmed else own) own)
      (pairs.foldl (fun args p => if p.1 = "args".toList then
        if eventArgsMaxLen < p.2.trimmed.length + 1 then args else p.2.trimmed else args) args) := by
    induction pairs with
    | nil => exact fun own args h => h
    | cons p rest ih =>
      intro own args h
      rw [List.foldl_cons, List.foldl_cons]
      refine ih _ _ ?_
      by_cases hkey : p.1 = "args".toList
      · rw [if_pos hkey, if_pos hkey]
        intro hfits
        exact if_neg (by omega)
      · rw [if_neg hkey, if_neg hkey]
        exact h
  exact hfrom none [] rfl

theorem applyEvent_slot {slot : Slot} {payload : List Char}
    (h : (applyEvent slot (cText payload)).1 = .ok) :
    let after := (applyEvent slot (cText payload)).2
    Buffer.Tracks slot.eventName.reset (ownText (members payload) "event".toList)
      after.eventName ∧
    ArgsTrack (ownRaw (members payload) "args".toList) after.eventArgs ∧
    after.deviceId = slot.deviceId ∧ after.lastSeenMs = slot.lastSeenMs := by
  have hclean := members_clean payload
  unfold members at hclean ⊢
  unfold applyEvent at h ⊢
  cases hbody : objectBody (cText payload) with
  | none =>
    rw [hbody] at h
    cases h
  | some body =>
    rw [hbody] at h hclean
    dsimp only at h hclean ⊢
    rcases event_fold (readPairs (body.length + 1) body).1
      { slot with eventName := slot.eventName.reset, eventArgs := [] } with
      ⟨hname, hargs, hdevice, hseen⟩
    have hslot : Buffer.Tracks slot.eventName.reset
        (ownText (readPairs (body.length + 1) body).1 "event".toList)
        ((readPairs (body.length + 1) body).1.foldl Slot.eventPair
          { slot with eventName := slot.eventName.reset, eventArgs := [] }).eventName ∧
        ArgsTrack (ownRaw (readPairs (body.length + 1) body).1 "args".toList)
          ((readPairs (body.length + 1) body).1.foldl Slot.eventPair
            { slot with eventName := slot.eventName.reset, eventArgs := [] }).eventArgs := by
      rw [hname, hargs]
      exact ⟨Buffer.Tracks.fold _ _ hclean, args_fold _⟩
    cases hend : (readPairs (body.length + 1) body).2 with
    | error err =>
      rw [hend] at h
      cases h
      exact absurd rfl (readPairs_error _ (body_zero hbody) (Nat.lt_succ_self _) hend).ne_ok
    | ok rest =>
      rw [hend] at h
      dsimp only at h ⊢
      split_ifs at h ⊢
      exact ⟨hslot.1, hslot.2, hdevice, hseen⟩

/-! ### What the event is made of -/

theorem strCopy_eq {text : List Char} (h : text.length < size) :
    strCopy size text = text := List.take_of_length_le (by omega)

theorem strCopy_eq_iff {text own : List Char} (hpos : 0 < size)
    (h : own.length < size → text = own) : strCopy size text = own ↔ own.length < size := by
  constructor
  · intro heq
    rw [← heq]
    unfold strCopy
    rw [List.length_take]
    omega
  · intro hfits
    rw [h hfits, strCopy_eq hfits]

theorem Buffer.Tracks.text_eq_iff {before b : Buffer size} {own : List Char}
    (h : Tracks before (some own) b) : b.text = own ↔ own.length < size := by
  constructor
  · intro heq
    rw [← heq]
    exact b.text_length
  · exact h

theorem zero_text (h : 0 < size) : (Buffer.zero h).text = [] := by
  unfold Buffer.text Buffer.zero
  rw [List.takeWhile_replicate, if_neg (by simp)]

theorem reset_text (b : Buffer size) : b.reset.text = [] :=
  Buffer.text_store b.size_pos List.not_mem_nil

theorem normalize_length {status : List Char} (h : status.length < resultStatusMaxLen) :
    (normalize status).length < resultStatusMaxLen := by
  unfold normalize
  split_ifs
  · decide
  · decide
  · exact h

/-- A status that does not fit is its own normal form. -/
theorem normalize_long {status : List Char} (h : resultStatusMaxLen ≤ status.length) :
    normalize status = status := by
  unfold normalize
  rw [if_neg, if_neg]
  · rintro rfl
    exact absurd h (by decide)
  · rintro rfl
    exact absurd h (by decide)

/-- The status in the event is that of the payload exactly if it fits. -/
theorem status_own_iff {status : Buffer resultStatusMaxLen}
    (h : Buffer.Tracks (.zero (by decide)) own status) :
    strCopy 256 (strCopy resultStatusMaxLen (normalize status.text)) = normalize (own.getD []) ↔
      ∀ text, own = some text → text.length < resultStatusMaxLen := by
  have houter : ∀ text : List Char, strCopy 256 (strCopy resultStatusMaxLen text) =
      strCopy resultStatusMaxLen text := by
    intro text
    refine strCopy_eq ?_
    have hmax : resultStatusMaxLen = 16 := rfl
    unfold strCopy
    rw [List.length_take]
    omega
  rw [houter]
  cases own with
  | none =>
    have hbefore : status = Buffer.zero (by decide) := h
    rw [hbefore, zero_text]
    exact iff_of_true rfl nofun
  | some text =>
    simp only [Option.some.injEq, forall_eq', Option.getD_some]
    by_cases hfits : text.length < resultStatusMaxLen
    · rw [h hfits, strCopy_eq (normalize_length hfits)]
      exact iff_of_true rfl hfits
    rw [normalize_long (Nat.not_lt.1 hfits), strCopy_eq_iff (by decide)]
    intro hshort
    exact absurd hshort hfits

theorem command_own_iff {before command : Buffer commandMaxLen}
    (h : Buffer.Tracks before own command) (hposted : command.text ≠ []) :
    command.text = own.getD [] ↔
      ∃ text, own = some text ∧ text.length < commandMaxLen := by
  cases own with
  | none => exact iff_of_false hposted (by rintro ⟨_, ⟨⟩, _⟩)
  | some text =>
    rw [Option.getD_some, h.text_eq_iff]
    constructor
    · intro hfits
      exact ⟨text, rfl, hfits⟩
    · rintro ⟨_, ⟨⟩, hfits⟩
      exact hfits

/-- The identity in the event is that of the payload exactly if it is its own. -/
theorem identity_own_iff {slot after : Slot} {pairs : List (List Char × Value)}
    (hid : Buffer.Tracks slot.requestId (ownText pairs "request_id".toList) after.requestId)
    (hcommand : Buffer.Tracks slot.command (ownText pairs "command".toList) after.command)
    (hposted : (if after.requestId.text ≠ [] then after.requestId.text
      else after.command.text) ≠ []) :
    (if after.requestId.text ≠ [] then after.requestId.text else after.command.text) =
      ownIdentity pairs ↔ IdentityOwn slot pairs := by
  unfold ownIdentity IdentityOwn CommandOwn
  cases hown : ownText pairs "request_id".toList with
  | none =>
    rw [hown] at hid
    have hsame : after.requestId = slot.requestId := hid
    rw [hsame] at hposted ⊢
    by_cases hstale : slot.requestId.text ≠ []
    · simp only [if_pos hstale]
      cases ownText pairs "command".toList with
      | none => exact iff_of_false hstale nofun
      | some command =>
        rw [Option.getD_some, Option.some.injEq]
        exact eq_comm
    · simp only [if_neg hstale] at hposted ⊢
      exact command_own_iff hcommand hposted
  | some requestId =>
    rw [hown] at hid
    dsimp only
    by_cases hempty : requestId ≠ []
    · rw [if_pos hempty, if_pos hempty]
      constructor
      · intro heq
        rw [← heq]
        have hmax : requestIdMaxLen = 48 ∧ commandMaxLen = 32 := ⟨rfl, rfl⟩
        have h1 := after.requestId.text_length
        have h2 := after.command.text_length
        split_ifs <;> omega
      · intro hfits
        rw [hid hfits, if_pos hempty]
    · have hnone : after.requestId.text = [] := by
        rw [not_not.1 hempty] at hid
        exact hid (by decide)
      rw [if_neg hempty, if_neg hempty, hnone]
      rw [hnone] at hposted
      exact command_own_iff hcommand hposted

theorem name_own_iff {before name : Buffer commandMaxLen}
    (h : Buffer.Tracks before.reset own name) (hposted : name.text ≠ []) :
    name.text = own.getD [] ↔ ∀ text, own = some text → text.length < commandMaxLen := by
  cases own with
  | none =>
    have hsame : name = before.reset := h
    rw [hsame, reset_text] at hposted
    exact absurd rfl hposted
  | some text =>
    rw [Option.getD_some, h.text_eq_iff]
    simp

/-- The args in the event are those of the payload exactly if they fit. -/
theorem args_own_iff {args : List Char} (h : ArgsTrack own args) :
    strCopy questPayloadMaxLen args = own.getD [] ↔
      ∀ text, own = some text → text.length < questPayloadMaxLen := by
  cases own with
  | none =>
    have hnone : args = [] := h
    rw [hnone]
    exact iff_of_true rfl nofun
  | some text =>
    simp only [Option.some.injEq, forall_eq', Option.getD_some]
    refine strCopy_eq_iff (by decide) fun hfits => h ?_
    have hmax : questPayloadMaxLen = 160 ∧ eventArgsMaxLen = 512 := ⟨rfl, rfl⟩
    omega

theorem makeDeviceControl_eq_some {slot : Slot} {actionId payload argsJson : List Char}
    {source : Source} (h : makeDeviceControl slot actionId source payload argsJson = some e) :
    slot.deviceId ≠ [] ∧ actionId ≠ [] ∧
      e = { deviceId := strCopy 64 slot.deviceId
            actionId := strCopy 96 actionId
            source
            payload := strCopy 256 payload
            argsJson := strCopy questPayloadMaxLen argsJson
            timestampMs := slot.lastSeenMs } := by
  unfold makeDeviceControl at h
  split_ifs at h with hempty
  cases h
  exact ⟨fun heq => hempty (.inl heq), fun heq => hempty (.inr heq), rfl⟩

/-! ### Messages -/

/-- The slot of a device before a message, which is a new one if there is none. -/
def slotBefore (slots : Slots) (deviceId : List Char) : Slot :=
  (find slots deviceId).getD { deviceId }

/-- The condition on a message under which its event is its own. -/
def MessageSelfContained (slots : Slots) (msg : Message) : Prop :=
  match parseTopic msg.topic with
  | some (deviceId, .result) =>
    SelfContained (slotBefore slots deviceId) (members msg.payload) .result
  | some (deviceId, .event) =>
    SelfContained (slotBefore slots deviceId) (members msg.payload) .event
  | _ => False

theorem alloc_eq {slot : Slot} (h : alloc slots deviceId = some slot) :
    slot = slotBefore slots deviceId ∧ slot.deviceId = deviceId := by
  unfold alloc at h
  unfold slotBefore
  cases hfind : find slots deviceId with
  | some found =>
    rw [hfind] at h
    cases h
    have hfound := List.find?_some hfind
    exact ⟨rfl, of_decide_eq_true hfound⟩
  | none =>
    rw [hfind] at h
    split_ifs at h
    cases h
    exact ⟨rfl, rfl⟩

theorem parseTopic_length {topic deviceId : List Char} {kind : Kind}
    (h : parseTopic topic = some (deviceId, kind)) : deviceId.length < questIdMaxLen := by
  unfold parseTopic at h
  dsimp only at h
  split_ifs at h with hstart hlast hlen
  rcases Option.map_eq_some_iff.1 h with ⟨k, -, heq⟩
  rw [← (Prod.mk.inj heq).1]
  exact Nat.not_le.1 fun hle => hlen (.inr hle)

theorem handleMqtt_posted {msg : Message} (h : (handleMqtt slots msg).2 = some e) :
    ∃ deviceId kind, parseTopic msg.topic = some (deviceId, kind) ∧
      deviceId.length < questIdMaxLen ∧ (slotBefore slots deviceId).deviceId = deviceId ∧
      (applyMessage msg { slotBefore slots deviceId with lastSeenMs := msg.nowMs } kind).2 =
        some e := by
  unfold handleMqtt at h
  cases htopic : parseTopic msg.topic with
  | none =>
    rw [htopic] at h
    cases h
  | some topic =>
    rcases topic with ⟨deviceId, kind⟩
    rw [htopic] at h
    dsimp only at h
    split at h
    · cases h
    rename_i slot halloc
    rcases alloc_eq halloc with ⟨hslot, hdevice⟩
    rw [hslot] at h hdevice
    exact ⟨deviceId, kind, rfl, parseTopic_length htopic, hdevice, h⟩

section

variable {slots : Slots} {msg : Message} {e : ControlEvent} {deviceId text : List Char}
  (hlen : deviceId.length < questIdMaxLen)
include hlen

/-- The bus does not cut the id of a device off. -/
theorem device_kept (htext : text = deviceId) : strCopy 64 text = deviceId := by
  have hmax : questIdMaxLen = 32 := rfl
  rw [htext, strCopy_eq (by omega)]

variable (hdevice : (slotBefore slots deviceId).deviceId = deviceId)
include hdevice

theorem result_own_iff (htopic : parseTopic msg.topic = some (deviceId, .result))
    (h : (applyMessage msg { slotBefore slots deviceId with lastSeenMs := msg.nowMs }
      .result).2 = some e) :
    Own msg e ↔ MessageSelfContained slots msg := by
  unfold Own MessageSelfContained SelfContained
  rw [htopic]
  dsimp only
  generalize slotBefore slots deviceId = slot at *
  unfold applyMessage at h
  dsimp only at h
  split_ifs at h with hok
  rcases applyResult_slot hok with ⟨hid, hcommand, ⟨status, hstatus, hcopied⟩, hdev, hseen, hhas⟩
  generalize (applyResult msg.memory _ (cText msg.payload)).2 = after at *
  unfold controlEvent at h
  rw [hhas] at h
  rcases makeDeviceControl_eq_some h with ⟨-, haction, rfl⟩
  have hidentity := identity_own_iff hid hcommand haction
  -- The action is no longer than a request id, so the bus does not cut it off.
  have hshort : (if after.requestId.text ≠ [] then after.requestId.text
      else after.command.text).length < 96 := by
    have hmax : requestIdMaxLen = 48 ∧ commandMaxLen = 32 := ⟨rfl, rfl⟩
    have h1 := after.requestId.text_length
    have h2 := after.command.text_length
    split_ifs <;> omega
  rw [ControlEvent.mk.injEq, device_kept hlen (hdev.trans hdevice), strCopy_eq hshort, hcopied, hseen, hidentity,
    status_own_iff hstatus]
  constructor
  · rintro ⟨-, hown, -, hfits, -⟩
    exact ⟨hown, hfits⟩
  · rintro ⟨hown, hfits⟩
    exact ⟨rfl, hown, rfl, hfits, rfl, rfl⟩

theorem event_own_iff (htopic : parseTopic msg.topic = some (deviceId, .event))
    (h : (applyMessage msg { slotBefore slots deviceId with lastSeenMs := msg.nowMs }
      .event).2 = some e) :
    Own msg e ↔ MessageSelfContained slots msg := by
  unfold Own MessageSelfContained SelfContained
  rw [htopic]
  dsimp only
  generalize slotBefore slots deviceId = slot at *
  unfold applyMessage at h
  dsimp only at h
  split_ifs at h with hok
  rcases applyEvent_slot hok with ⟨hname, hargs, hdev, hseen⟩
  generalize (applyEvent _ (cText msg.payload)).2 = after at *
  unfold controlEvent at h
  dsimp only at h
  split_ifs at h with hempty
  rcases makeDeviceControl_eq_some h with ⟨-, -, rfl⟩
  have hshort : after.eventName.text.length < 96 := by
    have hmax : commandMaxLen = 32 := rfl
    have := after.eventName.text_length
    omega
  rw [ControlEvent.mk.injEq, device_kept hlen (hdev.trans hdevice), strCopy_eq hshort, hseen,
    name_own_iff hname hempty, args_own_iff hargs]
  constructor
  · rintro ⟨-, hown, -, -, hfits, -⟩
    exact ⟨hown, hfits⟩
  · rintro ⟨hown, hfits⟩
    exact ⟨rfl, hown, rfl, rfl, hfits, rfl⟩

end

/-- **The event that is posted for a message, behind any sequence of messages, is made of what
    is in the message exactly if the message is self-contained.** -/
theorem control_event_own_iff (history : List (Option Message)) (msg : Message)
    (e : ControlEvent) (h : (handleMqtt (runMessages [] history) msg).2 = some e) :
    Own msg e ↔ MessageSelfContained (runMessages [] history) msg := by
  rcases handleMqtt_posted h with ⟨deviceId, kind, htopic, hlen, hdevice, hposted⟩
  cases kind with
  | result => exact result_own_iff hlen hdevice htopic hposted
  | event => exact event_own_iff hlen hdevice htopic hposted
  | heartbeat => cases hposted
  | status => cases hposted
  | diag => cases hposted

/-- The door answers a command, and then reports one without a request id. -/
def firstAnswer : Message where
  topic := "cp/v1/dev/door/result".toList
  payload := "\x7b\"request_id\":\"r1\",\"command\":\"open\",\"status\":\"ok\"\x7d".toList
  nowMs := 10

def secondAnswer : Message where
  topic := "cp/v1/dev/door/result".toList
  payload := "\x7b\"command\":\"close\",\"status\":\"error\"\x7d".toList
  nowMs := 20

def secondEvent : ControlEvent where
  deviceId := "door".toList
  actionId := "r1".toList
  source := .result
  payload := "failed".toList
  argsJson := []
  timestampMs := 20

theorem control_event_own_iff_door :
    (handleMqtt (runMessages [] [some firstAnswer]) secondAnswer).2 = some secondEvent ∧
    (Own secondAnswer secondEvent ↔
      MessageSelfContained (runMessages [] [some firstAnswer]) secondAnswer) := by
  have hposted : (handleMqtt (runMessages [] [some firstAnswer]) secondAnswer).2 =
      some secondEvent := by
    decide +kernel
  exact ⟨hposted, control_event_own_iff [some firstAnswer] secondAnswer secondEvent hposted⟩

/-- The second answer is posted with the request id of the first one. -/
theorem not_own :
    (handleMqtt (runMessages [] [some firstAnswer]) secondAnswer).2 = some secondEvent ∧
    ¬Own secondAnswer secondEvent := by
  refine ⟨by decide +kernel, fun h => ?_⟩
  have htopic : parseTopic secondAnswer.topic = some ("door".toList, .result) := by
    decide +kernel
  unfold Own at h
  rw [htopic] at h
  have haction := congrArg ControlEvent.actionId h
  have hother : secondEvent.actionId ≠ ownIdentity (members secondAnswer.payload) := by
    decide +kernel
  exact hother haction

end SceneHub.Ingest
