import SceneHub.Theory.Replies

/-!
# Replayed Commands

How often the node carries out a command that is sent more than once.

A command is looked up when it is taken from its queue and remembered when it
has been handled, and the command task does both for one command before it takes
the next. So it does not matter how many messages with one request id wait in
the queues: the second to be taken finds the first. What limits the protection
is the size of the cache. An id that is not found any more has four others
behind it.

A message that finds its queue full is turned away before it is looked up, and
one that names another command under a known id is refused.

## Main definitions

* `OthersRemembered`: Enough other request ids to push one out of the cache.
* `Recorded`: What is remembered of a command that was carried out.
* `Remembers`: The cache and the queues against what happened so far.

## Theorems

* `mqttStep_cases`: What a step can do.
* `found_or_others`: A command carried out is found, or others pushed it out.
* `at_most_once`: The guarantee over all runs.
-/

namespace SceneHub.Node

variable {result : ControlResult} {entry : DuplicateEntry} {answer : Answer} {id command : String}

/-! ### What happened -/

/-- Everything remembered, oldest first. -/
def remembered (trace : List MqttEvent) : List DuplicateEntry :=
  trace.filterMap fun
    | .remembered entry => some entry
    | _ => none

theorem remembered_append (trace more : List MqttEvent) :
    remembered (trace ++ more) = remembered trace ++ remembered more :=
  List.filterMap_append

theorem mem_remembered {trace : List MqttEvent} (h : entry ∈ remembered trace) :
    .remembered entry ∈ trace := by
  rcases List.mem_filterMap.1 h with ⟨event, hmem, heq⟩
  cases event with
  | executed requestId command => cases heq
  | answered answer => cases heq
  | remembered kept =>
    cases heq
    exact hmem

/-- As many other request ids are remembered as the cache has entries. -/
def OthersRemembered (requestId : String) (events : List MqttEvent) : Prop :=
  ∃ others : List String, others.Nodup ∧ others.length = mqttDupCacheSize ∧
    ∀ other ∈ others, other ≠ requestId ∧
      ∃ entry, .remembered entry ∈ events ∧ entry.requestId = other

theorem OthersRemembered.mono {requestId : String} {events more : List MqttEvent}
    (h : OthersRemembered requestId events) (hsub : events ⊆ more) :
    OthersRemembered requestId more := by
  rcases h with ⟨others, hnodup, hlength, hothers⟩
  refine ⟨others, hnodup, hlength, fun other hmem => ?_⟩
  rcases hothers other hmem with ⟨hne, entry, hentry, hid⟩
  exact ⟨hne, entry, hsub hentry, hid⟩

/-- The events behind the one that says that a command was carried out: its answer
    is published, and its status and error are remembered. -/
structure Recorded (requestId command : String) (answer : Answer) (entry : DuplicateEntry) :
    Prop where
  answerId : answer.requestId = requestId
  entryId : entry.requestId = requestId
  entryCommand : entry.command = command
  status : entry.status = answer.status
  errorCode : entry.errorCode = answer.errorCode

/-! ### Results fit -/

theorem resultDoneLocal_fits (result : ControlResult) : (resultDoneLocal result).Fits where
  status := (by decide : ("done" : String).length < 16)
  errorCode := (by decide : ("" : String).length < 32)

theorem cutText_length (size : Nat) (text : String) (hsize : 0 < size) :
    (cutText size text).length < size := by
  rw [cutText, String.length_ofList, List.length_take]
  omega

theorem cutText_eq {size : Nat} {text : String} (h : text.length < size) :
    cutText size text = text := by
  have hlength : text.toList.length ≤ size - 1 := by
    rw [String.length_toList]
    omega
  rw [cutText, List.take_of_length_le hlength, String.ofList_toList]

theorem resultFailedLocal_fits (result : ControlResult) (code : String) :
    (resultFailedLocal result code).Fits where
  status := (by decide : ("failed" : String).length < 16)
  errorCode := cutText_length 32 code (by decide)

theorem resultRejectedLocal_fits (result : ControlResult) (code : String) :
    (resultRejectedLocal result code).Fits where
  status := (by decide : ("rejected" : String).length < 16)
  errorCode := cutText_length 32 code (by decide)

theorem jsonAppendAll_fits (texts : List String) (result : ControlResult) :
    (jsonAppendAll result texts).Fits := by
  induction texts generalizing result with
  | nil => exact resultDoneLocal_fits result
  | cons text texts ih =>
    unfold jsonAppendAll
    dsimp only
    split
    · exact ih _
    · exact resultFailedLocal_fits _ _

theorem mapAdminError_fits (result : ControlResult) (err : EspErr) (errorCode : String) :
    (mapAdminError result err errorCode).Fits := by
  unfold mapAdminError
  generalize (if errorCode ≠ "" then errorCode else "internal_error") = code
  dsimp only
  split
  · exact resultRejectedLocal_fits _ _
  split
  · exact resultRejectedLocal_fits _ _
  · exact resultFailedLocal_fits _ _

theorem processRuleAdminBundle_fits (message : CommandMessage) (reply : AdminReply)
    (restartRequired : Bool) (result : ControlResult) :
    (processRuleAdminBundle message reply restartRequired result).Fits := by
  unfold processRuleAdminBundle
  split
  · exact resultRejectedLocal_fits _ _
  split
  · exact mapAdminError_fits _ _ _
  · exact jsonAppendAll_fits _ _

theorem processRuleAdminGet_fits (reply : AdminReply) (result : ControlResult) :
    (processRuleAdminGet reply result).Fits := by
  unfold processRuleAdminGet
  split
  · exact mapAdminError_fits _ _ _
  split
  · exact resultRejectedLocal_fits _ _
  cases reply.snapshot with
  | none => exact resultFailedLocal_fits _ _
  | some paused => exact jsonAppendAll_fits _ _

theorem processRuleAdminClear_fits (reply : AdminReply) (result : ControlResult) :
    (processRuleAdminClear reply result).Fits := by
  unfold processRuleAdminClear
  split
  · exact mapAdminError_fits _ _ _
  · exact jsonAppendAll_fits _ _

theorem processAdminText_fits (reply : AdminReply) (text : String) (result : ControlResult) :
    (processAdminText reply text result).Fits := by
  unfold processAdminText
  split
  · exact mapAdminError_fits _ _ _
  · exact resultDoneLocal_fits _

theorem processAdmin_fits (message : CommandMessage) (reply : AdminReply)
    (result : ControlResult) : (processAdmin message reply result).Fits := by
  unfold processAdmin
  repeat' split
  · exact processRuleAdminBundle_fits _ _ _ _
  · exact processRuleAdminBundle_fits _ _ _ _
  · exact processRuleAdminGet_fits _ _
  · exact processRuleAdminClear_fits _ _
  · exact processAdminText_fits _ _ _
  · exact processAdminText_fits _ _ _
  · exact processAdminText_fits _ _ _
  · exact processAdminText_fits _ _ _
  · exact resultRejectedLocal_fits _ _

theorem SubmitOutcome.write_fits (outcome : SubmitOutcome) (h : result.Fits) :
    (outcome.write result).Fits := by
  cases outcome with
  | executed written fits => exact fits
  | noSlot => exact h
  | queueTimeout => exact h
  | waitTimeout carriedOut => exact h
  | notStarted => exact h

/-! ### What a step can do -/

/-- A valid message has texts that fit, and a request id. -/
def CommandMessage.Sound (message : CommandMessage) : Prop :=
  message.valid = true → (message.requestId ≠ "" ∧ message.requestId.length < mqttRequestIdMax) ∧
    message.command.length < mqttCommandMax

/-- What every state of a run satisfies apart from the cache. -/
structure MqttState.Sound (s : MqttState) : Prop where
  commands : ∀ message ∈ s.commandQueue, message.Sound
  admins : ∀ message ∈ s.adminQueue, message.Sound
  result : s.result.Fits

/-- The events of a message that is handled, and neither refused nor a replay. -/
def handled (message : CommandMessage) (carriedOut : Bool) (answer : Answer)
    (entry : DuplicateEntry) : List MqttEvent :=
  (if carriedOut then [.executed message.requestId message.command] else []) ++
    [.answered answer, .remembered entry]

/-- What the handling of a message does: it leaves the cache alone and answers, or
    it finds the request id new, answers, and remembers what it answered. -/
def Outcome (s t : MqttState) (events : List MqttEvent) : Prop :=
  (t.cache = s.cache ∧ ∀ event ∈ events, ∃ answer, event = .answered answer) ∨
  ∃ message carriedOut answer entry, duplicateFind s.cache message.requestId = none ∧
    message.requestId ≠ "" ∧ Recorded message.requestId message.command answer entry ∧
    t.cache = s.cache.push entry ∧ events = handled message carriedOut answer entry

variable {s : MqttState} {message : CommandMessage}

/-- What is kept of a message and a result that fit. -/
def entryOf (message : CommandMessage) (result : ControlResult) : DuplicateEntry where
  requestId := message.requestId
  command := message.command
  status := result.status
  errorCode := result.errorCode

theorem remember_eq (hvalid : message.valid = true) (hsound : message.Sound) (hfits : result.Fits) :
    s.remember message result = ({ s with cache := s.cache.push (entryOf message result) },
      [.remembered (entryOf message result)]) := by
  rcases hsound hvalid with ⟨⟨hne, hid⟩, hcommand⟩
  have hentry : duplicateEntry message.requestId message.command result =
      entryOf message result := by
    rw [duplicateEntry, cutText_eq hid, cutText_eq hcommand, cutText_eq hfits.status,
      cutText_eq hfits.errorCode]
    rfl
  unfold MqttState.remember
  rw [if_neg hne, hentry]

theorem outcome_handled (carriedOut : Bool) {t : MqttState} (hvalid : message.valid = true)
    (hsound : message.Sound) (hnew : duplicateFind s.cache message.requestId = none)
    (hcache : t.cache = s.cache.push (entryOf message result))
    (hid : answer.requestId = message.requestId) (hstatus : answer.status = result.status)
    (herror : answer.errorCode = result.errorCode) :
    Outcome s t (handled message carriedOut answer (entryOf message result)) := by
  refine .inr ⟨message, carriedOut, answer, entryOf message result, hnew, (hsound hvalid).1.1, ?_,
    hcache, rfl⟩
  exact ⟨hid, rfl, rfl, hstatus.symm, herror.symm⟩

theorem describeInterface_outcome (description : Option String) (hvalid : message.valid = true)
    (hsound : message.Sound) (hnew : duplicateFind s.cache message.requestId = none) :
    Outcome s (describeInterface s message description).1
      (describeInterface s message description).2 := by
  cases description with
  | none =>
    unfold describeInterface
    dsimp only
    rw [remember_eq hvalid hsound (resultFailedLocal_fits _ _)]
    exact outcome_handled true hvalid hsound hnew rfl rfl rfl rfl
  | some description =>
    unfold describeInterface
    dsimp only
    rw [remember_eq hvalid hsound (resultDoneLocal_fits _)]
    exact outcome_handled true hvalid hsound hnew rfl rfl rfl rfl

theorem submitCommand_outcome (outcome : SubmitOutcome) (hvalid : message.valid = true)
    (hsound : message.Sound) (hfits : s.result.Fits)
    (hnew : duplicateFind s.cache message.requestId = none) :
    Outcome s (submitCommand s message outcome).1 (submitCommand s message outcome).2 := by
  unfold submitCommand
  dsimp only
  rw [remember_eq hvalid hsound (outcome.write_fits hfits)]
  exact outcome_handled outcome.carriedOut hvalid hsound hnew rfl rfl rfl rfl

theorem answered_only : ∀ event ∈ [MqttEvent.answered answer],
    ∃ answer, event = .answered answer :=
  fun _ hmem => ⟨answer, List.mem_singleton.1 hmem⟩

theorem processCommandMessage_outcome (io : HandleIo) (hsound : message.Sound)
    (hfits : s.result.Fits) : Outcome s (processCommandMessage s message io).1
      (processCommandMessage s message io).2 := by
  unfold processCommandMessage
  split
  · exact .inl ⟨rfl, answered_only⟩
  rename_i hinvalid
  have hvalid : message.valid = true := by
    simpa only [Bool.not_eq_true', Bool.not_eq_false] using hinvalid
  cases hfind : duplicateFind s.cache message.requestId with
  | some duplicate => exact .inl ⟨rfl, answered_only⟩
  | none =>
    dsimp only
    split
    · exact describeInterface_outcome io.description hvalid hsound hfind
    · exact submitCommand_outcome io.submit hvalid hsound hfits hfind

theorem processAdminCommandMessage_outcome (io : HandleIo) (hsound : message.Sound) :
    Outcome s (processAdminCommandMessage s message io).1
      (processAdminCommandMessage s message io).2 := by
  unfold processAdminCommandMessage
  split
  · exact .inl ⟨rfl, answered_only⟩
  rename_i hinvalid
  have hvalid : message.valid = true := by
    simpa only [Bool.not_eq_true', Bool.not_eq_false] using hinvalid
  cases hfind : duplicateFind s.cache message.requestId with
  | some duplicate => exact .inl ⟨rfl, answered_only⟩
  | none =>
    dsimp only
    split
    · exact .inl ⟨rfl, answered_only⟩
    · rw [remember_eq hvalid hsound (processAdmin_fits _ _ _)]
      exact outcome_handled true hvalid hsound hfind rfl rfl rfl rfl

theorem enqueueDeferredResult_outcome (status errorCode : String) (publishes : Bool) :
    Outcome s (enqueueDeferredResult s message status errorCode publishes).1
      (enqueueDeferredResult s message status errorCode publishes).2 := by
  unfold enqueueDeferredResult
  split
  · exact .inl ⟨rfl, nofun⟩
  split
  · exact .inl ⟨rfl, answered_only⟩
  · exact .inl ⟨rfl, nofun⟩

theorem handleData_outcome (event : DataEvent) (io : ReceiveIo) :
    Outcome s (handleData s event io).1 (handleData s event io).2 := by
  have hquiet : ∀ t : MqttState, t.cache = s.cache → Outcome s t [] :=
    fun t hcache => .inl ⟨hcache, nofun⟩
  unfold handleData
  dsimp only
  split
  · exact hquiet s rfl
  split
  · exact enqueueDeferredResult_outcome _ _ _
  split
  · split
    · exact enqueueDeferredResult_outcome _ _ _
    split
    · exact hquiet _ rfl
    · exact enqueueDeferredResult_outcome _ _ _
  · split
    · exact hquiet _ rfl
    · exact enqueueDeferredResult_outcome _ _ _

theorem mqttStep_cases (hsound : s.Sound) (op : MqttOp) :
    Outcome s (mqttStep s op).1 (mqttStep s op).2 := by
  cases op with
  | data event io => exact handleData_outcome event io
  | deferred =>
    unfold mqttStep
    cases s.resultQueue with
    | nil => exact .inl ⟨rfl, nofun⟩
    | cons result rest => exact .inl ⟨rfl, answered_only⟩
  | disconnect => exact .inl ⟨rfl, nofun⟩
  | admin io =>
    unfold mqttStep
    cases hqueue : s.adminQueue with
    | nil => exact .inl ⟨rfl, nofun⟩
    | cons message rest =>
      exact processAdminCommandMessage_outcome (s := { s with adminQueue := rest }) io
        (hsound.admins message (by rw [hqueue]; exact .head _))
  | command io =>
    unfold mqttStep
    cases hqueue : s.commandQueue with
    | nil => exact .inl ⟨rfl, nofun⟩
    | cons message rest =>
      exact processCommandMessage_outcome (s := { s with commandQueue := rest }) io
        (hsound.commands message (by rw [hqueue]; exact .head _)) hsound.result

/-! ### Sound states -/

theorem parsePayload_sound (argsMax : Nat) (payload : List Char) :
    (parsePayload argsMax payload).Sound := fun hvalid => parsePayload_texts hvalid

theorem remember_sound (h : s.Sound) : (s.remember message result).1.Sound := by
  unfold MqttState.remember
  split
  · exact h
  · exact ⟨h.commands, h.admins, h.result⟩

theorem processCommandMessage_sound (io : HandleIo) (h : s.Sound) :
    (processCommandMessage s message io).1.Sound := by
  unfold processCommandMessage
  split
  · exact h
  cases duplicateFind s.cache message.requestId with
  | some duplicate => exact h
  | none =>
    dsimp only
    split
    · cases io.description with
      | none => exact remember_sound ⟨h.commands, h.admins, resultFailedLocal_fits _ _⟩
      | some description => exact remember_sound ⟨h.commands, h.admins, resultDoneLocal_fits _⟩
    · exact remember_sound ⟨h.commands, h.admins, io.submit.write_fits h.result⟩

theorem processAdminCommandMessage_sound (io : HandleIo) (h : s.Sound) :
    (processAdminCommandMessage s message io).1.Sound := by
  unfold processAdminCommandMessage
  split
  · exact h
  cases duplicateFind s.cache message.requestId with
  | some duplicate => exact h
  | none =>
    dsimp only
    split
    · exact h
    · exact remember_sound ⟨h.commands, h.admins, h.result⟩

theorem enqueueDeferredResult_sound (status errorCode : String) (publishes : Bool) (h : s.Sound) :
    (enqueueDeferredResult s message status errorCode publishes).1.Sound := by
  unfold enqueueDeferredResult
  split
  · exact ⟨h.commands, h.admins, h.result⟩
  split
  · exact h
  · exact ⟨h.commands, h.admins, h.result⟩

theorem sound_append {queue : List CommandMessage} (h : ∀ message ∈ queue, message.Sound)
    (hnew : message.Sound) : ∀ m ∈ queue ++ [message], m.Sound := by
  intro m hm
  rcases List.mem_append.1 hm with hold | hlast
  · exact h m hold
  · rw [List.mem_singleton.1 hlast]
    exact hnew

theorem handleData_sound (event : DataEvent) (io : ReceiveIo) (h : s.Sound) :
    (handleData s event io).1.Sound := by
  unfold handleData
  dsimp only
  split
  · exact h
  split
  · exact enqueueDeferredResult_sound _ _ _ h
  split
  · split
    · exact enqueueDeferredResult_sound _ _ _ h
    split
    · exact ⟨h.commands, sound_append h.admins (parsePayload_sound _ _), h.result⟩
    · exact enqueueDeferredResult_sound _ _ _ h
  · split
    · exact ⟨sound_append h.commands (parsePayload_sound _ _), h.admins, h.result⟩
    · exact enqueueDeferredResult_sound _ _ _ h

theorem mqttStep_sound (op : MqttOp) (h : s.Sound) : (mqttStep s op).1.Sound := by
  cases op with
  | data event io => exact handleData_sound event io h
  | deferred =>
    unfold mqttStep
    cases s.resultQueue with
    | nil => exact h
    | cons result rest => exact ⟨h.commands, h.admins, h.result⟩
  | disconnect => exact ⟨h.commands, h.admins, h.result⟩
  | admin io =>
    unfold mqttStep
    cases hqueue : s.adminQueue with
    | nil => exact h
    | cons message rest =>
      have hrest : ∀ m ∈ rest, m.Sound :=
        fun m hm => h.admins m (by rw [hqueue]; exact .tail _ hm)
      exact processAdminCommandMessage_sound io (s := { s with adminQueue := rest })
        ⟨h.commands, hrest, h.result⟩
  | command io =>
    unfold mqttStep
    cases hqueue : s.commandQueue with
    | nil => exact h
    | cons message rest =>
      have hrest : ∀ m ∈ rest, m.Sound :=
        fun m hm => h.commands m (by rw [hqueue]; exact .tail _ hm)
      exact processCommandMessage_sound io (s := { s with commandQueue := rest })
        ⟨hrest, h.admins, h.result⟩

/-! ### The cache -/

/-- The cache holds the entries remembered last, its request ids are apart, what was
    carried out was answered and remembered, and it was not carried out again
    before others were remembered. -/
structure Remembers (s : MqttState) (trace : List MqttEvent) : Prop where
  held : s.cache.Holds (remembered trace).reverse
  size : s.cache.slots.length = mqttDupCacheSize
  spaced : Lib.Spaced DuplicateEntry.requestId mqttDupCacheSize (remembered trace).reverse
  kept : ∀ older id command newer, trace = older ++ .executed id command :: newer →
    ∃ answer entry rest, newer = .answered answer :: .remembered entry :: rest ∧ id ≠ "" ∧
      Recorded id command answer entry
  once : ∀ older id command between again newer,
    trace = older ++ .executed id command :: between ++ .executed id again :: newer →
    OthersRemembered id between

theorem remembers_start : Remembers {} [] where
  held := Lib.Ring.holds_empty _ (by decide)
  size := rfl
  spaced := trivial
  kept := by
    intro older id command newer h
    cases older <;> cases h
  once := by
    intro older id command between again newer h
    cases older <;> cases h

variable {trace : List MqttEvent}

/-- A command that was carried out is found under its request id, unless others
    pushed it out of the cache. -/
theorem found_or_others (h : Remembers s trace) {older newer : List MqttEvent}
    (htrace : trace = older ++ .executed id command :: newer) :
    ∃ answer entry rest, newer = .answered answer :: .remembered entry :: rest ∧
      Recorded id command answer entry ∧
      (duplicateFind s.cache id = some entry ∨ OthersRemembered id rest) := by
  rcases h.kept older id command newer htrace with ⟨answer, entry, rest, hnewer, hne, hrecorded⟩
  refine ⟨answer, entry, rest, hnewer, hrecorded, ?_⟩
  have hpast : (remembered trace).reverse =
      (remembered rest).reverse ++ entry :: (remembered older).reverse := by
    have hsplit : remembered trace = remembered older ++ entry :: remembered rest := by
      rw [htrace, hnewer, remembered_append]
      rfl
    rw [hsplit, List.reverse_append, List.reverse_cons, List.append_assoc, List.singleton_append]
  by_cases hfew : (remembered rest).length < mqttDupCacheSize
  · -- The entry is still among those held.
    refine .inl ?_
    have hmem : entry ∈ (remembered trace).reverse.take mqttDupCacheSize := by
      refine List.mem_iff_getElem?.2 ⟨(remembered rest).length, ?_⟩
      rw [List.getElem?_take_of_lt hfew, hpast, ← List.length_reverse, List.getElem?_append_right
        (le_rfl), Nat.sub_self, List.getElem?_cons_zero]
    have hspaced := h.spaced
    rw [← h.size] at hspaced hmem
    unfold duplicateFind
    rw [if_neg hne]
    exact (h.held.find_iff hspaced id entry).2 ⟨hmem, hrecorded.entryId⟩
  -- The four remembered right behind it are others.
  refine .inr ?_
  have hspaced := h.spaced
  rw [hpast] at hspaced
  rcases hspaced.behind (Nat.le_of_not_lt hfew) with ⟨hnodup, hid⟩
  refine ⟨_, hnodup, ?_, fun other hmem => ⟨?_, ?_⟩⟩
  · rw [List.length_map, List.length_take]
    exact Nat.min_eq_left (Nat.le_of_not_lt hfew)
  · intro heq
    rw [hrecorded.entryId] at hid
    exact hid (heq ▸ hmem)
  · rcases List.mem_map.1 hmem with ⟨kept, hkept, heq⟩
    exact ⟨kept, mem_remembered (List.mem_of_mem_take hkept), heq⟩

/-! ### Runs -/

/-- An event that says a command was carried out is an old one or one of the step. -/
theorem executed_split {events older newer : List MqttEvent}
    (h : trace ++ events = older ++ .executed id command :: newer) :
    (∃ rest, trace = older ++ .executed id command :: rest ∧ newer = rest ++ events) ∨
    ∃ front, older = trace ++ front ∧ events = front ++ .executed id command :: newer := by
  rcases List.append_eq_append_iff.1 h with ⟨front, holder, hevents⟩ | ⟨rest, htrace, hnewer⟩
  · exact .inr ⟨front, holder, hevents⟩
  cases rest with
  | nil =>
    rw [List.append_nil] at htrace
    refine .inr ⟨[], ?_, hnewer.symm⟩
    rw [List.append_nil, htrace]
  | cons event rest =>
    rw [List.cons_append] at hnewer
    injection hnewer with hevent hrest
    rw [← hevent] at htrace
    exact .inl ⟨rest, htrace, hrest⟩

theorem handled_split {carriedOut : Bool} {front newer : List MqttEvent}
    (h : handled message carriedOut answer entry = front ++ .executed id command :: newer) :
    front = [] ∧ id = message.requestId ∧ command = message.command ∧
      newer = [.answered answer, .remembered entry] := by
  have hlate : ∀ front : List MqttEvent,
      [.answered answer, .remembered entry] ≠ front ++ .executed id command :: newer := by
    intro front heq
    have hmem : .executed id command ∈ [MqttEvent.answered answer, .remembered entry] := by
      rw [heq]
      exact List.mem_append_right _ List.mem_cons_self
    simp only [List.mem_cons, List.not_mem_nil, reduceCtorEq, or_self] at hmem
  cases carriedOut with
  | false => exact absurd h (hlate front)
  | true =>
    cases front with
    | nil =>
      injection h with hevent hrest
      injection hevent with hid hcommand
      exact ⟨rfl, hid.symm, hcommand.symm, hrest.symm⟩
    | cons event front =>
      injection h with hevent hrest
      exact absurd hrest (hlate front)

theorem remembered_answers {events : List MqttEvent}
    (h : ∀ event ∈ events, ∃ answer, event = .answered answer) : remembered events = [] := by
  refine List.filterMap_eq_nil_iff.2 fun event hmem => ?_
  rcases h event hmem with ⟨answer, rfl⟩
  rfl

theorem remembered_handled {carriedOut : Bool} :
    remembered (handled message carriedOut answer entry) = [entry] := by
  cases carriedOut <;> rfl

theorem Remembers.step {t : MqttState} {events : List MqttEvent} (h : Remembers s trace)
    (hstep : Outcome s t events) : Remembers t (trace ++ events) := by
  rcases hstep with ⟨hcache, hanswers⟩ |
    ⟨message, carriedOut, answer, entry, hnew, hne, hrecorded, hcache, rfl⟩
  · -- Nothing is carried out or remembered.
    have hquiet : ∀ front id command newer, events ≠ front ++ .executed id command :: newer := by
      intro front id command newer heq
      have hmem : .executed id command ∈ events := by
        rw [heq]
        exact List.mem_append_right _ List.mem_cons_self
      rcases hanswers _ hmem with ⟨answer, hanswer⟩
      cases hanswer
    have hpast : remembered (trace ++ events) = remembered trace := by
      rw [remembered_append, remembered_answers hanswers, List.append_nil]
    refine ⟨?_, ?_, ?_, ?_, ?_⟩
    · rw [hcache, hpast]
      exact h.held
    · rw [hcache]
      exact h.size
    · rw [hpast]
      exact h.spaced
    · intro older id command newer htrace
      rcases executed_split htrace with ⟨rest, hold, hnewer⟩ | ⟨front, -, hevents⟩
      · rcases h.kept older id command rest hold with ⟨answer, entry, last, hrest, hkept⟩
        exact ⟨answer, entry, last ++ events, by rw [hnewer, hrest]; rfl, hkept⟩
      · exact absurd hevents (hquiet _ _ _ _)
    · intro older id command between again newer htrace
      rcases executed_split htrace with ⟨rest, hold, -⟩ | ⟨front, -, hevents⟩
      · exact h.once older id command between again rest hold
      · exact absurd hevents (hquiet _ _ _ _)
  -- A new request id is remembered.
  have hspaced := h.spaced
  rw [← h.size] at hspaced
  have hfind : s.cache.find DuplicateEntry.requestId entry.requestId = none := by
    unfold duplicateFind at hnew
    rwa [if_neg hne, ← hrecorded.entryId] at hnew
  have hpast : (remembered (trace ++ handled message carriedOut answer entry)).reverse =
      entry :: (remembered trace).reverse := by
    rw [remembered_append, remembered_handled, List.reverse_append, List.reverse_singleton,
      List.singleton_append]
  refine ⟨?_, ?_, ?_, ?_, ?_⟩
  · rw [hcache, hpast]
    exact h.held.push entry
  · rw [hcache, Lib.Ring.push_length]
    exact h.size
  · rw [hpast, ← h.size]
    exact h.held.spaced_push hspaced hfind
  · intro older id command newer htrace
    rcases executed_split htrace with ⟨rest, hold, hnewer⟩ | ⟨front, -, hevents⟩
    · rcases h.kept older id command rest hold with ⟨answer', entry', last, hrest, hkept⟩
      exact ⟨answer', entry', last ++ handled message carriedOut answer entry,
        by rw [hnewer, hrest]; rfl, hkept⟩
    · rcases handled_split hevents with ⟨-, rfl, rfl, hnewer⟩
      exact ⟨answer, entry, [], hnewer, hne, hrecorded⟩
  · intro older id command between again newer htrace
    rcases executed_split htrace with ⟨rest, hold, -⟩ | ⟨front, holder, hevents⟩
    · exact h.once older id command between again rest hold
    -- Its request id was not found, so others were remembered since.
    rcases handled_split hevents with ⟨rfl, rfl, -, -⟩
    rw [List.append_nil] at holder
    rcases found_or_others h holder.symm with ⟨_, _, rest, hbetween, -, hfound | hothers⟩
    · rw [hnew] at hfound
      cases hfound
    refine hothers.mono fun event hmem => ?_
    rw [hbetween]
    exact .tail _ (.tail _ hmem)

theorem Remembers.distinct (h : Remembers s trace) {i j : Nat} {x y : DuplicateEntry}
    (hi : s.cache.slots[i]? = some (some x)) (hj : s.cache.slots[j]? = some (some y))
    (hij : i ≠ j) : x.requestId ≠ y.requestId := by
  have hspaced := h.spaced
  rw [← h.size] at hspaced
  exact h.held.slots_distinct hspaced hi hj hij

theorem mqttRun_remembers (ops : List MqttOp) (hsound : s.Sound) (h : Remembers s trace) :
    (mqttRun s ops).1.Sound ∧ Remembers (mqttRun s ops).1 (trace ++ (mqttRun s ops).2) := by
  induction ops generalizing s trace with
  | nil =>
    simp only [mqttRun, List.append_nil]
    exact ⟨hsound, h⟩
  | cons op ops ih =>
    have hrest := ih (mqttStep_sound op hsound) (h.step (mqttStep_cases hsound op))
    rw [List.append_assoc] at hrest
    exact hrest

theorem sound_start : MqttState.Sound {} where
  commands := nofun
  admins := nofun
  result := by decide

/-- The answer to a replay, with the message taken from its queue. -/
def Replayed (s : MqttState) (entry : DuplicateEntry) : Prop :=
  ∀ message rest io, message.valid = true → message.requestId = entry.requestId →
    (s.commandQueue = message :: rest → mqttStep s (.command io) =
      ({ s with commandQueue := rest }, [.answered (duplicateAnswer message entry)])) ∧
    (s.adminQueue = message :: rest → mqttStep s (.admin io) =
      ({ s with adminQueue := rest }, [.answered (duplicateAnswer message entry)]))

theorem replayed_of_found (h : duplicateFind s.cache entry.requestId = some entry) :
    Replayed s entry := by
  intro message rest io hvalid hid
  rw [← hid] at h
  refine ⟨fun hqueue => ?_, fun hqueue => ?_⟩
  · simp [mqttStep, hqueue, processCommandMessage, hvalid, h]
  · simp [mqttStep, hqueue, processAdminCommandMessage, hvalid, h]

/-- Every message with the request id of a command that was carried out is answered
    like that command, whatever command it names, as long as few others were
    remembered. -/
def AnsweredAlike (ops : List MqttOp) : Prop :=
  ∀ older id command answer rest message queue io,
    (mqttRun {} ops).2 = older ++ .executed id command :: .answered answer :: rest →
    ¬OthersRemembered id rest → (mqttRun {} ops).1.commandQueue = message :: queue →
    message.valid = true → message.requestId = id →
    ∃ again, (mqttStep (mqttRun {} ops).1 (.command io)).2 = [.answered again] ∧
      again.status = answer.status ∧ again.errorCode = answer.errorCode

/-- A command that was carried out, and another one under its request id. -/
def reusedIdRun : List MqttOp :=
  [.data (commandEvent "a" "relay.get") {},
    .command { submit := .executed { status := "done" } (by decide) },
    .data (commandEvent "a" "io.get") {}]

/-- The second command is refused. -/
theorem reused_id_refused : ¬∀ ops, AnsweredAlike ops := by
  intro h
  have hfew : ¬OthersRemembered "a"
      [.remembered { requestId := "a", command := "relay.get", status := "done"
                     errorCode := "" }] := by
    rintro ⟨others, -, hlength, hothers⟩
    cases others with
    | nil => cases hlength
    | cons other others =>
      rcases hothers other List.mem_cons_self with ⟨hne, entry, hmem, hid⟩
      injection List.mem_singleton.1 hmem with hentry
      rw [hentry] at hid
      exact hne hid.symm
  obtain ⟨again, hevents, hstatus, -⟩ := h reusedIdRun [] "a" "relay.get"
    { requestId := "a", command := "relay.get", status := "done", errorCode := "" } _
    { valid := true, requestId := "a", command := "io.get", argsJson := "\x7b\x7d" } [] {}
    (by decide +kernel) hfew (by decide +kernel) rfl rfl
  have hrefused : (mqttStep (mqttRun {} reusedIdRun).1 (.command {})).2 =
      [.answered { requestId := "a", command := "io.get", status := "rejected"
                   errorCode := "invalid_request" }] := by decide +kernel
  rw [hrefused] at hevents
  injection hevents with hanswer
  injection hanswer with hagain
  rw [← hagain] at hstatus
  exact absurd hstatus (by decide)

/-- In every run of the node: the request ids in the cache differ; a request id is
    carried out a second time only behind as many others as the cache has entries;
    and until then a message with it that is taken is answered with the status and
    the error that the first one was answered with, or refused if it names another
    command, and changes nothing. -/
theorem at_most_once (ops : List MqttOp) :
    (∀ (i j : Nat) (x y : DuplicateEntry), (mqttRun {} ops).1.cache.slots[i]? = some (some x) →
      (mqttRun {} ops).1.cache.slots[j]? = some (some y) → i ≠ j → x.requestId ≠ y.requestId) ∧
    (∀ older id command between again newer,
      (mqttRun {} ops).2 = older ++ .executed id command :: between ++ .executed id again :: newer →
      OthersRemembered id between) ∧
    ∀ older id command newer, (mqttRun {} ops).2 = older ++ .executed id command :: newer →
      ∃ answer entry rest, newer = .answered answer :: .remembered entry :: rest ∧
        Recorded id command answer entry ∧
        (¬OthersRemembered id rest → Replayed (mqttRun {} ops).1 entry) := by
  have h := (mqttRun_remembers ops sound_start remembers_start).2
  rw [List.nil_append] at h
  refine ⟨?_, h.once, ?_⟩
  · intro i j x y hi hj hij
    exact h.distinct hi hj hij
  intro older id command newer htrace
  rcases found_or_others h htrace with ⟨answer, entry, rest, hnewer, hrecorded, hfound⟩
  refine ⟨answer, entry, rest, hnewer, hrecorded, fun hfew => replayed_of_found ?_⟩
  rw [hrecorded.entryId]
  exact hfound.resolve_right hfew

end SceneHub.Node
