import SceneHub.Node.MqttCommand

/-!
# Whose Answer It Is

Whether the answer to a command can carry the outcome of another command.

The command task keeps one result buffer for all control commands. A submit that
finds no free request, or that gives up waiting, leaves the buffer as it is, and
the command task publishes and remembers it all the same. So what one command
was answered is what the buffer held before, unless the control task carried the
command out. What a step publishes and remembers does not depend on the buffers
exactly if every control command taken in it is carried out in time.

## Main definitions

* `MqttState.left`: A state with something else in the result buffers.
* `OwnAnswers`: What a step answers and remembers is its own.
* `Submitted`: A control command that is taken is carried out in time.

## Theorems

* `mqttStep_left`: What a step does to the buffers.
* `own_answers_iff`: When all answers of a run are their own.
-/

namespace SceneHub.Node

variable {outcome : SubmitOutcome}

variable {s : MqttState} {message : CommandMessage} {io : HandleIo}

/-- A state whose result buffers hold something else. -/
def MqttState.left (s : MqttState) (result adminResult : ControlResult) : MqttState :=
  { s with result := result, adminResult := adminResult }

/-- What a step answers and remembers is the same whatever earlier commands left
    in the result buffers. -/
def OwnAnswers (s : MqttState) (op : MqttOp) : Prop :=
  ∀ result adminResult, (mqttStep (s.left result adminResult) op).2 = (mqttStep s op).2 ∧
    (mqttStep (s.left result adminResult) op).1.cache = (mqttStep s op).1.cache

/-- A message that is taken is submitted to the control task: it is valid, no
    replay, and not answered by the command task itself. -/
def Submits (s : MqttState) (message : CommandMessage) : Prop :=
  message.valid = true ∧ duplicateFind s.cache message.requestId = none ∧
    message.command ≠ "describe_interface"

instance (s : MqttState) (message : CommandMessage) : Decidable (Submits s message) :=
  inferInstanceAs (Decidable (_ ∧ _ ∧ _))

/-- The control task carries out in time what is submitted to it. -/
def Submitted (s : MqttState) : MqttOp → Prop
  | .command io => ∀ message rest, s.commandQueue = message :: rest → Submits s message →
      ∃ result fits, io.submit = .executed result fits
  | _ => True

/-- What every step of a run satisfies. -/
def EachStep (P : MqttState → MqttOp → Prop) (s : MqttState) : List MqttOp → Prop
  | [] => True
  | op :: ops => P s op ∧ EachStep P (mqttStep s op).1 ops

theorem EachStep.congr {P Q : MqttState → MqttOp → Prop} (h : ∀ s op, P s op ↔ Q s op)
    (ops : List MqttOp) : EachStep P s ops ↔ EachStep Q s ops := by
  induction ops generalizing s with
  | nil => exact Iff.rfl
  | cons op ops ih => exact and_congr (h s op) ih

/-! ### The result buffers -/

variable {result adminResult : ControlResult}

theorem enqueueDeferredResult_left (status errorCode : String) (publishes : Bool) :
    enqueueDeferredResult (s.left result adminResult) message status errorCode publishes =
      ((enqueueDeferredResult s message status errorCode publishes).1.left result adminResult,
        (enqueueDeferredResult s message status errorCode publishes).2) := by
  unfold enqueueDeferredResult MqttState.left
  split
  · rfl
  · split <;> rfl

theorem handleData_left (event : DataEvent) (io : ReceiveIo) :
    handleData (s.left result adminResult) event io =
      ((handleData s event io).1.left result adminResult, (handleData s event io).2) := by
  have hadmin : (s.left result adminResult).adminQueue = s.adminQueue := rfl
  have hcommand : (s.left result adminResult).commandQueue = s.commandQueue := rfl
  unfold handleData
  simp only [enqueueDeferredResult_left, hadmin, hcommand]
  repeat' split
  all_goals rfl

theorem remember_events (kept : ControlResult) : (s.remember message kept).2 =
    if message.requestId = "" then []
    else [.remembered (duplicateEntry message.requestId message.command kept)] := by
  unfold MqttState.remember
  split <;> rfl

theorem remember_cache (kept : ControlResult) : (s.remember message kept).1.cache =
    if message.requestId = "" then s.cache
    else s.cache.push (duplicateEntry message.requestId message.command kept) := by
  unfold MqttState.remember
  split <;> rfl

/-- A result is cleared before an admin command is handled, so the handlers start
    from the same whatever it held. -/
theorem processAdminCommandMessage_left :
    (processAdminCommandMessage (s.left result adminResult) message io).2 =
        (processAdminCommandMessage s message io).2 ∧
      (processAdminCommandMessage (s.left result adminResult) message io).1.cache =
        (processAdminCommandMessage s message io).1.cache := by
  have hcache : (s.left result adminResult).cache = s.cache := rfl
  have hscratch : (s.left result adminResult).adminScratch = s.adminScratch := rfl
  have hclear : clearResult (s.left result adminResult).adminResult = clearResult s.adminResult :=
    rfl
  unfold processAdminCommandMessage
  rw [hcache, hscratch, hclear]
  split
  · exact ⟨rfl, rfl⟩
  cases duplicateFind s.cache message.requestId with
  | some duplicate => exact ⟨rfl, rfl⟩
  | none =>
    dsimp only
    split
    · exact ⟨rfl, rfl⟩
    · simp [remember_events, remember_cache, MqttState.left]

theorem describeInterface_left (description : Option String) :
    (describeInterface (s.left result adminResult) message description).2 =
        (describeInterface s message description).2 ∧
      (describeInterface (s.left result adminResult) message description).1.cache =
        (describeInterface s message description).1.cache := by
  cases description with
  | none => simp only [describeInterface, remember_events, remember_cache, MqttState.left,
      clearResult, true_and]
  | some description => simp only [describeInterface, remember_events, remember_cache,
      MqttState.left, clearResult, true_and]

/-- A control command that is carried out in time overwrites the buffer. -/
theorem submitCommand_left (written : ControlResult) (fits : written.Fits) :
    (submitCommand (s.left result adminResult) message (.executed written fits)).2 =
        (submitCommand s message (.executed written fits)).2 ∧
      (submitCommand (s.left result adminResult) message (.executed written fits)).1.cache =
        (submitCommand s message (.executed written fits)).1.cache := by
  simp [submitCommand, SubmitOutcome.write, remember_events, remember_cache, MqttState.left]

theorem submitCommand_answers (s : MqttState) (message : CommandMessage)
    (h : ∀ written fits, outcome ≠ .executed written fits) :
    .answered (answerOf message s.result) ∈ (submitCommand s message outcome).2 := by
  have hwrite : outcome.write s.result = s.result := by
    cases outcome with
    | executed written fits => exact absurd rfl (h written fits)
    | noSlot => rfl
    | queueTimeout => rfl
    | waitTimeout carriedOut => rfl
    | notStarted => rfl
  unfold submitCommand
  rw [hwrite]
  exact List.mem_append_right _ List.mem_cons_self

theorem submitCommand_answered {answer : Answer}
    (h : .answered answer ∈ (submitCommand s message outcome).2) :
    answer = answerOf message (outcome.write s.result) := by
  unfold submitCommand MqttState.remember at h
  rcases List.mem_append.1 h with hexecuted | hrest
  · split at hexecuted
    · cases List.mem_singleton.1 hexecuted
    · exact nomatch hexecuted
  rcases List.mem_cons.1 hrest with heq | hremembered
  · exact MqttEvent.answered.inj heq
  split at hremembered
  · exact nomatch hremembered
  · cases List.mem_singleton.1 hremembered

/-! ### Steps and runs -/

theorem processCommandMessage_submits (h : Submits s message) :
    processCommandMessage s message io = submitCommand s message io.submit := by
  rcases h with ⟨hvalid, hfind, hcommand⟩
  unfold processCommandMessage
  rw [hvalid, hfind]
  simp [if_neg hcommand]

theorem processCommandMessage_left
    (h : Submits s message → ∃ written fits, io.submit = .executed written fits) :
    (processCommandMessage (s.left result adminResult) message io).2 =
        (processCommandMessage s message io).2 ∧
      (processCommandMessage (s.left result adminResult) message io).1.cache =
        (processCommandMessage s message io).1.cache := by
  by_cases hsubmits : Submits s message
  · obtain ⟨written, fits, hwritten⟩ := h hsubmits
    rw [processCommandMessage_submits hsubmits,
      processCommandMessage_submits (s := s.left result adminResult) hsubmits, hwritten]
    exact submitCommand_left written fits
  have hcache : (s.left result adminResult).cache = s.cache := rfl
  unfold processCommandMessage
  rw [hcache]
  split
  · exact ⟨rfl, rfl⟩
  rename_i hvalid
  cases hfind : duplicateFind s.cache message.requestId with
  | some duplicate => exact ⟨rfl, rfl⟩
  | none =>
    dsimp only
    split
    · exact describeInterface_left io.description
    rename_i hcommand
    refine absurd ⟨?_, hfind, hcommand⟩ hsubmits
    simpa only [Bool.not_eq_true', Bool.not_eq_false] using hvalid

/-- A submit that the control task does not carry out in time gives the buffer
    away: with another result in it the answer is another one. -/
theorem submitCommand_leaks (s : MqttState) (message : CommandMessage)
    (h : ∀ written fits, outcome ≠ .executed written fits) :
    ∃ left, (submitCommand (s.left left s.adminResult) message outcome).2 ≠
      (submitCommand s message outcome).2 := by
  refine ⟨{ status := s.result.status ++ "?" }, fun heq => ?_⟩
  have hmem := submitCommand_answers
    (s.left { status := s.result.status ++ "?" } s.adminResult) message h
  rw [heq] at hmem
  have hanswer := submitCommand_answered hmem
  have hown := submitCommand_answered (submitCommand_answers s message h)
  have hstatus := congrArg Answer.status (hanswer.trans hown.symm)
  have hlength := congrArg String.length hstatus
  simp only [answerOf, MqttState.left, String.length_append] at hlength
  have hone : ("?" : String).length = 1 := rfl
  omega

theorem ownAnswers_iff (s : MqttState) (op : MqttOp) : OwnAnswers s op ↔ Submitted s op := by
  cases op with
  | data event io =>
    refine ⟨fun _ => trivial, fun _ result adminResult => ?_⟩
    simp only [mqttStep, handleData_left, true_and]
    rfl
  | deferred =>
    refine ⟨fun _ => trivial, fun _ result adminResult => ?_⟩
    have hqueue : (s.left result adminResult).resultQueue = s.resultQueue := rfl
    simp only [mqttStep, hqueue]
    cases s.resultQueue with
    | nil => exact ⟨rfl, rfl⟩
    | cons deferred rest => exact ⟨rfl, rfl⟩
  | disconnect => exact ⟨fun _ => trivial, fun _ result adminResult => ⟨rfl, rfl⟩⟩
  | admin io =>
    refine ⟨fun _ => trivial, fun _ result adminResult => ?_⟩
    have hqueue : (s.left result adminResult).adminQueue = s.adminQueue := rfl
    simp only [mqttStep, hqueue]
    cases s.adminQueue with
    | nil => exact ⟨rfl, rfl⟩
    | cons message rest =>
      exact processAdminCommandMessage_left (s := { s with adminQueue := rest })
  | command io =>
    constructor
    · intro hown message rest hqueue hsubmits
      cases hsubmit : io.submit with
      | executed result fits => exact ⟨result, fits, rfl⟩
      | _ =>
        -- The answer would be the same for every buffer.
        have hlate : ∀ written fits, io.submit ≠ .executed written fits := by
          intro written fits heq
          rw [hsubmit] at heq
          cases heq
        obtain ⟨left, hleak⟩ :=
          submitCommand_leaks { s with commandQueue := rest } message hlate
        refine absurd ?_ hleak
        have hstep := (hown left s.adminResult).1
        have hleft : (s.left left s.adminResult).commandQueue = message :: rest := hqueue
        simp only [mqttStep, hqueue, hleft] at hstep
        rw [processCommandMessage_submits (s := { s with commandQueue := rest }) hsubmits]
          at hstep
        rw [processCommandMessage_submits
          (s := { s.left left s.adminResult with commandQueue := rest }) hsubmits] at hstep
        exact hstep
    · intro hsubmitted result adminResult
      have hleft : (s.left result adminResult).commandQueue = s.commandQueue := rfl
      simp only [mqttStep, hleft]
      cases hqueue : s.commandQueue with
      | nil => exact ⟨rfl, rfl⟩
      | cons message rest =>
        exact processCommandMessage_left (s := { s with commandQueue := rest })
          (hsubmitted message rest hqueue)

/-! ### A run that gives an answer away -/

/-- A control command as it arrives. -/
def commandEvent (requestId command : String) : DataEvent :=
  let data :=
    "\x7b\"request_id\":\"" ++ requestId ++ "\",\"command\":\"" ++ command ++ "\"\x7d"
  { data := data, totalDataLen := data.length }

/-- Two commands. The first is carried out. When the second is taken, every request
    to the control task is in use. -/
def leakingRun : List MqttOp :=
  [.data (commandEvent "a" "relay.get") {}, .data (commandEvent "b" "relay.get") {},
    .command { submit :=
      .executed { status := "done", dataJson := "\x7b\"on\":true\x7d" } (by decide) },
    .command { submit := .noSlot }]

/-- The second command is answered and remembered as done, with the data of the
    first. -/
theorem answer_of_other_command : ¬EachStep OwnAnswers {} leakingRun ∧
      .answered { requestId := "b", command := "relay.get", status := "done", errorCode := "",
                  dataJson := "\x7b\"on\":true\x7d" } ∈ (mqttRun {} leakingRun).2 ∧
      .remembered { requestId := "b", command := "relay.get", status := "done",
                    errorCode := "" } ∈ (mqttRun {} leakingRun).2 := by
  refine ⟨fun hown => ?_, by decide +kernel, by decide +kernel⟩
  have hsubmitted := (EachStep.congr ownAnswers_iff leakingRun).1 hown
  obtain ⟨result, fits, hresult⟩ := hsubmitted.2.2.2.1
    { valid := true, requestId := "b", command := "relay.get", argsJson := "\x7b\x7d" } []
    (by decide +kernel) (by decide +kernel)
  cases hresult

/-- In a run of the node every answer, and everything remembered, is the command's
    own exactly if every control command that is taken is carried out in time. -/
theorem own_answers_iff (ops : List MqttOp) :
    EachStep OwnAnswers {} ops ↔ EachStep Submitted {} ops :=
  EachStep.congr ownAnswers_iff ops

end SceneHub.Node
