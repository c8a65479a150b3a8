import Mathlib.Data.List.Nodup
import Mathlib.Data.List.ReduceOption
import SceneHub.Lib.Calls
import SceneHub.Node.RequestReply

/-!
# Replies to the Right Call

Whether a call of the rule engine or the admin control gets its own reply, over every
interleaving of the tasks and the services.

Nothing takes a request back whose call has given up. So the service handles it
later, writes the result into memory that is no longer the call's, and gives its task
a notification. If the task is in another call by then, that call takes it for its
own and returns what its memory held before: success, if it is one of the engine.

If no call gives up once its request is in the queue, and no notification is left
over where one begins, every request in a queue or with a service belongs to a task
that waits for it, and a notification is the one for the call that takes it.

## Main definitions

* `Fits`: What may happen to calls, and in which order.
* `Timely`: No call gives up on its request, and none begins with a notification.
* `flight`: The requests in the queue and with the service.
* `Inv`: Requests in flight have their tasks waiting.

## Theorems

* `inv_step`: A timely step keeps the invariant.
* `replies_own`: The calls over every run of timely steps.
-/

namespace SceneHub.Node

namespace RequestReply

open Function (update update_self update_of_ne)

variable {err : EspErr} {reply : ReplyTo}

variable {s s' : ServiceState} {task call : Nat} {service : Service}

/-! ### What is asked of the calls -/

/-- What may happen next. A result is written before its call returns. A call takes the
    notification for itself, and no other module takes one of a service. A call returns
    the result of its own request, or that the time has run out. -/
def Fits : ServiceEvent → List ServiceEvent → Prop
  | .handled _ _, _ => True
  | .wrote call _, past => ∀ err, .returned call err ∉ past
  | .took call givers, _ => givers = [.service call]
  | .tookElsewhere givers, _ => ∀ call, .service call ∉ givers
  | .returned call err, past => err = .timeout ∨ .handled call err ∈ past

def waits : Client → Bool
  | .waiting _ _ => true
  | _ => false

/-- A call begins without a notification, and does not give up while its request is in
    the queue or with the service. Another module notifies no task that is in a call,
    and a request a service handles for itself does not fail. -/
def Timely (s : ServiceState) : ServiceStep → Prop
  | .submit task _ => s.notified task = []
  | .proceed task => waits (s.clients task) = true → s.notified task ≠ []
  | .notifyGive task => s.clients task = .idle ∨ s.clients task = .elsewhere
  | .handleInline err => err = .ok
  | _ => True

instance (s : ServiceState) : (act : ServiceStep) → Decidable (Timely s act)
  | .submit task _ => inferInstanceAs (Decidable (s.notified task = []))
  | .proceed task => inferInstanceAs (Decidable (waits (s.clients task) = true → s.notified task ≠ []))
  | .notifyGive task =>
    inferInstanceAs (Decidable (s.clients task = .idle ∨ s.clients task = .elsewhere))
  | .handleInline err => inferInstanceAs (Decidable (err = .ok))
  | .serve _ _ => inferInstanceAs (Decidable True)
  | .enqueueEvent => inferInstanceAs (Decidable True)
  | .enter _ => inferInstanceAs (Decidable True)
  | .leave _ => inferInstanceAs (Decidable True)
  | .notifyTake _ => inferInstanceAs (Decidable True)

/-! ### The invariant -/

def held : Serving → List (Option ReplyTo)
  | .receiving => []
  | .handling request => [request]
  | .handled request _ => [request]
  | .written request => [request]

/-- The requests with a reply that a service has or is to have. -/
def flight (s : ServiceState) (service : Service) : List ReplyTo :=
  (held (s.serving service) ++ s.queue service).reduceOption

/-- The result of a call is there. -/
def Done (s : ServiceState) (call : Nat) : Prop := .handled call (s.replies call) ∈ s.log

/-- The call of a service that a task is in. -/
def callOf : Client → Option Nat
  | .idle => none
  | .sending _ call => some call
  | .waiting _ call => some call
  | .noticed _ call => some call
  | .elsewhere => none

/-- Where a task stands, its notifications fit. -/
def ClientOk (s : ServiceState) (task : Nat) : Client → Prop
  | .idle => ∀ call, .service call ∉ s.notified task
  | .elsewhere => ∀ call, .service call ∉ s.notified task
  | .sending _ _ => s.notified task = []
  | .waiting _ call => s.notified task = [] ∨ s.notified task = [.service call] ∧ Done s call
  | .noticed _ call => s.notified task = [] ∧ Done s call

/-- What a service knows of a request that it has handled. -/
def ServingOk (s : ServiceState) : Serving → Prop
  | .handled (some reply) err => .handled reply.call err ∈ s.log
  | .written (some reply) => Done s reply.call
  | _ => True

def eventCall : ServiceEvent → Option Nat
  | .handled call _ => some call
  | .wrote call _ => some call
  | .took call _ => some call
  | .tookElsewhere _ => none
  | .returned call _ => some call

def Ends : ServiceEvent → Prop
  | .returned _ _ => True
  | _ => False

/-- The tasks of requests in flight wait for them without a notification, and every task
    has the notifications that fit where it stands. -/
structure Inv (s : ServiceState) : Prop where
  awaited : ∀ service reply, reply ∈ flight s service →
    s.clients reply.task = .waiting service reply.call ∧ s.notified reply.task = []
  once : ∀ service, (flight s service).Nodup
  client : ∀ task, ClientOk s task (s.clients task)
  serving : ∀ service, ServingOk s (s.serving service)
  numbered : Lib.Numbered Fits eventCall Ends (callOf ∘ s.clients) s.nextCall
    s.log

/-! ### Steps of a task -/

/-- The results of calls that have begun stay as they are. -/
structure KeepsDone (s s' : ServiceState) : Prop where
  replies : ∀ call, call < s.nextCall → s'.replies call = s.replies call
  log : ∀ call err, .handled call err ∈ s.log → .handled call err ∈ s'.log

theorem KeepsDone.done (h : KeepsDone s s') (hlt : call < s.nextCall) (hdone : Done s call) :
    Done s' call := by
  unfold Done
  rw [h.replies call hlt]
  exact h.log _ _ hdone

theorem KeepsDone.client (h : KeepsDone s s') {client : Client}
    (hlt : ∀ call, callOf client = some call → call < s.nextCall)
    (hnotified : s'.notified task = s.notified task) (hok : ClientOk s task client) :
    ClientOk s' task client := by
  cases client with
  | idle | elsewhere | sending service call =>
    unfold ClientOk
    rw [hnotified]
    exact hok
  | waiting service call =>
    unfold ClientOk
    rw [hnotified]
    rcases hok with hnone | ⟨hone, hdone⟩
    · exact .inl hnone
    · exact .inr ⟨hone, h.done (hlt call rfl) hdone⟩
  | noticed service call =>
    unfold ClientOk
    rw [hnotified]
    exact ⟨hok.1, h.done (hlt call rfl) hok.2⟩

theorem Inv.reply_lt (h : Inv s) (hr : reply ∈ flight s service) : reply.call < s.nextCall := by
  have hcall : callOf (s.clients reply.task) = some reply.call := by
    rw [(h.awaited service reply hr).1]
    rfl
  exact h.numbered.call_lt reply.task reply.call hcall

theorem mem_flight_of_held (h : some reply ∈ held (s.serving service)) : reply ∈ flight s service :=
  List.reduceOption_mem_iff.2 (List.mem_append_left _ h)

theorem KeepsDone.serving (h : KeepsDone s s') (hinv : Inv s)
    (hserving : s'.serving service = s.serving service) : ServingOk s' (s'.serving service) := by
  have hok := hinv.serving service
  rw [hserving]
  cases hs : s.serving service with
  | receiving => trivial
  | handling request => trivial
  | handled request err => cases request with
    | none => trivial
    | some reply =>
      rw [hs] at hok
      exact h.log _ _ hok
  | written request => cases request with
    | none => trivial
    | some reply =>
      rw [hs] at hok
      have hheld : some reply ∈ held (s.serving service) := by
        rw [hs]
        exact .head _
      exact h.done (hinv.reply_lt (mem_flight_of_held hheld)) hok

section

variable (h : Inv s)
include h

theorem Inv.client_step (task : Nat) {client : Client}
    (hself : s'.clients task = client) (hkeeps : KeepsDone s s')
    (hclients : ∀ u, u ≠ task → s'.clients u = s.clients u)
    (hnotified : ∀ u, u ≠ task → s'.notified u = s.notified u) (hserving : s'.serving = s.serving)
    (hnone : ∀ service reply, reply ∈ flight s service → reply.task ≠ task)
    (hflight : ∀ service, flight s' service = flight s service ∨
      ∃ call, flight s' service = flight s service ++ [⟨task, call⟩] ∧
        client = .waiting service call ∧ s'.notified task = []) (hclient : ClientOk s' task client)
    (hnumbered : Lib.Numbered Fits eventCall Ends (callOf ∘ s'.clients) s'.nextCall
      s'.log) : Inv s' := by
  have hold : ∀ service reply, reply ∈ flight s service →
      s'.clients reply.task = .waiting service reply.call ∧ s'.notified reply.task = [] := by
    intro service reply hr
    rw [hclients _ (hnone service reply hr), hnotified _ (hnone service reply hr)]
    exact h.awaited service reply hr
  refine ⟨fun service reply hr => ?_, fun service => ?_, fun u => ?_, fun service => ?_, hnumbered⟩
  · rcases hflight service with hsame | ⟨call, hmore, hwaits, hhush⟩
    · rw [hsame] at hr
      exact hold service reply hr
    rw [hmore] at hr
    rcases List.mem_append.1 hr with hr | hr
    · exact hold service reply hr
    · rw [List.mem_singleton.1 hr]
      exact ⟨hself.trans hwaits, hhush⟩
  · rcases hflight service with hsame | ⟨call, hmore, -, -⟩
    · rw [hsame]
      exact h.once service
    rw [hmore]
    exact List.Nodup.append (h.once service) (List.nodup_singleton _)
      (List.disjoint_singleton.2 fun hmem => hnone service _ hmem rfl)
  · by_cases hu : u = task
    · rw [hu, hself]
      exact hclient
    · rw [hclients u hu]
      exact hkeeps.client (fun call hc => h.numbered.call_lt u call hc) (hnotified u hu) (h.client u)
  · exact hkeeps.serving h (by rw [hserving])

theorem Inv.not_in_flight (task : Nat)
    (hc : (∀ service call, s.clients task ≠ .waiting service call) ∨ s.notified task ≠ [])
    (service : Service) (reply : ReplyTo) (hr : reply ∈ flight s service) : reply.task ≠ task := by
  intro heq
  rcases h.awaited service reply hr with ⟨hwaits, hnone⟩
  rw [heq] at hwaits hnone
  rcases hc with hc | hc
  · exact hc service reply.call hwaits
  · exact hc hnone

theorem Inv.stays (task : Nat) (client : Client) (hcall : callOf client = callOf (s.clients task)) :
    Lib.Numbered Fits eventCall Ends (callOf ∘ update s.clients task client) s.nextCall
      s.log := by
  rw [Function.comp_update, hcall]
  exact (Function.update_eq_self task (callOf ∘ s.clients)).symm ▸ h.numbered

theorem Inv.returned (hcall : callOf (s.clients task) = some call)
    (hfits : err = .timeout ∨ .handled call err ∈ s.log) :
    Lib.Numbered Fits eventCall Ends (callOf ∘ update s.clients task .idle) s.nextCall
      (.returned call err :: s.log) := by
  rw [Function.comp_update]
  exact h.numbered.finish hcall hfits rfl

theorem inv_submit (htimely : s.notified task = [])
    (hs : s.submit task service = some s') : Inv s' := by
  unfold ServiceState.submit at hs
  split at hs
  · rename_i hidle
    cases hs
    refine h.client_step task (update_self _ _ _) ⟨fun call hlt => ?_, fun _ _ he => he⟩
      (fun u hu => update_of_ne hu _ _) (fun _ _ => rfl) rfl
      (h.not_in_flight task (.inl (by rw [hidle]; nofun))) (fun _ => .inl rfl) htimely ?_
    · exact update_of_ne (Nat.ne_of_lt hlt) _ _
    change Lib.Numbered Fits eventCall Ends
      (callOf ∘ update s.clients task (.sending service s.nextCall)) _ _
    rw [Function.comp_update]
    exact h.numbered.begin task
  · cases hs

theorem inv_sending (hc : s.clients task = .sending service call)
    (hs : s.proceed task = some s') : Inv s' := by
  have hcall : callOf (s.clients task) = some call := by rw [hc]; rfl
  have hnone := h.not_in_flight task (.inl (by rw [hc]; nofun))
  have hhush := h.client task
  rw [hc] at hhush
  unfold ServiceState.proceed at hs
  rw [hc] at hs
  dsimp only at hs
  split at hs
  · cases hs
    refine h.client_step task (update_self _ _ _) ⟨fun _ _ => rfl, fun _ _ he => he⟩
      (fun u hu => update_of_ne hu _ _) (fun _ _ => rfl) rfl hnone (fun other => ?_)
      (.inl hhush) (h.stays task (.waiting service call) hcall.symm)
    by_cases hother : other = service
    · refine .inr ⟨call, ?_, by rw [hother], hhush⟩
      rw [hother]
      unfold flight
      dsimp only
      rw [update_self, ← List.append_assoc, List.reduceOption_append]
      rfl
    · refine .inl ?_
      unfold flight
      dsimp only
      rw [update_of_ne hother]
      rfl
  · cases hs
    have hidle : ∀ other, .service other ∉ s.notified task := by
      rw [show s.notified task = [] from hhush]
      exact fun _ => List.not_mem_nil
    exact h.client_step task (update_self _ _ _)
      ⟨fun _ _ => rfl, fun _ _ he => .tail _ he⟩
      (fun u hu => update_of_ne hu _ _) (fun _ _ => rfl) rfl hnone (fun _ => .inl rfl)
      hidle (h.returned hcall (.inl rfl))

theorem inv_waiting (hc : s.clients task = .waiting service call)
    (htimely : s.notified task ≠ []) (hs : s.proceed task = some s') : Inv s' := by
  have hcall : callOf (s.clients task) = some call := by rw [hc]; rfl
  have hok := h.client task
  rw [hc] at hok
  rcases hok with hnone | ⟨hone, hdone⟩
  · exact absurd hnone htimely
  unfold ServiceState.proceed at hs
  rw [hc] at hs
  dsimp only at hs
  rw [if_neg htimely] at hs
  cases hs
  refine h.client_step task (update_self _ _ _)
    ⟨fun _ _ => rfl, fun _ _ he => .tail _ he⟩
    (fun u hu => update_of_ne hu _ _) (fun u hu => update_of_ne hu _ _) rfl
    (h.not_in_flight task (.inr htimely)) (fun _ => .inl rfl)
    ⟨update_self _ _ _, .tail _ hdone⟩ ?_
  refine (h.stays task (.noticed service call) hcall.symm).note (.took call (s.notified task)) hone
    (fun other heq => ?_) nofun
  cases heq
  exact h.numbered.call_lt task call hcall

theorem inv_noticed (hc : s.clients task = .noticed service call)
    (hs : s.proceed task = some s') : Inv s' := by
  have hcall : callOf (s.clients task) = some call := by rw [hc]; rfl
  have hok := h.client task
  rw [hc] at hok
  unfold ServiceState.proceed at hs
  rw [hc] at hs
  cases hs
  have hidle : ∀ other, .service other ∉ s.notified task := by
    rw [hok.1]
    exact fun _ => List.not_mem_nil
  exact h.client_step task (update_self _ _ _)
    ⟨fun _ _ => rfl, fun _ _ he => .tail _ he⟩
    (fun u hu => update_of_ne hu _ _) (fun _ _ => rfl) rfl
    (h.not_in_flight task (.inl (by rw [hc]; nofun))) (fun _ => .inl rfl) hidle
    (h.returned hcall (.inr hok.2))

/-! ### Steps of other modules -/

theorem inv_enter (hidle : s.clients task = .idle) : Inv (s.setClient task .elsewhere) := by
  have hok := h.client task
  rw [hidle] at hok
  exact h.client_step task (update_self _ _ _) ⟨fun _ _ => rfl, fun _ _ he => he⟩
    (fun u hu => update_of_ne hu _ _) (fun _ _ => rfl) rfl
    (h.not_in_flight task (.inl (by rw [hidle]; nofun))) (fun _ => .inl rfl) hok
    (h.stays task .elsewhere (by rw [hidle]; rfl))

theorem inv_leave (helse : s.clients task = .elsewhere) : Inv (s.setClient task .idle) := by
  have hok := h.client task
  rw [helse] at hok
  exact h.client_step task (update_self _ _ _) ⟨fun _ _ => rfl, fun _ _ he => he⟩
    (fun u hu => update_of_ne hu _ _) (fun _ _ => rfl) rfl
    (h.not_in_flight task (.inl (by rw [helse]; nofun))) (fun _ => .inl rfl) hok
    (h.stays task .idle (by rw [helse]; rfl))

/-- A notification of another module is no service's. -/
theorem inv_notifyGive (hc : s.clients task = .idle ∨ s.clients task = .elsewhere) :
    Inv { s with notified := update s.notified task (.other :: s.notified task) } := by
  have hok : ∀ call, .service call ∉ s.notified task := by
    have hok := h.client task
    rcases hc with hc | hc
    · rw [hc] at hok
      exact hok
    · rw [hc] at hok
      exact hok
  have hmore : ∀ call, .service call ∉
      update s.notified task (.other :: s.notified task) task := by
    intro call hmem
    rw [update_self] at hmem
    rcases List.mem_cons.1 hmem with heq | hold
    · cases heq
    · exact hok call hold
  refine h.client_step task rfl ⟨fun _ _ => rfl, fun _ _ he => he⟩ (fun _ _ => rfl)
    (fun u hu => update_of_ne hu _ _) rfl (h.not_in_flight task (.inl ?_)) (fun _ => .inl rfl)
    ?_ h.numbered
  · rcases hc with hc | hc <;> rw [hc] <;> nofun
  · rcases hc with hc | hc <;> rw [hc] <;> exact hmore

theorem inv_notifyTake (helse : s.clients task = .elsewhere) : Inv { s with
      notified := update s.notified task []
      log := .tookElsewhere (s.notified task) :: s.log } := by
  have hok := h.client task
  rw [helse] at hok
  have hnone : ∀ call, .service call ∉ update s.notified task [] task := by
    rw [update_self]
    exact fun _ => List.not_mem_nil
  exact h.client_step task helse ⟨fun _ _ => rfl, fun _ _ he => .tail _ he⟩
    (fun _ _ => rfl) (fun u hu => update_of_ne hu _ _) rfl
    (h.not_in_flight task (.inl (by rw [helse]; nofun))) (fun _ => .inl rfl) hnone
    (h.numbered.note (.tookElsewhere (s.notified task)) hok nofun nofun)

/-! ### Steps of a service -/

/-- A step that moves no task and gives no notification, and leaves the requests in
    flight. -/
theorem Inv.service_step (hclients : s'.clients = s.clients)
    (hnotified : s'.notified = s.notified) (hflight : ∀ service, flight s' service = flight s service)
    (hclient : ∀ task, ClientOk s' task (s.clients task))
    (hserving : ∀ service, ServingOk s' (s'.serving service))
    (hnumbered : Lib.Numbered Fits eventCall Ends (callOf ∘ s.clients) s'.nextCall s'.log) :
    Inv s' := by
  refine ⟨fun service reply hr => ?_, fun service => ?_, fun task => ?_, hserving, ?_⟩
  · rw [hflight] at hr
    rw [hclients, hnotified]
    exact h.awaited service reply hr
  · rw [hflight]
    exact h.once service
  · rw [hclients]
    exact hclient task
  · rw [hclients]
    exact hnumbered

/-- Where a service stands has changed, and where the others stand has not. -/
theorem serving_update (hkeeps : KeepsDone s s') {serving : Serving}
    (hserving : s'.serving = update s.serving service serving)
    (hok : ServingOk s' serving) (other : Service) : ServingOk s' (s'.serving other) := by
  by_cases hother : other = service
  · rw [hserving, hother, update_self]
    exact hok
  · exact hkeeps.serving h (by rw [hserving, update_of_ne hother])

end

theorem flight_update {serving : Serving} (hserving : s'.serving =
      update s.serving service serving)
    (hqueue : s'.queue = s.queue) (hheld : held serving = held (s.serving service))
    (other : Service) : flight s' other = flight s other := by
  unfold flight
  rw [hserving, hqueue]
  by_cases hother : other = service
  · rw [hother, update_self, hheld]
  · rw [update_of_ne hother]

section

variable (h : Inv s)
include h

theorem Inv.keeps_client (hkeeps : KeepsDone s s') (hnotified : s'.notified = s.notified)
    (task : Nat) : ClientOk s' task (s.clients task) :=
  hkeeps.client (fun call hc => h.numbered.call_lt task call hc) (by rw [hnotified]) (h.client task)

theorem inv_receive {request : Option ReplyTo} {queue : List (Option ReplyTo)}
    (hserving : s.serving service = .receiving) (hqueue : s.queue service = request :: queue) :
    Inv { s.setServing service (.handling request) with
      queue := update s.queue service queue } := by
  have hkeeps : KeepsDone s { s.setServing service (.handling request) with
      queue := update s.queue service queue } := ⟨fun _ _ => rfl, fun _ _ he => he⟩
  refine h.service_step rfl rfl (fun other => ?_) (h.keeps_client hkeeps rfl)
    (serving_update h hkeeps rfl trivial) h.numbered
  unfold flight
  change (held (update s.serving service _ other) ++
    update s.queue service queue other).reduceOption = _
  by_cases hother : other = service
  · rw [hother, update_self, update_self, hserving, hqueue]
    rfl
  · rw [update_of_ne hother, update_of_ne hother]

theorem inv_handling {request : Option ReplyTo} (hserving : s.serving service = .handling request) :
    Inv { s.setServing service (.handled request err) with
      log := (request.map fun reply => .handled reply.call err).toList ++ s.log } := by
  have hkeeps : KeepsDone s { s.setServing service (.handled request err) with
      log := (request.map fun reply => .handled reply.call err).toList ++ s.log } :=
    ⟨fun _ _ => rfl, fun _ _ he => List.mem_append_right _ he⟩
  refine h.service_step rfl rfl (flight_update rfl rfl (by rw [hserving]; rfl))
    (h.keeps_client hkeeps rfl) (serving_update h hkeeps rfl ?_) ?_
  · cases request with
    | none => trivial
    | some reply => exact .head _
  cases request with
  | none => exact h.numbered
  | some reply =>
    refine h.numbered.note (.handled reply.call err) trivial (fun call heq => ?_) nofun
    cases heq
    exact h.reply_lt (mem_flight_of_held (by rw [hserving]; exact .head _))

/-- The result is written while the task waits without a notification, so no other task
    and no other service has seen another one. -/
theorem inv_handled (hserving : s.serving service = .handled (some reply) err) :
    Inv { s.setServing service (.written (some reply)) with
      replies := update s.replies reply.call err
      log := .wrote reply.call err :: s.log } := by
  have hmem : reply ∈ flight s service :=
    mem_flight_of_held (by rw [hserving]; exact .head _)
  rcases h.awaited service reply hmem with ⟨hwaits, hnone⟩
  have hcall : callOf (s.clients reply.task) = some reply.call := by rw [hwaits]; rfl
  have hhandled := h.serving service
  rw [hserving] at hhandled
  have hothers : ∀ task call, callOf (s.clients task) = some call → task ≠ reply.task →
      call ≠ reply.call := by
    intro task call hc hne heq
    rw [heq] at hc
    exact hne (h.numbered.call_inj task reply.task reply.call hc hcall)
  have hdone : ∀ call, call ≠ reply.call → Done s call →
      Done { s.setServing service (.written (some reply)) with
        replies := update s.replies reply.call err
        log := .wrote reply.call err :: s.log } call := by
    intro call hne hd
    unfold Done
    dsimp only
    rw [update_of_ne hne]
    exact .tail _ hd
  refine h.service_step rfl rfl (flight_update rfl rfl (by rw [hserving]; rfl)) (fun task => ?_)
    (fun other => ?_) ?_
  · have hok := h.client task
    cases hc : s.clients task with
    | idle | elsewhere | sending _ _ =>
      rw [hc] at hok
      exact hok
    | waiting other call =>
      rw [hc] at hok
      rcases hok with hhush | ⟨hone, hd⟩
      · exact .inl hhush
      refine .inr ⟨hone, hdone call (hothers task call (by rw [hc]; rfl) fun heq => ?_) hd⟩
      rw [heq, hnone] at hone
      cases hone
    | noticed other call =>
      rw [hc] at hok
      refine ⟨hok.1, hdone call (hothers task call (by rw [hc]; rfl) fun heq => ?_) hok.2⟩
      rw [heq, hwaits] at hc
      cases hc
  · change ServingOk _ (update s.serving service (.written (some reply)) other)
    by_cases hother : other = service
    · rw [hother, update_self]
      change ServiceEvent.handled reply.call (update s.replies reply.call err reply.call) ∈ _
      rw [update_self]
      exact .tail _ hhandled
    rw [update_of_ne hother]
    have hok := h.serving other
    cases hs : s.serving other with
    | receiving | handling _ => trivial
    | handled request result => cases request with
      | none => trivial
      | some later =>
        rw [hs] at hok
        exact .tail _ hok
    | written request => cases request with
      | none => trivial
      | some later =>
        rw [hs] at hok
        have hlater := (h.awaited other later
          (mem_flight_of_held (by rw [hs]; exact .head _))).1
        refine hdone later.call (hothers later.task later.call (by rw [hlater]; rfl)
          fun heq => ?_) hok
        rw [heq, hwaits] at hlater
        injection hlater with hsame _
        exact hother hsame.symm
  · refine h.numbered.note (.wrote reply.call err) (fun result hret => ?_) (fun call heq => ?_) nofun
    · exact h.numbered.goes_on reply.task reply.call hcall _ hret rfl trivial
    · cases heq
      exact h.reply_lt hmem

theorem inv_written (hserving : s.serving service = .written (some reply)) :
    Inv { s.setServing service .receiving with
      notified := update s.notified reply.task
        (.service reply.call :: s.notified reply.task) } := by
  have hmem : reply ∈ flight s service :=
    mem_flight_of_held (by rw [hserving]; exact .head _)
  have honce := h.once service
  have hdone := h.serving service
  rcases h.awaited service reply hmem with ⟨hwaits, hnone⟩
  rw [hserving] at hdone
  have hflight : flight s service = reply :: (s.queue service).reduceOption := by
    unfold flight
    rw [hserving]
    rfl
  rw [hflight] at honce
  have hkeeps : KeepsDone s { s.setServing service .receiving with
      notified := update s.notified reply.task
        (.service reply.call :: s.notified reply.task) } :=
    ⟨fun _ _ => rfl, fun _ _ he => he⟩
  have hreceiving : ∀ other, held (update s.serving service .receiving other) ++
      s.queue other = if other = service then s.queue service
        else held (s.serving other) ++ s.queue other := by
    intro other
    by_cases hother : other = service
    · rw [hother, update_self, if_pos rfl]
      rfl
    · rw [update_of_ne hother, if_neg hother]
  -- The task has no other request in flight.
  have hbefore : ∀ other later, later ∈ flight { s.setServing service .receiving with
      notified := update s.notified reply.task
        (.service reply.call :: s.notified reply.task) } other →
      later ∈ flight s other ∧ later.task ≠ reply.task := by
    intro other later hlater
    change later ∈ (held (update s.serving service .receiving other) ++
      s.queue other).reduceOption at hlater
    rw [hreceiving] at hlater
    by_cases hother : other = service
    · rw [if_pos hother] at hlater
      have hold : later ∈ flight s service := by
        rw [hflight]
        exact .tail _ hlater
      refine ⟨by rw [hother]; exact hold, fun heq => ?_⟩
      have hsame := (h.awaited service later hold).1
      rw [heq, hwaits] at hsame
      injection hsame with _ hsame
      rw [ReplyTo.ext heq hsame.symm] at hlater
      exact (List.nodup_cons.1 honce).1 hlater
    · rw [if_neg hother] at hlater
      refine ⟨hlater, fun heq => ?_⟩
      have hsame := (h.awaited other later hlater).1
      rw [heq, hwaits] at hsame
      injection hsame with hsame _
      exact hother hsame.symm
  refine ⟨fun other later hlater => ?_, fun other => ?_, fun task => ?_,
    serving_update h hkeeps rfl trivial, h.numbered⟩
  · rcases hbefore other later hlater with ⟨hold, hne⟩
    rcases h.awaited other later hold with ⟨hlwaits, hlnone⟩
    exact ⟨hlwaits, (update_of_ne hne _ _).trans hlnone⟩
  · change (held (update s.serving service .receiving other) ++
      s.queue other).reduceOption.Nodup
    rw [hreceiving]
    split
    · exact (List.nodup_cons.1 honce).2
    · exact h.once other
  · by_cases htask : task = reply.task
    · rw [htask]
      change ClientOk _ reply.task (s.clients reply.task)
      rw [hwaits]
      refine .inr ⟨?_, hdone⟩
      change update s.notified reply.task _ reply.task = _
      rw [update_self, hnone]
    · exact hkeeps.client (fun call hc => h.numbered.call_lt task call hc)
        (update_of_ne htask _ _) (h.client task)

theorem inv_serve (hs : s.serve service err = some s') : Inv s' := by
  unfold ServiceState.serve at hs
  cases hserving : s.serving service with
  | receiving =>
    rw [hserving] at hs
    cases hqueue : s.queue service with
    | nil =>
      rw [hqueue] at hs
      cases hs
    | cons request queue =>
      rw [hqueue] at hs
      cases hs
      exact inv_receive h hserving hqueue
  | handling request =>
    rw [hserving] at hs
    cases hs
    exact inv_handling h hserving
  | handled request result =>
    rw [hserving] at hs
    cases request with
    | some reply =>
      cases hs
      exact inv_handled h hserving
    | none =>
      cases hs
      have hkeeps : KeepsDone s (s.setServing service (.written none)) :=
        ⟨fun _ _ => rfl, fun _ _ he => he⟩
      exact h.service_step rfl rfl (flight_update rfl rfl (by rw [hserving]; rfl))
        (h.keeps_client hkeeps rfl) (serving_update h hkeeps rfl trivial) h.numbered
  | written request =>
    rw [hserving] at hs
    cases request with
    | some reply =>
      cases hs
      exact inv_written h hserving
    | none =>
      cases hs
      have hkeeps : KeepsDone s (s.setServing service .receiving) :=
        ⟨fun _ _ => rfl, fun _ _ he => he⟩
      refine h.service_step rfl rfl (fun other => ?_) (h.keeps_client hkeeps rfl)
        (serving_update h hkeeps rfl trivial) h.numbered
      unfold flight
      change (held (update s.serving service .receiving other) ++
        s.queue other).reduceOption = _
      by_cases hother : other = service
      · rw [hother, update_self, hserving]
        rfl
      · rw [update_of_ne hother]

theorem inv_enqueueEvent : Inv { s with
    queue := update s.queue .engine (s.queue .engine ++ [none]) } := by
  have hkeeps : KeepsDone s { s with
      queue := update s.queue .engine (s.queue .engine ++ [none]) } :=
    ⟨fun _ _ => rfl, fun _ _ he => he⟩
  refine h.service_step rfl rfl (fun other => ?_) (h.keeps_client hkeeps rfl)
    (fun other => hkeeps.serving h rfl) h.numbered
  unfold flight
  dsimp only
  by_cases hother : other = .engine
  · rw [hother, update_self, ← List.append_assoc, List.reduceOption_append]
    exact List.append_nil _
  · rw [update_of_ne hother]

theorem inv_handleInline (htimely : err = .ok) : Inv (s.handleInline err) := by
  have hkeeps : KeepsDone s (s.handleInline err) :=
    ⟨fun _ _ => rfl, fun _ _ he => .tail _ (.tail _ he)⟩
  refine h.service_step rfl rfl (fun _ => rfl) (h.keeps_client hkeeps rfl)
    (fun other => hkeeps.serving h rfl) ?_
  have hnext := h.numbered.weaken (fun _ _ hc => hc) (Nat.le_succ s.nextCall)
  have hlt : ∀ call, some s.nextCall = some call → call < s.nextCall + 1 := by
    intro call heq
    cases heq
    exact Nat.lt_succ_self _
  refine (hnext.note (.handled s.nextCall err) trivial hlt nofun).note (.returned s.nextCall .ok)
    (.inr ?_) hlt fun _ task call hc heq => ?_
  · rw [htimely]
    exact .head _
  have hcall := h.numbered.call_lt task call hc
  cases heq
  exact Nat.lt_irrefl _ hcall

end

/-! ### Runs -/

theorem inv_step (s : ServiceState) (act : ServiceStep) (s' : ServiceState) (h : Inv s)
    (htimely : Timely s act) (hs : serviceStep s act = some s') : Inv s' := by
  cases act with
  | submit task service => exact inv_submit h htimely hs
  | proceed task => cases hc : s.clients task with
    | sending service call => exact inv_sending h hc hs
    | waiting service call =>
      exact inv_waiting h hc (htimely (by rw [hc]; rfl)) hs
    | noticed service call => exact inv_noticed h hc hs
    | idle | elsewhere =>
      change s.proceed task = some s' at hs
      unfold ServiceState.proceed at hs
      rw [hc] at hs
      cases hs
  | serve service err => exact inv_serve h hs
  | handleInline err =>
    cases hs
    exact inv_handleInline h htimely
  | enqueueEvent =>
    unfold serviceStep at hs
    dsimp only at hs
    split at hs
    · cases hs
      exact inv_enqueueEvent h
    · cases hs
      exact h
  | enter task =>
    unfold serviceStep at hs
    dsimp only at hs
    split at hs
    · rename_i hidle
      cases hs
      exact inv_enter h hidle
    · cases hs
  | leave task =>
    unfold serviceStep at hs
    dsimp only at hs
    split at hs
    · rename_i helse
      cases hs
      exact inv_leave h helse
    · cases hs
  | notifyGive task =>
    cases hs
    exact inv_notifyGive h htimely
  | notifyTake task =>
    unfold serviceStep at hs
    dsimp only at hs
    split at hs
    · rename_i helse
      cases hs
      exact inv_notifyTake h helse
    · cases hs

/-- When the node starts, nothing is submitted. Tasks may have notifications already. -/
def atStart (counts : Nat → Nat) (replies : Nat → EspErr) : ServiceState :=
  { notified := fun task => List.replicate (counts task) .other, replies }

theorem inv_start (counts : Nat → Nat) (replies : Nat → EspErr) : Inv (atStart counts replies) where
  awaited _ _ hr := by cases hr
  once _ := List.nodup_nil
  client _ _ hmem := by cases List.eq_of_mem_replicate hmem
  serving _ := trivial
  numbered := ⟨trivial, nofun, nofun, nofun, nofun⟩

/-- In every run of timely steps, calls return results of their own requests, nothing is
    written for a call that has returned, and no notification goes to another call. -/
theorem replies_own (counts : Nat → Nat) (replies : Nat → EspErr) (acts : List ServiceStep)
    (htimely : Lib.EachStep serviceStep Timely (atStart counts replies) acts)
    (hrun : Lib.run serviceStep (atStart counts replies) acts = some s') :
    Lib.Orderly Fits s'.log :=
  (Lib.invariant_of_run inv_step (inv_start counts replies) htimely hrun).numbered.orderly

/-- A task pauses the rules and gets its reply. -/
def onePause : List ServiceStep :=
  [.submit 0 .engine, .proceed 0, .serve .engine .ok, .serve .engine .invalidState,
    .serve .engine .ok, .serve .engine .ok, .proceed 0, .proceed 0]

theorem replies_own_pause : ∃ s',
    Lib.run serviceStep (atStart (fun _ => 0) fun _ => .ok) onePause = some s' ∧
      Lib.Orderly Fits s'.log :=
  ⟨_, rfl, replies_own _ _ onePause (by decide) rfl⟩

/-- A call gives up, and the next call of the task is in the queue when the engine comes to
    the request of the first. -/
def gaveUp : List ServiceStep :=
  [.submit 0 .engine, .proceed 0, .proceed 0, .submit 0 .engine, .proceed 0, .serve .engine .ok,
    .serve .engine .ok, .serve .engine .ok, .serve .engine .ok, .proceed 0, .proceed 0]

/-- The second call succeeds, and its request has not been handled. -/
theorem success_unhandled :
    (Lib.run serviceStep (atStart (fun _ => 0) fun _ => .ok) gaveUp).map ServiceState.log =
      some [.returned 1 .ok, .took 1 [.service 0], .wrote 0 .ok, .handled 0 .ok,
        .returned 0 .timeout] ∧
    ¬∀ counts replies acts s',
      Lib.run serviceStep (atStart counts replies) acts = some s' → Lib.Orderly Fits s'.log := by
  have hlog : (Lib.run serviceStep (atStart (fun _ => 0) fun _ => .ok) gaveUp).map
      ServiceState.log = some [.returned 1 .ok, .took 1 [.service 0], .wrote 0 .ok, .handled 0 .ok,
        .returned 0 .timeout] := by
    decide
  refine ⟨hlog, fun h => ?_⟩
  rcases Option.map_eq_some_iff.1 hlog with ⟨s', hrun, hlast⟩
  have horderly := h _ _ _ s' hrun
  rw [hlast] at horderly
  rcases horderly.1 with heq | hmem
  · cases heq
  · exact absurd hmem (by decide)

end RequestReply

end SceneHub.Node
