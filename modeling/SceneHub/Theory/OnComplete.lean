import SceneHub.Storage.Running
import SceneHub.Storage.Validation
import SceneHub.Theory.FlagEvents
import SceneHub.Theory.StalePlans

/-!
# What a Reaction Does When It Completes

A reaction that finishes runs its list of completing actions in one go. The
check of a stored scenario admits five kinds of actions in that list. The
completion knows two of them, flags and messages, which are done at once. The
others it passes over: no command is planned, and no time goes by.

## Main definitions

* `completing`: The completing actions of a branch.
* `Performed`: The actions have been done one after the other, and how long
  that takes.
* `Immediate`: A flag or a message.
* `SetsFit`: There is room for every flag that is set.

## Theorems

* `completing_accepted`: What the check admits.
* `completionLoop_immediate`: Flags and messages are done.
* `performed_immediate`: Nothing else can be done at once.
* `on_complete_iff`: When every completing action takes effect.
-/

namespace SceneHub

variable {model : ScenarioBranch} {s : Stored.Scenario}

def completing (e : Env) (model : ScenarioBranch) : List ActionBody :=
  (e.scenario.reactiveActions.drop model.onCompleteActionStartIndex).take
    model.onCompleteActionCount

/-- The actions have been done one after the other, as a reaction does them, in
    so many milliseconds. Those the check refuses have no rule. -/
inductive Performed (e : Env) (nowMs : UInt32) : List ActionBody → Ctx → Nat → Ctx → Prop
  | done (c : Ctx) : Performed e nowMs [] c 0 c
  | setFlag {flag : Flag} {rest : List ActionBody} {c c₁ c₂ : Ctx} {t : Nat}
      (h : c.setFlag flag = (.ok, c₁)) (hrest : Performed e nowMs rest c₁ t c₂) :
      Performed e nowMs (.setFlag flag :: rest) c t c₂
  | message {message : String} {rest : List ActionBody} {c c₂ : Ctx} {t : Nat}
      (hrest : Performed e nowMs rest (c.setMessage message) t c₂) :
      Performed e nowMs (.showOperatorMessage message :: rest) c t c₂
  | command {command : DeviceCommand} {rest : List ActionBody} {c c₂ : Ctx} {t : Nat}
      (hrest : Performed e nowMs rest (planReactiveCommand e .reactiveAction nowMs c).save t c₂) :
      Performed e nowMs (.deviceCommand command :: rest) c t c₂
  | commandGroup {mode : GroupMode} {startIndex count : Nat} {rest : List ActionBody}
      {c c₂ : Ctx} {t : Nat}
      (hrest : Performed e nowMs rest
        (planReactiveCommand e .reactiveActionGroup nowMs c).save t c₂) :
      Performed e nowMs (.deviceCommandGroup mode startIndex count :: rest) c t c₂
  | waitTime {wait : WaitTime} {rest : List ActionBody} {c c₂ : Ctx} {t : Nat}
      (hrest : Performed e nowMs rest c t c₂) :
      Performed e nowMs (.waitTime wait :: rest) c (wait.durationMs.toNat + t) c₂

/-- The completion goes well, and every action has been done by its end. -/
def OnCompleteDone (e : Env) (model : ScenarioBranch) (nowMs : UInt32) (c : Ctx) : Prop :=
  ∃ c', applyCompletion e model c = (.ok, c') ∧
    Performed e nowMs (completing e model) c 0 c'

/-- An action that is done at once. -/
def Immediate : ActionBody → Prop
  | .setFlag _ | .showOperatorMessage _ => True
  | _ => False

/-- There is room for a flag: among those of the session if it is new, and for
    its event if it changes. -/
def SetFits (l : Lock) (flags : List Flag) (f : Flag) : Prop :=
  getFlag flags f.name ≠ some f.value →
    (getFlag flags f.name = none → flags.length < scenarioMaxFlags) ∧ EventFits l f.name

/-- There is room for every flag that is set, when its turn comes. -/
def SetsFit : List ActionBody → Ctx → Prop
  | [], _ => True
  | .setFlag flag :: rest, c =>
    SetFits c.lock c.session.scenarioFlags flag ∧ SetsFit rest (c.setFlag flag).2
  | .showOperatorMessage message :: rest, c => SetsFit rest (c.setMessage message)
  | _ :: rest, c => SetsFit rest c

/-! ### What the check admits -/

/-- The kinds of completing actions that pass the check, with what it asks of them. -/
def Admitted : ActionBody → Prop
  | .setFlag flag => flag.name ≠ ""
  | .waitTime wait => 0 < wait.durationMs
  | .showOperatorMessage _ | .deviceCommand _ | .deviceCommandGroup _ _ _ => True
  | _ => False

theorem slice_eq_some {α : Type} {items out : List α} {start count : Nat}
    (h : Stored.slice items start count = some out) :
    start + count ≤ items.length ∧ out = (items.drop start).take count := by
  unfold Stored.slice at h
  split at h
  · cases h
  · next hlt =>
      cases h
      exact ⟨Nat.not_lt.1 hlt, rfl⟩

theorem admitted_of_valid {action : Stored.Action} (hcontrol : action.data.isControl = false)
    (hvalid : Stored.validReactiveAction s action = true) : Admitted action.running := by
  unfold Stored.validReactiveAction at hvalid
  unfold Stored.Action.running Stored.ActionData.running Admitted
  cases hdata : action.data with
  | waitTime wait | setFlag flag =>
    rw [hdata] at hvalid
    exact of_decide_eq_true hvalid
  | failReaction | resetReaction =>
    rw [hdata] at hcontrol
    cases hcontrol
  | showOperatorMessage _ | deviceCommand _ | deviceCommandGroup _ _ _ => trivial
  | operatorApproval | waitDeviceEvent _ | waitFlags _ | waitAnyDeviceEvent _
  | waitAllDeviceEvents _ | endGame =>
    rw [hdata] at hvalid
    cases hvalid

theorem Stored.validateBranch_of_structural (h : s.validateStructural = .ok)
    {branch : Stored.Branch} (hmem : branch ∈ s.branches) :
    Stored.validateBranch s branch = .ok := by
  unfold Stored.Scenario.validateStructural at h
  iterate 6
    split at h
    · cases h
  split at h
  · next err hfind =>
      have hne := List.find?_some hfind
      exact absurd h (of_decide_eq_true hne)
  · next hfind =>
      rw [List.find?_eq_none] at hfind
      have hok := hfind _ (List.mem_map_of_mem hmem)
      simpa using hok

/-- The completing actions of a checked scenario are in range, and of the five kinds. -/
theorem completing_accepted (hvalid : s.validateStructural = .ok) {e : Env}
    (hscenario : e.scenario = s.running) (hmodel : e.modelBranch = some model) :
    model.onCompleteActionStartIndex + model.onCompleteActionCount ≤
        e.scenario.reactiveActions.length ∧
      ∀ action ∈ completing e model, Admitted action := by
  unfold Env.modelBranch at hmodel
  rw [Option.filter_eq_some_iff, hscenario] at hmodel
  rcases hmodel with ⟨hget, hv2⟩
  have hget' : (s.branches.map Stored.Branch.running)[e.setup.branchIndex]? = some model := hget
  rw [List.getElem?_map, Option.map_eq_some_iff] at hget'
  rcases hget' with ⟨branch, hbranch, rfl⟩
  have hcheck := Stored.validateBranch_of_structural hvalid (List.mem_of_getElem? hbranch)
  have hkinds : branch.type = .reactive ∧ branch.isReactiveV2 = true := by
    unfold ScenarioBranch.isReactiveV2 at hv2
    rw [Bool.and_eq_true] at hv2
    refine ⟨of_decide_eq_true hv2.1, ?_⟩
    unfold Stored.Branch.isReactiveV2
    rw [Bool.or_eq_true]
    rcases Bool.or_eq_true _ _ ▸ hv2.2 with hcount | hkind
    · exact Or.inl (decide_eq_true (Nat.pos_of_ne_zero (of_decide_eq_true hcount)))
    · exact Or.inr hkind
  unfold Stored.validateBranch at hcheck
  split at hcheck
  · cases hcheck
  split at hcheck
  · cases hcheck
  rw [if_neg (fun hne => hne hkinds.1), if_pos hkinds.2] at hcheck
  split at hcheck
  · next hreaction =>
      unfold Stored.validReactiveBranchV2 at hreaction
      rw [Bool.and_eq_true, Option.any_eq_true] at hreaction
      rcases hreaction.2 with ⟨actions, hslice, hall⟩
      rcases slice_eq_some hslice with ⟨hrange, rfl⟩
      unfold completing
      rw [hscenario]
      constructor
      · have hlen : (s.running).reactiveActions.length = s.reactiveActions.length :=
          List.length_map ..
        rw [hlen]
        exact hrange
      intro action haction
      have hmap : action ∈ ((s.reactiveActions.drop
          branch.reaction.onCompleteActionStartIndex).take
            branch.reaction.onCompleteActionCount).map Stored.Action.running := by
        rw [List.map_take, List.map_drop]
        exact haction
      rcases List.mem_map.1 hmap with ⟨stored, hstored, rfl⟩
      have hpass := List.all_eq_true.1 hall stored hstored
      rw [Bool.and_eq_true, Bool.not_eq_true'] at hpass
      exact admitted_of_valid hpass.1 hpass.2
  · cases hcheck

/-! ### What a completion does -/

theorem setFits_iff (c : Ctx) {flag : Flag} (hname : flag.name ≠ "") :
    (c.setFlag flag).1 = .ok ↔ SetFits c.lock c.session.scenarioFlags flag := by
  have hout : (c.setFlag flag).1 =
      (setFlag c.lock c.session.scenarioFlags flag.name flag.value).1 := rfl
  rw [hout]
  unfold SetFits
  by_cases hw : Writes c.session.scenarioFlags flag
  · rw [setFlag_writes _ _ _ hw]
    by_cases hfits : EventFits c.lock flag.name
    · rw [deferFlagEvent_fits _ _ hfits]
      exact ⟨fun _ _ => ⟨hw.2.2, hfits⟩, fun _ => rfl⟩
    have hne : EspErr.noMem ≠ .ok := by decide
    rw [deferFlagEvent_full _ _ hfits]
    exact ⟨fun hc => absurd hc hne, fun hc => absurd (hc hw.2.1).2 hfits⟩
  unfold setFlag
  rw [if_neg hname]
  unfold Writes getFlag at hw
  unfold getFlag
  rw [if_neg hname] at hw ⊢
  cases hfind : c.session.scenarioFlags.find? fun g => g.name = flag.name with
  | some g =>
    -- the flag has the value already
    rw [hfind] at hw
    have hvalue : g.value = flag.value := by simpa [hname] using hw
    simp [hvalue]
  | none =>
    -- the flags of the session are full
    rw [hfind] at hw
    have hfull : scenarioMaxFlags ≤ c.session.scenarioFlags.length := by
      simpa [hname] using hw
    have hne : EspErr.noMem ≠ .ok := by decide
    simp only [if_pos hfull]
    refine ⟨fun hc => absurd hc hne, fun hc => ?_⟩
    have hroom := (hc (by simp)).1 rfl
    omega

theorem completionLoop_activations (actions : List ActionBody) (c : Ctx) :
    (completionLoop actions c).2.lock.activations = c.lock.activations := by
  have hset : ∀ (c : Ctx) (flag : Flag),
      (c.setFlag flag).2.lock.activations = c.lock.activations := fun c flag =>
    setFlag_activations c.lock c.session.scenarioFlags flag.name flag.value
  fun_induction completionLoop actions c with
  | case1 c => rfl
  | case2 c flag rest c₁ hok ih =>
    have h := hset c flag
    rw [hok] at h
    exact ih.trans h
  | case3 c flag rest err c₁ _ hout =>
    have h := hset c flag
    rw [hout] at h
    exact h
  | case4 c message rest ih => exact ih
  | case5 c action rest _ _ ih => exact ih

/-- Flags and messages are done, as long as there is room for the flags. -/
theorem completionLoop_immediate (e : Env) (nowMs : UInt32) (actions : List ActionBody) (c : Ctx)
    (hadmitted : ∀ action ∈ actions, Admitted action)
    (himmediate : ∀ action ∈ actions, Immediate action) (hfits : SetsFit actions c) :
    ∃ c', completionLoop actions c = (.ok, c') ∧ Performed e nowMs actions c 0 c' := by
  induction actions generalizing c with
  | nil => exact ⟨c, rfl, .done c⟩
  | cons action rest ih =>
    have hadmitted' := fun a ha => hadmitted a (.tail _ ha)
    have himmediate' := fun a ha => himmediate a (.tail _ ha)
    have hfirst := himmediate action List.mem_cons_self
    cases action with
    | setFlag flag =>
      have hname : flag.name ≠ "" := hadmitted _ List.mem_cons_self
      have hok := (setFits_iff c hname).2 hfits.1
      rcases ih (c.setFlag flag).2 hadmitted' himmediate' hfits.2 with ⟨c', hloop, hperformed⟩
      have hpair : c.setFlag flag = (.ok, (c.setFlag flag).2) := Prod.ext hok rfl
      refine ⟨c', ?_, .setFlag hpair hperformed⟩
      rw [completionLoop, hpair]
      exact hloop
    | showOperatorMessage message =>
      rcases ih (c.setMessage message) hadmitted' himmediate' hfits with
        ⟨c', hloop, hperformed⟩
      exact ⟨c', hloop, .message hperformed⟩
    | _ => exact absurd hfirst id

theorem planReactiveCommand_activations (e : Env) (kind : PlanKind) (nowMs : UInt32) (c : Ctx) :
    (planReactiveCommand e kind nowMs c).save.lock.activations = c.lock.activations + 1 := by
  have hclear : ((c.setState .waiting).clearWait).lock.activations = c.lock.activations :=
    cancelWait_activations _ _
  exact congrArg (· + 1) hclear

/-- Whoever has done the actions has planned at least the commands among them. -/
theorem performed_activations {e : Env} {nowMs : UInt32} {actions : List ActionBody} {c c' : Ctx}
    {t : Nat} (h : Performed e nowMs actions c t c') :
    c.lock.activations ≤ c'.lock.activations := by
  have hset : ∀ (c : Ctx) (flag : Flag),
      (c.setFlag flag).2.lock.activations = c.lock.activations := fun c flag =>
    setFlag_activations c.lock c.session.scenarioFlags flag.name flag.value
  induction h with
  | done c => exact Nat.le_refl _
  | @setFlag flag _ c _ _ _ hok _ ih =>
    have heq := hset c flag
    rw [hok] at heq
    exact heq ▸ ih
  | message _ ih => exact ih
  | @command _ _ c _ _ _ ih | @commandGroup _ _ _ _ c _ _ _ ih =>
    rw [planReactiveCommand_activations] at ih
    omega
  | waitTime _ ih => exact ih

/-- What has been done at once, without a plan, are flags and messages. -/
theorem performed_immediate {e : Env} {nowMs : UInt32} {actions : List ActionBody} {c c' : Ctx}
    (h : Performed e nowMs actions c 0 c') (hadmitted : ∀ action ∈ actions, Admitted action)
    (hplanned : c'.lock.activations = c.lock.activations) :
    (∀ action ∈ actions, Immediate action) ∧ SetsFit actions c := by
  generalize ht : 0 = t at h
  induction h with
  | done c => exact ⟨nofun, trivial⟩
  | @setFlag flag rest c c₁ c₂ t hok _ ih =>
    have heq : c₁.lock.activations = c.lock.activations := by
      have h := setFlag_activations c.lock c.session.scenarioFlags flag.name flag.value
      have h' : (c.setFlag flag).2.lock.activations = c.lock.activations := h
      rw [hok] at h'
      exact h'
    have hname : flag.name ≠ "" := hadmitted _ List.mem_cons_self
    rcases ih (fun a ha => hadmitted a (.tail _ ha)) (hplanned.trans heq.symm) ht
      with ⟨himmediate, hfits⟩
    refine ⟨?_, (setFits_iff c hname).1 (by rw [hok]), ?_⟩
    · intro action hmem
      rcases List.mem_cons.1 hmem with heq | hmem
      · rw [heq]
        trivial
      · exact himmediate action hmem
    · rw [hok]
      exact hfits
  | message hrest ih =>
    rcases ih (fun a ha => hadmitted a (.tail _ ha)) hplanned ht with
      ⟨himmediate, hfits⟩
    refine ⟨?_, hfits⟩
    intro action hmem
    rcases List.mem_cons.1 hmem with heq | hmem
    · rw [heq]
      trivial
    · exact himmediate action hmem
  | command hrest ih =>
    -- a plan has been made
    have hle := performed_activations hrest
    rw [planReactiveCommand_activations, hplanned] at hle
    omega
  | commandGroup hrest ih =>
    have hle := performed_activations hrest
    rw [planReactiveCommand_activations, hplanned] at hle
    omega
  | @waitTime wait rest c c₂ t hrest ih =>
    -- time has gone by
    have hpos : 0 < wait.durationMs := hadmitted _ List.mem_cons_self
    have hnat := UInt32.lt_iff_toNat_lt.1 hpos
    rw [UInt32.toNat_zero] at hnat
    omega

theorem applyCompletion_eq {e : Env}
    (hrange : model.onCompleteActionStartIndex + model.onCompleteActionCount ≤
      e.scenario.reactiveActions.length) (c : Ctx) :
    applyCompletion e model c = completionLoop (completing e model) c := by
  exact if_neg (by omega)

theorem onCompleteDone_immediate {e : Env} {nowMs : UInt32} {c : Ctx}
    (hrange : model.onCompleteActionStartIndex + model.onCompleteActionCount ≤
      e.scenario.reactiveActions.length)
    (hadmitted : ∀ action ∈ completing e model, Admitted action)
    (h : OnCompleteDone e model nowMs c) :
    (∀ action ∈ completing e model, Immediate action) ∧ SetsFit (completing e model) c := by
  rcases h with ⟨c', happly, hperformed⟩
  have hplanned := completionLoop_activations (completing e model) c
  rw [← applyCompletion_eq hrange, happly] at hplanned
  exact performed_immediate hperformed hadmitted hplanned

/-- Every completing action of a checked scenario takes effect, once and in order, if and
    only if all of them are flags and messages and there is room for the flags. -/
theorem on_complete_iff (s : Stored.Scenario) (hvalid : s.validateStructural = .ok) (e : Env)
    (hscenario : e.scenario = s.running) (model : ScenarioBranch)
    (hmodel : e.modelBranch = some model) (nowMs : UInt32) (c : Ctx) :
    OnCompleteDone e model nowMs c ↔
      (∀ action ∈ completing e model, Immediate action) ∧ SetsFit (completing e model) c := by
  rcases completing_accepted hvalid hscenario hmodel with ⟨hrange, hadmitted⟩
  refine ⟨onCompleteDone_immediate hrange hadmitted, ?_⟩
  rintro ⟨himmediate, hfits⟩
  rcases completionLoop_immediate e nowMs _ c hadmitted himmediate hfits with
    ⟨c', hloop, hperformed⟩
  exact ⟨c', (applyCompletion_eq hrange c).trans hloop, hperformed⟩

/-- A reaction that shows a message and completes with one action. -/
def chimeReaction (last : Stored.ActionData) : Stored.Scenario :=
  { id := "s", name := "S", roomId := "r"
    reactiveVariants := [{ id := "v", actionStartIndex := 0, actionCount := 1 }]
    reactiveActions := [{ data := .showOperatorMessage "ding" }, { data := last }]
    branches :=
      [{ id := "b", name := "B", type := .reactive
         reaction :=
          { trigger := { kind := .flagChanged, flagName := "rung" }
            variantCount := 1, onCompleteActionStartIndex := 1, onCompleteActionCount := 1 } }] }

def chimeEnv (last : Stored.ActionData) : Env :=
  { roomId := "r", scenario := (chimeReaction last).running, prepared := {}
    setup := { type := .reactive, branchIndex := 0 } }

def chimeModel (last : Stored.ActionData) : ScenarioBranch :=
  ((chimeReaction last).running.branches[0]?).getD {}

theorem chime_setsFlag :
    OnCompleteDone (chimeEnv (.setFlag ⟨"done", true⟩)) (chimeModel (.setFlag ⟨"done", true⟩)) 0
      { lock := {}, session := {}, branch := {} } := by
  refine (on_complete_iff (chimeReaction (.setFlag ⟨"done", true⟩)) (by decide +kernel) _ rfl
    _ (by decide +kernel) 0 _).2 ⟨?_, ?_, trivial⟩
  · intro action hmem
    rcases List.mem_singleton.1 hmem with rfl
    trivial
  · exact fun _ => ⟨fun _ => by decide, Or.inr (by decide)⟩

/-- Both checks pass a reaction that completes with a command, and no command is sent. -/
theorem chime_drops_command :
    (chimeReaction (.deviceCommand ⟨"lamp", "on", ""⟩)).validateStructural = .ok ∧
      (chimeReaction (.deviceCommand ⟨"lamp", "on", ""⟩)).raw.validateStatic.valid = true ∧
      ¬ OnCompleteDone (chimeEnv (.deviceCommand ⟨"lamp", "on", ""⟩))
        (chimeModel (.deviceCommand ⟨"lamp", "on", ""⟩)) 0
        { lock := {}, session := {}, branch := {} } := by
  refine ⟨by decide +kernel, by decide +kernel, fun h => ?_⟩
  have hall := (onCompleteDone_immediate (by decide +kernel) (fun action hmem => ?_) h).1
  · exact hall (.deviceCommand ⟨"lamp", "on", ""⟩) List.mem_cons_self
  · rcases List.mem_singleton.1 hmem with rfl
    trivial

end SceneHub
