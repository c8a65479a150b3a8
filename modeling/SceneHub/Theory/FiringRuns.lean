import SceneHub.Theory.Firing

/-!
# Reactions Fire as Configured

Runs of one reaction: the calls made on it one after another, each at a time
and around whatever the other branches left. `shots` lists the fires of such a
run. The counters agree with that list all along, by induction on the calls.

The pause between fires needs its length to fit half the clock: the end of a
cooldown is compared by a signed difference of 32 bits, and a longer cooldown is
over at once. It also must not end at zero, which stands for no cooldown.

## Main definitions

* `Turn`, `turnsOn`: One call in its setting, and a run of them.
* `shots`: The fires of a run, with their times and variants.
* `Tallies`: What the counters say about the fires so far.

## Theorems

* `turn_tallies`: One call keeps the counters in agreement.
* `fires_as_configured`: Count, order, pause and occasion of fires in every run.
* `notReset_of_actions`: Which scenarios never set a reaction back.
* `roomStep_turn`: A session's steps change a branch by such calls only.
-/

namespace SceneHub

variable {e : Env} {model : ScenarioBranch} {b b' : BranchRun}

/-! ### Runs of a reaction -/

/-- A call on the branch, with what it finds around it. -/
structure Turn where
  setting : Setting
  call : BranchCall

namespace Turn

/-- The time of the call. -/
def nowMs (t : Turn) : UInt32 := t.call.time t.setting.nowMs

def before (t : Turn) (b : BranchRun) : Ctx := t.setting.ctx b

def after (e : Env) (t : Turn) (b : BranchRun) : Ctx := t.call.run e (t.before b)

end Turn

/-- What calls make of a branch. -/
def turnsOn (e : Env) : BranchRun → List Turn → BranchRun
  | b, [] => b
  | b, t :: rest => turnsOn e (t.after e b).branch rest

/-- A fire: when, and which variant. -/
structure Shot where
  nowMs : UInt32
  variantIndex : Nat
  deriving DecidableEq, Repr

/-- The fires of one call. -/
def Turn.shots (e : Env) (t : Turn) (b : BranchRun) : List Shot :=
  List.replicate (fires e (t.after e b).session - fires e (t.before b).session)
    ⟨t.nowMs, (t.after e b).branch.lastVariantIndex⟩

/-- The fires of a run, in order. -/
def shots (e : Env) : BranchRun → List Turn → List Shot
  | _, [] => []
  | b, t :: rest => t.shots e b ++ shots e (t.after e b).branch rest

/-- Every call of a run meets `C` on the branch it is made on. -/
def EachTurn (C : BranchRun → Turn → Prop) (e : Env) : BranchRun → List Turn → Prop
  | _, [] => True
  | b, t :: rest => C b t ∧ EachTurn C e (t.after e b).branch rest

instance EachTurn.decidable (C : BranchRun → Turn → Prop) [∀ b t, Decidable (C b t)] (e : Env) :
    (b : BranchRun) → (turns : List Turn) → Decidable (EachTurn C e b turns)
  | _, [] => isTrue trivial
  | b, t :: rest =>
    have := EachTurn.decidable C e (t.after e b).branch rest
    inferInstanceAs (Decidable (C b t ∧ EachTurn C e (t.after e b).branch rest))

/-- The clock does not go back, and so does not wrap. -/
def NoWrap (turns : List Turn) : Prop := (turns.map Turn.nowMs).Pairwise (· ≤ ·)

/-- The call does not set the reaction back: one that has fired still counts as
    such behind it. -/
def NotReset (e : Env) (b : BranchRun) (t : Turn) : Prop :=
  b.firedOnce = true ∨ t.shots e b ≠ [] → (t.after e b).branch.firedOnce = true

/-- A further fire fits the counter, and its cooldown does not end at zero. A
    reaction that has fired as often as it may needs neither. -/
def FireFits (e : Env) (b : BranchRun) (t : Turn) : Prop :=
  firesExhausted e b = true ∨
    (b.fireCount.toNat + 1 < 4294967296 ∧
      (e.setup.cooldownMs = 0 ∨ t.nowMs + e.setup.cooldownMs ≠ 0))

instance (e : Env) (b : BranchRun) (t : Turn) : Decidable (NotReset e b t) :=
  inferInstanceAs (Decidable (_ → _))

instance (e : Env) (b : BranchRun) (t : Turn) : Decidable (FireFits e b t) :=
  inferInstanceAs (Decidable (_ ∨ _))

/-- The call fires the reaction only where it was not under way, or was cut short
    in a timed wait, or had completed before the fire. -/
def FiresWhenFree (e : Env) (model : ScenarioBranch) (b : BranchRun) (t : Turn) : Prop :=
  t.shots e b ≠ [] → ∃ recent earlier,
    (t.after e b).session.history = recent ++ .fired e.setup.branchIndex :: earlier ∧
    t.setting.session.history <:+ earlier ∧
    (underWay b = false ∨ CutsShort model b ∨
      completions e t.setting.session < earlier.count (.completed e.setup.branchIndex))

/-- A reaction as it is when its scenario starts. -/
structure Unfired (b : BranchRun) : Prop where
  fireCount : b.fireCount = 0
  policyCursor : b.policyCursor = 0
  policyStage : b.policyStage = 0

/-! ### The counters -/

def BranchRun.counters (b : BranchRun) : Ledger where
  fireCount := b.fireCount
  firedOnce := b.firedOnce
  policyCursor := b.policyCursor
  policyStage := b.policyStage
  lastVariantIndex := b.lastVariantIndex
  cooldownUntilMs := b.cooldownUntilMs
  history := []

/-- The variant that the policy prescribes for the `i`-th fire. -/
def Prescribes (model : ScenarioBranch) (i variantIndex : Nat) : Prop :=
  (model.policyMode = .rotate → variantIndex = i % model.variantCount) ∧
  (model.policyMode = .escalate → variantIndex = min i (model.variantCount - 1))

/-- What the counters of a reaction say about its fires so far, the last call
    having been at `clock`. -/
structure Tallies (e : Env) (model : ScenarioBranch) (clock : UInt32) (past : List Shot)
    (l : Ledger) : Prop where
  count : l.fireCount.toNat = past.length
  limit : 0 < e.setup.maxFireCount → past.length ≤ e.setup.maxFireCount.toNat
  once : past ≠ [] → l.firedOnce = true
  cursor : model.policyMode = .rotate →
    l.policyCursor % model.variantCount = past.length % model.variantCount
  stage : model.policyMode = .escalate → l.policyStage = min past.length (model.variantCount - 1)
  variants : ∀ i shot, past[i]? = some shot → Prescribes model i shot.variantIndex
  spaced : past.Pairwise fun s s' => s.nowMs.toNat + e.setup.cooldownMs.toNat ≤ s'.nowMs.toNat
  /-- Once the cooldown is over, that long has passed since every fire. -/
  cooled : ∀ t, clock ≤ t → l.Cooled t →
    ∀ shot ∈ past, shot.nowMs.toNat + e.setup.cooldownMs.toNat ≤ t.toNat

variable {clock now : UInt32} {past : List Shot} {l l' : Ledger}

/-- Counters at zero agree with no fires. -/
theorem tallies_nil (hcount : l.fireCount = 0) (hcursor : l.policyCursor = 0)
    (hstage : l.policyStage = 0) : Tallies e model clock [] l where
  count := congrArg UInt32.toNat hcount
  limit := fun _ => Nat.zero_le _
  once := fun hne => absurd rfl hne
  cursor := fun _ => congrArg (· % model.variantCount) hcursor
  stage := fun _ => hstage.trans (Nat.zero_min _).symm
  variants := fun i shot hshot => by simp only [List.getElem?_nil, reduceCtorEq] at hshot
  spaced := .nil
  cooled := nofun

section

variable (h : Tallies e model clock past l)
include h

/-- What happens to the rest of the session does not matter. -/
theorem Tallies.elsewhere (history : List HistoryEvent) :
    Tallies e model clock past { l with history := history } :=
  ⟨h.count, h.limit, h.once, h.cursor, h.stage, h.variants, h.spaced, h.cooled⟩

theorem Tallies.holdsFire (hle : clock ≤ now)
    (hs : HoldsFire e now l l') : Tallies e model now past l' where
  count := by rw [hs.fireCount]; exact h.count
  limit := h.limit
  once := fun hne => by rw [hs.firedOnce]; exact h.once hne
  cursor := fun hp => by rw [hs.policyCursor]; exact h.cursor hp
  stage := fun hp => by rw [hs.policyStage]; exact h.stage hp
  variants := h.variants
  spaced := h.spaced
  cooled := by
    intro t ht hcooled shot hshot
    have hlate : clock ≤ t := UInt32.le_trans hle ht
    rcases hs.cooldown with hsame | ⟨-, hover⟩
    · unfold Ledger.Cooled at hcooled
      rw [hsame] at hcooled
      exact h.cooled t hlate hcooled shot hshot
    -- The cooldown ended in this call, so it was over at its time.
    have hnow := h.cooled now hle hover shot hshot
    have hmono : now.toNat ≤ t.toNat := UInt32.le_iff_toNat_le.1 ht
    omega

theorem Tallies.prescribes (hf : Fired e now model l l') :
    Prescribes model past.length l'.lastVariantIndex := by
  have hselected := hf.selected
  unfold Selected at hselected
  constructor
  · intro hpolicy
    simp only [hpolicy] at hselected
    rw [hselected.1]
    exact h.cursor hpolicy
  intro hpolicy
  simp only [hpolicy] at hselected
  have hstage := h.stage hpolicy
  have hcount := hf.variants
  rw [hselected.1, hstage]
  -- The stage never gets behind the last variant.
  split
  · omega
  · rfl

theorem Tallies.fired (hle : clock ≤ now)
    (hcool : e.setup.cooldownMs.toNat ≤ 2147483648) (hroom : l.fireCount.toNat + 1 < 4294967296)
    (hend : e.setup.cooldownMs = 0 ∨ now + e.setup.cooldownMs ≠ 0) (hf : Fired e now model l l') :
    Tallies e model now (past ++ [⟨now, l'.lastVariantIndex⟩]) l' := by
  have hlength : (past ++ [(⟨now, l'.lastVariantIndex⟩ : Shot)]).length = past.length + 1 :=
    List.length_append
  have hprescribed := h.prescribes hf
  have hselected := hf.selected
  unfold Selected at hselected
  have hearlier := h.cooled now hle hf.cooled
  refine ⟨?_, ?_, fun _ => hf.firedOnce, ?_, ?_, ?_, ?_, ?_⟩
  · have hcount := h.count
    rw [hf.fireCount, hlength, UInt32.toNat_add, ← hcount]
    exact Nat.mod_eq_of_lt hroom
  · intro hmax
    have hless : l.fireCount.toNat < e.setup.maxFireCount.toNat :=
      UInt32.lt_iff_toNat_lt.1 (hf.allowed hmax)
    have hcount := h.count
    omega
  · intro hpolicy
    simp only [hpolicy] at hselected
    rw [hselected.2.1, hlength, h.cursor hpolicy, Nat.mod_mod, Nat.mod_add_mod]
  · intro hpolicy
    simp only [hpolicy] at hselected
    have hvariant := hprescribed.2 hpolicy
    have hcount := hf.variants
    rw [hselected.2.1, hlength, hvariant]
    split <;> omega
  · intro i shot hshot
    by_cases hi : i < past.length
    · rw [List.getElem?_append_left hi] at hshot
      exact h.variants i shot hshot
    -- The new fire comes last.
    rw [List.getElem?_append_right (Nat.not_lt.1 hi), List.getElem?_singleton] at hshot
    split at hshot
    · next hlast =>
        have hplace : i = past.length := by omega
        cases hshot
        rw [hplace]
        exact hprescribed
    · cases hshot
  · refine List.pairwise_append.2 ⟨h.spaced, List.pairwise_singleton _ _, ?_⟩
    intro shot hshot last hlast
    rw [List.mem_singleton.1 hlast]
    exact hearlier shot hshot
  · intro t ht hcooled shot hshot
    have hmono : now.toNat ≤ t.toNat := UInt32.le_iff_toNat_le.1 ht
    rcases List.mem_append.1 hshot with hold | hnew
    · have hspaced := hearlier shot hold
      omega
    rw [List.mem_singleton.1 hnew]
    unfold Ledger.Cooled at hcooled
    rw [hf.cooldown] at hcooled
    by_cases hzero : e.setup.cooldownMs = 0
    · rw [hzero]
      exact hmono
    have hpos : 0 < e.setup.cooldownMs := by
      rw [UInt32.lt_iff_toNat_lt]
      exact Nat.pos_of_ne_zero fun h0 => hzero (UInt32.toNat_inj.1 h0)
    rw [if_pos hpos] at hcooled
    have hne := hend.resolve_left hzero
    exact Lib.due_of_reached now t e.setup.cooldownMs ht hcool (hcooled.resolve_left hne)

end

/-! ### Runs -/

theorem Turn.shots_eq (t : Turn) (b : BranchRun) (n : Nat)
    (h : (t.after e b).ledger.history.count (.fired e.setup.branchIndex) =
      (t.before b).ledger.history.count (.fired e.setup.branchIndex) + n) :
    t.shots e b = List.replicate n ⟨t.nowMs, (t.after e b).ledger.lastVariantIndex⟩ := by
  unfold Turn.shots
  have hfires : fires e (t.after e b).session = fires e (t.before b).session + n := h
  rw [hfires, Nat.add_sub_cancel_left]
  rfl

theorem HoldsFire.fires (h : HoldsFire e now l l') : l'.history.count (.fired e.setup.branchIndex) =
      l.history.count (.fired e.setup.branchIndex) := by
  rcases h.history with ⟨recent, heq, hnot⟩
  rw [heq, List.count_append, List.count_eq_zero_of_not_mem hnot, Nat.zero_add]

/-- One call keeps the tally, and fires only when the reaction is free. -/
theorem turn_tallies (hmodel : e.modelBranch = some model)
    (hcool : e.setup.cooldownMs.toNat ≤ 2147483648) (t : Turn) (b : BranchRun)
    (h : Tallies e model clock past (t.before b).ledger) (hle : clock ≤ t.nowMs)
    (hkept : NotReset e b t) (hfits : FireFits e b t) :
    Tallies e model t.nowMs (past ++ t.shots e b) (t.after e b).ledger ∧
      FiresWhenFree e model b t := by
  have hout : Outcome e t.nowMs model (MayFire e model b (t.before b).ledger)
      (t.before b).ledger (t.after e b).ledger :=
    BranchCall.outcome (c := t.before b) hmodel t.call t.setting.nowMs
  cases hout with
  | steady hs =>
    have hnone : t.shots e b = [] := t.shots_eq b 0 hs.fires
    rw [hnone, List.append_nil]
    exact ⟨h.holdsFire hle hs, fun hne => absurd hnone hne⟩
  | fired m m' before occasion fire behind =>
    have hcount : (t.after e b).ledger.history.count (.fired e.setup.branchIndex) =
        (t.before b).ledger.history.count (.fired e.setup.branchIndex) + 1 := by
      rw [behind.fires, fire.history, List.count_cons_self, before.fires]
    have hone := t.shots_eq b 1 hcount
    rw [behind.lastVariantIndex] at hone
    -- It fired, so it had not fired as often as it may.
    have hopen : ¬ firesExhausted e b = true := by
      intro hexhausted
      simp only [firesExhausted, Bool.and_eq_true, decide_eq_true_iff] at hexhausted
      have hless := fire.allowed hexhausted.1
      rw [before.fireCount] at hless
      exact UInt32.not_le.2 hless hexhausted.2
    rcases hfits.resolve_left hopen with ⟨hroom, hend⟩
    have hmid : Tallies e model t.nowMs past m := h.holdsFire hle before
    have hroom' : m.fireCount.toNat + 1 < 4294967296 := by
      rw [before.fireCount]
      exact hroom
    constructor
    · rw [hone]
      exact (hmid.fired (UInt32.le_refl _) hcool hroom' hend fire).holdsFire
        (UInt32.le_refl _) behind
    intro _
    rcases behind.history with ⟨recent, hrecent, -⟩
    rw [fire.history] at hrecent
    exact ⟨recent, m.history, hrecent, before.suffix, occasion⟩
  | reset hreset =>
    have hforgot : ¬ (t.after e b).branch.firedOnce = true := by
      rw [show (t.after e b).branch.firedOnce = false from hreset.firedOnce]
      exact Bool.false_ne_true
    have hfresh : ¬ (b.firedOnce = true ∨ t.shots e b ≠ []) := fun hor => hforgot (hkept hor)
    have hnone : t.shots e b = [] := Decidable.not_not.1 fun hne => hfresh (.inr hne)
    have hempty : past = [] := Decidable.not_not.1 fun hne => hfresh (.inl (h.once hne))
    rw [hnone, hempty]
    exact ⟨tallies_nil hreset.fireCount hreset.policyCursor hreset.policyStage,
      fun hne => absurd hnone hne⟩

theorem notReset_of_actions (hmodel : e.modelBranch = some model)
    (hnone : ∀ action ∈ e.scenario.reactiveActions, ¬ action.Resets) (turns : List Turn)
    (b : BranchRun) : EachTurn (NotReset e) e b turns := by
  induction turns generalizing b with
  | nil => trivial
  | cons t rest ih =>
    refine ⟨fun hfired => ?_, ih _⟩
    have hout : Outcome e t.nowMs model (MayFire e model b (t.before b).ledger)
        (t.before b).ledger (t.after e b).ledger :=
      BranchCall.outcome (c := t.before b) hmodel t.call t.setting.nowMs
    cases hout with
    | steady hs =>
      have hnoShot : t.shots e b = [] := t.shots_eq b 0 hs.fires
      exact hs.firedOnce.trans (hfired.resolve_right fun hne => hne hnoShot)
    | fired m m' before occasion fire behind => exact behind.firedOnce.trans fire.firedOnce
    | reset hreset =>
      rcases hreset.authored with ⟨action, hmem, hresets⟩
      exact absurd hresets (hnone action hmem)

theorem turns_tally (hmodel : e.modelBranch = some model)
    (hcool : e.setup.cooldownMs.toNat ≤ 2147483648) (turns : List Turn) (b : BranchRun)
    (h : Tallies e model clock past b.counters) (hclock : ∀ t ∈ turns, clock ≤ t.nowMs)
    (hwrap : NoWrap turns) (hkept : EachTurn (NotReset e) e b turns)
    (hfits : EachTurn (FireFits e) e b turns) :
    (∃ last, Tallies e model last (past ++ shots e b turns) (turnsOn e b turns).counters) ∧
      EachTurn (FiresWhenFree e model) e b turns := by
  induction turns generalizing b past clock with
  | nil =>
    refine ⟨⟨clock, ?_⟩, trivial⟩
    rw [shots, List.append_nil]
    exact h
  | cons t rest ih =>
    have hle : clock ≤ t.nowMs := hclock t List.mem_cons_self
    rcases turn_tallies hmodel hcool t b (h.elsewhere _) hle hkept.1 hfits.1 with ⟨hturn, hfree⟩
    have hsorted := List.pairwise_cons.1 hwrap
    have hlater : ∀ t' ∈ rest, t.nowMs ≤ t'.nowMs := fun t' ht' =>
      hsorted.1 t'.nowMs (List.mem_map_of_mem ht')
    rcases ih (t.after e b).branch (hturn.elsewhere []) hlater hsorted.2 hkept.2 hfits.2 with
      ⟨⟨last, hrest⟩, hfreeRest⟩
    refine ⟨⟨last, ?_⟩, hfree, hfreeRest⟩
    rw [shots, ← List.append_assoc]
    exact hrest

/-- In every run of a reaction from its start that never sets it back, on a clock
    that does not wrap: the counter is the number of fires and is at most the
    limit, if there is one; rotation and escalation take the variants in their
    order; any two fires are at least the cooldown apart; and a reaction is fired
    only when it was not under way, or was cut short in a timed wait, or had
    completed. The cooldown must fit half the clock and never end at zero, and the
    number of fires must fit the counter. -/
theorem fires_as_configured (hmodel : e.modelBranch = some model) (hstart : Unfired b)
    (turns : List Turn) (hkept : EachTurn (NotReset e) e b turns) (hwrap : NoWrap turns)
    (hcool : e.setup.cooldownMs.toNat ≤ 2147483648) (hfits : EachTurn (FireFits e) e b turns) :
    (turnsOn e b turns).fireCount.toNat = (shots e b turns).length ∧
    (0 < e.setup.maxFireCount → (turnsOn e b turns).fireCount ≤ e.setup.maxFireCount) ∧
    (∀ i shot, (shots e b turns)[i]? = some shot → Prescribes model i shot.variantIndex) ∧
    ((shots e b turns).Pairwise fun s s' =>
      s.nowMs.toNat + e.setup.cooldownMs.toNat ≤ s'.nowMs.toNat) ∧
    EachTurn (FiresWhenFree e model) e b turns := by
  have hzero : Tallies e model 0 [] b.counters :=
    tallies_nil hstart.fireCount hstart.policyCursor hstart.policyStage
  have hclock : ∀ t ∈ turns, 0 ≤ t.nowMs := fun t _ => UInt32.zero_le
  rcases turns_tally hmodel hcool turns b hzero hclock hwrap hkept hfits with
    ⟨⟨last, htally⟩, hfree⟩
  rw [List.nil_append] at htally
  refine ⟨htally.count, fun hmax => ?_, htally.variants, htally.spaced, hfree⟩
  rw [UInt32.le_iff_toNat_le]
  exact Nat.le_trans (Nat.le_of_eq htally.count) (htally.limit hmax)

/-- A step on a session leaves a branch alone, is a call on it, or clears the
    branches. So the runs of a reaction are runs of calls. -/
theorem roomStep_turn {C : CallCond} {r r' : RoomCtx} (h : RoomStep C r r') (j : Nat)
    (branch : Branch) (hb : r.session.branches[j]? = some branch) :
    r'.session.branches = [] ∨ r'.session.branches[j]? = some branch ∨
      ∃ t : Turn, r'.session.branches[j]? =
        some ⟨branch.setup, (t.after (r.env branch) branch.run).branch⟩ := by
  cases h with
  | branch i b call hcall hC =>
    by_cases hij : i = j
    · subst hij
      have hlt : i < r.session.branches.length := (List.getElem?_eq_some_iff.mp hb).1
      rw [hb] at hcall
      cases hcall
      refine .inr (.inr ⟨⟨⟨0, r.lock, r.session.run, r.plan⟩, call⟩, ?_⟩)
      exact List.getElem?_set_self hlt
    · exact .inr (.inl ((List.getElem?_set_ne hij).trans hb))
  | clearBranches => exact .inl rfl
  | init scenario prepared branches hinit hnone =>
    rw [hnone] at hb
    cases hb
  | fields session hbranches =>
    refine .inr (.inl ?_)
    rw [show ({ r with session := session } : RoomCtx).session.branches = r.session.branches
      from hbranches]
    exact hb
  | _ => exact .inr (.inl hb)

/-! ### A gong -/

/-- A reaction that an operator's event fires, with a message as its action. -/
def gongScenario (policyMode : PolicyMode) (variantCount : Nat) (cooldownMs : UInt32) :
    RoomScenario :=
  { id := "gong"
    roomId := "r"
    steps := [{ body := .waitTime ⟨60000, .continue⟩ }]
    reactiveVariants := [⟨0, 1⟩, ⟨1, 1⟩]
    reactiveActions := [.showOperatorMessage "ding", .showOperatorMessage "dong"]
    branches :=
      [{ id := "main", requiredForCompletion := true, stepStartIndex := 0, stepCount := 1 },
        { id := "gong", type := .reactive, policyMode := policyMode, cooldownMs := cooldownMs
          trigger := { kind := .operatorEvent, operatorEvent := "ring" }
          variantCount := variantCount, stepStartIndex := 1 }] }

def ringEvent : Event := { type := .webCommand, payload := "ring" }

def gongSession (cooldownMs : UInt32) (events : List Op) : Session :=
  ((runOps (World.boot 1)
    ([.start "r" 1000 5, .scenarioStart "r" (gongScenario .single 1 cooldownMs) {} 0 none 10] ++
      events)).sessions[0]?).getD {}

def gongBranch (cooldownMs : UInt32) (events : List Op) : Branch :=
  ((gongSession cooldownMs events).branches[1]?).getD ⟨{}, {}⟩

/-- A gong that alternates, in front of an operator. -/
def gongEnv : Env :=
  { roomId := "r"
    scenario := gongScenario .rotate 2 100
    prepared := {}
    setup := { type := .reactive, cooldownMs := 100, branchIndex := 1, stepStartIndex := 1 } }

def gongRun : BranchRun := { progress := { scenarioState := .waiting, currentStepIndex := 1 } }

/-- The gong is rung at 20, too early at 50, and again at 200. -/
def gongTurns : List Turn :=
  [20, 50, 60, 130, 200].map fun nowMs =>
    ⟨⟨nowMs, {}, {}, none⟩,
      if nowMs = 60 ∨ nowMs = 130 then .tick nowMs else .event ringEvent true nowMs⟩

/-- Of three rings the second is within the cooldown, and the two fires alternate. -/
theorem fires_as_configured_gong : shots gongEnv gongRun gongTurns = [⟨20, 0⟩, ⟨200, 1⟩] ∧
    (turnsOn gongEnv gongRun gongTurns).fireCount.toNat = 2 ∧
    EachTurn (FiresWhenFree gongEnv ((gongScenario .rotate 2 100).branches[1])) gongEnv gongRun
      gongTurns := by
  have hshots : shots gongEnv gongRun gongTurns = [⟨20, 0⟩, ⟨200, 1⟩] := by decide +kernel
  have hrun := fires_as_configured (e := gongEnv) (b := gongRun) rfl ⟨rfl, rfl, rfl⟩ gongTurns
    (by decide +kernel) (by unfold NoWrap; decide +kernel) (by decide) (by decide +kernel)
  refine ⟨hshots, ?_, hrun.2.2.2.2⟩
  rw [hrun.1, hshots]
  rfl

/-- A gong with a cooldown of fifty minutes is rung twice within ten milliseconds,
    and fires both times. -/
theorem long_cooldown_is_none : (gongBranch 3000000000 []).setup.cooldownMs = 3000000000 ∧
    (gongBranch 3000000000 [.event ringEvent 20]).run.fireCount = 1 ∧
    (gongBranch 3000000000 [.event ringEvent 20, .event ringEvent 30]).run.fireCount = 2 := by
  decide +kernel

end SceneHub
