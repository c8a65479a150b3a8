import Mathlib.Data.List.Nodup
import SceneHub.Hub.OtaManager

/-!
# Uploads That Do Not Overlap

What becomes of the handles of the backend, and of the slot that the boot partition is
switched to.

The manager gives its mutex back for every call of the backend. Two calls that work on
one upload at the same time can both take its handle, and two calls that begin an upload
can both find none in progress. The handler of the requests keeps a mutex of its own
and makes one call after the other. For runs in which no two calls overlap that could
take one handle, a handle has one owner at a time: the task that began it, the state, or
the task that aborts it.

The size of the image is not compared with what was written, and an upload can begin when
another one is installed already. What the boot partition holds is what was accepted for
the upload that was installed last, as long as no other one has begun.

## Main definitions

* `Apart`: A call does not overlap with one that could take the same handle.
* `GivenOnce`: The backend gives no handle out twice.
* `OtaTask.holds`: The handle that is in the hands of a task.
* `Protocol`: What is asked of uploads.

## Theorems

* `Inv.step`: What a step keeps.
* `uploads_keep_protocol`: The protocol in every run whose calls do not overlap.
* `not_everyRunExact`: What other runs come to.
-/

namespace SceneHub.Hub

namespace OtaManager

open Function (update update_self update_of_ne)

variable {handle : Nat} {target : Partition}

variable {s s' : OtaManager} {t u : Nat} {p : OtaTask}

/-! ### Calls that overlap -/

/-- What a call does to an upload. -/
inductive OtaPart where
  | begin
  | write
  | finish
  | abort
  deriving DecidableEq, Repr

def OtaCall.part : OtaCall → Option OtaPart
  | .begin _ => some .begin
  | .write _ _ => some .write
  | .finish => some .finish
  | .abort => some .abort
  | .reboot => none

/-- The call a task is in. -/
def OtaTask.part : OtaTask → Option OtaPart
  | .askSlot _ | .checkBegin _ _ | .backendBegin _ _ | .failBegin _ | .commitBegin _ _ _ =>
    some .begin
  | .checkWrite _ | .backendWrite _ _ | .countWrite _ _ => some .write
  | .takeFinish | .backendEnd _ _ | .setBoot _ _ | .failFinish _ _ | .commitFinish _ _ =>
    some .finish
  | .takeAbort | .backendAbort _ => some .abort
  | .returned _ | .checkReboot | .startReboot | .failReboot => none

/-- Two calls that can take one handle, or that both begin. Any number of writes, and of
    aborts, can be under way. -/
def clash : Option OtaPart → Option OtaPart → Bool
  | some .begin, some .begin => true
  | some .write, some .finish | some .finish, some .write => true
  | some .write, some .abort | some .abort, some .write => true
  | some .finish, some .finish => true
  | some .finish, some .abort | some .abort, some .finish => true
  | _, _ => false

/-- A call does not overlap with one that it clashes with. -/
def Apart (s : OtaManager) : OtaStep → Prop
  | .call task request => ∀ other, other ≠ task →
    clash (OtaCall.part request) (OtaTask.part (s.tasks other)) = false
  | .go _ _ => True

/-- A task asks the backend for a handle. -/
def OtaTask.opens : OtaTask → Bool
  | .backendBegin _ _ => true
  | _ => false

/-- The backend gives no handle out twice. -/
def GivenOnce (s : OtaManager) : OtaStep → Prop
  | .call _ _ => True
  | .go task reply => OtaTask.opens (s.tasks task) = true → reply.err = .ok →
    reply.handle ∉ s.backend.opened.map Prod.fst

instance (s : OtaManager) : (act : OtaStep) → Decidable (GivenOnce s act)
  | .call _ _ => inferInstanceAs (Decidable True)
  | .go _ _ => inferInstanceAs (Decidable (_ → _ → _))

/-! ### Handles -/

/-- The handle in the hands of a task: one that is not yet the current upload's, or that is
    not any more. -/
def OtaTask.holds : OtaTask → Option Nat
  | .commitBegin _ _ handle => some handle
  | .backendAbort handle => some handle
  | _ => none

/-- A finish has ended the handle of the current upload. -/
def OtaTask.pastEnd : OtaTask → Bool
  | .setBoot _ _ | .failFinish _ _ | .commitFinish _ _ => true
  | _ => false

def Current (s : OtaManager) (handle : Nat) : Prop :=
  s.ota.inProgress = true ∧ s.ota.handle = handle

/-- What is asked of the uploads. -/
structure Protocol (s : OtaManager) : Prop where
  once : ∀ handle, s.backend.closed.count handle ≤ 1
  settled : ∀ handle ∈ s.backend.opened.map Prod.fst, s.backend.closed.count handle = 1 ∨
    s.Current handle ∨ ∃ task, OtaTask.holds (s.tasks task) = some handle
  writes : s.backend.lateWrites = []
  finished : ∀ entry ∈ s.finished, entry.1 ∈ s.backend.ended ∧ entry ∈ s.backend.opened
  installed : ∀ entry, s.finished.head? = some entry → s.backend.opened.head? = some entry →
    s.backend.boot = some entry.2 ∧
      s.backend.flash entry.2.label =
        { upload := some entry.1, bytes := s.backend.accepted entry.1 }

/-- What a task knows about the upload it works on. -/
def Fits (s : OtaManager) : OtaTask → Prop
  | .backendBegin _ _ => s.ota.inProgress = false
  | .commitBegin target _ handle =>
    s.ota.inProgress = false ∧ s.backend.opened.head? = some (handle, target) ∧
      handle ∉ s.backend.closed
  | .backendWrite handle _ => s.Current handle ∧ handle ∉ s.backend.closed
  | .backendEnd handle target =>
    s.Current handle ∧ s.ota.targetPartition = some target ∧ handle ∉ s.backend.closed
  | .setBoot handle target =>
    s.Current handle ∧ s.ota.targetPartition = some target ∧ handle ∈ s.backend.closed ∧
      handle ∈ s.backend.ended
  | .failFinish _ _ => s.ota.inProgress = true ∧ s.ota.handle ∈ s.backend.closed
  | .commitFinish handle target =>
    s.Current handle ∧ s.ota.targetPartition = some target ∧ handle ∈ s.backend.closed ∧
      handle ∈ s.backend.ended ∧ s.backend.boot = some target
  | .backendAbort handle =>
    handle ∈ s.backend.opened.map Prod.fst ∧ handle ∉ s.backend.closed ∧ ¬s.Current handle
  | _ => True

/-- No calls overlap that clash, every task knows what it needs to, and no handle is in the
    hands of two tasks. -/
structure TasksOk (s : OtaManager) : Prop where
  apart : ∀ t u, t ≠ u → clash (OtaTask.part (s.tasks t)) (OtaTask.part (s.tasks u)) = false
  fits : ∀ t, s.Fits (s.tasks t)
  held : ∀ t u handle, OtaTask.holds (s.tasks t) = some handle →
    OtaTask.holds (s.tasks u) = some handle → t = u

/-- What holds of the state and the backend. -/
structure StoreOk (s : OtaManager) : Prop where
  nodup : s.backend.closed.Nodup
  closed : ∀ handle ∈ s.backend.closed, handle ∈ s.backend.opened.map Prod.fst
  current : s.ota.inProgress = true → ∃ target, s.ota.targetPartition = some target ∧
    s.backend.opened.head? = some (s.ota.handle, target)
  writes : s.backend.lateWrites = []
  unwritten : ∀ handle, handle ∉ s.backend.opened.map Prod.fst → s.backend.accepted handle = 0
  flash : ∀ handle target, s.backend.opened.head? = some (handle, target) →
    s.backend.flash target.label =
      { upload := some handle, bytes := s.backend.accepted handle }
  finished : ∀ entry ∈ s.finished, entry.1 ∈ s.backend.ended ∧ entry ∈ s.backend.opened
  boot : ∀ entry, s.finished.head? = some entry → s.backend.opened.head? = some entry →
    s.backend.boot = some entry.2

/-- The invariant. A handle that is out is the current one or in the hands of a task, and the
    current one is only taken back by a finish that is still under way. -/
structure Inv (s : OtaManager) : Prop where
  tasks : s.TasksOk
  store : s.StoreOk
  settled : ∀ handle ∈ s.backend.opened.map Prod.fst, handle ∈ s.backend.closed ∨
    s.Current handle ∨ ∃ task, OtaTask.holds (s.tasks task) = some handle
  ending : s.ota.inProgress = true → s.ota.handle ∈ s.backend.closed →
    ∃ task, OtaTask.pastEnd (s.tasks task) = true

/-- The invariant is stronger than what is asked. -/
theorem Inv.protocol (h : s.Inv) : s.Protocol where
  once := fun handle => List.nodup_iff_count_le_one.1 h.store.nodup handle
  settled := fun handle hopened => (h.settled handle hopened).imp_left fun hclosed =>
    List.count_eq_one_of_mem h.store.nodup hclosed
  writes := h.store.writes
  finished := h.store.finished
  installed := fun entry hfinished hopened =>
    ⟨h.store.boot entry hfinished hopened, h.store.flash entry.1 entry.2 hopened⟩

/-! ### Turns of a task -/

theorem clash_comm (a b : Option OtaPart) : clash a b = clash b a := by
  cases a with
  | none =>
    cases b with
    | none => rfl
    | some b => cases b <;> rfl
  | some a =>
    cases b with
    | none => cases a <;> rfl
    | some b => cases a <;> cases b <;> rfl

theorem TasksOk.turn (h : s.TasksOk) (htasks : s'.tasks = update s.tasks t p)
    (hapart : ∀ u, u ≠ t → clash (OtaTask.part p) (OtaTask.part (s.tasks u)) = false)
    (hfits : s'.Fits p) (hothers : ∀ u, u ≠ t → s'.Fits (s.tasks u))
    (hheld : ∀ handle, OtaTask.holds p = some handle → ∀ u, u ≠ t →
      OtaTask.holds (s.tasks u) ≠ some handle) : s'.TasksOk where
  apart a b hab := by
    rw [htasks]
    by_cases ha : a = t
    · subst ha
      rw [update_self, update_of_ne (Ne.symm hab)]
      exact hapart b (Ne.symm hab)
    rw [update_of_ne ha]
    by_cases hb : b = t
    · subst hb
      rw [update_self, clash_comm]
      exact hapart a ha
    · rw [update_of_ne hb]
      exact h.apart a b hab
  fits a := by
    rw [htasks]
    by_cases ha : a = t
    · subst ha
      rw [update_self]
      exact hfits
    · rw [update_of_ne ha]
      exact hothers a ha
  held a b handle := by
    rw [htasks]
    by_cases ha : a = t
    · subst ha
      rw [update_self]
      by_cases hb : b = a
      · exact fun _ _ => hb.symm
      · rw [update_of_ne hb]
        exact fun hp hother => absurd hother (hheld handle hp b hb)
    rw [update_of_ne ha]
    by_cases hb : b = t
    · subst hb
      rw [update_self]
      exact fun hother hp => absurd hother (hheld handle hp a ha)
    · rw [update_of_ne hb]
      exact h.held a b handle

theorem TasksOk.apart_of_part (h : s.TasksOk) (hp : OtaTask.part p = OtaTask.part (s.tasks t) ∨
    OtaTask.part p = none) (u : Nat) (hu : u ≠ t) :
    clash (OtaTask.part p) (OtaTask.part (s.tasks u)) = false := by
  rcases hp with hp | hp
  · rw [hp]
    exact h.apart t u (Ne.symm hu)
  · rw [hp]
    rfl

theorem Inv.current_open (h : s.Inv) (hprogress : s.ota.inProgress = true) {a : OtaPart}
    (hpart : OtaTask.part (s.tasks t) = some a) (hclash : clash (some a) (some .finish) = true)
    (hpast : OtaTask.pastEnd (s.tasks t) = false) : s.ota.handle ∉ s.backend.closed := by
  intro hclosed
  rcases h.ending hprogress hclosed with ⟨u, hu⟩
  have hne : t ≠ u := by
    rintro rfl
    rw [hu] at hpast
    cases hpast
  have hfinish : OtaTask.part (s.tasks u) = some .finish := by
    cases htask : s.tasks u with
    | setBoot _ _ | failFinish _ _ | commitFinish _ _ => rfl
    | _ =>
      rw [htask] at hu
      cases hu
  have hapart := h.tasks.apart t u hne
  rw [hpart, hfinish, hclash] at hapart
  cases hapart

/-- What a task knows only depends on a few fields. -/
theorem Fits.congr (hbackend : s'.backend = s.backend)
    (hprogress : s'.ota.inProgress = s.ota.inProgress) (hhandle : s'.ota.handle = s.ota.handle)
    (htarget : s'.ota.targetPartition = s.ota.targetPartition) (h : s.Fits p) : s'.Fits p := by
  unfold Fits Current at h ⊢
  rw [hbackend, hprogress, hhandle, htarget]
  exact h

theorem holds_update (hbefore : OtaTask.holds (s.tasks t) = none)
    (h : ∃ task, OtaTask.holds (s.tasks task) = some handle) :
    ∃ task, OtaTask.holds (update s.tasks t p task) = some handle := by
  rcases h with ⟨u, hu⟩
  have hne : u ≠ t := by
    rintro rfl
    rw [hbefore] at hu
    cases hu
  refine ⟨u, ?_⟩
  rw [update_of_ne hne]
  exact hu

theorem pastEnd_update (hpast : OtaTask.pastEnd (s.tasks t) = false)
    (h : ∃ task, OtaTask.pastEnd (s.tasks task) = true) :
    ∃ task, OtaTask.pastEnd (update s.tasks t p task) = true := by
  rcases h with ⟨u, hu⟩
  have hne : u ≠ t := by
    rintro rfl
    rw [hpast] at hu
    cases hu
  refine ⟨u, ?_⟩
  rw [update_of_ne hne]
  exact hu

theorem StoreOk.congr (h : s.StoreOk) {o : OtaState} {tasks : Nat → OtaTask}
    (hcurrent : o.inProgress = true → ∃ target, o.targetPartition = some target ∧
      s.backend.opened.head? = some (o.handle, target)) :
    ({ s with ota := o, tasks } : OtaManager).StoreOk :=
  { h with current := hcurrent }

section

variable (h : s.Inv)
include h

/-- A turn that leaves the upload and the backend alone. -/
theorem Inv.quiet {o : OtaState} {old : OtaTask} (htask : s.tasks t = old)
    (hapart : ∀ u, u ≠ t → clash (OtaTask.part p) (OtaTask.part (s.tasks u)) = false)
    (hfits : s.Fits p) (hheld : OtaTask.holds p = none)
    (hbefore : OtaTask.holds old = none) (hpast : OtaTask.pastEnd old = false)
    (hprogress : o.inProgress = s.ota.inProgress)
    (hhandle : o.handle = s.ota.handle)
    (htarget : o.targetPartition = s.ota.targetPartition) :
    ({ s with ota := o }.setTask t p).Inv where
  tasks := h.tasks.turn rfl hapart (Fits.congr (s := s) rfl hprogress hhandle htarget hfits)
    (fun u _ => Fits.congr (s := s) rfl hprogress hhandle htarget (h.tasks.fits u))
    (fun handle hp => by
      rw [hheld] at hp
      cases hp)
  store := by
    refine h.store.congr ?_
    simp only [hprogress, hhandle, htarget]
    exact h.store.current
  settled := by
    simp only [Current, setTask, hprogress, hhandle]
    intro handle hopened
    exact (h.settled handle hopened).imp_right
      (Or.imp_right (holds_update (htask.symm ▸ hbefore)))
  ending := by
    simp only [setTask, hprogress, hhandle]
    intro hactive hclosed
    exact pastEnd_update (htask.symm ▸ hpast) (h.ending hactive hclosed)

/-- The task goes on in its part of the interface, or is behind it. -/
theorem Inv.goOn {o : OtaState} {old : OtaTask} (htask : s.tasks t = old)
    (hpart : OtaTask.part p = OtaTask.part old ∨ OtaTask.part p = none) (hfits : s.Fits p)
    (hheld : OtaTask.holds p = none) (hbefore : OtaTask.holds old = none)
    (hpast : OtaTask.pastEnd old = false)
    (hprogress : o.inProgress = s.ota.inProgress)
    (hhandle : o.handle = s.ota.handle)
    (htarget : o.targetPartition = s.ota.targetPartition) :
    ({ s with ota := o }.setTask t p).Inv :=
  h.quiet htask (h.tasks.apart_of_part (htask.symm ▸ hpart)) hfits hheld hbefore hpast hprogress
    hhandle htarget

/-! ### Handles given out and taken back -/

theorem Inv.begin {imageSize : UInt32} (htask : s.tasks t = .backendBegin target imageSize)
    (hnew : handle ∉ s.backend.opened.map Prod.fst) :
    ({ s with backend := s.backend.begin handle target imageSize }.setTask t
      (.commitBegin target imageSize handle)).Inv := by
  have hidle : s.ota.inProgress = false := by
    have hfits := h.tasks.fits t
    rw [htask] at hfits
    exact hfits
  have hbusy : ¬s.ota.inProgress = true := by
    rw [hidle]
    exact Bool.false_ne_true
  have hpart : OtaTask.part (s.tasks t) = some .begin := by rw [htask]; rfl
  have hnone : OtaTask.holds (s.tasks t) = none := by rw [htask]; rfl
  -- The handles that are held are out already.
  have hout : ∀ u held, OtaTask.holds (s.tasks u) = some held →
      held ∈ s.backend.opened.map Prod.fst := by
    intro u held hu
    have hfits := h.tasks.fits u
    cases hother : s.tasks u with
    | commitBegin target' imageSize' handle' =>
      rw [hother] at hu hfits
      cases hu
      exact List.mem_map_of_mem (List.mem_of_mem_head? hfits.2.1)
    | backendAbort handle' =>
      rw [hother] at hu hfits
      cases hu
      exact hfits.1
    | _ =>
      rw [hother] at hu
      cases hu
  refine ⟨h.tasks.turn rfl (h.tasks.apart_of_part (.inl hpart.symm)) ?_ ?_ ?_, ?_, ?_, ?_⟩
  · exact ⟨hidle, rfl, fun hclosed => hnew (h.store.closed handle hclosed)⟩
  · intro u hu
    have hfits := h.tasks.fits u
    cases hother : s.tasks u with
    | commitBegin target' imageSize' handle' =>
      have hapart := h.tasks.apart t u (Ne.symm hu)
      rw [hpart, hother] at hapart
      cases hapart
    | backendAbort handle' =>
      rw [hother] at hfits
      exact ⟨.tail _ hfits.1, hfits.2⟩
    | _ =>
      rw [hother] at hfits
      exact hfits
  · intro held hheld u hu hother
    cases hheld
    exact hnew (hout u handle hother)
  · exact
      { nodup := h.store.nodup
        closed := fun held hclosed => .tail _ (h.store.closed held hclosed)
        current := fun hactive => absurd hactive hbusy
        writes := h.store.writes
        unwritten := fun held hheld => h.store.unwritten held fun hold =>
          hheld (.tail _ hold)
        flash := by
          intro held slot hhead
          cases hhead
          show update s.backend.flash _ _ _ = _
          rw [update_self]
          show _ = Flash.mk _ (s.backend.accepted handle) _
          rw [h.store.unwritten handle hnew]
        finished := fun entry hentry =>
          (h.store.finished entry hentry).imp_right (.tail _)
        boot := by
          intro entry hfinished hhead
          cases hhead
          have hold := (h.store.finished _ (List.mem_of_mem_head? hfinished)).2
          exact absurd (List.mem_map_of_mem hold) hnew }
  · intro held hopened
    rcases List.mem_cons.1 hopened with rfl | hold
    · exact .inr (.inr ⟨t, by rw [setTask]; simp [OtaTask.holds]⟩)
    · exact (h.settled held hold).imp_right (Or.imp_right (holds_update hnone))
  · exact fun hactive => absurd hactive hbusy

theorem Inv.commit {imageSize : UInt32} (htask : s.tasks t = .commitBegin target imageSize handle) :
    ({ s with ota := s.ota.started target imageSize handle }.setTask t (.returned .ok)).Inv := by
  rcases show s.Fits (.commitBegin target imageSize handle) from htask ▸ h.tasks.fits t with
    ⟨hidle, hhead, hopen⟩
  have hbusy : ¬s.ota.inProgress = true := by
    rw [hidle]
    exact Bool.false_ne_true
  have hpart : OtaTask.part (s.tasks t) = some .begin := by rw [htask]; rfl
  have hholds : OtaTask.holds (s.tasks t) = some handle := by rw [htask]; rfl
  refine ⟨h.tasks.turn rfl (h.tasks.apart_of_part (.inr rfl)) trivial ?_ ?_, ?_, ?_, ?_⟩
  · intro u hu
    have hfits := h.tasks.fits u
    have hapart := h.tasks.apart t u (Ne.symm hu)
    rw [hpart] at hapart
    cases hother : s.tasks u with
    | backendBegin _ _ | commitBegin _ _ _ =>
      rw [hother] at hapart
      cases hapart
    | backendWrite _ _ | backendEnd _ _ | setBoot _ _ | commitFinish _ _ =>
      rw [hother] at hfits
      exact absurd hfits.1.1 hbusy
    | failFinish _ _ =>
      rw [hother] at hfits
      exact absurd hfits.1 hbusy
    | backendAbort other =>
      rw [hother] at hfits
      refine ⟨hfits.1, hfits.2.1, ?_⟩
      rintro ⟨-, hsame⟩
      have hheld : OtaTask.holds (s.tasks u) = some handle := by
        rw [hother]
        exact congrArg some hsame.symm
      exact hu (h.tasks.held u t handle hheld hholds)
    | _ => trivial
  · nofun
  · exact h.store.congr fun _ => ⟨target, rfl, hhead⟩
  · intro held hopened
    rcases h.settled held hopened with hclosed | hcurrent | ⟨u, hu⟩
    · exact .inl hclosed
    · exact absurd hcurrent.1 hbusy
    by_cases hut : u = t
    · subst hut
      rw [hholds] at hu
      cases hu
      exact .inr (.inl ⟨rfl, rfl⟩)
    · refine .inr (.inr ⟨u, ?_⟩)
      simp only [setTask, update_of_ne hut]
      exact hu
  · intro _ hclosed
    exact absurd hclosed hopen

theorem Inv.write {len : UInt32} (err : OtaErr) (htask : s.tasks t = .backendWrite handle len) :
    ({ s with backend := s.backend.write handle len err }.setTask t (.countWrite len err)).Inv := by
  rcases show s.Fits (.backendWrite handle len) from htask ▸ h.tasks.fits t with
    ⟨⟨hactive, hsame⟩, hopen⟩
  rcases h.store.current hactive with ⟨target, -, hhead⟩
  rw [hsame] at hhead
  have hpart : OtaTask.part (s.tasks t) = some .write := by rw [htask]; rfl
  have hnone : OtaTask.holds (s.tasks t) = none := by rw [htask]; rfl
  have hpast : OtaTask.pastEnd (s.tasks t) = false := by rw [htask]; rfl
  have hkeeps : (s.backend.write handle len err).opened = s.backend.opened ∧
      (s.backend.write handle len err).closed = s.backend.closed ∧
      (s.backend.write handle len err).ended = s.backend.ended ∧
      (s.backend.write handle len err).boot = s.backend.boot := by
    unfold OtaBackend.write
    simp only
    split
    · exact ⟨rfl, rfl, rfl, rfl⟩
    · exact ⟨rfl, rfl, rfl, rfl⟩
  rcases hkeeps with ⟨hopened, hclosed, hended, hboot⟩
  have hfits : ∀ q, s.Fits q →
      ({ s with backend := s.backend.write handle len err }.setTask t (.countWrite len err)).Fits
        q := by
    intro q hq
    unfold Fits setTask Current at *
    simp only [hopened, hclosed, hended, hboot]
    exact hq
  have hslot : s.backend.slot handle = some target := by
    unfold OtaBackend.slot
    cases hlist : s.backend.opened with
    | nil =>
      rw [hlist] at hhead
      cases hhead
    | cons entry rest =>
      rw [hlist] at hhead
      cases hhead
      simp
  refine ⟨h.tasks.turn rfl (h.tasks.apart_of_part (.inl hpart.symm)) trivial
    (fun u _ => hfits _ (h.tasks.fits u)) nofun, ?_, ?_, ?_⟩
  · refine
      { nodup := ?_
        closed := ?_
        current := ?_
        writes := ?_
        unwritten := ?_
        flash := ?_
        finished := ?_
        boot := ?_ } <;> simp only [setTask, hopened, hclosed, hended, hboot]
    · exact h.store.nodup
    · exact h.store.closed
    · exact h.store.current
    · unfold OtaBackend.write
      simp only [hopen, if_false]
      split
      · exact h.store.writes
      · exact h.store.writes
    · intro held hheld
      have hne : held ≠ handle := by
        rintro rfl
        exact hheld (List.mem_map_of_mem (List.mem_of_mem_head? hhead))
      unfold OtaBackend.write
      simp only
      split
      · exact (update_of_ne hne _ _).trans (h.store.unwritten held hheld)
      · exact h.store.unwritten held hheld
    · intro held slot hhead'
      rw [hhead] at hhead'
      cases hhead'
      have hflash := h.store.flash _ _ hhead
      unfold OtaBackend.write
      simp only
      split
      · simp only [OtaBackend.slot] at hslot
        simp only [OtaBackend.slot, hslot, update_self, OtaBackend.store, hflash]
        simp
      · exact hflash
    · exact h.store.finished
    · exact h.store.boot
  · simp only [setTask, hopened, hclosed]
    intro held hheld
    exact (h.settled held hheld).imp_right (Or.imp_right (holds_update hnone))
  · simp only [setTask, hclosed]
    intro hprogress hend
    exact pastEnd_update hpast (h.ending hprogress hend)

theorem Inv.others (hactive : s.ota.inProgress = true)
    (hpart : OtaTask.part (s.tasks t) = some .finish) (u : Nat) (hu : u ≠ t) (s' : OtaManager) :
    s'.Fits (s.tasks u) := by
  have hfits := h.tasks.fits u
  have hapart := h.tasks.apart t u (Ne.symm hu)
  rw [hpart] at hapart
  have hbusy : ¬s.ota.inProgress = false := by
    rw [hactive]
    exact nofun
  cases hother : s.tasks u with
  | backendWrite _ _ | backendEnd _ _ | setBoot _ _ | failFinish _ _ | commitFinish _ _
  | backendAbort _ =>
    rw [hother] at hapart
    cases hapart
  | backendBegin _ _ =>
    rw [hother] at hfits
    exact absurd hfits hbusy
  | commitBegin _ _ _ =>
    rw [hother] at hfits
    exact absurd hfits.1 hbusy
  | _ => trivial

theorem Inv.endHandle (err : OtaErr) (htask : s.tasks t = .backendEnd handle target)
    (hnext : (err = .ok ∧ p = .setBoot handle target) ∨
      ∃ message, p = .failFinish message err) :
    ({ s with backend := s.backend.endHandle handle err }.setTask t p).Inv := by
  rcases show s.Fits (.backendEnd handle target) from htask ▸ h.tasks.fits t with
    ⟨⟨hactive, hsame⟩, htarget, hopen⟩
  have hpart : OtaTask.part (s.tasks t) = some .finish := by rw [htask]; rfl
  have hnone : OtaTask.holds (s.tasks t) = none := by rw [htask]; rfl
  have hended : ∀ held ∈ s.backend.ended, held ∈ (s.backend.endHandle handle err).ended := by
    intro held hheld
    unfold OtaBackend.endHandle
    split
    · exact .tail _ hheld
    · exact hheld
  have hpast : OtaTask.pastEnd p = true := by
    rcases hnext with ⟨-, rfl⟩ | ⟨message, rfl⟩ <;> rfl
  have hfinish : OtaTask.part p = some .finish := by
    rcases hnext with ⟨-, rfl⟩ | ⟨message, rfl⟩ <;> rfl
  have hholds : OtaTask.holds p = none := by
    rcases hnext with ⟨-, rfl⟩ | ⟨message, rfl⟩ <;> rfl
  refine ⟨h.tasks.turn rfl (h.tasks.apart_of_part (.inl (hfinish.trans hpart.symm))) ?_
    (fun u hu => h.others hactive hpart u hu _) ?_, ?_, ?_, ?_⟩
  · rcases hnext with ⟨rfl, rfl⟩ | ⟨message, rfl⟩
    · exact ⟨⟨hactive, hsame⟩, htarget, .head _, .head _⟩
    · exact ⟨hactive, hsame ▸ .head _⟩
  · intro held hheld
    rw [hholds] at hheld
    cases hheld
  · rcases h.store.current hactive with ⟨slot, hslot, hhead⟩
    rw [hsame] at hhead
    exact
      { nodup := List.nodup_cons.2 ⟨hopen, h.store.nodup⟩
        closed := by
          intro held hclosed
          rcases List.mem_cons.1 hclosed with rfl | hold
          · exact List.mem_map_of_mem (List.mem_of_mem_head? hhead)
          · exact h.store.closed held hold
        current := h.store.current
        writes := h.store.writes
        unwritten := h.store.unwritten
        flash := h.store.flash
        finished := fun entry hentry => (h.store.finished entry hentry).imp_left (hended _)
        boot := h.store.boot }
  · intro held hopened
    rcases h.settled held hopened with hclosed | hcurrent | hheld
    · exact .inl (.tail _ hclosed)
    · exact .inr (.inl hcurrent)
    · exact .inr (.inr (holds_update hnone hheld))
  · intro _ _
    refine ⟨t, ?_⟩
    simp only [setTask, update_self]
    exact hpast

theorem Inv.setBoot (err : OtaErr) (htask : s.tasks t = .setBoot handle target)
    (hnext : (err = .ok ∧ p = .commitFinish handle target) ∨
      (err ≠ .ok ∧ ∃ message, p = .failFinish message err)) :
    ({ s with backend := s.backend.setBoot target err }.setTask t p).Inv := by
  rcases show s.Fits (.setBoot handle target) from htask ▸ h.tasks.fits t with
    ⟨⟨hactive, hsame⟩, htarget, hclosed, hended⟩
  have hpart : OtaTask.part (s.tasks t) = some .finish := by rw [htask]; rfl
  have hnone : OtaTask.holds (s.tasks t) = none := by rw [htask]; rfl
  rcases h.store.current hactive with ⟨slot, hslot, hhead⟩
  rw [htarget] at hslot
  cases hslot
  rw [hsame] at hhead
  rcases hnext with ⟨rfl, rfl⟩ | ⟨hne, message, rfl⟩
  · have hswitched : s.backend.setBoot target .ok = { s.backend with boot := some target } :=
      if_pos rfl
    rw [hswitched]
    refine ⟨h.tasks.turn rfl (h.tasks.apart_of_part (.inl hpart.symm))
      ⟨⟨hactive, hsame⟩, htarget, hclosed, hended, rfl⟩
      (fun u hu => h.others hactive hpart u hu _) nofun, ?_,
      fun held hopened => (h.settled held hopened).imp_right (Or.imp_right (holds_update hnone)),
      fun _ _ => ⟨t, by simp only [setTask, update_self]; rfl⟩⟩
    exact
      { h.store with
        boot := by
          intro entry _ hopened
          cases hhead.symm.trans hopened
          rfl }
  · have hsetBoot : s.backend.setBoot target err = s.backend := if_neg hne
    rw [hsetBoot]
    exact ⟨h.tasks.turn rfl (h.tasks.apart_of_part (.inl hpart.symm))
      ⟨hactive, hsame ▸ hclosed⟩
      (fun u hu => h.others hactive hpart u hu _) nofun,
      h.store.congr h.store.current,
      fun held hopened => (h.settled held hopened).imp_right (Or.imp_right (holds_update hnone)),
      fun _ _ => ⟨t, by simp only [setTask, update_self]; rfl⟩⟩

theorem Inv.failFinish {message : String} {err : OtaErr}
    (htask : s.tasks t = .failFinish message err) :
    ({ s with ota := (s.ota.failed message).resetUpload }.setTask t (.returned err)).Inv := by
  rcases show s.Fits (.failFinish message err) from htask ▸ h.tasks.fits t with
    ⟨hactive, hclosed⟩
  have hpart : OtaTask.part (s.tasks t) = some .finish := by rw [htask]; rfl
  have hnone : OtaTask.holds (s.tasks t) = none := by rw [htask]; rfl
  refine ⟨h.tasks.turn rfl (h.tasks.apart_of_part (.inr rfl)) trivial
    (fun u hu => h.others hactive hpart u hu _) nofun,
    h.store.congr nofun, ?_, nofun⟩
  intro held hopened
  rcases h.settled held hopened with hold | hcurrent | hheld
  · exact .inl hold
  · exact .inl (hcurrent.2 ▸ hclosed)
  · exact .inr (.inr (holds_update hnone hheld))

/-- A finish that succeeded has installed the upload. -/
theorem Inv.commitFinish (htask : s.tasks t = .commitFinish handle target) :
    ({ s with ota := s.ota.installed, finished := (handle, target) :: s.finished }.setTask t
      (.returned .ok)).Inv := by
  rcases show s.Fits (.commitFinish handle target) from htask ▸ h.tasks.fits t with
    ⟨⟨hactive, hsame⟩, htarget, hclosed, hended, hboot⟩
  have hpart : OtaTask.part (s.tasks t) = some .finish := by rw [htask]; rfl
  have hnone : OtaTask.holds (s.tasks t) = none := by rw [htask]; rfl
  rcases h.store.current hactive with ⟨slot, hslot, hhead⟩
  rw [htarget] at hslot
  cases hslot
  rw [hsame] at hhead
  refine ⟨h.tasks.turn rfl (h.tasks.apart_of_part (.inr rfl)) trivial
    (fun u hu => h.others hactive hpart u hu _) nofun, ?_, ?_,
    nofun⟩
  · exact
      { nodup := h.store.nodup
        closed := h.store.closed
        current := nofun
        writes := h.store.writes
        unwritten := h.store.unwritten
        flash := h.store.flash
        finished := by
          intro entry hentry
          rcases List.mem_cons.1 hentry with rfl | hold
          · exact ⟨hended, List.mem_of_mem_head? hhead⟩
          · exact h.store.finished entry hold
        boot := by
          intro entry hfinished _
          cases hfinished
          exact hboot }
  · intro held hopened
    rcases h.settled held hopened with hold | hcurrent | hheld
    · exact .inl hold
    · exact .inl (hcurrent.2 ▸ hsame ▸ hclosed)
    · exact .inr (.inr (holds_update hnone hheld))

theorem Inv.takeAbort (htask : s.tasks t = .takeAbort) : (s.takeAbort t).Inv := by
  have hpart : OtaTask.part (s.tasks t) = some .abort := by rw [htask]; rfl
  have hnone : OtaTask.holds (s.tasks t) = none := by rw [htask]; rfl
  have hpast : OtaTask.pastEnd (s.tasks t) = false := by rw [htask]; rfl
  unfold OtaManager.takeAbort
  by_cases hactive : s.ota.inProgress = true
  · rw [if_pos hactive]
    have hopen := h.current_open hactive hpart rfl hpast
    rcases h.store.current hactive with ⟨slot, hslot, hhead⟩
    have hbusy : ¬s.ota.inProgress = false := by
      rw [hactive]
      exact nofun
    refine ⟨h.tasks.turn rfl (h.tasks.apart_of_part (.inl hpart.symm)) ?_ ?_ ?_,
      h.store.congr nofun, ?_, nofun⟩
    · exact ⟨List.mem_map_of_mem (List.mem_of_mem_head? hhead), hopen,
        fun hcurrent => by cases hcurrent.1⟩
    · intro u hu
      have hfits := h.tasks.fits u
      have hapart := h.tasks.apart t u (Ne.symm hu)
      rw [hpart] at hapart
      cases hother : s.tasks u with
      | backendWrite _ _ | backendEnd _ _ | setBoot _ _ | failFinish _ _ | commitFinish _ _ =>
        rw [hother] at hapart
        cases hapart
      | backendBegin _ _ =>
        rw [hother] at hfits
        exact absurd hfits hbusy
      | commitBegin _ _ _ =>
        rw [hother] at hfits
        exact absurd hfits.1 hbusy
      | backendAbort handle =>
        rw [hother] at hfits
        exact ⟨hfits.1, hfits.2.1, fun hcurrent => by cases hcurrent.1⟩
      | _ => trivial
    · intro handle hheld u hu hother
      cases hheld
      have hfits := h.tasks.fits u
      cases htask' : s.tasks u with
      | commitBegin _ _ _ =>
        rw [htask'] at hfits
        exact absurd hfits.1 hbusy
      | backendAbort handle =>
        rw [htask'] at hfits hother
        cases hother
        exact hfits.2.2 ⟨hactive, rfl⟩
      | _ =>
        rw [htask'] at hother
        cases hother
    · intro held hopened
      rcases h.settled held hopened with hold | hcurrent | hheld
      · exact .inl hold
      · refine .inr (.inr ⟨t, ?_⟩)
        simp only [setTask, update_self]
        exact congrArg some hcurrent.2
      · exact .inr (.inr (holds_update hnone hheld))
  · rw [if_neg hactive]
    exact h.goOn htask (.inr rfl) trivial rfl rfl rfl rfl rfl rfl

theorem Inv.abort (htask : s.tasks t = .backendAbort handle) :
    ({ s with backend := s.backend.abort handle }.setTask t (.returned .ok)).Inv := by
  rcases show s.Fits (.backendAbort handle) from htask ▸ h.tasks.fits t with
    ⟨hopened, hopen, hpast⟩
  have hpart : OtaTask.part (s.tasks t) = some .abort := by rw [htask]; rfl
  have hholds : OtaTask.holds (s.tasks t) = some handle := by rw [htask]; rfl
  have hother : ∀ u, u ≠ t → OtaTask.holds (s.tasks u) ≠ some handle := fun u hu hheld =>
    hu (h.tasks.held u t handle hheld hholds)
  have hmem : ∀ held, held ≠ handle → held ∉ s.backend.closed →
      held ∉ (s.backend.abort handle).closed := fun held hne hheld hclosed =>
    (List.mem_cons.1 hclosed).elim hne hheld
  refine ⟨h.tasks.turn rfl (h.tasks.apart_of_part (.inr rfl)) trivial ?_
    nofun, ?_, ?_, ?_⟩
  · intro u hu
    have hfits := h.tasks.fits u
    have hapart := h.tasks.apart t u (Ne.symm hu)
    have hne := hother u hu
    rw [hpart] at hapart
    cases htask' : s.tasks u with
    | backendWrite _ _ | backendEnd _ _ | setBoot _ _ | failFinish _ _ | commitFinish _ _ =>
      rw [htask'] at hapart
      cases hapart
    | backendBegin _ _ =>
      rw [htask'] at hfits
      exact hfits
    | commitBegin target imageSize held =>
      rw [htask'] at hfits hne
      exact ⟨hfits.1, hfits.2.1, hmem held (fun heq => hne (congrArg some heq)) hfits.2.2⟩
    | backendAbort held =>
      rw [htask'] at hfits hne
      exact ⟨hfits.1, hmem held (fun heq => hne (congrArg some heq)) hfits.2.1, hfits.2.2⟩
    | _ => trivial
  · exact
      { nodup := List.nodup_cons.2 ⟨hopen, h.store.nodup⟩
        closed := by
          intro held hclosed
          rcases List.mem_cons.1 hclosed with rfl | hold
          · exact hopened
          · exact h.store.closed held hold
        current := h.store.current
        writes := h.store.writes
        unwritten := h.store.unwritten
        flash := h.store.flash
        finished := h.store.finished
        boot := h.store.boot }
  · intro held hheld
    rcases h.settled held hheld with hold | hcurrent | ⟨u, hu⟩
    · exact .inl (.tail _ hold)
    · exact .inr (.inl hcurrent)
    by_cases hut : u = t
    · subst hut
      rw [hholds] at hu
      cases hu
      exact .inl List.mem_cons_self
    · refine .inr (.inr ⟨u, ?_⟩)
      simp only [setTask, update_of_ne hut]
      exact hu
  · intro hactive hclosed
    rcases List.mem_cons.1 hclosed with hsame | hold
    · exact absurd ⟨hactive, hsame⟩ hpast
    · exact pastEnd_update (by rw [htask]; rfl) (h.ending hactive hold)

/-! ### Every step -/

theorem Inv.call {task : Nat} {request : OtaCall}
    (hapart : Apart s (.call task request)) (hcall : s.call task request = some s') : s'.Inv := by
  unfold OtaManager.call at hcall
  cases htask : s.tasks task with
  | returned err =>
    rw [htask] at hcall
    -- Whatever the call begins with, the task is in it or has returned.
    have hquiet : ∀ p : OtaTask, (OtaTask.part p = OtaCall.part request ∨
        OtaTask.part p = none) → s.Fits p → OtaTask.holds p = none → (s.setTask task p).Inv := by
      intro p hp hfits hholds
      refine h.quiet htask (fun u hu => ?_) hfits hholds rfl rfl rfl rfl rfl
      rcases hp with hp | hp
      · rw [hp]
        exact hapart u hu
      · rw [hp]
        rfl
    cases request with
    | begin imageSize | finish | reboot =>
      simp only at hcall
      split at hcall
      · cases hcall
        exact hquiet _ (.inl rfl) trivial rfl
      · cases hcall
        exact hquiet _ (.inr rfl) trivial rfl
    | write data len =>
      simp only at hcall
      split at hcall
      · split at hcall
        · cases hcall
          exact hquiet _ (.inr rfl) trivial rfl
        · cases hcall
          exact hquiet _ (.inl rfl) trivial rfl
      · cases hcall
        exact hquiet _ (.inr rfl) trivial rfl
    | abort =>
      cases hcall
      exact hquiet _ (.inl rfl) trivial rfl
  | _ =>
    rw [htask] at hcall
    cases hcall

theorem Inv.go {task : Nat} {reply : OtaReply}
    (honce : GivenOnce s (.go task reply)) (hgo : s.go task reply = some s') : s'.Inv := by
  unfold OtaManager.go at hgo
  cases htask : s.tasks task with
  | returned err =>
    rw [htask] at hgo
    cases hgo
  | askSlot imageSize =>
    rw [htask] at hgo
    cases hgo
    exact h.goOn htask (.inl rfl) trivial rfl rfl rfl rfl rfl rfl
  | checkBegin target imageSize =>
    rw [htask] at hgo
    cases hgo
    unfold OtaManager.checkBegin
    split
    · exact h.goOn htask (.inr rfl) trivial rfl rfl rfl rfl rfl rfl
    split
    · exact h.goOn htask (.inr rfl) trivial rfl rfl rfl rfl rfl rfl
    split
    · exact h.goOn htask (.inr rfl) trivial rfl rfl rfl rfl rfl rfl
    · next hidle =>
        have hfree : s.ota.inProgress = false := Bool.eq_false_iff.2 hidle
        exact h.goOn htask (.inl rfl) hfree rfl rfl rfl rfl rfl rfl
  | backendBegin target imageSize =>
    rw [htask] at hgo
    simp only at hgo
    split at hgo
    · next hok =>
        cases hgo
        exact h.begin htask (honce (by rw [htask]; rfl) hok)
    · cases hgo
      exact h.goOn htask (.inl rfl) trivial rfl rfl rfl rfl rfl rfl
  | failBegin err | failReboot =>
    rw [htask] at hgo
    cases hgo
    exact h.goOn htask (.inr rfl) trivial rfl rfl rfl rfl rfl rfl
  | commitBegin target imageSize handle =>
    rw [htask] at hgo
    cases hgo
    exact h.commit htask
  | checkWrite len =>
    have hopen := fun hactive => h.current_open (t := task) hactive (by rw [htask]; rfl) rfl
      (by rw [htask]; rfl)
    rw [htask] at hgo
    cases hgo
    split
    · next hactive =>
        exact h.goOn htask (.inl rfl) ⟨⟨hactive, rfl⟩, hopen hactive⟩ rfl rfl rfl rfl rfl rfl
    · exact h.goOn htask (.inr rfl) trivial rfl rfl rfl rfl rfl rfl
  | backendWrite handle len =>
    rw [htask] at hgo
    cases hgo
    exact h.write _ htask
  | countWrite len err | startReboot =>
    rw [htask] at hgo
    cases hgo
    split
    · exact h.goOn htask (.inr rfl) trivial rfl rfl rfl rfl rfl rfl
    · exact h.goOn htask (.inr rfl) trivial rfl rfl rfl rfl rfl rfl
  | takeFinish =>
    have hopen := fun hactive => h.current_open (t := task) hactive (by rw [htask]; rfl) rfl
      (by rw [htask]; rfl)
    rw [htask] at hgo
    cases hgo
    unfold OtaManager.takeFinish
    split
    · next hactive =>
        split
        · next target htarget =>
            exact h.goOn htask (.inl rfl) ⟨⟨hactive, rfl⟩, htarget, hopen hactive⟩
              rfl rfl rfl rfl rfl rfl
        · exact h.goOn htask (.inr rfl) trivial rfl rfl rfl rfl rfl rfl
    · exact h.goOn htask (.inr rfl) trivial rfl rfl rfl rfl rfl rfl
  | backendEnd handle target =>
    rw [htask] at hgo
    cases hgo
    refine h.endHandle _ htask ?_
    split
    · next hok => exact .inl ⟨hok, rfl⟩
    · exact .inr ⟨_, rfl⟩
  | setBoot handle target =>
    rw [htask] at hgo
    cases hgo
    refine h.setBoot _ htask ?_
    split
    · next hok => exact .inl ⟨hok, rfl⟩
    · next hfailed => exact .inr ⟨hfailed, _, rfl⟩
  | failFinish message err =>
    rw [htask] at hgo
    cases hgo
    exact h.failFinish htask
  | commitFinish handle target =>
    rw [htask] at hgo
    cases hgo
    exact h.commitFinish htask
  | takeAbort =>
    rw [htask] at hgo
    cases hgo
    exact h.takeAbort htask
  | backendAbort handle =>
    rw [htask] at hgo
    cases hgo
    exact h.abort htask
  | checkReboot =>
    rw [htask] at hgo
    simp only at hgo
    split at hgo
    · cases hgo
      exact h.goOn htask (.inr rfl) trivial rfl rfl rfl rfl rfl rfl
    · cases hgo
      exact h.goOn htask (.inr rfl) trivial rfl rfl rfl rfl rfl rfl

theorem Inv.step (act : OtaStep) (hcond : Apart s act ∧ GivenOnce s act)
    (hstep : otaStep s act = some s') : s'.Inv := by
  cases act with
  | call task request => exact h.call hcond.1 hstep
  | go task reply => exact h.go hcond.2 hstep

end

theorem Inv.atStart : Inv atStart where
  tasks := ⟨fun _ _ _ => rfl, fun _ => trivial, nofun⟩
  store :=
    { nodup := .nil
      closed := nofun
      current := nofun
      writes := rfl
      unwritten := fun _ _ => rfl
      flash := nofun
      finished := nofun
      boot := nofun }
  settled := nofun
  ending := nofun

/-- **Uploads whose calls do not overlap keep the protocol, whatever the backend answers: no
    handle is taken back twice, and each one that is out has an owner; nothing is written with a
    handle that was taken back; and what was installed last stays as it was accepted until
    another upload begins.** -/
theorem uploads_keep_protocol (acts : List OtaStep) (s : OtaManager)
    (hruns : Lib.EachStep otaStep (fun s act => Apart s act ∧ GivenOnce s act) atStart acts)
    (hrun : Lib.run otaStep atStart acts = some s) : s.Protocol :=
  (Lib.invariant_of_run (fun _ act _ hinv hcond hstep => hinv.step act hcond hstep) Inv.atStart
    hruns hrun).protocol

/-! ### One task, and several -/

def OtaStep.task : OtaStep → Nat
  | .call task _ => task
  | .go task _ => task

theorem step_tasks_ne {act : OtaStep} (hstep : otaStep s act = some s') (u : Nat)
    (hu : u ≠ OtaStep.task act) : s'.tasks u = s.tasks u := by
  have hset : ∀ (o : OtaManager) (task : Nat) (p : OtaTask), o.tasks = s.tasks → u ≠ task →
      (o.setTask task p).tasks u = s.tasks u := fun o task p ho hne => by
    rw [← ho]
    exact update_of_ne hne _ _
  cases act with
  | call task request =>
    replace hstep : s.call task request = some s' := hstep
    unfold OtaManager.call at hstep
    cases htask : s.tasks task with
    | returned err =>
      rw [htask] at hstep
      cases hstep
      cases request with
      | begin _ | finish | reboot =>
        simp only
        split <;> exact hset s task _ rfl hu
      | write _ _ =>
        simp only
        split
        · split <;> exact hset s task _ rfl hu
        · exact hset s task _ rfl hu
      | abort => exact hset s task _ rfl hu
    | _ =>
      rw [htask] at hstep
      cases hstep
  | go task reply =>
    replace hstep : s.go task reply = some s' := hstep
    unfold OtaManager.go at hstep
    cases htask : s.tasks task with
    | returned _ =>
      rw [htask] at hstep
      cases hstep
    | backendBegin _ _ | checkReboot =>
      rw [htask] at hstep
      simp only at hstep
      split at hstep <;>
        · cases hstep
          exact hset _ task _ rfl hu
    | checkBegin target imageSize =>
      rw [htask] at hstep
      cases hstep
      unfold OtaManager.checkBegin
      split
      · exact hset _ task _ rfl hu
      split
      · exact hset _ task _ rfl hu
      · split <;> exact hset _ task _ rfl hu
    | takeFinish =>
      rw [htask] at hstep
      cases hstep
      unfold OtaManager.takeFinish
      split
      · split <;> exact hset _ task _ rfl hu
      · exact hset _ task _ rfl hu
    | takeAbort =>
      rw [htask] at hstep
      cases hstep
      unfold OtaManager.takeAbort
      split <;> exact hset _ task _ rfl hu
    | _ =>
      rw [htask] at hstep
      cases hstep
      exact hset _ task _ rfl hu

/-- A task that makes its calls one after the other, as nobody else does, is apart. -/
theorem apart_alone (acts : List OtaStep) (s : OtaManager)
    (hidle : ∀ u, u ≠ 0 → OtaTask.part (s.tasks u) = none)
    (halone : ∀ act ∈ acts, OtaStep.task act = 0) (honce : Lib.EachStep otaStep GivenOnce s acts) :
    Lib.EachStep otaStep (fun s act => Apart s act ∧ GivenOnce s act) s acts := by
  induction acts generalizing s with
  | nil => trivial
  | cons act acts ih =>
    have htask := halone act List.mem_cons_self
    refine ⟨⟨?_, honce.1⟩, ?_⟩
    · cases act with
      | call task request =>
        intro u hu
        cases htask
        rw [hidle u hu]
        cases request <;> rfl
      | go _ _ => trivial
    have hrest := honce.2
    cases hnext : otaStep s act with
    | none => trivial
    | some s' =>
      rw [hnext] at hrest
      refine ih s' (fun u hu => ?_) (fun act hact => halone act (.tail _ hact))
        hrest
      rw [step_tasks_ne hnext u (htask ▸ hu)]
      exact hidle u hu

/-- The slot that is not running. -/
def otaSlot : Partition := ⟨"ota_1", 4096⟩

/-- A task begins an upload and gets a handle for it. -/
def beginning (task handle : Nat) : List OtaStep :=
  [.call task (.begin 1024), .go task { slot := some otaSlot }, .go task {},
    .go task { handle }, .go task {}]

/-- Six bytes are written, and the upload is finished. -/
def finishing (task : Nat) : List OtaStep :=
  [.call task (.write true 6), .go task {}, .go task {}, .go task {},
    .call task .finish, .go task {}, .go task {}, .go task {}, .go task {}]

/-- Where a run leads. -/
def otaAfter (acts : List OtaStep) : OtaManager := (Lib.run otaStep atStart acts).getD {}

/-- The protocol of one upload. -/
theorem uploads_keep_protocol_one :
    (otaAfter (beginning 0 1 ++ finishing 0)).finished = [(1, otaSlot)] ∧
    (otaAfter (beginning 0 1 ++ finishing 0)).Protocol := by
  have hruns : (Lib.run otaStep atStart (beginning 0 1 ++ finishing 0)).isSome = true := by
    decide +kernel
  rcases Option.isSome_iff_exists.1 hruns with ⟨s, hs⟩
  refine ⟨by decide +kernel, ?_⟩
  unfold otaAfter
  rw [hs]
  exact uploads_keep_protocol (beginning 0 1 ++ finishing 0) s
    (apart_alone _ _ (fun _ _ => rfl) (by decide) (by decide +kernel)) hs

theorem run_tasks_ne (acts : List OtaStep) (s s' : OtaManager)
    (hrun : Lib.run otaStep s acts = some s') (u : Nat)
    (hu : ∀ act ∈ acts, u ≠ OtaStep.task act) : s'.tasks u = s.tasks u := by
  induction acts generalizing s with
  | nil =>
    cases hrun
    rfl
  | cons act acts ih =>
    rcases Lib.run_cons_some hrun with ⟨next, hnext, hrest⟩
    rw [ih next hrest fun act hact => hu act (.tail _ hact)]
    exact step_tasks_ne hnext u (hu act List.mem_cons_self)

/-- Two tasks find no upload in progress, and both begin one. -/
def beginningBoth : List OtaStep :=
  [.call 0 (.begin 1024), .go 0 { slot := some otaSlot }, .go 0 {},
    .call 1 (.begin 1024), .go 1 { slot := some otaSlot }, .go 1 {},
    .go 0 { handle := 1 }, .go 0 {}, .go 1 { handle := 2 }, .go 1 {}]

/-- What was accepted need not be the whole image; of two uploads that begin at once, one loses
    its handle; and an upload that begins behind a finished one erases the slot that the boot
    partition is switched to. -/
theorem not_everyRunExact :
    ¬(∀ acts s, Lib.run otaStep atStart acts = some s → ∀ entry ∈ s.finished,
      s.backend.accepted entry.1 = (s.backend.imageSize entry.1).toNat) ∧
    ¬(∀ acts s, Lib.run otaStep atStart acts = some s →
      ∀ handle ∈ s.backend.opened.map Prod.fst, s.backend.closed.count handle = 1 ∨
        s.Current handle ∨ ∃ task, OtaTask.holds (s.tasks task) = some handle) ∧
    ¬(∀ acts s, Lib.run otaStep atStart acts = some s → ∀ entry, s.finished.head? = some entry →
      (s.backend.flash entry.2.label).upload = some entry.1) := by
  have hrun : ∀ acts, (Lib.run otaStep atStart acts).isSome = true →
      Lib.run otaStep atStart acts = some (otaAfter acts) := by
    intro acts hsome
    rcases Option.isSome_iff_exists.1 hsome with ⟨s, hs⟩
    unfold otaAfter
    rw [hs]
    rfl
  refine ⟨fun hexact => ?_, fun hsettled => ?_, fun hkept => ?_⟩
  · have hshort := hexact _ _ (hrun (beginning 0 1 ++ finishing 0) (by decide +kernel))
      (1, otaSlot) (by decide +kernel)
    revert hshort
    decide +kernel
  · have hboth := hrun beginningBoth (by decide +kernel)
    rcases hsettled _ _ hboth 1 (by decide +kernel) with hclosed | hcurrent | ⟨task, htask⟩
    · revert hclosed
      decide +kernel
    · have hhandle := hcurrent.2
      revert hhandle
      decide +kernel
    -- Only the two tasks have taken steps, and both have returned.
    by_cases hfirst : task = 0
    · subst hfirst
      revert htask
      decide +kernel
    by_cases hsecond : task = 1
    · subst hsecond
      revert htask
      decide +kernel
    have hothers : ∀ act ∈ beginningBoth, OtaStep.task act = 0 ∨ OtaStep.task act = 1 := by
      decide
    rw [run_tasks_ne _ _ _ hboth task fun act hact heq => ?_] at htask
    · cases htask
    rcases hothers act hact with hzero | hone
    · exact hfirst (heq.trans hzero)
    · exact hsecond (heq.trans hone)
  · have hnext := hkept _ _ (hrun (beginning 0 1 ++ finishing 0 ++ beginning 0 2)
      (by decide +kernel)) (1, otaSlot) (by decide +kernel)
    revert hnext
    decide +kernel

end OtaManager

end SceneHub.Hub
