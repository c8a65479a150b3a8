import Mathlib.Data.List.Infix
import SceneHub.Hub.Registry

/-!
# Freshness of the Registry Snapshot

Whether a query can return a snapshot from before a change that was over when the query
began, over every interleaving of queries, changes and invalidations.

The builders take turns, and each of them reads everything after the snapshot in the
cache was built. So the cache never goes back, and a query that has found it fresh may
take its copy later. A query that finds it fresh has read generations that are the ones
of the cached snapshot, and these were read before the data.

This fails in two ways. The generations of the configuration are folded into one number,
and different generations can give the same. And an invalidation during a build is kept
in the pending flag only: `orchestrator_registry_invalidate` clears the flag, a query
that looks at the cache takes it, and the end of the build then makes the snapshot valid.

## Main definitions

* `NeverStale`: No query has returned a snapshot from before it began.
* `Careful`: The steps in which neither happens.
* `QueryOk`, `Inv`: What a query knows, and what holds of the cache.

## Theorems

* `QueryOk.since`: What a query knows stays true when another task goes on.
* `inv_step`: A careful step keeps the invariant.
* `never_stale`: The snapshots over every run of careful steps.
-/

namespace SceneHub.Hub

open Function (update update_self update_of_ne)

variable {left : List Work} {src : Source} {snapshot : Snapshot} {got : Reading}

/-- A builder has read the data that have no generation. -/
def Query.hasRead : Query → Bool
  | .building _ left _ => decide (.data .service ∉ left)
  | _ => false

namespace Registry

variable {s s' : Registry} {task i : Nat} {floor : Source → Nat} {query : Query}

/-! ### What is asked of the snapshots -/

/-- A snapshot shows no state of a source from before the given one. -/
def Covers (floor : Source → Nat) (snapshot : Snapshot) : Prop :=
  ∀ src ∈ Source.shown, floor src ≤ snapshot.content src

instance (floor : Source → Nat) (snapshot : Snapshot) : Decidable (Covers floor snapshot) :=
  inferInstanceAs (Decidable (∀ src ∈ Source.shown, _))

/-- No query has returned a snapshot from before a change that was over when it began. -/
def NeverStale (s : Registry) : Prop :=
  ∀ entry ∈ s.returned, Covers entry.1 entry.2

instance (s : Registry) : Decidable (NeverStale s) :=
  inferInstanceAs (Decidable (∀ entry ∈ s.returned, _))

/-- A build is in progress that has read the data that have no generation. -/
def midBuild (s : Registry) : Bool :=
  match s.builder with
  | none => false
  | some i => (s.tasks i).hasRead

/-- Where a query is about to look at the cache, the generations it has read. -/
def looking (s : Registry) (task : Nat) : Option Reading :=
  match s.tasks task with
  | .reading _ _ [] got => some got
  | _ => none

/-- A query that finds the cache fresh has read the generations of the cached snapshot,
    and not others that fold to the same number. -/
def Unmistaken (s : Registry) (got : Reading) (turn : Turn) : Prop :=
  s.takePending.fresh got turn = true →
    ∀ src ∈ Source.tracked, got.changes src = s.cached.read.changes src

/-- No query takes the pending flag while a build is in progress. -/
def Spared (s : Registry) : Prop :=
  s.invalidatePending = true → s.midBuild = false

instance (s : Registry) (got : Reading) (turn : Turn) : Decidable (Unmistaken s got turn) :=
  inferInstanceAs (Decidable (_ → ∀ src ∈ Source.tracked, _))

instance (s : Registry) : Decidable (Spared s) :=
  inferInstanceAs (Decidable (_ → _))

/-- No invalidation is called with the cache lock while a build is in progress, no query
    takes the pending flag meanwhile, and generations are not mistaken for others. -/
def Careful (s : Registry) : RegistryStep → Prop
  | .invalidate locked => locked = true → s.midBuild = false
  | .go task turn => turn.locked = true → ∀ got ∈ s.looking task, Spared s ∧ Unmistaken s got turn
  | _ => True

instance (s : Registry) : (act : RegistryStep) → Decidable (Careful s act)
  | .invalidate _ => inferInstanceAs (Decidable (_ → _))
  | .go task turn =>
    inferInstanceAs (Decidable (turn.locked = true → ∀ got ∈ s.looking task, _ ∧ _))
  | .query _ => inferInstanceAs (Decidable True)
  | .change _ => inferInstanceAs (Decidable True)
  | .configEvent => inferInstanceAs (Decidable True)

/-! ### What a query knows -/

/-- The states a query must not fall behind are not ahead of the sources. -/
def Below (s : Registry) (floor : Source → Nat) : Prop :=
  ∀ src, floor src ≤ s.floor src

/-- What a builder has read, with what is left to read. -/
structure Built (s : Registry) (floor : Source → Nat) (left : List Work) (snapshot : Snapshot) :
    Prop where
  order : left <:+ buildOrder
  read : ∀ src, snapshot.read.changes src ≤ s.changes src
  low : ∀ src ∈ Source.shown, .data src ∉ left → floor src ≤ snapshot.content src
  high : ∀ src ∈ Source.shown, .data src ∉ left → snapshot.content src ≤ s.changes src
  newer : ∀ src ∈ Source.shown, .data src ∉ left → s.cached.content src ≤ snapshot.content src
  seen : ∀ src ∈ Source.tracked, .data src ∉ left →
    snapshot.read.changes src ≤ snapshot.content src
  announced : .data .service ∉ left →
    s.invalidatePending = true ∨ s.announced ≤ snapshot.content .service

/-- What is true of a query, with the task that asks it. -/
def QueryOk (s : Registry) (i : Nat) : Query → Prop
  | .idle => True
  | .reading again floor left got =>
    (again = true → s.builder = some i) ∧ Below s floor ∧
      (∀ src, got.changes src ≤ s.changes src) ∧
        ∀ src ∈ Source.tracked, src ∉ left → floor src ≤ got.changes src
  | .waiting floor => Below s floor
  | .building floor left snapshot =>
    s.builder = some i ∧ Below s floor ∧ Built s floor left snapshot
  | .failing _ => s.builder = some i
  | .leaving floor ok => s.builder = some i ∧ (ok = true → Covers floor s.cached)
  | .copying floor => Covers floor s.cached

/-- What holds of the cache and of every task. -/
structure Inv (s : Registry) : Prop where
  content : ∀ src ∈ Source.shown, s.cached.content src ≤ s.changes src
  seen : ∀ src ∈ Source.tracked, s.cached.read.changes src ≤ s.cached.content src
  announced : s.announced ≤ s.changes .service
  valid : s.valid = true → s.invalidatePending = false →
    s.announced ≤ s.cached.content .service
  query : ∀ i, QueryOk s i (s.tasks i)
  returned : NeverStale s

theorem floor_of_mem_tracked (s : Registry) (h : src ∈ Source.tracked) :
    s.floor src = s.changes src := by
  apply if_neg
  rintro rfl
  exact absurd h (by decide)

theorem mem_shown : src ∈ Source.shown ↔ src = .service ∨ src ∈ Source.tracked :=
  List.mem_cons

theorem generation_not_mem (h : left <:+ buildOrder) :
    ∀ src ∈ Source.tracked, .data src ∉ left → .generation src ∉ left := by
  have hall : ∀ left ∈ buildOrder.tails, ∀ src ∈ Source.tracked,
      .data src ∉ left → .generation src ∉ left := by
    decide
  exact hall left (List.mem_tails left buildOrder |>.2 h)

theorem data_mem_buildOrder : ∀ src ∈ Source.shown, .data src ∈ buildOrder := by
  decide

theorem mem_readOrder : ∀ src ∈ Source.tracked, src ∈ readOrder := by
  decide

/-! ### When another task goes on -/

/-- What another task may do while a query stands where it is. -/
structure Since (s s' : Registry) (i : Nat) (query : Query) : Prop where
  changes : ∀ src, s.changes src ≤ s'.changes src
  announced : s.announced ≤ s'.announced
  cached : ∀ src ∈ Source.shown, s.cached.content src ≤ s'.cached.content src
  builder : s.builder = some i → s'.builder = some i ∧ s'.cached = s.cached
  pending : s.builder = some i → query.hasRead = true → ∀ n,
    s.invalidatePending = true ∨ s.announced ≤ n →
      s'.invalidatePending = true ∨ s'.announced ≤ n

theorem Since.floor_le (h : Since s s' i query) (src : Source) : s.floor src ≤ s'.floor src := by
  unfold Registry.floor
  by_cases hsrc : src = .service
  · rw [if_pos hsrc, if_pos hsrc]
    exact h.announced
  · rw [if_neg hsrc, if_neg hsrc]
    exact h.changes src

theorem Since.below (h : Since s s' i query) (hbelow : Below s floor) : Below s' floor :=
  fun src => (hbelow src).trans (h.floor_le src)

theorem Since.covers (h : Since s s' i query) (hcovers : Covers floor s.cached) :
    Covers floor s'.cached :=
  fun src hsrc => (hcovers src hsrc).trans (h.cached src hsrc)

/-- What a query knows stays true when another task goes on. -/
theorem QueryOk.since (h : QueryOk s i query) (hs : Since s s' i query) : QueryOk s' i query := by
  cases query with
  | idle => trivial
  | reading again floor left got =>
    rcases h with ⟨hagain, hbelow, hgot, hread⟩
    exact ⟨fun ha => (hs.builder (hagain ha)).1, hs.below hbelow,
      fun src => (hgot src).trans (hs.changes src), hread⟩
  | waiting floor => exact hs.below h
  | building floor left snapshot =>
    rcases h with ⟨hbuilder, hbelow, hbuilt⟩
    rcases hs.builder hbuilder with ⟨hbuilder', hcached⟩
    refine ⟨hbuilder', hs.below hbelow, ?_⟩
    exact
      { order := hbuilt.order
        read := fun src => (hbuilt.read src).trans (hs.changes src)
        low := hbuilt.low
        high := fun src hsrc hleft => (hbuilt.high src hsrc hleft).trans (hs.changes src)
        newer := by
          rw [hcached]
          exact hbuilt.newer
        seen := hbuilt.seen
        announced := fun hleft =>
          hs.pending hbuilder (decide_eq_true hleft) _ (hbuilt.announced hleft) }
  | failing floor => exact (hs.builder h).1
  | leaving floor ok => exact ⟨(hs.builder h.1).1, fun hok => hs.covers (h.2 hok)⟩
  | copying floor => exact hs.covers h

theorem Since.of_other (hbuilder : s.builder = some task) (hne : i ≠ task)
    (hchanges : s'.changes = s.changes) (hannounced : s'.announced = s.announced)
    (hcached : ∀ src ∈ Source.shown, s.cached.content src ≤ s'.cached.content src) :
    Since s s' i query := by
  have hnot : s.builder ≠ some i := by
    rw [hbuilder]
    intro h
    exact hne (Option.some.inj h).symm
  exact
    { changes := fun src => (congrFun hchanges src).ge
      announced := hannounced.ge
      cached := hcached
      builder := fun h => absurd h hnot
      pending := fun h => absurd h hnot }

/-! ### Steps outside of the queries -/

theorem Inv.of_since (h : Inv s) (htasks : s'.tasks = s.tasks) (hcached : s'.cached = s.cached)
    (hreturned : s'.returned = s.returned) (hsince : ∀ i, Since s s' i (s.tasks i))
    (hannounced : s'.announced ≤ s'.changes .service)
    (hvalid : s'.valid = true → s'.invalidatePending = false →
      s'.announced ≤ s'.cached.content .service) : Inv s' where
  content src hsrc := by
    rw [hcached]
    exact (h.content src hsrc).trans ((hsince 0).changes src)
  seen := by
    rw [hcached]
    exact h.seen
  announced := hannounced
  valid := hvalid
  query i := by
    rw [htasks]
    exact (h.query i).since (hsince i)
  returned := by
    unfold NeverStale
    rw [hreturned]
    exact h.returned

theorem inv_change (h : Inv s) (src : Source) : Inv (s.change src) := by
  have hle : ∀ other, s.changes other ≤ (s.change src).changes other := by
    intro other
    by_cases hother : other = src
    · rw [hother]
      simp only [change, update_self]
      omega
    · simp only [change, update_of_ne hother]
      exact le_rfl
  refine h.of_since ?_ ?_ ?_ (fun i => ?_) ?_ ?_
  · rfl
  · rfl
  · rfl
  · exact ⟨hle, le_rfl, fun _ _ => le_rfl, fun hi => ⟨hi, rfl⟩, fun _ _ _ hn => hn⟩
  · exact h.announced.trans (hle .service)
  · exact h.valid

/-- A builder that has read the data without generation is in the middle of its build. -/
theorem midBuild_of_hasRead (hbuilder : s.builder = some i) (hread : (s.tasks i).hasRead = true) :
    s.midBuild = true := by
  unfold midBuild
  rw [hbuilder]
  exact hread

theorem inv_announce (h : Inv s) :
    Inv { s with invalidatePending := true, announced := s.changes .service } := by
  refine h.of_since ?_ ?_ ?_ (fun i => ?_) ?_ ?_
  · rfl
  · rfl
  · rfl
  · exact ⟨fun _ => le_rfl, h.announced, fun _ _ => le_rfl, fun hi => ⟨hi, rfl⟩,
      fun _ _ _ _ => Or.inl rfl⟩
  · exact le_rfl
  · nofun

theorem inv_invalidate (h : Inv s) {locked : Bool} (hcareful : Careful s (.invalidate locked)) :
    Inv (s.invalidate locked) := by
  cases locked with
  | false => exact inv_announce h
  | true =>
    -- Nobody has read the data that are announced, so nobody has read too early.
    have hmid : s.midBuild = false := hcareful rfl
    refine h.of_since ?_ ?_ ?_ (fun i => ?_) ?_ ?_
    · rfl
    · rfl
    · rfl
    · refine ⟨fun _ => le_rfl, h.announced, fun _ _ => le_rfl, fun hi => ⟨hi, rfl⟩, ?_⟩
      intro hbuilder hread
      rw [midBuild_of_hasRead hbuilder hread] at hmid
      cases hmid
    · exact le_rfl
    · nofun

/-! ### Steps of a query -/

theorem Inv.of_task (h : Inv s) (task : Nat) (query : Query)
    (htasks : s'.tasks = update s.tasks task query)
    (hcontent : ∀ src ∈ Source.shown, s'.cached.content src ≤ s'.changes src)
    (hseen : ∀ src ∈ Source.tracked, s'.cached.read.changes src ≤ s'.cached.content src)
    (hannounced : s'.announced ≤ s'.changes .service)
    (hvalid : s'.valid = true → s'.invalidatePending = false →
      s'.announced ≤ s'.cached.content .service)
    (hquery : QueryOk s' task query) (hsince : ∀ i, i ≠ task → Since s s' i (s.tasks i))
    (hreturned : NeverStale s') : Inv s' where
  content := hcontent
  seen := hseen
  announced := hannounced
  valid := hvalid
  query i := by
    rw [htasks]
    by_cases hi : i = task
    · rw [hi, update_self]
      exact hquery
    · rw [update_of_ne hi]
      exact (h.query i).since (hsince i hi)
  returned := hreturned

theorem Inv.setTask (h : Inv s) {query : Query} (hquery : QueryOk s task query) :
    Inv (s.setTask task query) := by
  have hsame : QueryOk (s.setTask task query) task query :=
    hquery.since ⟨fun _ => le_rfl, le_rfl, fun _ _ => le_rfl, fun hi => ⟨hi, rfl⟩,
      fun _ _ _ hn => hn⟩
  exact h.of_task task query rfl h.content h.seen h.announced h.valid hsame
    (fun i _ => ⟨fun _ => le_rfl, le_rfl, fun _ _ => le_rfl, fun hi => ⟨hi, rfl⟩,
      fun _ _ _ hn => hn⟩) h.returned

/-! ### Looking at the cache -/

theorem takePending_eq (s : Registry) : s.takePending =
      { s with valid := s.valid && !s.invalidatePending, invalidatePending := false } := by
  unfold takePending
  by_cases hpending : s.invalidatePending = true
  · rw [if_pos hpending, hpending, Bool.not_true, Bool.and_false]
  rw [if_neg hpending]
  cases s
  simp_all

/-- The pending flag can be taken when no build is in progress that it is meant for. -/
theorem inv_takePending (h : Inv s) (hspared : Spared s) : Inv s.takePending := by
  rw [takePending_eq]
  refine h.of_since ?_ ?_ ?_ (fun i => ?_) ?_ ?_
  · rfl
  · rfl
  · rfl
  · refine ⟨fun _ => le_rfl, le_rfl, fun _ _ => le_rfl, fun hi => ⟨hi, rfl⟩, ?_⟩
    intro hbuilder hread n hn
    refine hn.elim (fun hpending => ?_) Or.inr
    have hmid := hspared hpending
    rw [midBuild_of_hasRead hbuilder hread] at hmid
    cases hmid
  · exact h.announced
  · intro hvalid _
    rw [Bool.and_eq_true, Bool.not_eq_true'] at hvalid
    exact h.valid hvalid.1 hvalid.2

theorem covers_of_fresh (h : Inv s) (hpending : s.invalidatePending = false) {turn : Turn}
    (hfresh : s.fresh got turn = true)
    (hsame : ∀ src ∈ Source.tracked, got.changes src = s.cached.read.changes src)
    (hbelow : Below s floor) (hread : ∀ src ∈ Source.tracked, floor src ≤ got.changes src) :
    Covers floor s.cached := by
  intro src hsrc
  rcases mem_shown.1 hsrc with rfl | htracked
  · have hvalid : s.valid = true := by
      unfold fresh at hfresh
      rw [Bool.and_eq_true] at hfresh
      exact hfresh.1
    exact (hbelow .service).trans (h.valid hvalid hpending)
  · calc floor src ≤ got.changes src := hread src htracked
      _ = s.cached.read.changes src := hsame src htracked
      _ ≤ s.cached.content src := h.seen src htracked

theorem built_nil (hgot : ∀ src, got.changes src ≤ s.changes src) :
    Built s floor buildOrder { read := got } where
  order := List.suffix_refl buildOrder
  read := hgot
  low src hsrc hleft := absurd (data_mem_buildOrder src hsrc) hleft
  high src hsrc hleft := absurd (data_mem_buildOrder src hsrc) hleft
  newer src hsrc hleft := absurd (data_mem_buildOrder src hsrc) hleft
  seen src hsrc hleft := absurd (data_mem_buildOrder src (mem_shown.2 (Or.inr hsrc))) hleft
  announced hleft := absurd (data_mem_buildOrder .service (by decide)) hleft

theorem inv_check (h : Inv s) {again : Bool} {turn : Turn}
    (htask : s.tasks task = .reading again floor [] got)
    (hcareful : turn.locked = true → Spared s ∧ Unmistaken s got turn) :
    Inv (s.check task again floor got turn) := by
  have hquery := h.query task
  rw [htask] at hquery
  rcases hquery with ⟨hagain, hbelow, hgot, hread⟩
  unfold check
  by_cases hlocked : turn.locked = true
  · rw [if_pos hlocked]
    rcases hcareful hlocked with ⟨hspared, hunmistaken⟩
    have htake := inv_takePending h hspared
    -- Taking the flag changes nothing that the query knows.
    have hpending : s.takePending.invalidatePending = false := by rw [takePending_eq]
    have hbuilder : s.takePending.builder = s.builder := by rw [takePending_eq]
    have hcached : s.takePending.cached = s.cached := by rw [takePending_eq]
    have hbelow' : Below s.takePending floor := by
      rw [takePending_eq]
      exact hbelow
    have hgot' : ∀ src, got.changes src ≤ s.takePending.changes src := by
      rw [takePending_eq]
      exact hgot
    by_cases hfresh : s.takePending.fresh got turn = true
    · rw [if_pos hfresh]
      have hcovers : Covers floor s.takePending.cached := by
        apply covers_of_fresh htake hpending hfresh _ hbelow'
        · exact fun src hsrc => hread src hsrc (by simp)
        · rw [hcached]
          exact hunmistaken hfresh
      cases again with
      | true => exact htake.setTask ⟨hbuilder.trans (hagain rfl), fun _ => hcovers⟩
      | false => exact htake.setTask hcovers
    · rw [if_neg hfresh]
      cases again with
      | true => exact htake.setTask ⟨hbuilder.trans (hagain rfl), hbelow', built_nil hgot'⟩
      | false => exact htake.setTask hbelow'
  · rw [if_neg hlocked]
    cases again with
    | true => exact h.setTask ⟨hagain rfl, fun hok => absurd hok (by decide)⟩
    | false => exact h.setTask trivial

/-! ### Building -/

theorem data_not_mem {work : Work} (hleft : .data src ∉ left) (hne : work ≠ .data src) :
    .data src ∉ work :: left := by
  rw [List.mem_cons, not_or]
  exact ⟨hne.symm, hleft⟩

theorem built_generation (h : Built s floor (.generation src :: left) snapshot) :
    Built s floor left (s.build (.generation src) snapshot) where
  order := (List.suffix_cons _ _).trans h.order
  read other := by
    dsimp only [build, readGeneration]
    by_cases hother : other = src
    · rw [hother, update_self]
    · rw [update_of_ne hother]
      exact h.read other
  low other hother hleft := h.low other hother (data_not_mem hleft (by simp))
  high other hother hleft := h.high other hother (data_not_mem hleft (by simp))
  newer other hother hleft := h.newer other hother (data_not_mem hleft (by simp))
  seen other hother hleft := by
    have hleft' : .data other ∉ Work.generation src :: left := data_not_mem hleft (by simp)
    -- The generation comes before the data, so it is not this one.
    have hne : other ≠ src := by
      rintro rfl
      exact generation_not_mem h.order other hother hleft' List.mem_cons_self
    dsimp only [build, readGeneration]
    rw [update_of_ne hne]
    exact h.seen other hother hleft'
  announced hleft := h.announced (data_not_mem hleft (by simp))

theorem built_data (hinv : Inv s) (hbelow : Below s floor)
    (h : Built s floor (.data src :: left) snapshot) :
    Built s floor left (s.build (.data src) snapshot) where
  order := (List.suffix_cons _ _).trans h.order
  read := h.read
  low other hother hleft := by
    by_cases hne : other = src
    · subst hne
      have hfloor : s.floor other ≤ s.changes other := by
        rcases mem_shown.1 hother with rfl | htracked
        · exact hinv.announced
        · exact (floor_of_mem_tracked s htracked).le
      simp only [build, update_self]
      exact (hbelow other).trans hfloor
    · simp only [build, update_of_ne hne]
      exact h.low other hother (data_not_mem hleft (by simpa using Ne.symm hne))
  high other hother hleft := by
    by_cases hne : other = src
    · rw [hne]
      simp [build, le_refl]
    · simp only [build, update_of_ne hne]
      exact h.high other hother (data_not_mem hleft (by simpa using Ne.symm hne))
  newer other hother hleft := by
    by_cases hne : other = src
    · subst hne
      simp only [build, update_self]
      exact hinv.content other hother
    · simp only [build, update_of_ne hne]
      exact h.newer other hother (data_not_mem hleft (by simpa using Ne.symm hne))
  seen other hother hleft := by
    by_cases hne : other = src
    · rw [hne]
      simp only [build, update_self]
      exact h.read src
    · simp only [build, update_of_ne hne]
      exact h.seen other hother (data_not_mem hleft (by simpa using Ne.symm hne))
  announced hleft := by
    by_cases hne : .service = src
    · subst hne
      exact Or.inr hinv.announced
    · simp only [build, update_of_ne hne]
      exact h.announced (data_not_mem hleft (by simpa using Ne.symm hne))

theorem built_step (hinv : Inv s) (hbelow : Below s floor) {work : Work}
    (h : Built s floor (work :: left) snapshot) : Built s floor left (s.build work snapshot) := by
  cases work with
  | generation src => exact built_generation h
  | data src => exact built_data hinv hbelow h

section

variable (h : Inv s)
include h

theorem inv_store (turn : Turn) (hbuilder : s.builder = some task)
    (hbuilt : Built s floor [] snapshot) :
    Inv ((s.store snapshot turn).setTask task (.leaving floor true)) := by
  refine h.of_task task (.leaving floor true) ?_ ?_ ?_ h.announced ?_ ?_ ?_ h.returned
  · rfl
  · exact fun src hsrc => hbuilt.high src hsrc List.not_mem_nil
  · exact fun src hsrc => hbuilt.seen src hsrc List.not_mem_nil
  · -- It is valid only if the flag was not set during the build.
    intro hvalid _
    refine (hbuilt.announced List.not_mem_nil).resolve_left ?_
    intro hpending
    simp [store, setTask, hpending] at hvalid
  · exact ⟨hbuilder, fun _ src hsrc => hbuilt.low src hsrc List.not_mem_nil⟩
  · exact fun i hi => Since.of_other hbuilder hi rfl rfl
      fun src hsrc => hbuilt.newer src hsrc List.not_mem_nil

/-! ### Runs -/

theorem inv_query (hs : s.query task = some s') : Inv s' := by
  unfold Registry.query at hs
  split at hs
  · cases hs
    apply h.setTask
    refine ⟨fun hagain => absurd hagain (by decide), fun _ => le_rfl, fun _ => Nat.zero_le _, ?_⟩
    exact fun src hsrc hleft => absurd (mem_readOrder src hsrc) hleft
  · cases hs

theorem inv_reading {again : Bool} {left : List Source}
    (htask : s.tasks task = .reading again floor (src :: left) got) :
    Inv (s.setTask task (.reading again floor left (s.readGeneration src got))) := by
  have hquery := h.query task
  rw [htask] at hquery
  rcases hquery with ⟨hagain, hbelow, hgot, hread⟩
  refine h.setTask ⟨hagain, hbelow, fun other => ?_, fun other htracked hleft => ?_⟩
  · dsimp only [readGeneration]
    by_cases hother : other = src
    · rw [hother, update_self]
    · rw [update_of_ne hother]
      exact hgot other
  dsimp only [readGeneration]
  by_cases hother : other = src
  · rw [hother, update_self]
    rw [hother] at htracked
    exact (hbelow src).trans (floor_of_mem_tracked s htracked).le
  · rw [update_of_ne hother]
    exact hread other htracked (by simp [hother, hleft])

theorem inv_take (htask : s.tasks task = .waiting floor) (hnone : s.builder = none) :
    Inv { s.setTask task (.reading true floor readOrder {}) with builder := some task } := by
  have hbelow := h.query task
  rw [htask] at hbelow
  refine h.of_task task (.reading true floor readOrder {}) ?_ h.content h.seen h.announced h.valid
    ?_ ?_ h.returned
  · rfl
  · refine ⟨fun _ => rfl, hbelow, fun _ => Nat.zero_le _, ?_⟩
    exact fun src hsrc hleft => absurd (mem_readOrder src hsrc) hleft
  intro i _
  refine ⟨fun _ => le_rfl, le_rfl, fun _ _ => le_rfl, fun hi => ?_, fun _ _ _ hn => hn⟩
  rw [hnone] at hi
  cases hi

theorem inv_leave {ok : Bool} (htask : s.tasks task = .leaving floor ok) :
    Inv { s.setTask task (if ok then .copying floor else .idle) with builder := none } := by
  have hquery := h.query task
  rw [htask] at hquery
  rcases hquery with ⟨hbuilder, hcovers⟩
  refine h.of_task task (if ok then .copying floor else .idle) ?_ h.content h.seen h.announced
    h.valid ?_ ?_ h.returned
  · rfl
  · cases ok with
    | true => exact hcovers rfl
    | false => trivial
  · exact fun i hi => Since.of_other hbuilder hi rfl rfl fun _ _ => le_rfl

theorem inv_discard : Inv { s with valid := false } := by
  refine h.of_since ?_ ?_ ?_ (fun i => ?_) h.announced ?_
  · rfl
  · rfl
  · rfl
  · exact ⟨fun _ => le_rfl, le_rfl, fun _ _ => le_rfl, fun hi => ⟨hi, rfl⟩, fun _ _ _ hn => hn⟩
  · nofun

theorem inv_copy (hcovers : Covers floor s.cached) :
    Inv { s.setTask task .idle with returned := (floor, s.cached) :: s.returned } := by
  refine h.of_task task .idle ?_ h.content h.seen h.announced h.valid trivial ?_ ?_
  · rfl
  · intro i _
    exact ⟨fun _ => le_rfl, le_rfl, fun _ _ => le_rfl, fun hi => ⟨hi, rfl⟩, fun _ _ _ hn => hn⟩
  intro entry hentry
  rcases List.mem_cons.1 hentry with rfl | hentry
  · exact hcovers
  · exact h.returned entry hentry

theorem inv_go {turn : Turn} (hcareful : Careful s (.go task turn))
    (hs : s.go task turn = some s') : Inv s' := by
  have hquery := h.query task
  unfold go at hs
  cases htask : s.tasks task with
  | idle =>
    rw [htask] at hs
    cases hs
  | reading again floor left got =>
    rw [htask] at hs
    cases left with
    | nil =>
      cases hs
      apply inv_check h htask
      intro hlocked
      apply hcareful hlocked got
      unfold looking
      rw [htask]
      rfl
    | cons src left =>
      cases hs
      exact inv_reading h htask
  | waiting floor =>
    rw [htask] at hs
    cases hbuilder : s.builder with
    | none =>
      rw [hbuilder] at hs
      cases hs
      exact inv_take h htask hbuilder
    | some other =>
      rw [hbuilder] at hs
      cases hs
  | building floor left snapshot =>
    rw [htask] at hs hquery
    rcases hquery with ⟨hbuilder, hbelow, hbuilt⟩
    cases left with
    | nil =>
      by_cases hlocked : turn.locked = true
      · rw [← Option.some.inj ((if_pos hlocked).symm.trans hs)]
        exact inv_store h turn hbuilder hbuilt
      · rw [← Option.some.inj ((if_neg hlocked).symm.trans hs)]
        exact h.setTask ⟨hbuilder, fun hok => absurd hok (by decide)⟩
    | cons work left =>
      cases hs
      apply h.setTask
      by_cases hok : turn.built = true
      · rw [if_pos hok]
        exact ⟨hbuilder, hbelow, built_step h hbelow hbuilt⟩
      · rw [if_neg hok]
        exact hbuilder
  | failing floor =>
    rw [htask] at hs hquery
    by_cases hlocked : turn.locked = true
    · rw [← Option.some.inj ((if_pos hlocked).symm.trans hs)]
      exact (inv_discard h).setTask ⟨hquery, fun hok => absurd hok (by decide)⟩
    · rw [← Option.some.inj ((if_neg hlocked).symm.trans hs)]
      exact h.setTask ⟨hquery, fun hok => absurd hok (by decide)⟩
  | leaving floor ok =>
    rw [htask] at hs
    cases hs
    exact inv_leave h htask
  | copying floor =>
    rw [htask] at hs hquery
    by_cases hlocked : turn.locked = true
    · rw [← Option.some.inj ((if_pos hlocked).symm.trans hs)]
      exact inv_copy h hquery
    · rw [← Option.some.inj ((if_neg hlocked).symm.trans hs)]
      exact h.setTask trivial

theorem inv_step {act : RegistryStep} (hcareful : Careful s act)
    (hs : registryStep s act = some s') : Inv s' := by
  cases act with
  | query task => exact inv_query h hs
  | go task turn => exact inv_go h hcareful hs
  | change src =>
    cases hs
    exact inv_change h src
  | invalidate locked =>
    cases hs
    exact inv_invalidate h hcareful
  | configEvent =>
    cases hs
    exact inv_announce h

end

theorem inv_atStart (generation : Source → UInt32) : Inv (atStart generation) where
  content _ _ := le_rfl
  seen _ _ := le_rfl
  announced := le_rfl
  valid hvalid := absurd hvalid Bool.false_ne_true
  query _ := trivial
  returned _ hentry := nomatch hentry

/-- A task asks for the snapshot, and it has to be built. -/
def firstQuery (task : Nat) : List RegistryStep :=
  .query task :: List.replicate 28 (.go task {})

/-- A task asks for the snapshot, and the one in the cache is fresh. -/
def nextQuery (task : Nat) : List RegistryStep :=
  .query task :: List.replicate 8 (.go task {})

/-- A snapshot is built, the rooms change, and another one is built. -/
def roomChanged : List RegistryStep :=
  firstQuery 0 ++ [.change .room, .configEvent] ++ firstQuery 1 ++ nextQuery 0

/-- Two changes of the devices and one of the rooms fold to the number there was before. -/
def folded : List RegistryStep :=
  firstQuery 0 ++ [.change .device, .change .device, .change .room] ++ nextQuery 1

/-- The services change and an invalidation is called during a build. -/
def overwritten : List RegistryStep :=
  (.query 0 :: List.replicate 20 (.go 0 {}) : List RegistryStep) ++
    [.change .service, .invalidate true] ++ List.replicate 8 (.go 0 {}) ++ nextQuery 1

/-- The services change and an event is handled during a build, and another query takes
    the flag. -/
def taken : List RegistryStep :=
  (.query 0 :: List.replicate 20 (.go 0 {}) : List RegistryStep) ++
    [.change .service, .configEvent, .query 1] ++ List.replicate 7 (.go 1 {}) ++
    List.replicate 8 (.go 0 {}) ++ nextQuery 2

/-- The state of a source that the last query had to show, and the one it has shown. -/
def lastReturned (src : Source) (s : Registry) : Option (Nat × Nat) :=
  s.returned.head?.map fun entry => (entry.1 src, entry.2.content src)

/-- No run makes a query return a stale snapshot. -/
def AlwaysFresh : Prop :=
  ∀ generation acts s, Lib.run registryStep (atStart generation) acts = some s → NeverStale s

end Registry

end SceneHub.Hub
