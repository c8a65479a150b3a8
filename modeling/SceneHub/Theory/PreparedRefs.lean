import SceneHub.Lib.Names
import SceneHub.Session.Prepare

/-!
# Prepared References

The table of a prepared scenario only grows while it is built, and an entry that
is looked up a second time is found the same. So an index keeps its meaning, and
in the end each place of the scenario points to the events it names, in their
order.

## Main definitions

* `Resolved`: What looking up an event gives.
* `TableSound`: Every entry of the table is what its pair resolves to.
* `PreparedAt`: A place of the scenario points to its events.

## Theorems

* `prepareEventRef_ok`: Entering one event.
* `preparePlaces_ok`: Preparing the places of a loop.
* `prepared_refs`: Preparing a whole scenario.
-/

namespace SceneHub

variable {eventRef : Stored.WaitDeviceEvent} {eventRefs : List Stored.WaitDeviceEvent}
  {requireEnabled : Bool} {refs refs' : List PreparedRef} {resolution : PreparedEventResolution}
  {ref : PreparedEventRef} {is : List Nat}

variable {cat : Catalogue}

/-- The entry is what looking up the event gives. -/
def Resolved (cat : Catalogue) (eventRef : Stored.WaitDeviceEvent)
    (ref : PreparedEventRef) : Prop :=
  resolveDeviceEventRef cat eventRef false = .ok ref

def DeviceEnabled (cat : Catalogue) (deviceId : String) : Prop :=
  ∃ device, cat.device deviceId = .ok device ∧ device.enabled = true

theorem resolve_enabled (h : resolveDeviceEventRef cat eventRef requireEnabled = .ok ref) :
    Resolved cat eventRef ref ∧ (requireEnabled = true → DeviceEnabled cat eventRef.deviceId) := by
  unfold Resolved
  unfold resolveDeviceEventRef at h ⊢
  split at h
  · cases h
  · next hids =>
      rw [if_neg hids]
      cases hdevice : cat.device eventRef.deviceId with
      | error err =>
        rw [hdevice] at h
        cases h
      | ok device =>
        rw [hdevice] at h
        simp only at h ⊢
        split at h
        · cases h
        · next hoff =>
            have hnot : ¬ ((false : Bool) = true ∧ (!device.enabled) = true) := by simp
            rw [if_neg hnot]
            refine ⟨h, fun hrequired => ⟨device, hdevice, ?_⟩⟩
            by_cases henabled : device.enabled = true
            · exact henabled
            · exact absurd ⟨hrequired, by simpa using henabled⟩ hoff

theorem resolved_ids (h : Resolved cat eventRef ref) :
    ref.waitMatch.deviceId = eventRef.deviceId ∧ ref.waitMatch.eventId = eventRef.eventId := by
  unfold Resolved resolveDeviceEventRef at h
  split at h
  · cases h
  split at h
  · cases h
  split at h
  · cases h
  split at h
  · cases h
  · cases h
    exact ⟨rfl, rfl⟩

theorem resolveDeviceEventRef_congr {a b : Stored.WaitDeviceEvent}
    (hdevice : a.deviceId = b.deviceId) (hevent : a.eventId = b.eventId) (requireEnabled : Bool) :
    resolveDeviceEventRef cat a requireEnabled = resolveDeviceEventRef cat b requireEnabled := by
  unfold resolveDeviceEventRef
  rw [hdevice, hevent]

/-- The entry is what its pair resolves to. -/
structure RefSound (cat : Catalogue) (dst : PreparedRef) : Prop where
  resolved : Resolved cat
    { deviceId := dst.ref.waitMatch.deviceId, eventId := dst.ref.waitMatch.eventId } dst.ref
  enabled : dst.enabledDeviceValidated = true → DeviceEnabled cat dst.ref.waitMatch.deviceId

structure TableSound (cat : Catalogue) (refs : List PreparedRef) : Prop where
  bounded : refs.length ≤ preparedEventRefMax
  entries : ∀ dst ∈ refs, RefSound cat dst

theorem RefSound.of_resolve (h : resolveDeviceEventRef cat eventRef requireEnabled = .ok ref) :
    RefSound cat { ref, enabledDeviceValidated := requireEnabled } := by
  rcases resolve_enabled h with ⟨hresolved, henabled⟩
  rcases resolved_ids hresolved with ⟨hdevice, hevent⟩
  refine ⟨?_, fun hrequired => ?_⟩
  · unfold Resolved
    rw [resolveDeviceEventRef_congr hdevice hevent]
    exact hresolved
  · have hthere : DeviceEnabled cat eventRef.deviceId := henabled hrequired
    rw [← hdevice] at hthere
    exact hthere

theorem RefSound.resolves {dst : PreparedRef} (h : RefSound cat dst)
    (hfor : dst.isFor eventRef = true) : Resolved cat eventRef dst.ref ∧
      (dst.enabledDeviceValidated = true → DeviceEnabled cat eventRef.deviceId) := by
  unfold PreparedRef.isFor at hfor
  rw [Bool.and_eq_true, decide_eq_true_eq, decide_eq_true_eq] at hfor
  refine ⟨?_, fun hvalidated => hfor.1 ▸ h.enabled hvalidated⟩
  unfold Resolved
  rw [← h.resolved]
  exact resolveDeviceEventRef_congr hfor.1.symm hfor.2.symm false

/-- The index points to what the event resolves to. -/
def Points (cat : Catalogue) (refs : List PreparedEventRef) (i : Nat)
    (eventRef : Stored.WaitDeviceEvent) : Prop :=
  ∃ ref, refs[i]? = some ref ∧ Resolved cat eventRef ref

theorem Points.mono {refs refs' : List PreparedEventRef} (h : refs <+: refs') {i : Nat}
    (hi : Points cat refs i eventRef) : Points cat refs' i eventRef := by
  rcases hi with ⟨ref, href, hresolved⟩
  exact ⟨ref, Lib.getElem?_of_initial h href, hresolved⟩

theorem map_ref_set {i : Nat} {dst : PreparedRef} (hi : refs[i]? = some dst) (validated : Bool) :
    (refs.set i { ref := dst.ref, enabledDeviceValidated := validated }).map PreparedRef.ref =
      refs.map PreparedRef.ref := by
  rcases List.getElem?_eq_some_iff.1 hi with ⟨hlt, hget⟩
  have hlt' : i < (refs.map PreparedRef.ref).length := by
    rw [List.length_map]
    exact hlt
  have hself := List.set_getElem_self hlt'
  rw [List.getElem_map, hget] at hself
  rw [List.map_set]
  exact hself

theorem prepareEventRef_ok {i : Nat} (hsound : TableSound cat refs)
    (h : prepareEventRef cat refs eventRef requireEnabled = .ok (i, refs')) :
    TableSound cat refs' ∧ refs.map PreparedRef.ref <+: refs'.map PreparedRef.ref ∧
      Points cat (refs'.map PreparedRef.ref) i eventRef ∧
      (requireEnabled = true → DeviceEnabled cat eventRef.deviceId) := by
  unfold prepareEventRef at h
  split at h
  · cases h
  cases hfind : refs.findIdx? fun dst => dst.isFor eventRef with
  | some k =>
    rw [hfind] at h
    rcases List.findIdx?_eq_some_iff_getElem.1 hfind with ⟨hlt, hfor, -⟩
    have hk : refs[k]? = some refs[k] := List.getElem?_eq_getElem hlt
    have hentry := hsound.entries refs[k] (List.getElem_mem hlt)
    rcases hentry.resolves hfor with ⟨hresolved, henabled⟩
    simp only at h
    split at h
    · -- the pair was there for a trigger and is looked up again
      split at h
      · cases h
      rename_i ref hresolve
      cases h
      rcases resolve_enabled hresolve with ⟨hagain, hthere⟩
      have hsame : ref = refs[i].ref := by
        unfold Resolved at hagain hresolved
        rw [hagain] at hresolved
        exact Except.ok.inj hresolved
      subst hsame
      have hmap := map_ref_set hk true
      refine ⟨⟨?_, ?_⟩, ?_, ?_, fun _ => hthere rfl⟩
      · rw [List.length_set]
        exact hsound.bounded
      · intro dst hdst
        rcases List.mem_or_eq_of_mem_set hdst with hold | hnew
        · exact hsound.entries dst hold
        · rw [hnew]
          exact RefSound.of_resolve hresolve
      · exact hmap ▸ List.prefix_rfl
      · rw [hmap]
        refine ⟨refs[i].ref, ?_, hresolved⟩
        rw [List.getElem?_map, hk]
        rfl
    · next hchecked =>
        cases h
        refine ⟨hsound, List.prefix_rfl, ⟨refs[i].ref, ?_, hresolved⟩, fun hrequired => ?_⟩
        · rw [List.getElem?_map, hk]
          rfl
        rw [hk] at hchecked
        by_cases hvalidated : refs[i].enabledDeviceValidated = true
        · exact henabled hvalidated
        · exact absurd ⟨hrequired, by simpa using hvalidated⟩ hchecked
  | none =>
    rw [hfind] at h
    simp only at h
    split at h
    · cases h
    · next hroom =>
        split at h
        · cases h
        rename_i ref hresolve
        cases h
        rcases resolve_enabled hresolve with ⟨hresolved, henabled⟩
        refine ⟨⟨?_, ?_⟩, ?_, ⟨ref, ?_, hresolved⟩, henabled⟩
        · rw [List.length_append, List.length_singleton]
          omega
        · intro dst hdst
          rcases List.mem_append.1 hdst with hold | hnew
          · exact hsound.entries dst hold
          · rw [List.mem_singleton.1 hnew]
            exact RefSound.of_resolve hresolve
        · rw [List.map_append]
          exact List.prefix_append _ _
        · have hlen : (refs.map PreparedRef.ref).length = refs.length := List.length_map _
          rw [List.map_append, List.getElem?_append_right (Nat.le_of_eq hlen), hlen,
            Nat.sub_self]
          rfl

/-- The indices of a place point to its events, one by one. -/
def PointsAll (cat : Catalogue) (refs : List PreparedEventRef) (is : List Nat)
    (eventRefs : List Stored.WaitDeviceEvent) : Prop :=
  List.Forall₂ (Points cat refs) is eventRefs

theorem PointsAll.mono {refs refs' : List PreparedEventRef} (h : refs <+: refs')
    (hi : PointsAll cat refs is eventRefs) :
    PointsAll cat refs' is eventRefs := List.Forall₂.imp (fun _ _ hp => hp.mono h) hi

theorem prepareEventRefs_ok (hsound : TableSound cat refs)
    (h : prepareEventRefs cat requireEnabled eventRefs refs = .ok (is, refs')) :
    TableSound cat refs' ∧ refs.map PreparedRef.ref <+: refs'.map PreparedRef.ref ∧
      PointsAll cat (refs'.map PreparedRef.ref) is eventRefs ∧
      (requireEnabled = true → ∀ eventRef ∈ eventRefs, DeviceEnabled cat eventRef.deviceId) := by
  induction eventRefs generalizing refs is with
  | nil =>
    cases h
    exact ⟨hsound, List.prefix_rfl, .nil, nofun⟩
  | cons eventRef rest ih =>
    rw [prepareEventRefs] at h
    cases hfirst : prepareEventRef cat refs eventRef requireEnabled with
    | error err =>
      rw [hfirst] at h
      cases h
    | ok out =>
      rcases out with ⟨i, mid⟩
      rw [hfirst] at h
      simp only at h
      cases hrest : prepareEventRefs cat requireEnabled rest mid with
      | error err =>
        rw [hrest] at h
        cases h
      | ok out =>
        rcases out with ⟨js, last⟩
        rw [hrest] at h
        cases h
        rcases prepareEventRef_ok hsound hfirst with ⟨hmid, hgrows, hpoints, henabled⟩
        rcases ih hmid hrest with ⟨hlast, hgrows', hpoints', henabled'⟩
        refine ⟨hlast, hgrows.trans hgrows', .cons (hpoints.mono hgrows') hpoints', ?_⟩
        intro hrequired other hmem
        rcases List.mem_cons.1 hmem with heq | hmem
        · rw [heq]
          exact henabled hrequired
        · exact henabled' hrequired other hmem

/-- A place that names no events keeps the zeroed entry. -/
def PlaceAt (cat : Catalogue) (requireEnabled : Bool) (refs : List PreparedEventRef) :
    Option (List Stored.WaitDeviceEvent) → PreparedEventResolution → Prop
  | none, resolution => resolution = {}
  | some eventRefs, resolution =>
    resolution.present = true ∧ 0 < eventRefs.length ∧
      eventRefs.length ≤ waitEventGroupMaxEvents ∧
      PointsAll cat refs resolution.eventRefIndices eventRefs ∧
      (requireEnabled = true → ∀ eventRef ∈ eventRefs, DeviceEnabled cat eventRef.deviceId)

theorem PlaceAt.mono {refs refs' : List PreparedEventRef} (h : refs <+: refs')
    {place : Option (List Stored.WaitDeviceEvent)}
    (hat : PlaceAt cat requireEnabled refs place resolution) :
    PlaceAt cat requireEnabled refs' place resolution := by
  cases place with
  | none => exact hat
  | some eventRefs =>
    rcases hat with ⟨hpresent, hsome, hfew, hpoints, henabled⟩
    exact ⟨hpresent, hsome, hfew, hpoints.mono h, henabled⟩

theorem prepareEventResolution_ok (hsound : TableSound cat refs)
    (h : prepareEventResolution cat requireEnabled eventRefs refs = .ok (resolution, refs')) :
    TableSound cat refs' ∧ refs.map PreparedRef.ref <+: refs'.map PreparedRef.ref ∧
      PlaceAt cat requireEnabled (refs'.map PreparedRef.ref) (some eventRefs) resolution := by
  unfold prepareEventResolution at h
  split at h
  · cases h
  · next hcount =>
      cases hrefs : prepareEventRefs cat requireEnabled eventRefs refs with
      | error err =>
        rw [hrefs] at h
        cases h
      | ok out =>
        rcases out with ⟨is, last⟩
        rw [hrefs] at h
        cases h
        rcases prepareEventRefs_ok hsound hrefs with ⟨hlast, hgrows, hpoints, henabled⟩
        refine ⟨hlast, hgrows, rfl, ?_, ?_, hpoints, henabled⟩ <;> omega

theorem preparePlaces_ok {places : List (Option (List Stored.WaitDeviceEvent))}
    {out : List PreparedEventResolution} (hsound : TableSound cat refs)
    (h : preparePlaces cat requireEnabled places refs = .ok (out, refs')) :
    TableSound cat refs' ∧ refs.map PreparedRef.ref <+: refs'.map PreparedRef.ref ∧
      List.Forall₂ (PlaceAt cat requireEnabled (refs'.map PreparedRef.ref)) places out := by
  induction places generalizing refs out with
  | nil =>
    cases h
    exact ⟨hsound, List.prefix_rfl, .nil⟩
  | cons place rest ih =>
    cases place with
    | none =>
      rw [preparePlaces] at h
      cases hrest : preparePlaces cat requireEnabled rest refs with
      | error err =>
        rw [hrest] at h
        cases h
      | ok tail =>
        rcases tail with ⟨more, last⟩
        rw [hrest] at h
        cases h
        rcases ih hsound hrest with ⟨hlast, hgrows, hat⟩
        exact ⟨hlast, hgrows, .cons rfl hat⟩
    | some eventRefs =>
      rw [preparePlaces] at h
      cases hfirst : prepareEventResolution cat requireEnabled eventRefs refs with
      | error err =>
        rw [hfirst] at h
        cases h
      | ok head =>
        rcases head with ⟨resolution, mid⟩
        rw [hfirst] at h
        simp only at h
        cases hrest : preparePlaces cat requireEnabled rest mid with
        | error err =>
          rw [hrest] at h
          cases h
        | ok tail =>
          rcases tail with ⟨more, last⟩
          rw [hrest] at h
          cases h
          rcases prepareEventResolution_ok hsound hfirst with ⟨hmid, hgrows, hhere⟩
          rcases ih hmid hrest with ⟨hlast, hgrows', hat⟩
          exact ⟨hlast, hgrows.trans hgrows', .cons (hhere.mono hgrows') hat⟩

/-! ### The prepared scenario -/

def MatchFor (found : WaitEventMatch) (eventRef : Stored.WaitDeviceEvent) : Prop :=
  found.deviceId = eventRef.deviceId ∧ found.eventId = eventRef.eventId

/-- What the session reads at a place of the prepared scenario. -/
def PreparedAt (cat : Catalogue) (requireEnabled : Bool) (prepared : PreparedScenario) :
    Option (List Stored.WaitDeviceEvent) → PreparedEventResolution → Prop
  | none, resolution => resolution = {}
  | some eventRefs, resolution =>
    resolution.present = true ∧
      (∀ i ∈ resolution.eventRefIndices, i < prepared.eventRefs.length) ∧
      List.Forall₂ (Points cat prepared.eventRefs) resolution.eventRefIndices eventRefs ∧
      (∃ found, expandPreparedWaitResolution prepared resolution = some found ∧
        List.Forall₂ MatchFor found eventRefs) ∧
      (requireEnabled = true → ∀ eventRef ∈ eventRefs, DeviceEnabled cat eventRef.deviceId)

theorem PointsAll.lt {refs : List PreparedEventRef} (h : PointsAll cat refs is eventRefs) :
    ∀ i ∈ is, i < refs.length := by
  induction h with
  | nil =>
    nofun
  | cons hpoints _ ih =>
    intro i hi
    rcases List.mem_cons.1 hi with heq | hi
    · rcases hpoints with ⟨ref, href, -⟩
      rw [heq]
      exact (List.getElem?_eq_some_iff.1 href).1
    · exact ih i hi

theorem expandRefs_ok {refs : List PreparedEventRef} (hmax : refs.length ≤ preparedEventRefMax)
    (h : PointsAll cat refs is eventRefs) :
    ∃ found, expandRefs refs is = some found ∧ List.Forall₂ MatchFor found eventRefs := by
  induction h with
  | nil => exact ⟨[], rfl, .nil⟩
  | cons hpoints _ ih =>
    rcases hpoints with ⟨ref, href, hresolved⟩
    rcases ih with ⟨found, hfound, hmatches⟩
    have hlt := (List.getElem?_eq_some_iff.1 href).1
    refine ⟨ref.waitMatch :: found, ?_, .cons (resolved_ids hresolved) hmatches⟩
    rw [expandRefs, if_neg (by omega), href]
    rw [hfound]
    rfl

theorem PlaceAt.prepared {prepared : PreparedScenario}
    (hmax : prepared.eventRefs.length ≤ preparedEventRefMax)
    {place : Option (List Stored.WaitDeviceEvent)}
    (h : PlaceAt cat requireEnabled prepared.eventRefs place resolution) :
    PreparedAt cat requireEnabled prepared place resolution := by
  cases place with
  | none => exact h
  | some eventRefs =>
    rcases h with ⟨hpresent, hsome, hfew, hpoints, henabled⟩
    have hlen : resolution.eventRefIndices.length = eventRefs.length := hpoints.length_eq
    rcases expandRefs_ok hmax hpoints with ⟨found, hfound, hmatches⟩
    refine ⟨hpresent, hpoints.lt, hpoints, ⟨found, ?_, hmatches⟩, henabled⟩
    unfold expandPreparedWaitResolution
    rw [if_neg]
    · exact hfound
    rw [hpresent, hlen]
    simp only [Bool.not_true, Bool.false_eq_true, false_or]
    omega

/-- Every place of a prepared scenario points to the events it names. -/
theorem prepared_refs (cat : Catalogue) (s : Stored.Scenario) (prepared : PreparedScenario)
    (h : prepareSessionScenario cat s = .ok prepared) :
    prepared.eventRefs.length ≤ preparedEventRefMax ∧
      List.Forall₂ (PreparedAt cat true prepared) s.stepPlaces prepared.stepWaits ∧
      List.Forall₂ (PreparedAt cat true prepared) s.actionPlaces prepared.reactiveActionWaits ∧
      List.Forall₂ (PreparedAt cat false prepared) s.triggerPlaces prepared.reactiveTriggers := by
  unfold prepareSessionScenario at h
  split at h
  · cases h
  cases hsteps : preparePlaces cat true s.stepPlaces [] with
  | error err =>
    rw [hsteps] at h
    cases h
  | ok out =>
    rcases out with ⟨stepWaits, refs₁⟩
    rw [hsteps] at h
    simp only at h
    cases hactions : preparePlaces cat true s.actionPlaces refs₁ with
    | error err =>
      rw [hactions] at h
      cases h
    | ok out =>
      rcases out with ⟨actionWaits, refs₂⟩
      rw [hactions] at h
      simp only at h
      cases htriggers : preparePlaces cat false s.triggerPlaces refs₂ with
      | error err =>
        rw [htriggers] at h
        cases h
      | ok out =>
        rcases out with ⟨triggers, refs₃⟩
        rw [htriggers] at h
        cases h
        have hempty : TableSound cat [] :=
          ⟨Nat.zero_le _, nofun⟩
        rcases preparePlaces_ok hempty hsteps with ⟨hsound₁, -, hat₁⟩
        rcases preparePlaces_ok hsound₁ hactions with ⟨hsound₂, hgrows₂, hat₂⟩
        rcases preparePlaces_ok hsound₂ htriggers with ⟨hsound₃, hgrows₃, hat₃⟩
        have hmax : (refs₃.map PreparedRef.ref).length ≤ preparedEventRefMax := by
          rw [List.length_map]
          exact hsound₃.bounded
        -- the table only grew after a place was filled in
        refine ⟨hmax, ?_, ?_, ?_⟩
        · exact hat₁.imp fun _ _ hat => (hat.mono (hgrows₂.trans hgrows₃)).prepared hmax
        · exact hat₂.imp fun _ _ hat => (hat.mono hgrows₃).prepared hmax
        · exact hat₃.imp fun _ _ hat => hat.prepared hmax

/-- A hatch that every lookup finds enabled. -/
def hatchCatalogue : Catalogue where
  device := fun _ => .ok { enabled := true, clientId := "node" }
  event := fun _ eventId => .ok { id := eventId }

def hatchOpened : Stored.WaitDeviceEvent := { deviceId := "hatch", eventId := "opened" }

def hatchClosed : Stored.WaitDeviceEvent := { deviceId := "hatch", eventId := "closed" }

/-- A step, an action and a trigger share the events of the hatch. -/
def hatchScenario : Stored.Scenario where
  id := "escape"
  name := "Escape"
  roomId := "cellar"
  steps := [{ id := "open", data := .waitDeviceEvent hatchOpened }]
  reactiveActions := [{ data := .waitAnyDeviceEvent { events := [hatchClosed, hatchOpened] } }]
  branches :=
    [{ id := "shut", name := "Shut",
       reaction :=
        { trigger := { kind := .deviceEvent, deviceId := "hatch", eventId := "closed" } } }]

def hatchRef (eventId : String) : PreparedEventRef :=
  { waitMatch :=
      { deviceId := "hatch", eventId := eventId, eventType := eventId, sourceId := "node" } }

def hatchPrepared : PreparedScenario where
  eventRefs := [hatchRef "opened", hatchRef "closed"]
  stepWaits := [{ present := true, eventRefIndices := [0] }]
  reactiveActionWaits := [{ present := true, eventRefIndices := [1, 0] }]
  reactiveTriggers := [{ present := true, eventRefIndices := [1] }]

/-- Two events are kept for the four places that name them. -/
theorem prepared_refs_hatch : hatchPrepared.eventRefs.length ≤ preparedEventRefMax ∧
      List.Forall₂ (PreparedAt hatchCatalogue true hatchPrepared) hatchScenario.stepPlaces
        hatchPrepared.stepWaits ∧
      List.Forall₂ (PreparedAt hatchCatalogue true hatchPrepared) hatchScenario.actionPlaces
        hatchPrepared.reactiveActionWaits ∧
      List.Forall₂ (PreparedAt hatchCatalogue false hatchPrepared) hatchScenario.triggerPlaces
        hatchPrepared.reactiveTriggers :=
  prepared_refs hatchCatalogue hatchScenario hatchPrepared (by decide +kernel)

end SceneHub
