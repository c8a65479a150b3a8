import Mathlib.Data.List.Chain
import SceneHub.Theory.RuleTables

/-!
# Compiled Conditions

A condition compiles into rows of one table: its own row, then the rows of its
parts. The row of a group is filled in last, and the row of a part gets its
sibling when the next part has been compiled.

`CondAt` says that a row, with the rows below it, stands for a condition of the
tree. Compiling a condition makes it so in every later bundle, and a row that
stands for a condition is evaluated as the tree is. The compiler and the engine
meet there: neither proof looks at the other.

## Main definitions

* `CondAt`: A row stands for a condition.
* `Compiled`, `CompiledParts`: What compiling a condition, or its parts, yields.

## Theorems

* `CondAt.matches`: Such a row is evaluated as the tree is.
* `compileCondition_spec`: The compiler makes such rows.
-/

namespace SceneHub.Node

variable {config : Option NodeConfig} {condition : Json} {b b' F : Bundle} {children : List Nat}
  {row : CompiledCondition} {kind : String} {items : List Json} {i : Nat}

/-! ### Conditions without parts -/

theorem Bundle.named_states (hF : F.WellNamed) (s : EngineState) {key : String}
    (h : F.stateKeys[i]? = some key) : (F.named s).states key = s.states i :=
  Lib.byName_eq hF.stateKeys s.states {} h

theorem Bundle.stateIndex_lt (hF : F.WellNamed) {key : String} (h : F.stateKeys[i]? = some key) :
    i < maxStateKeys := by
  rcases List.getElem?_eq_some_iff.1 h with ⟨hlt, -⟩
  exact Nat.lt_of_lt_of_le hlt hF.stateRoom

/-- A place in a table without duplicates is meant exactly by its name. -/
theorem bind_getElem?_eq {names : List String} (hnodup : names.Nodup) {name : String}
    (h : names[i]? = some name) (place : Option Nat) :
    place.bind (names[·]?) = some name ↔ place = some i := by
  constructor
  · intro hbind
    rcases Option.bind_eq_some_iff.1 hbind with ⟨k, rfl, hk⟩
    have hik := Lib.idxOf?_of_getElem? hnodup h
    rw [Lib.idxOf?_of_getElem? hnodup hk] at hik
    exact hik
  · intro hplace
    rw [hplace]
    exact h

theorem all_of_mapM {α β : Type} {f : α → Option β} {p : α → Bool} {q : β → Bool}
    (hagree : ∀ x y, f x = some y → p x = q y) {xs : List α} {ys : List β}
    (h : xs.mapM f = some ys) : xs.all p = ys.all q := by
  induction xs generalizing ys with
  | nil =>
    cases h
    rfl
  | cons x rest ih =>
    rw [List.mapM_cons] at h
    rcases Option.bind_eq_some_iff.1 h with ⟨y, hy, hrest⟩
    rcases Option.bind_eq_some_iff.1 hrest with ⟨ys', hys, hpure⟩
    cases hpure
    rw [List.all_cons, List.all_cons, hagree x y hy, ih hys]

theorem treeInput_of_channel {name : String} {channel : Nat}
    (h : resolveInputChannel config name = some channel) (s : EngineState) (F : Bundle)
    (level : Int) :
    treeInput config (F.named s) (.string name) level = inputConditionMatches s channel level := by
  simp only [treeInput, h]
  rfl

theorem groupChannels_all {channels : List Nat} (h : groupChannels config items = some channels)
    (s : EngineState) (F : Bundle) (level : Int) :
    (items.all fun input => treeInput config (F.named s) input level) =
      channels.all fun channel => inputConditionMatches s channel level := by
  unfold groupChannels at h
  split at h
  · cases h
  refine all_of_mapM ?_ h
  intro input channel hchannel
  cases input with
  | string name => exact treeInput_of_channel hchannel s F level
  | _ => cases hchannel

theorem compileLeafCondition_onlyNames
    (h : compileLeafCondition config kind condition b = .ok (row, b')) :
    b.OnlyNames b' ∧ row.nextSiblingIndex = none := by
  unfold compileLeafCondition at h
  split at h
  · split at h
    · obtain ⟨happend, i, -, rfl⟩ := numbered h
      exact ⟨(appendStateKey_ok happend).1, rfl⟩
    · cases h
  split at h
  · split at h
    · obtain ⟨happend, i, -, rfl⟩ := numbered h
      exact ⟨(appendPhaseName_ok happend).1, rfl⟩
    · cases h
  -- The other kinds add no name.
  split at h
  · repeat' split at h
    all_goals first | cases h; exact ⟨.refl b, rfl⟩ | cases h
  split at h
  · repeat' split at h
    all_goals first | cases h; exact ⟨.refl b, rfl⟩ | cases h
  split at h
  · repeat' split at h
    all_goals first | cases h; exact ⟨.refl b, rfl⟩ | cases h
  · cases h

theorem leaf_matches {config : Option NodeConfig} {kind : String} {condition : Json}
    {b b' F : Bundle} {row : CompiledCondition} {next : Option Nat} {i : Nat}
    (h : compileLeafCondition config kind condition b = .ok (row, b')) (hnames : b'.NamesWithin F)
    (hF : F.WellNamed) (hrow : F.conditions[i]? = some { row with nextSiblingIndex := next })
    (s : EngineState) (event : RuleEvent Nat) (depth : Nat) :
    conditionMatches F s event (depth + 1) (some i) =
      treeLeafCondition config (F.named s) (event.named F) kind condition := by
  rw [conditionMatches, hrow]
  unfold compileLeafCondition at h
  unfold treeLeafCondition
  by_cases hstate : kind = "state_equals"
  · rw [if_pos hstate] at h ⊢
    split at h
    · next key value hkey hvalue =>
        obtain ⟨-, k, hk, rfl⟩ := numbered h
        have hplace := Lib.getElem?_of_initial hnames.stateKeys hk
        simp [hkey, hvalue, Bundle.stateIndex_lt hF hplace, Bundle.named_states hF s hplace]
    · cases h
  rw [if_neg hstate] at h ⊢
  by_cases hphase : kind = "phase_is"
  · rw [if_pos hphase] at h ⊢
    split at h
    · next phase hget =>
        obtain ⟨-, k, hk, rfl⟩ := numbered h
        have hplace := Lib.getElem?_of_initial hnames.phaseNames hk
        simp only [hget, Bundle.named, bind_getElem?_eq hF.phaseNames hplace]
    · cases h
  rw [if_neg hphase] at h ⊢
  by_cases hinput : kind = "input_equals"
  · rw [if_pos hinput] at h ⊢
    split at h
    · next input value hget hvalue =>
        split at h
        · next channel hchannel =>
            cases h
            simp only [hget, hvalue, treeInput_of_channel hchannel]
        · cases h
    · cases h
  rw [if_neg hinput] at h ⊢
  by_cases hfield : kind = "event_field_equals"
  · rw [if_pos hfield] at h ⊢
    split at h
    · next field value hget hvalue =>
        split at h
        · cases h
        · next htoken =>
            cases h
            simp only [hget, hvalue, Decidable.not_not.1 htoken, decide_true, Bool.true_and,
              RuleEvent.named]
            rfl
    · cases h
  rw [if_neg hfield] at h ⊢
  by_cases hall : kind = "all_inputs_equal"
  · rw [if_pos hall] at h ⊢
    split at h
    · next items value hget hvalue =>
        split at h
        · next channels hchannels =>
            cases h
            simp only [hget, hvalue, groupChannels_all hchannels s F]
        · cases h
    · cases h
  · rw [if_neg hall] at h
    cases h

/-! ### Rows that stand for conditions -/

/-- The row of a part is followed by the row of the next part. -/
def Follows (F : Bundle) (child child' : Nat) : Prop :=
  (F.conditions[child]?).bind CompiledCondition.nextSiblingIndex = some child'

/-- A row, with the rows below it, stands for a condition. -/
inductive CondAt (config : Option NodeConfig) (F : Bundle) : Nat → Json → Prop
  | leaf {i : Nat} {condition : Json} {kind : String} {b b' : Bundle} {row : CompiledCondition}
      {next : Option Nat} (hkind : condition.get "kind" = some (.string kind))
      (hnot : kind ≠ "not") (hgroup : ¬(kind = "all" ∨ kind = "any"))
      (hcompile : compileLeafCondition config kind condition b = .ok (row, b'))
      (hnames : b'.NamesWithin F)
      (hrow : F.conditions[i]? = some { row with nextSiblingIndex := next }) :
      CondAt config F i condition
  | not {i child : Nat} {condition inner : Json} {row : CompiledCondition}
      (hkind : condition.get "kind" = some (.string "not"))
      (hinner : condition.get "condition" = some inner)
      (hrow : F.conditions[i]? = some row) (hrowKind : row.kind = .not)
      (hfirst : row.firstChildIndex = some child) (hbelow : i < child)
      (hchild : CondAt config F child inner) : CondAt config F i condition
  | group {i : Nat} {condition : Json} {kind : String} {items : List Json}
      {row : CompiledCondition} {children : List Nat}
      (hkind : condition.get "kind" = some (.string kind)) (hgroup : kind = "all" ∨ kind = "any")
      (hitems : condition.get "conditions" = some (.array items))
      (hrow : F.conditions[i]? = some row)
      (hrowKind : row.kind = if kind = "all" then .all else .any)
      (hfirst : row.firstChildIndex = children.head?) (hcount : row.childCount = children.length)
      (hlength : children.length = items.length) (hchain : children.IsChain (Follows F))
      (hbelow : ∀ child ∈ children, i < child)
      (hchildren : ∀ (n child : Nat) (item : Json), children[n]? = some child →
        items[n]? = some item → CondAt config F child item) : CondAt config F i condition

section

variable (hchain : children.IsChain (Follows F)) (test : Nat → Bool)
include hchain

theorem childLoop_eq (stop : Bool) : childLoop test F stop children.length children.head? =
      if children.any (fun child => test child = stop) then stop else !stop := by
  induction children with
  | nil => rfl
  | cons child rest ih =>
    rw [List.head?_cons, List.length_cons, childLoop, List.any_cons]
    by_cases htest : test child = stop
    · rw [if_pos htest, decide_eq_true htest, Bool.true_or, if_pos rfl]
    rw [if_neg htest, decide_eq_false htest, Bool.false_or, ← ih hchain.of_cons]
    -- What comes next is the next part, or nothing is left to count.
    cases rest with
    | nil => rfl
    | cons child' rest' =>
      have hnext : Follows F child child' := (List.isChain_cons_cons.1 hchain).1
      rw [hnext]
      rfl

theorem childLoop_all :
    childLoop test F false children.length children.head? = children.all test := by
  rw [childLoop_eq hchain, List.all_eq_not_any_not]
  simp only [Bool.decide_eq_false]
  cases children.any fun child => !test child <;> rfl

theorem childLoop_any :
    childLoop test F true children.length children.head? = children.any test := by
  rw [childLoop_eq hchain]
  simp only [Bool.decide_eq_true]
  cases children.any test <;> rfl

end

theorem treeCondition_not {condition inner : Json}
    (hkind : condition.get "kind" = some (.string "not"))
    (hinner : condition.get "condition" = some inner) (s : TreeState) (event : TreeEvent) :
    treeCondition config s event condition = !treeCondition config s event inner := by
  rw [treeCondition, hkind]
  simp only [if_pos]
  split
  · next inner' hget =>
      rw [hinner] at hget
      cases hget
      rfl
  · next hget =>
      rw [hinner] at hget
      cases hget

theorem treeCondition_group (hkind : condition.get "kind" = some (.string kind))
    (hgroup : kind = "all" ∨ kind = "any")
    (hitems : condition.get "conditions" = some (.array items)) (s : TreeState)
    (event : TreeEvent) : treeCondition config s event condition =
      if kind = "all" then items.all (treeCondition config s event)
      else items.any (treeCondition config s event) := by
  have hnot : kind ≠ "not" := by
    rintro rfl
    revert hgroup
    decide
  rw [treeCondition, hkind]
  simp only [if_neg hnot]
  by_cases hall : kind = "all"
  · rw [if_pos hall, if_pos hall]
    split
    · next parts hget =>
        rw [hitems] at hget
        cases hget
        simp only [List.all_subtype, List.unattach_attach]
    · next hget => exact absurd hitems (hget items)
  rw [if_neg hall, if_pos (hgroup.resolve_left hall), if_neg hall]
  split
  · next parts hget =>
      rw [hitems] at hget
      cases hget
      simp only [List.any_subtype, List.unattach_attach]
  · next hget => exact absurd hitems (hget items)

theorem treeCondition_leaf (hkind : condition.get "kind" = some (.string kind))
    (hnot : kind ≠ "not") (hgroup : ¬(kind = "all" ∨ kind = "any")) (s : TreeState)
    (event : TreeEvent) :
    treeCondition config s event condition = treeLeafCondition config s event kind condition := by
  rw [treeCondition, hkind]
  simp only [if_neg hnot, if_neg fun h => hgroup (Or.inl h), if_neg fun h => hgroup (Or.inr h)]

theorem CondAt.matches (hF : F.WellNamed) (h : CondAt config F i condition) (s : EngineState)
    (event : RuleEvent Nat) {depth : Nat} (hdepth : F.conditions.length ≤ i + depth) :
    conditionMatches F s event depth (some i) =
      treeCondition config (F.named s) (event.named F) condition := by
  -- The row is there, so some depth is left to look at it.
  induction h generalizing depth with
  | @leaf i condition kind b b' row next hkind hnot hgroup hcompile hnames hrow =>
    rcases List.getElem?_eq_some_iff.1 hrow with ⟨hlt, -⟩
    obtain ⟨depth, rfl⟩ : ∃ d, depth = d + 1 := ⟨depth - 1, by omega⟩
    rw [treeCondition_leaf hkind hnot hgroup]
    exact leaf_matches hcompile hnames hF hrow s event depth
  | @not i child condition inner row hkind hinner hrow hrowKind hfirst hbelow _ ih =>
    rcases List.getElem?_eq_some_iff.1 hrow with ⟨hlt, -⟩
    obtain ⟨depth, rfl⟩ : ∃ d, depth = d + 1 := ⟨depth - 1, by omega⟩
    rw [treeCondition_not hkind hinner, conditionMatches, hrow]
    simp only [hrowKind, hfirst]
    rw [ih (by omega)]
  | @group i condition kind items row children hkind hgroup hitems hrow hrowKind hfirst hcount
      hlength hchain hbelow _ ih =>
      rcases List.getElem?_eq_some_iff.1 hrow with ⟨hlt, -⟩
      obtain ⟨depth, rfl⟩ : ∃ d, depth = d + 1 := ⟨depth - 1, by omega⟩
      -- Row by row the parts test as they do in the tree.
      have htests : children.map (fun child => conditionMatches F s event depth (some child)) =
          items.map (treeCondition config (F.named s) (event.named F)) := by
        refine List.ext_getElem? fun n => ?_
        rw [List.getElem?_map, List.getElem?_map]
        cases hchild : children[n]? with
        | none =>
          rw [List.getElem?_eq_none_iff] at hchild
          rw [List.getElem?_eq_none (hlength ▸ hchild)]
          rfl
        | some child =>
          rcases List.getElem?_eq_some_iff.1 hchild with ⟨hn, -⟩
          obtain ⟨item, hitem⟩ : ∃ item, items[n]? = some item :=
            ⟨_, List.getElem?_eq_getElem (hlength ▸ hn)⟩
          have hlow := hbelow child (List.mem_of_getElem? hchild)
          rw [hitem, Option.map_some, Option.map_some,
            ih n child item hchild hitem (by omega)]
      rw [treeCondition_group hkind hgroup hitems, conditionMatches, hrow]
      simp only [hrowKind, hfirst, hcount]
      by_cases hall : kind = "all"
      · simp only [if_pos hall]
        rw [childLoop_all hchain]
        have := congrArg (fun tests => tests.all id) htests
        simpa only [List.all_map, Function.id_comp] using this
      simp only [if_neg hall]
      rw [childLoop_any hchain]
      have := congrArg (fun tests => tests.any id) htests
      simpa only [List.any_map, Function.id_comp] using this

/-! ### Compiling conditions -/

/-- Compiling conditions adds rows, and may give the row `hole` a sibling. -/
structure ConditionsGrow (hole : Option Nat) (b b' : Bundle) : Prop where
  names : b.NamesGrow b'
  kept : RowsKept 0 hole b.conditions b'.conditions
  actions : b'.actions = b.actions

/-- A bundle that keeps what was compiled from row `start` on, but for the
    sibling of `hole`. -/
structure Bundle.Holds (F : Bundle) (start : Nat) (hole : Option Nat) (b : Bundle) : Prop where
  names : b.NamesWithin F
  kept : RowsKept start hole b.conditions F.conditions

/-- What compiling a condition yields. -/
structure Compiled (config : Option NodeConfig) (condition : Json) (b : Bundle) (i : Nat)
    (b' : Bundle) : Prop where
  row : i = b.conditions.length
  inside : i < b'.conditions.length
  grow : ConditionsGrow none b b'
  at_row : ∀ F : Bundle, F.Holds i (some i) b' → CondAt config F i condition

/-- What compiling the parts of a condition yields, of which `prev` comes right
    before the first. -/
structure CompiledParts (config : Option NodeConfig) (items : List Json) (prev : Option Nat)
    (b b' : Bundle) (children : List Nat) : Prop where
  length : children.length = items.length
  grow : ConditionsGrow prev b b'
  linked : ∀ p, prev = some p → children ≠ [] →
    (b'.conditions[p]?).bind CompiledCondition.nextSiblingIndex = children.head?
  behind : ∀ child ∈ children, b.conditions.length ≤ child
  chained : ∀ F : Bundle, F.Holds b.conditions.length none b' → children.IsChain (Follows F)
  at_rows : ∀ F : Bundle, F.Holds b.conditions.length none b' → ∀ (n child : Nat) (item : Json),
    children[n]? = some child → items[n]? = some item → CondAt config F child item

theorem compiled_leaf (hkind : condition.get "kind" = some (.string kind)) (hnot : kind ≠ "not")
    (hgroup : ¬(kind = "all" ∨ kind = "any"))
    (hcompile : compileLeafCondition config kind condition b = .ok (row, b')) :
    Compiled config condition b b.conditions.length (b'.pushCondition row) := by
  rcases compileLeafCondition_onlyNames hcompile with ⟨honly, -⟩
  have hpush := b'.pushCondition_names row
  have hrows : (b'.pushCondition row).conditions = b.conditions ++ [row] :=
    congrArg (· ++ [row]) honly.conditions
  have hlast : (b'.pushCondition row).conditions[b.conditions.length]? = some row := by
    rw [hrows]
    exact List.getElem?_concat_length
  refine ⟨rfl, ?_, ⟨honly.names.trans hpush, ?_, honly.actions⟩, ?_⟩
  · exact (List.getElem?_eq_some_iff.1 hlast).1
  · rw [hrows]
    exact .of_initial 0 none (List.prefix_append _ _)
  intro F hF
  rcases hF.kept _ row (le_rfl) hlast with ⟨next, hrow, -⟩
  exact .leaf hkind hnot hgroup hcompile (hpush.within.trans hF.names) hrow

/-- A row that is taken before the rows below it and filled in after them. -/
theorem grow_around (h : ConditionsGrow none (b.pushCondition {}) b') (row : CompiledCondition) :
    ConditionsGrow none b (b'.setCondition b.conditions.length row) ∧
      (b'.setCondition b.conditions.length row).conditions[b.conditions.length]? = some row := by
  have hlen := h.kept.length_le
  have hlen' : b.conditions.length < b'.conditions.length := by
    rw [Bundle.pushCondition, List.length_append] at hlen
    exact hlen
  refine ⟨⟨?_, ?_, h.actions⟩, List.getElem?_set_self hlen'⟩
  · exact (b.pushCondition_names {}).trans (h.names.trans (b'.setCondition_names _ row))
  intro n old _ hold
  rcases List.getElem?_eq_some_iff.1 hold with ⟨hn, -⟩
  have hpushed : (b.pushCondition {}).conditions[n]? = some old :=
    Lib.getElem?_of_initial (List.prefix_append _ _) hold
  refine ⟨old.nextSiblingIndex, ?_, fun _ => rfl⟩
  rw [Bundle.setCondition, List.getElem?_set_ne (by omega)]
  exact h.kept.row (Nat.zero_le n) hpushed

/-- What is kept from a row on is kept below it, as it was before that row was
    filled in. -/
theorem Bundle.Holds.below (h : F.Holds i (some i) (b.setCondition i row)) {start : Nat}
    (hstart : i < start) : F.Holds start none b := by
  refine ⟨(b.setCondition_names i row).within.trans h.names, ?_⟩
  have hset : RowsKept start none b.conditions (b.setCondition i row).conditions :=
    .set start none b.conditions hstart row
  refine hset.trans ((h.kept.mono (Nat.le_of_lt hstart)).fill ?_)
  intro k hk
  cases hk
  exact hstart

/-- One part more: its row comes first, and the row in front of it is linked to it. -/
theorem compiledParts_cons {item : Json} {rest : List Json} {prev : Option Nat}
    {b b₁ b₂ b' : Bundle} {child : Nat}
    (hlink : b₂ = match prev with | some prev => b₁.linkSibling prev child | none => b₁)
    (hprev : ∀ p, prev = some p → p < b.conditions.length) (hitem : Compiled config item b child b₁)
    (hrest : CompiledParts config rest (some child) b₂ b' children) :
    CompiledParts config (item :: rest) prev b b' (child :: children) := by
  have hrow := hitem.row
  have hinside := hitem.inside
  have hnames : b₁.NamesGrow b₂ := by
    rw [hlink]
    cases prev with
    | none => exact .refl b₁
    | some p => exact b₁.linkSibling_names p child
  have hactions : b₂.actions = b₁.actions := by
    rw [hlink]
    cases prev <;> rfl
  have hlength : b₂.conditions.length = b₁.conditions.length := by
    rw [hlink]
    cases prev with
    | none => rfl
    | some p => exact List.length_modify _ _ _
  -- Linking changes nothing but the sibling of the row in front.
  have hkept : ∀ start, RowsKept start prev b₁.conditions b₂.conditions := by
    intro start
    rw [hlink]
    cases prev with
    | none => exact .of_initial start none List.prefix_rfl
    | some p => exact .modify start b₁.conditions p (some child)
  have hback : ∀ F : Bundle, F.Holds b.conditions.length none b' → F.Holds child (some child) b₁ := by
    intro F hF
    refine ⟨(hnames.trans hrest.grow.names).within.trans hF.names, ?_⟩
    have hlink' : RowsKept child none b₁.conditions b₂.conditions := by
      refine (hkept child).fill fun p hp => ?_
      rw [hrow]
      exact hprev p hp
    refine (hlink'.weaken (some child)).trans ?_
    refine (hrest.grow.kept.mono (Nat.zero_le child)).trans ?_
    rw [hrow]
    exact hF.kept.weaken _
  have hrestHolds : ∀ F : Bundle, F.Holds b.conditions.length none b' →
      F.Holds b₂.conditions.length none b' :=
    fun F hF => ⟨hF.names, hF.kept.mono (by omega)⟩
  refine ⟨?_, ⟨?_, ?_, ?_⟩, ?_, ?_, ?_, ?_⟩
  · rw [List.length_cons, List.length_cons, hrest.length]
  · exact hitem.grow.names.trans (hnames.trans hrest.grow.names)
  · -- The rows in question come before the one the rest of the loop links.
    intro n row hn hrow'
    rcases List.getElem?_eq_some_iff.1 hrow' with ⟨hlt, -⟩
    rcases ((hitem.grow.kept.weaken prev).trans (hkept 0)) n row hn hrow' with ⟨next, hnext, hsame⟩
    rcases hrest.grow.kept n _ hn hnext with ⟨next', hnext', hsame'⟩
    refine ⟨next', hnext', fun hne => (hsame' fun heq => ?_).trans (hsame hne)⟩
    cases heq
    omega
  · exact (hrest.grow.actions.trans hactions).trans hitem.grow.actions
  · rintro p rfl -
    have hp := hprev p rfl
    obtain ⟨r, hr⟩ : ∃ r, b₁.conditions[p]? = some r :=
      ⟨_, List.getElem?_eq_getElem (Nat.lt_trans hp (hrow ▸ hinside))⟩
    have hlinked : b₂.conditions[p]? = some { r with nextSiblingIndex := some child } := by
      rw [hlink]
      refine (List.getElem?_modify_eq _ _ _).trans ?_
      rw [hr]
      rfl
    rcases hrest.grow.kept p _ (Nat.zero_le p) hlinked with ⟨next, hnext, hsame⟩
    rw [hnext, hsame fun heq => ?_]
    · rfl
    · cases heq
      omega
  · intro k hk
    rcases List.mem_cons.1 hk with rfl | hk
    · exact Nat.le_of_eq hrow.symm
    · have := hrest.behind k hk
      omega
  · intro F hF
    have hchain := hrest.chained F (hrestHolds F hF)
    cases children with
    | nil => exact .singleton child
    | cons next rest' =>
      have hlinked := hrest.linked child rfl (List.cons_ne_nil _ _)
      rcases Option.bind_eq_some_iff.1 hlinked with ⟨r, hr, hnext⟩
      refine .cons_cons ?_ hchain
      unfold Follows
      rw [hF.kept.row (by omega) hr]
      exact hnext
  · intro F hF n k j hk hj
    cases n with
    | zero =>
      cases hk
      cases hj
      exact hitem.at_row F (hback F hF)
    | succ n => exact hrest.at_rows F (hrestHolds F hF) n k j hk hj

theorem compileConditionChildren_spec (hitems : ∀ item ∈ items, ∀ (b b' : Bundle) (i : Nat),
      compileCondition config item b = .ok (i, b') → Compiled config item b i b')
    {first prev first' : Option Nat} {count count' : Nat}
    (hprev : ∀ p, prev = some p → p < b.conditions.length)
    (h : compileConditionChildren config items first prev count b = .ok (first', count', b')) :
    ∃ children : List Nat, first' = first.or children.head? ∧ count' = count + children.length ∧
      CompiledParts config items prev b b' children := by
  induction items generalizing first prev count b with
  | nil =>
    rw [compileConditionChildren] at h
    cases h
    refine ⟨[], Option.or_none.symm, rfl, rfl, ⟨.refl _, ?_, rfl⟩, ?_, ?_, ?_, ?_⟩
    · exact .of_initial 0 prev List.prefix_rfl
    · intro p _ hne
      exact absurd rfl hne
    · intro F hF
      cases hF
    · intro F _
      exact .nil
    · intro F _ n child item hchild _
      cases hchild
  | cons item rest ih =>
    rw [compileConditionChildren] at h
    split at h
    · next child b₁ hcompile =>
        have hitem := hitems item List.mem_cons_self b b₁ child hcompile
        have hinside := hitem.inside
        -- The next part is linked to this one, whose row is there by now.
        have hnext : ∀ p, some child = some p → p < (match prev with
            | some prev => b₁.linkSibling prev child
            | none => b₁).conditions.length := by
          intro p hp
          cases hp
          cases prev with
          | none => exact hinside
          | some p => exact Nat.lt_of_lt_of_eq hinside (List.length_modify _ _ _).symm
        rcases ih (fun item' hmem => hitems item' (.tail _ hmem)) hnext h with
          ⟨children, hfirst, hcount, hrest⟩
        refine ⟨child :: children, ?_, ?_, compiledParts_cons rfl hprev hitem hrest⟩
        · rw [hfirst, List.head?_cons, Option.or_assoc]
          rfl
        · rw [hcount, List.length_cons]
          omega
    · cases h

theorem compiled_not {condition inner : Json} {child : Nat}
    (hkind : condition.get "kind" = some (.string "not"))
    (hinner : condition.get "condition" = some inner)
    (hchild : Compiled config inner (b.pushCondition {}) child b') :
    Compiled config condition b b.conditions.length (b'.setCondition b.conditions.length
      { kind := .not, firstChildIndex := some child, childCount := 1 }) := by
  rcases grow_around hchild.grow { kind := .not, firstChildIndex := some child, childCount := 1 }
    with ⟨hgrow, hrow⟩
  have hbelow : b.conditions.length < child := by
    rw [hchild.row, Bundle.pushCondition, List.length_append]
    exact Nat.lt_succ_self _
  refine ⟨rfl, (List.getElem?_eq_some_iff.1 hrow).1, hgrow, fun F hF => ?_⟩
  rcases hF.kept _ _ (le_rfl) hrow with ⟨next, hrow', -⟩
  have hbelowF := hF.below hbelow
  exact .not hkind hinner hrow' rfl rfl hbelow
    (hchild.at_row F ⟨hbelowF.names, hbelowF.kept.weaken _⟩)

theorem compiled_group (hkind : condition.get "kind" = some (.string kind))
    (hgroup : kind = "all" ∨ kind = "any")
    (hitems : condition.get "conditions" = some (.array items))
    (hparts : CompiledParts config items none (b.pushCondition {}) b' children) :
    Compiled config condition b b.conditions.length (b'.setCondition b.conditions.length
      { kind := if kind = "all" then .all else .any
        firstChildIndex := children.head?, childCount := children.length }) := by
  rcases grow_around hparts.grow
    { kind := if kind = "all" then .all else .any
      firstChildIndex := children.head?, childCount := children.length } with ⟨hgrow, hrow⟩
  have hpushed : (b.pushCondition {}).conditions.length = b.conditions.length + 1 :=
    List.length_append
  refine ⟨rfl, (List.getElem?_eq_some_iff.1 hrow).1, hgrow, fun F hF => ?_⟩
  rcases hF.kept _ _ (le_rfl) hrow with ⟨next, hrow', -⟩
  have hbelowF : F.Holds (b.pushCondition {}).conditions.length none b' :=
    hF.below (by omega)
  refine .group hkind hgroup hitems hrow' rfl rfl rfl hparts.length (hparts.chained F hbelowF)
    (fun child hchild => ?_) (hparts.at_rows F hbelowF)
  have := hparts.behind child hchild
  omega

theorem compileCondition_spec (h : compileCondition config condition b = .ok (i, b')) :
    Compiled config condition b i b' := by
  induction hsize : condition.nodes using Nat.strong_induction_on generalizing condition b b' i with
  | _ size ih =>
    rw [compileCondition] at h
    split at h
    · cases h
    split at h
    · cases h
    split at h
    · next kind hkind =>
        split at h
        · next hnot =>
            subst hnot
            split at h
            · next inner hinner =>
                split at h
                · next child b₁ hcompile =>
                    cases h
                    exact compiled_not hkind hinner
                      (ih _ (hsize ▸ Json.nodes_get hinner) hcompile rfl)
                · cases h
            · cases h
        · next hnot =>
            split at h
            · next hgroup =>
                split at h
                · next items hitems =>
                    split at h
                    · next first count b₁ hcompile =>
                        cases h
                        have hpart : ∀ item ∈ items, ∀ (b b' : Bundle) (i : Nat),
                            compileCondition config item b = .ok (i, b') →
                            Compiled config item b i b' := by
                          intro item hmem b b' i hitem
                          have hlt := Json.nodes_mem hmem
                          have hlt' := Json.nodes_get_array hitems
                          exact ih _ (by omega) hitem rfl
                        rcases compileConditionChildren_spec hpart
                          (fun p hp => absurd hp.symm (Option.some_ne_none p)) hcompile with
                          ⟨children, rfl, rfl, hparts⟩
                        rw [Nat.zero_add]
                        exact compiled_group hkind hgroup hitems hparts
                    · cases h
                · cases h
            · next hgroup =>
                split at h
                · next row b₁ hcompile =>
                    cases h
                    exact compiled_leaf hkind hnot hgroup hcompile
                · cases h
    · cases h

end SceneHub.Node
