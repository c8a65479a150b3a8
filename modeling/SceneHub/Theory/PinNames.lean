import Mathlib.Data.List.TakeWhile
import Mathlib.Data.Nat.Digits.Lemmas
import SceneHub.Node.Schema

/-!
# Which Pin a Name Means

The schema looks for a pin that a name may mean, the compiler for the pin that it means. Both
know a pin by its number behind a prefix and by its label, but not by the same prefixes, and
where the compiler asks for a number the schema is content with a label.

The first pin in the table wins, whichever way it is named. So a label can take the name of a
pin that comes later.

## Main definitions

* `Reference`: An input, or the output of a command.
* `Family`: The pins a reference may mean and the prefixes of their numbers.
* `Reference.Resolves`: A name is resolved as it should be.
* `Reference.Clear`: Nothing is in the way of it.

## Theorems

* `logicalChannelFromName_named`: The number of a canonical name.
* `find_channel_iff`: A number finds its pin unless a label in front of it has the name.
* `names_resolve_iff`: A name is resolved as it should be if nothing is in the way.
-/

namespace SceneHub.Node

/-! ### Numbers -/

theorem isDigit_digits {n : Nat} {c : Char} (hc : c ∈ (toString n).toList) : c.isDigit = true := by
  rw [show (toString n).toList = Nat.toDigits 10 n from Nat.toList_repr] at hc
  exact Nat.isDigit_of_mem_toDigits (by omega) (by omega) hc

theorem digits_ne_nil (n : Nat) : (toString n).toList ≠ [] := by
  rw [show (toString n).toList = Nat.toDigits 10 n from Nat.toList_repr]
  exact Nat.toDigits_ne_nil

theorem foldl_digits (n : Nat) :
    ((toString n).toList.foldl (fun m c => m * 10 + (c.toNat - '0'.toNat)) 0) = n := by
  rw [show (toString n).toList = Nat.toDigits 10 n from Nat.toList_repr]
  induction n using Nat.strongRecOn with
  | ind n ih =>
    by_cases hlt : n < 10
    · rw [Nat.toDigits_of_lt_base hlt, List.foldl_cons, List.foldl_nil, Nat.zero_mul,
        Nat.zero_add]
      interval_cases n <;> rfl
    rw [Nat.toDigits_of_base_le (by omega) (by omega), List.foldl_append, ih (n / 10) (by omega),
      List.foldl_cons, List.foldl_nil]
    have hmod : n % 10 < 10 := Nat.mod_lt _ (by omega)
    have hdigit : (Nat.digitChar (n % 10)).toNat - '0'.toNat = n % 10 := by
      interval_cases n % 10 <;> rfl
    rw [hdigit]
    omega

/-- A text that begins with no blank and no sign is read from its first digit. -/
theorem strtol_cons {c : Char} (hspace : isSpace c = false) (hsign : c ≠ '-' ∧ c ≠ '+')
    (rest : List Char) : strtol (c :: rest) =
      if (c :: rest).takeWhile Char.isDigit = [] then (0, c :: rest)
      else
        (((((c :: rest).takeWhile Char.isDigit).foldl
            (fun n c => n * 10 + (c.toNat - '0'.toNat)) 0 : Nat) : Int),
          (c :: rest).dropWhile Char.isDigit) := by
  have hbody : (c :: rest).dropWhile isSpace = c :: rest :=
    List.dropWhile_cons_of_neg (by rw [hspace]; exact Bool.false_ne_true)
  rw [strtol, hbody]
  dsimp only
  split
  · next heq => exact absurd (List.cons.inj heq).1 hsign.1
  · next heq => exact absurd (List.cons.inj heq).1 hsign.2
  · rfl

theorem strtol_digits (n : Nat) : strtol (toString n).toList = ((n : Int), []) := by
  have hall : ∀ c ∈ (toString n).toList, c.isDigit = true := fun c hc => isDigit_digits hc
  have htake : (toString n).toList.takeWhile Char.isDigit = (toString n).toList :=
    List.takeWhile_eq_self_iff.2 hall
  have hdrop : (toString n).toList.dropWhile Char.isDigit = [] :=
    List.dropWhile_eq_nil_iff.2 hall
  have hvalue := foldl_digits n
  have hne := digits_ne_nil n
  generalize (toString n).toList = text at hall htake hdrop hvalue hne ⊢
  cases text with
  | nil => exact absurd rfl hne
  | cons c rest =>
    have hc : c.isDigit = true := hall c List.mem_cons_self
    have hspace : isSpace c = false := by
      refine Bool.eq_false_iff.2 fun h => ?_
      simp only [isSpace, Bool.or_eq_true, decide_eq_true_eq] at h
      rcases h with ((((rfl | rfl) | rfl) | rfl) | rfl) | rfl <;> exact absurd hc (by decide)
    have hsign : c ≠ '-' ∧ c ≠ '+' := by
      constructor <;> rintro rfl <;> exact absurd hc (by decide)
    rw [strtol_cons hspace hsign, htake, hdrop, if_neg hne, hvalue]

theorem strtol_letter {c : Char} (hspace : isSpace c = false) (hsign : c ≠ '-' ∧ c ≠ '+')
    (hdigit : c.isDigit = false) (rest : List Char) : strtol (c :: rest) = (0, c :: rest) := by
  have htake : (c :: rest).takeWhile Char.isDigit = [] :=
    List.takeWhile_cons_of_neg (by rw [hdigit]; exact Bool.false_ne_true)
  rw [strtol_cons hspace hsign, if_pos htake]

/-- A name behind its own prefix has its number, if that is one of a channel. -/
theorem logicalChannelFromName_named (before : String) (n : Nat) :
    logicalChannelFromName (before ++ toString n) before =
      if 1 ≤ n ∧ n ≤ 255 then some n else none := by
  have hprefix : before.toList.isPrefixOf (before ++ toString n).toList = true := by
    rw [String.toList_append, List.isPrefixOf_iff_prefix]
    exact List.prefix_append _ _
  have hdrop : (before ++ toString n).toList.drop before.length = (toString n).toList := by
    rw [String.toList_append, ← String.length_toList, List.drop_left]
  rw [logicalChannelFromName, hprefix, hdrop, strtol_digits]
  dsimp only
  by_cases hn : 1 ≤ n ∧ n ≤ 255
  · have hrange : ¬((n : Int) ≤ 0 ∨ 255 < (n : Int)) := by omega
    rw [if_neg (by decide), if_neg (not_or.2 ⟨not_not.2 rfl, hrange⟩), if_pos hn,
      Int.toNat_natCast]
  · have hrange : (n : Int) ≤ 0 ∨ 255 < (n : Int) := by omega
    rw [if_neg (by decide), if_pos (.inr hrange), if_neg hn]

/-! ### References -/

/-- What a name in a bundle stands for. -/
inductive Reference where
  | input
  | output (command : String)
  deriving DecidableEq, Repr

/-- The pins a reference may mean. `compiled` are the prefixes of their numbers that the compiler
    knows, `checked` those that the schema knows. An input is found by its label alone. -/
structure Family where
  pins : NodeConfig → List Pin
  compiled : List String
  checked : List String
  byLabel : Bool := false

def inputFamily : Family := ⟨NodeConfig.inputs, ["input_"], ["input_"], true⟩

def relayFamily : Family := ⟨NodeConfig.relays, ["relay_"], ["relay_"], false⟩

def mosfetFamily : Family := ⟨NodeConfig.mosfets, ["mosfet_"], ["mosfet_"], false⟩

def ioFamily : Family := ⟨NodeConfig.outputs, ["output_", "io_"], ["io_"], false⟩

def ledFamily : Family :=
  ⟨NodeConfig.ledStrips, ["strip_", "led_strip_"], ["led_", "strip_", "led_strip_"], false⟩

/-- No pins at all. -/
def noFamily : Family := ⟨fun _ => [], [], [], false⟩

def commandFamily (command : String) : Family :=
  if startsWith command "relay." then relayFamily
  else if startsWith command "mosfet." then mosfetFamily
  else if startsWith command "io." then ioFamily
  else if startsWith command "led." then ledFamily
  else noFamily

def Reference.family : Reference → Family
  | .input => inputFamily
  | .output command => commandFamily command

/-- What the compiler makes of a name. -/
def Reference.resolve (config : NodeConfig) (name : String) : Reference → Option Nat
  | .input => resolveInputChannel (some config) name
  | .output command => resolveOutputChannel (some config) command name

/-- What the schema says to a name. -/
def Reference.accepts (config : NodeConfig) (name : String) : Reference → Bool
  | .input => configHasInput (some config) name
  | .output command => commandOutputValid (some config) command name

/-- The number of a name behind the first prefix that fits. -/
def nameNumber (prefixes : List String) (name : String) : Option Nat :=
  prefixes.findSome? (logicalChannelFromName name)

namespace Family

def canonical (f : Family) (channel : Nat) : List String :=
  (f.compiled ++ f.checked).map fun before => before ++ toString channel

/-- The compiler takes the pin for the one that is meant. -/
def takes (f : Family) (name : String) (pin : Pin) : Bool :=
  pin.enabled &&
  match nameNumber f.compiled name with
  | some n => pin.channel = n || labelMatchesName pin.label name
  | none => f.byLabel && labelMatchesName pin.label name

/-- The schema is content with the pin. -/
def admits (f : Family) (name : String) (pin : Pin) : Bool :=
  pin.enabled && (nameNumber f.checked name = some pin.channel || labelMatchesName pin.label name)

end Family

/-- Channels are counted from 1, in a byte. -/
def Pin.IsChannel (pin : Pin) : Prop := 1 ≤ pin.channel ∧ pin.channel ≤ 255

/-- A name is resolved as it should be: the canonical name of a channel that is enabled means that
    channel, no command takes the name for another one, and the schema accepts the name if the
    compiler resolves it. -/
structure Reference.Resolves (config : NodeConfig) (name : String) (ref : Reference) : Prop where
  canonical : ∀ pin ∈ ref.family.pins config, pin.enabled = true → pin.IsChannel →
    name ∈ ref.family.canonical pin.channel → ref.resolve config name = some pin.channel
  unique : ∀ command command' n n',
    Reference.resolve config name (.output command) = some n →
      Reference.resolve config name (.output command') = some n' → n = n'
  accepted : ref.accepts config name = true ↔ (ref.resolve config name).isSome = true

/-- A pin with another number has the name for its label, and no pin with the number stands in
    front of it. -/
def Shadowed (pins : List Pin) (name : String) (n : Nat) : Prop :=
  ∃ front pin back, pins = front ++ pin :: back ∧ pin.enabled = true ∧ pin.channel ≠ n ∧
    labelMatchesName pin.label name = true ∧ ∀ q ∈ front, q.enabled = true → q.channel ≠ n

/-- Nothing is in the way of a name. The canonical names of enabled channels have a prefix that the
    compiler knows, and no label takes them. A number that the compiler reads and that is there is
    read by the schema too, unless a label has the name. Where the compiler reads no number, neither
    a number nor a label is there for the schema. -/
structure Family.Clear (f : Family) (config : NodeConfig) (name : String) : Prop where
  known : ∀ pin ∈ f.pins config, pin.enabled = true → pin.IsChannel →
    ∀ before ∈ f.compiled ++ f.checked, name = before ++ toString pin.channel →
      before ∈ f.compiled ∧ ¬Shadowed (f.pins config) name pin.channel
  numbered : ∀ n, nameNumber f.compiled name = some n →
    (∃ pin ∈ f.pins config, pin.enabled = true ∧ pin.channel = n) →
      nameNumber f.checked name = some n ∨
      ∃ pin ∈ f.pins config, pin.enabled = true ∧ labelMatchesName pin.label name = true
  unnumbered : nameNumber f.compiled name = none → f.byLabel = false →
    ∀ pin ∈ f.pins config, pin.enabled = true →
      nameNumber f.checked name ≠ some pin.channel ∧ labelMatchesName pin.label name = false

/-! ### Prefixes -/

def numberPrefixes : List String :=
  ["input_", "relay_", "mosfet_", "output_", "io_", "strip_", "led_strip_", "led_"]

variable {name before before' : String} {n n' : Nat}

theorem prefix_of_prefix (hb : before ∈ numberPrefixes) (hb' : before' ∈ numberPrefixes)
    (h : before.toList <+: before'.toList) :
    before = before' ∨ before = "led_" ∧ before' = "led_strip_" := by
  have hall : ∀ a ∈ numberPrefixes, ∀ b ∈ numberPrefixes, a.toList.isPrefixOf b.toList = true →
      a = b ∨ a = "led_" ∧ b = "led_strip_" := by decide +kernel
  exact hall before hb before' hb' (List.isPrefixOf_iff_prefix.2 h)

theorem prefix_of_number (h : logicalChannelFromName name before = some n) :
    before.toList <+: name.toList := by
  unfold logicalChannelFromName at h
  split at h
  · cases h
  · next hprefix =>
      rw [Bool.not_eq_true', Bool.not_eq_false] at hprefix
      exact List.isPrefixOf_iff_prefix.1 hprefix

/-- Behind `led_` the longer prefix goes on with a letter. -/
theorem ledStrip_number (h : "led_strip_".toList <+: name.toList) :
    logicalChannelFromName name "led_" = none := by
  rcases h with ⟨rest, hrest⟩
  have hdrop : name.toList.drop "led_".length =
      's' :: ('t' :: 'r' :: 'i' :: 'p' :: '_' :: rest) := by
    rw [← hrest]
    rfl
  have hnumber := @strtol_letter 's' rfl ⟨by decide, by decide⟩ rfl
    ('t' :: 'r' :: 'i' :: 'p' :: '_' :: rest)
  unfold logicalChannelFromName
  split
  · rfl
  · rw [hdrop, hnumber]
    rfl

theorem prefix_unique (hb : before ∈ numberPrefixes) (hb' : before' ∈ numberPrefixes)
    (h : logicalChannelFromName name before = some n)
    (h' : logicalChannelFromName name before' = some n') : before = before' := by
  have hp := prefix_of_number h
  have hp' := prefix_of_number h'
  rcases List.prefix_or_prefix_of_prefix hp hp' with hle | hle
  · rcases prefix_of_prefix hb hb' hle with heq | ⟨hled, hstrip⟩
    · exact heq
    · rw [hled, ledStrip_number (hstrip ▸ hp')] at h
      cases h
  rcases prefix_of_prefix hb' hb hle with heq | ⟨hled, hstrip⟩
  · exact heq.symm
  · rw [hled, ledStrip_number (hstrip ▸ hp)] at h'
    cases h'

theorem nameNumber_eq_some {prefixes : List String} (hsub : prefixes ⊆ numberPrefixes) :
    nameNumber prefixes name = some n ↔
      ∃ before ∈ prefixes, logicalChannelFromName name before = some n := by
  constructor
  · intro h
    exact List.exists_of_findSome?_eq_some h
  rintro ⟨before, hb, hn⟩
  have hsome : (nameNumber prefixes name).isSome = true :=
    List.findSome?_isSome_iff.2 ⟨before, hb, by rw [hn]; rfl⟩
  rcases Option.isSome_iff_exists.1 hsome with ⟨m, hm⟩
  rcases List.exists_of_findSome?_eq_some hm with ⟨before', hb', hm'⟩
  have hsame : before' = before := prefix_unique (hsub hb') (hsub hb) hm' hn
  rw [hsame, hn] at hm'
  rw [hm, ← Option.some.inj hm']

/-- The compiler reads the number of a canonical name if it knows the prefix. -/
theorem nameNumber_named {prefixes : List String} (hsub : prefixes ⊆ numberPrefixes)
    (hb : before ∈ numberPrefixes) (hn : 1 ≤ n ∧ n ≤ 255) :
    nameNumber prefixes (before ++ toString n) = if before ∈ prefixes then some n else none := by
  have hnumber : logicalChannelFromName (before ++ toString n) before = some n := by
    rw [logicalChannelFromName_named, if_pos hn]
  by_cases hmem : before ∈ prefixes
  · rw [if_pos hmem]
    exact (nameNumber_eq_some hsub).2 ⟨before, hmem, hnumber⟩
  rw [if_neg hmem]
  cases hsome : nameNumber prefixes (before ++ toString n) with
  | none => rfl
  | some m =>
    -- Another prefix would have a number in the same name.
    rcases (nameNumber_eq_some hsub).1 hsome with ⟨before', hb', hm⟩
    exact absurd (prefix_unique (hsub hb') hb hm hnumber ▸ hb') hmem

/-! ### The two resolvers -/

/-- What holds of each family does so of those that references mean. -/
theorem Reference.family_cases {P : Family → Prop} (hinput : P inputFamily)
    (hrelay : P relayFamily) (hmosfet : P mosfetFamily) (hio : P ioFamily) (hled : P ledFamily)
    (hnone : P noFamily) (ref : Reference) : P ref.family := by
  cases ref with
  | input => exact hinput
  | output command =>
    unfold Reference.family commandFamily
    dsimp only
    split_ifs
    · exact hrelay
    · exact hmosfet
    · exact hio
    · exact hled
    · exact hnone

theorem Reference.compiled_subset (ref : Reference) : ref.family.compiled ⊆ numberPrefixes := by
  refine ref.family_cases (P := fun f => f.compiled ⊆ numberPrefixes) ?_ ?_ ?_ ?_ ?_ ?_ <;>
    simp [inputFamily, relayFamily, mosfetFamily, ioFamily, ledFamily, noFamily, numberPrefixes]

theorem Reference.checked_subset (ref : Reference) : ref.family.checked ⊆ numberPrefixes := by
  refine ref.family_cases (P := fun f => f.checked ⊆ numberPrefixes) ?_ ?_ ?_ ?_ ?_ ?_ <;>
    simp [inputFamily, relayFamily, mosfetFamily, ioFamily, ledFamily, noFamily, numberPrefixes]

/-- An input is known by the same prefix on both sides. -/
theorem Reference.compiled_eq_checked (ref : Reference) :
    ref.family.byLabel = true → ref.family.compiled = ref.family.checked := by
  refine ref.family_cases (P := fun f => f.byLabel = true → f.compiled = f.checked)
    ?_ ?_ ?_ ?_ ?_ ?_
  · exact fun _ => rfl
  all_goals exact nofun

theorem commandFamily_byLabel (command : String) : (commandFamily command).byLabel = false := by
  unfold commandFamily
  split_ifs <;> rfl

theorem resolvePin_eq (f : Family) (hlabel : f.byLabel = false) (config : NodeConfig)
    (name : String) : resolvePin (some config) f.pins f.compiled name =
      ((f.pins config).find? (f.takes name)).map Pin.channel := by
  unfold resolvePin Family.takes nameNumber
  cases f.compiled.findSome? (logicalChannelFromName name) with
  | none =>
    rw [List.find?_eq_none.2]
    · rfl
    intro pin _
    rw [hlabel, Bool.false_and, Bool.and_false]
    exact Bool.false_ne_true
  | some n => rfl

theorem Reference.resolve_eq (ref : Reference) (config : NodeConfig) (name : String) :
    ref.resolve config name =
      ((ref.family.pins config).find? (ref.family.takes name)).map Pin.channel := by
  cases ref with
  | input =>
    unfold resolve resolveInputChannel
    dsimp only
    congr 2
    funext pin
    unfold Family.takes nameNumber
    rw [show Reference.input.family.compiled = ["input_"] from rfl, List.findSome?_singleton]
    cases logicalChannelFromName name "input_" with
    | none => rfl
    | some n =>
      congr 2
      exact decide_eq_decide.2 ⟨fun h => (Option.some.inj h).symm, fun h => h ▸ rfl⟩
  | output command =>
    unfold Reference.family resolve resolveOutputChannel
    dsimp only
    rw [← resolvePin_eq _ (commandFamily_byLabel command)]
    unfold commandFamily
    split_ifs <;> rfl

theorem configHasPin_eq (f : Family) (hsub : f.checked ⊆ numberPrefixes) (config : NodeConfig)
    (name : String) :
    configHasPin (some config) f.pins f.checked name = (f.pins config).any (f.admits name) := by
  unfold configHasPin
  dsimp only
  congr 1
  funext pin
  congr 2
  rw [Bool.eq_iff_iff, List.any_eq_true, decide_eq_true_iff, nameNumber_eq_some hsub]
  simp

theorem Reference.accepts_eq (ref : Reference) (config : NodeConfig) (name : String) :
    ref.accepts config name = (ref.family.pins config).any (ref.family.admits name) := by
  rw [← configHasPin_eq _ ref.checked_subset]
  cases ref with
  | input => rfl
  | output command =>
    unfold Reference.family accepts commandOutputValid commandFamily
    dsimp only
    split_ifs <;> rfl

/-! ### Names that are clear -/

section Find

variable {pins : List Pin}

theorem find_cons (pin : Pin) (pins : List Pin) (name : String) (n : Nat) :
    ((pin :: pins).find? fun p => p.enabled && (p.channel = n || labelMatchesName p.label name)) =
      if pin.enabled = true ∧ (pin.channel = n ∨ labelMatchesName pin.label name = true) then
        some pin
      else pins.find? fun p => p.enabled && (p.channel = n || labelMatchesName p.label name) := by
  rw [List.find?_cons]
  by_cases h : pin.enabled = true ∧ (pin.channel = n ∨ labelMatchesName pin.label name = true)
  · have htrue : (pin.enabled && (pin.channel = n || labelMatchesName pin.label name)) = true := by
      simpa using h
    rw [htrue, if_pos h]
  have hfalse : (pin.enabled && (pin.channel = n || labelMatchesName pin.label name)) = false := by
    rw [Bool.eq_false_iff]
    intro htrue
    exact h (by simpa using htrue)
  rw [hfalse, if_neg h]

theorem shadowed_cons {pin : Pin} (h : ¬(pin.enabled = true ∧
    (pin.channel = n ∨ labelMatchesName pin.label name = true))) :
    Shadowed (pin :: pins) name n ↔ Shadowed pins name n := by
  constructor
  · rintro ⟨front, p, back, hpins, henabled, hne, hlabel, hfront⟩
    cases front with
    | nil =>
      -- The pin itself has not the label.
      cases hpins
      exact absurd ⟨henabled, .inr hlabel⟩ h
    | cons q front =>
      cases hpins
      exact ⟨front, p, back, rfl, henabled, hne, hlabel,
        fun r hr => hfront r (.tail _ hr)⟩
  · rintro ⟨front, p, back, hpins, henabled, hne, hlabel, hfront⟩
    refine ⟨pin :: front, p, back, by rw [hpins]; rfl, henabled, hne, hlabel, ?_⟩
    refine List.forall_mem_cons.2 ⟨fun hpin hchannel => h ⟨hpin, .inl hchannel⟩, hfront⟩

theorem find_channel_iff (hpin : ∃ pin ∈ pins, pin.enabled = true ∧ pin.channel = n) :
    (pins.find? fun p => p.enabled && (p.channel = n || labelMatchesName p.label name)).map
      Pin.channel = some n ↔ ¬Shadowed pins name n := by
  induction pins with
  | nil =>
    rcases hpin with ⟨pin, hmem, _⟩
    exact nomatch hmem
  | cons pin pins ih =>
    rw [find_cons]
    by_cases h : pin.enabled = true ∧ (pin.channel = n ∨ labelMatchesName pin.label name = true)
    · rw [if_pos h, Option.map_some, Option.some.injEq]
      constructor
      · rintro hchannel ⟨front, p, back, hpins, henabled, hne, hlabel, hfront⟩
        cases front with
        | nil =>
          cases hpins
          exact hne hchannel
        | cons q front =>
          cases hpins
          exact hfront pin List.mem_cons_self h.1 hchannel
      · intro hshadow
        by_cases hchannel : pin.channel = n
        · exact hchannel
        · exact absurd ⟨[], pin, pins, rfl, h.1, hchannel, h.2.resolve_left hchannel,
            List.forall_mem_nil _⟩ hshadow
    · rw [if_neg h, shadowed_cons h]
      refine ih ?_
      rcases hpin with ⟨p, hp, henabled, hchannel⟩
      rcases List.mem_cons.1 hp with rfl | hp
      · exact absurd ⟨henabled, .inl hchannel⟩ h
      · exact ⟨p, hp, henabled, hchannel⟩

end Find

namespace Family

variable {f : Family} {config : NodeConfig}

theorem takes_numbered (hnumber : nameNumber f.compiled name = some n) :
    f.takes name = fun p => p.enabled && (p.channel = n || labelMatchesName p.label name) := by
  funext p
  rw [takes, hnumber]

theorem takes_unnumbered (hnumber : nameNumber f.compiled name = none) :
    f.takes name = fun p => p.enabled && (f.byLabel && labelMatchesName p.label name) := by
  funext p
  rw [takes, hnumber]

end Family

section Clear

variable {ref : Reference} {config : NodeConfig}

theorem mem_canonical {f : Family} {channel : Nat} : name ∈ f.canonical channel ↔
      ∃ before ∈ f.compiled ++ f.checked, name = before ++ toString channel := by
  unfold Family.canonical
  rw [List.mem_map]
  exact exists_congr fun before => and_congr_right fun _ => eq_comm

/-- A canonical name means its channel if the compiler knows the prefix and nothing shadows it. -/
theorem resolve_canonical_iff {pin : Pin} (hpin : pin ∈ ref.family.pins config)
    (henabled : pin.enabled = true) (hchannel : pin.IsChannel)
    (hb : before ∈ ref.family.compiled ++ ref.family.checked) :
    ref.resolve config (before ++ toString pin.channel) = some pin.channel ↔
      before ∈ ref.family.compiled ∧
      ¬Shadowed (ref.family.pins config) (before ++ toString pin.channel) pin.channel := by
  have hprefix : before ∈ numberPrefixes := by
    rcases List.mem_append.1 hb with hb | hb
    · exact ref.compiled_subset hb
    · exact ref.checked_subset hb
  have hnumber := nameNumber_named ref.compiled_subset hprefix hchannel
  rw [ref.resolve_eq]
  by_cases hmem : before ∈ ref.family.compiled
  · rw [if_pos hmem] at hnumber
    rw [Family.takes_numbered hnumber, find_channel_iff ⟨pin, hpin, henabled, rfl⟩]
    exact (and_iff_right hmem).symm
  rw [if_neg hmem] at hnumber
  have hlabel : ref.family.byLabel = false := by
    rw [Bool.eq_false_iff]
    intro hlabel
    rw [ref.compiled_eq_checked hlabel] at hb hmem
    exact hmem ((List.mem_append.1 hb).elim id id)
  have hnone : (ref.family.pins config).find?
      (ref.family.takes (before ++ toString pin.channel)) = none := by
    refine List.find?_eq_none.2 fun p _ => ?_
    rw [Family.takes_unnumbered hnumber, hlabel]
    dsimp only
    rw [Bool.false_and, Bool.and_false]
    exact Bool.false_ne_true
  rw [hnone]
  exact ⟨fun h => (by cases h), fun h => absurd h.1 hmem⟩

theorem accepts_iff : ref.accepts config name = true ↔ ∃ pin ∈ ref.family.pins config,
    pin.enabled = true ∧ (nameNumber ref.family.checked name = some pin.channel ∨
      labelMatchesName pin.label name = true) := by
  rw [ref.accepts_eq, List.any_eq_true]
  simp [Family.admits]

theorem isSome_resolve_iff : (ref.resolve config name).isSome = true ↔
    ∃ pin ∈ ref.family.pins config, ref.family.takes name pin = true := by
  rw [ref.resolve_eq, Option.isSome_map, List.find?_isSome]

/-- The schema reads no other number than the compiler. -/
theorem checked_number (hnumber : nameNumber ref.family.compiled name = some n)
    (hchecked : nameNumber ref.family.checked name = some n') : n' = n := by
  rcases (nameNumber_eq_some ref.compiled_subset).1 hnumber with ⟨before, hb, hn⟩
  rcases (nameNumber_eq_some ref.checked_subset).1 hchecked with ⟨before', hb', hn'⟩
  have hsame := prefix_unique (ref.compiled_subset hb) (ref.checked_subset hb') hn hn'
  rw [← hsame, hn] at hn'
  exact (Option.some.inj hn').symm

theorem accepted_numbered (hnumber : nameNumber ref.family.compiled name = some n) :
    (ref.accepts config name = true ↔ (ref.resolve config name).isSome = true) ↔
      ((∃ pin ∈ ref.family.pins config, pin.enabled = true ∧ pin.channel = n) →
        nameNumber ref.family.checked name = some n ∨
        ∃ pin ∈ ref.family.pins config,
          pin.enabled = true ∧ labelMatchesName pin.label name = true) := by
  rw [accepts_iff, isSome_resolve_iff, Family.takes_numbered hnumber]
  simp only [Bool.and_eq_true, Bool.or_eq_true, decide_eq_true_eq]
  constructor
  · rintro h ⟨pin, hpin, henabled, hchannel⟩
    rcases h.2 ⟨pin, hpin, henabled, .inl hchannel⟩ with ⟨p, hp, hpenabled, hchecked | hlabel⟩
    · rw [checked_number hnumber hchecked] at hchecked
      exact .inl hchecked
    · exact .inr ⟨p, hp, hpenabled, hlabel⟩
  intro hnumbered
  constructor
  · rintro ⟨pin, hpin, henabled, hchecked | hlabel⟩
    · exact ⟨pin, hpin, henabled, .inl (checked_number hnumber hchecked)⟩
    · exact ⟨pin, hpin, henabled, .inr hlabel⟩
  rintro ⟨pin, hpin, henabled, hchannel | hlabel⟩
  · rcases hnumbered ⟨pin, hpin, henabled, hchannel⟩ with hchecked | ⟨p, hp, hpenabled, hlabel⟩
    · exact ⟨pin, hpin, henabled, .inl (by rw [hchecked, hchannel])⟩
    · exact ⟨p, hp, hpenabled, .inr hlabel⟩
  · exact ⟨pin, hpin, henabled, .inr hlabel⟩

theorem accepted_unnumbered (hnumber : nameNumber ref.family.compiled name = none) :
    (ref.accepts config name = true ↔ (ref.resolve config name).isSome = true) ↔
      (ref.family.byLabel = false → ∀ pin ∈ ref.family.pins config, pin.enabled = true →
        nameNumber ref.family.checked name ≠ some pin.channel ∧
        labelMatchesName pin.label name = false) := by
  rw [accepts_iff, isSome_resolve_iff, Family.takes_unnumbered hnumber]
  simp only [Bool.and_eq_true]
  by_cases hbyLabel : ref.family.byLabel = true
  · rw [← ref.compiled_eq_checked hbyLabel, hnumber, hbyLabel]
    constructor
    · nofun
    intro _
    constructor
    · rintro ⟨pin, hpin, henabled, hchecked | hlabel⟩
      · cases hchecked
      · exact ⟨pin, hpin, henabled, rfl, hlabel⟩
    · rintro ⟨pin, hpin, henabled, _, hlabel⟩
      exact ⟨pin, hpin, henabled, .inr hlabel⟩
  constructor
  · -- An output is not resolved, so that the schema must not accept it.
    intro h _ pin hpin henabled
    have hnot : ¬(nameNumber ref.family.checked name = some pin.channel ∨
        labelMatchesName pin.label name = true) := by
      intro hadmits
      rcases h.1 ⟨pin, hpin, henabled, hadmits⟩ with ⟨p, _, _, hlabel, _⟩
      exact hbyLabel hlabel
    rw [not_or, Bool.not_eq_true] at hnot
    exact hnot
  intro hunnumbered
  constructor
  · rintro ⟨pin, hpin, henabled, hadmits⟩
    rcases hunnumbered (Bool.eq_false_iff.2 hbyLabel) pin hpin henabled with ⟨hne, hlabel⟩
    rcases hadmits with hchecked | hmatches
    · exact absurd hchecked hne
    · rw [hlabel] at hmatches
      cases hmatches
  · rintro ⟨pin, _, _, hlabel, _⟩
    exact absurd hlabel hbyLabel

/-- A name that commands of two families resolve has a number behind a prefix of both. -/
theorem resolve_output {command : String}
    (h : Reference.resolve config name (.output command) = some n) :
    ∃ before ∈ (commandFamily command).compiled, ∃ m,
      logicalChannelFromName name before = some m := by
  rw [Reference.resolve_eq] at h
  rcases Option.map_eq_some_iff.1 h with ⟨pin, hfind, _⟩
  have htakes := List.find?_some hfind
  cases hnumber : nameNumber (commandFamily command).compiled name with
  | some m =>
    rcases (nameNumber_eq_some (Reference.compiled_subset (.output command))).1 hnumber with
      ⟨before, hb, hm⟩
    exact ⟨before, hb, m, hm⟩
  | none =>
    have hunnumbered := @Family.takes_unnumbered name (Reference.family (.output command)) hnumber
    rw [hunnumbered, show (Reference.family (.output command)).byLabel = false from
      commandFamily_byLabel command] at htakes
    dsimp only at htakes
    rw [Bool.false_and, Bool.and_false] at htakes
    cases htakes

/-- No prefix belongs to two families. -/
theorem commandFamily_unique {command command' : String}
    (hb : before ∈ (commandFamily command).compiled)
    (hb' : before ∈ (commandFamily command').compiled) :
    commandFamily command = commandFamily command' := by
  unfold commandFamily at hb hb' ⊢
  split_ifs at hb hb' ⊢ <;>
    simp only [relayFamily, mosfetFamily, ioFamily, ledFamily, noFamily, List.mem_cons,
      List.not_mem_nil, or_false] at hb hb' ⊢
  -- What is left are two families and a prefix that would have to be of both.
  all_goals first
    | (subst hb; simp at hb')
    | (rcases hb with rfl | rfl <;> simp at hb')

theorem resolve_unique {command command' : String}
    (h : Reference.resolve config name (.output command) = some n)
    (h' : Reference.resolve config name (.output command') = some n') : n = n' := by
  rcases resolve_output h with ⟨before, hb, m, hm⟩
  rcases resolve_output h' with ⟨before', hb', m', hm'⟩
  have hsame := prefix_unique (Reference.compiled_subset (.output command) hb)
    (Reference.compiled_subset (.output command') hb') hm hm'
  rw [← hsame] at hb'
  rw [Reference.resolve_eq, Reference.family, ← commandFamily_unique hb hb',
    ← Reference.family, ← Reference.resolve_eq, h] at h'
  exact Option.some.inj h'

/-- **On every configuration a name is resolved as it should be if and only if nothing is in its
    way.** -/
theorem names_resolve_iff (config : NodeConfig) (name : String) (ref : Reference) :
    ref.Resolves config name ↔ ref.family.Clear config name := by
  constructor
  · rintro ⟨hcanonical, _, haccepted⟩
    refine ⟨fun pin hpin henabled hchannel before hb hname => ?_, fun m hnumber => ?_,
      fun hnumber => ?_⟩
    · rw [hname] at hcanonical ⊢
      exact (resolve_canonical_iff hpin henabled hchannel hb).1
        (hcanonical pin hpin henabled hchannel (mem_canonical.2 ⟨before, hb, rfl⟩))
    · exact (accepted_numbered hnumber).1 haccepted
    · exact (accepted_unnumbered hnumber).1 haccepted
  rintro ⟨hknown, hnumbered, hunnumbered⟩
  refine ⟨fun pin hpin henabled hchannel hname => ?_, fun _ _ _ _ => resolve_unique, ?_⟩
  · rcases mem_canonical.1 hname with ⟨before, hb, hbefore⟩
    have hclear := hknown pin hpin henabled hchannel before hb hbefore
    rw [hbefore] at hclear ⊢
    exact (resolve_canonical_iff hpin henabled hchannel hb).2 hclear
  · cases hnumber : nameNumber ref.family.compiled name with
    | some m => exact (accepted_numbered hnumber).2 (hnumbered m hnumber)
    | none => exact (accepted_unnumbered hnumber).2 (hunnumbered hnumber)

/-- The first relay is labelled with the name of the second one. -/
def mislabelled : NodeConfig where
  relays := [{ enabled := true, channel := 1, label := "Relay 2" },
    { enabled := true, channel := 2, label := "Door" }]
  universalIo := [{ enabled := true, channel := 1, role := .output, label := "IO 1" }]
  ledStrips := [{ enabled := true, channel := 1, label := "LED Strip 1" }]

/-- A label takes the name of another relay; the schema refuses an output that the compiler knows,
    and accepts a strip that it does not. -/
theorem not_everyNameResolves : ¬(Reference.output "relay.set").Resolves mislabelled "relay_2" ∧
    ¬(Reference.output "io.set").Resolves mislabelled "output_1" ∧
    ¬(Reference.output "led.off").Resolves mislabelled "led_1" := by
  refine ⟨fun h => ?_, fun h => ?_, fun h => ?_⟩
  · have hsecond := h.canonical { enabled := true, channel := 2, label := "Door" }
      (.tail _ List.mem_cons_self) rfl ⟨by decide, by decide⟩
      (mem_canonical.2 ⟨"relay_", .head _, rfl⟩)
    revert hsecond
    decide +kernel
  · have houtput := h.accepted
    revert houtput
    decide +kernel
  · have hstrip := h.accepted
    revert hstrip
    decide +kernel

end Clear

end SceneHub.Node
