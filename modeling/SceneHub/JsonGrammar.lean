import SceneHub.JsonText

/-!
# The Grammar of JSON

What a text has to be to be JSON. A tree holds every choice of its text, down to the
blanks, so that there is a tree for each text the grammar derives. Below a key, what
`JsonText` knows of a nested value is completed here: a string has no byte of control in
it, a number no leading zero, and brackets hold items or members with a comma between two.

## Main definitions

* `Literal`, `Numeral`, `Tree`: A string, a number and a value.
* `IsJson`: A text is JSON.
* `ObjectText`: A text that is an object.
* `Tree.depth`: How many brackets are open at once.
* `BracketScanner`: A loop that keeps the brackets that are open.

## Theorems

* `Tree.inside`: Between the brackets of a tree they come in pairs.
* `BracketScanner.tree`: A loop over brackets moves over a tree.
* `exists_fields`: Members that are sound are those of an object.
-/

namespace SceneHub.JsonText

variable {stack : List Bracket}

/-! ### Strings and numbers -/

/-- It is no byte of control. -/
def Piece.printable : Piece → Bool
  | .byte c _ => 32 ≤ c.toNat
  | _ => true

structure Literal where
  pieces : List Piece
  printable : ∀ p ∈ pieces, p.printable = true

/-- A text with nothing to escape, as it stands in a string. -/
theorem exists_literal {text : List Char} (h : ∀ c ∈ text, c ≠ '"' ∧ c ≠ '\\' ∧ 32 ≤ c.toNat) :
    ∃ s : Literal, spelled s.pieces = text := by
  induction text with
  | nil => exact ⟨⟨[], List.forall_mem_nil _⟩, rfl⟩
  | cons c text ih =>
    rcases List.forall_mem_cons.1 h with ⟨⟨hquote, hslash, hprints⟩, htext⟩
    rcases ih htext with ⟨s, hs⟩
    have hzero : c ≠ '\x00' := by
      rintro rfl
      exact absurd hprints (by decide)
    refine ⟨⟨.byte c ⟨hquote, hslash, hzero⟩ :: s.pieces, ?_⟩, ?_⟩
    · exact List.forall_mem_cons.2 ⟨decide_eq_true hprints, s.printable⟩
    · rw [← hs]
      rfl

/-- One digit or more. -/
structure Digits where
  text : List Char
  ne_nil : text ≠ []
  isDigit : ∀ c ∈ text, isDigit c = true

structure Exponent where
  upper : Bool
  /-- Whether it is a minus, if there is one. -/
  sign : Option Bool
  digits : Digits

def Exponent.text (e : Exponent) : List Char :=
  (if e.upper then 'E' else 'e') ::
    ((match e.sign with
      | none => []
      | some true => ['-']
      | some false => ['+']) ++ e.digits.text)

structure Numeral where
  negative : Bool
  digits : Digits
  leading : digits.text.head? = some '0' → digits.text = ['0']
  fraction : Option Digits
  exponent : Option Exponent

namespace Numeral

def fractionText (n : Numeral) : List Char :=
  match n.fraction with
  | none => []
  | some digits => '.' :: digits.text

def exponentText (n : Numeral) : List Char :=
  match n.exponent with
  | none => []
  | some e => e.text

theorem isTail_digits (digits : Digits) : ∀ c ∈ digits.text, isTail c = true :=
  fun c hc => decide_eq_true (Or.inl (digits.isDigit c hc))

theorem isTail_fraction (n : Numeral) : ∀ c ∈ n.fractionText, isTail c = true := by
  intro c hc
  unfold fractionText at hc
  split at hc
  · cases hc
  rename_i digits hfraction
  rcases List.mem_cons.1 hc with rfl | hc
  · rfl
  · exact isTail_digits digits c hc

theorem isTail_exponent (n : Numeral) : ∀ c ∈ n.exponentText, isTail c = true := by
  intro c hc
  unfold exponentText at hc
  split at hc
  · cases hc
  rename_i e hexponent
  rcases List.mem_cons.1 hc with rfl | hc
  · split_ifs <;> rfl
  rcases List.mem_append.1 hc with hc | hc
  · split at hc
    · cases hc
    · rw [List.mem_singleton.1 hc]
      rfl
    · rw [List.mem_singleton.1 hc]
      rfl
  · exact isTail_digits e.digits c hc

/-- A point or an `e` comes behind the digits. -/
theorem head_tail (n : Numeral) :
    ∀ c ∈ (n.fractionText ++ n.exponentText).head?, isDigit c = false := by
  intro c hc
  unfold fractionText exponentText at hc
  cases hfraction : n.fraction with
  | some digits =>
    rw [hfraction] at hc
    cases hc
    rfl
  | none =>
    rw [hfraction] at hc
    cases hexponent : n.exponent with
    | none =>
      rw [hexponent] at hc
      cases hc
    | some e =>
      rw [hexponent] at hc
      cases hc
      split_ifs <;> rfl

/-- The number it is for a reader. -/
def number (n : Numeral) : Number where
  negative := n.negative
  digits := n.digits.text
  tail := n.fractionText ++ n.exponentText
  digits_ne := n.digits.ne_nil
  isDigit_digits := n.digits.isDigit
  isTail_tail := by
    intro c hc
    rcases List.mem_append.1 hc with hc | hc
    · exact n.isTail_fraction c hc
    · exact n.isTail_exponent c hc
  head_tail := n.head_tail

end Numeral

/-- No decimal number but zero begins with a zero. -/
theorem head_toDigits {n : Nat} (hn : 0 < n) : (Nat.toDigits 10 n).head? ≠ some '0' := by
  induction n using Nat.strongRecOn with
  | ind n ih =>
    by_cases hlt : n < 10
    · rw [Nat.toDigits_of_lt_base hlt, List.head?_cons]
      intro h
      have hzero := Nat.digitChar_eq_zero.1 (Option.some.inj h)
      omega
    have hrest := ih (n / 10) (by omega) (by omega)
    rw [Nat.toDigits_of_base_le (by omega) (by omega)]
    rcases List.exists_cons_of_ne_nil (@Nat.toDigits_ne_nil (n / 10) 10) with ⟨c, cs, hcs⟩
    rw [hcs] at hrest ⊢
    exact hrest

theorem isDigit_toDigits (n : Nat) : ∀ c ∈ Nat.toDigits 10 n, isDigit c = true := by
  intro c hc
  have hdigit := Nat.isDigit_of_mem_toDigits (by omega) (by omega) hc
  unfold Char.isDigit at hdigit
  rw [Bool.and_eq_true, decide_eq_true_eq, decide_eq_true_eq] at hdigit
  exact decide_eq_true hdigit

/-- The digits of a number are JSON. -/
def Numeral.ofNat (negative : Bool) (n : Nat) : Numeral where
  negative := negative
  digits := ⟨Nat.toDigits 10 n, Nat.toDigits_ne_nil, isDigit_toDigits n⟩
  leading := by
    intro h
    by_cases hn : 0 < n
    · exact absurd h (head_toDigits hn)
    · rw [Nat.eq_zero_of_not_pos hn]
      exact Nat.toDigits_zero 10
  fraction := none
  exponent := none

theorem exists_numeral (n : Int) : ∃ k : Numeral, k.number.text = (toString n).toList := by
  cases n with
  | ofNat n =>
    refine ⟨.ofNat false n, ?_⟩
    rw [Number.text]
    exact (List.append_nil _).trans Nat.toList_repr.symm
  | negSucc n =>
    refine ⟨.ofNat true (n + 1), ?_⟩
    have htext : (toString (Int.negSucc n)).toList = '-' :: (n + 1).repr.toList := by
      rw [← List.singleton_append]
      exact String.toList_append
    rw [htext, Nat.toList_repr, Number.text]
    exact List.append_nil _

/-! ### Trees -/

mutual
/-- A value. The gap of a bracket is what is in it if there is nothing else. -/
inductive Tree where
  | null
  | bool (value : Bool)
  | number (n : Numeral)
  | string (s : Literal)
  | array (empty : Gap) (items : Items)
  | object (empty : Gap) (fields : Fields)

inductive Items where
  | nil
  | cons (before : Gap) (item : Tree) (after : Gap) (further : Items)

inductive Fields where
  | nil
  | cons (before : Gap) (key : Literal) (afterKey beforeValue : Gap) (value : Tree) (after : Gap)
      (further : Fields)
end

def Items.emptyText (empty : Gap) : Items → List Char
  | .nil => empty.text
  | .cons .. => []

def Fields.emptyText (empty : Gap) : Fields → List Char
  | .nil => empty.text
  | .cons .. => []

/-- The comma between two items. -/
def comma (first : Bool) : List Char := if first then [] else [',']

mutual
def Tree.text : Tree → List Char
  | .null => Value.null.text
  | .bool value => (Value.bool value).text
  | .number n => n.number.text
  | .string s => (Value.string s.pieces).text
  | .array empty items => '[' :: ((items.emptyText empty ++ items.text true) ++ [']'])
  | .object empty fields => '{' :: ((fields.emptyText empty ++ fields.text true) ++ ['}'])

def Items.text : Items → Bool → List Char
  | .nil, _ => []
  | .cons before item after further, first =>
    comma first ++ (before.text ++ (item.text ++ (after.text ++ further.text false)))

def Fields.text : Fields → Bool → List Char
  | .nil, _ => []
  | .cons before key afterKey beforeValue value after further, first =>
    comma first ++ (before.text ++ ('"' :: (spelled key.pieces ++ '"' :: (afterKey.text ++
      ':' :: (beforeValue.text ++ (value.text ++ (after.text ++ further.text false)))))))
end

mutual
/-- How many brackets are open at once. -/
def Tree.depth : Tree → Nat
  | .array _ items => items.depth + 1
  | .object _ fields => fields.depth + 1
  | _ => 0

def Items.depth : Items → Nat
  | .nil => 0
  | .cons _ item _ further => max item.depth further.depth

def Fields.depth : Fields → Nat
  | .nil => 0
  | .cons _ _ _ _ value _ further => max value.depth further.depth
end

/-- A text that is JSON, with blanks around it. -/
def IsJson (text : List Char) : Prop :=
  ∃ (lead : Gap) (t : Tree) (trail : Gap), text = lead.text ++ (t.text ++ trail.text)

/-! ### A tree as a value -/

theorem Inside.append {text rest : List Char} (h : Inside text) (hrest : Inside rest) :
    Inside (text ++ rest) := by
  induction h with
  | nil => exact hrest
  | bare hc _ ih => exact .bare hc ih
  | string pieces _ ih =>
    rw [List.cons_append, List.append_assoc, List.cons_append]
    exact .string pieces ih
  | nested b hinner _ _ ih =>
    rw [List.cons_append, List.append_assoc, List.cons_append]
    exact .nested b hinner ih

theorem inside_bare {text : List Char} (h : ∀ c ∈ text, isBare c = true) : Inside text := by
  induction text with
  | nil => exact .nil
  | cons c text ih =>
    rcases List.forall_mem_cons.1 h with ⟨hc, htext⟩
    exact .bare hc (ih htext)

theorem isBare_blank {c : Char} (h : isBlank c = true) : isBare c = true := by
  rcases of_decide_eq_true h with rfl | rfl | rfl | rfl <;> rfl

theorem isBare_tail {c : Char} (h : isTail c = true) : isBare c = true := by
  have hne : ∀ d, isTail d = false → c ≠ d := by
    rintro d hd rfl
    exact Bool.noConfusion (h.symm.trans hd)
  refine decide_eq_true ?_
  rintro (rfl | rfl | rfl | rfl | rfl | rfl)
  · exact hne '"' (by decide) rfl
  · exact hne '{' (by decide) rfl
  · exact hne '}' (by decide) rfl
  · exact hne '[' (by decide) rfl
  · exact hne ']' (by decide) rfl
  · exact hne '\x00' (by decide) rfl

theorem Gap.inside (g : Gap) : Inside g.text := inside_bare fun c hc => isBare_blank (g.blank c hc)

theorem inside_comma (first : Bool) : Inside (comma first) := by
  cases first with
  | true => exact .nil
  | false => exact .bare (by decide) .nil

theorem Number.bare (n : Number) : ∀ c ∈ n.text, isBare c = true := by
  intro c hc
  rcases List.mem_append.1 hc with hc | hc
  · rcases List.mem_append.1 hc with hc | hc
    · unfold Number.sign at hc
      split_ifs at hc
      · rw [List.mem_singleton.1 hc]
        rfl
      · cases hc
    · exact isBare_tail (decide_eq_true (Or.inl (n.isDigit_digits c hc)))
  · exact isBare_tail (n.isTail_tail c hc)

theorem Number.inside (n : Number) : Inside n.text := inside_bare n.bare

theorem Items.inside_empty (empty : Gap) (items : Items) : Inside (items.emptyText empty) := by
  cases items with
  | nil => exact empty.inside
  | cons before item after further => exact .nil

theorem Fields.inside_empty (empty : Gap) (fields : Fields) : Inside (fields.emptyText empty) := by
  cases fields with
  | nil => exact empty.inside
  | cons before key afterKey beforeValue value after further => exact .nil

mutual
theorem Tree.inside : ∀ t : Tree, Inside t.text
  | .null => inside_bare (List.all_eq_true.1 (by decide))
  | .bool true => inside_bare (List.all_eq_true.1 (by decide))
  | .bool false => inside_bare (List.all_eq_true.1 (by decide))
  | .number n => n.number.inside
  | .string s => .string s.pieces .nil
  | .array empty items =>
    .nested .square ((items.inside_empty empty).append (items.inside true)) .nil
  | .object empty fields =>
    .nested .brace ((fields.inside_empty empty).append (fields.inside true)) .nil

theorem Items.inside : ∀ (items : Items) (first : Bool), Inside (items.text first)
  | .nil, _ => .nil
  | .cons before item after further, first =>
    (inside_comma first).append (before.inside.append (item.inside.append
      (after.inside.append (further.inside false))))

theorem Fields.inside : ∀ (fields : Fields) (first : Bool), Inside (fields.text first)
  | .nil, _ => .nil
  | .cons before key afterKey beforeValue value after further, first =>
    (inside_comma first).append (before.inside.append (.string key.pieces
      (afterKey.inside.append (.bare (by decide) (beforeValue.inside.append
        (value.inside.append (after.inside.append (further.inside false))))))))
end

def Items.inner (empty : Gap) (items : Items) : List Char :=
  items.emptyText empty ++ items.text true

def Fields.inner (empty : Gap) (fields : Fields) : List Char :=
  fields.emptyText empty ++ fields.text true

def Tree.value : Tree → Value
  | .null => .null
  | .bool value => .bool value
  | .number n => .number n.number
  | .string s => .string s.pieces
  | .array empty items =>
    .nested .square (items.inner empty) ((items.inside_empty empty).append (items.inside true))
  | .object empty fields =>
    .nested .brace (fields.inner empty) ((fields.inside_empty empty).append (fields.inside true))

theorem Tree.text_value (t : Tree) : t.value.text = t.text := by
  cases t with
  | bool value => cases value <;> rfl
  | _ => rfl

/-! ### Objects -/

def Fields.members : Fields → List Member
  | .nil => []
  | .cons before key afterKey beforeValue value after further =>
    ⟨before, key.pieces, afterKey, beforeValue, value.value, after⟩ :: further.members

theorem Fields.text_cons_eq (before : Gap) (key : Literal) (afterKey beforeValue : Gap)
    (value : Tree) (after : Gap) (further : Fields) (first : Bool) :
    (Fields.cons before key afterKey beforeValue value after further).text first =
      comma first ++ ((⟨before, key.pieces, afterKey, beforeValue, value.value, after⟩ :
        Member).text ++ further.text false) := by
  rw [Fields.text, Member.text, Member.pairText, value.text_value]
  simp

theorem Fields.text_false : ∀ fields : Fields, fields.text false = furtherText fields.members
  | .nil => rfl
  | .cons before key afterKey beforeValue value after further => by
    rw [text_cons_eq, further.text_false, members, furtherText, furtherText, List.flatMap_cons]
    rfl

theorem Fields.inner_eq (empty : Gap) (fields : Fields) :
    fields.inner empty = membersText empty fields.members := by
  cases fields with
  | nil => exact List.append_nil _
  | cons before key afterKey beforeValue value after further =>
    rw [inner, emptyText, text_cons_eq, further.text_false]
    rfl

/-- An object with blanks around it. -/
structure ObjectText where
  lead : Gap
  empty : Gap
  fields : Fields
  trail : Gap

def ObjectText.document (o : ObjectText) : Document where
  lead := o.lead
  members := o.fields.members
  empty := o.empty
  rest := o.trail.text

def ObjectText.text (o : ObjectText) : List Char :=
  o.lead.text ++ ((Tree.object o.empty o.fields).text ++ o.trail.text)

theorem ObjectText.text_document (o : ObjectText) : o.document.text = o.text := by
  have hinner := o.fields.inner_eq o.empty
  rw [Fields.inner] at hinner
  rw [Document.text, ObjectText.text, Tree.text, hinner, List.cons_append, List.append_assoc]
  rfl

/-- What the grammar asks of a member. -/
structure Member.Sound (m : Member) : Prop where
  key : ∀ p ∈ m.key, p.printable = true
  value : ∃ t : Tree, t.value = m.value

theorem Fields.sound : ∀ fields : Fields, ∀ m ∈ fields.members, m.Sound
  | .nil, _, hm => nomatch hm
  | .cons before key afterKey beforeValue value after further, m, hm => by
    rcases List.mem_cons.1 hm with rfl | hm
    · exact ⟨key.printable, value, rfl⟩
    · exact further.sound m hm

theorem exists_fields (members : List Member) (h : ∀ m ∈ members, m.Sound) :
    ∃ fields : Fields, fields.members = members := by
  induction members with
  | nil => exact ⟨.nil, rfl⟩
  | cons m members ih =>
    rcases List.forall_mem_cons.1 h with ⟨⟨hkey, t, ht⟩, hmembers⟩
    rcases ih hmembers with ⟨fields, hfields⟩
    refine ⟨.cons m.before ⟨m.key, hkey⟩ m.afterKey m.beforeValue t m.after fields, ?_⟩
    rw [Fields.members, ht, hfields]

/-! ### What a scanner gets past -/

/-- A scanner that knows no escape in a key, and keeps up to `size` brackets, gets past the
    member. -/
structure Member.Readable (size : Nat) (m : Member) : Prop where
  plain : plain m.key = true
  shallow : ∃ t : Tree, t.value = m.value ∧ t.depth ≤ size

theorem Fields.exists_tree : ∀ (fields : Fields), ∀ m ∈ fields.members,
    ∃ t : Tree, t.value = m.value ∧ t.depth ≤ fields.depth
  | .nil, _, hm => nomatch hm
  | .cons before key afterKey beforeValue value after further, m, hm => by
    rw [Fields.depth]
    rcases List.mem_cons.1 hm with rfl | hm
    · exact ⟨value, rfl, Nat.le_max_left _ _⟩
    · rcases further.exists_tree m hm with ⟨t, ht, hdepth⟩
      exact ⟨t, ht, Nat.le_trans hdepth (Nat.le_max_right _ _)⟩

theorem Fields.readable {size : Nat} {fields : Fields}
    (hplain : ∀ m ∈ fields.members, JsonText.plain m.key = true) (hdepth : fields.depth ≤ size) :
    ∀ m ∈ fields.members, m.Readable size := by
  intro m hm
  rcases fields.exists_tree m hm with ⟨t, ht, hle⟩
  exact ⟨hplain m hm, t, ht, Nat.le_trans hle hdepth⟩

/-! ### Moving over a tree -/

/-- A loop that moves over what is in brackets with a stack of those that are open, and ends
    behind the last closing one. -/
structure BracketScanner (size : Nat) (scan : List Bracket → List Char → Option (List Char)) :
    Prop where
  bare : ∀ stack {c : Char}, isBare c = true → ∀ rest, scan stack (c :: rest) = scan stack rest
  string : ∀ stack pieces rest,
    scan stack ('"' :: (spelled pieces ++ '"' :: rest)) = scan stack rest
  opening : ∀ stack (b : Bracket) rest, stack.length < size →
    scan stack (b.opening :: rest) = scan (b :: stack) rest
  closing : ∀ stack (b : Bracket) rest, stack ≠ [] →
    scan (b :: stack) (b.closing :: rest) = scan stack rest
  last : ∀ (b : Bracket) rest, scan [b] (b.closing :: rest) = some rest

namespace BracketScanner

variable {size : Nat} {scan : List Bracket → List Char → Option (List Char)}

section

variable (h : BracketScanner size scan)
include h

theorem bytes (stack : List Bracket) {text : List Char}
    (htext : ∀ c ∈ text, isBare c = true) (rest : List Char) :
    scan stack (text ++ rest) = scan stack rest := by
  induction text with
  | nil => rfl
  | cons c text ih =>
    rcases List.forall_mem_cons.1 htext with ⟨hc, htext⟩
    rw [List.cons_append, h.bare stack hc, ih htext]

theorem gap (stack : List Bracket) (g : Gap) (rest : List Char) :
    scan stack (g.text ++ rest) = scan stack rest :=
  h.bytes stack (fun c hc => isBare_blank (g.blank c hc)) rest

theorem comma (stack : List Bracket) (first : Bool)
    (rest : List Char) : scan stack (comma first ++ rest) = scan stack rest := by
  cases first with
  | true => rfl
  | false => exact h.bare stack (by decide) rest

theorem bracket (hstack : stack ≠ []) (b : Bracket)
    (hroom : stack.length < size) {inner : List Char}
    (hinner : ∀ rest, scan (b :: stack) (inner ++ rest) = scan (b :: stack) rest)
    (rest : List Char) :
    scan stack (b.opening :: (inner ++ b.closing :: rest)) = scan stack rest := by
  rw [h.opening stack b _ hroom, hinner, h.closing stack b _ hstack]

theorem emptyItems (stack : List Bracket) (empty : Gap) (items : Items) (rest : List Char) :
    scan stack (items.emptyText empty ++ rest) = scan stack rest := by
  cases items with
  | nil => exact h.gap stack empty rest
  | cons before item after further => rfl

theorem emptyFields (stack : List Bracket) (empty : Gap) (fields : Fields) (rest : List Char) :
    scan stack (fields.emptyText empty ++ rest) = scan stack rest := by
  cases fields with
  | nil => exact h.gap stack empty rest
  | cons before key afterKey beforeValue value after further => rfl

theorem itemsInner (empty : Gap) {items : Items}
    (hitems : ∀ rest, scan stack (items.text true ++ rest) = scan stack rest) (rest : List Char) :
    scan stack (items.inner empty ++ rest) = scan stack rest := by
  rw [Items.inner, List.append_assoc, h.emptyItems, hitems]

theorem fieldsInner (empty : Gap) {fields : Fields}
    (hfields : ∀ rest, scan stack (fields.text true ++ rest) = scan stack rest) (rest : List Char) :
    scan stack (fields.inner empty ++ rest) = scan stack rest := by
  rw [Fields.inner, List.append_assoc, h.emptyFields, hfields]

end

mutual
theorem tree (h : BracketScanner size scan) : ∀ (t : Tree) {stack : List Bracket},
    stack ≠ [] → stack.length + t.depth ≤ size → ∀ rest,
      scan stack (t.text ++ rest) = scan stack rest
  | .null, stack, _, _, rest => h.bytes stack (List.all_eq_true.1 (by decide)) rest
  | .bool true, stack, _, _, rest => h.bytes stack (List.all_eq_true.1 (by decide)) rest
  | .bool false, stack, _, _, rest => h.bytes stack (List.all_eq_true.1 (by decide)) rest
  | .number n, stack, _, _, rest => h.bytes stack (Number.bare n.number) rest
  | .string s, stack, _, _, rest => by
    have hstring := h.string stack s.pieces rest
    rw [Tree.text, Value.text, List.cons_append, List.append_assoc]
    exact hstring
  | .array empty items, stack, hstack, hdepth, rest => by
    rw [Tree.depth] at hdepth
    have hinner := h.items items true (List.cons_ne_nil .square stack)
      (by rw [List.length_cons]; omega)
    have hbracket := h.bracket hstack .square (by omega) (h.itemsInner empty hinner) rest
    rw [Tree.text, List.cons_append, List.append_assoc]
    exact hbracket
  | .object empty fields, stack, hstack, hdepth, rest => by
    rw [Tree.depth] at hdepth
    have hinner := h.fields fields true (List.cons_ne_nil .brace stack)
      (by rw [List.length_cons]; omega)
    have hbracket := h.bracket hstack .brace (by omega) (h.fieldsInner empty hinner) rest
    rw [Tree.text, List.cons_append, List.append_assoc]
    exact hbracket

theorem items (h : BracketScanner size scan) : ∀ (items : Items) (first : Bool)
    {stack : List Bracket}, stack ≠ [] → stack.length + items.depth ≤ size → ∀ rest,
      scan stack (items.text first ++ rest) = scan stack rest
  | .nil, _, _, _, _, _ => rfl
  | .cons before item after further, first, stack, hstack, hdepth, rest => by
    rw [Items.depth] at hdepth
    simp only [Items.text, List.append_assoc]
    rw [h.comma, h.gap, h.tree item hstack (by omega), h.gap,
      h.items further false hstack (by omega)]

theorem fields (h : BracketScanner size scan) : ∀ (fields : Fields) (first : Bool)
    {stack : List Bracket}, stack ≠ [] → stack.length + fields.depth ≤ size → ∀ rest,
      scan stack (fields.text first ++ rest) = scan stack rest
  | .nil, _, _, _, _, _ => rfl
  | .cons before key afterKey beforeValue value after further, first, stack, hstack, hdepth,
      rest => by
    rw [Fields.depth] at hdepth
    simp only [Fields.text, List.append_assoc, List.cons_append]
    rw [h.comma, h.gap, h.string, h.gap, h.bare _ (by decide), h.gap,
      h.tree value hstack (by omega), h.gap, h.fields further false hstack (by omega)]
end

theorem closed (h : BracketScanner size scan) (b : Bracket) {inner : List Char}
    (hinner : ∀ rest, scan [b] (inner ++ rest) = scan [b] rest) (rest : List Char) :
    scan [b] (inner ++ b.closing :: rest) = some rest := by
  rw [hinner, h.last]

theorem array (h : BracketScanner size scan) {empty : Gap} {items : Items}
    (hdepth : (Tree.array empty items).depth ≤ size) (rest : List Char) :
    scan [.square] (items.inner empty ++ ']' :: rest) = some rest := by
  rw [Tree.depth] at hdepth
  refine h.closed .square (h.itemsInner empty (h.items items true (List.cons_ne_nil _ _) ?_)) rest
  rw [List.length_singleton]
  omega

theorem object (h : BracketScanner size scan) {empty : Gap} {fields : Fields}
    (hdepth : (Tree.object empty fields).depth ≤ size) (rest : List Char) :
    scan [.brace] (fields.inner empty ++ '}' :: rest) = some rest := by
  rw [Tree.depth] at hdepth
  refine h.closed .brace (h.fieldsInner empty (h.fields fields true (List.cons_ne_nil _ _) ?_)) rest
  rw [List.length_singleton]
  omega

end BracketScanner

end SceneHub.JsonText
