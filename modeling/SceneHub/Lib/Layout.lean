import Mathlib.Algebra.Group.Nat.Defs
import Mathlib.Data.List.OfFn

/-!
# Memory Layouts

How values lie in memory: a layout has a size and an alignment, writes a value as bytes and reads
it back. The fields of a structure follow each other at offsets that are multiples of their
alignments, and the size of the structure is a multiple of its own. What stands between them is
written as zero and never read.

The same bytes may be read with another layout of the same size. What comes out then is whatever
the bytes happen to mean, and nothing is said about it, except for fields at the same offsets.

## Main definitions

* `Layout`: The layout of a type.
* `Layout.number`, `Layout.array`: Numbers with the low byte first, and arrays.
* `Fields`: Fields behind each other, from some offset on.
* `Fields.append`, `Fields.cons`: More fields behind them.
* `Fields.struct`: The layout of a structure.

## Theorems

* `ofLittleEndian_littleEndian`: Numbers are read back.
* `drop_flatMap_encode`: Where the items of an array are.
-/

namespace SceneHub.Lib

variable {α β : Type}

/-! ### Layouts -/

structure Layout (α : Type) where
  size : Nat
  align : Nat
  encode : α → List UInt8
  decode : List UInt8 → α
  length_encode : ∀ a, (encode a).length = size
  decode_encode : ∀ a rest, decode (encode a ++ rest) = a

/-- The bytes of a number, low byte first. -/
def littleEndian : Nat → Nat → List UInt8
  | 0, _ => []
  | k + 1, n => UInt8.ofNat (n % 256) :: littleEndian k (n / 256)

def ofLittleEndian : Nat → List UInt8 → Nat
  | 0, _ => 0
  | k + 1, bytes => (bytes.headD 0).toNat + 256 * ofLittleEndian k bytes.tail

theorem length_littleEndian (k n : Nat) : (littleEndian k n).length = k := by
  induction k generalizing n with
  | zero => rfl
  | succ k ih =>
    unfold littleEndian
    rw [List.length_cons, ih]

theorem ofLittleEndian_littleEndian (k n : Nat) (hn : n < 256 ^ k) (rest : List UInt8) :
    ofLittleEndian k (littleEndian k n ++ rest) = n := by
  induction k generalizing n with
  | zero =>
    unfold ofLittleEndian
    rw [Nat.pow_zero] at hn
    omega
  | succ k ih =>
    have hhigh : n / 256 < 256 ^ k := by
      rw [Nat.pow_succ] at hn
      omega
    have hlow : (UInt8.ofNat (n % 256)).toNat = n % 256 := by
      rw [UInt8.toNat_ofNat']
      omega
    unfold littleEndian ofLittleEndian
    rw [List.cons_append, List.headD_cons, List.tail_cons, hlow, ih _ hhigh]
    omega

/-- The bytes of all items of an array. -/
theorem length_flatMap_encode (c : Layout α) (items : List α) :
    (items.flatMap c.encode).length = items.length * c.size := by
  induction items with
  | nil => simp
  | cons a items ih =>
    rw [List.flatMap_cons, List.length_append, c.length_encode, ih, List.length_cons,
      Nat.add_mul]
    omega

/-- An item begins behind the ones before it. -/
theorem drop_flatMap_encode (c : Layout α) (items : List α) (i : Nat) (hi : i < items.length)
    (rest : List UInt8) :
    ∃ more, (items.flatMap c.encode ++ rest).drop (i * c.size) = c.encode items[i] ++ more := by
  induction items generalizing i with
  | nil => exact absurd hi (Nat.not_lt_zero i)
  | cons a items ih =>
    cases i with
    | zero =>
      refine ⟨items.flatMap c.encode ++ rest, ?_⟩
      rw [Nat.zero_mul, List.drop_zero, List.flatMap_cons, List.append_assoc]
      rfl
    | succ i =>
      rcases ih i (Nat.lt_of_succ_lt_succ hi) with ⟨more, hmore⟩
      refine ⟨more, ?_⟩
      rw [Nat.add_mul, Nat.one_mul, Nat.add_comm, ← List.drop_drop, List.flatMap_cons,
        List.append_assoc, List.drop_left' (c.length_encode a), hmore]
      rfl

namespace Layout

/-- A number of so many bytes. -/
def number (bytes : Nat) (read : Nat → α) (value : α → Nat) (hlt : ∀ a, value a < 256 ^ bytes)
    (h : ∀ a, read (value a) = a) : Layout α where
  size := bytes
  align := bytes
  encode a := littleEndian bytes (value a)
  decode bs := read (ofLittleEndian bytes bs)
  length_encode a := length_littleEndian bytes (value a)
  decode_encode a rest := by rw [ofLittleEndian_littleEndian bytes (value a) (hlt a), h]

def u8 : Layout UInt8 :=
  number 1 UInt8.ofNat UInt8.toNat UInt8.toNat_lt fun _ => UInt8.ofNat_toNat

def u16 : Layout UInt16 :=
  number 2 UInt16.ofNat UInt16.toNat UInt16.toNat_lt fun _ => UInt16.ofNat_toNat

def u32 : Layout UInt32 :=
  number 4 UInt32.ofNat UInt32.toNat UInt32.toNat_lt fun _ => UInt32.ofNat_toNat

/-- Values that stand for others. -/
def map (c : Layout α) (into : α → β) (out : β → α) (h : ∀ b, into (out b) = b) : Layout β where
  size := c.size
  align := c.align
  encode b := c.encode (out b)
  decode bytes := into (c.decode bytes)
  length_encode b := c.length_encode (out b)
  decode_encode b rest := by rw [c.decode_encode, h]

def i32 : Layout Int32 := u32.map UInt32.toInt32 Int32.toUInt32 fun _ => rfl

def bool : Layout Bool :=
  u8.map (fun byte => byte != 0) (fun b => if b then 1 else 0) fun b => by cases b <;> rfl

/-- An array of so many items. -/
def array (n : Nat) (c : Layout α) : Layout (Fin n → α) where
  size := n * c.size
  align := c.align
  encode items := (List.ofFn items).flatMap c.encode
  decode bytes i := c.decode (bytes.drop (i * c.size))
  length_encode items := by rw [length_flatMap_encode, List.length_ofFn]
  decode_encode items rest := by
    funext i
    have hi : i.1 < (List.ofFn items).length := by
      rw [List.length_ofFn]
      exact i.2
    rcases drop_flatMap_encode c (List.ofFn items) i hi rest with ⟨more, hmore⟩
    rw [hmore, c.decode_encode, List.getElem_ofFn]

end Layout

/-! ### Structures -/

/-- How far it is from an offset to the next multiple of an alignment. -/
def padding (offset align : Nat) : Nat := (align - offset % align) % align

/-- The fields of a structure from an offset on. -/
structure Fields (α : Type) where
  stop : Nat → Nat
  align : Nat
  encode : Nat → α → List UInt8
  decode : Nat → List UInt8 → α
  length_encode : ∀ start a, start + (encode start a).length = stop start
  decode_encode : ∀ start a rest, decode start (encode start a ++ rest) = a

namespace Fields

/-- One field, at the next offset that is good for it. -/
def one (c : Layout α) : Fields α where
  stop start := start + padding start c.align + c.size
  align := c.align
  encode start a := List.replicate (padding start c.align) 0 ++ c.encode a
  decode start bytes := c.decode (bytes.drop (padding start c.align))
  length_encode start a := by
    rw [List.length_append, List.length_replicate, c.length_encode]
    omega
  decode_encode start a rest := by
    rw [List.append_assoc, List.drop_left' (List.length_replicate ..), c.decode_encode]

/-- Fields with others behind them. -/
def append (f : Fields α) (g : Fields β) : Fields (α × β) where
  stop start := g.stop (f.stop start)
  align := max f.align g.align
  encode start ab := f.encode start ab.1 ++ g.encode (f.stop start) ab.2
  decode start bytes :=
    (f.decode start bytes, g.decode (f.stop start) (bytes.drop (f.stop start - start)))
  length_encode start ab := by
    have hf := f.length_encode start ab.1
    have hg := g.length_encode (f.stop start) ab.2
    rw [List.length_append]
    omega
  decode_encode start ab rest := by
    have hf := f.length_encode start ab.1
    have hlength : (f.encode start ab.1).length = f.stop start - start := by omega
    rw [List.append_assoc, f.decode_encode, List.drop_left' hlength, g.decode_encode]

/-- A field with others behind it. -/
def cons (c : Layout α) (f : Fields β) : Fields (α × β) := (one c).append f

def map (f : Fields α) (into : α → β) (out : β → α) (h : ∀ b, into (out b) = b) : Fields β where
  stop := f.stop
  align := f.align
  encode start b := f.encode start (out b)
  decode start bytes := into (f.decode start bytes)
  length_encode start b := f.length_encode start (out b)
  decode_encode start b rest := by rw [f.decode_encode, h]

/-- A structure begins with its first field, and ends at a multiple of its alignment. -/
def struct (f : Fields α) (into : α → β) (out : β → α) (h : ∀ b, into (out b) = b) : Layout β where
  size := f.stop 0 + padding (f.stop 0) f.align
  align := f.align
  encode b := f.encode 0 (out b) ++ List.replicate (padding (f.stop 0) f.align) 0
  decode bytes := into (f.decode 0 bytes)
  length_encode b := by
    have hf := f.length_encode 0 (out b)
    rw [List.length_append, List.length_replicate]
    omega
  decode_encode b rest := by rw [List.append_assoc, f.decode_encode, h]

end Fields

end SceneHub.Lib
