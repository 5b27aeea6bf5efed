import OracleCatalog.Binary64.Shortest
import OracleCatalog.Decimal.Basic
import OracleCatalog.OrderedMap

/-!
# Values

What cells of the catalog, bound parameters, settings and cached documents hold: one dynamic type.
A large object is a handle into the session's shelf of large objects.
-/

namespace OracleCatalog

/-- A dynamic value. -/
inductive Value where
  | null
  | bool (value : Bool)
  | int (value : Int)
  | float (value : Float)
  | decimal (value : Decimal)
  | text (value : String)
  | bytes (value : List UInt8)
  | list (items : List Value)
  | tuple (items : List Value)
  /-- Entries in insertion order. -/
  | map (entries : List (Value × Value))
  /-- A large object, known by its handle. -/
  | lob (handle : Nat)
  deriving Inhabited

/-- The entries of a map with any keys. -/
abbrev Entries := OrderedMap Value Value

namespace Value

/-! ### Kinds -/

def kind : Value → String
  | .null => "NoneType"
  | .bool _ => "bool"
  | .int _ => "int"
  | .float _ => "float"
  | .decimal _ => "Decimal"
  | .text _ => "str"
  | .bytes _ => "bytes"
  | .list _ => "list"
  | .tuple _ => "tuple"
  | .map _ => "dict"
  | .lob _ => "LOB"

def isNull : Value → Bool
  | .null => true
  | _ => false

def isText (s : String) : Value → Bool
  | .text t => t == s
  | _ => false

/-- Whether the value is missing: null or the empty text. -/
def isMissing (v : Value) : Bool := v.isNull || v.isText ""

/-- Whether the value counts as true: not null, not zero and not empty. -/
def truthy : Value → Bool
  | .null => false
  | .bool b => b
  | .int i => i != 0
  | .float x => x != 0
  | .decimal d => !d.isZero
  | .text s => s != ""
  | .bytes b => !b.isEmpty
  | .list xs => !xs.isEmpty
  | .tuple xs => !xs.isEmpty
  | .map es => !es.isEmpty
  | .lob _ => true

/-- The value itself if it counts as true, else the other one. -/
def orElse (v other : Value) : Value := if v.truthy then v else other

def ofText? : Option String → Value
  | some s => .text s
  | none => .null

/-- An integer or null. -/
def ofInt? : Option Int → Value
  | some i => .int i
  | none => .null

/-! ### Numbers -/

/-- The number that a value stands for; truth values stand for one and zero. -/
inductive Number where
  /-- A fraction times ten to `exponent`. -/
  | finite (numerator : Int) (denominator : Nat) (exponent : Int)
  | infinite (negative : Bool)
  | nan
  deriving DecidableEq

def signed (negative : Bool) (magnitude : Nat) : Int :=
  if negative then -(magnitude : Int) else magnitude

def number? : Value → Option Number
  | .bool b => some (.finite b.toNat 1 0)
  | .int i => some (.finite i 1 0)
  | .float x =>
    match Binary64.read x with
    | .finite negative m e =>
      some (.finite (signed negative (Binary64.fraction m e).1) (Binary64.fraction m e).2 0)
    | .infinite negative => some (.infinite negative)
    | .nan => some .nan
  | .decimal (.finite negative c e) => some (.finite (signed negative c) 1 e)
  | .decimal (.infinite negative) => some (.infinite negative)
  | .decimal (.nan ..) => some .nan
  | _ => none

/-- How `a` times ten to `k` compares to `b`. A power of ten that is larger than `b` is not
computed. -/
def scaledOrder (a k b : Nat) : Ordering :=
  if a = 0 then compare 0 b
  else if b.log2 + 1 ≤ k then .gt
  else compare (a * Nat.pow 10 k) b

/-- Leaving the power of ten out changes nothing. -/
theorem scaledOrder_eq (a k b : Nat) : scaledOrder a k b = compare (a * Nat.pow 10 k) b := by
  unfold scaledOrder
  split
  · simp_all
  · rename_i ha
    split
    · rename_i hk
      have h1 : b < 2 ^ (b.log2 + 1) := Nat.lt_log2_self
      have h2 : 2 ^ (b.log2 + 1) ≤ 2 ^ k := Nat.pow_le_pow_right (by decide) hk
      have h3 : 2 ^ k ≤ 10 ^ k := Nat.pow_le_pow_left (by decide) k
      have h4 : 10 ^ k ≤ a * 10 ^ k := Nat.le_mul_of_pos_left _ (Nat.pos_of_ne_zero ha)
      exact (Nat.compare_eq_gt.2 (by show b < a * 10 ^ k; omega)).symm
    · rfl

/-- How `a` times ten to `e` compares to `b` times ten to `f`. -/
def magnitudeOrder (a : Nat) (e : Int) (b : Nat) (f : Int) : Ordering :=
  if f ≤ e then scaledOrder a (e - f).toNat b else (scaledOrder b (f - e).toNat a).swap

/-- The order of two numbers; what is not a number is in order with nothing. -/
def Number.order : Number → Number → Option Ordering
  | .finite n d e, .finite n' d' e' =>
    let a := n.natAbs * d'
    let b := n'.natAbs * d
    some (
      if 0 ≤ n then if 0 ≤ n' then magnitudeOrder a e b e' else .gt
      else if 0 ≤ n' then .lt else (magnitudeOrder a e b e').swap)
  | .infinite negative, .finite .. => some (if negative then .lt else .gt)
  | .finite .., .infinite negative => some (if negative then .gt else .lt)
  | .infinite s, .infinite s' => some (if s = s' then .eq else if s then .lt else .gt)
  | _, _ => none

/-- Equality of numbers in value; what is not a number equals nothing. -/
def Number.same (m n : Number) : Bool := m.order n == some .eq

/-- Whether the first number is not larger; what is not a number is in order with nothing. -/
def Number.atMost (m n : Number) : Bool := (m.order n).any (·.isLE)

/-! ### Equality -/

mutual

/-- Equality of values as keys and in comparisons: numbers by value across their kinds, maps
whatever the order of their entries, large objects by handle. -/
def same : Value → Value → Bool
  | .null, .null => true
  | .text s, .text t => s == t
  | .bytes b, .bytes c => b == c
  | .list xs, .list ys => sameAll xs ys
  | .tuple xs, .tuple ys => sameAll xs ys
  | .map es, .map fs => es.length == fs.length && entriesIn es fs
  | .lob h, .lob i => h == i
  | .int i, .int j => i == j
  | v, w =>
    match v.number?, w.number? with
    | some m, some n => m.same n
    | _, _ => false

def sameAll : List Value → List Value → Bool
  | [], [] => true
  | x :: xs, y :: ys => x.same y && sameAll xs ys
  | _, _ => false

def entriesIn : List (Value × Value) → List (Value × Value) → Bool
  | [], _ => true
  | (k, v) :: es, fs => fs.any (fun f => k.same f.1 && v.same f.2) && entriesIn es fs

end

instance : BEq Value := ⟨same⟩

@[simp] theorem text_beq (s t : String) : (Value.text s == Value.text t) = (s == t) := rfl

@[simp] theorem int_beq (i j : Int) : (Value.int i == Value.int j) = (i == j) := rfl

mutual

/-- Whether the value can be a key: lists, maps and tuples that hold one cannot. -/
def isKey : Value → Bool
  | .list _ => false
  | .map _ => false
  | .tuple xs => areKeys xs
  | .decimal (.nan _ signaling _) => !signaling
  | _ => true

/-- Whether all values can be keys. -/
def areKeys : List Value → Bool
  | [] => true
  | x :: xs => x.isKey && areKeys xs

end

end Value

end OracleCatalog
