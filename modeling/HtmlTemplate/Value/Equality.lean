import HtmlTemplate.Value.Size

/-!
# Equality, order and keys

`Value.beq` is the equality of values: numbers are compared across their kinds, texts
whatever they are marked, and objects are equal to nothing.  `Value.isGreater` is the
order of the kinds that have one.  `Value.isHashable` says which values may be keys, and
`Entries.insert` enters a value under a key into the entries of a mapping.
-/

namespace HtmlTemplate

/-- Whether sequences of two kinds are compared: each kind with itself, and lists of both
kinds with each other. -/
def SequenceKind.comparesWith (a b : SequenceKind) : Bool :=
  a = b || ((a = .list || a = .userList) && (b = .list || b = .userList))

namespace Value

/-- A truth value as the number it counts as. -/
def number? : Value → Option Number
  | .bool b => some (.integer b.toNat)
  | .number n => some n
  | _ => none

/-- Whether two ranges have the same items. -/
def beqRange (a b c d e f : Int) : Bool :=
  let n := rangeLength a b c
  n = rangeLength d e f && (n = 0 || (a = d && (n = 1 || c = f)))

/-- Whether a number equals a value. -/
def beqNumber (x : Number) (y : Value) : Bool :=
  match y.number? with
  | some n => x.beq n
  | none => false

mutual

/-- Whether two values are equal. -/
def beq : Value → Value → Bool
  | .absent, .absent => true
  | .bool a, y => beqNumber (.integer a.toNat) y
  | .number a, y => beqNumber a y
  | .text _ s, .text _ t => s = t
  | .bytes _ a, .bytes _ b => a = b
  | .sequence a xs, .sequence b ys => a.comparesWith b && beqAll xs ys
  | .range a b c, .range d e f => beqRange a b c d e f
  | .set _ xs, .set _ ys => xs.length = ys.length && containsAll xs ys
  | .keys xs, .keys ys => xs.length = ys.length && containsAll xs ys
  | .keys xs, .set _ ys | .set _ xs, .keys ys => xs.length = ys.length && containsAll xs ys
  | .mapping .ordered xs, .mapping .ordered ys => beqEntries xs ys
  | .mapping _ xs, .mapping _ ys => xs.length = ys.length && entriesIn xs ys
  | .template a b, .template c d => beq a c && beq b d
  | .emptiness a, .emptiness b => a = b
  | .function _ a _, .function _ b _ => a = b
  | .operation a, .operation b => a = b
  | .iterator a, .iterator b => a = b
  | _, _ => false

/-- Whether two rows of values are equal item by item. -/
def beqAll : List Value → List Value → Bool
  | [], [] => true
  | x :: xs, y :: ys => beq x y && beqAll xs ys
  | _, _ => false

/-- Whether every value of the first row occurs in the second. -/
def containsAll : List Value → List Value → Bool
  | [], _ => true
  | x :: xs, ys => ys.any (beq x) && containsAll xs ys

/-- Whether two rows of entries are equal one by one. -/
def beqEntries : List (Value × Value) → List (Value × Value) → Bool
  | [], [] => true
  | (k, v) :: xs, (l, w) :: ys => beq k l && beq v w && beqEntries xs ys
  | _, _ => false

/-- Whether every entry of the first row occurs in the second. -/
def entriesIn : List (Value × Value) → List (Value × Value) → Bool
  | [], _ => true
  | (k, v) :: xs, ys => ys.any (fun e => beq k e.1 && beq v e.2) && entriesIn xs ys

end

/-- Whether the first of two rows is the greater, by the first items that differ. -/
def isGreaterItem (xs ys : List Value) (greater : Value → Value → Except Fault Bool) :
    Except Fault Bool :=
  match xs, ys with
  | [], _ => .ok false
  | _, [] => .ok true
  | x :: xs, y :: ys => if beq x y then isGreaterItem xs ys greater else greater x y

/-- Whether the first of two values is the greater.  `fuel` bounds how deeply sequences
are nested. -/
def isGreaterWithin : (fuel : Nat) → Value → Value → Except Fault Bool
  | 0, _, _ => .error (.basic .recursion)
  | fuel + 1, x, y =>
    match x.number?, y.number? with
    | some m, some n => m.isGreater n
    | _, _ =>
      match x, y with
      | .text _ s, .text _ t => .ok (decide (t < s))
      | .bytes .view _, _ | _, .bytes .view _ => .error (.basic .type)
      | .bytes _ a, .bytes _ b => .ok (decide (b < a))
      | .sequence a xs, .sequence b ys =>
        if a.comparesWith b then isGreaterItem xs ys (isGreaterWithin fuel)
        else .error (.basic .type)
      | .set _ xs, .set _ ys | .keys xs, .keys ys | .set _ xs, .keys ys | .keys xs, .set _ ys =>
        .ok (ys.length < xs.length && containsAll ys xs)
      | _, _ => .error (.basic .type)

/-- Whether the first of two values is the greater. -/
def isGreater (x y : Value) : Except Fault Bool := isGreaterWithin 1000 x y

mutual

/-- Whether a value may be a key. -/
def isHashable : Value → Bool
  | .number (.decimal d) => !d.isSignaling
  | .bytes .mutable _ => false
  | .sequence .tuple items => areHashable items
  | .sequence _ _ => false
  | .set frozen _ => frozen
  | .mapping .. | .keys _ => false
  | .template strings values => isHashable strings && isHashable values
  | _ => true

/-- Whether all of a row of values may be keys. -/
def areHashable : List Value → Bool
  | [] => true
  | item :: items => isHashable item && areHashable items

end

/-- The fault of a value that may not be a key. -/
def requireHashable (value : Value) : Except Fault Unit :=
  if value.isHashable then .ok () else .error (.basic .type)

end Value

/-- Entries with a value under a key.  A key that is there already keeps its place. -/
def Entries.insert (key value : Value) : List (Value × Value) → List (Value × Value)
  | [] => [(key, value)]
  | (k, v) :: entries =>
    if k.beq key then (k, value) :: entries else (k, v) :: insert key value entries

end HtmlTemplate
