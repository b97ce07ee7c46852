import HtmlTemplate.Value.Basic

/-!
# Size and truth of values

`Value.size` is the number of items of a value that has a size, and `Value.isTruthy`
whether a value counts as true: the absent value, zero and whatever is empty do not.
-/

namespace HtmlTemplate.Value

/-- Sizes are less than this. -/
def sizeLimit : Int := 9223372036854775808

/-- How many items a range has. -/
def rangeLength (start stop step : Int) : Nat :=
  if 0 < step then ((stop - start + step - 1).fdiv step).toNat
  else ((start - stop - step - 1).fdiv (-step)).toNat

/-- A number as a size. -/
def checkedSize (n : Int) : Except Fault Nat :=
  if n < 0 then .error (.basic .value)
  else if sizeLimit ≤ n then .error (.basic .overflow)
  else .ok n.toNat

theorem toNat_of_checkedSize {count : Int} {n : Nat} (h : checkedSize count = .ok n) :
  count.toNat = n
  := by
  unfold checkedSize at h
  split at h
  · cases h
  · split at h
    · cases h
    · cases h
      rfl

theorem checkedSize_natCast {n : Nat} (h : (n : Int) < sizeLimit) :
  checkedSize n = .ok n
  := by
  rw [checkedSize, if_neg (Int.not_lt.mpr (Int.natCast_nonneg n)), if_neg (Int.not_le.mpr h),
    Int.toNat_natCast]

theorem checkedSize_of_le {count : Int} (h : sizeLimit ≤ count) :
  checkedSize count = .error (.basic .overflow)
  := by
  have hcount : ¬ count < 0 := by
    unfold sizeLimit at h
    omega
  rw [checkedSize, if_neg hcount, if_pos h]

/-- The number of items of a value. -/
def size : Value → Except Fault Nat
  | .text _ s => .ok s.length
  | .bytes _ data => .ok data.length
  | .sequence _ items | .set _ items | .keys items => .ok items.length
  | .range start stop step => checkedSize (rangeLength start stop step)
  | .mapping _ entries => .ok entries.length
  | .sized _ n | .collection _ n => checkedSize n
  | _ => .error (.basic .type)

/-- Whether a value counts as true.  No value decides this by a method of its own: an object
whose class is made elsewhere counts as true unless it has a size. -/
def isTruthy : Value → Except Fault Bool
  | .absent => .ok false
  | .bool b => .ok b
  | .number n => .ok n.isTruthy
  | .range start stop step => .ok (rangeLength start stop step ≠ 0)
  | .text _ s => .ok (s ≠ "")
  | .bytes _ data => .ok !data.isEmpty
  | .sequence _ items | .set _ items | .keys items => .ok !items.isEmpty
  | .mapping _ entries => .ok !entries.isEmpty
  | .sized _ n | .collection _ n => (checkedSize n).map (· ≠ 0)
  | _ => .ok true

end HtmlTemplate.Value
