import HtmlTemplate.Iteration
import Mathlib.Tactic.Ring
import Mathlib.Tactic.Use

/-!
# Entries

`Value.HasEntries` says which entries a collection has: the integers below a number, each its
own key, the values of a mapping under their keys, and the items of a sequence that is no text
and no row of bytes, with their places (`Value.HasItems`).  Every value has entries in this
sense, none if it is no collection, and only these (`Value.HasEntries.eq`).  They are visited
in turn (`exists_hasEntries`), also where they are computed one by one (`Entries.visitAll_eq`).
-/

namespace HtmlTemplate

variable {σ : Type}

/-! ### Ranges -/

/-- The numbers of a range: on from the first in equal steps, up to the last one before the
end. -/
def IsRangeItem (start stop step : Int) (place : Nat) (n : Int) : Prop :=
  n = start + step * place ∧ (0 < step ∧ n < stop ∨ step < 0 ∧ stop < n)

/-- The quotient rounded up: so many steps stay below the end. -/
theorem lt_toNat_fdiv_iff {d : Int} (hd : 0 < d) (a : Int) (i : Nat) :
  i < ((a + d - 1).fdiv d).toNat ↔ d * i < a
  := by
  rw [Int.lt_toNat, Int.fdiv_eq_ediv_of_nonneg _ hd.le, ← Int.add_one_le_iff,
    Int.le_ediv_iff_mul_le hd]
  have hexpand : ((i : Int) + 1) * d = d * i + d := by ring
  omega

theorem Value.lt_rangeLength_iff (start stop step : Int) (i : Nat) :
  i < rangeLength start stop step ↔
    0 < step ∧ start + step * i < stop ∨ step < 0 ∧ stop < start + step * i
  := by
  unfold rangeLength
  split
  case isTrue h =>
    rw [lt_toNat_fdiv_iff h]
    omega
  case isFalse h =>
    obtain hneg | rfl := lt_or_eq_of_le (Int.not_lt.mp h)
    · have hsub : start - stop - step - 1 = (start - stop) + -step - 1 := by ring
      rw [hsub, lt_toNat_fdiv_iff (Int.neg_pos_of_neg hneg), Int.neg_mul]
      omega
    · simp

/-! ### The entries of a collection -/

/-- The items of a sequence that is neither a text nor a row of bytes: those it was made of, the
numbers of the bytes that are viewed, or the numbers of a range. -/
inductive Value.HasItems : Value → List Value → Prop where
  | sequence (kind : SequenceKind) (items : List Value) : HasItems (.sequence kind items) items
  | view (data : List UInt8) : HasItems (.bytes .view data) (data.map fun b => .int b.toNat)
  | range {start stop step : Int} {numbers : List Int}
      (h : ∀ i n, numbers[i]? = some n ↔ IsRangeItem start stop step i n) :
      HasItems (.range start stop step) (numbers.map .int)

/-- The entries of a collection, each a value and its key. -/
inductive Value.HasEntries : Value → List (Value × Value) → Prop where
  | count (n : Int) :
      HasEntries (.int n) ((List.range n.toNat).map fun (i : Nat) => (.int i, .int i))
  | mapping (kind : MappingKind) (entries : List (Value × Value)) :
      HasEntries (.mapping kind entries) (entries.map Prod.swap)
  | items {collection : Value} {items : List Value} (h : collection.HasItems items) :
      HasEntries collection (items.zipIdx.map fun (item, i) => (item, .int i))
  | other {collection : Value} (hcount : ∀ n, collection ≠ .int n)
      (hmapping : ∀ kind entries, collection ≠ .mapping kind entries)
      (hitems : ∀ items, ¬ collection.HasItems items) :
      HasEntries collection []

/-- The numbers of a range. -/
def Value.rangeNumbers (start stop step : Int) : List Int :=
  (List.range (rangeLength start stop step)).map fun (i : Nat) => start + step * i

theorem Value.hasItems_range (start stop step : Int) :
  HasItems (.range start stop step) ((rangeNumbers start stop step).map .int)
  := by
  apply HasItems.range
  intro i n
  rw [rangeNumbers, List.getElem?_map, Option.map_eq_some_iff, IsRangeItem]
  constructor
  · rintro ⟨place, hplace, rfl⟩
    obtain ⟨hi, hrange⟩ := List.getElem?_eq_some_iff.mp hplace
    rw [List.getElem_range] at hrange
    rw [List.length_range, lt_rangeLength_iff] at hi
    use congrArg (start + step * ·) (congrArg Nat.cast hrange.symm)
    rw [← hrange]
    exact hi
  · rintro ⟨rfl, hi⟩
    use i
    rw [List.getElem?_range ((lt_rangeLength_iff start stop step i).mpr hi)]
    use rfl

/-- The numbers of a range with their places. -/
theorem Value.zipIdx_rangeNumbers (start stop step : Int) :
  ((rangeNumbers start stop step).map Value.int).zipIdx.map (fun (item, i) => (item, Value.int i))
    = (List.range (rangeLength start stop step)).map fun (i : Nat) =>
      (Value.int (start + step * i), Value.int i)
  := by
  rw [rangeNumbers, List.map_map, List.zipIdx_map]
  apply List.ext_getElem
  · simp
  · intro i hi hi'
    simp

theorem Value.HasItems.eq {collection : Value} {items items' : List Value}
    (h : collection.HasItems items) (h' : collection.HasItems items') :
  items = items'
  := by
  cases h with
  | sequence kind items =>
    cases h'
    rfl
  | view data =>
    cases h'
    rfl
  | range h =>
    cases h' with
    | range h' =>
      apply congrArg
      apply List.ext_getElem?
      intro i
      apply Option.ext
      intro n
      rw [h, h']

/-- No collection has entries in two ways. -/
theorem Value.HasEntries.eq {collection : Value} {entries entries' : List (Value × Value)}
    (h : collection.HasEntries entries) (h' : collection.HasEntries entries') :
  entries = entries'
  := by
  cases h with
  | count n =>
    cases h' with
    | count n => rfl
    | items hitems => cases hitems
    | other hcount => apply absurd rfl (hcount n)
  | mapping kind entries =>
    cases h' with
    | mapping kind entries => rfl
    | items hitems => cases hitems
    | other _ hmapping => apply absurd rfl (hmapping kind entries)
  | items hitems =>
    cases h' with
    | count n => cases hitems
    | mapping kind entries => cases hitems
    | items hitems' => rw [hitems.eq hitems']
    | other _ _ hother => apply absurd hitems (hother _)
  | other hcount hmapping hother =>
    cases h' with
    | count n => apply absurd rfl (hcount n)
    | mapping kind entries => apply absurd rfl (hmapping kind entries)
    | items hitems => apply absurd hitems (hother _)
    | other => rfl

namespace Value.HasEntries

variable {collection : Value}

theorem of_some {entries : Entries} (h : Entries.of? collection = some entries) :
  collection.HasEntries entries.toList
  := by
  cases collection with
  | number n =>
    cases n with
    | integer n =>
      cases h
      apply count
    | _ => cases h
  | bytes kind data =>
    cases kind with
    | view =>
      cases h
      apply items (.view data)
    | fixed => cases h
    | mutable => cases h
  | sequence kind values =>
    cases h
    apply items (.sequence kind values)
  | range start stop step =>
    cases h
    rw [Entries.toList, ← zipIdx_rangeNumbers]
    apply items (hasItems_range start stop step)
  | mapping kind entries =>
    cases h
    apply mapping
  | _ => cases h

theorem of_none (h : Entries.of? collection = none) :
  collection.HasEntries []
  := by
  apply other
  · rintro n rfl
    cases h
  · rintro kind entries rfl
    cases h
  · rintro items hitems
    cases hitems with
    | sequence => cases h
    | view => cases h
    | range => cases h

end Value.HasEntries

/-! ### Visiting the entries -/

theorem visitCounted_eq (callback : Value × Value → Run σ Value) (entry : Nat → Value × Value)
    (count left : Nat) (before : String) (h : left ≤ count) :
  visitCounted callback entry count before left
    = visitListed callback before ((List.range' (count - left) left).map entry)
  := by
  induction left generalizing before with
  | zero => rfl
  | succ left ih =>
    have hnext : count - (left + 1) + 1 = count - left := by omega
    simp only [visitCounted, List.range'_succ, List.map_cons, visitListed, hnext,
      ih _ (Nat.le_of_succ_le h)]

/-- Entries that are computed one by one are visited like their list. -/
theorem Entries.visitAll_eq (callback : Value × Value → Run σ Value) (entries : Entries) :
  entries.visitAll callback = visitListed callback "" entries.toList
  := by
  cases entries with
  | listed entries => rfl
  | counted count entry =>
    rw [visitAll, visitCounted_eq callback entry count count "" (Nat.le_refl count),
      Nat.sub_self, ← List.range_eq_range']
    rfl

/-- Every value has entries, and these are visited in turn. -/
theorem exists_hasEntries (collection : Value) :
  ∃ entries, collection.HasEntries entries ∧ ∀ {σ : Type} (host : Host σ) (callback : Value),
    host.each collection callback = visitListed (host.callEntry callback) "" entries
  := by
  cases hentries : Entries.of? collection with
  | some entries =>
    use entries.toList, .of_some hentries
    intro σ host callback
    rw [Host.each, hentries]
    apply Entries.visitAll_eq
  | none =>
    use [], .of_none hentries
    intro σ host callback
    rw [Host.each, hentries]
    rfl

theorem Value.HasEntries.each_eq {collection : Value} {entries : List (Value × Value)}
    (h : collection.HasEntries entries) (host : Host σ) (callback : Value) :
  host.each collection callback = visitListed (host.callEntry callback) "" entries
  := by
  obtain ⟨entries', hentries, heach⟩ := exists_hasEntries collection
  rw [heach, hentries.eq h]

end HtmlTemplate
