import HtmlTemplate.Emptiness
import Mathlib.Data.Rat.Lemmas
import Mathlib.Tactic.Use

/-!
# Emptiness and truth

The emptiness test looks at a value in one of three ways: it asks whether it counts as true,
how many items it has, or whether it is equal to zero.  All three say the same
(`Number.beq_zero`, `Value.size_ne_zero_iff`), but two of them may have no answer where the
first has one: a size has a limit, and a signaling not-a-number is not compared.
`classify_of_isTruthy` says that the test fails for these values alone, and that all others
are empty exactly if they do not count as true.
-/

namespace HtmlTemplate

/-! ### Numbers -/

theorem RealPoint.compare_zero (num : Int) (den den' : Nat) (exponent exponent' : Int) :
  RealPoint.compare (.exact num den exponent) (.exact 0 den' exponent') = .eq ↔ num = 0
  := by
  rcases lt_trichotomy num 0 with h | rfl | h
  · simp [RealPoint.compare, Int.sign_eq_neg_one_of_neg h, h.ne]
  · simp [RealPoint.compare]
  · simp [RealPoint.compare, Int.sign_eq_one_of_pos h, h.ne']

theorem Rounding.shift_ne_zero (power : Int) (num : Nat) :
  (Rounding.shift 2 power num 1).2 ≠ 0
  := by
  cases power with
  | ofNat p => simp [Rounding.shift]
  | negSucc p => simp [Rounding.shift]

theorem Rounding.shift_eq_zero_iff (power : Int) (num : Nat) :
  (Rounding.shift 2 power num 1).1 = 0 ↔ num = 0
  := by
  cases power with
  | ofNat p => simp [Rounding.shift]
  | negSucc p => simp [Rounding.shift]

namespace Number

theorem samePoint_binary_zero (x : Binary64) :
  samePoint (.binary x) (.integer 0) = x.isZero
  := by
  cases x with
  | nan => rfl
  | infinite negative => cases negative <;> rfl
  | finite negative mantissa exponent =>
    have hden := Rounding.shift_ne_zero exponent mantissa
    have hnum := Rounding.shift_eq_zero_iff exponent mantissa
    cases negative <;>
      simp [samePoint, point?, Binary64.toRat?, Binary64.ratio, Binary64.isZero,
        RealPoint.compare_zero, Rat.mkRat_eq_zero hden, hnum]

theorem samePoint_decimal_zero (d : Decimal) :
  samePoint (.decimal d) (.integer 0) = d.isZero
  := by
  cases d with
  | finite negative coefficient exponent =>
    cases negative <;> simp [samePoint, point?, RealPoint.compare_zero, Decimal.isZero]
  | infinite negative => cases negative <;> rfl
  | nan negative signaling payload => rfl

/-- A number equals zero exactly if it does not count as true. -/
theorem beq_zero (n : Number) :
  n.beq (.integer 0) = !n.isTruthy
  := by
  cases n with
  | integer n => simp [beq, samePoint, point?, RealPoint.compare_zero, isTruthy]
  | binary x => simp [beq, samePoint_binary_zero, isTruthy]
  | decimal d => simp [beq, samePoint_decimal_zero, isTruthy]
  | ratio q => simp [beq, samePoint, point?, RealPoint.compare_zero, isTruthy]
  | complex re im => simp [beq, samePoint_binary_zero, isTruthy, Bool.and_comm]

/-- Whether a number is zero is whether it equals zero, unless it is compared with nothing. -/
theorem isZero?_eq (n : Number) :
  n.isZero? = .ok (n.beq (.integer 0))
    ∨ ∃ d, n = .decimal d ∧ d.isSignaling = true ∧ n.isZero? = .error (.basic .invalidOperation)
  := by
  rw [beq_zero]
  cases n with
  | decimal d =>
    cases hd : d.isSignaling with
    | false => simp [isZero?, isTruthy, hd]
    | true => simp [isZero?, hd]
  | _ =>
    left
    rfl

end Number

/-! ### Sizes -/

namespace Value

/-- A value that has a size and a truth value counts as true exactly if it has items. -/
theorem size_ne_zero_iff {value : Value} {b : Bool} {n : Nat} (hb : value.isTruthy = .ok b)
    (hn : value.size = .ok n) :
  n ≠ 0 ↔ b = true
  := by
  cases value with
  | text _ _ | bytes _ _ | sequence _ _ | set _ _ | mapping _ _ | keys _ =>
    cases hb
    cases hn
    simp
  | range start stop step =>
    cases hb
    have hlength : rangeLength start stop step = n := toNat_of_checkedSize hn
    rw [decide_eq_true_iff, hlength]
  | sized _ _ | collection _ _ =>
    rw [size] at hn
    rw [isTruthy, hn] at hb
    cases hb
    simp
  | _ => cases hn

/-! ### The emptiness test -/

/-- The emptiness test has no answer for a range with more items than a size can tell, and for
a signaling not-a-number. -/
inductive FailsTest : Value → Fault → Prop where
  | range {start stop step : Int} (h : sizeLimit ≤ rangeLength start stop step) :
      FailsTest (.range start stop step) (.basic .overflow)
  | signaling {d : Decimal} (h : d.isSignaling = true) :
      FailsTest (.number (.decimal d)) (.basic .invalidOperation)

variable {value : Value} {b : Bool}

theorem FailsTest.classify {fault : Fault} (h : value.FailsTest fault) :
  value.classify = .error fault
  := by
  cases h with
  | @range start stop step h =>
    show (checkedSize (rangeLength start stop step) >>= _) = _
    rw [checkedSize_of_le h]
    rfl
  | @signaling d h =>
    show ((Number.decimal d).isZero? >>= _) = _
    rw [Number.isZero?, if_pos h]
    rfl

/-- A value that is tested by its size is present exactly if it counts as true. -/
theorem classify_of_size {n : Nat}
    (hclassify : value.classify = do return if (← value.size) = 0 then .emptySequence else .present)
    (hb : value.isTruthy = .ok b) (hn : value.size = .ok n) :
  ∃ empty, empty ≠ .present ∧ value.classify = .ok (if b then .present else empty)
  := by
  use .emptySequence, by decide
  have hzero : (if n = 0 then Emptiness.emptySequence else .present)
      = if b then .present else .emptySequence := by
    rw [← ite_not]
    simp only [size_ne_zero_iff hb hn]
  rw [hclassify, hn, ← hzero]
  rfl

/-- A value with a truth value is present if it counts as true and else empty in some way,
unless the test fails. -/
theorem classify_eq_or_failsTest (hb : value.isTruthy = .ok b)
    (hsized : ∀ label size, value ≠ .sized label size) :
  (∃ empty, empty ≠ .present ∧ value.classify = .ok (if b then .present else empty))
    ∨ ∃ fault, value.FailsTest fault
  := by
  cases value with
  | absent =>
    cases hb
    left
    use .absent, by decide
    rfl
  | bool b =>
    cases hb
    left
    use .falseValue, by decide
    rfl
  | number n =>
    cases hb
    obtain h | ⟨d, rfl, hd, -⟩ := n.isZero?_eq
    · left
      use .zero, by decide
      show (n.isZero? >>= _) = _
      rw [h, n.beq_zero]
      cases n.isTruthy with
      | false => rfl
      | true => rfl
    · right
      use .basic .invalidOperation, .signaling hd
  | text mark s =>
    cases hb
    left
    use .emptyString, by decide
    simp only [classify, decide_eq_true_eq, ite_not, Ne]
  | bytes kind data =>
    left
    cases kind with
    | fixed =>
      cases hb
      use .emptyString, by decide
      cases data with
      | nil => rfl
      | cons byte data => rfl
    | mutable => apply classify_of_size rfl hb rfl
    | view => apply classify_of_size rfl hb rfl
  | sequence _ _ | set _ _ | keys _ =>
    left
    apply classify_of_size rfl hb rfl
  | range start stop step =>
    rcases lt_or_ge (rangeLength start stop step : Int) sizeLimit with h | h
    · left
      apply classify_of_size rfl hb (checkedSize_natCast h)
    · right
      use .basic .overflow, .range h
  | mapping kind entries =>
    cases hb
    left
    use .emptyMapping, by decide
    cases entries with
    | nil => rfl
    | cons entry entries => rfl
  | sized label count => apply absurd rfl (hsized label count)
  | collection label count =>
    left
    cases hcount : checkedSize count with
    | error fault =>
      rw [isTruthy, hcount] at hb
      cases hb
    | ok n => apply classify_of_size rfl hb hcount
  | _ =>
    -- Nothing else is ever empty.
    cases hb
    left
    use .absent, by decide
    rfl

theorem isEmpty_of_classify {e : Emptiness} (h : value.classify = .ok e) :
  value.isEmpty = .ok (e ≠ .present)
  := by
  rw [isEmpty, h]
  rfl

/-- The emptiness test of a value that has a truth value fails for ranges with more items than
a size can tell and for signaling not-a-numbers, and for no others; these are empty exactly if
they do not count as true.  As in `isTruthy`, objects with a truth value of their own are left
out. -/
theorem classify_of_isTruthy (hb : value.isTruthy = .ok b)
    (hsized : ∀ label size, value ≠ .sized label size) :
  (∀ fault, value.classify = .error fault ↔ value.FailsTest fault)
    ∧ ((∀ fault, ¬ value.FailsTest fault) →
      ∃ e, value.classify = .ok e ∧ (e = .present ↔ b = true) ∧ value.isEmpty = .ok !b)
  := by
  have htested := classify_eq_or_failsTest hb hsized
  constructor
  · intro fault
    constructor
    · intro h
      obtain ⟨empty, -, hclassify⟩ | ⟨fault', hfails⟩ := htested
      · rw [hclassify] at h
        cases h
      · rw [hfails.classify] at h
        cases h
        apply hfails
    · apply FailsTest.classify
  · intro hanswer
    obtain ⟨empty, hempty, hclassify⟩ | ⟨fault, hfails⟩ := htested
    · use if b then .present else empty, hclassify
      rw [isEmpty_of_classify hclassify]
      cases b with
      | false => simp [hempty]
      | true => simp
    · apply absurd hfails (hanswer fault)

/-- The longest range that has a size. -/
theorem classify_of_isTruthy_longest :
  (range 0 9223372036854775807 1).isTruthy = .ok true
    ∧ ∃ e, (range 0 9223372036854775807 1).classify = .ok e ∧ (e = .present ↔ true = true)
      ∧ (range 0 9223372036854775807 1).isEmpty = .ok !true
  := by
  have hb : (range 0 9223372036854775807 1).isTruthy = .ok true := rfl
  have hlength : ¬ sizeLimit ≤ rangeLength 0 9223372036854775807 1 := by decide
  use hb
  apply (classify_of_isTruthy hb (by rintro label size ⟨⟩)).2
  rintro fault ⟨h⟩
  contradiction

/-- With one more item a range still counts as true, but is no longer tested; nor is a
signaling not-a-number. -/
theorem longRange_failsTest :
  ((range 0 9223372036854775808 1).isTruthy = .ok true
      ∧ (range 0 9223372036854775808 1).classify = .error (.basic .overflow)
      ∧ (range 0 9223372036854775808 1).isEmpty = .error (.basic .overflow))
    ∧ (number (.decimal (.nan false true none))).isTruthy = .ok true
    ∧ (number (.decimal (.nan false true none))).classify = .error (.basic .invalidOperation)
  := by
  refine ⟨⟨rfl, ?_, ?_⟩, rfl, rfl⟩
  · apply FailsTest.classify (.range (by decide))
  · rw [isEmpty, FailsTest.classify (.range (by decide))]
    rfl

end Value

end HtmlTemplate
