/-!
# Faults

A `Fault` is the reason why an operation or a callback gives no value: the shape of a
template (`ShapeFault`), a malformed attribute, or a failure of a basic operation, told
apart by its `FaultKind`.  The wording of the library's own faults is
`ShapeFault.message` and `Fault.message?`.  The faults that are not `isOrdinary` end a
program and are caught by nothing here.  `NoShapeFault` says of a result that it is not a
shape fault.
-/

namespace HtmlTemplate

/-- The kinds of failure of a basic operation or of a callback. -/
inductive FaultKind where
  | type
  | value
  | key
  | attribute
  | lookup
  | zeroDivision
  | overflow
  | exponentOverflow
  | memory
  | runtime
  | recursion
  | invalidOperation
  | undecodable
  | exhausted
  | interrupt
  | exit
  | abandoned
  | unspecified
  | other (name : String)
deriving DecidableEq

/-- Why a template invocation has no usable shape. -/
inductive ShapeFault where
  | count (segments values : Nat)
  | notTemplate (className : String)
  | callWithValues
  | slottedWithValues
  | plainWithValues
  | segmentsAlone
  | stated (message : String)
deriving DecidableEq

/-- The wording of a shape fault. -/
def ShapeFault.message : ShapeFault → String
  | .count segments values =>
    "Template needs exactly one more literal segment than values\n\n  Got "
      ++ toString segments ++ " segment(s) and " ++ toString values ++ " value(s)"
  | .notTemplate className =>
    "Expected literal segments or a template, got " ++ className
  | .callWithValues => "TemplateCall already carries its values"
  | .slottedWithValues => "t-string already carries its values"
  | .plainWithValues => "A plain value can't be combined with template values"
  | .segmentsAlone =>
    "Literal segments need values; use TemplateCall for a template without any"
  | .stated message => message

/-- The numbers of segments and values, where they are what does not fit. -/
def ShapeFault.counts? : ShapeFault → Option (Nat × Nat)
  | .count segments values => some (segments, values)
  | _ => none

/-- The reason why an operation gives no value. -/
inductive Fault where
  | shape (cause : ShapeFault)
  | malformedAttribute (pair : String)
  | stated (message : String)
  | basic (kind : FaultKind)
deriving DecidableEq

namespace Fault

/-- The wording of the library's own faults. -/
def message? : Fault → Option String
  | .shape cause => some cause.message
  | .malformedAttribute pair =>
    some ("Malformed attribute " ++ pair ++ ", expected KEY=VALUE")
  | .stated message => some message
  | .basic _ => none

/-- Whether a fault is an ordinary failure, and not a request to end the program. -/
def isOrdinary : Fault → Bool
  | .basic .interrupt | .basic .exit | .basic .abandoned | .basic .unspecified => false
  | _ => true

/-- A fault as it leaves a lazily computed sequence, where running out of items would be
mistaken for the end of the sequence. -/
def insideSequence : Fault → Fault
  | .basic .exhausted => .basic .runtime
  | fault => fault

theorem insideSequence_eq (fault : Fault) :
  fault.insideSequence = if fault = .basic .exhausted then .basic .runtime else fault
  := by
  split
  case isTrue h =>
    rw [h]
    rfl
  case isFalse h =>
    unfold insideSequence
    split
    · contradiction
    · rfl

end Fault

/-- A result that is no shape fault. -/
structure NoShapeFault {α : Type} (result : Except Fault α) : Prop where
  ne : ∀ cause, result ≠ .error (.shape cause)

section NoShapeFault

variable {α β : Type} {result : Except Fault α}

theorem noShapeFault_ok (a : α) :
  NoShapeFault (.ok a)
  := by
  constructor
  intro cause h
  cases h

theorem noShapeFault_basic (kind : FaultKind) :
  NoShapeFault (.error (.basic kind) : Except Fault α)
  := by
  constructor
  intro cause h
  cases h

theorem NoShapeFault.bind {f : α → Except Fault β} (h : NoShapeFault result)
    (hf : ∀ a, NoShapeFault (f a)) :
  NoShapeFault (result >>= f)
  := by
  cases result with
  | ok a => apply hf
  | error fault =>
    constructor
    intro cause hcause
    apply h.ne cause
    cases hcause
    rfl

theorem NoShapeFault.map (h : NoShapeFault result) (f : α → β) :
  NoShapeFault (f <$> result)
  := by
  rw [map_eq_pure_bind]
  apply h.bind
  intro a
  apply noShapeFault_ok

theorem NoShapeFault.ite {p : Prop} [Decidable p] {other : Except Fault α}
    (h : NoShapeFault result) (hother : NoShapeFault other) :
  NoShapeFault (if p then result else other)
  := by
  split
  · apply h
  · apply hother

theorem NoShapeFault.mapM {f : α → Except Fault β} (hf : ∀ a, NoShapeFault (f a))
    (items : List α) :
  NoShapeFault (items.mapM f)
  := by
  induction items with
  | nil => apply noShapeFault_ok
  | cons item items ih =>
    rw [List.mapM_cons]
    apply (hf item).bind
    intro b
    apply ih.bind
    intro bs
    apply noShapeFault_ok

end NoShapeFault

end HtmlTemplate
