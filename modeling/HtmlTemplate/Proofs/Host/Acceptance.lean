import HtmlTemplate.Expression.Evaluate
import Mathlib.Tactic.Use

/-!
# Numbers of arguments

A callable accepts some numbers of arguments by position and fails for all others, before
anything happens (`Value.accepts`, `Host.checked`).  Whether it has room for two
(`Value.takesTwo`) is asked of its signature alone; `Value.takesTwo_eq_accepts` says that this
is whether it accepts two, if it accepts one or two at all.
-/

namespace HtmlTemplate

/-! ### Parameters -/

namespace Parameter

/-- Whether parameters bind so many arguments, all given by position. -/
def accepts (parameters : List Parameter) (count : Nat) : Bool :=
  (bind? parameters (List.replicate count .absent) []).isSome

theorem isSome_bind?_cons (p : Parameter) (ps : List Parameter) (arguments : List Value) :
  (bind? (p :: ps) arguments []).isSome =
    if p.kind = .rest then (bind? ps [] []).isSome
    else match arguments with
      | [] => p.default.isSome && (bind? ps [] []).isSome
      | _ :: arguments => (bind? ps arguments []).isSome
  := by
  have hnamed : named? p [] = none := by
    unfold named?
    split
    · rfl
    · rfl
  rw [bind?.eq_def]
  dsimp only
  split
  case isTrue => simp
  case isFalse =>
    cases arguments with
    | nil => cases p.default <;> simp [hnamed]
    | cons a arguments => simp [hnamed]

/-- Only the number of the arguments decides whether parameters bind them. -/
theorem isSome_bind? (parameters : List Parameter) (arguments : List Value) :
  (bind? parameters arguments []).isSome = accepts parameters arguments.length
  := by
  induction parameters generalizing arguments with
  | nil => cases arguments <;> rfl
  | cons p ps ih =>
    rw [accepts, isSome_bind?_cons, isSome_bind?_cons]
    cases arguments with
    | nil => rfl
    | cons a arguments =>
      rw [List.length_cons, List.replicate_succ]
      simp only [ih, List.length_replicate]

theorem accepts_cons_zero (p : Parameter) (ps : List Parameter) :
  accepts (p :: ps) 0 = (if p.kind = .rest then accepts ps 0 else p.default.isSome && accepts ps 0)
  := isSome_bind?_cons p ps []

theorem accepts_cons_succ (p : Parameter) (ps : List Parameter) (count : Nat) :
  accepts (p :: ps) (count + 1)
    = if p.kind = .rest then accepts ps 0 else accepts ps count
  := isSome_bind?_cons p ps _

section Room

variable {p : Parameter} {ps : List Parameter} {count : Nat}

/-- There is room for more arguments than so many. -/
def HasRoom (parameters : List Parameter) (count : Nat) : Prop :=
  .rest ∈ parameters.map (·.kind)
    ∨ count < (parameters.map (·.kind)).countP ParameterKind.takesPosition

theorem HasRoom.of_cons (h : HasRoom (p :: ps) (count + 1)) :
  p.kind = .rest ∨ HasRoom ps count
  := by
  rw [HasRoom, List.map_cons, List.mem_cons, List.countP_cons] at h
  obtain (hrest | hmem) | hcount := h
  · left
    rw [hrest]
  · right
    left
    use hmem
  · right
    right
    split at hcount
    · omega
    · omega

theorem HasRoom.cons (hplace : p.kind.takesPosition = true) (h : HasRoom ps count) :
  HasRoom (p :: ps) (count + 1)
  := by
  rw [HasRoom, List.map_cons, List.mem_cons, List.countP_cons, if_pos hplace]
  obtain hmem | hcount := h
  · left
    right
    use hmem
  · right
    omega

/-- Parameters that bind some arguments bind one more if they have room for it. -/
theorem accepts_succ (h : accepts ps count = true) (hroom : HasRoom ps count) :
  accepts ps (count + 1) = true
  := by
  induction ps generalizing count with
  | nil =>
    obtain hmem | hcount := hroom
    · cases hmem
    · cases hcount
  | cons p ps ih =>
    rw [accepts_cons_succ]
    split
    case isTrue hrest =>
      cases count with
      | zero =>
        rw [accepts_cons_zero, if_pos hrest] at h
        exact h
      | succ count =>
        rw [accepts_cons_succ, if_pos hrest] at h
        exact h
    case isFalse hrest =>
      cases count with
      | zero =>
        rw [accepts_cons_zero, if_neg hrest] at h
        exact (Bool.and_eq_true_iff.mp h).2
      | succ count =>
        rw [accepts_cons_succ, if_neg hrest] at h
        apply ih h (hroom.of_cons.resolve_left hrest)

/-- Parameters that bind one argument more than so many have room for it. -/
theorem hasRoom_of_accepts
    (hplaces : ∀ p ∈ ps, p.kind = .rest ∨ p.kind.takesPosition = true)
    (h : accepts ps (count + 1) = true) :
  HasRoom ps count
  := by
  induction ps generalizing count with
  | nil => cases h
  | cons p ps ih =>
    obtain ⟨hp, hps⟩ := List.forall_mem_cons.mp hplaces
    obtain hrest | hplace := hp
    · left
      rw [List.map_cons, hrest]
      apply List.mem_cons_self
    · cases count with
      | zero =>
        right
        rw [List.map_cons, List.countP_cons, if_pos hplace]
        omega
      | succ count =>
        rw [accepts_cons_succ] at h
        split at h
        case isTrue hrest =>
          rw [hrest] at hplace
          cases hplace
        case isFalse => apply (ih hps h).cons hplace

end Room

end Parameter

/-- The parameters of an operation all take arguments by position. -/
theorem Operation.parameters_takePosition (op : Operation) :
  ∀ p ∈ op.parameters, p.kind = .rest ∨ p.kind.takesPosition = true
  := by
  cases op <;> decide

/-- Whether an operation accepts so many arguments by position. -/
def Operation.accepts (op : Operation) (count : Nat) : Bool :=
  Parameter.accepts op.parameters count

theorem Operation.takesTwo_eq_accepts {op : Operation} {given : List Value}
    (htells : op.tellsParameters = true)
    (h : op.accepts (given.length + 1) = true ∨ op.accepts (given.length + 2) = true) :
  op.takesTwo given = op.accepts (given.length + 2)
  := by
  have hroom : op.takesTwo given = true ↔ Parameter.HasRoom op.parameters (given.length + 1) := by
    simp [takesTwo, htells, Parameter.HasRoom, Nat.succ_le_iff]
  rw [Bool.eq_iff_iff, hroom]
  constructor
  · intro hroom
    obtain h | h := h
    · apply Parameter.accepts_succ h hroom
    · apply h
  · apply Parameter.hasRoom_of_accepts op.parameters_takePosition

theorem ParameterKind.acceptsTwo_eq_accepts {parameters : List ParameterKind}
    (h : accepts parameters 1 = true ∨ accepts parameters 2 = true) :
  acceptsTwo parameters = accepts parameters 2
  := by
  have hneeds : .requiredNamed ∉ parameters ∧ parameters.countP needsPosition ≤ 2 := by
    simp only [accepts, Bool.and_eq_true, Bool.not_eq_true', decide_eq_true_eq,
      List.contains_eq_mem, decide_eq_false_iff_not] at h
    obtain ⟨⟨hnamed, hcount⟩, -⟩ | ⟨⟨hnamed, hcount⟩, -⟩ := h
    · use hnamed, Nat.le_succ_of_le hcount
    · use hnamed, hcount
  simp [acceptsTwo, accepts, hneeds]

/-! ### Callables -/

namespace Value

/-- Whether a value can be called with so many arguments by position. -/
def accepts : Value → Nat → Bool
  | .function _ _ parameters, count => ParameterKind.accepts parameters count
  | .operation op, count => op.accepts count
  | .applied op given, count => op.accepts (given.length + count)
  | _, _ => false

/-- Whether a value is a callable that tells its parameters. -/
def tellsParameters : Value → Bool
  | .function .. => true
  | .operation op | .applied op _ => op.tellsParameters
  | _ => false

/-- A callable that accepts one or two arguments has room for two exactly if it accepts two. -/
theorem takesTwo_eq_accepts {callback : Value} (htells : callback.tellsParameters = true)
    (h : callback.accepts 1 = true ∨ callback.accepts 2 = true) :
  callback.takesTwo = callback.accepts 2
  := by
  cases callback with
  | function label id parameters => apply ParameterKind.acceptsTwo_eq_accepts h
  | operation op => apply @Operation.takesTwo_eq_accepts op [] htells h
  | applied op given => apply Operation.takesTwo_eq_accepts htells h
  | _ => cases htells

end Value

/-! ### Checked calls -/

/-- The host that fails for a call with a number of arguments that is not accepted, before
anything happens, and else does what another one does. -/
def Host.checked {σ : Type} (host : Host σ) : Host σ :=
  { host with call := fun callee arguments =>
      if callee.accepts arguments.length then host.call callee arguments
      else .fail (.basic .type) }

theorem Host.apply_of_not_accepts {σ : Type} (host : Host σ) {op : Operation}
    {arguments : List Value} (h : op.accepts arguments.length = false) :
  host.apply op arguments [] = .fail (.basic .type)
  := by
  have hop : op ≠ .greatest := by
    rintro rfl
    cases hcount : arguments.length <;> rw [hcount] at h <;> cases h
  have hbind : Parameter.bind? op.parameters arguments [] = none := by
    rw [← Option.not_isSome_iff_eq_none, Parameter.isSome_bind?]
    rw [Operation.accepts] at h
    rw [h]
    decide
  unfold apply
  rw [if_neg hop, hbind]
  cases op <;> rfl

/-- The functions of a world have the parameters that a callee tells. -/
def World.HasParameters (world : World) (callee : Value) : Prop :=
  ∀ label id parameters, callee = .function label id parameters →
    ∀ closure count, world.functions[id]? = some (closure, count) →
      closure.parameters = parameters

theorem World.callFunction_of_not_accepts {world : World} {id : Nat} {arguments : List Value}
    (h : ∀ closure count, world.functions[id]? = some (closure, count) →
      ParameterKind.accepts closure.parameters arguments.length = false)
    (host : Host World) :
  callFunction host id arguments world = (.error (.basic .type), world)
  := by
  have hget : Run.get world = (.ok world, world) := rfl
  unfold callFunction
  rw [Run.bind_of_ok hget]
  cases hfunction : world.functions[id]? with
  | none => rfl
  | some function =>
    obtain ⟨closure, count⟩ := function
    simp only [h closure count hfunction]
    rfl

/-- The calls of the hosts whose functions evaluate their bodies are checked already. -/
theorem World.checked_call {world : World} {callee : Value} (h : world.HasParameters callee)
    (depth : Nat) (arguments : List Value) :
  (hostWithin (depth + 1)).checked.call callee arguments world
    = (hostWithin (depth + 1)).call callee arguments world
  := by
  show (if callee.accepts arguments.length then _ else Run.fail _) world = _
  split
  case isTrue => rfl
  case isFalse haccepts =>
    rw [Bool.not_eq_true] at haccepts
    cases callee with
    | function label id parameters =>
      symm
      apply callFunction_of_not_accepts
      intro closure count hfunction
      rw [h label id parameters rfl closure count hfunction]
      exact haccepts
    | operation op =>
      rw [Value.accepts] at haccepts
      show _ = (hostWithin depth).apply op arguments [] world
      rw [Host.apply_of_not_accepts _ haccepts]
    | applied op given =>
      rw [Value.accepts, ← List.length_append] at haccepts
      show _ = (hostWithin depth).apply op (given ++ arguments) [] world
      rw [Host.apply_of_not_accepts _ haccepts]
    | _ => rfl

end HtmlTemplate
