import HtmlTemplate.Expression.Evaluate
import HtmlTemplate.Proofs.Iteration.Calls
import HtmlTemplate.Value.Sum

/-!
# Counting and splitting

Counting up to a number is iterating over the integers below it (`Value.integersBelow`), whether
these are a range, the items of a sequence, or the values of a mapping that has them as keys as
well: the entries are the same.  A callback that gets no keys does not see where in a sequence
it is, so that it is called for the items of a sum as for those of the first sequence and then
for those of the second.  `each_counting` says both, also of the calls.
-/

namespace HtmlTemplate

variable {σ : Type}

/-! ### Integers as keys -/

theorem RealPoint.eq_of_compareMagnitude {m n : Nat}
    (h : compareMagnitude m 1 0 n 1 0 = .eq) :
  m = n
  := by
  simp only [compareMagnitude, Nat.mul_one] at h
  split at h
  · cases h
  · split at h
    · cases h
    · split at h
      · cases h
      · split at h
        case isTrue heq =>
          apply Nat.eq_of_mul_eq_mul_right _ heq
          decide
        case isFalse => cases h

theorem RealPoint.eq_of_compare {m n : Int} (h : compare (.exact m 1 0) (.exact n 1 0) = .eq) :
  m = n
  := by
  simp only [compare] at h
  split at h
  · cases h
  · split at h
    · cases h
    · have hsign : m.sign = n.sign := by omega
      split at h
      case isTrue hzero =>
        rw [hzero, Int.sign_zero] at hsign
        rw [hzero, Int.sign_eq_zero_iff_zero.mp hsign.symm]
      case isFalse =>
        have habs : m.natAbs = n.natAbs := by
          split at h
          · apply eq_of_compareMagnitude h
          · apply (eq_of_compareMagnitude h).symm
        rw [← Int.sign_mul_natAbs m, hsign, habs, Int.sign_mul_natAbs]

theorem Value.beq_int_of_ne {m n : Int} (h : m ≠ n) :
  (Value.int m).beq (.int n) = false
  := by
  apply Bool.eq_false_iff.mpr
  intro heq
  apply h
  apply RealPoint.eq_of_compare
  simpa [int, beq, beqNumber, number?, Number.beq, Number.samePoint, Number.point?] using heq

/-- A value under a key that is equal to none stands behind the other entries. -/
theorem Entries.insert_of_not_beq {entries : List (Value × Value)} {key : Value}
    (h : ∀ e ∈ entries, e.1.beq key = false) (value : Value) :
  insert key value entries = entries ++ [(key, value)]
  := by
  induction entries with
  | nil => rfl
  | cons first entries ih =>
    rw [List.forall_mem_cons] at h
    rw [insert, if_neg (by rw [h.1]; decide), ih h.2, List.cons_append]

theorem forM_requireHashable {entries : List (Value × Value)}
    (h : ∀ e ∈ entries, e.1.isHashable = true) :
  entries.forM (fun e => e.1.requireHashable) = .ok ()
  := by
  induction entries with
  | nil => rfl
  | cons first entries ih =>
    rw [List.forall_mem_cons] at h
    rw [List.forM_eq_forM, List.forM_cons, Value.requireHashable, if_pos h.1]
    apply ih h.2

/-! ### The integers below a number -/

namespace Value

/-- The integers from zero on that are below a number. -/
def integersBelow (n : Int) : List Value :=
  (List.range n.toNat).map fun (i : Nat) => .int i

theorem rangeLength_zero_one (n : Int) :
  rangeLength 0 n 1 = n.toNat
  := by
  rw [rangeLength, if_pos (by decide), Int.fdiv_one]
  congr 1
  omega

theorem map_int_rangeNumbers (n : Int) :
  (rangeNumbers 0 n 1).map .int = integersBelow n
  := by
  rw [rangeNumbers, rangeLength_zero_one, List.map_map, integersBelow]
  apply List.map_congr_left
  intro i _
  show Value.int (0 + 1 * i) = _
  rw [Int.zero_add, Int.one_mul]

theorem rangeItems_eq_integersBelow {n : Int} {items : List Value}
    (h : rangeItems 0 n 1 = .ok items) :
  items = integersBelow n
  := by
  unfold rangeItems at h
  cases hn : checkedSize (rangeLength 0 n 1) with
  | error fault =>
    rw [hn] at h
    cases h
  | ok size =>
    rw [hn] at h
    change (if rowLimit < size then _ else _) = _ at h
    split at h
    · cases h
    · cases h
      rw [← map_int_rangeNumbers, rangeNumbers, ← toNat_of_checkedSize hn, List.map_map]
      rfl

/-- The integers below a number with their places. -/
theorem zipIdx_integersBelow (n : Int) :
  (integersBelow n).zipIdx.map (fun (item, i) => (item, Value.int i))
    = (List.range n.toNat).map fun (i : Nat) => (Value.int i, Value.int i)
  := by
  rw [← map_int_rangeNumbers, zipIdx_rangeNumbers, rangeLength_zero_one]
  simp only [Int.zero_add, Int.one_mul]

theorem hasEntries_range (n : Int) :
  HasEntries (.range 0 n 1) ((List.range n.toNat).map fun (i : Nat) => (.int i, .int i))
  := by
  rw [← zipIdx_integersBelow, ← map_int_rangeNumbers]
  apply HasEntries.items (hasItems_range 0 n 1)

theorem hasEntries_sequence_integersBelow (kind : SequenceKind) (n : Int) :
  HasEntries (.sequence kind (integersBelow n))
    ((List.range n.toNat).map fun (i : Nat) => (.int i, .int i))
  := by
  rw [← zipIdx_integersBelow]
  apply HasEntries.items (.sequence kind (integersBelow n))

/-- Integers below a number are entered as keys one behind the other. -/
theorem foldl_insert_range (n : Nat) :
  ((List.range n).map fun (i : Nat) => (Value.int i, Value.int i)).foldl
      (fun entries e => Entries.insert e.1 e.2 entries) []
    = (List.range n).map fun (i : Nat) => (Value.int i, Value.int i)
  := by
  induction n with
  | zero => rfl
  | succ n ih =>
    rw [List.range_succ, List.map_append, List.foldl_append, ih]
    apply Entries.insert_of_not_beq
    rw [List.forall_mem_map]
    intro i hi
    have hlt := List.mem_range.mp hi
    apply beq_int_of_ne
    omega

theorem map_pair_integersBelow (n : Int) :
  (integersBelow n).map (fun i => (i, i))
    = (List.range n.toNat).map fun (i : Nat) => (Value.int i, Value.int i)
  := List.map_map

/-- The mapping of each of the integers to itself. -/
theorem distinctEntries_integersBelow (n : Int) :
  distinctEntries ((integersBelow n).map fun i => (i, i))
    = .ok ((integersBelow n).map fun i => (i, i))
  := by
  have hkeys : ∀ e ∈ (List.range n.toNat).map fun (i : Nat) => (int i, int i),
      e.1.isHashable = true := by
    rw [List.forall_mem_map]
    intro i _
    rfl
  rw [map_pair_integersBelow, distinctEntries, forM_requireHashable hkeys, foldl_insert_range]
  rfl

theorem hasEntries_mapping_integersBelow (kind : MappingKind) (n : Int) :
  HasEntries (.mapping kind ((integersBelow n).map fun i => (i, i)))
    ((List.range n.toNat).map fun (i : Nat) => (.int i, .int i))
  := by
  have hswap : ((integersBelow n).map fun i => (i, i)).map Prod.swap
      = (List.range n.toNat).map fun (i : Nat) => (Value.int i, Value.int i) := by
    rw [map_pair_integersBelow, List.map_map]
    rfl
  rw [← hswap]
  apply HasEntries.mapping

end Value

/-! ### The items of a sum -/

theorem joinedResults_append (results results' : List Value) :
  joinedResults (results ++ results') = joinedResults results ++ joinedResults results'
  := by
  rw [joinedResults, List.filter_append, List.map_append, String.join_append]
  rfl

namespace Host

variable {host : Host σ} {callback : Value}

/-- A callback that gets no keys is called for each item alone. -/
theorem each_sequence (h : callback.takesTwo = false) (host : Host σ) (kind : SequenceKind)
    (items : List Value) :
  host.each (.sequence kind items) callback
    = joinedResults <$> items.mapM fun item => host.call callback [item]
  := by
  have hcall : host.callEntry callback
      = (fun item => host.call callback [item]) ∘ Prod.fst := by
    funext entry
    rw [callEntry, h]
    rfl
  rw [(Value.HasEntries.items (.sequence kind items)).each_eq, visitListed_eq, hcall,
    ← List.mapM_map, List.map_map]
  simp only [String.empty_append]
  congr 2
  apply List.zipIdx_map_fst

theorem each_append (h : callback.takesTwo = false) (host : Host σ) (kind : SequenceKind)
    (xs ys : List Value) :
  host.each (.sequence kind (xs ++ ys)) callback = do
    let first ← host.each (.sequence kind xs) callback
    let rest ← host.each (.sequence kind ys) callback
    return first ++ rest
  := by
  simp only [each_sequence h, List.mapM_append, map_eq_pure_bind, bind_assoc, pure_bind,
    joinedResults_append]

/-- The sum of two sequences of one kind. -/
theorem add_sequence (host : Host σ) (kind : SequenceKind) (xs ys : List Value) :
  host.add (.sequence kind xs) (.sequence kind ys) = pure (.sequence kind (xs ++ ys))
  := by
  cases kind with
  | _ => rfl

/-- The calls of an iteration come behind those that are on record. -/
theorem recorded_each {collection : Value} {s s' : σ} {calls : List Call}
    {outcome : Except Fault String}
    (h : host.recorded.each collection callback (s, []) = (outcome, s', calls))
    (before : List Call) :
  host.recorded.each collection callback (s, before) = (outcome, s', before ++ calls)
  := by
  obtain ⟨entries, hentries, heach⟩ := exists_hasEntries collection
  obtain ⟨visited, result, t, hvisits⟩ := exists_visits (host.callEntry callback) entries s
  rw [heach, (hvisits.recorded []).visitListed_eq, List.nil_append] at h
  cases h
  rw [heach, (hvisits.recorded before).visitListed_eq]

end Host

/-! ### Iterations that do the same -/

/-- Two collections are the same to a callback: the outcomes of the iterations, the states and
the calls. -/
def Host.IteratesAlike (host : Host σ) (callback collection collection' : Value) : Prop :=
  host.each collection callback = host.each collection' callback
    ∧ host.recorded.each collection callback = host.recorded.each collection' callback

theorem Host.iteratesAlike {collection collection' : Value} {entries : List (Value × Value)}
    (h : collection.HasEntries entries) (h' : collection'.HasEntries entries) (host : Host σ)
    (callback : Value) :
  host.IteratesAlike callback collection collection'
  := by
  constructor
  · rw [h.each_eq, h'.each_eq]
  · rw [h.each_eq, h'.each_eq]

/-- Iterating over a collection is calling the callback for the given entries in turn, up to the
last one or the first for which it fails, and making no other call. -/
def Host.VisitsInTurn (host : Host σ) (callback collection : Value)
    (entries : List (Value × Value)) : Prop :=
  ∀ s, ∃ visited outcome s', Visits (host.callEntry callback) entries s visited outcome s'
    ∧ host.recorded.each collection callback (s, [])
      = (joinedResults <$> outcome, s', visited.map (entryCall callback))

theorem Host.visitsInTurn {collection : Value} {entries : List (Value × Value)}
    (h : collection.HasEntries entries) (host : Host σ) (callback : Value) :
  host.VisitsInTurn callback collection entries
  := by
  intro s
  obtain ⟨visited, outcome, s', hvisits⟩ := exists_visits (host.callEntry callback) entries s
  use visited, outcome, s', hvisits
  rw [h.each_eq]
  apply (hvisits.recorded []).visitListed_eq

/-- To a callback one collection is two others in turn.  A fault for the first of them is the end;
without any, the second one follows in the state that the first leaves, with its text behind the
text and its calls behind the calls for the first. -/
structure Host.IteratesInTurn (host : Host σ) (callback first second both : Value) : Prop where
  each_eq : host.each both callback = do
    let text ← host.each first callback
    let rest ← host.each second callback
    return text ++ rest
  recorded_error : ∀ {fault : Fault} {s t : σ} {calls : List Call},
    host.recorded.each first callback (s, []) = (.error fault, t, calls) →
    host.recorded.each both callback (s, []) = (.error fault, t, calls)
  recorded_ok : ∀ {text : String} {outcome : Except Fault String} {s t s' : σ}
      {calls calls' : List Call},
    host.recorded.each first callback (s, []) = (.ok text, t, calls) →
    host.recorded.each second callback (t, []) = (outcome, s', calls') →
    host.recorded.each both callback (s, []) = ((text ++ ·) <$> outcome, s', calls ++ calls')

theorem Host.iteratesInTurn {callback : Value} (h : callback.takesTwo = false) (host : Host σ)
    (kind : SequenceKind) (xs ys : List Value) :
  host.IteratesInTurn callback (.sequence kind xs) (.sequence kind ys)
    (.sequence kind (xs ++ ys))
  where
  each_eq := each_append h host kind xs ys
  recorded_error := by
    intro fault s t calls hfirst
    rw [each_append h]
    apply Run.bind_of_error hfirst
  recorded_ok := by
    intro text outcome s t s' calls calls' hfirst hsecond
    have hsecond := recorded_each hsecond calls
    rw [each_append h, Run.bind_of_ok hfirst]
    cases outcome with
    | ok rest => apply Run.bind_of_ok hsecond
    | error fault => apply Run.bind_of_error hsecond

/-- Counting up to a number is calling the callback for the integers below it in turn, each its
own key.  It is iterating over the range of them, over the sequence of them, and over the mapping
of each to itself, whatever the callback does.  The sum of two sequences is the two in turn to a
callback that gets no keys. -/
theorem each_counting (host : Host σ) (callback : Value) :
  (∀ n : Int, host.VisitsInTurn callback (.int n)
        ((List.range n.toNat).map fun (i : Nat) => (.int i, .int i))
      ∧ host.IteratesAlike callback (.range 0 n 1) (.int n)
      ∧ (∀ items, Value.rangeItems 0 n 1 = .ok items → items = Value.integersBelow n)
      ∧ (∀ kind, host.IteratesAlike callback (.sequence kind (Value.integersBelow n)) (.int n))
      ∧ ∃ entries, distinctEntries ((Value.integersBelow n).map fun i => (i, i)) = .ok entries
        ∧ ∀ kind, host.IteratesAlike callback (.mapping kind entries) (.int n))
    ∧ (callback.takesTwo = false → ∀ (kind : SequenceKind) (xs ys : List Value),
      host.add (.sequence kind xs) (.sequence kind ys) = pure (.sequence kind (xs ++ ys))
        ∧ host.IteratesInTurn callback (.sequence kind xs) (.sequence kind ys)
          (.sequence kind (xs ++ ys)))
  := by
  constructor
  · intro n
    refine ⟨?_, ?_, ?_, ?_, ?_⟩
    · apply Host.visitsInTurn (.count n)
    · apply Host.iteratesAlike (Value.hasEntries_range n) (.count n)
    · intro items
      apply Value.rangeItems_eq_integersBelow
    · intro kind
      apply Host.iteratesAlike (Value.hasEntries_sequence_integersBelow kind n) (.count n)
    · use (Value.integersBelow n).map fun i => (i, i), Value.distinctEntries_integersBelow n
      intro kind
      apply Host.iteratesAlike (Value.hasEntries_mapping_integersBelow kind n) (.count n)
  · intro h kind xs ys
    use host.add_sequence kind xs ys
    apply Host.iteratesInTurn h

end HtmlTemplate
