import HtmlTemplate.Operation.Apply
import HtmlTemplate.Proofs.Attribute.Pairs
import Mathlib.Data.List.Induction
import Mathlib.Data.List.Nodup

/-!
# The value that is given last

Of entries that are inserted one after another one is left for every key, in the order in
which the keys are first given, with the value that is given last (`IsLastGiven`).  Entries
with different keys are all left, so that reading their pairs undoes writing them
(`ofPairs_lastGiven`).
-/

namespace HtmlTemplate.Attribute

/-- The keys of entries, in order. -/
def keys (entries : List (String × String)) : List String := entries.map Prod.fst

/-- An entry of a row is the last one of its key. -/
def IsLast (entries : List (String × String)) (entry : String × String) : Prop :=
  ∃ before after, entries = before ++ entry :: after ∧ entry.1 ∉ keys after

/-- What is left of a row of entries: every key once, in the order in which the keys are first
given, with the value that is given last. -/
structure IsLastGiven (entries left : List (String × String)) : Prop where
  keys_eq : keys left = (keys entries).eraseDups
  mem_iff : ∀ entry, entry ∈ left ↔ IsLast entries entry

variable {entry : String × String} {entries left : List (String × String)} {key value : String}

/-! ### Inserting entries -/

theorem insert_of_not_mem (h : key ∉ keys entries) (value : String) :
  insert key value entries = entries ++ [(key, value)]
  := by
  induction entries with
  | nil => rfl
  | cons first entries ih =>
    rw [keys, List.map_cons, List.mem_cons, not_or] at h
    rw [insert, if_neg (Ne.symm h.1), ih h.2, List.cons_append]

theorem keys_insert_of_mem (h : key ∈ keys entries) (value : String) :
  keys (insert key value entries) = keys entries
  := by
  induction entries with
  | nil => cases h
  | cons first entries ih =>
    rw [insert]
    split
    · rfl
    · rw [keys, List.map_cons, List.mem_cons] at h
      rw [keys, List.map_cons, ← keys, ih (h.resolve_left (Ne.symm ‹_›))]
      rfl

/-- A key that is new stands behind the others, and any other one where it stood. -/
theorem keys_insert (key value : String) (entries : List (String × String)) :
  keys (insert key value entries)
    = if key ∈ keys entries then keys entries else keys entries ++ [key]
  := by
  split
  case isTrue h => rw [keys_insert_of_mem h]
  case isFalse h =>
    rw [insert_of_not_mem h, keys, List.map_append]
    rfl

theorem nodup_keys_insert (h : (keys entries).Nodup) (key value : String) :
  (keys (insert key value entries)).Nodup
  := by
  rw [keys_insert]
  split
  case isTrue => apply h
  case isFalse hkey =>
    rw [← List.concat_eq_append]
    apply List.Nodup.concat hkey h

/-- The entry of a key is replaced, and all others are kept. -/
theorem mem_insert (h : (keys entries).Nodup) :
  entry ∈ insert key value entries ↔ entry = (key, value) ∨ entry.1 ≠ key ∧ entry ∈ entries
  := by
  induction entries with
  | nil => simp [insert]
  | cons first entries ih =>
    obtain ⟨hfirst, hentries⟩ := List.nodup_cons.mp h
    rw [insert, List.mem_cons]
    split
    case isTrue hkey =>
      -- The key is not among those behind, so that these entries are all kept.
      have hrest : entry ∈ entries → entry.1 ≠ key := by
        rintro hmem rfl
        apply hfirst
        rw [hkey]
        apply List.mem_map_of_mem hmem
      have hreplaced : entry = first → entry.1 = key := by
        rintro rfl
        exact hkey
      rw [List.mem_cons, hkey]
      tauto
    case isFalse hkey =>
      have hkept : entry = first → entry.1 ≠ key := by
        rintro rfl
        exact hkey
      rw [List.mem_cons, ih hentries]
      tauto

/-! ### Inserting a row of entries -/

theorem insertAll_concat (before entries : List (String × String)) (last : String × String) :
  insertAll before (entries ++ [last]) = insert last.1 last.2 (insertAll before entries)
  := List.foldl_append

theorem keys_concat (entries : List (String × String)) (last : String × String) :
  keys (entries ++ [last]) = keys entries ++ [last.1]
  := List.map_append

theorem nodup_keys_insertAll (entries : List (String × String)) :
  (keys (insertAll [] entries)).Nodup
  := by
  induction entries using List.reverseRecOn with
  | nil => apply List.nodup_nil
  | append_singleton entries last ih =>
    rw [insertAll_concat]
    apply nodup_keys_insert ih

theorem eraseDups_concat (names : List String) (name : String) :
  (names ++ [name]).eraseDups
    = if name ∈ names then names.eraseDups else names.eraseDups ++ [name]
  := by
  rw [List.eraseDups_append]
  split
  case isTrue h => simp [List.removeAll, h]
  case isFalse h => simp [List.removeAll, h, List.eraseDups_cons]

theorem keys_insertAll (entries : List (String × String)) :
  keys (insertAll [] entries) = (keys entries).eraseDups
  := by
  induction entries using List.reverseRecOn with
  | nil => rfl
  | append_singleton entries last ih =>
    rw [insertAll_concat, keys_insert, keys_concat, eraseDups_concat, ih]
    simp only [List.mem_eraseDups]

theorem isLast_concat (last : String × String) :
  IsLast (entries ++ [last]) entry ↔ entry = last ∨ entry.1 ≠ last.1 ∧ IsLast entries entry
  := by
  constructor
  · rintro ⟨before, after, heq, hkey⟩
    obtain rfl | ⟨after, final, rfl⟩ := List.eq_nil_or_concat' after
    · left
      obtain ⟨-, hlast⟩ := List.append_inj' heq rfl
      apply (List.singleton_inj.mp hlast).symm
    · right
      rw [← List.cons_append, ← List.append_assoc] at heq
      obtain ⟨hentries, hlast⟩ := List.append_inj' heq rfl
      obtain rfl := List.singleton_inj.mp hlast
      rw [keys_concat, List.mem_append, not_or, List.mem_singleton] at hkey
      use hkey.2, before, after, hentries, hkey.1
  · rintro (rfl | ⟨hne, before, after, rfl, hkey⟩)
    · use entries, [], rfl
      apply List.not_mem_nil
    · use before, after ++ [last]
      rw [keys_concat, List.mem_append, not_or, List.mem_singleton]
      use List.append_assoc .., hkey

/-- Inserting a row of entries leaves one for every key. -/
theorem isLastGiven_insertAll (entries : List (String × String)) :
  IsLastGiven entries (insertAll [] entries)
  := by
  constructor
  · apply keys_insertAll
  · intro entry
    induction entries using List.reverseRecOn with
    | nil => simp [insertAll, IsLast]
    | append_singleton entries last ih =>
      rw [insertAll_concat, mem_insert (nodup_keys_insertAll entries), ih]
      apply (isLast_concat last).symm

/-- Entries with different keys are all left. -/
theorem insertAll_of_nodup (h : (keys entries).Nodup) :
  insertAll [] entries = entries
  := by
  induction entries using List.reverseRecOn with
  | nil => rfl
  | append_singleton entries last ih =>
    rw [keys_concat, ← List.concat_eq_append, List.nodup_concat] at h
    rw [insertAll_concat, ih h.2, insert_of_not_mem h.1]

/-! ### Reading pairs -/

section Reading

variable {texts before after : List (Mark × String)} {text : Mark × String}
  {mapping : List (Value × Value)}

theorem foldlM_ofExcept {σ α β : Type} (f : β → α → Except Fault β) (b : β) (items : List α) :
  items.foldlM (fun b item => (Run.ofExcept (f b item) : Run σ β)) b
    = Run.ofExcept (items.foldlM f b)
  := by
  induction items generalizing b with
  | nil => rfl
  | cons item items ih =>
    rw [List.foldlM_cons, List.foldlM_cons, ← Run.ofExcept_bind]
    simp only [ih]

/-- The operation makes a mapping of the pairs in a list. -/
theorem apply_parseAttributes {σ : Type} (host : Host σ) (pairs : List Value) :
  host.apply .parseAttributes [.list pairs] []
    = .ofExcept (.mapping .plain <$> ofPairs pairs)
  := by
  have hstep : host.foldItems (fun entries pair => .ofExcept (insertPair entries pair)) []
      (.list pairs) = .ofExcept (ofPairs pairs) := foldlM_ofExcept insertPair [] pairs
  show (host.foldItems (fun entries pair => .ofExcept (insertPair entries pair)) []
    (.list pairs) >>= fun entries => pure (Value.mapping .plain entries)) = _
  rw [hstep]
  rcases ofPairs pairs with fault | entries
  · rfl
  · rfl

/-- The entries of a mapping are what is left of the entries that texts are the pairs of, and
marked like parts of these texts. -/
def HoldsLastGiven (texts : List (Mark × String)) (mapping : List (Value × Value)) : Prop :=
  ∃ entries left, (∀ e ∈ entries, IsEntry e) ∧ entries.map pairOf = texts.map Prod.snd
    ∧ IsLastGiven entries left
    ∧ List.Forall₂ (ShowsEntry (texts.map (·.1.ofPart))) mapping left

theorem exists_ofPairs (h : ∀ t ∈ texts, IsPair t.2) :
  ∃ mapping, ofPairs (markedTexts texts) = .ok mapping ∧ HoldsLastGiven texts mapping
  := by
  obtain ⟨marked, hmarked, rfl⟩ := exists_marked h
  have hmarks : ∀ e ∈ marked, e.1.ofPart ∈ (marked.map markedPair).map (·.1.ofPart) := by
    intro e he
    rw [List.map_map]
    apply List.mem_map_of_mem he
  obtain ⟨mapping, hmapping, hshown⟩ := exists_foldlM_insertPair hmarked hmarks .nil
  use mapping, hmapping, marked.map Prod.snd, insertAll [] (marked.map Prod.snd)
  rw [List.forall_mem_map, List.map_map, List.map_map]
  use hmarked, rfl, isLastGiven_insertAll _

theorem ofPairs_of_first (hbefore : ∀ t ∈ before, IsPair t.2) (htext : ¬ IsPair text.2)
    (after : List (Mark × String)) :
  ofPairs (markedTexts (before ++ text :: after))
    = .error (.malformedAttribute (Value.text text.1 text.2).inspect)
  := by
  rw [markedTexts, List.map_append]
  apply ofPairs_of_refused hbefore (read_of_not_isPair htext text.1)

theorem forall_isPair_or_exists_first (texts : List (Mark × String)) :
  (∀ t ∈ texts, IsPair t.2)
    ∨ ∃ before text after, texts = before ++ text :: after ∧ (∀ t ∈ before, IsPair t.2)
      ∧ ¬ IsPair text.2
  := by
  induction texts with
  | nil =>
    left
    apply List.forall_mem_nil
  | cons text texts ih =>
    by_cases htext : IsPair text.2
    · obtain h | ⟨before, first, after, rfl, hbefore, hfirst⟩ := ih
      · left
        rw [List.forall_mem_cons]
        use htext
      · right
        use text :: before, first, after, rfl
        rw [List.forall_mem_cons]
        use ⟨htext, hbefore⟩
    · right
      use [], text, texts, rfl, List.forall_mem_nil _

theorem isPair_of_ofPairs (h : ofPairs (markedTexts texts) = .ok mapping) :
  ∀ t ∈ texts, IsPair t.2
  := by
  obtain hpairs | ⟨before, text, after, rfl, hbefore, htext⟩ := forall_isPair_or_exists_first texts
  · apply hpairs
  · rw [ofPairs_of_first hbefore htext] at h
    cases h

theorem holdsLastGiven_of_ofPairs (h : ofPairs (markedTexts texts) = .ok mapping) :
  HoldsLastGiven texts mapping
  := by
  obtain ⟨mapping', hmapping', hholds⟩ := exists_ofPairs (isPair_of_ofPairs h)
  rw [h] at hmapping'
  cases hmapping'
  apply hholds

end Reading

/-- A row of texts has a mapping exactly if all of them are pairs, and its entries are then what
is left of the entries that the texts are pairs of.  Otherwise the fault names the first text that
is no pair, and there is no mapping.  The pairs of entries with different keys have these entries
again, in the same order. -/
theorem ofPairs_lastGiven (texts : List (Mark × String)) :
  ((∃ mapping, ofPairs (markedTexts texts) = .ok mapping) ↔ ∀ t ∈ texts, IsPair t.2)
    ∧ (∀ mapping, ofPairs (markedTexts texts) = .ok mapping → HoldsLastGiven texts mapping)
    ∧ (∀ before text after, texts = before ++ text :: after → (∀ t ∈ before, IsPair t.2) →
      ¬ IsPair text.2 →
      ∃ fault, ofPairs (markedTexts texts) = .error fault
        ∧ fault.message? = some ("Malformed attribute " ++ (Value.text text.1 text.2).inspect
          ++ ", expected KEY=VALUE"))
    ∧ (∀ entries : List (String × String), (∀ e ∈ entries, IsEntry e) → (keys entries).Nodup →
      ofPairs (entries.map fun e => .plain (pairOf e)) = .ok (entries.map plainEntry))
    ∧ ∀ {σ : Type} (host : Host σ) (pairs : List Value),
      host.apply .parseAttributes [.list pairs] []
        = .ofExcept (.mapping .plain <$> ofPairs pairs)
  := by
  refine ⟨⟨?_, ?_⟩, ?_, ?_, ?_, apply_parseAttributes⟩
  · rintro ⟨mapping, hmapping⟩
    apply isPair_of_ofPairs hmapping
  · intro h
    obtain ⟨mapping, hmapping, -⟩ := exists_ofPairs h
    use mapping, hmapping
  · intro mapping
    apply holdsLastGiven_of_ofPairs
  · rintro before text after rfl hbefore htext
    use .malformedAttribute (Value.text text.1 text.2).inspect, ofPairs_of_first hbefore htext after
    rfl
  · intro entries hentries hkeys
    rw [ofPairs_eq_insertAll hentries, insertAll_of_nodup hkeys]

end HtmlTemplate.Attribute
