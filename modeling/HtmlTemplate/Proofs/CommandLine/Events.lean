import HtmlTemplate.CommandLine.Program
import Mathlib.Data.List.TakeWhile
import Mathlib.Tactic.Use

/-!
# What rows of words say

A word that does not begin with a dash is an argument in every syntax.  `Says` relates
words in front of which all positional arguments are left to their events, and is closed
under putting options in front, with or without a value.  A command with words that the
general syntax can tell apart is what is asked for, `Request.read_command`.
-/

namespace HtmlTemplate.CommandLine

/-- The first character of a word is a dash. -/
def BeginsWithDash (word : String) : Prop := word.toList.head? = some '-'

instance (word : String) : Decidable (BeginsWithDash word) :=
  inferInstanceAs (Decidable (_ = _))

/-- Nothing stands behind a dash at the beginning of the word, so that it is no option. -/
def IsArgument (word : String) : Prop := ∀ c rest, word.toList ≠ '-' :: c :: rest

theorem isArgument_of_not_beginsWithDash {word : String} (h : ¬ BeginsWithDash word) :
  IsArgument word
  := by
  intro c rest hword
  apply h
  rw [BeginsWithDash, hword]
  rfl

theorem isArgument_dash :
  IsArgument "-"
  := by
  rintro c rest ⟨⟩

theorem IsArgument.ne_separator {word : String} (h : IsArgument word) :
  word ≠ "--"
  := by
  rintro rfl
  apply h '-' []
  rfl

namespace CommandSyntax

variable {κ ρ : Type} (s : CommandSyntax κ ρ) {word : String} {words : List String}

/-! ### Tokens -/

theorem kind?_of_isArgument (h : IsArgument word) :
  s.kind? word = some .argument
  := by
  rw [kind?]
  split
  · rename_i c rest hword
    apply absurd hword (h c rest)
  · rfl

theorem isSome_kind? (h : IsArgument word) :
  (s.kind? word).isSome
  := by
  rw [s.kind?_of_isArgument h]
  rfl

theorem tokens?_cons {kind : TokenKind κ} {tokens : List (Token κ)} (hne : word ≠ "--")
    (hword : s.kind? word = some kind) (hwords : s.tokens? words = some tokens) :
  s.tokens? (word :: words) = some (⟨word, kind⟩ :: tokens)
  := by
  rw [tokens?, if_neg hne, hword, hwords]
  rfl

/-- The tokens of words that are arguments. -/
def arguments (words : List String) : List (Token κ) := words.map fun word => ⟨word, .argument⟩

theorem map_word_arguments (words : List String) :
  (arguments words : List (Token κ)).map (·.word) = words
  := by
  rw [arguments, List.map_map]
  apply List.map_id

theorem tokens?_arguments (h : ∀ w ∈ words, IsArgument w) :
  s.tokens? words = some (arguments words)
  := by
  induction words with
  | nil => rfl
  | cons word words ih =>
    rw [List.forall_mem_cons] at h
    apply s.tokens?_cons h.1.ne_separator (s.kind?_of_isArgument h.1) (ih h.2)

/-- Words that are each something are a row of tokens. -/
theorem exists_tokens (h : ∀ w ∈ words, (s.kind? w).isSome) :
  ∃ tokens, s.tokens? words = some tokens
  := by
  induction words with
  | nil =>
    use []
    rfl
  | cons word words ih =>
    rw [List.forall_mem_cons] at h
    rw [tokens?]
    split
    · exact ⟨_, rfl⟩
    · obtain ⟨kind, hkind⟩ := Option.isSome_iff_exists.mp h.1
      obtain ⟨tokens, htokens⟩ := ih h.2
      rw [hkind, htokens]
      exact ⟨_, rfl⟩

variable {s}

theorem map_word_of_tokens? {tokens : List (Token κ)} (h : s.tokens? words = some tokens) :
  tokens.map (·.word) = words
  := by
  induction words generalizing tokens with
  | nil =>
    cases h
    rfl
  | cons word words ih =>
    rw [tokens?] at h
    split at h
    · cases h
      apply congrArg (word :: ·) (map_word_arguments words)
    · cases hkind : s.kind? word with
      | none =>
        rw [hkind] at h
        cases h
      | some kind =>
        cases htokens : s.tokens? words with
        | none =>
          rw [hkind, htokens] at h
          cases h
        | some rest =>
          rw [hkind, htokens] at h
          cases h
          rw [List.map_cons, ih htokens]

/-! ### Events -/

/-- What words say if they are a row of tokens and all positional arguments are left. -/
def Says (s : CommandSyntax κ ρ) (words : List String) (events : List (Event κ ρ)) : Prop :=
  ∃ tokens, s.tokens? words = some tokens ∧ s.tokenEvents s.positionals tokens = events

variable {key : κ} {single : Bool} {events : List (Event κ ρ)}

theorem Says.events_eq (h : s.Says words events) :
  s.events words = events
  := by
  obtain ⟨tokens, htokens, hevents⟩ := h
  rw [CommandSyntax.events, htokens]
  exact hevents

/-- An option that takes no other word, in front of words. -/
theorem Says.option {value : Option (List Char)} {told : List (Event κ ρ)}
    (h : s.Says words events) (hne : word ≠ "--")
    (hword : s.kind? word = some (.option key single value))
    (htold : ∀ next, s.option? key single value next = some (told, 0)) :
  s.Says (word :: words) (told ++ events)
  := by
  obtain ⟨tokens, htokens, rfl⟩ := h
  refine ⟨_, s.tokens?_cons hne hword htokens, ?_⟩
  rw [tokenEvents]
  simp only [htold, List.drop_zero]

/-- An option without a value in front of words. -/
theorem Says.flag (h : s.Says words events) (hne : word ≠ "--")
    (hword : s.kind? word = some (.option key single none)) (hkey : s.takesValue key = false) :
  s.Says (word :: words) (.option key [] :: events)
  := by
  have htold (next : Option (Token κ)) :
      s.option? key single none next = some ([.option key []], 0) := by
    simp [option?, single?, hkey]
  apply h.option hne hword htold

/-- An option with its value behind it in front of words. -/
theorem Says.value {value : String} (h : s.Says words events) (hne : word ≠ "--")
    (hword : s.kind? word = some (.option key single none)) (hkey : s.takesValue key = true)
    (hvalue : IsArgument value) :
  s.Says (word :: value :: words) (.option key [value] :: events)
  := by
  obtain ⟨tokens, htokens, rfl⟩ := h
  have hrest := s.tokens?_cons hvalue.ne_separator (s.kind?_of_isArgument hvalue) htokens
  refine ⟨_, s.tokens?_cons hne hword hrest, ?_⟩
  rw [tokenEvents]
  simp [option?, single?, hkey, Token.isArgument]

/-- An option with its value in the same word in front of words. -/
theorem Says.attached {value : List Char} (h : s.Says words events) (hne : word ≠ "--")
    (hword : s.kind? word = some (.option key single (some value)))
    (hkey : s.takesValue key = true) :
  s.Says (word :: words) (.option key (withoutSeparator [String.ofList value]) :: events)
  := by
  have htold (next : Option (Token κ)) :
      s.option? key single (some value) next
        = some ([.option key (withoutSeparator [String.ofList value])], 0) := by
    simp [option?, hkey]
  apply h.option hne hword htold

/-- Positional arguments that take all tokens, the first of which is an argument. -/
theorem tokenEvents_of_take {positionals : List (ρ × Arity)} {tokens : List (Token κ)}
    {taken : List (ρ × List String)}
    (htaken : take positionals (⟨word, .argument⟩ :: tokens) = taken)
    (hlength : (taken.flatMap (·.2)).length = tokens.length + 1) :
  s.tokenEvents positionals (⟨word, .argument⟩ :: tokens)
    = positionalEvents positionals taken ++ atEnd (positionals.drop taken.length)
  := by
  rw [tokenEvents]
  simp only [htaken, hlength]
  rw [if_neg (Nat.succ_ne_zero _), Nat.add_sub_cancel, List.drop_length, tokenEvents]

/-! ### Rows of arguments -/

theorem take_one_arguments (name : ρ) (positionals : List (ρ × Arity)) (word : String)
    (words : List String) :
  take ((name, .one) :: positionals) (arguments (word :: words) : List (Token κ))
    = (name, [word]) :: take positionals (arguments words : List (Token κ))
  := by
  have hcount : Arity.one.count? (arguments (word :: words) : List (Token κ)) = some 1 := by
    cases words with
    | nil => rfl
    | cons next words => rfl
  rw [take, hcount]
  rfl

theorem take_many_arguments (name : ρ) (words : List String) :
  take [(name, .many)] (arguments words : List (Token κ)) = [(name, words)]
  := by
  have hall : (arguments words : List (Token κ)).takeWhile
      (fun t => t.isArgument || t.isSeparator) = arguments words := by
    rw [List.takeWhile_eq_self_iff]
    simp [arguments, Token.isArgument]
  have hcount : Arity.many.count? (arguments words : List (Token κ))
      = some (arguments words : List (Token κ)).length := by
    simp only [Arity.count?, hall]
  rw [take, hcount]
  simp only [List.take_length, map_word_arguments, take]

theorem withoutSeparator_arguments (h : ∀ w ∈ words, IsArgument w) :
  withoutSeparator words = words
  := by
  apply List.erase_of_not_mem
  intro hmem
  apply (h _ hmem).ne_separator rfl

end CommandSyntax

/-! ### Commands -/

/-- A command takes all words behind its name, whatever they are. -/
theorem generalEvents_cons {name : String} {words : List String} (hname : IsArgument name)
    (hwords : ∀ w ∈ words, (generalSyntax.kind? w).isSome) :
  generalSyntax.events (name :: words) = [.positional () (name :: words)]
  := by
  obtain ⟨tokens, htokens⟩ := generalSyntax.exists_tokens hwords
  have hall := generalSyntax.tokens?_cons hname.ne_separator
    (generalSyntax.kind?_of_isArgument hname) htokens
  have hmap := CommandSyntax.map_word_of_tokens? htokens
  -- What looks like an option behind the name of a command is taken with it.
  have htaken : CommandSyntax.take generalSyntax.positionals (⟨name, .argument⟩ :: tokens)
      = [((), name :: words)] := by
    simp [generalSyntax, CommandSyntax.take, Arity.count?, Token.isSeparator, Token.isArgument,
      hmap]
  rw [CommandSyntax.events, hall]
  show generalSyntax.tokenEvents _ _ = _
  rw [CommandSyntax.tokenEvents_of_take htaken (by simp [← hmap])]
  rfl

/-- A command line that begins with a command asks for it, if its words say so. -/
theorem Request.read_command {name : String} {words : List String} {command : Command}
    {shown : String} (hname : IsArgument name)
    (hwords : ∀ w ∈ words, (generalSyntax.kind? w).isSome)
    (hcommand : readCommand name words = (.command command false, shown)) :
  Request.read (name :: words) = .run false command
  := by
  rw [Request.read, generalEvents_cons hname hwords, Request.ofEvents]
  simp [hcommand]

/-- What has been read of a command that makes an element before its words are. -/
def TagReading.start : TagReading := ⟨"", false, none, [], false, [], false⟩

theorem Request.read_tag {words : List String} {command : Command}
    (hwords : ∀ w ∈ words, (generalSyntax.kind? w).isSome)
    (hread : readTag .start (tagSyntax.events words) = .command command false) :
  Request.read ("tag" :: words) = .run false command
  := by
  have hcommand : readCommand "tag" words = (.command command false, Help.tag) :=
    congrArg (·, Help.tag) hread
  apply Request.read_command (isArgument_of_not_beginsWithDash (by decide)) hwords hcommand

end HtmlTemplate.CommandLine
