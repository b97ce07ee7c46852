import HtmlTemplate.Text.Digit

/-!
# Reading command lines

A `CommandSyntax` declares options, each under one or more names, and positional
arguments.  Words are sorted into `Token`s: an option may be abbreviated to any prefix
that fits no other, have its value behind an equals sign, and share a word with other
options of one letter; behind `--` every word is an argument.  `CommandSyntax.events` is
what a command line says, in the order in which it takes effect.
-/

namespace HtmlTemplate.CommandLine

/-- How many words a positional argument takes: one, one or none, any number, or one and
all that follow it, options included. -/
inductive Arity where
  | one
  | optional
  | many
  | command
deriving DecidableEq

/-- The options of a command by name, whether they take a value, and its positional
arguments. -/
structure CommandSyntax (κ ρ : Type) where
  options : List (String × κ)
  takesValue : κ → Bool
  positionals : List (ρ × Arity)

/-- What a word is in its place. -/
inductive TokenKind (κ : Type) where
  | argument
  | separator
  /-- An option, whether its name has a single dash, and a value in the same word. -/
  | option (key : κ) (single : Bool) (value : Option (List Char))
  | unknown

/-- A word of a command line. -/
structure Token (κ : Type) where
  word : String
  kind : TokenKind κ

namespace Token

/-- Whether a token is an argument. -/
def isArgument {κ : Type} (token : Token κ) : Bool :=
  match token.kind with
  | .argument => true
  | _ => false

/-- Whether a token is a separator. -/
def isSeparator {κ : Type} (token : Token κ) : Bool :=
  match token.kind with
  | .separator => true
  | _ => false

end Token

/-- How many tokens a positional argument takes, as many as it can, and separators around
them. -/
def Arity.count? {κ : Type} (arity : Arity) (tokens : List (Token κ)) : Option Nat :=
  let before := (tokens.takeWhile Token.isSeparator).length
  let rest := tokens.drop before
  let after := ((rest.drop 1).takeWhile Token.isSeparator).length
  let startsWithArgument := (rest.head?.map Token.isArgument).getD false
  match arity with
  | .one => if startsWithArgument then some (before + 1 + after) else none
  | .optional => some (if startsWithArgument then before + 1 + after else before)
  | .many => some (tokens.takeWhile fun t => t.isArgument || t.isSeparator).length
  | .command => if startsWithArgument then some tokens.length else none

/-- What a part of a command line says.  Words that fit nowhere are `extra`, and a line
that ends in a `failure` cannot be read on. -/
inductive Event (κ ρ : Type) where
  | option (key : κ) (values : List String)
  | positional (name : ρ) (values : List String)
  | extra
  | failure

namespace CommandSyntax

variable {κ ρ : Type}

/-- Whether a word is a negative number, with or without a point. -/
def isNegativeNumber (word : List Char) : Bool :=
  match word with
  | '-' :: rest =>
    let rest := if rest.getLast? = some '\n' then rest.dropLast else rest
    match rest.dropWhile Digit.isDigit with
    | [] => !rest.isEmpty
    | '.' :: places => !places.isEmpty && places.all Digit.isDigit
    | _ => false
  | _ => false

/-- A word cut at its first equals sign. -/
def cut (word : List Char) : List Char × Option (List Char) :=
  match word.dropWhile (· ≠ '=') with
  | _ :: value => (word.takeWhile (· ≠ '='), some value)
  | [] => (word, none)

/-- Whether a name starts with a single dash. -/
def isSingle (name : List Char) : Bool := name[1]? ≠ some '-'

/-- The options that a word with a dash may abbreviate.  A word with two dashes may be a
prefix of a name, with a value behind an equals sign; one with a single dash may be a
letter with more letters, or a value, behind it. -/
def candidates (s : CommandSyntax κ ρ) (word : List Char) : List (TokenKind κ) :=
  if isSingle word then
    s.options.filterMap fun (name, key) =>
      if name.toList = word.take 2 then some (.option key true (some (word.drop 2)))
      else if word.isPrefixOf name.toList then
        some (.option key (isSingle name.toList) none)
      else none
  else
    let (start, value) := cut word
    s.options.filterMap fun (name, key) =>
      if start.isPrefixOf name.toList then
        some (.option key (isSingle name.toList) value)
      else none

/-- What a word before any separator is.  An abbreviation of several options is nothing. -/
def kind? (s : CommandSyntax κ ρ) (word : String) : Option (TokenKind κ) :=
  match word.toList with
  | '-' :: c :: rest =>
    let (name, value) := cut ('-' :: c :: rest)
    match s.options.lookup word, s.options.lookup (String.ofList name) with
    | some key, _ => some (.option key (isSingle word.toList) none)
    | none, some key => some (.option key (isSingle name) value)
    | none, none =>
      match s.candidates word.toList with
      | [kind] => some kind
      | _ :: _ :: _ => none
      | [] =>
        if isNegativeNumber word.toList || word.toList.contains ' ' then some .argument
        else some .unknown
  | _ => some .argument

/-- The tokens of a row of words, if each is something. -/
def tokens? (s : CommandSyntax κ ρ) : List String → Option (List (Token κ))
  | [] => some []
  | word :: words =>
    if word = "--" then
      some (⟨word, .separator⟩ :: words.map fun word => ⟨word, .argument⟩)
    else do
      let kind ← s.kind? word
      let rest ← tokens? s words
      return ⟨word, kind⟩ :: rest

/-- The words without the first that is a separator. -/
def withoutSeparator (words : List String) : List String := words.erase "--"

/-- The positional arguments that take tokens, with the words they take. -/
def take : List (ρ × Arity) → List (Token κ) → List (ρ × List String)
  | [], _ => []
  | (name, arity) :: positionals, tokens =>
    match arity.count? tokens with
    | none => []
    | some count =>
      let words := (tokens.take count).map (·.word)
      (name, words) :: take positionals (tokens.drop count)

/-- What the words taken by positional arguments say.  A command keeps its separators. -/
def positionalEvents (positionals : List (ρ × Arity))
    (taken : List (ρ × List String)) : List (Event κ ρ) :=
  (positionals.zip taken).map fun ((name, arity), (_, words)) =>
    .positional name (if arity = .command then words else withoutSeparator words)

/-- The option in a word of its own, or the last one in a shared word. -/
def single? (s : CommandSyntax κ ρ) (key : κ) (next : Option (Token κ)) :
    Option (List (Event κ ρ) × Nat) :=
  if s.takesValue key then
    match next with
    | some token => if token.isArgument then some ([.option key [token.word]], 1) else none
    | none => none
  else some ([.option key []], 0)

/-- The options in the letters behind an option without a value. -/
def letters? (s : CommandSyntax κ ρ) (next : Option (Token κ)) :
    List Char → Option (List (Event κ ρ) × Nat)
  | [] => none
  | c :: rest =>
    match s.options.lookup (String.ofList ['-', c]) with
    | none => none
    | some key =>
      if rest.isEmpty then s.single? key next
      else if s.takesValue key then
        some ([.option key (withoutSeparator [String.ofList rest])], 0)
      else
        (s.letters? next rest).map fun (events, used) => (.option key [] :: events, used)

/-- What an option says, and how many of the tokens after it it takes. -/
def option? (s : CommandSyntax κ ρ) (key : κ) (single : Bool)
    (value : Option (List Char)) (next : Option (Token κ)) :
    Option (List (Event κ ρ) × Nat) :=
  match value with
  | none => s.single? key next
  | some value =>
    if s.takesValue key then
      some ([.option key (withoutSeparator [String.ofList value])], 0)
    else if single then
      (s.letters? next value).map fun (events, used) => (.option key [] :: events, used)
    else none

/-- What the end of a command line says of the positional arguments that are left. -/
def atEnd (positionals : List (ρ × Arity)) : List (Event κ ρ) :=
  let taken := take positionals ([] : List (Token κ))
  positionalEvents positionals taken
    ++ if (positionals.drop taken.length).any (·.2 = .one) then [.failure] else []

/-- What tokens say, with the given positional arguments left. -/
def tokenEvents (s : CommandSyntax κ ρ) (positionals : List (ρ × Arity))
    (tokens : List (Token κ)) : List (Event κ ρ) :=
  match tokens with
  | [] => atEnd positionals
  | token :: rest =>
    match token.kind with
    | .option key single value =>
      match s.option? key single value rest.head? with
      | none => [.failure]
      | some (events, used) => events ++ tokenEvents s positionals (rest.drop used)
    | .unknown => .extra :: tokenEvents s positionals rest
    | .argument | .separator =>
      let taken := take positionals (token :: rest)
      let used := (taken.flatMap (·.2)).length
      if used = 0 then .extra :: tokenEvents s positionals rest
      else
        positionalEvents positionals taken
          ++ tokenEvents s (positionals.drop taken.length) (rest.drop (used - 1))
termination_by tokens.length

/-- What a command line says. -/
def events (s : CommandSyntax κ ρ) (words : List String) : List (Event κ ρ) :=
  match s.tokens? words with
  | some tokens => s.tokenEvents s.positionals tokens
  | none => [.failure]

end CommandSyntax

end HtmlTemplate.CommandLine
