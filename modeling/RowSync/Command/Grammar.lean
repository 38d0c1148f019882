/-!
Words of a command line. A level of the command line has options and may have commands; the words
are taken from the left, and the first word that cannot be taken decides. An option whose value is
the following word is stored when the next option is met or the level ends.
-/

set_option autoImplicit false

namespace RowSync

/-- Why the words of a command line are not taken; help and version are asked for. -/
inductive ArgumentFault
  | help
  | version
  /-- No command, and nothing else either. -/
  | nothing
  | missingCommand
  | unknownCommand
  | unknownArgument
  | invalidValue
  /-- An option without a value was given one. -/
  | surplusValue
  /-- An option that may be given once was given again. -/
  | repeated
  deriving DecidableEq, Repr

/-- What an option takes. -/
inductive OptionKind
  | flag
  /-- One value. -/
  | single
  /-- Any number of values, separated by commas or given one by one. -/
  | list
  | help
  | version
  deriving DecidableEq, Repr

structure OptionRule where
  /-- The name behind two hyphens. -/
  name : String
  /-- The letter behind one hyphen. -/
  letter? : Option Char := none
  kind : OptionKind
  /-- Whether a text is a value of the option. -/
  accepts : String → Bool := fun _ => true

namespace OptionRule

def takesValue (rule : OptionRule) : Bool := rule.kind == .single || rule.kind == .list

end OptionRule

/-- The options and commands of a level. -/
structure CommandLevel where
  options : List OptionRule
  commands : List String := []

/-- An option that waits for its value or to be stored. -/
structure PendingOption where
  rule : OptionRule
  value? : Option String

/-- What was taken so far. -/
structure TakenWords where
  /-- The options in the order in which they were stored, with their values. -/
  stored : List (String × List String) := []
  pending? : Option PendingOption := none

abbrev Taking (α : Type) := Except ArgumentFault α

namespace TakenWords

def has (t : TakenWords) (name : String) : Bool := t.stored.any (·.1 == name)

def values (t : TakenWords) (name : String) : List String :=
  t.stored.flatMap fun entry => if entry.1 == name then entry.2 else []

/-- The parts of a text between commas, behind the characters of the part begun, in reverse. -/
def splitCommas (begun : List Char) : List Char → List String
  | [] => [String.ofList begun.reverse]
  | c :: cs =>
    if c == ',' then String.ofList begun.reverse :: splitCommas [] cs
    else splitCommas (c :: begun) cs

/-- The values that a text stands for. -/
def valuesIn (rule : OptionRule) (value : String) : List String :=
  if rule.kind == .list then splitCommas [] value.toList else [value]

/-- Stores an option with a value. -/
def store (rule : OptionRule) (value : String) (t : TakenWords) : Taking TakenWords :=
  if rule.kind != .list && t.has rule.name then .error .repeated
  else
    let values := valuesIn rule value
    if values.all rule.accepts then .ok { t with stored := t.stored ++ [(rule.name, values)] }
    else .error .invalidValue

/-- Stores the option that waits, if any. -/
def settle (t : TakenWords) : Taking TakenWords :=
  match t.pending? with
  | none => .ok t
  | some ⟨_, none⟩ => .error .invalidValue
  | some ⟨rule, some value⟩ => store rule value { t with pending? := none }

/-- The option that waits for the next word. -/
def awaiting? (t : TakenWords) : Option OptionRule :=
  match t.pending? with
  | some ⟨rule, none⟩ => some rule
  | _ => none

def takeFlag (rule : OptionRule) (t : TakenWords) : Taking TakenWords := do
  let t ← t.settle
  match rule.kind with
  | .help => .error .help
  | .version => .error .version
  | _ =>
    if t.has rule.name then .error .repeated
    else .ok { t with stored := t.stored ++ [(rule.name, [])] }

/-- Takes an option with a value, in the same word or the next. -/
def takeOption (rule : OptionRule) (value? : Option String) (t : TakenWords) :
    Taking TakenWords := do
  let t ← t.settle
  match value? with
  | some value => store rule value t
  | none => .ok { t with pending? := some ⟨rule, none⟩ }

/-- The parts in front of and behind the first equals sign. -/
def splitEquals : List Char → List Char × Option (List Char)
  | [] => ([], none)
  | c :: cs =>
    if c == '=' then ([], some cs)
    else
      let (name, value?) := splitEquals cs
      (c :: name, value?)

/-- Takes a word behind two hyphens. -/
def takeLong (level : CommandLevel) (body : List Char) (t : TakenWords) : Taking TakenWords :=
  let (name, value?) := splitEquals body
  match level.options.find? (·.name == String.ofList name) with
  | none => .error .unknownArgument
  | some rule =>
    if rule.takesValue then takeOption rule (value?.map String.ofList) t
    else if value?.isSome then .error .surplusValue
    else takeFlag rule t

/-- The value in the same word as a letter, without the equals sign in front. -/
def attached : List Char → Option String
  | [] => none
  | '=' :: cs => some (String.ofList cs)
  | cs => some (String.ofList cs)

/-- Takes the letters of a word behind one hyphen. -/
def takeLetters (level : CommandLevel) (t : TakenWords) : List Char → Taking TakenWords
  | [] => .ok t
  | c :: cs =>
    match level.options.find? (·.letter? == some c) with
    | none => .error .unknownArgument
    | some rule =>
      if rule.takesValue then takeOption rule (attached cs) t
      else
        match takeFlag rule t with
        | .error fault => .error fault
        | .ok t => takeLetters level t cs

end TakenWords

/-- What is wrong with a word that is neither an option nor a value. -/
def CommandLevel.strayFault (level : CommandLevel) (afterEscape : Bool) (word : String) :
    ArgumentFault :=
  if level.commands.isEmpty then .unknownArgument
  else if afterEscape && level.commands.contains word then .unknownArgument
  else .unknownCommand

/-- Takes the words of a level, up to a command, which is handed out with the words behind it. -/
def CommandLevel.take (level : CommandLevel) (t : TakenWords) :
    List String → Taking (TakenWords × Option (String × List String))
  | [] => .ok (t, none)
  | word :: words =>
    if t.awaiting?.isNone && level.commands.contains word then .ok (t, some (word, words))
    else
      let go := fun (next : Taking TakenWords) =>
        match next with
        | .error fault => .error fault
        | .ok t => level.take t words
      match word.toList with
      | ['-', '-'] =>
        match words with
        | [] => .ok (t, none)
        | word :: _ => .error (level.strayFault true word)
      | '-' :: '-' :: body => go (t.takeLong level body)
      | '-' :: c :: cs => go (t.takeLetters level (c :: cs))
      | _ =>
        match t.awaiting? with
        | some rule => level.take { t with pending? := some ⟨rule, some word⟩ } words
        | none => .error (level.strayFault false word)

end RowSync
