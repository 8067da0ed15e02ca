import ValueMethods.Text.Split

/-!
# Arguments

Taking an argument list apart by the rules of a command: options with a long name and perhaps a
letter, and words.  An option with a value takes it after an equals sign or as the next argument;
letters can share one dash; two dashes make words of all that follows.  The arguments are read from
left to right, and the first one that is refused or that asks for help decides.  A value is looked
at when it is settled, which is at the next option or word or at the end.
-/

namespace ValueMethods

/-- Which texts are accepted as a value. -/
inductive ValueRule where
  /-- Every text. -/
  | any
  /-- Every text but the empty one. -/
  | nonempty
  /-- One of the listed texts. -/
  | oneOf (texts : List String)
  deriving DecidableEq

/-- Whether a text is accepted. -/
def ValueRule.accepts : ValueRule → String → Bool
  | .any, _ => true
  | .nonempty, text => !text.isEmpty
  | .oneOf texts, text => texts.contains text

/-- What an option does. -/
inductive OptionEffect where
  /-- It is given or not. -/
  | flag
  /-- It has a value, and is given once at most. -/
  | single (rule : ValueRule)
  /-- It has a value and can be given any number of times; the value may start with a dash. -/
  | repeated
  /-- It asks for help. -/
  | help
  /-- It asks for the version. -/
  | version
  deriving DecidableEq

/-- An option of a command. -/
structure OptionRule where
  /-- The name behind two dashes. -/
  long : String
  /-- The letter behind one dash. -/
  short : Option Char
  /-- What the option does. -/
  effect : OptionEffect
  deriving DecidableEq

/-- Whether the option has a value. -/
def OptionRule.takesValue (rule : OptionRule) : Bool :=
  match rule.effect with
  | .single _ => true
  | .repeated => true
  | _ => false

/-- Why the arguments of a command are not taken in. -/
inductive Interruption where
  /-- They do not fit the rules. -/
  | misuse
  /-- They ask for help, at length or in short. -/
  | help (long : Bool)
  /-- They ask for the version. -/
  | version
  deriving DecidableEq

/-- An option whose value is not settled yet. -/
structure OpenOption where
  /-- The rule of the option. -/
  rule : OptionRule
  /-- The value, if there was one. -/
  value : Option String
  deriving DecidableEq

/-- What has been taken from an argument list. -/
structure Taken where
  /-- Options with their values, in order; the value of a flag is empty. -/
  options : List (String × String)
  /-- Words, in order. -/
  words : List String
  /-- The option whose value is not settled. -/
  unsettled : Option OpenOption
  deriving DecidableEq

namespace Taken

/-- Nothing taken yet. -/
def nothing : Taken where
  options := []
  words := []
  unsettled := none

/-- Whether an option was given. -/
def has (taken : Taken) (name : String) : Bool :=
  taken.options.any fun entry => entry.1 == name

/-- The value of an option, if it was given. -/
def value? (taken : Taken) (name : String) : Option String :=
  taken.options.lookup name

/-- All values of an option, in order. -/
def values (taken : Taken) (name : String) : List String :=
  (taken.options.filter fun entry => entry.1 == name).map Prod.snd

/-- Takes in an option with its value. -/
def add (taken : Taken) (rule : OptionRule) (value : String) : Except Interruption Taken :=
  match rule.effect with
  | .flag =>
      if taken.has rule.long then .error .misuse
      else .ok { taken with options := taken.options ++ [(rule.long, "")] }
  | .single accepted =>
      if taken.has rule.long || !accepted.accepts value then .error .misuse
      else .ok { taken with options := taken.options ++ [(rule.long, value)] }
  | .repeated => .ok { taken with options := taken.options ++ [(rule.long, value)] }
  | .help => .error (.help true)
  | .version => .error .version

/-- Settles the option that is not settled. -/
def settle (taken : Taken) : Except Interruption Taken :=
  match taken.unsettled with
  | none => .ok taken
  | some ⟨rule, some value⟩ => { taken with unsettled := none }.add rule value
  | some ⟨_, none⟩ => .error .misuse

/-- The option that waits for its value. -/
def waiting? (taken : Taken) : Option OptionRule :=
  match taken.unsettled with
  | some ⟨rule, none⟩ => some rule
  | _ => none

/-- Takes in an option that is not followed by a value in the same argument. -/
def addBare (taken : Taken) (rule : OptionRule) (long : Bool) : Except Interruption Taken :=
  match taken.settle with
  | .error interruption => .error interruption
  | .ok settled =>
      match rule.effect with
      | .help => .error (.help long)
      | _ =>
          if rule.takesValue then .ok { settled with unsettled := some ⟨rule, none⟩ }
          else settled.add rule ""

/-- Takes in an option with the value in the same argument. -/
def addAttached (taken : Taken) (rule : OptionRule) (value : String) :
    Except Interruption Taken :=
  if rule.takesValue then
    match taken.settle with
    | .error interruption => .error interruption
    | .ok settled => settled.add rule value
  else
    .error .misuse

/-- Takes in a word, if there is a rule for it and the rule accepts it. -/
def addWord (taken : Taken) (rule : Option ValueRule) (word : String) :
    Except Interruption Taken :=
  match taken.settle with
  | .error interruption => .error interruption
  | .ok settled =>
      if rule.any fun accepted => accepted.accepts word then
        .ok { settled with words := settled.words ++ [word] }
      else
        .error .misuse

end Taken

/-- The form of an argument. -/
inductive ArgumentForm where
  /-- Two dashes. -/
  | endOfOptions
  /-- A long name, perhaps with a value behind an equals sign. -/
  | long (name : String) (value : Option String)
  /-- Letters behind one dash. -/
  | letters (text : List Char)
  /-- Anything else, also a single dash. -/
  | word
  deriving DecidableEq

namespace ArgumentForm

/-- A long name with what follows the first equals sign. -/
def splitLong (text : List Char) : ArgumentForm :=
  match Text.splitOn '=' text with
  | [] => .long "" none
  | [name] => .long (String.ofList name) none
  | name :: rest =>
      .long (String.ofList name) (some (Text.joinWith "=" (rest.map String.ofList)))

/-- The form of an argument. -/
def of (argument : String) : ArgumentForm :=
  match argument.toList with
  | ['-', '-'] => .endOfOptions
  | '-' :: '-' :: rest => splitLong rest
  | ['-'] => .word
  | '-' :: rest => .letters rest
  | _ => .word

end ArgumentForm

/-- The rules of a command. -/
structure CommandRules where
  /-- The options. -/
  options : List OptionRule
  /-- The rules for the first words. -/
  firstWords : List ValueRule
  /-- The rule for any further words, if they are allowed. -/
  furtherWords : Option ValueRule
  deriving DecidableEq

namespace CommandRules

/-- The option with a long name. -/
def long? (rules : CommandRules) (name : String) : Option OptionRule :=
  rules.options.find? fun rule => rule.long == name

/-- The option with a letter. -/
def short? (rules : CommandRules) (letter : Char) : Option OptionRule :=
  rules.options.find? fun rule => rule.short == some letter

/-- Takes in a word. -/
def takeWord (rules : CommandRules) (taken : Taken) (word : String) :
    Except Interruption Taken :=
  taken.addWord ((rules.firstWords[taken.words.length]?).or rules.furtherWords) word

/-- Takes in letters behind one dash.  The first option with a value takes the rest for it, after
an equals sign if there is one. -/
def takeLetters (rules : CommandRules) : Taken → List Char → Except Interruption Taken
  | taken, [] => .ok taken
  | taken, letter :: rest =>
      match rules.short? letter with
      | none => .error .misuse
      | some rule =>
          if rule.takesValue then
            match rest with
            | [] => taken.addBare rule false
            | '=' :: value => taken.addAttached rule (String.ofList value)
            | value => taken.addAttached rule (String.ofList value)
          else
            match taken.addBare rule false with
            | .error interruption => .error interruption
            | .ok changed => rules.takeLetters changed rest

/-- Takes in a long name, perhaps with a value. -/
def takeLong (rules : CommandRules) (taken : Taken) (name : String) (value : Option String) :
    Except Interruption Taken :=
  match rules.long? name, value with
  | none, _ => .error .misuse
  | some rule, none => taken.addBare rule true
  | some rule, some text => taken.addAttached rule text

/-- Whether an option that waits takes the argument for its value. -/
def isValueFor (rule : OptionRule) (argument : String) : Bool :=
  rule.effect == .repeated || ArgumentForm.of argument == .word

/-- Takes in one argument that comes before the end of the options. -/
def takeArgument (rules : CommandRules) (taken : Taken) (argument : String) :
    Except Interruption Taken :=
  match taken.waiting? with
  | some rule =>
      if isValueFor rule argument then
        .ok { taken with unsettled := some ⟨rule, some argument⟩ }
      else
        .error .misuse
  | none =>
      match ArgumentForm.of argument with
      | .long name value => rules.takeLong taken name value
      | .letters text => rules.takeLetters taken text
      | .word => rules.takeWord taken argument
      | .endOfOptions => .ok taken

/-- Whether the argument ends the options. -/
def endsOptions (taken : Taken) (argument : String) : Bool :=
  taken.waiting?.isNone && ArgumentForm.of argument == .endOfOptions

/-- Takes in words, whatever they look like. -/
def takeWords (rules : CommandRules) : Taken → List String → Except Interruption Taken
  | taken, [] => taken.settle
  | taken, word :: rest =>
      match rules.takeWord taken word with
      | .error interruption => .error interruption
      | .ok changed => rules.takeWords changed rest

/-- Takes an argument list apart. -/
def take (rules : CommandRules) : Taken → List String → Except Interruption Taken
  | taken, [] => taken.settle
  | taken, argument :: rest =>
      if endsOptions taken argument then
        rules.takeWords taken rest
      else
        match rules.takeArgument taken argument with
        | .error interruption => .error interruption
        | .ok changed => rules.take changed rest

end CommandRules

end ValueMethods
