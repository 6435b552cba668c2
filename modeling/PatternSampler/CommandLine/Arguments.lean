import PatternSampler.Batch
import PatternSampler.Text.Decimal

/-! # Arguments of the command line

The first argument names a command, and the others are one pattern and options in any order. An option
is written `--name value`, `--name=value` or, if it has a letter, `-x value`, `-xvalue` or `-x=value`,
and may be given once. After `--` nothing is an option any more.

A pattern may start with a dash. So as long as the pattern has not come, an argument that starts with a
dash but is no option of the command is read as if it had none.
-/

namespace PatternSampler

inductive CommandOption where
  | seed
  | count
  | format
  | config
  | ast
  | help
  deriving Repr, DecidableEq

namespace CommandOption

def name : CommandOption → String
  | seed => "seed"
  | count => "count"
  | format => "format"
  | config => "config"
  | ast => "ast"
  | help => "help"

def letter? : CommandOption → Option Char
  | seed => some 's'
  | count => some 'n'
  | format => some 'f'
  | config => some 'c'
  | ast => none
  | help => some 'h'

def takesValue : CommandOption → Bool
  | seed | count | format | config => true
  | ast | help => false

end CommandOption

inductive Command where
  | generate
  | tokens
  | check
  deriving Repr, DecidableEq

namespace Command

def name : Command → String
  | generate => "generate"
  | tokens => "tokens"
  | check => "check"

def all : List Command := [generate, tokens, check]

def ofName? (name : String) : Option Command := all.find? (·.name = name)

def options : Command → List CommandOption
  | generate => [.seed, .count, .format, .config, .help]
  | tokens => [.help]
  | check => [.ast, .help]

def optionNamed? (c : Command) (name : String) : Option CommandOption :=
  c.options.find? (·.name = name)

def optionLettered? (c : Command) (letter : Char) : Option CommandOption :=
  c.options.find? (·.letter? = some letter)

end Command

/-- Why arguments cannot be followed. -/
inductive Misuse where
  | noCommand
  | unknownCommand (name : String)
  | unknownOption (text : String)
  | extraArgument (text : String)
  | repeated (o : CommandOption)
  | missingValue (o : CommandOption)
  | unneededValue (o : CommandOption)
  | badValue (o : CommandOption) (text : String)
  | missingPattern
  deriving Repr, DecidableEq

namespace Misuse

def message : Misuse → String
  | noCommand => "a command is needed"
  | unknownCommand name => "unknown command '" ++ name ++ "'"
  | unknownOption text => "unknown option '" ++ text ++ "'"
  | extraArgument text => "unexpected argument '" ++ text ++ "'"
  | repeated o => "--" ++ o.name ++ " cannot be given twice"
  | missingValue o => "--" ++ o.name ++ " needs a value"
  | unneededValue o => "--" ++ o.name ++ " takes no value"
  | badValue o text => "invalid value '" ++ text ++ "' for --" ++ o.name
  | missingPattern => "a pattern is needed"

end Misuse

/-- Why reading of the arguments ends before their end. -/
inductive Interruption where
  | helpWanted
  | misuse (cause : Misuse)
  deriving Repr, DecidableEq

structure Given where
  pattern : Option String := none
  seed : Option UInt64 := none
  count : Option UInt32 := none
  format : Option OutputFormat := none
  config : Option String := none
  ast : Bool := false
  deriving Repr, DecidableEq

namespace Given

def fill {α : Type} (o : CommandOption) (place : Option α) (text : String) (value : Option α)
    (store : α → Given) : Except Interruption Given :=
  match place, value with
  | _, none => .error (.misuse (.badValue o text))
  | some _, some _ => .error (.misuse (.repeated o))
  | none, some v => .ok (store v)

/-- The value of a count: any spelling of a whole number that fits into 32 bits without a sign. -/
def countOfText? (text : String) : Option UInt32 :=
  match Text.signed64? text with
  | some n => if 0 ≤ n ∧ n < UInt32.size then some (UInt32.ofNat n.toNat) else none
  | none => none

/-- Take an option with its value; the value of an option that takes none does not count. -/
def set (g : Given) (text : String) : CommandOption → Except Interruption Given
  | .seed =>
    fill .seed g.seed text ((Text.word64? text).map UInt64.ofNat) fun v => { g with seed := some v }
  | .count => fill .count g.count text (countOfText? text) fun v => { g with count := some v }
  | .format =>
    fill .format g.format text (OutputFormat.ofName? text) fun v => { g with format := some v }
  | .config => fill .config g.config text (some text) fun v => { g with config := some v }
  | .ast =>
    if g.ast then .error (.misuse (.repeated .ast)) else .ok { g with ast := true }
  | .help => .error .helpWanted

def addPattern (g : Given) (text : String) : Except Interruption Given :=
  match g.pattern with
  | none => .ok { g with pattern := some text }
  | some _ => .error (.misuse (.extraArgument text))

end Given

/-- What one argument is. -/
inductive Argument where
  | plain (text : String)
  | separator
  /-- An option, and its value if that stands in the same argument. -/
  | option (o : CommandOption) (attached : Option String)
  | unknownOption (text : String)
  deriving Repr, DecidableEq

/-- What an argument of a command is, by its text and by whether the pattern is still to come. -/
def Command.argument (c : Command) (patternMissing : Bool) (text : String) : Argument :=
  match text.toList with
  | ['-', '-'] => .separator
  | '-' :: '-' :: cs =>
    let name := String.ofList (cs.takeWhile (· ≠ '='))
    match c.optionNamed? name with
    | some o => .option o ((cs.dropWhile (· ≠ '=')).tail?.map String.ofList)
    | none => if patternMissing then .plain text else .unknownOption text
  | '-' :: letter :: cs =>
    if patternMissing && !(letter :: cs).all (fun c' => (c.optionLettered? c').isSome) then
      .plain text
    else
      match c.optionLettered? letter with
      | none => .unknownOption text
      | some o =>
        .option o <|
          match cs with
          | [] => none
          | '=' :: value => some (String.ofList value)
          | value => some (String.ofList value)
  | _ => .plain text

namespace Command

/-- Read arguments from left to right, with what has been given before them and with the option whose
    value is the next plain argument, if there is one. -/
def read (c : Command) : Given → Option CommandOption → List String → Except Interruption Given
  | g, none, [] => .ok g
  | _, some o, [] => .error (.misuse (.missingValue o))
  | g, waiting, text :: texts =>
    match c.argument g.pattern.isNone text, waiting with
    | .plain text, none => do c.read (← g.addPattern text) none texts
    | .plain text, some o => do c.read (← g.set text o) none texts
    | .unknownOption text, _ => .error (.misuse (.unknownOption text))
    | _, some o => .error (.misuse (.missingValue o))
    | .separator, none => texts.foldlM Given.addPattern g
    | .option o (some value), none =>
      if o.takesValue then do c.read (← g.set value o) none texts
      else .error (.misuse (.unneededValue o))
    | .option o none, none =>
      if o.takesValue then c.read g (some o) texts
      else do c.read (← g.set "" o) none texts

end Command

inductive Invocation where
  | help
  | version
  | run (command : Command) (pattern : String) (given : Given)
  deriving Repr, DecidableEq

namespace Invocation

/-- Whether an argument before the command asks for help. Letters after the first do not count. -/
def asksForHelp (text : String) : Bool := text = "--help" || "-h".isPrefixOf text

def asksForVersion (text : String) : Bool := text = "--version" || "-V".isPrefixOf text

def helpWord : String := "help"

/-- What all arguments of the program ask for. -/
def ofArguments : List String → Except Misuse Invocation
  | [] => .error .noCommand
  | first :: texts =>
    if asksForHelp first then .ok help
    else if asksForVersion first then .ok version
    else if first = helpWord then
      match texts with
      | [] => .ok help
      | word :: texts =>
        if (word = helpWord ∨ (Command.ofName? word).isSome) ∧ texts = [] then .ok help
        else .error (.unknownCommand word)
    else
      match Command.ofName? first with
      | none => .error (.unknownCommand first)
      | some c =>
        match c.read {} none texts with
        | .error .helpWanted => .ok help
        | .error (.misuse cause) => .error cause
        | .ok given =>
          match given.pattern with
          | none => .error .missingPattern
          | some pattern => .ok (run c pattern given)

end Invocation

end PatternSampler
