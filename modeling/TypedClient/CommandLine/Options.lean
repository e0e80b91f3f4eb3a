import TypedClient.Generation
import TypedClient.Text.Character
import TypedClient.Text.Pieces
import TypedClient.Text.Quoted

/-!
The options of the command line. Long options may be shortened as long as one option is meant, and a
value may be joined to its option by an equals sign. Behind two hyphens no word is an option, and
two hyphens that are joined to an option leave it without a value. There are no operands, so every
word that is no option and no value of one is left over.
-/

namespace TypedClient.CommandLine

inductive Flag where
  | help
  | document
  | output
  | noHeader
  | verify
  deriving DecidableEq, Repr

namespace Flag

/-- The only short option. -/
def shortHelp : String := "-h"

def spellings : List (String × Flag) :=
  [(shortHelp, help), ("--help", help), ("--spec", document), ("--output", output),
    ("--no-header", noHeader), ("--verify", verify)]

/-- An option as it is called in complaints: all its spellings. -/
def name (flag : Flag) : String :=
  "/".intercalate ((spellings.filter (·.2 = flag)).map (·.1))

def takesValue : Flag → Bool
  | document | output => true
  | _ => false

def required : List Flag := [document, output]

end Flag

inductive UsageError where
  | ambiguous (word : String) (candidates : List String)
  | valueMissing (flag : Flag)
  | valueIgnored (flag : Flag) (value : String)
  | missing (flags : List Flag)
  | leftOver (words : List String)
  deriving DecidableEq, Repr

namespace UsageError

/-- What is said about a command line. -/
def message : UsageError → String
  | ambiguous word candidates =>
    "ambiguous option: " ++ word ++ " could match " ++ Text.commaSeparated candidates
  | valueMissing flag => "argument " ++ flag.name ++ ": expected one argument"
  | valueIgnored flag value =>
    "argument " ++ flag.name ++ ": ignored explicit argument " ++ Text.quoted value
  | missing flags =>
    "the following arguments are required: " ++ Text.commaSeparated (flags.map Flag.name)
  | leftOver words => "unrecognized arguments: " ++ " ".intercalate words

end UsageError

/-! ### Words -/

inductive Word where
  /-- An option, and the value that an equals sign joins to it. -/
  | option (flag : Flag) (joined : Option String)
  /-- The short option for help with something behind it, perhaps joined by an equals sign. -/
  | helpWith (letters : String)
  /-- A word that looks like an option and is none. -/
  | unknown (word : String)
  | operand (word : String)
  /-- The two hyphens behind which no word is an option. -/
  | divider
  deriving DecidableEq, Repr

/-- The text up to the first equals sign and what follows the sign. -/
def splitAtEquals (word : String) : String × Option String :=
  let chars := word.toList
  let before := String.ofList (chars.takeWhile (· != '='))
  match chars.dropWhile (· != '=') with
  | [] => (before, none)
  | _ :: value => (before, some (String.ofList value))

/-- A spelling with two hyphens. -/
def isLong (spelling : String) : Bool :=
  Text.startsWith "--" spelling

/-- The options that a word may mean, each with its spelling: for a long word those that it
shortens, and for a short word the one of its first letter. -/
def candidates (word : String) : List (String × Word) :=
  if isLong word then
    let (start, joined) := splitAtEquals word
    (Flag.spellings.filter fun entry => Text.startsWith start entry.1).map fun (spelling, flag) =>
      (spelling, .option flag joined)
  else if Text.startsWith Flag.shortHelp word then
    [(Flag.shortHelp, .helpWith (String.ofList (word.toList.drop 2)))]
  else []

/-- The word is a negative number: digits behind a hyphen, perhaps with a point among or before
them. A line end behind it does not count. -/
def isNegativeNumber (word : String) : Bool :=
  let isDigit (c : Char) : Bool := (Text.digitValue? c).isSome
  match word.toList with
  | '-' :: rest =>
    let body := if rest.getLast? = some '\n' then rest.dropLast else rest
    match body.dropWhile isDigit with
    | [] => !body.isEmpty
    | '.' :: fraction => !fraction.isEmpty && fraction.all isDigit
    | _ => false
  | _ => false

/-- What a word is that stands before any divider. -/
def classify (word : String) : Except UsageError Word :=
  let (start, joined) := splitAtEquals word
  if !Text.startsWith "-" word then .ok (.operand word)
  else if word = "--" then .ok .divider
  else
    match Flag.spellings.lookup word with
    | some flag => .ok (.option flag none)
    | none =>
      if word = "-" then .ok (.operand word)
      else
        match joined, Flag.spellings.lookup start with
        | some value, some flag =>
          .ok (if isLong start then .option flag (some value) else .helpWith value)
        | _, _ =>
          match candidates word with
          | [] =>
            if isNegativeNumber word || word.toList.contains ' ' then .ok (.operand word)
            else .ok (.unknown word)
          | [(_, meant)] => .ok meant
          | several => .error (.ambiguous word (several.map (·.1)))

def classifyAll : List String → Except UsageError (List Word)
  | [] => .ok []
  | word :: rest => do
    match ← classify word with
    | .divider => return .divider :: rest.map .operand
    | first => return first :: (← classifyAll rest)

/-! ### Settings -/

inductive Given where
  | value (text : String)
  /-- The divider, which is no value. -/
  | divider
  deriving DecidableEq, Repr

/-- What a text that is joined to an option gives it. -/
def Given.ofText (text : String) : Given :=
  if text = "--" then .divider else .value text

/-- What a command line has set so far. -/
structure Settings where
  document : Option Given
  output : Option Given
  hasHeader : Bool
  verifies : Bool
  /-- The words that are left over. -/
  leftOver : List String
  deriving DecidableEq, Repr

namespace Settings

def initial : Settings :=
  ⟨none, none, true, false, []⟩

/-- An option that takes a value is given something. -/
def give (settings : Settings) (flag : Flag) (given : Given) : Settings :=
  match flag with
  | .document => { settings with document := some given }
  | .output => { settings with output := some given }
  | _ => settings

def setFlag (settings : Settings) : Flag → Settings
  | .noHeader => { settings with hasHeader := false }
  | .verify => { settings with verifies := true }
  | _ => settings

def leave (settings : Settings) (word : String) : Settings :=
  { settings with leftOver := settings.leftOver ++ [word] }

def missing (settings : Settings) : List Flag :=
  Flag.required.filter fun
    | .document => settings.document.isNone
    | _ => settings.output.isNone

end Settings

inductive Command where
  | help
  | generate (request : Request)
  /-- Something is to be generated, but an option is left without a value. -/
  | valueless
  deriving DecidableEq, Repr

/-- What follows the short option for help may ask for help again and nothing else. -/
def checkLetters (letters : String) : Except UsageError Unit :=
  let others := String.ofList (letters.toList.dropWhile (· == 'h'))
  if letters.isEmpty || !others.isEmpty then .error (.valueIgnored .help others) else .ok ()

/-- Obeys the words of a command line in order. There are no settings when help is asked for. -/
def obey (settings : Settings) : List Word → Except UsageError (Option Settings)
  | [] => .ok (some settings)
  | .operand word :: rest | .unknown word :: rest => obey (settings.leave word) rest
  | .divider :: rest => obey (settings.leave "--") rest
  | .helpWith letters :: _ => do
    checkLetters letters
    return none
  | .option flag (some value) :: rest =>
    if flag.takesValue then obey (settings.give flag (.ofText value)) rest
    else .error (.valueIgnored flag value)
  | .option flag none :: rest =>
    if flag.takesValue then
      match rest with
      | .operand value :: rest => obey (settings.give flag (.value value)) rest
      | _ => .error (.valueMissing flag)
    else if flag = .help then .ok none
    else obey (settings.setFlag flag) rest

/-- The command of settings. Words that are left over are refused after all else. -/
def Settings.command (settings : Settings) : Except UsageError Command :=
  match settings.document, settings.output with
  | some document, some output =>
    if settings.leftOver.isEmpty then
      match document, output with
      | .value document, .value output =>
        .ok (.generate ⟨document, .ofText output, settings.hasHeader, settings.verifies⟩)
      | _, _ => .ok .valueless
    else .error (.leftOver settings.leftOver)
  | _, _ => .error (.missing settings.missing)

/-- What a command line asks for. -/
def parse (arguments : List String) : Except UsageError Command := do
  match ← obey .initial (← classifyAll arguments) with
  | none => return .help
  | some settings => settings.command

end TypedClient.CommandLine
