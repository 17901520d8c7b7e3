import Crosscheck.Number.Numeral
/-!
# Arguments of the command line

Reads the words of a command line. An option is named by two dashes and a word, which may be cut
short as long as only one option begins so; its argument follows it, or is joined to it by an equals
sign. A word with one dash in front is no option if it reads as a negative number or holds a space.
-/

namespace Crosscheck.Command

open Crosscheck.Text

/-- An option. -/
inductive Switch
  | help
  | config
  | seedPath
  | resultsDirectory
  | workers
  | timeout
  | noMutation
  | debug
  | logFile
  deriving DecidableEq, Repr

namespace Switch

/-- All options. -/
def all : List Switch :=
  [.help, .config, .seedPath, .resultsDirectory, .workers, .timeout, .noMutation, .debug, .logFile]

theorem mem_all (switch : Switch) : switch ∈ all := by cases switch <;> decide

/-- The name of an option. -/
def name : Switch → String
  | .help => "--help"
  | .config => "--config"
  | .seedPath => "--seed-path"
  | .resultsDirectory => "--results-dir"
  | .workers => "--workers"
  | .timeout => "--timeout"
  | .noMutation => "--no-mutation"
  | .debug => "--debug"
  | .logFile => "--log-file"

/-- The short name of the option that asks for help, the only one with a short name. -/
def shortHelp : String := "-h"

/-- Whether an option takes an argument. -/
def takesArgument : Switch → Bool
  | .help | .noMutation | .debug => false
  | _ => true

/-- The option of a full name. -/
def ofName? (s : String) : Option Switch :=
  if s == shortHelp then some .help else all.find? (·.name == s)

/-- The options whose names begin with a text. -/
def beginningWith (cs : List Char) : List Switch :=
  all.filter fun switch => cs.isPrefixOf switch.name.toList

end Switch

/-- Why a command does nothing. -/
inductive Stop
  /-- It was asked for help. -/
  | help
  /-- Its command line cannot be read. -/
  | misuse
  deriving DecidableEq, Repr

/-- The exit status of a command that does nothing. -/
def Stop.status : Stop → Int
  | .help => 0
  | .misuse => 2

/-! ## Words -/

/-- What a word is taken for. -/
inductive Word
  | plain
  /-- Two dashes, after which no word is an option. -/
  | divider
  /-- An option, and the argument that is joined to it. -/
  | switch (switch : Switch) (argument : Option String)
  /-- The short name of help with letters joined to it. -/
  | helps (letters : List Char)
  | unknown
  deriving DecidableEq, Repr

/-- Whether a character is a digit of any script. -/
def isDigit (c : Char) : Bool := (digitValue? c).isSome

/-- Whether a word reads as a negative number. A line feed at its end does not matter. -/
def isNegativeNumber : List Char → Bool
  | '-' :: rest =>
    let rest := if rest.getLast? == some '\n' then rest.dropLast else rest
    match rest.dropWhile isDigit with
    | [] => rest != []
    | '.' :: fraction => fraction != [] && fraction.all isDigit
    | _ => false
  | _ => false

/-- A text cut at its first equals sign. -/
def cutAtEquals (cs : List Char) : List Char × Option String :=
  (cs.takeWhile (· != '='),
    match cs.dropWhile (· != '=') with
    | [] => none
    | _ :: argument => some (String.ofList argument))

/-- A word with a dash in front that names no option in full. -/
def wordOfPart (cs : List Char) : Except Stop Word :=
  let (front, argument) := cutAtEquals cs
  let candidates := if ['-', '-'].isPrefixOf cs then Switch.beginningWith front else []
  match candidates with
  | [switch] => .ok (.switch switch argument)
  | _ :: _ => .error .misuse
  | [] =>
    if Switch.shortHelp.toList.isPrefixOf cs then .ok (.helps (cs.drop 2))
    else if isNegativeNumber cs || cs.contains ' ' then .ok .plain
    else .ok .unknown

/-- What a word is taken for. -/
def wordOf (s : String) : Except Stop Word :=
  let cs := s.toList
  if cs.head? != some '-' then .ok .plain
  else
    match Switch.ofName? s with
    | some switch => .ok (.switch switch none)
    | none =>
      if cs.length == 1 then .ok .plain
      else
        match cutAtEquals cs with
        | (front, some argument) =>
          match Switch.ofName? (String.ofList front) with
          | some switch => .ok (.switch switch (some argument))
          | none => wordOfPart cs
        | (_, none) => wordOfPart cs

/-- Words with what they are taken for. -/
def wordsOf : List String → Except Stop (List (String × Word))
  | [] => .ok []
  | s :: rest =>
    if s == "--" then .ok ((s, .divider) :: rest.map fun s => (s, .plain))
    else do
      let word ← wordOf s
      return (s, word) :: (← wordsOf rest)

/-! ## Arguments -/

/-- What a command line says. -/
structure Arguments where
  config : Option String
  seedPath : Option String
  resultsDirectory : Option String
  workers : Option Int
  timeout : Option Binary64
  noMutation : Bool
  debug : Bool
  logFile : Option String
  /-- Whether there are words that mean nothing. -/
  hasStrayWords : Bool

namespace Arguments

/-- An empty command line. -/
def empty : Arguments := ⟨none, none, none, none, none, false, false, none, false⟩

/-- Says what an option without an argument says. -/
def turnOn (arguments : Arguments) : Switch → Except Stop Arguments
  | .help => .error .help
  | .noMutation => .ok { arguments with noMutation := true }
  | .debug => .ok { arguments with debug := true }
  | _ => .error .misuse

/-- Says what an option with an argument says. -/
def set (arguments : Arguments) (switch : Switch) (argument : String) :
    Except Stop Arguments :=
  match switch with
  | .config => .ok { arguments with config := some argument }
  | .seedPath => .ok { arguments with seedPath := some argument }
  | .resultsDirectory => .ok { arguments with resultsDirectory := some argument }
  | .logFile => .ok { arguments with logFile := some argument }
  | .workers =>
    match integerOf? argument with
    | some n => .ok { arguments with workers := some n }
    | none => .error .misuse
  | .timeout =>
    match doubleOf? argument with
    | some x => .ok { arguments with timeout := some x }
    | none => .error .misuse
  | _ => .error .misuse

/-- Why a command stops at the short name of help with letters joined to it: every letter that asks
for help again is passed over. -/
def stopOfLetters (letters : List Char) : Stop :=
  match letters.dropWhile (· == 'h') with
  | '-' :: _ | '=' :: _ => .misuse
  | _ => .help

/-- Reads words after what was said before. -/
def read (arguments : Arguments) : List (String × Word) → Except Stop Arguments
  | [] => .ok arguments
  | (_, .switch switch (some argument)) :: rest => do
    if switch.takesArgument then (← arguments.set switch argument).read rest else throw .misuse
  | (_, .switch switch none) :: rest => do
    if switch.takesArgument then
      match rest with
      | (argument, .plain) :: rest => (← arguments.set switch argument).read rest
      | _ => throw .misuse
    else (← arguments.turnOn switch).read rest
  | (_, .helps letters) :: _ => .error (stopOfLetters letters)
  | (_, _) :: rest => { arguments with hasStrayWords := true }.read rest

/-- Reads a command line, which has to name a configuration. -/
def ofWords (words : List String) : Except Stop Arguments := do
  let arguments ← empty.read (← wordsOf words)
  if arguments.hasStrayWords || arguments.config.isNone then throw .misuse
  return arguments

end Arguments

end Crosscheck.Command
