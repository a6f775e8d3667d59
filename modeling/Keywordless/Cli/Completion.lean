import Keywordless.Cli.Command

/-!
# Completion

A shell asks the tool what may stand in place of the last word of a command line that is still
being typed. The answer is a list of choices, and whether file names are choices too. Commands are
completed at the start, flags where a word begins with a dash, and nothing is known of values.
-/

namespace Keywordless

inductive Shell where
  | bash
  | fish
  | powershell
  | zsh
  deriving DecidableEq, Repr

namespace Shell

def all : List Shell := [bash, fish, powershell, zsh]

def name : Shell → Bytes
  | bash => "bash"
  | fish => "fish"
  | powershell => "powershell"
  | zsh => "zsh"

end Shell

structure Choice where
  text : Bytes
  purpose : Bytes
  deriving DecidableEq, Repr

def Choice.matching (word : Bytes) (choices : List Choice) : List Choice :=
  choices.filter fun c => Bytes.startsWith c.text word

inductive CommandPlace where
  | tool
  | command (command : Command)
  | shell (shell : Shell)
  /-- The command with which a shell asks. It is nobody's choice, and its flags are not read. -/
  | completer
  deriving DecidableEq, Repr

namespace CommandPlace

def name : CommandPlace → Bytes
  | tool => "nkl"
  | command c => c.name
  | shell s => s.name
  | completer => Invocation.completeWord

private def commandsByName : List Command :=
  Command.all.mergeSort fun a b => !Bytes.lt b.name a.name

def children : CommandPlace → List CommandPlace
  | tool => commandsByName.map command
  | command .completion => Shell.all.map shell
  | _ => []

def child? (place : CommandPlace) (word : Bytes) : Option CommandPlace :=
  if place = tool && (Invocation.asksCompletion? word).isSome then some completer
  else place.children.find? fun child => child.name == word

def choice : CommandPlace → Choice
  | tool => ⟨tool.name, []⟩
  | command c => ⟨c.name, c.purpose⟩
  | shell s => ⟨s.name, "Generate the autocompletion script for " ++ s.name⟩
  | completer => ⟨completer.name, []⟩

def inheritedFlags : CommandPlace → FlagTable
  | tool => []
  | _ => Flag.global

def ownFlags : CommandPlace → FlagTable
  | tool => Flag.global ++ [.help, .version]
  | command c => c.flags ++ [.helpFor c.name]
  | shell s => [.noDescriptions, .helpFor s.name]
  | completer => [.helpFor completer.name]

def table (place : CommandPlace) : FlagTable := place.inheritedFlags ++ place.ownFlags

/-- The flag with a name. A name of one byte is a letter. -/
def flag? (place : CommandPlace) : Bytes → Option Flag
  | [letter] => place.table.findLetter? letter
  | name => place.table.find? name

private def step (place : CommandPlace) (arguments : List Bytes) : CommandPlace × List Bytes :=
  match Invocation.firstWord? false arguments with
  | none => (place, arguments)
  | some word =>
    match place.child? word with
    | none => (place, arguments)
    | some child => (child, Invocation.without word false arguments)

/-- The place that arguments lead to, and the arguments that are left there. No place is more than
two steps away. There is none if a word is left at the tool itself. -/
def find? (arguments : List Bytes) : Option (CommandPlace × List Bytes) :=
  let (first, rest) := step tool arguments
  if first = tool && (Invocation.firstWord? false rest).isSome then none else step first rest

def argumentChoices? (arguments : List Bytes) (word : Bytes) :
    CommandPlace → Option (List Choice)
  | command .help =>
    match find? arguments with
    | none => some []
    | some (topic, _) => some (Choice.matching word (topic.children.map choice))
  | command .completion | shell _ => some []
  | _ => none

end CommandPlace

inductive CompletionProblem where
  | noCommand (arguments : List Bytes)
  | badFlag (arguments : List Bytes) (problem : FlagProblem)
  | unknownFlag (place : CommandPlace) (name : Bytes)

private def CompletionProblem.list (arguments : List Bytes) : Bytes :=
  "[" ++ Bytes.join " " arguments ++ "]"

def CompletionProblem.message : CompletionProblem → Bytes
  | noCommand arguments => "unable to find a command for arguments: " ++ list arguments
  | badFlag arguments problem =>
    "Error while parsing flags from args " ++ list arguments ++ ": " ++ problem.message
  | unknownFlag place name =>
    "Subcommand '" ++ place.name ++ "' does not support flag '" ++ name ++ "'"

structure Completion where
  choices : List Choice := []
  files : Bool := true

inductive Typing where
  | word (arguments : List Bytes) (word : Bytes)
  | value (arguments : List Bytes) (word : Bytes)
  | unknown (arguments : List Bytes) (word : Bytes) (flag : Bytes)

namespace Typing

def arguments : Typing → List Bytes
  | word arguments _ | value arguments _ | unknown arguments _ _ => arguments

def text : Typing → Bytes
  | word _ text | value _ text | unknown _ text _ => text

def isValue : Typing → Bool
  | value _ _ => true
  | _ => false

private def isDashed (argument : Bytes) : Bool := argument.head? == some 0x2D

private def hasEquals (argument : Bytes) : Bool := argument.any (· == 0x3D)

/-- A dash and at least one more byte, which is no dash, or two dashes and at least one more. -/
private def isFlag : Bytes → Bool
  | [0x2D, 0x2D] => false
  | 0x2D :: _ :: _ => true
  | _ => false

/-- The name in a flag: what follows two dashes, or the last letter after one. -/
private def flagName (argument : Bytes) : Bytes :=
  (Bytes.dropLead? "--" argument).getD (argument.drop (argument.length - 1))

private def waiting? (arguments : List Bytes) : Option Bytes :=
  (arguments.getLast?.filter fun a => isFlag a && !hasEquals a).map flagName

/-- What is being typed at a place. A flag stands before its value, or in front of an equals sign
in the same word. -/
def ofWord (place : CommandPlace) (arguments : List Bytes) (typed : Bytes) : Typing :=
  if place = .completer || (isDashed typed && !hasEquals typed) then .word arguments typed
  else
    let attached := isDashed typed
    let name := if attached then flagName (typed.takeWhile (· != 0x3D)) else []
    let text := if attached then (typed.dropWhile (· != 0x3D)).drop 1 else typed
    if !name.isEmpty then
      match place.flag? name with
      | none => .unknown arguments typed name
      | some _ => .value arguments text
    else
      match waiting? arguments with
      | none => .word arguments text
      | some name =>
        match place.flag? name with
        | none => .unknown arguments typed name
        | some f =>
          if f.isToggle && !attached then .word arguments text
          else .value arguments.dropLast text

end Typing

namespace Completion

/-- Whether flags may still be given: they may not after `--`, where one more `--` is an argument
like any other. -/
private def flagsOpen (place : CommandPlace) (arguments : List Bytes) (count : Nat) : Bool :=
  match FlagSettings.ofArguments place.table (arguments ++ [("--" : Bytes)]) with
  | .ok s => s.arguments.length ≤ count
  | .error _ => true

private def settings (place : CommandPlace) (arguments : List Bytes) :
    Except CompletionProblem FlagSettings :=
  if place = .completer then .ok { arguments }
  else (FlagSettings.ofArguments place.table arguments).mapError (.badFlag arguments)

private def flagChoices (f : Flag) : List Choice :=
  ⟨"--" ++ Bytes.ofString f.name, f.purpose⟩ ::
    (f.letter?.map fun letter => (⟨[0x2D, letter], f.purpose⟩ : Choice)).toList

private def openFlags (place : CommandPlace) (s : FlagSettings) : List Flag :=
  let byName (flags : FlagTable) : List Flag :=
    flags.mergeSort fun a b => !Bytes.lt (Bytes.ofString b.name) (Bytes.ofString a.name)
  (byName place.inheritedFlags ++ byName place.ownFlags).filter fun f => !s.isGiven f

private def words (place : CommandPlace) (typing : Typing) (s : FlagSettings) (isOpen : Bool) :
    Completion :=
  let children := if typing.isValue || !s.arguments.isEmpty then [] else place.children
  let found : Completion := {
    choices := Choice.matching typing.text (children.map CommandPlace.choice)
    files := children.isEmpty }
  if typing.isValue && isOpen then found
  else
    match place.argumentChoices? s.arguments typing.text with
    | none => found
    | some more => { choices := found.choices ++ more, files := false }

/-- Completes a word after some arguments. Help and the version end a command line. -/
def complete (arguments : List Bytes) (word : Bytes) : Except CompletionProblem Completion := do
  let some (place, rest) := CommandPlace.find? arguments | throw (.noCommand arguments)
  let typing := Typing.ofWord place rest word
  let s ← settings place typing.arguments
  let isOpen := place = .completer || flagsOpen place typing.arguments s.arguments.length
  if let .unknown _ _ flag := typing then
    if isOpen then throw (.unknownFlag place flag)
  if s.isGiven .help || s.isGiven .version then return { files := false }
  if !typing.isValue && isOpen && typing.text.head? == some 0x2D &&
      !typing.text.any (· == 0x3D) then
    let choices := (openFlags place s).flatMap flagChoices
    return { choices := Choice.matching typing.text choices, files := false }
  return words place typing s isOpen

private def directive (c : Completion) : Bytes × Bytes :=
  if c.files then ("0", "ShellCompDirectiveDefault") else ("4", "ShellCompDirectiveNoFileComp")

private def line (described : Bool) (c : Choice) : Bytes :=
  (if described then c.text ++ [0x09] ++ c.purpose else c.text) ++ [Bytes.newline]

def answer (c : Completion) (described : Bool) : Bytes :=
  c.choices.flatMap (line described) ++ ":" ++ c.directive.1 ++ [Bytes.newline]

def remark (c : Completion) : Bytes :=
  "Completion ended with directive: " ++ c.directive.2 ++ [Bytes.newline]

end Completion

end Keywordless
