import Keywordless.Text.Numeral

/-!
# Flags

Flags are long, `--name value` or `--name=value`; a toggle needs no value and may have a letter of
its own. Flags and arguments may be mixed, and after `--` there are only arguments.
-/

namespace Keywordless

inductive FlagKind where
  | text (default : Bytes)
  | integer (default : Int)
  | toggle (letter : Option UInt8 := none)
  deriving DecidableEq, Repr

structure Flag where
  name : String
  kind : FlagKind
  purpose : Bytes
  deriving DecidableEq, Repr

inductive FlagValue where
  | text (value : Bytes)
  | integer (value : Int)
  | toggle (value : Bool)
  deriving DecidableEq, Repr

inductive FlagProblem where
  | malformed (argument : Bytes)
  | unknown (name : Bytes)
  /-- An unknown letter, with the letters from it on. -/
  | unknownLetter (letter : UInt8) (letters : Bytes)
  | needsValue (name : Bytes)
  | badInteger (flag : Flag) (value : Bytes) (cause : NumeralProblem)
  | badToggle (flag : Flag) (value : Bytes) (cause : NumeralProblem)

namespace Flag

def isToggle (f : Flag) : Bool :=
  match f.kind with
  | .toggle _ => true
  | _ => false

def letter? (f : Flag) : Option UInt8 :=
  match f.kind with
  | .toggle letter => letter
  | _ => none

def usage (f : Flag) : Bytes :=
  (match f.letter? with
    | some letter => [0x2D, letter, 0x2C, 0x20]
    | none => []) ++ "--" ++ Bytes.ofString f.name

def read (f : Flag) (value : Bytes) : Except FlagProblem FlagValue :=
  match f.kind with
  | .text _ => .ok (.text value)
  | .integer _ => ((Numeral.integer value).map .integer).mapError (.badInteger f value)
  | .toggle _ => ((Numeral.truth value).map .toggle).mapError (.badToggle f value)

end Flag

private def FlagProblem.badValue (f : Flag) (value reader : Bytes) (cause : NumeralProblem) :
    Bytes :=
  "invalid argument " ++ Quoted.text value ++ " for " ++ Quoted.text f.usage ++ " flag: strconv." ++
    reader ++ ": parsing " ++ Quoted.text value ++ ": " ++ cause.text

/-- The character that stands for an unknown letter. A byte beyond ASCII is read as a character,
and the first byte of that character's encoding is what is shown. -/
private def FlagProblem.shownLetter (letter : UInt8) : Char :=
  Char.ofNat (((Utf8.encode (Char.ofNat letter.toNat)).headD letter).toNat)

def FlagProblem.message : FlagProblem → Bytes
  | malformed argument => "bad flag syntax: " ++ argument
  | unknown name => "unknown flag: --" ++ name
  | unknownLetter letter letters =>
    "unknown shorthand flag: " ++ Quoted.char (shownLetter letter) ++ " in -" ++ letters
  | needsValue name => "flag needs an argument: --" ++ name
  | badInteger f value cause => badValue f value "ParseInt" cause
  | badToggle f value cause => badValue f value "ParseBool" cause

abbrev FlagTable := List Flag

namespace FlagTable

def find? (table : FlagTable) (name : Bytes) : Option Flag :=
  List.find? (fun f => Bytes.ofString f.name == name) table

def findLetter? (table : FlagTable) (letter : UInt8) : Option Flag :=
  List.find? (fun f => f.letter? == some letter) table

end FlagTable

/-- Flags that were given, the last one first, and the arguments beside them. -/
structure FlagSettings where
  given : List (Flag × FlagValue) := []
  arguments : List Bytes := []

namespace FlagSettings

private def dash : UInt8 := 0x2D

private def equals : UInt8 := 0x3D

def set (s : FlagSettings) (f : Flag) (value : Bytes) : Except FlagProblem FlagSettings := do
  return { s with given := (f, ← f.read value) :: s.given }

private def splitValue (text : Bytes) : Bytes × Option Bytes :=
  match text.dropWhile (· != equals) with
  | _ :: value => (text.takeWhile (· != equals), some value)
  | [] => (text, none)

/-- The settings of a test runner, which may be passed on to the tool, are not for it to read. -/
private def isForTests (letters : Bytes) : Bool := Bytes.startsWith letters "test."

private def readLetters (table : FlagTable) (s : FlagSettings) :
    Bytes → Except FlagProblem FlagSettings
  | [] => .ok s
  | letter :: rest =>
    if isForTests (letter :: rest) then .ok s
    else
      match table.findLetter? letter with
      | none => .error (.unknownLetter letter (letter :: rest))
      | some f =>
        match rest with
        | 0x3D :: b :: value => s.set f (b :: value)
        | _ => do readLetters table (← s.set f "true") rest

/-- Reads what a command was called with. A flag whose value comes next is `waiting`. -/
private def readFrom (table : FlagTable) (s : FlagSettings) :
    Option Flag → List Bytes → Except FlagProblem FlagSettings
  | none, [] => .ok s
  | some f, [] => .error (.needsValue f.name)
  | some f, value :: rest => do readFrom table (← s.set f value) none rest
  | none, argument :: rest =>
    match argument with
    | [0x2D, 0x2D] => .ok { s with arguments := s.arguments ++ rest }
    | 0x2D :: 0x2D :: body =>
      let (name, value?) := splitValue body
      if name.isEmpty || name.head? == some dash then .error (.malformed argument)
      else
        match table.find? name, value? with
        | none, _ => .error (.unknown name)
        | some f, some value => do readFrom table (← s.set f value) none rest
        | some f, none =>
          if f.isToggle then do readFrom table (← s.set f "true") none rest
          else readFrom table s (some f) rest
    | 0x2D :: letter :: letters => do
      readFrom table (← readLetters table s (letter :: letters)) none rest
    | _ => readFrom table { s with arguments := s.arguments ++ [argument] } none rest

def ofArguments (table : FlagTable) (arguments : List Bytes) : Except FlagProblem FlagSettings :=
  readFrom table {} none arguments

def value? (s : FlagSettings) (f : Flag) : Option FlagValue :=
  (s.given.find? fun (g, _) => g.name == f.name).map Prod.snd

def isGiven (s : FlagSettings) (f : Flag) : Bool := (s.value? f).isSome

def text (s : FlagSettings) (f : Flag) : Bytes :=
  match s.value? f, f.kind with
  | some (.text value), _ => value
  | _, .text default => default
  | _, _ => []

def integer (s : FlagSettings) (f : Flag) : Int :=
  match s.value? f, f.kind with
  | some (.integer value), _ => value
  | _, .integer default => default
  | _, _ => 0

def toggle (s : FlagSettings) (f : Flag) : Bool := s.value? f == some (.toggle true)

end FlagSettings

end Keywordless
