import Keywordless.Text.Blank
import Keywordless.Text.Quoted

/-!
# Switches

A switch is on, off, or left to whether the output is a terminal.
-/

namespace Keywordless

inductive Switch where
  | auto
  | on
  | off
  deriving DecidableEq, Repr

namespace Switch

def name : Switch → Bytes
  | auto => "auto"
  | on => "on"
  | off => "off"

structure Unknown where
  flag : Bytes
  value : Bytes

def Unknown.message (e : Unknown) : Bytes :=
  "invalid --" ++ e.flag ++ " value " ++ Quoted.text e.value ++ " (expected auto|on|off)"

/-- Reads the value of a flag, in capitals or not and with blanks around it. -/
def ofText (flag value : Bytes) : Except Unknown Switch :=
  let word := Bytes.trim (Bytes.lower value)
  if word.isEmpty then .ok auto
  else
    match [auto, on, off].find? fun s => s.name == word with
    | some s => .ok s
    | none => .error ⟨flag, value⟩

def isEnabled (terminal : Bool) : Switch → Bool
  | auto => terminal
  | on => true
  | off => false

end Switch

end Keywordless
