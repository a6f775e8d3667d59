import Keywordless.Diagnostic.Code
import Keywordless.Source.Span

/-!
# Diagnostics

A problem in a source file: how bad it is, its code, a message, the place it is about, and notes on
related places.
-/

namespace Keywordless

/-- Severities by rank; a higher rank is worse. -/
structure Severity where
  rank : Nat
  deriving DecidableEq, Repr, Inhabited

namespace Severity

def warning : Severity := ⟨1⟩
def error : Severity := ⟨2⟩

def name (s : Severity) : Bytes :=
  match s.rank with
  | 0 => "INFO"
  | 1 => "WARNING"
  | 2 => "ERROR"
  | _ => "UNKNOWN"

end Severity

structure Note where
  span : Span
  message : Bytes
  deriving DecidableEq, Repr

structure Diagnostic where
  severity : Severity
  code : Code
  message : Bytes
  primary : Span
  notes : List Note := []
  deriving DecidableEq, Repr

namespace Diagnostic

def error (code : Code) (primary : Span) (message : Bytes) : Diagnostic :=
  { severity := .error, code, message, primary }

def isError (d : Diagnostic) : Bool := d.severity.rank ≥ Severity.error.rank

def isWarning (d : Diagnostic) : Bool := d.severity.rank ≥ Severity.warning.rank

end Diagnostic

end Keywordless
