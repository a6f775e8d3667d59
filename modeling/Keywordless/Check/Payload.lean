import Keywordless.Diagnostic.Bag
import Keywordless.Text.MessagePack
import Keywordless.Trace.Timer
import Keywordless.Version.Build

/-!
# Cached results

What is kept of the check of one file: its diagnostics without the file they point into, and how
long the phases took. `Payload.restore` undoes `Payload.ofBag`.
-/

namespace Keywordless

structure CachedNote where
  start : Nat := 0
  stop : Nat := 0
  message : Bytes := []
  deriving DecidableEq, Repr

structure CachedDiagnostic where
  severity : Nat := 0
  code : Nat := 0
  message : Bytes := []
  start : Nat := 0
  stop : Nat := 0
  notes : List CachedNote := []
  deriving DecidableEq, Repr

structure CachedPhase where
  name : Bytes := []
  millis : Int := 0
  note : Bytes := []
  deriving DecidableEq, Repr

structure Payload where
  schema : Nat := 0
  compiler : Bytes := []
  path : Bytes := []
  diagnostics : List CachedDiagnostic := []
  phases : List CachedPhase := []
  deriving DecidableEq, Repr

namespace CachedDiagnostic

def ofDiagnostic (d : Diagnostic) : CachedDiagnostic :=
  { severity := d.severity.rank
    code := d.code.number
    message := d.message
    start := d.primary.start
    stop := d.primary.stop
    notes := d.notes.map fun n => ⟨n.span.start, n.span.stop, n.message⟩ }

def inFile (file : FileId) (c : CachedDiagnostic) : Diagnostic :=
  { severity := ⟨c.severity⟩
    code := ⟨c.code⟩
    message := c.message
    primary := ⟨file, c.start, c.stop⟩
    notes := c.notes.map fun n => ⟨⟨file, n.start, n.stop⟩, n.message⟩ }

end CachedDiagnostic

namespace CachedPhase

def nanosPerMilli : Nat := 1000000

def ofTime (p : PhaseTime) : CachedPhase :=
  { name := p.name, millis := (p.nanos / nanosPerMilli : Nat), note := p.note }

def time (c : CachedPhase) : PhaseTime := ⟨c.name, c.note, c.millis.toNat * nanosPerMilli⟩

end CachedPhase

namespace Payload

/-- The form of the entries that this tool writes; others are not used. -/
def currentSchema : Nat := 1

def ofBag (build : Build) (path : Bytes) (bag : Bag) (phases : List PhaseTime) : Payload :=
  { schema := currentSchema
    compiler := build.number
    path
    diagnostics := bag.items.map .ofDiagnostic
    phases := phases.map .ofTime }

def isCurrent (p : Payload) : Bool := p.schema == currentSchema

def restore (p : Payload) (file : FileId) (limit : Int) : Bag :=
  (Bag.ofLimit limit).addAll (p.diagnostics.map (·.inFile file))

/-! ### The form of an entry -/

private def notePack (n : CachedNote) : MessagePack :=
  .ofFields [("Start", .number n.start), ("End", .number n.stop), ("Msg", .text n.message)]

private def diagnosticPack (d : CachedDiagnostic) : MessagePack :=
  .ofFields [("Severity", .number d.severity), ("Code", .number d.code),
    ("Message", .text d.message), ("Start", .number d.start), ("End", .number d.stop),
    ("Notes", .list (d.notes.map notePack))]

private def phasePack (p : CachedPhase) : MessagePack :=
  .ofFields [("name", .text p.name), ("duration_ms", .number p.millis), ("note", .text p.note)]

private def timingPack (phases : List CachedPhase) : MessagePack :=
  .ofFields [("total_ms", .number ((phases.map (·.millis)).foldl (· + ·) 0)),
    ("phases", .list (phases.map phasePack))]

def encode (p : Payload) : Bytes :=
  (MessagePack.ofFields [("Schema", .number p.schema), ("Compiler", .text p.compiler),
    ("Path", .text p.path), ("Diagnostics", .list (p.diagnostics.map diagnosticPack)),
    ("Timing", timingPack p.phases)]).encode

open MessagePack (Reader Slots word whole bytes slots record)

private structure DiagnosticDraft where
  fields : CachedDiagnostic := {}
  notes : Slots CachedNote := {}

private def DiagnosticDraft.result (d : DiagnosticDraft) : CachedDiagnostic :=
  { d.fields with notes := d.notes.items }

private structure Draft where
  fields : Payload := {}
  diagnostics : Slots DiagnosticDraft := {}
  phases : Slots CachedPhase := {}

private def Draft.result (d : Draft) : Payload :=
  { d.fields with
    diagnostics := d.diagnostics.items.map (·.result)
    phases := d.phases.items }

private def part {α β : Type} (get : α → β) (put : α → β → α) (read : Reader β) : Reader α :=
  fun a v => (read (get a) v).map (put a)

private def noteReader : Reader CachedNote :=
  record {} [
    ("Start", part (·.start) (fun n v => { n with start := v }) (word 32)),
    ("End", part (·.stop) (fun n v => { n with stop := v }) (word 32)),
    ("Msg", part (·.message) (fun n v => { n with message := v }) bytes)]

private def diagnosticField {β : Type} (get : CachedDiagnostic → β)
    (put : CachedDiagnostic → β → CachedDiagnostic) (read : Reader β) : Reader DiagnosticDraft :=
  part (fun d => get d.fields) (fun d v => { d with fields := put d.fields v }) read

private def diagnosticReader : Reader DiagnosticDraft :=
  record {} [
    ("Severity", diagnosticField (·.severity) (fun d v => { d with severity := v }) (word 8)),
    ("Code", diagnosticField (·.code) (fun d v => { d with code := v }) (word 16)),
    ("Message", diagnosticField (·.message) (fun d v => { d with message := v }) bytes),
    ("Start", diagnosticField (·.start) (fun d v => { d with start := v }) (word 32)),
    ("End", diagnosticField (·.stop) (fun d v => { d with stop := v }) (word 32)),
    ("Notes", part (·.notes) (fun d v => { d with notes := v }) (slots {} noteReader))]

private def phaseReader : Reader CachedPhase :=
  record {} [
    ("name", part (·.name) (fun p v => { p with name := v }) bytes),
    ("duration_ms", part (·.millis) (fun p v => { p with millis := v }) whole),
    ("note", part (·.note) (fun p v => { p with note := v }) bytes)]

/-- The total is read but not kept, since it follows from the phases. -/
private def timingReader : Reader (Slots CachedPhase) :=
  record {} [
    ("total_ms", part (fun _ => 0) (fun p _ => p) whole),
    ("phases", slots {} phaseReader)]

private def payloadField {β : Type} (get : Payload → β) (put : Payload → β → Payload)
    (read : Reader β) : Reader Draft :=
  part (fun d => get d.fields) (fun d v => { d with fields := put d.fields v }) read

private def payloadReader : Reader Draft :=
  record {} [
    ("Schema", payloadField (·.schema) (fun p v => { p with schema := v }) (word 16)),
    ("Compiler", payloadField (·.compiler) (fun p v => { p with compiler := v }) bytes),
    ("Path", payloadField (·.path) (fun p v => { p with path := v }) bytes),
    ("Diagnostics", part (·.diagnostics) (fun d v => { d with diagnostics := v })
      (slots {} diagnosticReader)),
    ("Timing", part (·.phases) (fun d v => { d with phases := v }) timingReader)]

def decode? (entry : Bytes) : Option Payload := do
  return (← payloadReader {} (← MessagePack.decode? entry)).result

end Payload

/-- How the entries of a cache are written and read. -/
structure PayloadCodec where
  encode : Payload → Bytes
  decode? : Bytes → Option Payload

def PayloadCodec.messagePack : PayloadCodec := ⟨Payload.encode, Payload.decode?⟩

end Keywordless
