import Keywordless.Trace.Event

/-!
# The trace log

A log numbers the events and spans of a run and keeps the events that its level lets through.
-/

namespace Keywordless

structure TraceLog where
  level : TraceLevel := .off
  events : List TraceEvent := []
  seq : Nat := 0
  spans : Nat := 0
  now : Int := 0

/-- A span that was opened. One that the level held back has the number zero. -/
structure TraceSpan where
  id : Nat := 0
  parent : Nat := 0
  scope : TraceScope := .command
  name : Bytes := []
  since : Int := 0
  deriving Inhabited

namespace TraceLog

/-- Appends an event under the next number, if the level lets it through. -/
def emit (log : TraceLog) (kind : TraceKind) (span : TraceSpan) (detail : Bytes) (nanos : Int) :
    TraceLog :=
  if log.level.emits span.scope then
    { log with
      seq := log.seq + 1
      events := log.events ++ [{
        seq := log.seq + 1, kind, scope := span.scope, span := span.id, parent := span.parent
        name := span.name, detail, micros := log.now.fdiv 1000, nanos }] }
  else log

def opened (log : TraceLog) (scope : TraceScope) (name : Bytes) (parent : Nat) :
    TraceSpan × TraceLog :=
  if log.level.emits scope then
    let span : TraceSpan := ⟨log.spans + 1, parent, scope, name, log.now⟩
    (span, { log with spans := log.spans + 1 }.emit .opening span [] 0)
  else ({}, log)

def closed (log : TraceLog) (span : TraceSpan) (detail : Bytes) : TraceLog :=
  if span.id = 0 then log else log.emit .closing span detail (log.now - span.since)

def point (log : TraceLog) (scope : TraceScope) (name detail : Bytes) (parent : Nat) : TraceLog :=
  log.emit .point { scope, name, parent } detail 0

end TraceLog

end Keywordless
