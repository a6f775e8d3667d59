import Keywordless.Check.Worker

/-!
# Progress

What is known about a run while files are being checked: one item for each file, and a label for the
run as a whole. A path that is given twice has two items, and the news about it go to the last one.
-/

namespace Keywordless

structure ProgressItem where
  path : Bytes
  status : Bytes := "queued"
  stage : Stage := .queued
  finished : Bool := false
  deriving DecidableEq, Repr

structure Progress where
  title : Bytes
  items : List ProgressItem
  label : Bytes := []
  width : Nat := 80
  frame : Nat := 0
  done : Bool := false

inductive ProgressMessage where
  | event (e : CheckEvent)
  | done
  | tick
  | resize (width : Int)
  | other

namespace Progress

def ofFiles (title : Bytes) (files : List Bytes) : Progress :=
  { title, items := files.map fun path => { path } }

def frameCount : Nat := 8

private def stageLabel : Stage → Bytes
  | .queued => []
  | .parse => "parsing"
  | .bind => "binding"
  | .entry => "entry"

def eventLabel (e : CheckEvent) : Bytes :=
  match e.status with
  | some .queued => "queued"
  | some .done => "ok"
  | some .cached => "cached"
  | some .error => "error"
  | some .working => stageLabel e.stage
  | none => []

/-- An item after an event about its file. -/
def itemAfter (item : ProgressItem) (e : CheckEvent) : ProgressItem :=
  let label := eventLabel e
  let shown := if label.isEmpty then item else { item with status := label, stage := e.stage }
  if e.status.any CheckStatus.isFinal then { shown with finished := true } else shown

def updateLast (path : Bytes) (f : ProgressItem → ProgressItem) :
    List ProgressItem → List ProgressItem
  | [] => []
  | item :: rest =>
    if rest.any (·.path == path) then item :: updateLast path f rest
    else if item.path == path then f item :: rest
    else item :: rest

/-- Takes in an event. An event without a file is about the run as a whole. -/
def hear (p : Progress) (e : CheckEvent) : Progress :=
  if e.file.isEmpty then
    let label := eventLabel e
    if label.isEmpty then p else { p with label }
  else { p with items := updateLast e.file (itemAfter · e) p.items }

def update (p : Progress) : ProgressMessage → Progress
  | .event e => p.hear e
  | .done => { p with done := true }
  | .tick => if p.done then p else { p with frame := (p.frame + 1) % frameCount }
  | .resize width => if width > 0 then { p with width := width.toNat } else p
  | .other => p

def messages (events : List CheckEvent) : List ProgressMessage := events.map .event ++ [.done]

def updateAll (p : Progress) (messages : List ProgressMessage) : Progress := messages.foldl update p

def finishedCount (p : Progress) : Nat := p.items.countP (·.finished)

def failedCount (p : Progress) : Nat := p.items.countP (·.status == Bytes.ofString "error")

end Progress

end Keywordless
