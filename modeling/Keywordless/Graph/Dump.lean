import Keywordless.Graph.Query
import Keywordless.Source.FileSet
import Keywordless.Text.Yaml

/-!
# Dumps of the bound graph

A dump is the tree below a node, with names and types as text. Names are not followed; they show
the position of their target.
-/

namespace Keywordless

/-- What a dump says about one node. Empty texts and a zero target are left out. -/
structure DumpHead where
  id : Nat
  kind : Bytes
  name : Bytes := []
  type : Bytes := []
  denotes : Bytes := []
  returns : Bytes := []
  value : Bytes := []
  member : Bytes := []
  target : Nat := 0
  at_ : Bytes := []

inductive Dump where
  | node (head : DumpHead) (children : List Dump)

structure DumpView where
  graph : Graph
  types : TypeStore
  files : Option FileSet
  /-- The name of a member of values of a type, if it has one; without this, members are shown by
  their numbers. -/
  memberName : Option (TyId → Int → Except Fault (Option Bytes))

namespace DumpView

def location (v : DumpView) (span : Span) : Bytes :=
  match v.files.bind (·.get? span.file) with
  | some f => f.location span
  | none => span.text

def value (v : DumpView) : Value → Except Fault Bytes
  | .type id => return "type " ++ (← v.types.format id)
  | .procedure id => return "procedure #" ++ Bytes.ofNat id.index
  | other => return other.text

def typeText (v : DumpView) (type : TyId) : Except Fault Bytes :=
  if type.isIssued then v.types.format type else return []

def memberText (v : DumpView) (operand : NodeId) (index : Int) : Except Fault Bytes :=
  match v.memberName with
  | none => return Bytes.ofInt index
  | some nameOf => return (← nameOf (← v.graph.typeOf operand) index).getD (Bytes.ofInt index)

/-- What is said about a node, and the nodes that are shown below it. -/
def describe (v : DumpView) (id : NodeId) : Except Fault (DumpHead × List NodeId) := do
  let node ← v.graph.get id
  let shape := node.shape
  let type ← v.typeText shape.ownType
  let head : DumpHead :=
    { id := id.index, kind := shape.kind.title, name := shape.label, type,
      at_ := v.location node.span }
  match shape with
  | .block exprs _ => return (head, exprs)
  | .cast _ sources => return (head, sources)
  | .constant _ _ value => return ({ head with value := ← v.value value }, shape.edges)
  | .declaration _ _ init => return (head, init.toList)
  | .typeLiteral denoted _ => return ({ head with denotes := ← v.types.format denoted }, [])
  | .name target =>
    let type ← v.types.format (← v.graph.typeOf id)
    let label := (← v.graph.get target).shape.label
    return ({ head with target := target.index, type, name := label }, [])
  | .member operand index _ =>
    return ({ head with member := ← v.memberText operand index }, [operand])
  | .call operand args _ => return (head, operand :: args)
  | .procedure params returns _ body =>
    return ({ head with returns := ← v.types.format returns }, params ++ [body])
  | .invalid | .unlisted => return (head, [])

/-- `dump` along at most `steps` edges. -/
def dumpWithin (v : DumpView) : Nat → NodeId → Except Fault Dump
  | 0, _ => .error .endless
  | steps + 1, id => do
    let (head, children) ← v.describe id
    return .node head (← children.mapM (dumpWithin v steps))

def dump (v : DumpView) (id : NodeId) : Except Fault Dump := v.dumpWithin (id.index + 1) id

end DumpView

namespace DumpHead

private def labelled (label : String) (text : Bytes) : Bytes := Bytes.enclosed label text []

def line (h : DumpHead) (depth : Nat) : Bytes :=
  Bytes.spaces (2 * depth) ++ "#" ++ Bytes.ofNat h.id ++ " " ++ h.kind ++ labelled " " h.name ++
    labelled " ." h.member ++
    labelled " -> #" (if h.target = 0 then [] else Bytes.ofNat h.target) ++
    labelled " : " h.type ++ labelled " = " h.denotes ++ labelled " = " h.value ++
    labelled " returns " h.returns ++ " @" ++ h.at_ ++ [Bytes.newline]

end DumpHead

namespace Dump

mutual

def pretty (depth : Nat) : Dump → Bytes
  | node head children => head.line depth ++ prettyAll (depth + 1) children

private def prettyAll (depth : Nat) : List Dump → Bytes
  | [] => []
  | d :: rest => pretty depth d ++ prettyAll depth rest

end

mutual

def json : Dump → Json
  | node h children => .record [
    .field "id" (.nat h.id),
    .field "kind" (.str h.kind),
    .optionalStr "name" h.name,
    .optionalStr "type" h.type,
    .optionalStr "denotes" h.denotes,
    .optionalStr "returns" h.returns,
    .optionalStr "value" h.value,
    .optionalStr "member" h.member,
    .optionalNat "target" h.target,
    .field "at" (.str h.at_),
    .fieldIf (!children.isEmpty) "children" (.arr (jsonAll children))]

private def jsonAll : List Dump → List Json
  | [] => []
  | d :: rest => json d :: jsonAll rest

end

end Dump

inductive DumpFormat where
  | pretty
  | json
  | yaml
  deriving DecidableEq, Repr

/-- The format of a name; every other name means the line format. -/
def DumpFormat.ofName (name : Bytes) : DumpFormat :=
  if name == ("json" : Bytes) then json else if name == ("yaml" : Bytes) then yaml else pretty

def Dump.text (d : Dump) : DumpFormat → Bytes
  | .pretty => d.pretty 0
  | .json => d.json.document
  | .yaml => Yaml.document d.json

end Keywordless
