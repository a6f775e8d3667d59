import Keywordless.Toml.Form

/-!
# TOML tables

Statements fill a tree of tables. A key that a statement only implies, as the first part of a dotted
key, may be written out once later; every other key may be given only once. A list takes the place
of an earlier value of its key.
-/

namespace Keywordless

namespace Toml

inductive Value where
  | text (value : Bytes)
  | integer (value : Int)
  | float
  | truth (value : Bool)
  | moment
  | list (items : List Value)
  | table (members : List (Bytes × Value))
  | rows (rows : List (List (Bytes × Value)))

abbrev Table := List (Bytes × Value)

namespace Table

def put : Table → Bytes → Value → Table
  | [], name, value => [(name, value)]
  | (n, old) :: rest, name, value =>
    if n = name then (name, value) :: rest else (n, old) :: put rest name value

/-- Changes the table that a key leads to. In a list of rows the last row counts. -/
def changeAt (change : Table → Option Table) : Key → Table → Option Table
  | [], t => change t
  | name :: rest, t =>
    match t.lookup name with
    | some (.table inner) => do return t.put name (.table (← changeAt change rest inner))
    | some (.rows rows) =>
      match rows.getLast? with
      | some last => do return t.put name (.rows (rows.dropLast ++ [← changeAt change rest last]))
      | none => none
    | _ => none

def tableAt? : Key → Table → Option Table
  | [], t => some t
  | name :: rest, t =>
    match t.lookup name with
    | some (.table inner) => tableAt? rest inner
    | some (.rows rows) => rows.getLast?.bind (tableAt? rest)
    | _ => none

end Table

structure Draft where
  root : Table := []
  implied : List Key := []
  lists : List Key := []
  order : List Key := []

namespace Draft

private def imply (d : Draft) (key : Key) : Draft := { d with implied := key :: d.implied }

private def unimply (d : Draft) (key : Key) : Draft :=
  { d with implied := d.implied.filter (· != key) }

private def wrote (d : Draft) (key : Key) : Draft := { d with order := d.order ++ [key] }

private def noteKind (d : Draft) (key : Key) (isList : Bool) : Draft :=
  let others := d.lists.filter (· != key)
  { d with lists := if isList then key :: others else others }

private def set? (d : Draft) (context : Key) (name : Bytes) (value : Value) : Option Draft := do
  let table ← Table.tableAt? context d.root
  let key := context ++ [name]
  let write : Option Draft := do
    return { d with root := ← d.root.changeAt (fun t => some (t.put name value)) context }
  match table.lookup name with
  | none => write
  | some _ =>
    if d.lists.contains key then return (← write).unimply key
    else if d.implied.contains key then return d.unimply key
    else none

/-- Makes the tables that a key leads through, where they are missing. -/
private def lead? : Draft → Key → Key → Option Draft
  | d, _, [] => some d
  | d, done, name :: rest => do
    let table ← Table.tableAt? done d.root
    let key := done ++ [name]
    match table.lookup name with
    | none =>
      let root ← d.root.changeAt (fun t => some (t.put name (.table []))) done
      lead? ({ d with root }.imply key) key rest
    | some _ =>
      let _ ← Table.tableAt? key d.root
      lead? d key rest

private def open? (d : Draft) (key : Key) (asRow : Bool) : Option Draft := do
  let context := key.dropLast
  let name ← key.getLast?
  let d ← d.lead? [] context
  if !asRow then d.set? context name (.table [])
  else
    let addRow (t : Table) : Option Table :=
      match t.lookup name with
      | none => some (t.put name (.rows [[]]))
      | some (.rows rows) => some (t.put name (.rows (rows ++ [[]])))
      | some _ => none
    return { d with root := ← d.root.changeAt addRow context }

/-- Opens the tables of a dotted key below `context`; only the last part is left out. -/
private def openDotted? : Draft → Key → Key → Option Draft
  | d, context, name :: next :: rest => do
    let key := context ++ [name]
    openDotted? (← (d.imply key).open? key false) key (next :: rest)
  | d, _, _ => some d

/-- The key whose kind a value of `name` settles; an empty name stands for its table. -/
private def kindKey (context : Key) (name : Bytes) : Key :=
  if !name.isEmpty then context ++ [name] else if context.isEmpty then [[]] else context

mutual

private def value? (d : Draft) (context : Key) (name : Bytes) (inList : Bool) :
    Form → Option (Value × Draft)
  | .text value => some (.text value, d)
  | .integer value => some (.integer value, d)
  | .float => some (.float, d)
  | .truth value => some (.truth value, d)
  | .moment => some (.moment, d)
  | .list items => do
    let (values, d) ← values? (d.noteKind (kindKey context name) true) context name items
    return (.list values, d)
  | .inline members => do
    let key := context ++ [name]
    let (table, d) ← members? (← (d.imply key).open? key inList) key [] members
    return (.table table, d)

private def values? (d : Draft) (context : Key) (name : Bytes) :
    List Form → Option (List Value × Draft)
  | [] => some ([], d)
  | item :: rest => do
    let (value, d) ← value? d context name true item
    let (values, d) ← values? d context name rest
    return (value :: values, d)

/-- Fills the table at `context` with members. The table that is returned has each value under the
last part of its key; it counts where a list holds it or takes the place of the other. -/
private def members? (d : Draft) (context : Key) (table : Table) :
    List (Key × Form) → Option (Table × Draft)
  | [] => some (table, d)
  | (key, form) :: rest => do
    let inner := context ++ key.dropLast
    let name := key.getLast?.getD []
    let d := (← d.openDotted? context key).wrote (inner ++ [name])
    let (value, d) ← value? d inner name false form
    let d := (← d.set? inner name value).noteKind (kindKey inner name) (value matches .list _)
    members? d context (table.put name value) rest

end

private def step? (d : Draft) (context : Key) : Statement → Option (Draft × Key)
  | .table key => do return (((← d.open? key false).noteKind key false).wrote key, key)
  | .row key => do return (((← d.open? key true).noteKind key false).wrote key, key)
  | .assign key form => do
    let (_, d) ← members? d context [] [(key, form)]
    return (d, context)

private def run? (d : Draft) (context : Key) : List Statement → Option Draft
  | [] => some d
  | s :: rest => do
    let (d, context) ← d.step? context s
    run? d context rest

end Draft

structure Document where
  root : Table
  keys : List Key

def Document.ofText? (text : Bytes) : Option Document := do
  let d ← Draft.run? {} [] (← statements? text)
  return { root := d.root, keys := d.order }

private def escaped (b : UInt8) : Bytes :=
  match b with
  | 0x22 => "\\\""
  | 0x5C => "\\\\"
  | 0x08 => "\\b"
  | 0x09 => "\\t"
  | 0x0A => "\\n"
  | 0x0C => "\\f"
  | 0x0D => "\\r"
  | b => if b < 0x20 || b = 0x7F then "\\u00" ++ Bytes.hexByte b else [b]

def quoted (text : Bytes) : Bytes := 0x22 :: text.flatMap escaped ++ [0x22]

def Key.text (key : Key) : Bytes :=
  Bytes.join "." (key.map fun part =>
    if !part.isEmpty && part.all isBareByte then part else quoted part)

end Toml

end Keywordless
