import ClusterHarness.Document

/-!
# Tables under construction

A TOML document opens tables by headers and by dotted keys, and may come back to some of them.
The tree keeps, next to the fields, how each table came about, which decides whether a later
header or key may still add to it.
-/

namespace ClusterHarness.Toml

/-- A place in the tree. -/
inductive Node where
  | value (d : Document)
  /-- A table. It is `dotted` if a dotted key made it, and `implicit` until a header names it. -/
  | table (dotted implicit : Bool) (fields : List (String × Node))
  /-- The tables of an array, the last one open. -/
  | rows (closed : List (List (String × Node))) (last : List (String × Node))
deriving Inhabited

/-- The fields of a table in the order of their first mention. -/
abbrev Fields := List (String × Node)

/-- Replace the node under a key, or add one at the end, as `f` makes it of the old one. -/
def Fields.update (fields : Fields) (key : String) (f : Option Node → Option Node) :
    Option Fields :=
  match fields with
  | [] => (f none).map fun node => [(key, node)]
  | (name, node) :: rest =>
    if name = key then (f (some node)).map fun node => (name, node) :: rest
    else (Fields.update rest key f).map ((name, node) :: ·)

/-- Give a key its value, once. -/
def Fields.define (fields : Fields) (key : String) (d : Document) : Option Fields :=
  fields.update key fun
    | none => some (.value d)
    | some _ => none

/-- Apply `f` to the table that a header path leads to. Tables on the way are made as needed, and
an array of tables leads to its last one. -/
def Fields.descend (path : List String) (f : Fields → Option Fields) (fields : Fields) :
    Option Fields :=
  match path with
  | [] => f fields
  | key :: path =>
    fields.update key fun
      | none => (Fields.descend path f []).map (.table false true)
      | some (.value _) => none
      | some (.table dotted implicit inner) =>
        (Fields.descend path f inner).map (.table dotted implicit)
      | some (.rows closed last) => (Fields.descend path f last).map (.rows closed)

/-- Give the key at the end of a dotted path its value. Tables on the way belong to dotted keys:
a table that a header names is closed to them, and so is the last one if no dotted key made it. -/
def Fields.assign (path : List String) (key : String) (d : Document) (fields : Fields) :
    Option Fields :=
  match path with
  | [] => fields.define key d
  | step :: path =>
    fields.update step fun
      | none => (Fields.assign path key d []).map (.table true true)
      | some (.value _) => none
      | some (.table dotted implicit inner) =>
        if !implicit || (path.isEmpty && !dotted) then none
        else (Fields.assign path key d inner).map (.table dotted implicit)
      | some (.rows closed last) =>
        if path.isEmpty then none else (Fields.assign path key d last).map (.rows closed)

/-- Open the table that a header names. It may be named once, and not if a dotted key made it. -/
def Fields.openTable (path : List String) (key : String) (fields : Fields) : Option Fields :=
  fields.descend path fun inner => inner.update key fun
    | none => some (.table false false [])
    | some (.table false true own) => some (.table false false own)
    | some _ => none

/-- Open one more table of the array that a header names. -/
def Fields.openRow (path : List String) (key : String) (fields : Fields) : Option Fields :=
  fields.descend path fun inner => inner.update key fun
    | none => some (.rows [] [])
    | some (.rows closed last) => some (.rows (closed ++ [last]) [])
    | some _ => none

mutual

/-- The value that a finished node stands for. -/
def Node.finish : Node → Document
  | .value d => d
  | .table _ _ fields => .record (finishFields fields)
  | .rows closed last => .list (finishRows closed ++ [.record (finishFields last)])

def finishFields : List (String × Node) → List (String × Document)
  | [] => []
  | (name, node) :: fields => (name, node.finish) :: finishFields fields

def finishRows : List (List (String × Node)) → List Document
  | [] => []
  | row :: rows => .record (finishFields row) :: finishRows rows

end

end ClusterHarness.Toml
