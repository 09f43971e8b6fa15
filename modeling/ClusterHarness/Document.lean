/-!
# Document values

The values that plans, manifests and reports are written as, whichever text format holds them.
Fields of a record keep their order.
-/

namespace ClusterHarness

/-- A value of a plan, a manifest or a report. -/
inductive Document where
  | null
  | bool (value : Bool)
  | int (value : Int)
  /-- A number that is no integer, as written. -/
  | number (text : String)
  | text (value : String)
  | list (items : List Document)
  | record (fields : List (String × Document))
deriving Repr, Inhabited

namespace Document

def ofNat (n : Nat) : Document := .int n

/-- Nothing is written as `null`. -/
def ofOption {α : Type} (f : α → Document) : Option α → Document
  | none => .null
  | some a => f a

def ofList {α : Type} (f : α → Document) (xs : List α) : Document := .list (xs.map f)

def texts (xs : List String) : Document := ofList .text xs

/-- The value of the first field with a name. -/
def field? (name : String) : Document → Option Document
  | record fields => fields.lookup name
  | _ => none

end Document
end ClusterHarness
