import ClusterHarness.Document

/-!
# Reading typed values from documents

A typed record is read from a record by the names of its fields, where unknown fields are
ignored, or from a list by their order. Every reader returns nothing where the document has the
wrong shape.
-/

namespace ClusterHarness

/-- How a format reads a record that is written as a list. -/
structure Reading where
  /-- Whether the list may be longer than the record. -/
  surplus : Bool

namespace Reading

/-- A list has at most as many items as the record has fields. -/
def strict : Reading := ⟨false⟩

/-- Items after the last field are ignored. -/
def lenient : Reading := ⟨true⟩

end Reading

namespace Document

/-- The values that a document gives to the fields of a record, in the order of `names`. -/
def slots (d : Document) (r : Reading) (names : List String) : Option (List (Option Document)) :=
  match d with
  | record fields => some (names.map fun name => fields.lookup name)
  | list items =>
    if names.length < items.length && !r.surplus then none
    else some ((List.range names.length).map (items[·]?))
  | _ => none

/-- A field that must be present. -/
def required {α : Type} (f : Document → Option α) (slot : Option Document) : Option α :=
  slot.bind f

/-- A field with a default value, used only where the field is absent. -/
def withDefault {α : Type} (default : α) (f : Document → Option α) :
    Option Document → Option α
  | none => some default
  | some d => f d

/-- A field that may be absent or `null`. -/
def optional {α : Type} (f : Document → Option α) : Option Document → Option (Option α)
  | none => some none
  | some null => some none
  | some d => (f d).map some

def asText : Document → Option String
  | text s => some s
  | _ => none

def asBool : Document → Option Bool
  | bool b => some b
  | _ => none

/-- An integer that fits `bits` bits without a sign. -/
def asNat (bits : Nat) : Document → Option Nat
  | int (.ofNat n) => if n < Nat.pow 2 bits then some n else none
  | _ => none

/-- An integer that fits 32 bits with a sign. -/
def asStatus : Document → Option Int
  | int n => if -Nat.pow 2 31 ≤ n ∧ n < Nat.pow 2 31 then some n else none
  | _ => none

def asList {α : Type} (f : Document → Option α) : Document → Option (List α)
  | list items => items.mapM f
  | _ => none

def asTexts : Document → Option (List String) := asList asText

/-- A name out of a choice of names: a text, or a record of one field without a value. -/
def asChoice : Document → Option String
  | text s => some s
  | record [(name, null)] => some name
  | _ => none

/-- A record whose fields are all texts. -/
def asTextFields : Document → Option (List (String × String))
  | record fields => fields.mapM fun (name, d) => (asText d).map (name, ·)
  | _ => none

end Document
end ClusterHarness
