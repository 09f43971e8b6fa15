import ClusterHarness.Document.Fields

/-!
# Services and their readiness contracts

The kinds of long-running process of a cluster, what each prints once it is ready, and how a plan
describes one.
-/

namespace ClusterHarness

/-- The kind of a long-running process. Models `ServiceKind`. -/
inductive ServiceRole where
  | registry
  | node
  | router
  | server
deriving DecidableEq, Repr, Inhabited

/-- What a process prints after its process id: a number of adapter lines, and perhaps a line that
names a component. Models `ReadinessContract`. -/
structure Readiness where
  adapters : Nat
  namedReady : Option String := none
deriving DecidableEq, Repr, Inhabited

namespace ServiceRole

def all : List ServiceRole := [registry, node, router, server]

def name : ServiceRole → String
  | registry => "registry"
  | node => "node"
  | router => "router"
  | server => "server"

def ofName? (s : String) : Option ServiceRole := all.find? (·.name = s)

/-- What a process of a kind prints unless its plan says otherwise. Models
`ServiceKind.contract`. -/
def contract : ServiceRole → Readiness
  | registry => { adapters := 4 }
  | node => { adapters := 1, namedReady := some "node" }
  | router => { adapters := 1 }
  | server => { adapters := 1 }

end ServiceRole

namespace Readiness

def ofDocument? (r : Reading) (d : Document) : Option Readiness := do
  let [adapters, namedReady] ← d.slots r ["adapters", "named_ready"] | none
  return {
    adapters := ← Document.required (Document.asNat 64) adapters
    namedReady := ← Document.optional Document.asText namedReady }

def toDocument (c : Readiness) : Document :=
  .record [("adapters", .ofNat c.adapters), ("named_ready", .ofOption .text c.namedReady)]

end Readiness

/-- How a plan describes a service: its program, options, and a contract of its own. Models
`ServiceSpec`. -/
structure ServicePlan where
  binary : String
  options : List String := []
  readiness : Option Readiness := none
deriving DecidableEq, Repr, Inhabited

namespace ServicePlan

/-- The contract that a service is held to. Models `ServiceSpec.contract`. -/
def contract (s : ServicePlan) (kind : ServiceRole) : Readiness :=
  s.readiness.getD kind.contract

def fieldNames : List String := ["binary", "options", "readiness"]

/-- A service from the values of its fields. -/
def ofSlots? (r : Reading) : List (Option Document) → Option ServicePlan
  | [binary, options, readiness] => do
    return {
      binary := ← Document.required Document.asText binary
      options := ← Document.withDefault [] Document.asTexts options
      readiness := ← Document.optional (Readiness.ofDocument? r) readiness }
  | _ => none

def ofDocument? (r : Reading) (d : Document) : Option ServicePlan := do
  ofSlots? r (← d.slots r fieldNames)

/-- The fields of a service, which a node shares. -/
def fields (s : ServicePlan) : List (String × Document) :=
  [("binary", .text s.binary), ("options", .texts s.options),
    ("readiness", .ofOption Readiness.toDocument s.readiness)]

def toDocument (s : ServicePlan) : Document := .record s.fields

end ServicePlan
end ClusterHarness
