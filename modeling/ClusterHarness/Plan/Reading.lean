import ClusterHarness.Document.Toml
import ClusterHarness.Plan

/-!
# Plans as documents

Reading a plan from a document and writing it as one. Absent fields take their defaults, unknown
fields are ignored, and the fields of a node's service stand beside its name.
-/

namespace ClusterHarness

namespace Settings

/-- Every setting has a default. -/
def ofDocument? (r : Reading) (d : Document) : Option Settings := do
  let [handshake, grace, identity, endpoint, trace] ← d.slots r
    ["handshake_timeout_secs", "shutdown_grace_secs", "locator_identity", "endpoint_timeout_ms",
      "trace_level"] | none
  let h : Settings := {}
  return {
    handshakeTimeoutSecs :=
      ← Document.withDefault h.handshakeTimeoutSecs (Document.asNat 64) handshake
    shutdownGraceSecs := ← Document.withDefault h.shutdownGraceSecs (Document.asNat 64) grace
    locatorIdentity := ← Document.withDefault h.locatorIdentity Document.asText identity
    endpointTimeoutMs := ← Document.withDefault h.endpointTimeoutMs (Document.asNat 64) endpoint
    traceLevel := ← Document.withDefault h.traceLevel (Document.asNat 8) trace }

def toDocument (h : Settings) : Document :=
  .record [("handshake_timeout_secs", .ofNat h.handshakeTimeoutSecs),
    ("shutdown_grace_secs", .ofNat h.shutdownGraceSecs),
    ("locator_identity", .text h.locatorIdentity),
    ("endpoint_timeout_ms", .ofNat h.endpointTimeoutMs),
    ("trace_level", .ofNat h.traceLevel)]

end Settings

namespace NodePlan

/-- A node is written as a record only. -/
def ofDocument? : Document → Option NodePlan
  | .record fields => do
    return {
      name := ← Document.withDefault "localnode" Document.asText (fields.lookup "name")
      service := ← ServicePlan.ofDocument? .strict (.record fields) }
  | _ => none

def toDocument (n : NodePlan) : Document := .record (("name", .text n.name) :: n.service.fields)

end NodePlan

namespace ServerPlan

def ofDocument? (r : Reading) (d : Document) : Option ServerPlan := do
  let [label, command, readiness] ← d.slots r ["label", "command", "readiness"] | none
  return {
    label := ← Document.required Document.asText label
    command := ← Document.required Document.asText command
    readiness := ← Document.withDefault { adapters := 1 } (Readiness.ofDocument? r)
      readiness }

def toDocument (s : ServerPlan) : Document :=
  .record [("label", .text s.label), ("command", .text s.command),
    ("readiness", s.readiness.toDocument)]

end ServerPlan

namespace ClientPlan

def ofDocument? (r : Reading) (d : Document) : Option ClientPlan := do
  let [label, command] ← d.slots r ["label", "command"] | none
  return {
    label := ← Document.required Document.asText label
    command := ← Document.required Document.asText command }

def toDocument (c : ClientPlan) : Document :=
  .record [("label", .text c.label), ("command", .text c.command)]

end ClientPlan

namespace Plan

def ofDocument? (r : Reading) (d : Document) : Option Plan := do
  let [name, testDir, port, harness, env, admin, registry, node, provision, servers, clients,
    deprovision] ← d.slots r
      ["name", "test_dir", "port", "harness", "env", "admin", "registry", "node", "provision",
        "server", "client", "deprovision"] | none
  return {
    name := ← Document.required Document.asText name
    testDir := ← Document.required Admin.Operation.asPath testDir
    port := ← Document.required (Document.asNat 16) port
    harness := ← Document.withDefault {} (Settings.ofDocument? r) harness
    env := ← Document.withDefault .empty Environment.ofDocument? env
    admin := ← Document.required (Admin.Tool.ofDocument? r) admin
    registry := ← Document.required (ServicePlan.ofDocument? r) registry
    node := ← Document.optional NodePlan.ofDocument? node
    provision := ← Document.withDefault [] (Document.asList Admin.Operation.ofDocument?) provision
    servers := ← Document.withDefault [] (Document.asList (ServerPlan.ofDocument? r)) servers
    clients := ← Document.withDefault [] (Document.asList (ClientPlan.ofDocument? r)) clients
    deprovision :=
      ← Document.withDefault [] (Document.asList Admin.Operation.ofDocument?) deprovision }

def toDocument (p : Plan) : Document :=
  .record [("name", .text p.name), ("test_dir", .text p.testDir.text), ("port", .ofNat p.port),
    ("harness", p.harness.toDocument), ("env", p.env.toDocument), ("admin", p.admin.toDocument),
    ("registry", p.registry.toDocument), ("node", .ofOption NodePlan.toDocument p.node),
    ("provision", .ofList Admin.Operation.toDocument p.provision),
    ("server", .ofList ServerPlan.toDocument p.servers),
    ("client", .ofList ClientPlan.toDocument p.clients),
    ("deprovision", .ofList Admin.Operation.toDocument p.deprovision)]

/-- A valid plan from the text of a TOML document. Models `ScenarioPlan.from_toml`. -/
def ofToml (text : String) : Except Failure Plan := do
  match (Toml.read text).bind (ofDocument? .lenient) with
  | none => throw (.config .invalidDocument)
  | some p =>
    p.validate
    return p

/-- A plan as it is read from the file at `path`, of which `content` is the text. Models
`ScenarioPlan.from_file`. -/
def ofFile (path : Path) (content : Except IoError String) : Except Failure Plan :=
  match content with
  | .error cause => .error (.config (.unreadable "plan file" path cause))
  | .ok text => (ofToml text).map (resolve (path.parent.getD ⟨"."⟩))

end Plan
end ClusterHarness
