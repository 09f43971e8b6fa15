import ClusterHarness.Plan.Expansion

/-!
# The command lines of a plan

The command lines by which the registry, the node and the steps of a scenario are started.
-/

namespace ClusterHarness.Plan

/-- The trace level of a service, as one option for each category. Models `trace_flags`. -/
def traceOptions (service : String) (categories : List String) (level : Nat) : List String :=
  categories.map fun category => s!"--{service}.Trace.{category}={level}"

/-- The command line of the registry. Models `registry_command`. -/
def registryLine (p : Plan) : CommandLine where
  program := p.registry.binary
  args := p.registry.options.map p.expand ++
    [s!"--IcePack.Registry.Client.Endpoints=default -p {p.port} -t {p.harness.endpointTimeoutMs}",
      "--IcePack.Registry.Server.Endpoints=default",
      "--IcePack.Registry.Internal.Endpoints=default",
      "--IcePack.Registry.Admin.Endpoints=default",
      s!"--IcePack.Registry.Data={p.registryData.text}",
      "--IcePack.Registry.DynamicRegistration"] ++
    traceOptions "IcePack.Registry" ["ServerRegistry", "AdapterRegistry", "ObjectRegistry",
      "NodeRegistry"] p.harness.traceLevel ++
    ["--Ice.ProgramName=icepackregistry"]

/-- The command line of a node. Models `node_command`. -/
def nodeLine (p : Plan) (n : NodePlan) : CommandLine where
  program := n.service.binary
  args := n.service.options.map p.expand ++
    [s!"--Ice.Default.Locator={p.locator}",
      "--IcePack.Node.Endpoints=default",
      s!"--IcePack.Node.Data={p.nodeData.text}",
      s!"--IcePack.Node.Name={n.name}",
      "--Ice.ProgramName=icepacknode"] ++
    traceOptions "IcePack.Node" ["Activator", "Adapter", "Server"] p.harness.traceLevel ++
    ["--IcePack.Node.PrintServersReady=node"]

/-- The path under which a program of the scenario would be found in the test directory. -/
def localProgram (p : Plan) (program : String) : Path := p.testDir.join ⟨program⟩

/-- The command line of a server or client. A relative program that is a file of the test directory
is run from there. Models `ScenarioPlan.scenario_command`. -/
def scenarioLine (p : Plan) (isFile : Path → Bool) (template : String) :
    Except Failure CommandLine :=
  match CommandLine.parse (p.expand template) with
  | .error e => .error (.badCommandLine e)
  | .ok c =>
    if !(Path.mk c.program).isAbsolute && isFile (p.localProgram c.program) then
      .ok { c with program := (p.localProgram c.program).text }
    else .ok c

end ClusterHarness.Plan
