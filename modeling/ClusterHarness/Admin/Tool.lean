import ClusterHarness.Admin.Operation

/-!
# The admin tool

How the admin tool is called: its program and options, and the flag by which it is told the
locator of the cluster.
-/

namespace ClusterHarness.Admin

/-- The admin tool of a plan. Models `AdminClientConfig`. -/
structure Tool where
  binary : String
  options : List String := []
  locatorFlag : String := "--Ice.Default.Locator"
deriving DecidableEq, Repr, Inhabited

namespace Tool

/-- The command line that runs one operation against the cluster at `locator`. Models
`AdminClient.command_line`. -/
def invocation (tool : Tool) (locator : String) (o : Operation) : CommandLine where
  program := tool.binary
  args := tool.options ++ [tool.locatorFlag ++ "=" ++ locator, "-e", o.render]

def ofDocument? (r : Reading) (d : Document) : Option Tool := do
  let [binary, options, locatorFlag] ← d.slots r ["binary", "options", "locator_flag"] | none
  return {
    binary := ← Document.required Document.asText binary
    options := ← Document.withDefault [] Document.asTexts options
    locatorFlag := ← Document.withDefault "--Ice.Default.Locator" Document.asText locatorFlag }

def toDocument (tool : Tool) : Document :=
  .record [("binary", .text tool.binary), ("options", .texts tool.options),
    ("locator_flag", .text tool.locatorFlag)]

end Tool
end ClusterHarness.Admin
