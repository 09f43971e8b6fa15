import ClusterHarness.CommandLine.Document
import ClusterHarness.Path

/-!
# Administrative operations

The operations that a plan asks the cluster's admin tool for. An operation is rendered as the
words of its verb followed by its quoted arguments, in the order in which they are declared.
-/

namespace ClusterHarness.Admin

/-- One administrative operation. Models `AdminCommand`. -/
inductive Operation where
  | applicationAdd (descriptor : Path) (targets : List String)
  | applicationRemove (descriptor : Path)
  | serverAdd (node name : String) (descriptor executable : Path) (libraryPath : String)
      (targets : List String)
  | serverRemove (name : String)
  | serverStart (name : String)
  | adapterList
  | shutdown
  | nodeShutdown (node : String)
deriving DecidableEq, Repr, Inhabited

namespace Operation

/-- The words of the verb. Models `AdminCommand.verb`. -/
def verbWords : Operation → List String
  | applicationAdd .. => ["application", "add"]
  | applicationRemove _ => ["application", "remove"]
  | serverAdd .. => ["server", "add"]
  | serverRemove _ => ["server", "remove"]
  | serverStart _ => ["server", "start"]
  | adapterList => ["adapter", "list"]
  | shutdown => ["shutdown"]
  | nodeShutdown _ => ["node", "shutdown"]

def verb (o : Operation) : String := " ".intercalate o.verbWords

/-- The name of the verb in documents. -/
def tag (o : Operation) : String := "-".intercalate o.verbWords

/-- The arguments in declaration order. Models `AdminCommand.arguments`. -/
def arguments : Operation → List String
  | applicationAdd descriptor targets => descriptor.text :: targets
  | applicationRemove descriptor => [descriptor.text]
  | serverAdd node name descriptor executable libraryPath targets =>
    [node, name, descriptor.text, executable.text, libraryPath] ++ targets
  | serverRemove name => [name]
  | serverStart name => [name]
  | adapterList => []
  | shutdown => []
  | nodeShutdown node => [node]

/-- The text that the admin tool is given. Models `AdminCommand.render`. -/
def render (o : Operation) : String :=
  if o.arguments.isEmpty then o.verb else o.verb ++ " " ++ CommandLine.join o.arguments

/-- Relative paths count from `base`. Models `AdminCommand.resolve_paths`. -/
def resolve (base : Path) : Operation → Operation
  | applicationAdd descriptor targets => .applicationAdd (base.join descriptor) targets
  | applicationRemove descriptor => .applicationRemove (base.join descriptor)
  | serverAdd node name descriptor executable libraryPath targets =>
    .serverAdd node name (base.join descriptor) (base.join executable) libraryPath targets
  | o => o

/-! ## Documents -/

def asPath (d : Document) : Option Path := d.asText.map Path.mk

/-- The fields of an operation, without its verb. -/
def fields : Operation → List (String × Document)
  | applicationAdd descriptor targets =>
    [("descriptor", .text descriptor.text), ("targets", .texts targets)]
  | applicationRemove descriptor => [("descriptor", .text descriptor.text)]
  | serverAdd node name descriptor executable libraryPath targets =>
    [("node", .text node), ("name", .text name), ("descriptor", .text descriptor.text),
      ("executable", .text executable.text), ("library_path", .text libraryPath),
      ("targets", .texts targets)]
  | serverRemove name => [("name", .text name)]
  | serverStart name => [("name", .text name)]
  | adapterList => []
  | shutdown => []
  | nodeShutdown node => [("node", .text node)]

def toDocument (o : Operation) : Document := .record (("verb", .text o.tag) :: o.fields)

/-- An operation from the name of its verb and the rest of its document. -/
def ofTagged? (tag : String) (d : Document) : Option Operation := do
  let r := Reading.strict
  match tag with
  | "application-add" =>
    let [descriptor, targets] ← d.slots r ["descriptor", "targets"] | none
    return .applicationAdd (← Document.required asPath descriptor)
      (← Document.withDefault [] Document.asTexts targets)
  | "application-remove" =>
    let [descriptor] ← d.slots r ["descriptor"] | none
    return .applicationRemove (← Document.required asPath descriptor)
  | "server-add" =>
    let [node, name, descriptor, executable, libraryPath, targets] ←
      d.slots r ["node", "name", "descriptor", "executable", "library_path", "targets"] | none
    return .serverAdd (← Document.required Document.asText node)
      (← Document.required Document.asText name) (← Document.required asPath descriptor)
      (← Document.required asPath executable)
      (← Document.withDefault "" Document.asText libraryPath)
      (← Document.withDefault [] Document.asTexts targets)
  | "server-remove" =>
    let [name] ← d.slots r ["name"] | none
    return .serverRemove (← Document.required Document.asText name)
  | "server-start" =>
    let [name] ← d.slots r ["name"] | none
    return .serverStart (← Document.required Document.asText name)
  | "adapter-list" =>
    let _ ← d.slots r []
    return .adapterList
  | "shutdown" =>
    let _ ← d.slots r []
    return .shutdown
  | "node-shutdown" =>
    let [node] ← d.slots r ["node"] | none
    return .nodeShutdown (← Document.required Document.asText node)
  | _ => none

/-- An operation is a record with its verb among the fields, or a list that starts with the verb. -/
def ofDocument? : Document → Option Operation
  | .record fields => do
    let verb ← fields.lookup "verb"
    ofTagged? (← verb.asText) (.record (fields.filter (·.1 != "verb")))
  | .list (verb :: rest) => do ofTagged? (← verb.asText) (.list rest)
  | _ => none

end Operation
end ClusterHarness.Admin
