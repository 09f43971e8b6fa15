import ClusterHarness.Plan

/-!
# Placeholders in a plan

Options, commands and environment values may name the port, the locator and the test directory of
their plan in braces. The three are replaced one after the other. Every occurrence of one is
replaced from left to right, and what is put in its place is not searched for it again.
-/

namespace ClusterHarness

/-! ## Replacing a text inside a text -/

namespace Text

/-- Replace every occurrence of a nonempty pattern. -/
def replace (pattern by_ : List Char) : List Char → List Char
  | [] => []
  | c :: cs =>
    if pattern.isPrefixOf (c :: cs) then by_ ++ replace pattern by_ (cs.drop (pattern.length - 1))
    else c :: replace pattern by_ cs
termination_by cs => cs.length
decreasing_by
  · simp only [List.length_drop, List.length_cons]; omega
  · simp

end Text

/-! ## Placeholders -/

/-- A name in braces that stands for a value of the plan. -/
inductive Placeholder where
  | port
  | locator
  | testDir
deriving DecidableEq, Repr

namespace Placeholder

/-- In the order of replacement. -/
def all : List Placeholder := [port, locator, testDir]

def pattern : Placeholder → List Char
  | port => "\x7bport\x7d".toList
  | locator => "\x7blocator\x7d".toList
  | testDir => "\x7btest_dir\x7d".toList

end Placeholder

namespace Plan

/-- How the processes of the cluster find its registry. Models `ScenarioPlan.locator`. -/
def locator (p : Plan) : String := s!"{p.harness.locatorIdentity}:default -p {p.port}"

/-- The value that a placeholder stands for. -/
def placeholderValue (p : Plan) : Placeholder → List Char
  | .port => (toString p.port).toList
  | .locator => p.locator.toList
  | .testDir => p.testDir.text.toList

/-- Replace the placeholders in a template. Models `ScenarioPlan.expand`. -/
def expand (p : Plan) (template : String) : String :=
  String.ofList (Placeholder.all.foldl
    (fun cs h => Text.replace h.pattern (p.placeholderValue h) cs) template.toList)

/-- The environment of the processes of a plan. -/
def expandedEnv (p : Plan) : Environment := p.env.mapValues p.expand

end Plan
end ClusterHarness
