import ClusterHarness.Document.Json
import ClusterHarness.Fixture.Report
import ClusterHarness.Suite.Report

/-!
# Summaries

What is printed at the end of a run: a table for readers, or the report as JSON.
-/

namespace ClusterHarness.Summary

/-- The two forms of a summary. -/
inductive Format where
  | table
  | json
deriving DecidableEq, Repr, Inhabited

namespace Format

def all : List Format := [table, json]

def name : Format → String
  | table => "table"
  | json => "json"

end Format

/-- A text repeated `n` times. -/
def rule (n : Nat) (c : Char) : String := String.ofList (List.replicate n c)

/-- A text with blanks after it, up to `width` characters. -/
def padRight (width : Nat) (s : String) : String := s ++ rule (width - s.length) ' '

/-- A text with blanks before it, up to `width` characters. -/
def padLeft (width : Nat) (s : String) : String := rule (width - s.length) ' ' ++ s

/-- Whether a run passed, in words. -/
def verdict (exitCode : Int) : String :=
  if exitCode = 0 then "✓ passed" else s!"✗ failed (exit status {exitCode})"

/-- A row of the table of tests. -/
def row (name status : String) : String := padRight 40 name ++ "  " ++ padLeft 6 status

def suiteLines (r : Suite.Report) : List String :=
  ["", "Suite Summary", rule 34 '═', s!"Passes:           {r.iterations}",
    "Result:           " ++ verdict r.exitCode, ""] ++
  if r.records.isEmpty then ["No tests ran"]
  else
    [row "TEST" "STATUS", rule 48 '─'] ++
    r.records.map (fun t => row t.name (toString t.exitCode)) ++
    match r.failure with
    | none => []
    | some f => ["", s!"Failed in:        {f.directory.text}"]

def fixtureLines (r : Fixture.Report) : List String :=
  ["", s!"Fixture: {r.scenario}", rule 34 '═', s!"Reached:          {r.reached.name}",
    "Result:           " ++ verdict r.exitCode] ++
  (match r.error with
    | none => []
    | some e => [s!"Error:            {e}"]) ++
  if r.killed.isEmpty then [] else ["Killed:           " ++ ", ".intercalate r.killed]

/-- Lines with a line feed after each. -/
def unlines (lines : List String) : String := String.join (lines.map (· ++ "\n"))

/-- The summary of a suite. Models `OutputFormat.write` for a `SuiteReport`. -/
def suite (format : Format) (r : Suite.Report) : String :=
  match format with
  | .table => unlines (suiteLines r)
  | .json => Json.pretty 0 r.toDocument ++ "\n"

/-- The summary of a fixture. Models `OutputFormat.write` for a `FixtureReport`. -/
def fixture (format : Format) (r : Fixture.Report) : String :=
  match format with
  | .table => unlines (fixtureLines r)
  | .json => Json.pretty 0 r.toDocument ++ "\n"

end ClusterHarness.Summary
