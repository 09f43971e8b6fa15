import ClusterHarness.Admin.Runner

/-!
# Rehearsing admin operations

A runner that carries nothing out: it answers each call by the first rule that matches, and
records the calls.
-/

namespace ClusterHarness.Admin

/-- An answer prepared for some calls. -/
structure Rule where
  /-- The verb that the rule is for, in words. -/
  verb : Option String := none
  /-- The number of the call that the rule is for, counted from one. -/
  call : Option Nat := none
  /-- The call fails because the tool cannot be started. -/
  spawnError : Option String := none
  exitCode : Int := 0
  output : String := ""
deriving DecidableEq, Repr, Inhabited

/-- One recorded call. -/
structure Call where
  locator : String
  operation : Operation
deriving DecidableEq, Repr

namespace Rule

def covers (r : Rule) (verb : String) (call : Nat) : Bool :=
  (r.verb.all (· == verb)) && (r.call.all (· == call))

def answer (r : Rule) : Except Failure Output :=
  match r.spawnError with
  | some reason => .error (.notStarted label reason)
  | none => .ok ⟨r.exitCode, r.output⟩

end Rule

/-- Answer calls by rules and record them; a call without a rule succeeds. -/
def rehearse {σ : Type} (rules : List Rule) : Runner (List Call × σ) :=
  fun locator operation (calls, s) =>
    let calls := calls ++ [⟨locator, operation⟩]
    let rule := rules.find? (·.covers operation.verb calls.length)
    ((rule.getD {}).answer, (calls, s))

end ClusterHarness.Admin
