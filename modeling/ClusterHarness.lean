import ClusterHarness.Admin.Rehearsal
import ClusterHarness.Main
import ClusterHarness.Proofs.Admin.Payload
import ClusterHarness.Proofs.Cli.ExitStatus
import ClusterHarness.Proofs.CommandLine.Grammar
import ClusterHarness.Proofs.Document.RoundTrip
import ClusterHarness.Proofs.Drain.Forwarding
import ClusterHarness.Proofs.FileTree.Standpoint
import ClusterHarness.Proofs.Fixture.AdminCalls
import ClusterHarness.Proofs.Fixture.Cleaning
import ClusterHarness.Proofs.Fixture.Coherence
import ClusterHarness.Proofs.Fixture.HandOver
import ClusterHarness.Proofs.Fixture.Leaks
import ClusterHarness.Proofs.Fixture.Reaping
import ClusterHarness.Proofs.Fixture.Scenario
import ClusterHarness.Proofs.Plan.HandedPaths
import ClusterHarness.Proofs.Plan.Substitution
import ClusterHarness.Proofs.Refusal
import ClusterHarness.Proofs.Subprocess.Record
import ClusterHarness.Proofs.Subprocess.Verdict
import ClusterHarness.Proofs.Suite.FailFast
import ClusterHarness.Proofs.Suite.Repetition
import ClusterHarness.Proofs.Suite.ScriptFiles
import ClusterHarness.Suite.Rehearsal
