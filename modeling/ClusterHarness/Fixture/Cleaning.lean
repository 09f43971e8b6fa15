import ClusterHarness.Failure
import ClusterHarness.Host
import ClusterHarness.Plan

/-!
# Emptying the data directories

Before a run the persistent directories of its plan are removed and created again, one after the
other. A directory that does not exist is only created.
-/

namespace ClusterHarness.Fixture

variable {σ : Type}

/-- Empty one directory. Models `remove_tree` and the creation after it. -/
def emptyDir (h : Host σ) (dir : Path) (s : σ) : Except Failure Unit × σ :=
  let create (s : σ) :=
    match h.createDirs dir s with
    | (.ok (), s) => (.ok (), s)
    | (.error e, s) => (.error (.cleanup dir e), s)
  match h.removeTree dir s with
  | (.ok (), s) => create s
  | (.error .notFound, s) => create s
  | (.error e, s) => (.error (.cleanup dir e), s)

/-- Empty directories in order, up to the first that cannot be emptied. -/
def emptyDirs (h : Host σ) : List Path → σ → Except Failure Unit × σ
  | [], s => (.ok (), s)
  | dir :: dirs, s =>
    match emptyDir h dir s with
    | (.ok (), s) => emptyDirs h dirs s
    | (.error e, s) => (.error e, s)

/-- Empty the persistent directories of a plan. Models `clean_data_dirs`. -/
def emptyDataDirs (h : Host σ) (plan : Plan) (s : σ) : Except Failure Unit × σ :=
  emptyDirs h plan.dataDirs s

end ClusterHarness.Fixture
