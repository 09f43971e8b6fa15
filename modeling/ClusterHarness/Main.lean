import ClusterHarness.Cli.Console

/-!
# The command line program

Loads the files below the current directory into a machine, runs the program there, and stores the
files that changed.
-/

open ClusterHarness

/-- The files below a directory. A file that names its interpreter counts as executable. -/
partial def loadTree (entries : Array IO.FS.DirEntry) : IO FileTree := do
  let loaded ← entries.toList.mapM fun e => do
    if ← e.path.isDir then
      return (e.fileName, ← loadTree (← e.path.readDir))
    let content := (← IO.FS.readBinFile e.path).toList
    return (e.fileName, FileTree.file content ("#!".toUTF8.toList.isPrefixOf content))
  return .directory loaded

/-- Write the files of a tree that differ from what was there. -/
partial def storeTree (path : String) (before after : FileTree) : IO Unit := do
  let entriesOf (t : FileTree) : List (String × FileTree) :=
    match t with
    | .directory entries => entries
    | _ => []
  for (name, t) in entriesOf after do
    let place := path ++ "/" ++ name
    let old := ((entriesOf before).lookup name).getD (.directory [])
    match t, old with
    | .directory _, old =>
      IO.FS.createDirAll place
      storeTree place old t
    | .file content _, .file previous _ =>
      if content != previous then IO.FS.writeBinFile place ⟨content.toArray⟩
    | .file content _, _ => IO.FS.writeBinFile place ⟨content.toArray⟩
    | _, _ => pure ()
  for (name, t) in entriesOf before do
    if ((entriesOf after).lookup name).isNone then
      if t.isDirectory then IO.FS.removeDirAll (path ++ "/" ++ name)
      else IO.FS.removeFile (path ++ "/" ++ name)

def main (args : List String) : IO UInt32 := do
  let directory ← IO.currentDir
  let place := (directory.toString.splitOn "/").filter (!·.isEmpty)
  let files ← loadTree (← directory.readDir)
  let m := Machine.initial place
  let manifest ← IO.getEnv Cli.manifestVariable
  let m := { m with
    files := m.files.put place files
    vars := m.vars ++ (manifest.map (Cli.manifestVariable, ·)).toList }
  match Cli.console args m with
  | (none, _) => return 1
  | (some c, m) =>
    if let .ok after := m.files.find place then storeTree directory.toString files after
    (← IO.getStdout).write ⟨c.output.toArray⟩
    (← IO.getStderr).write ⟨c.errors.toArray⟩
    return UInt32.ofNat c.status
