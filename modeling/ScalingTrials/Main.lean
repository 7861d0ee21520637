import ScalingTrials.Cloud.Query
import ScalingTrials.CommandLine
import ScalingTrials.Wire

/-!
The program. It reads the files that a command may look at, carries the command out on them and
writes back what has changed. It has no credentials for the cloud and opens no connections, so every
call of the cloud and of the cluster fails.
-/

namespace ScalingTrials.Program

/-- The files that a command may look at or change. -/
def paths (o : CommandLine.Options) (env : Environment) : CommandLine.Command → List String
  | .render template dir _ _ =>
    [Descriptor.recordIn o.recordDir, (Manifest.named template).pathIn dir]
  | .wait _ _ _ _ _ _ =>
    match o.kubeconfig with
    | some path => [path]
    | none =>
      Files.join ((env.get? "HOME").getD "") ".kube/config" ::
        Kubeconfig.paths ((env.get? "KUBECONFIG").getD "")
  | _ => [Descriptor.recordIn o.recordDir]

/-- The locations on the way along some names, the shallowest first. -/
def along : Location → List String → List Location
  | _, [] => []
  | l, name :: rest =>
    let next := if name = "." then l else if name = ".." then l.dropLast else l ++ [name]
    next :: along next rest

/-- The locations on the way to a path. -/
def locations (here : Location) (path : String) : List Location :=
  along (if Files.isAbsolute path then [] else here) (Files.names path)

def pathOf (l : Location) : String := "/" ++ "/".intercalate l

/-- What stands at a location. -/
def probe (l : Location) : IO (Option Files.Node) := do
  let path := (← IO.currentDir) / pathOf l
  if ← path.isDir then return some .directory
  else if ← path.pathExists then return some (.file (← IO.FS.readBinFile path))
  else return none

def probeAll : List Location → IO (List (Location × Option Files.Node))
  | [] => return []
  | l :: rest => return (l, ← probe l) :: (← probeAll rest)

/-- Carries the change of what stands at a location over to the disk. -/
def restore (l : Location) (before after : Option Files.Node) : IO Unit :=
  match before, after with
  | none, some .directory => IO.FS.createDirAll (pathOf l)
  | some (.file old), some (.file new) =>
    if old.toList = new.toList then pure () else IO.FS.writeBinFile (pathOf l) new
  | _, some (.file content) => IO.FS.writeBinFile (pathOf l) content
  | some (.file _), none => IO.FS.removeFile (pathOf l)
  | _, _ => pure ()

/-- Carries a task out question by question. -/
def perform {I : Interface} {α : Type} (answer : (q : I.Ask) → IO (I.Answer q)) :
    Task I α → IO α
  | .done a => return a
  | .sleep s next => do
    IO.sleep (UInt32.ofNat (min (s.toNanos / 1000000) (halfWordSize - 1)))
    perform answer next
  | .ask q next => do perform answer (next (← answer q))

/-- The answer of the cluster that is not there, and of the cloud without credentials. -/
def wireAnswer : (q : Wire.Ask) → IO q.Answer
  | .send _ => return .failed "no connection"
  | .describe _ => return Cloud.Query.describeAnswer .notMade

def answer : (q : CommandLine.Ask) → IO q.Answer
  | .cloud q => return Cloud.Query.answer q .notMade
  | .site q => perform (I := Wire.calls) wireAnswer (Wire.answer q)

def environment (names : List String) : IO Environment := do
  let values ← names.mapM fun name => return (← IO.getEnv name).map fun value => (name, value)
  return values.filterMap id

/-- A number from random bytes. -/
def draw (bytes : ByteArray) : Naming.Draw :=
  BitVec.ofNat 128 (bytes.toList.foldl (fun n b => 256 * n + b.toNat) 0)

def run (arguments : List String) : IO UInt32 := do
  let env ← environment
    [CommandLine.recordDirVariable, CommandLine.regionVariable, "HOME", "KUBECONFIG"]
  let here := Files.names (← IO.currentDir).toString
  let touched := match CommandLine.read arguments env with
    | .ok (o, c) => (paths o env c).flatMap (locations here)
    | .error _ => []
  let before ← probeAll (along [] here ++ touched)
  let fs : Files := { here, node? := fun l => (before.lookup l).join }
  let bytes ← IO.getRandomBytes 16
  let (outcome, after) ← perform (I := CommandLine.calls) answer
    (CommandLine.execute arguments env fs fun _ => draw bytes)
  touched.forM fun l => restore l (fs.node? l) (after.node? l)
  (← IO.getStdout).putStr outcome.output
  (← IO.getStderr).putStr outcome.complaint
  return UInt32.ofNat outcome.status

end ScalingTrials.Program

def main (arguments : List String) : IO UInt32 := ScalingTrials.Program.run arguments
