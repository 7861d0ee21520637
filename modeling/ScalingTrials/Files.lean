import ScalingTrials.Text.Split

/-!
A tree of files, as far as it can be seen by path: what stands at each location, the directory from
which relative paths start, and what the system refuses to do where. An operation that fails leaves
the tree as it was, except that the creation of a chain of directories keeps those that it has made.
-/

namespace ScalingTrials

/-- A place in the tree: the names from the root down. -/
abbrev Location := List String

inductive Files.Node where
  | file (content : ByteArray)
  | directory

/-- What can be done at a location. Only directories are entered. -/
inductive Files.Action where
  | enter
  | read
  | write
  | make
  | remove
  deriving DecidableEq, Repr

/-- Why the system refuses to do what the tree allows. -/
inductive Files.Refusal where
  | denied
  | notPermitted
  | readOnly
  | busy
  | deviceFailure
  deriving DecidableEq, Repr

/-- Nothing is refused. -/
def Files.unrestricted (_ : Files.Action) (_ : Location) : Option Files.Refusal := none

theorem Files.readable_unrestricted (l : Location) (_ : Files.unrestricted .write l = none) :
    Files.unrestricted .read l = none := rfl

/-- What stands where, and what is refused there. The root is a directory whatever is said of it. A
file that may be written may be read as well. -/
structure Files where
  here : Location
  node? : Location → Option Files.Node
  refusal? : Files.Action → Location → Option Files.Refusal := Files.unrestricted
  readable : ∀ l, refusal? .write l = none → refusal? .read l = none := by
    exact Files.readable_unrestricted

namespace Files

def Refusal.message : Refusal → String
  | denied => "Permission denied (os error 13)"
  | notPermitted => "Operation not permitted (os error 1)"
  | readOnly => "Read-only file system (os error 30)"
  | busy => "Device or resource busy (os error 16)"
  | deviceFailure => "Input/output error (os error 5)"

/-- Why an operation on a path fails. -/
inductive Failure where
  | notFound
  | occupied
  | notDirectory
  | isDirectory
  | nameTooLong
  | notUtf8
  | nulInPath
  | refused (r : Refusal)
  deriving DecidableEq, Repr

def Failure.message : Failure → String
  | notFound => "No such file or directory (os error 2)"
  | occupied => "File exists (os error 17)"
  | notDirectory => "Not a directory (os error 20)"
  | isDirectory => "Is a directory (os error 21)"
  | nameTooLong => "File name too long (os error 36)"
  | notUtf8 => "stream did not contain valid UTF-8"
  | nulInPath => "file name contained an unexpected NUL byte"
  | refused r => r.message

/-- The longest name of a file, in bytes. -/
def nameLimit : Nat := 255

/-- The longest path, in bytes. -/
def pathLimit : Nat := 4095

/-- A path that an operation can follow: where it starts, the names on the way, and whether it asks
for a directory by a slash at its end. -/
structure Route where
  start : Location
  names : List String
  slash : Bool

/-- The names of a path; slashes that follow each other count once. -/
def names (path : String) : List String :=
  ((Text.split '/' path.toList).filter (· ≠ [])).map String.ofList

def isAbsolute (path : String) : Bool :=
  match path.toList with
  | '/' :: _ => true
  | _ => false

def endsInSlash (path : String) : Bool := path.toList.getLast? == some '/'

def route (fs : Files) (path : String) : Except Failure Route :=
  if path.toList.contains '\x00' then .error .nulInPath
  else if path = "" then .error .notFound
  else if path.utf8ByteSize > pathLimit then .error .nameTooLong
  else .ok ⟨if isAbsolute path then [] else fs.here, names path, endsInSlash path⟩

/-- What stands at a location. -/
def at? (fs : Files) (l : Location) : Option Node :=
  if l = [] then some .directory else fs.node? l

/-- One step down the tree, or up, from a directory. The name need not exist. -/
def step (fs : Files) (l : Location) (name : String) : Except Failure Location :=
  match fs.at? l with
  | none => .error .notFound
  | some (.file _) => .error .notDirectory
  | some .directory =>
    match fs.refusal? .enter l with
    | some r => .error (.refused r)
    | none =>
      if name = "." then .ok l
      else if name = ".." then .ok l.dropLast
      else if name.utf8ByteSize > nameLimit then .error .nameTooLong
      else .ok (l ++ [name])

/-- The location at the end of a way. -/
def walk (fs : Files) : Location → List String → Except Failure Location
  | l, [] => .ok l
  | l, name :: rest =>
    match fs.step l name with
    | .ok l => fs.walk l rest
    | .error e => .error e

/-- The location of a path; a slash at the end asks for a directory. -/
def locate (fs : Files) (path : String) : Except Failure Location :=
  match fs.route path with
  | .error e => .error e
  | .ok r => fs.walk r.start (if r.slash then r.names ++ ["."] else r.names)

/-- The tree with another node at a location. -/
def set (fs : Files) (l : Location) (n : Option Node) : Files :=
  { fs with node? := fun m => if m = l then n else fs.node? m }

/-- The content of a file. -/
def read (fs : Files) (path : String) : Except Failure ByteArray :=
  match fs.locate path with
  | .error e => .error e
  | .ok l =>
    match fs.at? l with
    | none => .error .notFound
    | some .directory => .error .isDirectory
    | some (.file content) =>
      match fs.refusal? .read l with
      | some r => .error (.refused r)
      | none => .ok content

/-- The content of a file that holds text. -/
def readText (fs : Files) (path : String) : Except Failure String :=
  match fs.read path with
  | .error e => .error e
  | .ok content =>
    match String.fromUTF8? content with
    | some text => .ok text
    | none => .error .notUtf8

/-- Puts a file in the place of another or in an empty place. -/
def write (fs : Files) (path : String) (content : ByteArray) : Except Failure Files :=
  match fs.locate path with
  | .error e => .error e
  | .ok l =>
    match fs.at? l with
    | some .directory => .error .isDirectory
    | _ =>
      match fs.refusal? .write l with
      | some r => .error (.refused r)
      | none => .ok (fs.set l (some (.file content)))

def writeText (fs : Files) (path : String) (text : String) : Except Failure Files :=
  fs.write path text.toUTF8

/-- Takes a file away. -/
def remove (fs : Files) (path : String) : Except Failure Files :=
  match fs.locate path with
  | .error e => .error e
  | .ok l =>
    match fs.at? l with
    | none => .error .notFound
    | some .directory => .error .isDirectory
    | some (.file _) =>
      match fs.refusal? .remove l with
      | some r => .error (.refused r)
      | none => .ok (fs.set l none)

/-- Whether anything can be seen at a path. A directory that cannot be entered hides what stands in
it. -/
def present (fs : Files) (path : String) : Bool :=
  match fs.locate path with
  | .error _ => false
  | .ok l => (fs.at? l).isSome

/-- Makes a directory below one that exists, at the end of a way given backwards. -/
def makeAt (fs : Files) (start : Location) : List String → Except Failure Files
  | [] => .error .occupied
  | name :: before =>
    match fs.walk start before.reverse with
    | .error e => .error e
    | .ok parent =>
      match fs.step parent name with
      | .error e => .error e
      | .ok l =>
        if name = "." ∨ name = ".." then .error .occupied
        else
          match fs.at? l with
          | some _ => .error .occupied
          | none =>
            match fs.refusal? .make l with
            | some r => .error (.refused r)
            | none => .ok (fs.set l (some .directory))

/-- Whether a way given backwards leads to a directory. -/
def isDirectoryAt (fs : Files) (start : Location) (back : List String) : Bool :=
  match fs.walk start back.reverse with
  | .ok l =>
    match fs.at? l with
    | some .directory => true
    | _ => false
  | .error _ => false

/-- The way to the directory above, backwards; names that lead nowhere are passed over. -/
def above (back : List String) : List String :=
  (back.dropWhile (· == ".")).tail.dropWhile (· == ".")

theorem length_above_lt (name : String) (back : List String) :
    (above (name :: back)).length < (name :: back).length := by
  have h : ∀ l : List String, (l.dropWhile (· == ".")).length ≤ l.length :=
    fun l => (List.dropWhile_sublist _).length_le
  have h1 := h ((name :: back).dropWhile (· == ".")).tail
  have h2 := h (name :: back)
  simp only [above, List.length_tail, List.length_cons] at *
  omega

/-- Makes a directory unless it exists, and the directories above it as far as they are missing. -/
def makeAllAt (fs : Files) (start : Location) : List String → Except Failure Unit × Files
  | [] => (.ok (), fs)
  | name :: back =>
    match fs.makeAt start (name :: back) with
    | .ok fs => (.ok (), fs)
    | .error .notFound =>
      match fs.makeAllAt start (above (name :: back)) with
      | (.error e, fs) => (.error e, fs)
      | (.ok (), fs) =>
        match fs.makeAt start (name :: back) with
        | .ok fs => (.ok (), fs)
        | .error e =>
          if fs.isDirectoryAt start (name :: back) then (.ok (), fs) else (.error e, fs)
    | .error e => if fs.isDirectoryAt start (name :: back) then (.ok (), fs) else (.error e, fs)
  termination_by back => back.length
  decreasing_by exact length_above_lt name back

/-- Makes the directory at a path and those above it. An empty path asks for none. -/
def makeAll (fs : Files) (path : String) : Except Failure Unit × Files :=
  if path = "" then (.ok (), fs)
  else
    match fs.route path with
    | .error e => (.error e, fs)
    | .ok r => fs.makeAllAt r.start r.names.reverse

/-- The path of a name within a directory. An absolute name stands for itself. -/
def join (dir name : String) : String :=
  if isAbsolute name ∨ dir = "" then name
  else if endsInSlash dir then dir ++ name
  else dir ++ "/" ++ name

/-- The names of a path that lead somewhere else. A dot counts only where a relative path begins. -/
def plainNames (path : String) : List String :=
  let ns := names path
  if !isAbsolute path && ns.head? == some "." then "." :: ns.filter (· ≠ ".")
  else ns.filter (· ≠ ".")

/-- Whether two paths are written for the same way. -/
def samePath (a b : String) : Bool :=
  isAbsolute a == isAbsolute b && plainNames a == plainNames b

@[simp] theorem node?_set (fs : Files) (l : Location) (n : Option Node) (m : Location) :
    (fs.set l n).node? m = if m = l then n else fs.node? m := rfl

@[simp] theorem here_set (fs : Files) (l : Location) (n : Option Node) :
    (fs.set l n).here = fs.here := rfl

@[simp] theorem refusal?_set (fs : Files) (l : Location) (n : Option Node) :
    (fs.set l n).refusal? = fs.refusal? := rfl

theorem at?_set_self {fs : Files} {l : Location} (h : l ≠ []) (n : Option Node) :
    (fs.set l n).at? l = n := by simp [at?, h]

theorem at?_set_of_ne {fs : Files} {l m : Location} (h : m ≠ l) (n : Option Node) :
    (fs.set l n).at? m = fs.at? m := by simp [at?, h]

end Files

end ScalingTrials
