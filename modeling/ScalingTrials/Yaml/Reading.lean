import ScalingTrials.Yaml.Scalar

/-!
Reading data off the nodes of a document. References are followed, nesting is bounded, and so is the
number of references followed, in proportion to the size of the text. An error tells the path to the
part at fault.
-/

namespace ScalingTrials.Yaml

/-- The way from a document to one of its parts. A part whose key is no scalar has no name. -/
inductive Path where
  | root
  | item (parent : Path) (index : Nat)
  | entry (parent : Path) (key : String)
  | unnamed (parent : Path)
  deriving Repr

namespace Path

def text : Path → String
  | root => "."
  | item parent index => parent.text ++ "[" ++ toString index ++ "]"
  | entry root key => key
  | entry parent key => parent.text ++ "." ++ key
  | unnamed root => "?"
  | unnamed parent => parent.text ++ ".?"

/-- The data error at a path. -/
def error (p : Path) (message : String) : Error :=
  if p.text = "." then .data none message else .data (some p.text) message

/-- The path to the value of an entry. -/
def value (p : Path) : Node → Path
  | .scalar _ _ _ key => p.entry key
  | _ => p.unnamed

end Path

/-- What a reader knows of the text: the anchored nodes, and how many references it may follow. -/
structure Source where
  anchored : List (Nat × Node)
  limit : Nat

/-- Reading counts the references that it follows. -/
abbrev Reading (α : Type) := StateT Nat (Except Error) α

namespace Reading

/-- Collections may nest this deep. -/
def depthLimit : Nat := 128

def fail {α : Type} (p : Path) (message : String) : Reading α := fun _ => .error (p.error message)

/-- The node itself, or the one that it refers to. -/
def follow (src : Source) (n : Node) : Reading Node := fun followed =>
  match n with
  | .reference k =>
    if src.limit < followed + 1 then .error .tooManyReferences
    else
      match src.anchored.lookup k with
      | some n => .ok (n, followed + 1)
      | none => .error .malformed
  | n => .ok (n, followed)

/-- What a message calls a node, or the message that it does not suit its tag. -/
def describe : Node → Except String String
  | .scalar _ tag plain s => (Scalar.resolve tag plain s).map Scalar.describe
  | .reference _ => .ok "reference"
  | .seq _ _ => .ok "sequence"
  | .map _ _ => .ok "map"

/-- The error that a node is not what was expected. -/
def mismatch {α : Type} (p : Path) (n : Node) (expected : String) : Reading α :=
  match describe n with
  | .ok kind => fail p ("invalid type: " ++ kind ++ ", expected " ++ expected)
  | .error message => fail p message

/-- The text of a scalar as it stands, whatever it stands for. -/
def rawText (src : Source) (p : Path) (n : Node) (expected : String) : Reading String := do
  match ← follow src n with
  | .scalar _ _ _ s => return s
  | n => mismatch p n expected

end Reading

/-- Reads the only document of a text. Its data is judged before further documents are refused. -/
def readWith {α : Type} (reader : Source → Node → Reading α) (text : String) : Except Error α := do
  match ← documents text with
  | [] => .error .noDocument
  | n :: others =>
    let (a, _) ← reader ⟨n.anchored, 100 * Node.weights (n :: others)⟩ n 0
    if others.isEmpty then .ok a else .error .severalDocuments

/-- What is said of an error; the ways in which a text can be malformed are not told apart. -/
def Error.message : Error → String
  | .malformed => "<yaml syntax error>"
  | .tooDeep => "recursion limit exceeded"
  | .tooManyReferences => "repetition limit exceeded"
  | .noDocument => "EOF while parsing a value"
  | .severalDocuments =>
    "deserializing from YAML containing more than one document is not supported"
  | .data none message => message
  | .data (some path) message => path ++ ": " ++ message

end ScalingTrials.Yaml
