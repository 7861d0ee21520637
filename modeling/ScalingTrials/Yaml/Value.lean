import ScalingTrials.Json
import ScalingTrials.Yaml.Reading

/-!
Documents as values of any shape, and such values as JSON. Of two entries with one key the later
wins, in the place of the earlier.
-/

namespace ScalingTrials.Yaml

inductive Value where
  | null
  | bool (b : Bool)
  | int (n : Int)
  | real (x : Real)
  | str (s : String)
  | seq (items : List Value)
  | map (entries : List (Value × Value))
  deriving Repr, Inhabited

namespace Value

/-- Whether two numbers are the same key; the sign of a zero does not tell them apart. -/
def sameReal : Real → Real → Bool
  | .finite x, .finite y => (x.isZero && y.isZero) || x == y
  | .infinite a, .infinite b => a == b
  | .nan, .nan => true
  | _, _ => false

/-- Whether two keys are the same. Collections are never taken for the same key. -/
def sameKey : Value → Value → Bool
  | null, null => true
  | bool a, bool b => a == b
  | int a, int b => a == b
  | real a, real b => sameReal a b
  | str a, str b => a == b
  | _, _ => false

def setEntry (k v : Value) : List (Value × Value) → List (Value × Value)
  | [] => [(k, v)]
  | e :: rest => if sameKey e.1 k then (e.1, v) :: rest else e :: setEntry k v rest

/-- The value of a scalar, unless it is too wide a number. -/
def ofScalar (p : Path) : Scalar → Reading Value
  | .null => pure null
  | .bool b => pure (bool b)
  | .int n => pure (int n)
  | .real x => pure (real x)
  | .str s => pure (str s)
  | s => Reading.fail p ("invalid type: " ++ s.describe ++ ", expected any YAML value")

def readItems (read : Path → Node → Reading Value) (p : Path) :
    Nat → List Node → Reading (List Value)
  | _, [] => pure []
  | i, n :: rest => do
    let v ← read (p.item i) n
    let vs ← readItems read p (i + 1) rest
    return v :: vs

/-- Reads entries in order on top of the earlier ones. -/
def readEntries (read : Path → Node → Reading Value) (p : Path) :
    List (Value × Value) → List (Node × Node) → Reading (List (Value × Value))
  | acc, [] => pure acc
  | acc, (k, n) :: rest => do
    let key ← read p k
    let v ← read (p.value k) n
    readEntries read p (setEntry key v acc) rest

/-- Reads a node whose parts may be nested a number of levels deeper. -/
def read (src : Source) : Nat → Path → Node → Reading Value
  | depth, p, n => do
    match ← Reading.follow src n, depth with
    | .scalar _ tag plain s, _ =>
      match Scalar.resolve tag plain s with
      | .ok v => ofScalar p v
      | .error message => Reading.fail p message
    | .seq _ items, depth + 1 => return seq (← readItems (read src depth) p 0 items)
    | .map _ entries, depth + 1 => return map (← readEntries (read src depth) p [] entries)
    | _, _ => fun _ => .error .tooDeep

/-- The only document of a text. -/
def parse (text : String) : Except Error Value :=
  readWith (fun src n => read src Reading.depthLimit .root n) text

/-- Why a value has no JSON form. -/
inductive KeyError where
  | notText
  | notFinite
  deriving DecidableEq, Repr

def KeyError.message : KeyError → String
  | notText => "key must be a string"
  | notFinite => "float key must be finite (got NaN or +/-inf)"

/-- The text of a key. -/
def keyText : Value → Except KeyError String
  | str s => .ok s
  | bool true => .ok "true"
  | bool false => .ok "false"
  | int n => .ok (toString n)
  | real (.finite x) => .ok (x.render Binary64.documentLayout)
  | real _ => .error .notFinite
  | null => .error .notText
  | seq _ => .error .notText
  | map _ => .error .notText

mutual

/-- The JSON form of a value; infinite values and `nan` become null. -/
def toJson : Value → Except KeyError Json
  | null => .ok .null
  | bool b => .ok (.bool b)
  | int n => .ok (.int n)
  | real (.finite x) => .ok (.float x)
  | real _ => .ok .null
  | str s => .ok (.str s)
  | seq items => (itemsToJson items).map .arr
  | map entries => (entriesToJson [] entries).map .obj

def itemsToJson : List Value → Except KeyError (List Json)
  | [] => .ok []
  | v :: rest => do
    let j ← toJson v
    let js ← itemsToJson rest
    return j :: js

def entriesToJson (acc : List (String × Json)) :
    List (Value × Value) → Except KeyError (List (String × Json))
  | [] => .ok acc
  | (k, v) :: rest => do
    let key ← keyText k
    let j ← toJson v
    entriesToJson (Json.setMember key j acc) rest

end

end Value

end ScalingTrials.Yaml
