import ScalingTrials.Dictionary

/-!
Placeholders in the text of a template: a dollar sign, an upper-case letter and the longest run of
upper-case letters, digits and underscores behind it. They are filled in one pass, so a value is
never filled itself.
-/

namespace ScalingTrials.Manifest

def isUpper (c : Char) : Bool := 'A' ≤ c && c ≤ 'Z'

/-- Whether a character goes on with a name. -/
def isNameChar (c : Char) : Bool := isUpper c || ('0' ≤ c && c ≤ '9') || c == '_'

/-- What a template is cut into. -/
inductive Piece where
  | literal (c : Char)
  | placeholder (name : List Char)
  deriving DecidableEq, Repr

namespace Piece

/-- The text of a piece with the values that are known. -/
def fill (values : Dictionary) : Piece → List Char
  | literal c => [c]
  | placeholder name =>
    match values.get? (String.ofList name) with
    | some v => v.toList
    | none => '$' :: name

/-- Whether a character goes on with what was begun: nothing, a dollar sign or a name. -/
def goOn? (begun : Option (List Char)) (c : Char) : Option (List Char) :=
  match begun with
  | none => none
  | some [] => if isUpper c then some [c] else none
  | some name => if isNameChar c then some (name ++ [c]) else none

/-- The piece that was begun, once nothing goes on with it. -/
def close : Option (List Char) → List Piece
  | none => []
  | some [] => [literal '$']
  | some name => [placeholder name]

/-- The pieces of a text behind what was begun. -/
def cutFrom (begun : Option (List Char)) : List Char → List Piece
  | [] => close begun
  | c :: rest =>
    match goOn? begun c with
    | some name => cutFrom (some name) rest
    | none =>
      close begun ++ if c = '$' then cutFrom (some []) rest else literal c :: cutFrom none rest

/-- The pieces of a template. -/
def cut (cs : List Char) : List Piece := cutFrom none cs

end Piece

/-- The text of a template with the values that are known. -/
def fill (values : Dictionary) (template : String) : String :=
  String.ofList ((Piece.cut template.toList).flatMap (Piece.fill values))

end ScalingTrials.Manifest
