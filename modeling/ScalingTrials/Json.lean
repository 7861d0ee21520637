import ScalingTrials.Binary64.Shortest
import ScalingTrials.Lookup
import ScalingTrials.Text.Quoted
import ScalingTrials.Word

/-!
Structured values: the bodies of resources and of the messages about them. Objects keep their
members in the order in which they were first set.
-/

namespace ScalingTrials

inductive Json where
  | null
  | bool (b : Bool)
  | int (n : Int)
  | float (x : Binary64)
  | str (s : String)
  | arr (items : List Json)
  | obj (members : List (String × Json))
  deriving Repr, Inhabited

namespace Json

/-- Sets a member where its key already stands, or behind the others. -/
def setMember (k : String) (v : Json) : List (String × Json) → List (String × Json)
  | [] => [(k, v)]
  | m :: rest => if m.1 = k then (k, v) :: rest else m :: setMember k v rest

/-- The value of a member of an object. -/
def get? (j : Json) (k : String) : Option Json :=
  match j with
  | obj members => members.lookup k
  | _ => none

def asString? : Json → Option String
  | str s => some s
  | _ => none

def asBool? : Json → Option Bool
  | bool b => some b
  | _ => none

def asArray? : Json → Option (List Json)
  | arr items => some items
  | _ => none

/-- A whole number that fits 64 bits with a sign; numbers with a point are none. -/
def asInt64? : Json → Option Int
  | int n => if -(signedSize : Int) ≤ n ∧ n < (signedSize : Int) then some n else none
  | _ => none

/-- What a message calls a value. -/
def describe : Json → String
  | null => "null"
  | bool true => "boolean `true`"
  | bool false => "boolean `false`"
  | int n => "integer `" ++ toString n ++ "`"
  | float x => "floating point `" ++ x.render Binary64.messageLayout ++ "`"
  | str s => "string " ++ Text.quote s
  | arr _ => "sequence"
  | obj _ => "map"

/-- What is said of a value of the wrong kind. -/
def mismatch (j : Json) (expected : String) : String :=
  "invalid type: " ++ j.describe ++ ", expected " ++ expected

theorem asString?_eq_some_iff {j : Json} {s : String} : j.asString? = some s ↔ j = str s := by
  cases j <;> simp [asString?]

theorem asArray?_eq_some_iff {j : Json} {items : List Json} :
    j.asArray? = some items ↔ j = arr items := by
  cases j <;> simp [asArray?]

theorem asInt64?_eq_some_iff {j : Json} {n : Int} :
    j.asInt64? = some n ↔ j = int n ∧ -(signedSize : Int) ≤ n ∧ n < signedSize := by
  cases j with
  | int m =>
    simp only [asInt64?, Option.ite_none_right_eq_some, Option.some.injEq, int.injEq]
    constructor
    · rintro ⟨hm, rfl⟩
      exact ⟨rfl, hm⟩
    · rintro ⟨rfl, hm⟩
      exact ⟨hm, rfl⟩
  | _ => simp [asInt64?]

theorem lookup_setMember (k k' : String) (v : Json) (ms : List (String × Json)) :
    (setMember k v ms).lookup k' = if k' = k then some v else ms.lookup k' := by
  induction ms with
  | nil => by_cases h : k' = k <;> simp [setMember, List.lookup_cons, h, beq_false_of_ne]
  | cons m rest ih =>
    simp only [setMember]
    split
    · next hm =>
      by_cases h : k' = k
      · simp [h]
      · rw [if_neg h, lookup_cons_of_ne h, lookup_cons_of_ne (hm ▸ h)]
    · next hm =>
      by_cases h : k' = m.1
      · rw [h, lookup_cons_fst, lookup_cons_fst, if_neg hm]
      · rw [lookup_cons_of_ne h, lookup_cons_of_ne h, ih]

end Json

end ScalingTrials
