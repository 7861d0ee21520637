/-!
Environment variables: texts by name, in the order in which they were first set.
-/

namespace ScalingTrials

abbrev Environment := List (String × String)

namespace Environment

/-- Sets a variable where its name already stands, or behind the others. -/
def set (env : Environment) (name value : String) : Environment :=
  match env with
  | [] => [(name, value)]
  | v :: rest => if v.1 = name then (name, value) :: rest else v :: set rest name value

def get? (env : Environment) (name : String) : Option String := env.lookup name

end Environment

end ScalingTrials
