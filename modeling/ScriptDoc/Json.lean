import ScriptDoc.Number

namespace ScriptDoc

-- Members keep their order; that their names are distinct is not part of the type.
inductive Json where
  | null
  | bool (b : Bool)
  | number (n : Number)
  | string (t : Text)
  | array (items : List Json)
  | object (members : List (Text × Json))
  deriving Repr

-- A replaced member keeps its place, a new one comes last.
def Json.put (name : Text) (value : Json) : List (Text × Json) → List (Text × Json)
  | [] => [(name, value)]
  | (key, old) :: rest =>
    if key = name then (key, value) :: rest else (key, old) :: put name value rest

end ScriptDoc
