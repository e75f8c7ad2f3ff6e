import SelectiveDisclosure.Decimal.Double
import SelectiveDisclosure.OrderedMap

/-!
JSON values. An object is the list of its members in the order in which they were written, repeated
names included; `sorted` is the form in which names are unique and ascend at every level.
-/

namespace SelectiveDisclosure

inductive Json where
  | null
  | bool (b : Bool)
  | int (n : Int)
  | float (x : Decimal.Double)
  | str (s : String)
  | arr (items : List Json)
  | obj (members : List (String × Json))

namespace Json

instance : Inhabited Json := ⟨.null⟩

mutual

/-- Members in ascending order of their names at every level; of two members with one name the later
stays. -/
def sorted : Json → Json
  | .arr items => .arr (sortedItems items)
  | .obj members => .obj (OrderedMap.ofList (sortedMembers members)).entries
  | j => j

def sortedItems : List Json → List Json
  | [] => []
  | j :: rest => sorted j :: sortedItems rest

def sortedMembers : List (String × Json) → List (String × Json)
  | [] => []
  | (k, j) :: rest => (k, sorted j) :: sortedMembers rest

end

def members? : Json → Option (OrderedMap String Json)
  | .obj members => some (OrderedMap.ofList members)
  | _ => none

def get? (j : Json) (name : String) : Option Json :=
  match j with
  | .obj members => (OrderedMap.ofList members).get? name
  | _ => none

def asString? : Json → Option String
  | .str s => some s
  | _ => none

def ofMap (m : OrderedMap String Json) : Json := .obj m.entries

end Json

end SelectiveDisclosure
