import SelectiveDisclosure.CType
import SelectiveDisclosure.Statement.Expansion

namespace SelectiveDisclosure

structure Claim where
  ctypeHash : Hash256
  contents : OrderedMap String Json
  owner : Did

namespace Claim

def ctypeId (c : Claim) : CTypeId := ⟨c.ctypeHash⟩

def statements (c : Claim) : List Statement :=
  (Expanded.ofClaim c.ctypeId.vocabulary (some c.owner.text) c.contents).statements

def dropKeys (contents : OrderedMap String Json) :
    List String → Except String (OrderedMap String Json)
  | [] => .ok contents
  | key :: keys => if contents.contains key then dropKeys (contents.erase key) keys else .error key

/-- The claim without some of its properties. Naming a key twice asks for one that is gone. -/
def without (c : Claim) (keys : List String) : Except String Claim :=
  (dropKeys c.contents keys).map fun contents => { c with contents }

end Claim

end SelectiveDisclosure
