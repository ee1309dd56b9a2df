import Chatflow.Table

/-!
# Document nodes

The tree of a document before its scalars are given values.
-/

namespace Chatflow.Yaml

/-- What the tag of a node says about its value: nothing, one of the core kinds, or a kind that
has no value here. -/
inductive Tag where
  | unspecific
  | core (name : String)
  | foreign
deriving Repr, DecidableEq

inductive Node where
  | scalar (tag : Tag) (quoted : Bool) (text : String)
  | sequence (tag : Tag) (items : List Node)
  | mapping (tag : Tag) (pairs : List (Node × Node))

instance : Inhabited Node := ⟨.scalar .unspecific false ""⟩

namespace Node

/-- The node that stands where nothing is written. -/
def empty : Node := scalar .unspecific false ""

def withTag (tag : Tag) : Node → Node
  | scalar _ quoted text => scalar tag quoted text
  | sequence _ items => sequence tag items
  | mapping _ pairs => mapping tag pairs

/-- A scalar whose value follows from its form, quoted or not. -/
def asPlain : Node → Node
  | scalar tag _ text => scalar tag false text
  | node => node

end Node

end Chatflow.Yaml
