import OlapFormula.Function.Catalog
import OlapFormula.Message
import OlapFormula.Node.Typing

/-!
# Calls under examination
-/

namespace OlapFormula

/-- A call before a node is made of it. -/
structure CallSite where
  /-- The name as it is written. -/
  name : String
  /-- What the name stands for. -/
  item : Except Catalog.Unavailable FunctionItem
  args : List Node

namespace CallSite

def displayName (call : CallSite) : String :=
  match call.item with
  | .ok item => item.name
  | .error _ => call.name

/-- What `check` says about the item and the arguments; nothing if the name stands for no item. -/
def withItem (call : CallSite) (check : FunctionItem → List Message) : List Message :=
  match call.item with
  | .ok item => check item
  | .error _ => []

/-- What `check` says about each argument and its position. -/
def eachArgument (call : CallSite) (check : Nat → Node → List Message) : List Message :=
  (call.args.mapIdx check).flatten

end CallSite

end OlapFormula
