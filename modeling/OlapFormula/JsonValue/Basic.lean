/-!
# JSON values

Numbers keep their spelling, and members of objects their order.
-/

namespace OlapFormula

inductive JsonValue
  | null
  | boolean (value : Bool)
  | number (spelling : String)
  | string (value : String)
  | array (items : List JsonValue)
  | object (members : List (String × JsonValue))
deriving Repr

namespace JsonValue

def nat (n : Nat) : JsonValue := number (toString n)

def strings (items : List String) : JsonValue := array (items.map string)

def ofOption {α : Type} (write : α → JsonValue) : Option α → JsonValue
  | none => null
  | some x => write x

end JsonValue

end OlapFormula
