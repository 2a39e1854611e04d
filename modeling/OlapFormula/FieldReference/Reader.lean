import OlapFormula.FieldReference.Basic

/-!
# Reading a field reference

`FieldReference.parse?` accepts a complete reference and nothing around it but white space. An id is
not blank, and of the ids only what stands between double quotes may hold brackets.
-/

namespace OlapFormula.FieldReference

/-- Splits at the closing bracket. A bracket between double quotes does not count, and no bracket
opens inside another. -/
def splitClosing (quoted : Bool) : List Char → Option (List Char × List Char)
  | [] => none
  | c :: cs =>
    if c = '"' then (splitClosing (!quoted) cs).map fun (inner, rest) => (c :: inner, rest)
    else if c = ']' && !quoted then some ([], cs)
    else if c = '[' && !quoted then none
    else (splitClosing quoted cs).map fun (inner, rest) => (c :: inner, rest)

/-- Splits `[inner]rest` into `inner` and `rest`. -/
def splitBracket : List Char → Option (List Char × List Char)
  | '[' :: body => splitClosing false body
  | _ => none

/-- Splits `"Plan":City` into the name of the model and the id. -/
def splitDatasource (body : List Char) : Option (Option String × List Char) :=
  match body with
  | '"' :: quoted =>
    match quoted.dropWhile (· != '"') with
    | '"' :: ':' :: id =>
      let name := quoted.takeWhile (· != '"')
      if name.isEmpty || id.contains '"' then none else some (some (String.ofList name), id)
    | _ => none
  | _ => if body.contains '"' then none else some (none, body)

/-- Reads what follows the head: nothing, or `.[p/Zip]` or `.[h/Geo]`. -/
def parseSuffix? : List Char → Option (Option FieldSuffix)
  | [] => some none
  | '.' :: cs =>
    match splitBracket cs with
    | some (inner, []) =>
      let read (kind : SuffixKind) (id : List Char) :=
        if Text.isAllBlank id || id.contains '"' then none
        else some (some ⟨kind, String.ofList id⟩)
      match inner with
      | 'p' :: '/' :: id => read .property id
      | 'h' :: '/' :: id => read .hierarchy id
      | _ => none
    | _ => none
  | _ => none

def parse? (cs : List Char) : Option FieldReference := do
  let cs := Text.trim cs
  let (head, rest) ← splitBracket cs
  let kind := FieldKind.classify cs
  let (datasource, id) ← splitDatasource (head.drop kind.mark.length)
  if Text.isAllBlank id then none
  else
    let suffix ← parseSuffix? rest
    return { datasource, kind, id := String.ofList id, suffix }

end OlapFormula.FieldReference
