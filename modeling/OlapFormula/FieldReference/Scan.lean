import OlapFormula.FieldReference.Reader
import OlapFormula.Text.Basic
import OlapFormula.Text.Quoted

/-!
# Field references in a text

Finds where the fields of a formula stand, also in a text that is only half typed.
-/

namespace OlapFormula.FieldReference

/-- What follows an opening bracket: the rest of the brackets with the closing one, and what comes
after them. A bracket between double quotes does not count. -/
def splitAfterBracket (quoted : Bool) : List Char → Option (List Char × List Char)
  | [] => none
  | c :: cs =>
    if c = ']' && !quoted then some ([c], cs)
    else
      let quoted := if c = '"' then !quoted else quoted
      (splitAfterBracket quoted cs).map fun (body, rest) => (c :: body, rest)

/-- Splits brackets off the front of a text. -/
def splitBrackets : List Char → Option (List Char × List Char)
  | '[' :: cs => (splitAfterBracket false cs).map fun (body, rest) => ('[' :: body, rest)
  | _ => none

/-- Splits a field off the front of a text: brackets, and brackets after a point if they are closed
as well. -/
def splitField (cs : List Char) : Option (List Char × List Char) :=
  match splitBrackets cs with
  | none => none
  | some (head, rest) =>
    match rest with
    | '.' :: suffixed =>
      match splitBrackets suffixed with
      | some (suffix, rest) => some (head ++ '.' :: suffix, rest)
      | none => some (head, rest)
    | _ => some (head, rest)

/-- The place past the field that starts at a place. -/
def fieldEnd? (cs : List Char) (start : Nat) : Option Nat := do
  let (_, rest) ← Text.splitAt? start cs
  let (field, _) ← splitField rest
  return start + Text.byteLength field

/-- The fields of a text that starts at place `start`, without its first `skip` characters. -/
def spansFrom (skip start : Nat) : List Char → List (Span × Option FieldReference)
  | [] => []
  | c :: cs =>
    let next := start + c.utf8Size
    match skip with
    | skip + 1 => spansFrom skip next cs
    | 0 =>
      if c = '"' then
        match Text.splitAfterQuote cs with
        | some (body, _) => spansFrom body.length next cs
        | none => []
      else if c = '[' then
        match splitField (c :: cs) with
        | some (field, _) =>
          (⟨start, start + Text.byteLength field⟩, parse? field) ::
            spansFrom (field.length - 1) next cs
        | none => []
      else spansFrom 0 next cs

/-- Everything in brackets that is not part of a string literal, with the reference it holds if it is
well formed. Brackets that are not closed end the search. -/
def spans (cs : List Char) : List (Span × Option FieldReference) := spansFrom 0 0 cs

end OlapFormula.FieldReference
