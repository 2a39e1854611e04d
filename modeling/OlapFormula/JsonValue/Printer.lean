import OlapFormula.JsonValue.Basic
import OlapFormula.Text.Basic

/-!
# Text of JSON values
-/

namespace OlapFormula

namespace JsonValue

def hexDigits (width n : Nat) : List Char :=
  let digits := Nat.toDigits 16 n
  List.replicate (width - digits.length) '0' ++ digits

/-- A character in a string. Only quotes, backslashes and control characters are escaped. -/
def escape (c : Char) : List Char :=
  match c with
  | '"' => ['\\', '"']
  | '\\' => ['\\', '\\']
  | '\n' => ['\\', 'n']
  | '\r' => ['\\', 'r']
  | '\t' => ['\\', 't']
  | '\x08' => ['\\', 'b']
  | '\x0c' => ['\\', 'f']
  | c => if c.toNat < 0x20 then '\\' :: 'u' :: hexDigits 4 c.toNat else [c]

def quoted (text : String) : String :=
  String.ofList ('"' :: text.toList.flatMap escape ++ ['"'])

/-- A new line at a depth of indentation. -/
def newLine (depth : Nat) : String := String.ofList ('\n' :: List.replicate (2 * depth) ' ')

/-- Entries between brackets, each on a line of its own. -/
def bracketed (opening closing : String) (depth : Nat) (entries : List String) : String :=
  if entries.isEmpty then opening ++ closing
  else
    opening ++ newLine (depth + 1) ++ Text.joined ("," ++ newLine (depth + 1)) entries ++
      newLine depth ++ closing

mutual

/-- The text of a value that stands at a depth of indentation. -/
def textAt (depth : Nat) : JsonValue → String
  | null => "null"
  | boolean value => if value then "true" else "false"
  | number spelling => spelling
  | string value => quoted value
  | array items => bracketed "[" "]" depth (itemTexts (depth + 1) items)
  | object members => bracketed "\x7b" "\x7d" depth (memberTexts (depth + 1) members)

def itemTexts (depth : Nat) : List JsonValue → List String
  | [] => []
  | item :: items => textAt depth item :: itemTexts depth items

def memberTexts (depth : Nat) : List (String × JsonValue) → List String
  | [] => []
  | member :: members => memberText depth member :: memberTexts depth members

def memberText (depth : Nat) : String × JsonValue → String
  | (key, value) => quoted key ++ ": " ++ textAt depth value

end

/-- The text over several lines, indented by two spaces. -/
def text (value : JsonValue) : String := textAt 0 value

end JsonValue

end OlapFormula
