import OlapFormula.JsonValue.Basic

/-!
# Reading JSON

Arrays and objects nest up to a limit, and the recursion of the reader is the recursion on what is left
of it.
-/

namespace OlapFormula

namespace JsonValue

/-- Reads something off the front of a text. -/
abbrev Reader (α : Type) := List Char → Option (α × List Char)

def isSpace (c : Char) : Bool := c == ' ' || c == '\n' || c == '\t' || c == '\r'

def skipSpaces (cs : List Char) : List Char := cs.dropWhile isSpace

def hexDigit? (c : Char) : Option Nat :=
  if c.isDigit then some (c.toNat - '0'.toNat)
  else if 'a' ≤ c && c ≤ 'f' then some (c.toNat - 'a'.toNat + 10)
  else if 'A' ≤ c && c ≤ 'F' then some (c.toNat - 'A'.toNat + 10)
  else none

/-- The code unit that four hexadecimal digits spell. -/
def codeUnit? (a b c d : Char) : Option Nat := do
  return (((← hexDigit? a) * 16 + (← hexDigit? b)) * 16 + (← hexDigit? c)) * 16 + (← hexDigit? d)

def isHighSurrogate (n : Nat) : Bool := 0xD800 ≤ n && n < 0xDC00

def isLowSurrogate (n : Nat) : Bool := 0xDC00 ≤ n && n < 0xE000

/-- The character that a high surrogate and another code unit stand for together. -/
def surrogatePair? (high low : Nat) : Option Char :=
  if isLowSurrogate low then
    some (Char.ofNat (0x10000 + (high - 0xD800) * 0x400 + (low - 0xDC00)))
  else none

/-- The character that one code unit stands for. -/
def unitChar? (n : Nat) : Option Char :=
  if isHighSurrogate n || isLowSurrogate n then none else some (Char.ofNat n)

def escapedChar? : Char → Option Char
  | '"' => some '"'
  | '\\' => some '\\'
  | '/' => some '/'
  | 'b' => some '\x08'
  | 'f' => some '\x0c'
  | 'n' => some '\n'
  | 'r' => some '\r'
  | 't' => some '\t'
  | _ => none

/-- A character before what has been read after it. -/
def prepend (c : Option Char) (rest : Option (List Char × List Char)) :
    Option (List Char × List Char) := do
  let c ← c
  let (cs, rest) ← rest
  return (c :: cs, rest)

/-- Reads what follows an opening quote, with the closing one. -/
def readString : Reader (List Char)
  | [] => none
  | '"' :: cs => some ([], cs)
  | '\\' :: 'u' :: a :: b :: c :: d :: cs =>
    match codeUnit? a b c d with
    | none => none
    | some unit =>
      if isHighSurrogate unit then
        match cs with
        | '\\' :: 'u' :: e :: f :: g :: h :: cs =>
          prepend ((codeUnit? e f g h).bind (surrogatePair? unit)) (readString cs)
        | _ => none
      else prepend (unitChar? unit) (readString cs)
  | '\\' :: c :: cs => prepend (escapedChar? c) (readString cs)
  | c :: cs => if c.toNat < 0x20 then none else prepend (some c) (readString cs)

def digits (cs : List Char) : List Char := cs.takeWhile Char.isDigit

/-- Digits after a mark, or nothing if the mark is not there. -/
def readDigitsAfter (isMark : Char → Bool) (signs : List Char) : Reader (List Char)
  | [] => some ([], [])
  | c :: cs =>
    if isMark c then
      let sign := (cs.take 1).filter signs.contains
      let digits := digits (cs.drop sign.length)
      if digits.isEmpty then none
      else some (c :: sign ++ digits, cs.drop (sign.length + digits.length))
    else some ([], c :: cs)

/-- Reads a number. Zero is the only one whose first digit is zero. -/
def readNumber : Reader (List Char) := fun cs => do
  let sign := (cs.take 1).filter (· == '-')
  let cs := cs.drop sign.length
  let whole := if cs.head? == some '0' then ['0'] else digits cs
  if whole.isEmpty then none
  else
    let (fraction, cs) ← readDigitsAfter (· == '.') [] (cs.drop whole.length)
    let (exponent, cs) ← readDigitsAfter (fun c => c == 'e' || c == 'E') ['+', '-'] cs
    return (sign ++ whole ++ fraction ++ exponent, cs)

def readMember (value : Reader JsonValue) : Reader (String × JsonValue) := fun cs =>
  match skipSpaces cs with
  | '"' :: cs => do
    let (key, cs) ← readString cs
    match skipSpaces cs with
    | ':' :: cs =>
      let (value, cs) ← value cs
      return ((String.ofList key, value), cs)
    | _ => none
  | _ => none

/-- Reads the entries after the first, each after a comma, and the closing bracket. -/
def readMore {α : Type} (entry : Reader α) (closing : Char) : (count : Nat) → Reader (List α)
  | 0, _ => none
  | count + 1, cs =>
    match skipSpaces cs with
    | c :: cs =>
      if c = closing then some ([], cs)
      else if c = ',' then do
        let (first, cs) ← entry cs
        let (rest, cs) ← readMore entry closing count cs
        return (first :: rest, cs)
      else none
    | [] => none

/-- Reads entries between commas, possibly none, and the closing bracket. -/
def readEntries {α : Type} (entry : Reader α) (closing : Char) : Reader (List α) := fun cs =>
  match skipSpaces cs with
  | [] => none
  | c :: rest =>
    if c = closing then some ([], rest)
    else do
      let (first, cs) ← entry (c :: rest)
      let (others, cs) ← readMore entry closing (cs.length + 1) cs
      return (first :: others, cs)

def readWord (word : String) (value : JsonValue) : Reader JsonValue := fun cs =>
  if word.toList.isPrefixOf cs then some (value, cs.drop word.toList.length) else none

/-- Reads a value; `nested` reads the values inside of one. -/
def readValue (nested : Reader JsonValue) : Reader JsonValue := fun cs =>
  match skipSpaces cs with
  | [] => none
  | '"' :: cs => (readString cs).map fun (value, cs) => (string (String.ofList value), cs)
  | '[' :: cs => (readEntries nested ']' cs).map fun (items, cs) => (array items, cs)
  | '\x7b' :: cs =>
    (readEntries (readMember nested) '\x7d' cs).map fun (members, cs) => (object members, cs)
  | 't' :: cs => readWord "true" (boolean true) ('t' :: cs)
  | 'f' :: cs => readWord "false" (boolean false) ('f' :: cs)
  | 'n' :: cs => readWord "null" null ('n' :: cs)
  | cs => (readNumber cs).map fun (spelling, cs) => (number (String.ofList spelling), cs)

/-- Reads a value that nests at most so many levels deep. -/
def readWithin : (depth : Nat) → Reader JsonValue
  | 0 => fun _ => none
  | depth + 1 => readValue (readWithin depth)

def maxDepth : Nat := 128

/-- The value that a text is. -/
def parse? (text : String) : Option JsonValue := do
  let (value, rest) ← readWithin maxDepth text.toList
  if (skipSpaces rest).isEmpty then some value else none

end JsonValue

end OlapFormula
