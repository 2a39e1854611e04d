import OlapFormula.Lexeme
import OlapFormula.Message
import OlapFormula.Settings

/-!
# Formula text in a locale

Formulas are stored with the canonical separators and shown with those of a locale. The two texts
differ in separators only, and only outside of string literals, fields and characters after a
backslash.
-/

namespace OlapFormula.Presentation

/-- How many of the characters after `c`, which are `cs`, are protected together with it; none if `c`
is not protected. -/
def protectedAfter (c : Char) (cs : List Char) : Option Nat :=
  if c = '"' then
    match Text.splitAfterQuote cs with
    | some (body, _) => some body.length
    | none => some cs.length
  else if c = '[' then
    match FieldReference.splitField (c :: cs) with
    | some (field, _) => some (field.length - 1)
    | none => some cs.length
  else if c = '\\' then some 1
  else none

/-- The characters of a text, each with whether separators apply to it; the first `skip` ones are
protected. -/
def exposureFrom (skip : Nat) : List Char → List (Char × Bool)
  | [] => []
  | c :: cs =>
    match skip with
    | skip + 1 => (c, false) :: exposureFrom skip cs
    | 0 =>
      match protectedAfter c cs with
      | some more => (c, false) :: exposureFrom more cs
      | none => (c, true) :: exposureFrom 0 cs

/-- The characters of a text, each with whether separators apply to it. -/
def exposure (cs : List Char) : List (Char × Bool) := exposureFrom 0 cs

/-- Replaces characters that are not protected. -/
def mapExposed (f : Char → Char) (cs : List Char) : List Char :=
  (exposure cs).map fun (c, exposed) => if exposed then f c else c

def toDisplayChar (locale : Locale) (c : Char) : Char :=
  if c = '.' then locale.decimal
  else if c = ',' then locale.argument
  else c

def toCanonicalChar (locale : Locale) (c : Char) : Char :=
  if c = locale.decimal then '.'
  else if c = locale.argument then ','
  else c

def toDisplay (locale : Locale) (cs : List Char) : List Char :=
  if locale.isCanonical then cs else mapExposed (toDisplayChar locale) cs

def toCanonical (locale : Locale) (cs : List Char) : List Char :=
  if locale.isCanonical then cs else mapExposed (toCanonicalChar locale) cs

/-- The place of the point of a number with digits after the point. A number such as `1.` ends where an
argument could end, so its point does not count. -/
def decimalMark? (number : Lexeme) : Option Nat :=
  let whole := number.chars.takeWhile (· != '.')
  match number.chars.drop whole.length with
  | _ :: c :: _ => if c.isDigit then some (number.start + Text.byteLength whole) else none
  | _ => none

/-- The places of the decimal marks in a text that is shown. -/
def decimalMarks (locale : Locale) (cs : List Char) : List Nat :=
  let lexemes := Lexeme.scan (toCanonical locale cs)
  (lexemes.filter (·.kind == .number)).filterMap decimalMark?

def misplacedText (c : Char) (place : Nat) : String :=
  "Unexpected '" ++ c.toString ++ "' at position " ++ toString place

def wrongArgument (locale : Locale) (c : Char) (place : Nat) : Message :=
  { code := .wrongArgumentSeparator
    text := misplacedText c place ++ ", arguments are separated by '" ++ locale.argument.toString ++
      "'" }

def wrongDecimal (locale : Locale) (c : Char) (place : Nat) : Message :=
  { code := .wrongDecimalSeparator
    text := misplacedText c place ++ ", the decimal separator is '" ++ locale.decimal.toString ++
      "'" }

/-- What is wrong with one character that is not protected, where `marks` are the decimal marks. -/
def separatorMessages (locale : Locale) (marks : List Nat) (c : Char) (place : Nat) :
    List Message :=
  if locale.isCanonical then if c = ';' then [wrongArgument locale c place] else []
  else if c = '.' then [wrongDecimal locale c place]
  else if c = ',' && locale.decimal == ',' && !marks.contains place then
    [wrongArgument locale c place]
  else []

/-- What `check` says about the characters that are not protected, the first at `place`. -/
def eachExposed (check : Char → Nat → List Message) (place : Nat) :
    List (Char × Bool) → List Message
  | [] => []
  | (c, exposed) :: rest =>
    (if exposed then check c place else []) ++ eachExposed check (place + c.utf8Size) rest

/-- Separators that do not belong to the locale. With canonical separators only a semicolon is known to
be misplaced. -/
def checkSeparators (locale : Locale) (cs : List Char) : List Message :=
  let marks := if locale.isCanonical then [] else decimalMarks locale cs
  eachExposed (separatorMessages locale marks) 0 (exposure cs)

end OlapFormula.Presentation
