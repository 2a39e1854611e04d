import OlapFormula.FieldReference.Scan
import OlapFormula.Text.Case
import OlapFormula.Text.Letter

/-!
# Lexemes

The words of formula text. Every text has lexemes: a string or a bracket that is not closed runs to the
end of the text as one lexeme, and a character that begins no word is a lexeme of its own, so that text
which is half typed can be looked at as well.
-/

namespace OlapFormula

inductive LexemeKind
  | number
  | string
  | field
  | identifier
  | plus
  | minus
  | star
  | slash
  | caret
  | equal
  | notEqual
  | less
  | lessEqual
  | greater
  | greaterEqual
  | comma
  | leftParen
  | rightParen
  | leftBrace
  | rightBrace
  /-- A string or a bracket that is not closed. -/
  | unterminated
  | unexpected
deriving Repr, DecidableEq

structure Lexeme where
  kind : LexemeKind
  /-- The place where it begins. -/
  start : Nat
  chars : List Char
deriving Repr, DecidableEq

namespace Lexeme

/-- The place past the last character. -/
def stop (lexeme : Lexeme) : Nat := lexeme.start + Text.byteLength lexeme.chars

def span (lexeme : Lexeme) : Span := ⟨lexeme.start, lexeme.stop⟩

def text (lexeme : Lexeme) : String := String.ofList lexeme.chars

/-- The lexeme is this word, in upper or lower case. -/
def isKeyword (lexeme : Lexeme) (word : String) : Bool :=
  lexeme.kind == .identifier && Text.equalIgnoringCase lexeme.chars word.toList

def digitCount (cs : List Char) : Nat := (cs.takeWhile Char.isDigit).length

/-- Length of an exponent at the start of a text. Without digits it is none, so that `2e` is a number
and a name. -/
def exponentLength : List Char → Nat
  | [] => 0
  | c :: cs =>
    if c = 'e' || c = 'E' then
      let sign := match cs with
        | '+' :: _ | '-' :: _ => 1
        | _ => 0
      let digits := digitCount (cs.drop sign)
      if digits = 0 then 0 else 1 + sign + digits
    else 0

def fractionLength : List Char → Nat
  | '.' :: cs => 1 + digitCount cs
  | _ => 0

def numberLength (cs : List Char) : Nat :=
  let whole := digitCount cs
  let fraction := fractionLength (cs.drop whole)
  whole + fraction + exponentLength (cs.drop (whole + fraction))

def startsNumber : List Char → Bool
  | '.' :: c :: _ => c.isDigit
  | c :: _ => c.isDigit
  | [] => false

def isNameStart (c : Char) : Bool := Text.isLetter c || c == '_'

def isNamePart (c : Char) : Bool := Text.isLetter c || Text.isNumeral c || c == '_'

/-- The kind of the lexeme that begins with `c` and goes on in `cs`, and its length. -/
def classify (c : Char) (cs : List Char) : LexemeKind × Nat :=
  match c, cs with
  | '+', _ => (.plus, 1)
  | '-', _ => (.minus, 1)
  | '*', _ => (.star, 1)
  | '/', _ => (.slash, 1)
  | '^', _ => (.caret, 1)
  | '=', _ => (.equal, 1)
  | ',', _ => (.comma, 1)
  | '(', _ => (.leftParen, 1)
  | ')', _ => (.rightParen, 1)
  | '\x7b', _ => (.leftBrace, 1)
  | '\x7d', _ => (.rightBrace, 1)
  | '<', '=' :: _ => (.lessEqual, 2)
  | '<', '>' :: _ => (.notEqual, 2)
  | '<', _ => (.less, 1)
  | '>', '=' :: _ => (.greaterEqual, 2)
  | '>', _ => (.greater, 1)
  | '!', '=' :: _ => (.notEqual, 2)
  | '"', _ =>
    match Text.splitAfterQuote cs with
    | some (body, _) => (.string, 1 + body.length)
    | none => (.unterminated, 1 + cs.length)
  | '[', _ =>
    match FieldReference.splitField (c :: cs) with
    | some (field, _) => (.field, field.length)
    | none => (.unterminated, 1 + cs.length)
  | _, _ =>
    if startsNumber (c :: cs) then (.number, numberLength (c :: cs))
    else if isNameStart c then (.identifier, 1 + (cs.takeWhile isNamePart).length)
    else (.unexpected, 1)

/-- The lexemes of a text that starts at place `start`, without its first `skip` characters. -/
def scanFrom (skip start : Nat) : List Char → List Lexeme
  | [] => []
  | c :: cs =>
    let next := start + c.utf8Size
    match skip with
    | skip + 1 => scanFrom skip next cs
    | 0 =>
      if Text.isBlank c then scanFrom 0 next cs
      else
        let (kind, length) := classify c cs
        ⟨kind, start, (c :: cs).take length⟩ :: scanFrom (length - 1) next cs

/-- The lexemes of a text. White space separates them and is not part of any, string literals and
fields aside. -/
def scan (cs : List Char) : List Lexeme := scanFrom 0 0 cs

end Lexeme

end OlapFormula
