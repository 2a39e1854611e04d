import OlapFormula.Calendar
import OlapFormula.Text.Basic
import OlapFormula.Text.Case
import OlapFormula.Text.Letter

/-!
# Keys of the members of date dimensions

The members are keyed by `YYYYMMDD` for a day, `YYYYMM` for a month and `YYYYQ` for a quarter. People
write dates in other ways, and `memberKey?` finds the key that they mean.
-/

namespace OlapFormula

/-- Which comes first in a date such as `03/04/2024`. -/
inductive DateOrder
  | monthFirst
  | dayFirst
deriving Repr, DecidableEq

def Granularity.ofName? (text : String) : Option Granularity :=
  let cs := Text.lowerAscii text.toList
  if cs == "day".toList then some .day
  else if cs == "month".toList then some .month
  else if cs == "year".toList then some .year
  else none

namespace MemberKey

/-- The parts of a text between separators. -/
def splitBy (isSeparator : Char → Bool) : List Char → List (List Char)
  | [] => [[]]
  | c :: cs =>
    if isSeparator c then [] :: splitBy isSeparator cs
    else
      match splitBy isSeparator cs with
      | [] => [[c]]
      | first :: rest => (c :: first) :: rest

/-- Digits of any script, as many as allowed. -/
def areDigits (least most : Nat) (cs : List Char) : Bool :=
  least ≤ cs.length && cs.length ≤ most && cs.all Text.isDecimalDigit

/-- The value of ASCII digits. -/
def number? (cs : List Char) : Option Nat :=
  if cs.all Char.isDigit then some (cs.foldl (fun n c => 10 * n + (c.toNat - '0'.toNat)) 0)
  else none

/-- A number with zeros before it, so that there are `width` digits. -/
def padded (width n : Nat) : List Char :=
  let digits := Nat.toDigits 10 n
  List.replicate (width - digits.length) '0' ++ digits

def dayKey? (year month day : List Char) : Option (List Char) := do
  let year ← number? year
  let month ← number? month
  let day ← number? day
  let _ ← Date.ofParts? year month day
  return padded 4 year ++ padded 2 month ++ padded 2 day

/-- The key of a month keeps the year as it is written. -/
def monthKey? (year month : List Char) : Option (List Char) := do
  let month ← number? month
  if 1 ≤ month ∧ month ≤ 12 then some (year ++ padded 2 month) else none

def isYear (cs : List Char) : Bool := areDigits 4 4 cs

def isShort (cs : List Char) : Bool := areDigits 1 2 cs

/-- A quarter such as `2024 Q1`. -/
def quarterKey? (cs : List Char) : Option (List Char) :=
  let year := cs.take 4
  match (cs.drop 4).dropWhile Text.isBlank with
  | [mark, quarter] =>
    if isYear year && (mark == 'Q' || mark == 'q') && '1' ≤ quarter && quarter ≤ '4' then
      some (year ++ [quarter])
    else none
  | _ => none

/-- Dates in the order of the standard: `2024-03-15`, `2024-03`. -/
def dashedKey? (cs : List Char) : Option (List Char) :=
  match splitBy (· == '-') cs with
  | [year, month, day] =>
    if isYear year && isShort month && isShort day then dayKey? year month day else none
  | [year, month] => if isYear year && isShort month then monthKey? year month else none
  | _ => none

/-- Dates with the year at the end: `3/15/2024`, `15.3.2024`. -/
def yearLastKey? (order : DateOrder) (cs : List Char) : Option (List Char) :=
  match splitBy (fun c => c == '/' || c == '.') cs with
  | [first, second, year] =>
    if isShort first && isShort second && isYear year then
      match order with
      | .monthFirst => dayKey? year first second
      | .dayFirst => dayKey? year second first
    else none
  | _ => none

/-- A month such as `3/2024`. -/
def slashedMonthKey? (cs : List Char) : Option (List Char) :=
  match splitBy (· == '/') cs with
  | [month, year] => if isShort month && isYear year then monthKey? year month else none
  | _ => none

/-- Reads a number of at least one and at most `most` ASCII digits, white space before it aside. -/
def leadingNumber? (most : Nat) (cs : List Char) : Option (Nat × List Char) := do
  let cs := Text.trimStart cs
  let digits := (cs.take most).takeWhile Char.isDigit
  if digits.isEmpty then none
  else return (← number? digits, cs.drop digits.length)

/-- Reads a year: at most four digits, or any number of them after a sign. -/
def leadingYear? (cs : List Char) : Option (Int × List Char) :=
  match Text.trimStart cs with
  | '-' :: cs =>
    if (cs.head?.any Char.isDigit) then
      (leadingNumber? cs.length cs).map fun (n, rest) => (-(n : Int), rest)
    else none
  | '+' :: cs =>
    if (cs.head?.any Char.isDigit) then
      (leadingNumber? cs.length cs).map fun (n, rest) => ((n : Int), rest)
    else none
  | cs => (leadingNumber? 4 cs).map fun (n, rest) => ((n : Int), rest)

/-- The date that a key of eight bytes stands for. -/
def toDate? (key : List Char) : Option Date := do
  if Text.byteLength key != 8 then none
  let (year, cs) ← leadingYear? key
  let (month, cs) ← leadingNumber? 2 cs
  let (day, cs) ← leadingNumber? 2 cs
  if cs.isEmpty then Date.ofParts? year month day else none

end MemberKey

/-- The key of the member that a date means; none if the text is a key already or no date. -/
def memberKey? (order : DateOrder) (text : List Char) : Option (List Char) :=
  let cs := Text.trim text
  MemberKey.dashedKey? cs <|> MemberKey.yearLastKey? order cs <|> MemberKey.slashedMonthKey? cs <|>
    MemberKey.quarterKey? cs

/-- The date that a text means, if it is one of a day. -/
def Date.ofText? (order : DateOrder) (text : List Char) : Option Date :=
  MemberKey.toDate? ((memberKey? order text).getD (Text.trim text))

end OlapFormula
