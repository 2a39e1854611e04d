import OlapFormula.Decimal.Power
import OlapFormula.Function.Kind
import OlapFormula.Node.Literal
import OlapFormula.Text.Basic
import OlapFormula.Text.Case
import OlapFormula.Text.Search

/-!
# Functions of constants

What a function gives for constants. There is no result where a function is not defined or the result
is out of range; such a call stays as it is, and validation says what is wrong with it.
-/

namespace OlapFormula

/-- What every element is, if each is something. -/
def allOf {α β : Type} (extract : α → Option β) : List α → Option (List β)
  | [] => some []
  | x :: xs => do return (← extract x) :: (← allOf extract xs)

namespace Folding

/-- The number of places that `ROUND` and `TRUNC` keep. -/
def places? : List Decimal → Option Nat
  | [] => some 0
  | [digits] => do
    let n ← digits.toInt64?
    if 0 ≤ n && n ≤ 28 then some n.toNat else none
  | _ => none

def ofNumbers (kind : FunctionKind) (args : List Decimal) : Option Decimal :=
  match kind, args with
  | .add, [a, b] => a.add? b
  | .subtract, [a, b] => a.sub? b
  | .multiply, [a, b] => a.mul? b
  | .divide, [a, b] => a.div? b
  | .power, [a, b] => a.pow? b
  | .mod, [a, b] => a.mod? b
  | .negate, [a] => some a.neg
  | .abs, [a] => some a.abs
  | .sqrt, [a] => a.sqrt?
  | .log, [a] => a.ln?
  | .log10, [a] => a.log10?
  | .exp, [a] => a.exp?
  | .floor, [a] | .int, [a] => some a.floor
  | .ceil, [a] => some a.ceil
  | .round, a :: digits => do return a.round (← places? digits)
  | .trunc, a :: digits => do return a.trunc (← places? digits)
  | .min, first :: rest => some (rest.foldl Decimal.min first)
  | .max, first :: rest => some (rest.foldl Decimal.max first)
  | _, _ => none

/-- The value of a comparison of two things in this order. -/
def ofOrdering (kind : FunctionKind) (ordering : Ordering) : Option Bool :=
  match kind with
  | .equal => some (ordering == .eq)
  | .notEqual => some (ordering != .eq)
  | .less => some (ordering == .lt)
  | .lessEqual => some (ordering != .gt)
  | .greater => some (ordering == .gt)
  | .greaterEqual => some (ordering != .lt)
  | _ => none

def compareNumbers (kind : FunctionKind) : List Decimal → Option Bool
  | [a, b] => ofOrdering kind (a.compare b)
  | _ => none

/-- Strings compare by their code points. -/
def compareStrings (kind : FunctionKind) : List String → Option Bool
  | [a, b] => ofOrdering kind (compare a b)
  | _ => none

def ofBooleans (kind : FunctionKind) (args : List Bool) : Option Bool :=
  match kind, args with
  | .and, args => some (args.all id)
  | .or, args => some (args.any id)
  | .not, [a] => some !a
  | .equal, [a, b] => some (a == b)
  | .notEqual, [a, b] => some (a != b)
  | _, _ => none

def booleanToNumber : List Bool → Option Decimal
  | [true] => some .one
  | [false] => some .zero
  | _ => none

/-- The part of a text from a position, which counts from one; to the end unless a length is given. -/
def substring? (cs : List Char) (start : Decimal) (length : Option Decimal) :
    Option (List Char) := do
  let start ← start.toInt64?
  if start < 1 then none
  else
    let rest := cs.drop (start - 1).toNat
    match length with
    | none => some rest
    | some length => do
      let length ← length.toInt64?
      if length < 0 then none else some (rest.take length.toNat)

/-- The first argument of these functions is a string; what the others have to be depends on the
function. -/
def ofText (kind : FunctionKind) (text : String) (rest : List Literal) : Option String :=
  let cs := text.toList
  match kind, rest with
  | .upper, [] => some (String.ofList (Text.upper cs))
  | .lower, [] => some (String.ofList (Text.lower cs))
  | .concat, rest => (allOf Literal.string? rest).map (Text.joined "" <| text :: ·)
  | .substring, [.number start] => (substring? cs start none).map String.ofList
  | .substring, [.number start, .number length] =>
    (substring? cs start (some length)).map String.ofList
  | .replace, [.string search, replacement] =>
    if search.isEmpty then some text
    else do
      let replacement ← replacement.string?
      return String.ofList (Text.replace search.toList replacement.toList cs)
  | _, _ => none

def matchesPattern : List String → Option Bool
  | [text, pattern] => some (Text.like text.toList pattern.toList)
  | _ => none

/-- The value of a call with constants, at least one, for arguments. -/
def ofConstants (kind : FunctionKind) (args : List Literal) : Option Literal :=
  let numbers := allOf Literal.number? args
  let booleans := allOf Literal.boolean? args
  let strings := allOf Literal.string? args
  match kind with
  | .add | .subtract | .multiply | .divide | .power | .negate | .abs | .sqrt | .log | .log10
  | .exp | .floor | .ceil | .mod | .round | .trunc | .min | .max =>
    (numbers.bind (ofNumbers kind)).map .number
  | .int =>
    (numbers.bind (ofNumbers kind)).map .number <|> (booleans.bind booleanToNumber).map .number
  | .float => (booleans.bind booleanToNumber).map .number
  | .equal | .notEqual =>
    (numbers.bind (compareNumbers kind)).map .boolean <|>
      (booleans.bind (ofBooleans kind)).map .boolean <|>
      (strings.bind (compareStrings kind)).map .boolean
  | .less | .lessEqual | .greater | .greaterEqual =>
    (numbers.bind (compareNumbers kind)).map .boolean <|>
      (strings.bind (compareStrings kind)).map .boolean
  | .and | .or | .not => (booleans.bind (ofBooleans kind)).map .boolean
  | .like => (strings.bind matchesPattern).map .boolean
  | .upper | .lower | .concat | .substring | .replace =>
    match args with
    | .string text :: rest => (ofText kind text rest).map .string
    | _ => none
  | .length =>
    match args with
    | [.string text] => (Decimal.ofInt? text.toList.length).map .number
    | _ => none
  | _ => none

end Folding

end OlapFormula
