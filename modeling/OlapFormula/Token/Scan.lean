import OlapFormula.Function.Catalog
import OlapFormula.Token.Calls
import OlapFormula.Token.References

/-!
# The tokens of a formula
-/

namespace OlapFormula

namespace Token

/-- By the place where they begin; where several begin the outer ones come first. -/
def precedes (a b : Token) : Bool :=
  a.span.start < b.span.start ||
    (a.span.start == b.span.start &&
      (b.span.stop < a.span.stop ||
        (a.span.stop == b.span.stop && b.kind.rank ≤ a.kind.rank)))

/-- The tokens of canonical text, which need not be a formula yet; `item?` knows what names stand for. -/
def scanWith (item? : String → Option FunctionItem) (cs : List Char) : List Token :=
  let lexemes := Lexeme.scan cs
  let dimensions := dimensions cs lexemes
  let tokens := calls item? cs dimensions lexemes ++ dimensions.map (·.toToken) ++
    measures lexemes ++ numbers lexemes ++ brackets cs
  tokens.mergeSort precedes

/-- The tokens of canonical text where names stand for what the catalog has. -/
def scan (flags : FeatureFlags) (backend : Backend) (cs : List Char) : List Token :=
  scanWith (Catalog.item? flags backend) cs

/-- Which of two neighbours a place between them belongs to. -/
inductive Direction
  | backward
  | forward
deriving Repr, DecidableEq

/-- The first of the elements before which none of the others comes. -/
def firstLeast? {α : Type} (before : α → α → Bool) : List α → Option α
  | [] => none
  | x :: xs =>
    match firstLeast? before xs with
    | some y => if before y x then some y else some x
    | none => some x

/-- The more telling of two tokens, and the shorter of two that tell as much. -/
def isCloser (a b : Token) : Bool :=
  a.kind.rank < b.kind.rank ||
    (a.kind.rank == b.kind.rank && a.interaction.length < b.interaction.length)

def endsAt (place : Nat) (token : Token) : Bool :=
  token.interaction.stop == place && token.interaction.start < place

def startsAt (place : Nat) (token : Token) : Bool :=
  token.interaction.start == place && place < token.interaction.stop

/-- Where tokens meet, those on the side of the direction. -/
def onSide (place : Nat) (direction : Direction) (tokens : List Token) : List Token :=
  if tokens.any (endsAt place) && tokens.any (startsAt place) then
    match direction with
    | .backward => tokens.filter (·.interaction.stop == place)
    | .forward => tokens.filter (·.interaction.start == place)
  else tokens

/-- The token that a place belongs to. -/
def at? (tokens : List Token) (place : Nat) (direction : Direction) : Option Token :=
  firstLeast? isCloser
    (onSide place direction (tokens.filter (·.interaction.touches place)))

/-- The types that the innermost argument around a place accepts. -/
def expectedTypes (tokens : List Token) (place : Nat) : List DataType :=
  let arguments := tokens.filter fun token =>
    token.kind == .argument && token.interaction.touches place
  match firstLeast? (fun a b => a.interaction.length < b.interaction.length) arguments with
  | some argument => argument.types
  | none => []

end Token

end OlapFormula
