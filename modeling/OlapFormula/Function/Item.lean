import OlapFormula.FeatureFlags
import OlapFormula.Function.Kind
import OlapFormula.Model.Basic
import OlapFormula.Text.Basic

/-!
# Catalog entries

What can be said of a function without looking at its arguments: how many it takes and of which types,
on which backends and under which flags it can be called.
-/

namespace OlapFormula

/-- What one argument may be. -/
structure ArgumentContract where
  types : List DataType
  optional : Bool := false
  /-- The position of the argument whose type this one has to be compatible with. -/
  sameTypeAs : Option Nat := none
deriving Repr, DecidableEq

def ArgumentContract.typesText (contract : ArgumentContract) : String :=
  Text.joined " or " (contract.types.map (·.name))

/-- How many arguments there may be. -/
inductive Arity
  /-- At least `required`, and at most `optional` more if that is bounded. -/
  | range (required : Nat) (optional : Option Nat)
  /-- One of two numbers. -/
  | either (a b : Nat)
deriving Repr, DecidableEq

namespace Arity

def required : Arity → Nat
  | range required _ => required
  | either a b => min a b

/-- The greatest number, if there is one. -/
def maximum : Arity → Option Nat
  | range required optional => optional.map (required + ·)
  | either a b => some (max a b)

def accepts (arity : Arity) (count : Nat) : Bool :=
  match arity with
  | either a b => count == a || count == b
  | range required optional => required ≤ count && optional.all fun more => count ≤ required + more

/-- As many arguments as there are contracts, the optional ones as one likes. -/
def ofContracts (contracts : List ArgumentContract) : Arity :=
  let required := (contracts.filter fun contract => !contract.optional).length
  range required (some (contracts.length - required))

/-- The last contract holds for any number of arguments. -/
def repeatingLast (contracts : List ArgumentContract) : Arity :=
  range (contracts.filter fun contract => !contract.optional).length none

end Arity

/-- Whether string arguments are subject to a flag. -/
inductive StringUsage
  | allowed
  | gated
deriving Repr, DecidableEq

/-- Where references to dimensions may be arguments. -/
inductive DimensionUsage
  | never
  /-- Where a flag allows it. -/
  | gated
  /-- As the subject of a member filter. -/
  | filter
  /-- As an axis. -/
  | always
deriving Repr, DecidableEq

structure FunctionItem where
  kind : FunctionKind
  name : String := kind.name
  /-- How a call looks, for listings. -/
  usage : String
  description : String
  arguments : List ArgumentContract
  arity : Arity := .ofContracts arguments
  backends : List Backend := Backend.all
  feature : Option Feature := none
  /-- Rewriting makes such calls; formula text cannot. -/
  internal : Bool := false
  strings : StringUsage := .allowed
  dimensions : DimensionUsage := .never
deriving Repr, DecidableEq

namespace FunctionItem

def category (item : FunctionItem) : Category := item.kind.category

def supports (item : FunctionItem) (backend : Backend) : Bool := item.backends.contains backend

def isEnabled (item : FunctionItem) (flags : FeatureFlags) : Bool :=
  item.feature.all flags.isEnabled

/-- The contract of an argument. Where any number is accepted, those past the last contract are
subject to it as well. -/
def contract? (item : FunctionItem) (position : Nat) : Option ArgumentContract :=
  match item.arguments[position]? with
  | some contract => some contract
  | none =>
    match item.arity with
    | .range _ none => item.arguments.getLast?
    | _ => none

end FunctionItem

end OlapFormula
