import OlapFormula.Checks.Arguments
import OlapFormula.Checks.Constants
import OlapFormula.Checks.Members

/-!
# The checks of a call

The checks are made one after the other, and each says what it has to say; only after an unknown name or
a wrong number of arguments there is nothing more to check.
-/

namespace OlapFormula

inductive Check
  | knownFunction
  | arity
  | stringUsage
  | dimensionUsage
  | argumentTypes
  | mixedList
  /-- What holds for this function only. -/
  | item
  | sameType
deriving Repr, DecidableEq

/-- Whether the checks after one are made. -/
inductive Flow
  | continue
  | halt
deriving Repr, DecidableEq

namespace Check

/-- All checks in the order in which they are made. -/
def all : List Check :=
  [knownFunction, arity, stringUsage, dimensionUsage, argumentTypes, mixedList, item, sameType]

def name : Check → String
  | knownFunction => "known-function"
  | arity => "arity"
  | stringUsage => "string-usage"
  | dimensionUsage => "dimension-usage"
  | argumentTypes => "argument-types"
  | mixedList => "mixed-list"
  | item => "item"
  | sameType => "same-type"

def ofName? (text : String) : Option Check := all.find? (·.name == text)

def itemMessages (item : FunctionItem) (args : List Node) : List Message :=
  match item.category with
  | .olap => Checks.members item.kind args
  | _ => Checks.constants item.kind args

def messages (flags : FeatureFlags) (call : CallSite) : Check → List Message
  | knownFunction => Checks.knownFunction call
  | arity => Checks.arity call
  | stringUsage => Checks.stringUsage flags call
  | dimensionUsage => Checks.dimensionUsage flags call
  | argumentTypes => Checks.argumentTypes flags call
  | mixedList => Checks.mixedList call
  | item => call.withItem fun found => itemMessages found call.args
  | sameType => Checks.sameType flags call

/-- Whether the check leaves nothing more to check. -/
def halts (messages : List Message) : Check → Bool
  | knownFunction | arity => !messages.isEmpty
  | _ => false

/-- Makes some checks. -/
def run (flags : FeatureFlags) (call : CallSite) : List Check → List Message × Flow
  | [] => ([], .continue)
  | check :: checks =>
    let found := check.messages flags call
    if check.halts found then (found, .halt)
    else
      let (more, flow) := run flags call checks
      (found ++ more, flow)

end Check

end OlapFormula
