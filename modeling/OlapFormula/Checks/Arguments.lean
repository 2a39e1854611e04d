import OlapFormula.Checks.Call

/-!
# Names and arguments of a call

The name stands for an item, the number of arguments is one that the item takes, and each argument is
of a kind and a type that the item takes in its place.
-/

namespace OlapFormula.Checks

/-- Why the name cannot be called. -/
def unavailableText (name : String) : Catalog.Unavailable → String
  | .unknown => "Unknown function " ++ name
  | .disabled => "Function " ++ name ++ " is not enabled"
  | .internal => "Function " ++ name ++ " cannot be used in formulas"
  | .backend backend => "Function " ++ name ++ " is not supported on " ++ backend.name

def knownFunction (call : CallSite) : List Message :=
  match call.item with
  | .ok _ => []
  | .error reason =>
    let name := String.ofList (Text.upper call.name.toList)
    [{ code := .functionInvalid, text := unavailableText name reason }]

def argumentsText (count : Nat) : String :=
  toString count ++ if count = 1 then " argument" else " arguments"

/-- What is wrong with a number of arguments that the item does not take. -/
def countMessage (item : FunctionItem) (count : Nat) : Message :=
  let found := ", found " ++ toString count
  match item.arity with
  | .either a b =>
    { code := .argumentCountMismatch
      text := item.name ++ " expected " ++ toString a ++ " or " ++ toString b ++ " arguments" ++ found }
  | .range required _ =>
    if count < required then
      { code := .tooFewArguments
        text := item.name ++ " requires at least " ++ argumentsText required ++ found }
    else
      { code := .tooManyArguments
        text := item.name ++ " accepts at most " ++
          argumentsText (item.arity.maximum.getD count) ++ found }

def arity (call : CallSite) : List Message :=
  call.withItem fun item =>
    if item.arity.accepts call.args.length then [] else [countMessage item call.args.length]

def argumentText (position : Nat) (item : FunctionItem) : String :=
  "Argument " ++ toString (position + 1) ++ " of " ++ item.name

/-- Strings where a flag has to allow them. -/
def stringUsage (flags : FeatureFlags) (call : CallSite) : List Message :=
  call.withItem fun item =>
    if item.strings == .allowed || flags.stringArguments then []
    else
      call.eachArgument fun position arg =>
        if arg.type.isString then
          [{ code := .stringNotSupported
             text := argumentText position item ++ ": text arguments are not supported" }]
        else []

def allowsDimensions (flags : FeatureFlags) : DimensionUsage → Bool
  | .never => false
  | .gated => flags.dimensionArguments
  | .filter | .always => true

/-- References to dimensions where the item has no use for them; and of versions everywhere but in a
member filter. -/
def dimensionUsage (flags : FeatureFlags) (call : CallSite) : List Message :=
  call.withItem fun item =>
    (call.args.filterMap Node.dimension?).flatMap fun ref =>
      if !allowsDimensions flags item.dimensions then
        [{ code := .dimensionNotSupported
           text := item.name ++ " does not accept dimension " ++ ref.reference.text }]
      else if ref.isVersion && item.dimensions != .filter then
        [{ code := .versionDimensionNotAllowed
           text := "Version dimension " ++ ref.reference.text ++
             " can only be used in a member filter" }]
      else []

/-- An argument of a type that its place does not take. -/
structure Mismatch where
  position : Nat
  contract : ArgumentContract
  actual : DataType

def mismatches (flags : FeatureFlags) (item : FunctionItem) (types : List DataType) :
    List Mismatch :=
  (types.mapIdx fun position actual =>
    match item.contract? position with
    | none => []
    | some contract =>
      if contract.types.any fun expected => flags.accepts expected actual then []
      else [⟨position, contract, actual⟩]).flatten

def mismatchMessage (item : FunctionItem) (mismatch : Mismatch) : Message :=
  { code := .typeMismatch
    text := argumentText mismatch.position item ++ " must be " ++ mismatch.contract.typesText ++
      ", found " ++ mismatch.actual.name }

/-- Two arguments that would have to be of the same types are spoken of together. -/
def mismatchMessages (item : FunctionItem) (found : List Mismatch) : List Message :=
  match found with
  | [a, b] =>
    if a.contract.types = b.contract.types then
      [{ code := .typeMismatchPair
         text := "Arguments " ++ toString (a.position + 1) ++ " and " ++ toString (b.position + 1) ++
           " of " ++ item.name ++ " must be " ++ a.contract.typesText ++ ", found " ++
           a.actual.name ++ " and " ++ b.actual.name }]
    else found.map (mismatchMessage item)
  | _ => found.map (mismatchMessage item)

def argumentTypes (flags : FeatureFlags) (call : CallSite) : List Message :=
  call.withItem fun item =>
    mismatchMessages item (mismatches flags item (call.args.map Node.type))

/-- A list of mixed types beside an argument that is none. -/
def mixedList (call : CallSite) : List Message :=
  match call.args with
  | [a, b] =>
    if (a.type == .listOfMixed) != (b.type == .listOfMixed) then
      [{ code := .mixedList
         text := call.displayName ++ " does not accept a list of mixed value types" }]
    else []
  | _ => []

/-- An argument that has to be like another one, where both types are known. -/
def sameType (flags : FeatureFlags) (call : CallSite) : List Message :=
  call.withItem fun item =>
    call.eachArgument fun position arg =>
      match (item.contract? position).bind (·.sameTypeAs) with
      | none => []
      | some other =>
        match call.args[other]? with
        | none => []
        | some reference =>
          let expected := reference.type
          let actual := arg.type
          if expected == .unknown || actual == .unknown || flags.areCompatible expected actual then []
          else
            [{ code := .sameTypeMismatch
               text := argumentText position item ++ " must have the same type as argument " ++
                 toString (other + 1) ++ " (" ++ expected.name ++ "), found " ++ actual.name }]

end OlapFormula.Checks
