import OlapFormula.Text.Basic

/-!
# Messages

Everything that can be said about a formula. A message has a code, which does not change when the
wording does, and the code determines how severe the message is unless something else is said.
-/

namespace OlapFormula

inductive Severity
  | error
  | warning
  | info
deriving Repr, DecidableEq

def Severity.name : Severity → String
  | error => "error"
  | warning => "warning"
  | info => "info"

/-- Syntax, names, arguments, domains of functions, the formula as a whole, separators: the codes are
grouped by what they are about. -/
inductive MessageCode
  | syntaxError
  | nestingTooDeep
  | invalidMeasure
  | invalidDimension
  | invalidProperty
  | invalidHierarchy
  | invalidSecondField
  | functionInvalid
  | tooFewArguments
  | tooManyArguments
  | argumentCountMismatch
  | typeMismatch
  | typeMismatchPair
  | mixedList
  | stringNotSupported
  | dimensionNotSupported
  | nonUniqueDimension
  | tooManyHierarchicalDimensions
  | versionDimensionNotAllowed
  | singleValueFilterRequired
  | sameTypeMismatch
  | invalidFilter
  | invalidGranularity
  | duplicateMember
  | divideByZero
  | logDomain
  | sqrtDomain
  | powerZeroNegative
  | powerNegativeFractional
  | cyclicalDependency
  | stringAtRoot
  | nonNumericRoot
  | wrongDecimalSeparator
  | wrongArgumentSeparator
deriving Repr, DecidableEq

namespace MessageCode

def all : List MessageCode :=
  [syntaxError, nestingTooDeep, invalidMeasure, invalidDimension, invalidProperty,
    invalidHierarchy, invalidSecondField, functionInvalid, tooFewArguments, tooManyArguments,
    argumentCountMismatch, typeMismatch, typeMismatchPair, mixedList, stringNotSupported,
    dimensionNotSupported, nonUniqueDimension, tooManyHierarchicalDimensions,
    versionDimensionNotAllowed, singleValueFilterRequired, sameTypeMismatch, invalidFilter,
    invalidGranularity, duplicateMember, divideByZero, logDomain, sqrtDomain,
    powerZeroNegative, powerNegativeFractional, cyclicalDependency, stringAtRoot,
    nonNumericRoot, wrongDecimalSeparator, wrongArgumentSeparator]

def number : MessageCode → Nat
  | syntaxError => 1000
  | nestingTooDeep => 1001
  | invalidMeasure => 2001
  | invalidDimension => 2002
  | invalidProperty => 2003
  | invalidHierarchy => 2004
  | invalidSecondField => 2005
  | functionInvalid => 3000
  | tooFewArguments => 3001
  | tooManyArguments => 3002
  | argumentCountMismatch => 3003
  | typeMismatch => 3004
  | typeMismatchPair => 3005
  | mixedList => 3006
  | stringNotSupported => 3007
  | dimensionNotSupported => 3008
  | nonUniqueDimension => 3009
  | tooManyHierarchicalDimensions => 3010
  | versionDimensionNotAllowed => 3011
  | singleValueFilterRequired => 3012
  | sameTypeMismatch => 3013
  | invalidFilter => 3014
  | invalidGranularity => 3015
  | duplicateMember => 3016
  | divideByZero => 4001
  | logDomain => 4002
  | sqrtDomain => 4003
  | powerZeroNegative => 4004
  | powerNegativeFractional => 4005
  | cyclicalDependency => 5001
  | stringAtRoot => 5002
  | nonNumericRoot => 5003
  | wrongDecimalSeparator => 6001
  | wrongArgumentSeparator => 6002

def kind : MessageCode → String
  | syntaxError => "SYNTAX_ERROR"
  | nestingTooDeep => "NESTING_TOO_DEEP"
  | invalidMeasure => "INVALID_MEASURE"
  | invalidDimension => "INVALID_DIMENSION"
  | invalidProperty => "INVALID_PROPERTY"
  | invalidHierarchy => "INVALID_HIERARCHY"
  | invalidSecondField => "INVALID_SECOND_FIELD"
  | functionInvalid => "FUNCTION_INVALID"
  | tooFewArguments => "TOO_FEW_ARGUMENTS"
  | tooManyArguments => "TOO_MANY_ARGUMENTS"
  | argumentCountMismatch => "ARGUMENT_COUNT_MISMATCH"
  | typeMismatch => "TYPE_MISMATCH"
  | typeMismatchPair => "TYPE_MISMATCH_PAIR"
  | mixedList => "MIXED_LIST"
  | stringNotSupported => "STRING_NOT_SUPPORTED"
  | dimensionNotSupported => "DIMENSION_NOT_SUPPORTED"
  | nonUniqueDimension => "NON_UNIQUE_DIMENSION"
  | tooManyHierarchicalDimensions => "TOO_MANY_HIERARCHICAL_DIMENSIONS"
  | versionDimensionNotAllowed => "VERSION_DIMENSION_NOT_ALLOWED"
  | singleValueFilterRequired => "SINGLE_VALUE_FILTER_REQUIRED"
  | sameTypeMismatch => "SAME_TYPE_MISMATCH"
  | invalidFilter => "INVALID_FILTER"
  | invalidGranularity => "INVALID_GRANULARITY"
  | duplicateMember => "DUPLICATE_MEMBER"
  | divideByZero => "DIVIDE_BY_ZERO"
  | logDomain => "LOG_DOMAIN"
  | sqrtDomain => "SQRT_DOMAIN"
  | powerZeroNegative => "POWER_ZERO_NEGATIVE"
  | powerNegativeFractional => "POWER_NEGATIVE_FRACTIONAL"
  | cyclicalDependency => "CYCLICAL_DEPENDENCY"
  | stringAtRoot => "STRING_AT_ROOT"
  | nonNumericRoot => "NON_NUMERIC_ROOT"
  | wrongDecimalSeparator => "WRONG_DECIMAL_SEPARATOR"
  | wrongArgumentSeparator => "WRONG_ARGUMENT_SEPARATOR"

def severity : MessageCode → Severity
  | duplicateMember => .warning
  | _ => .error

end MessageCode

structure Message where
  code : MessageCode
  text : String
  severity : Severity := code.severity
deriving Repr, DecidableEq

namespace Message

def isError (message : Message) : Bool := message.severity == .error

/-- The message on a line of its own. -/
def line (message : Message) : String :=
  message.severity.name ++ " [" ++ message.code.kind ++ " " ++ toString message.code.number ++ "]: " ++
    message.text

def hasErrors (messages : List Message) : Bool := messages.any isError

def errors (messages : List Message) : List Message := messages.filter isError

def lines (messages : List Message) : String := Text.joined "\n" (messages.map line)

end Message

end OlapFormula
