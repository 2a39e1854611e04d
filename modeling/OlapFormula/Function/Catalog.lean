import OlapFormula.Function.Item

/-!
# The catalog of functions
-/

namespace OlapFormula.Catalog

def required (types : List DataType) : ArgumentContract := { types }

def optional (types : List DataType) : ArgumentContract := { types, optional := true }

def numbers (count : Nat) : List ArgumentContract := List.replicate count (required [.number])

def date : ArgumentContract := required [.date, .string]

def arithmetic (kind : FunctionKind) (usage description : String) : FunctionItem :=
  { kind, usage, description, arguments := numbers 2 }

def comparison (kind : FunctionKind) (usage : String) : FunctionItem :=
  { kind, usage
    description := "Comparison; a member filter when a is a dimension"
    arguments := [required [.any], { types := [.any], sameTypeAs := some 0 }]
    dimensions := .filter }

def membership (kind : FunctionKind) (usage description : String) : FunctionItem :=
  { kind, usage, description
    arguments := [required [.any], required [.list]]
    dimensions := .filter }

def operators : List FunctionItem :=
  [ arithmetic .add "a + b" "Sum of two numbers",
    arithmetic .subtract "a - b" "Difference of two numbers",
    arithmetic .multiply "a * b" "Product of two numbers",
    arithmetic .divide "a / b" "Quotient of two numbers",
    arithmetic .power "a ^ b" "a raised to the power b",
    { kind := .power
      name := "POWER"
      usage := "POWER(base, exponent)"
      description := "base raised to the power exponent"
      arguments := numbers 2 },
    { kind := .negate
      usage := "-a"
      description := "Negation"
      arguments := numbers 1
      internal := true },
    comparison .equal "a = b",
    comparison .notEqual "a != b",
    comparison .less "a < b",
    comparison .lessEqual "a <= b",
    comparison .greater "a > b",
    comparison .greaterEqual "a >= b",
    membership .isIn "a IN \x7bx, y, ...\x7d" "a equals one of the listed values",
    membership .notIn "a NOT IN \x7bx, y, ...\x7d" "a equals none of the listed values" ]

def connective (kind : FunctionKind) (usage description : String) : FunctionItem :=
  { kind, usage, description
    arguments := [required [.boolean], required [.boolean]]
    arity := .repeatingLast [required [.boolean], required [.boolean]]
    dimensions := .filter }

def logical : List FunctionItem :=
  [ connective .and "AND(condition, condition, ...)" "True when all conditions hold",
    connective .or "OR(condition, condition, ...)" "True when any condition holds",
    { kind := .not
      usage := "NOT condition"
      description := "Logical negation"
      arguments := [required [.boolean]]
      dimensions := .filter },
    { kind := .ifThen
      usage := "IF(condition, then, [else])"
      description := "Conditional value"
      arguments := [required [.boolean], required [.any],
        { types := [.any], optional := true, sameTypeAs := some 1 }]
      strings := .gated },
    { kind := .isNullHana
      usage := "ISNULL(value)"
      description := "True when value is null"
      arguments := [required [.any]]
      backends := [.hana]
      dimensions := .gated },
    { kind := .isNullBw
      usage := "ISNULL(measure)"
      description := "True when the measure has no value"
      arguments := [required [.measure]]
      backends := [.bw] } ]

def ofNumber (kind : FunctionKind) (usage description : String) : FunctionItem :=
  { kind, usage, description, arguments := numbers 1 }

def rounding (kind : FunctionKind) (usage description : String) : FunctionItem :=
  { kind, usage, description, arguments := [required [.number], optional [.number]] }

def extremum (kind : FunctionKind) (usage description : String) : FunctionItem :=
  { kind, usage, description, arguments := numbers 1, arity := .repeatingLast (numbers 1) }

def conversion (kind : FunctionKind) (usage description : String) : FunctionItem :=
  { kind, usage, description, arguments := [required [.number, .boolean]] }

def math : List FunctionItem :=
  [ ofNumber .abs "ABS(number)" "Absolute value",
    ofNumber .sqrt "SQRT(number)" "Square root",
    ofNumber .log "LOG(number)" "Natural logarithm",
    ofNumber .log10 "LOG10(number)" "Base-10 logarithm",
    ofNumber .exp "EXP(number)" "e raised to number",
    ofNumber .floor "FLOOR(number)" "Round down to an integer",
    ofNumber .ceil "CEIL(number)" "Round up to an integer",
    arithmetic .mod "MOD(number, divisor)" "Remainder of a division",
    rounding .round "ROUND(number, [digits])" "Round to a number of decimal digits",
    rounding .trunc "TRUNC(number, [digits])" "Truncate to a number of decimal digits",
    extremum .min "MIN(number, ...)" "Smallest value",
    extremum .max "MAX(number, ...)" "Largest value",
    conversion .int "INT(value)" "Convert to an integer",
    conversion .float "FLOAT(value)" "Convert to a floating point number" ]

/-- A function of text, whose string and dimension arguments are subject to the flags. -/
def ofText (kind : FunctionKind) (usage description : String)
    (arguments : List ArgumentContract) : FunctionItem :=
  { kind, usage, description, arguments, strings := .gated, dimensions := .gated }

def text : List FunctionItem :=
  [ ofText .length "LENGTH(text)" "Number of characters" [required [.string]],
    ofText .upper "UPPER(text)" "Upper-case text" [required [.string]],
    ofText .lower "LOWER(text)" "Lower-case text" [required [.string]],
    { ofText .concat "CONCAT(text, text, ...)" "Join texts"
        [required [.string], required [.string]] with
      arity := .repeatingLast [required [.string], required [.string]] },
    { ofText .like "LIKE(text, pattern)" "Pattern match with % and _"
        [required [.string], required [.string]] with
      backends := [.hana] },
    ofText .substring "SUBSTRING(text, start, [length])" "Part of a text"
      [required [.string], required [.number], optional [.number]],
    { ofText .replace "REPLACE(text, search, replacement, [occurrence])"
        "Replace occurrences of search"
        [required [.string], required [.string], required [.string], optional [.number]] with
      arity := .either 3 4 } ]

def difference (kind : FunctionKind) (usage description : String) : FunctionItem :=
  { kind, usage, description
    arguments := [date, date]
    feature := some .dateFunctions
    dimensions := .always }

def dates : List FunctionItem :=
  [ { kind := .dateDiffHana
      usage := "DATEDIFF(date, date, [\"Day\"|\"Month\"|\"Year\"])"
      description := "Difference between two dates in the given granularity"
      arguments := [date, date, optional [.string]]
      backends := [.hana]
      feature := some .dateFunctions
      dimensions := .always },
    { difference .dateDiffBw "DATEDIFF(date, date)" "Days between two dates" with
      backends := [.bw] },
    { difference .daysBetween "CALCDAYSBETWEEN(date, date)" "First date minus second date" with
      internal := true },
    { difference .monthsBetween "CALCMONTHSBETWEEN(date, date)" "First date minus second date" with
      internal := true },
    { difference .yearsBetween "CALCYEARSBETWEEN(date, date)" "First date minus second date" with
      internal := true } ]

/-- An aggregation of a measure over axes. -/
def aggregation (kind : FunctionKind) (usage description : String) : FunctionItem :=
  { kind, usage, description
    arguments := [required [.measure], required [.dimension]]
    arity := .repeatingLast [required [.measure], required [.dimension]]
    dimensions := .always }

def olap : List FunctionItem :=
  [ { kind := .restrict
      usage := "RESTRICT(measure, filter, ...)"
      description := "Measure restricted to dimension members"
      arguments := [required [.measure], required [.dimensionFilter]]
      arity := .repeatingLast [required [.measure], required [.dimensionFilter]]
      dimensions := .filter },
    { kind := .grandTotal
      usage := "GRANDTOTAL(measure)"
      description := "Measure over all members"
      arguments := [required [.measure]] },
    aggregation .subtotal "SUBTOTAL(measure, dimension, ...)"
      "Measure aggregated over the given dimensions",
    { kind := .subtotalByIds
      usage := "SUBTOTALBYIDS(measure, \x7bids\x7d)"
      description := "Subtotal primitive"
      arguments := [required [.measure], required [.list]]
      internal := true },
    { kind := .percentOfGrandTotal
      usage := "PERCENTOFGRANDTOTAL(measure)"
      description := "Share of the grand total"
      arguments := [required [.measure]]
      feature := some .percentageFunctions },
    { aggregation .percentOfSubtotal "PERCENTOFSUBTOTAL(measure, dimension, ...)"
        "Share of the subtotal over the given dimensions" with
      feature := some .percentageFunctions } ]

def items : List FunctionItem := operators ++ logical ++ math ++ text ++ dates ++ olap

/-- The variants under a name, in upper or lower case. -/
def variants (name : String) : List FunctionItem :=
  items.filter fun item => item.name.toList == Text.upper name.toList

/-- The first item of a kind. -/
def ofKind? (kind : FunctionKind) : Option FunctionItem := items.find? (·.kind == kind)

/-- Why a name cannot be called. -/
inductive Unavailable
  | unknown
  | disabled
  | internal
  | backend (backend : Backend)
deriving Repr, DecidableEq

/-- The variant that a name stands for on a backend. -/
def lookup (flags : FeatureFlags) (backend : Backend) (allowInternal : Bool) (name : String) :
    Except Unavailable FunctionItem :=
  let candidates := variants name
  let visible := candidates.filter fun item => allowInternal || !item.internal
  let enabled := visible.filter (·.isEnabled flags)
  if candidates.isEmpty then .error .unknown
  else if visible.isEmpty then .error .internal
  else if enabled.isEmpty then .error .disabled
  else
    match enabled.find? (·.supports backend) with
    | some item => .ok item
    | none => .error (.backend backend)

/-- The item that a call in formula text stands for. -/
def resolve (flags : FeatureFlags) (backend : Backend) (name : String) :
    Except Unavailable FunctionItem :=
  lookup flags backend false name

/-- What a name stands for, if it can be called. -/
def item? (flags : FeatureFlags) (backend : Backend) (name : String) : Option FunctionItem :=
  (resolve flags backend name).toOption

/-- The item that an operator stands for; it may be an internal one. -/
def resolveOperator (flags : FeatureFlags) (backend : Backend) (name : String) :
    Except Unavailable FunctionItem :=
  lookup flags backend true name

/-- Listings go by category and then by name. -/
def precedes (a b : FunctionItem) : Bool :=
  a.category.rank < b.category.rank || (a.category == b.category && a.name ≤ b.name)

/-- What formula text can call on a backend, in the order of a listing. -/
def available (flags : FeatureFlags) (backend : Backend) : List FunctionItem :=
  let listed := items.filter fun item =>
    !item.internal && item.isEnabled flags && item.supports backend
  listed.mergeSort precedes

end OlapFormula.Catalog
