import OlapFormula.Expr.Reader
import OlapFormula.FeatureFlags
import OlapFormula.MemberKey

/-!
# Settings

What the host of the compiler decides once.
-/

namespace OlapFormula

/-- The separators of formula text as it is shown and typed. -/
structure Locale where
  decimal : Char
  argument : Char
deriving Repr, DecidableEq

namespace Locale

/-- The separators of formula text as it is stored. -/
def canonical : Locale := ⟨'.', ','⟩

/-- The separators where numbers have a decimal comma. -/
def comma : Locale := ⟨',', ';'⟩

def isCanonical (locale : Locale) : Bool := locale == canonical

def ofDecimal (separator : Char) : Locale := if separator = ',' then comma else canonical

end Locale

structure Settings where
  locale : Locale := .canonical
  flags : FeatureFlags := {}
  limits : NestingLimits := {}
  dateOrder : DateOrder := .monthFirst
deriving Repr, DecidableEq

end OlapFormula
