import OlapFormula.Presentation

/-!
# Formula text under edit

The text of a formula in its canonical form and in the form of a locale. One of the two has been set,
and the other one follows from it; it is worked out when it is asked for and kept.
-/

namespace OlapFormula

structure FormulaText where
  locale : Locale
  canonical? : Option String := none
  display? : Option String := none
deriving Repr, DecidableEq

namespace FormulaText

def empty : FormulaText := ⟨.canonical, some "", some ""⟩

def ofCanonical (text : String) (locale : Locale) : FormulaText := { locale, canonical? := some text }

def ofDisplay (text : String) (locale : Locale) : FormulaText := { locale, display? := some text }

def canonical (text : FormulaText) : String :=
  match text.canonical? with
  | some canonical => canonical
  | none =>
    let display := text.display?.getD ""
    String.ofList (Presentation.toCanonical text.locale display.toList)

def display (text : FormulaText) : String :=
  match text.display? with
  | some display => display
  | none =>
    let canonical := text.canonical?.getD ""
    String.ofList (Presentation.toDisplay text.locale canonical.toList)

/-- The canonical form, and the text that has it at hand. -/
def readCanonical (text : FormulaText) : String × FormulaText :=
  (text.canonical, { text with canonical? := some text.canonical })

/-- The form of the locale, and the text that has it at hand. -/
def readDisplay (text : FormulaText) : String × FormulaText :=
  (text.display, { text with display? := some text.display })

/-- Whether the canonical form is blank, and the text that has this form at hand. -/
def readIsEmpty (text : FormulaText) : Bool × FormulaText :=
  let (canonical, text) := text.readCanonical
  (Text.isAllBlank canonical.toList, text)

def setCanonical (text : FormulaText) (canonical : String) : FormulaText :=
  ofCanonical canonical text.locale

def setDisplay (text : FormulaText) (display : String) : FormulaText :=
  ofDisplay display text.locale

/-- The same formula in another locale. -/
def withLocale (text : FormulaText) (locale : Locale) : FormulaText :=
  ofCanonical text.canonical locale

/-- The same formula, whatever the locales. -/
def same (a b : FormulaText) : Bool := a.canonical == b.canonical

end FormulaText

end OlapFormula
