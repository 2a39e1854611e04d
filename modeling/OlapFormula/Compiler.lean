import OlapFormula.Construction
import OlapFormula.Dependency
import OlapFormula.Expr.Reader
import OlapFormula.Presentation

/-!
# Compiling a formula

From formula text to the lowered formula and the measures that are derived from it, or to the messages
that say why not.
-/

namespace OlapFormula

/-- The settings and the model that formulas are compiled with. -/
structure Compiler where
  settings : Settings := {}
  model : Model

structure CompiledFormula where
  root : Node
  /-- Messages that are no errors. -/
  messages : List Message
  derived : List Measure

namespace CompiledFormula

def type (compiled : CompiledFormula) : DataType := compiled.root.type

/-- The canonical text of what the formula is lowered to. -/
def text (compiled : CompiledFormula) : String := compiled.root.text

end CompiledFormula

/-- A restricted measure as a measure of the model. -/
def RestrictedMeasure.toMeasure (restricted : RestrictedMeasure) : Measure :=
  { id := restricted.id
    valueType := (restricted.base.measure.map (·.valueType)).getD .number
    hidden := true
    formula := some restricted.text }

/-- Of restricted measures with one id the first. -/
def RestrictedMeasure.distinct (seen : List String) : List RestrictedMeasure → List RestrictedMeasure
  | [] => []
  | r :: rs => if seen.contains r.id then distinct seen rs else r :: distinct (r.id :: seen) rs

/-- A hidden measure for each restricted measure of a formula. -/
def Node.derivedMeasures (root : Node) : List Measure :=
  (RestrictedMeasure.distinct [] root.restrictedMeasures).map (·.toMeasure)

namespace Compiler

def parseMessage (e : ParseError) : Message :=
  { code := match e with
      | .problemAt _ _ => .syntaxError
      | .nestingTooDeep _ => .nestingTooDeep
    text := e.message }

/-- The root of a formula, if it can be read, and all messages. `editing` is the measure whose formula
this is to be. -/
def run (compiler : Compiler) (editing : Option String) (text : String) :
    Option Node × List Message :=
  match Expr.parse compiler.settings.limits text with
  | .error e => (none, [parseMessage e])
  | .ok e =>
    let (root, messages) := Construction.buildRoot compiler.settings compiler.model e
    let cycles := match editing with
      | some measure => Dependency.guard compiler.model measure root
      | none => []
    (some root, messages ++ cycles)

/-- Compiles canonical text. -/
def compile (compiler : Compiler) (editing : Option String) (text : String) :
    Except (List Message) CompiledFormula :=
  match compiler.run editing text with
  | (some root, messages) =>
    if Message.hasErrors messages then .error messages
    else .ok { root, messages, derived := root.derivedMeasures }
  | (none, messages) => .error messages

/-- Everything there is to say about canonical text. -/
def validate (compiler : Compiler) (editing : Option String) (text : String) : List Message :=
  (compiler.run editing text).2

def toDisplay (compiler : Compiler) (text : String) : String :=
  String.ofList (Presentation.toDisplay compiler.settings.locale text.toList)

def toCanonical (compiler : Compiler) (text : String) : String :=
  String.ofList (Presentation.toCanonical compiler.settings.locale text.toList)

/-- What is wrong with the separators of a text that is shown. -/
def checkSeparators (compiler : Compiler) (display : String) : List Message :=
  Presentation.checkSeparators compiler.settings.locale display.toList

/-- Compiles text as it is shown. -/
def compileDisplay (compiler : Compiler) (editing : Option String) (display : String) :
    Except (List Message) CompiledFormula :=
  let messages := compiler.checkSeparators display
  if Message.hasErrors messages then .error messages
  else compiler.compile editing (compiler.toCanonical display)

/-- Everything there is to say about text as it is shown. -/
def validateDisplay (compiler : Compiler) (editing : Option String) (display : String) :
    List Message :=
  let messages := compiler.checkSeparators display
  if Message.hasErrors messages then messages
  else compiler.validate editing (compiler.toCanonical display)

end Compiler

end OlapFormula
