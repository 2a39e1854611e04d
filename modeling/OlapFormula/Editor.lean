import OlapFormula.Compiler
import OlapFormula.FormulaText
import OlapFormula.Token.Scan

/-!
# Editing a formula

The formula that is being edited, with its tokens. Canonical text and the text of a locale have their
characters at the same places, so a place in one is a place in the other.
-/

namespace OlapFormula

/-- The model of a session is loaded once. Whoever needs it before that is told so, and a model that is
loaded a second time is ignored. -/
structure ModelLoading where
  loaded : Option Model := none
deriving Repr, DecidableEq

namespace ModelLoading

/-- Takes the model unless there is one already, and tells whether it was taken. -/
def complete (loading : ModelLoading) (model : Model) : ModelLoading × Bool :=
  match loading.loaded with
  | some _ => (loading, false)
  | none => (⟨some model⟩, true)

def isReady (loading : ModelLoading) : Bool := loading.loaded.isSome

def model (loading : ModelLoading) : Except Failure Model :=
  match loading.loaded with
  | some model => .ok model
  | none => .error .modelNotLoaded

end ModelLoading

/-- The tokens of canonical text. -/
def Compiler.tokenize (compiler : Compiler) (text : String) : List Token :=
  Token.scan compiler.settings.flags compiler.model.backend text.toList

structure Editor where
  compiler : Compiler
  /-- The measure whose formula it is. -/
  editing : Option String := none
  text : FormulaText := .empty
  tokens : List Token := []

namespace Editor

/-- Begins with an empty formula, once the model is loaded. -/
def attach (settings : Settings) (loading : ModelLoading) : Except Failure Editor :=
  match loading.model with
  | .ok model => .ok { compiler := ⟨settings, model⟩ }
  | .error failure => .error failure

def withText (editor : Editor) (text : FormulaText) : Editor :=
  let (canonical, text) := text.readCanonical
  { editor with text, tokens := editor.compiler.tokenize canonical }

/-- Takes over text in the locale of the settings. -/
def setDisplay (editor : Editor) (display : String) : Editor :=
  editor.withText (.ofDisplay display editor.compiler.settings.locale)

def setCanonical (editor : Editor) (canonical : String) : Editor :=
  editor.withText (.ofCanonical canonical editor.compiler.settings.locale)

def tokenAt? (editor : Editor) (place : Nat) (direction : Token.Direction) : Option Token :=
  Token.at? editor.tokens place direction

/-- The types that the argument around a place accepts. -/
def expectedTypes (editor : Editor) (place : Nat) : List DataType :=
  Token.expectedTypes editor.tokens place

/-- Everything there is to say about the text in the locale. -/
def validate (editor : Editor) : List Message :=
  editor.compiler.validateDisplay editor.editing editor.text.display

/-- Colours need a place to be drawn in. -/
def highlight (_ : Editor) : Except Failure (List Span) := .error (.notProvided "syntax highlighting")

/-- Keys need something that is typed on. -/
def bindKeys (_ : Editor) : Except Failure Editor := .error (.notProvided "editor key bindings")

/-- Nodes do not know where in the text they come from. -/
def nodeAt (_ : Editor) (_place : Nat) : Except Failure Node :=
  .error (.notProvided "cursor to node mapping")

end Editor

end OlapFormula
