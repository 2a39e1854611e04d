import OlapFormula.CommandLine.Options
import OlapFormula.Compiler
import OlapFormula.JsonValue.Printer
import OlapFormula.Model.File
import OlapFormula.Token.Scan

/-!
# What the commands print
-/

namespace OlapFormula.CommandLine

/-- What a run prints, and the number that it ends with. -/
structure Report where
  output : String := ""
  errors : String := ""
  status : Nat := 0
deriving Repr, DecidableEq

def line (text : String) : String := text ++ "\n"

/-- Each text on a line of its own. -/
def lines (texts : List String) : String := Text.joined "" (texts.map line)

/-- The report of a run that fails after some output. -/
def failed (output errors problem : String) : Report :=
  { output, errors := errors ++ line ("Error: " ++ problem), status := 1 }

def countText (count : Nat) : String := "formula has " ++ toString count ++ " error(s)"

def measureJson (measure : Measure) : JsonValue :=
  .object
    [("alias", .ofOption .string measure.aliasName),
      ("formula", .ofOption .string measure.formula),
      ("id", .string measure.id),
      ("value_type", .string measure.valueType.name),
      ("visibility", .string (if measure.hidden then "hidden" else "visible"))]

def compiledJson (compiled : CompiledFormula) : JsonValue :=
  .object
    [("derived_measures", .array (compiled.derived.map measureJson)),
      ("formula", .string compiled.text),
      ("type", .string compiled.type.name)]

def compiledLines (compiler : Compiler) (compiled : CompiledFormula) : List String :=
  [compiler.toDisplay compiled.text, "Type: " ++ compiled.type.name] ++
    compiled.derived.map fun measure => "  " ++ measure.id ++ "\t" ++ measure.formula.getD ""

def compile (compiler : Compiler) (formula : String) (editing : Option String) (json : Bool) :
    Report :=
  match compiler.compileDisplay editing formula with
  | .error messages =>
    failed "" (line (Message.lines messages)) (countText messages.length)
  | .ok compiled =>
    { output :=
        if json then line (compiledJson compiled).text
        else lines (compiledLines compiler compiled)
      errors := lines (compiled.messages.map (·.line)) }

/-- A word in lower case but for its first letter. -/
def capitalized : List Char → List Char
  | [] => []
  | c :: cs => c :: Text.lowerAscii cs

/-- The kind of a code in one word: `DivideByZero`. -/
def codeName (code : MessageCode) : String :=
  String.ofList ((MemberKey.splitBy (· == '_') code.kind.toList).flatMap capitalized)

def severityName : Severity → String
  | .error => "Error"
  | .warning => "Warning"
  | .info => "Info"

def messageJson (message : Message) : JsonValue :=
  .object
    [("severity", .string (severityName message.severity)),
      ("code", .string (codeName message.code)),
      ("text", .string message.text)]

def validate (compiler : Compiler) (formula : String) (editing : Option String) (json : Bool) :
    Report :=
  let messages := compiler.validateDisplay editing formula
  let output :=
    if json then line (JsonValue.array (messages.map messageJson)).text
    else if messages.isEmpty then line "OK"
    else line (Message.lines messages)
  let errors := Message.errors messages
  if errors.isEmpty then { output } else failed output "" (countText errors.length)

def spanJson (span : Span) : JsonValue :=
  .object [("start", .nat span.start), ("end", .nat span.stop)]

def filterJson (filter : WrittenFilter) : JsonValue :=
  .object
    [("dimension", .string filter.dimension),
      ("hierarchy", .ofOption .string filter.hierarchy),
      ("operator", .ofOption .string filter.operator),
      ("exclude", .boolean filter.excludes),
      ("multi_select", .boolean filter.multiSelect),
      ("members", .ofOption .string filter.members)]

def tokenJsonWith (token : Token) (payload : JsonValue) : JsonValue :=
  .object
    [("kind", .string token.kind.name),
      ("data_types", .strings (token.types.map (·.name))),
      ("text", .string token.text),
      ("span", spanJson token.span),
      ("interaction_span", spanJson token.interaction),
      ("payload", payload)]

def filterPayload (filter : WrittenFilter) : JsonValue := .object [("MemberFilter", filterJson filter)]

def callPayload (call : WrittenCall) : JsonValue :=
  .object
    [("FunctionCall", .object
      [("name", .string call.name),
        ("arguments", .array (call.arguments.map spanJson)),
        ("dimensions", .array (call.dimensions.map fun token =>
          tokenJsonWith token.toToken (filterPayload token.filter))),
        ("closed", .boolean call.closed)])]

def tokenJson (token : Token) : JsonValue :=
  tokenJsonWith token <|
    match token.payload with
    | none => .null
    | some (.filter filter) => filterPayload filter
    | some (.call call) => callPayload call

def spaces (count : Nat) : String := String.ofList (List.replicate count ' ')

/-- A text with spaces after it up to a width. -/
def padAfter (width : Nat) (text : String) : String := text ++ spaces (width - text.length)

/-- A text with spaces before it up to a width. -/
def padBefore (width : Nat) (text : String) : String := spaces (width - text.length) ++ text

def tokenLine (token : Token) : String :=
  padBefore 4 (toString token.span.start) ++ ".." ++ padAfter 4 (toString token.span.stop) ++ " " ++
    padAfter 10 token.kind.name ++ " " ++
    padAfter 24 (Text.joined "|" (token.types.map (·.name))) ++ " " ++ token.text

def tokens (compiler : Compiler) (formula : String) (json : Bool) : Report :=
  let canonical := (compiler.toCanonical formula).toList
  let tokens := Token.scan compiler.settings.flags compiler.model.backend canonical
  { output :=
      if json then line (JsonValue.array (tokens.map tokenJson)).text
      else lines (tokens.map tokenLine) }

def functionLine (item : FunctionItem) : String :=
  padAfter 10 item.category.name ++ " " ++ padAfter 28 item.usage ++ " " ++ item.description

def functions (compiler : Compiler) : Report :=
  { output := lines
      ((Catalog.available compiler.settings.flags compiler.model.backend).map functionLine) }

def run (compiler : Compiler) : Command → Report
  | .compile formula editing json => compile compiler formula editing json
  | .validate formula editing json => validate compiler formula editing json
  | .tokens formula json => tokens compiler formula json
  | .display formula => { output := line (compiler.toDisplay formula) }
  | .canonical formula => { output := line (compiler.toCanonical formula) }
  | .functions => functions compiler

/-- The settings that some options ask for. -/
def Options.settings (options : Options) : Settings :=
  { locale := if options.commaDecimal then .comma else .canonical }

/-- Runs the command with the text of the model file, if there is one. -/
def Options.report (options : Options) (file : Option String) : Report :=
  match file with
  | none => run ⟨options.settings, { backend := options.backend }⟩ options.command
  | some text =>
    match Model.ofFile? text with
    | some model => run ⟨options.settings, model⟩ options.command
    | none => failed "" "" ("Failed to parse model '" ++ options.modelPath.getD "" ++ "'")

/-- The report on arguments that cannot be understood. -/
def misused (problem : String) : Report := { errors := line ("error: " ++ problem), status := 2 }

end OlapFormula.CommandLine
