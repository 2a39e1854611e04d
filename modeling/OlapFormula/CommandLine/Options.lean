import OlapFormula.Model.Basic

/-!
# Arguments of the command line

A command, the formula that it is about, and options, which may stand anywhere.
-/

namespace OlapFormula.CommandLine

inductive Command
  | compile (formula : String) (editing : Option String) (json : Bool)
  | validate (formula : String) (editing : Option String) (json : Bool)
  | tokens (formula : String) (json : Bool)
  | display (formula : String)
  | canonical (formula : String)
  | functions
deriving Repr, DecidableEq

structure Options where
  command : Command
  /-- The file with the model. -/
  modelPath : Option String := none
  /-- The backend where there is no file. -/
  backend : Backend := .hana
  commaDecimal : Bool := false
deriving Repr, DecidableEq

/-- An option with a value. -/
inductive Setting
  | editing
  | backend
  | model
deriving Repr, DecidableEq

/-- An option without a value. -/
inductive Switch
  | json
  | commaDecimal
  | verbose
deriving Repr, DecidableEq

inductive Argument
  | word (text : String)
  | setting (name : Setting) (value : String)
  | switch (name : Switch)
deriving Repr, DecidableEq

def Setting.ofLong? : String → Option Setting
  | "editing" => some editing
  | "backend" => some backend
  | "model" => some model
  | _ => none

def Setting.ofShort? : Char → Option Setting
  | 'e' => some editing
  | 'b' => some backend
  | 'm' => some model
  | _ => none

def Switch.ofLong? : String → Option Switch
  | "json" => some json
  | "comma-decimal" => some commaDecimal
  | "verbose" => some verbose
  | _ => none

def Switch.ofShort? : Char → Option Switch
  | 'v' => some verbose
  | _ => none

/-- What an argument is, and the setting that the next argument is the value of. -/
abbrev Classified := List Argument × Option Setting

/-- An argument after two dashes. -/
def classifyLong (body : List Char) : Except String Classified :=
  let name := String.ofList (body.takeWhile (· != '='))
  match body.dropWhile (· != '='), Setting.ofLong? name, Switch.ofLong? name with
  | '=' :: value, some setting, _ => .ok ([.setting setting (String.ofList value)], none)
  | [], some setting, _ => .ok ([], some setting)
  | [], none, some switch => .ok ([.switch switch], none)
  | _, _, _ => .error ("unexpected argument '--" ++ String.ofList body ++ "' found")

/-- An argument after one dash: switches, and perhaps a setting with its value at the end. -/
def classifyShort : List Char → Except String Classified
  | [] => .ok ([], none)
  | c :: cs =>
    match Switch.ofShort? c, Setting.ofShort? c with
    | some switch, _ => do
      let (arguments, pending) ← classifyShort cs
      return (.switch switch :: arguments, pending)
    | none, some setting =>
      let value := if cs.head? = some '=' then cs.drop 1 else cs
      if cs.isEmpty then .ok ([], some setting)
      else .ok ([.setting setting (String.ofList value)], none)
    | none, none => .error ("unexpected argument '-" ++ c.toString ++ "' found")

def classify (text : String) : Except String Classified :=
  match text.toList with
  | '-' :: '-' :: body => classifyLong body
  | '-' :: c :: cs => classifyShort (c :: cs)
  | _ => .ok ([.word text], none)

/-- The arguments, where the first one may be the value of a setting. After two dashes on their own there
are no options. -/
def arguments (pending : Option Setting) : List String → Except String (List Argument)
  | [] =>
    match pending with
    | some _ => .error "a value is required"
    | none => .ok []
  | text :: texts =>
    match pending with
    | some setting => do return .setting setting text :: (← arguments none texts)
    | none =>
      if text = "--" then .ok (texts.map .word)
      else do
        let (first, pending) ← classify text
        return first ++ (← arguments pending texts)

def words (items : List Argument) : List String :=
  items.filterMap fun
    | .word text => some text
    | _ => none

/-- The value of a setting, which must not be given twice. -/
def valueOf? (name : Setting) (items : List Argument) : Except String (Option String) :=
  let values := items.filterMap fun
    | .setting other value => if other = name then some value else none
    | _ => none
  match values with
  | [] => .ok none
  | [value] => .ok (some value)
  | _ => .error "an option cannot be used multiple times"

def commandOf (words : List String) (editing : Option String) (json : Bool) :
    Except String Command :=
  match words, editing, json with
  | ["compile", formula], editing, json => .ok (.compile formula editing json)
  | ["validate", formula], editing, json => .ok (.validate formula editing json)
  | ["tokens", formula], none, json => .ok (.tokens formula json)
  | ["display", formula], none, false => .ok (.display formula)
  | ["canonical", formula], none, false => .ok (.canonical formula)
  | ["functions"], none, false => .ok .functions
  | _, _, _ => .error "expected a command and the arguments that it takes"

/-- The options that some arguments give, or what is wrong with the arguments. -/
def Options.parse (texts : List String) : Except String Options := do
  let items ← arguments none texts
  let command ← commandOf (words items) (← valueOf? .editing items) (items.contains (.switch .json))
  let modelPath ← valueOf? .model items
  let commaDecimal := items.contains (.switch .commaDecimal)
  match ← valueOf? .backend items with
  | none => return { command, modelPath, commaDecimal }
  | some name =>
    match Backend.parse name with
    | .ok backend => return { command, modelPath, backend, commaDecimal }
    | .error failure => throw failure.message

end OlapFormula.CommandLine
