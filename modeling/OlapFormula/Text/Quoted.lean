/-!
# Quoted text

A string literal stands between double quotes, and a quote inside it is written twice.
-/

namespace OlapFormula.Text

/-- Writes every double quote twice. -/
def doubleQuotes : List Char → List Char
  | [] => []
  | c :: cs => if c = '"' then '"' :: '"' :: doubleQuotes cs else c :: doubleQuotes cs

/-- Reads two double quotes as one, from the left. -/
def mergeQuotes : List Char → List Char
  | [] => []
  | '"' :: '"' :: cs => '"' :: mergeQuotes cs
  | c :: cs => c :: mergeQuotes cs

def quote (cs : List Char) : List Char := '"' :: doubleQuotes cs ++ ['"']

/-- The text that a literal stands for. A quote that is missing at either end is not an error. -/
def unquote (literal : List Char) : List Char :=
  let body := match literal with
    | '"' :: rest => rest
    | _ => literal
  mergeQuotes (if body.getLast? = some '"' then body.dropLast else body)

theorem mergeQuotes_doubleQuotes (cs : List Char) : mergeQuotes (doubleQuotes cs) = cs := by
  induction cs with
  | nil => rfl
  | cons c cs ih => by_cases h : c = '"' <;> simp [doubleQuotes, mergeQuotes, h, ih]

theorem unquote_quote (cs : List Char) : unquote (quote cs) = cs := by
  simp [unquote, quote, mergeQuotes_doubleQuotes]

/-- What follows an opening quote: the rest of the literal with its closing quote, and what comes
after it. Nothing if the literal does not end. -/
def splitAfterQuote : List Char → Option (List Char × List Char)
  | [] => none
  | '"' :: '"' :: cs => (splitAfterQuote cs).map fun (body, rest) => ('"' :: '"' :: body, rest)
  | '"' :: cs => some (['"'], cs)
  | c :: cs => (splitAfterQuote cs).map fun (body, rest) => (c :: body, rest)

end OlapFormula.Text
