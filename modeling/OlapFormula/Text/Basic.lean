/-!
# Texts

White space, places in a text, and texts that are joined. A place in a text is the number of bytes before it
in UTF-8, and a span runs from one place to a later one. Only the places between two characters can be cut at.
-/

namespace OlapFormula

structure Span where
  start : Nat
  stop : Nat
deriving Repr, DecidableEq

namespace Text

/-- White space: the characters with the Unicode property `White_Space`. -/
def isBlank (c : Char) : Bool :=
  let n := c.toNat
  (0x09 ≤ n && n ≤ 0x0D) || n == 0x20 || n == 0x85 || n == 0xA0 || n == 0x1680 ||
    (0x2000 ≤ n && n ≤ 0x200A) || n == 0x2028 || n == 0x2029 || n == 0x202F || n == 0x205F ||
    n == 0x3000

def trimStart (cs : List Char) : List Char := cs.dropWhile isBlank

def trimEnd (cs : List Char) : List Char := (cs.reverse.dropWhile isBlank).reverse

def trim (cs : List Char) : List Char := trimEnd (trimStart cs)

/-- Nothing but white space. -/
def isAllBlank (cs : List Char) : Bool := cs.all isBlank

def byteLength : List Char → Nat
  | [] => 0
  | c :: cs => c.utf8Size + byteLength cs

/-- The two parts of a text at a place, if that is one between two characters. -/
def splitAt? : Nat → List Char → Option (List Char × List Char)
  | 0, cs => some ([], cs)
  | _ + 1, [] => none
  | n + 1, c :: cs =>
    if c.utf8Size ≤ n + 1 then
      (splitAt? (n + 1 - c.utf8Size) cs).map fun (before, after) => (c :: before, after)
    else none

/-- What stands in a span; nothing if it cannot be cut out. -/
def slice (cs : List Char) (span : Span) : List Char :=
  match splitAt? span.start cs with
  | none => []
  | some (_, rest) =>
    match splitAt? (span.stop - span.start) rest with
    | none => []
    | some (inner, _) => inner

/-- Texts with a separator between each two. -/
def joined (separator : String) : List String → String
  | [] => ""
  | [text] => text
  | text :: texts => text ++ separator ++ joined separator texts

end Text

end OlapFormula
