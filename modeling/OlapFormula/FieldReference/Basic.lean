import OlapFormula.Text.Basic

/-!
# Field references

A reference names a measure, `[Sales]`, or a dimension, `[d/City]`. A dimension may be seen through
one of its properties or hierarchies, `[d/City].[p/Zip]` or `[d/City].[h/Geo]`, and the model it comes
from may be named, `[d/"Plan":City]`.
-/

namespace OlapFormula

/-- What a reference names, by the first letters inside its brackets. -/
inductive FieldKind
  | dimension
  | property
  | hierarchy
  | measure
  | unknown
deriving Repr, DecidableEq

namespace FieldKind

/-- The kind that the start of a text tells, white space before it aside. -/
def classify (cs : List Char) : FieldKind :=
  match Text.trimStart cs with
  | '[' :: 'd' :: '/' :: _ => dimension
  | '[' :: 'p' :: '/' :: _ => property
  | '[' :: 'h' :: '/' :: _ => hierarchy
  | '[' :: _ => measure
  | _ => unknown

/-- What is written between the bracket and the rest. -/
def mark : FieldKind → String
  | dimension => "d/"
  | property => "p/"
  | hierarchy => "h/"
  | measure | unknown => ""

/-- Dimensions and what belongs to them. -/
def isDimension : FieldKind → Bool
  | dimension | property | hierarchy => true
  | measure | unknown => false

end FieldKind

inductive SuffixKind
  | property
  | hierarchy
deriving Repr, DecidableEq

def SuffixKind.mark : SuffixKind → String
  | property => "p/"
  | hierarchy => "h/"

structure FieldSuffix where
  kind : SuffixKind
  id : String
deriving Repr, DecidableEq

structure FieldReference where
  datasource : Option String := none
  kind : FieldKind
  id : String
  suffix : Option FieldSuffix := none
deriving Repr, DecidableEq

namespace FieldReference

def dimension (id : String) : FieldReference := { kind := .dimension, id }

def measure (id : String) : FieldReference := { kind := .measure, id }

def withDatasource (reference : FieldReference) (name : String) : FieldReference :=
  { reference with datasource := some name }

def withProperty (reference : FieldReference) (id : String) : FieldReference :=
  { reference with suffix := some ⟨.property, id⟩ }

def withHierarchy (reference : FieldReference) (id : String) : FieldReference :=
  { reference with suffix := some ⟨.hierarchy, id⟩ }

def hierarchy (reference : FieldReference) : Option String :=
  match reference.suffix with
  | some ⟨.hierarchy, id⟩ => some id
  | _ => none

def property (reference : FieldReference) : Option String :=
  match reference.suffix with
  | some ⟨.property, id⟩ => some id
  | _ => none

def headText (reference : FieldReference) : String :=
  let datasource := match reference.datasource with
    | some name => "\"" ++ name ++ "\":"
    | none => ""
  "[" ++ reference.kind.mark ++ datasource ++ reference.id ++ "]"

def suffixText (reference : FieldReference) : String :=
  match reference.suffix with
  | some suffix => ".[" ++ suffix.kind.mark ++ suffix.id ++ "]"
  | none => ""

/-- The written form. -/
def text (reference : FieldReference) : String := reference.headText ++ reference.suffixText

end FieldReference

end OlapFormula
