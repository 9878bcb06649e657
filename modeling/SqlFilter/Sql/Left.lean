import SqlFilter.Node.Basic

/-!
The left-hand sides of conditions: the field after the text of its group, or what a transformer puts there.
-/

set_option autoImplicit false

namespace SqlFilter.Sql

structure Replacement where
  left : Option String

abbrev Transformer (F : Type) :=
  Leaf F → Option String → Option Replacement

def segments (path : List Char) : List (List Char) :=
  path.splitOn '.'

def quoteIdentifier (segment : List Char) : List Char :=
  '"' :: segment.flatMap (fun c => if c = '"' then ['"', '"'] else [c]) ++ ['"']

variable {F : Type} [FieldName F]

def path (leaf : Leaf F) (fieldPrefix : Option String) : String :=
  fieldPrefix.getD "" ++ FieldName.sql leaf.field

def quoteIdentifiers : Transformer F := fun leaf fieldPrefix =>
  some ⟨some (String.ofList (['.'].intercalate ((segments (path leaf fieldPrefix).toList).map quoteIdentifier)))⟩

-- The left-hand side of a condition: what the transformer gives, or else the path of its field.
def left (transformer : Option (Transformer F)) (leaf : Leaf F) (fieldPrefix : Option String) : String :=
  ((transformer.bind fun transform => transform leaf fieldPrefix).bind Replacement.left).getD (path leaf fieldPrefix)

end SqlFilter.Sql
