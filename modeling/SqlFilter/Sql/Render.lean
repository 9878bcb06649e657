import SqlFilter.Filter
import SqlFilter.Sql.Condition
import SqlFilter.Sql.Layout
import SqlFilter.Sql.Left

/-!
Filter trees as SQL. A tree is written from left to right, with literals or with placeholders; the first condition of
the wrong shape is the error.
-/

set_option autoImplicit false

namespace SqlFilter.Sql

structure RenderOptions (F : Type) where
  transformer : Option (Transformer F) := none
  indentation : Nat := 0
  useParameters : Bool := true
  start : UInt64 := 1

structure BoundSql where
  sql : Option String
  values : List Value

inductive Output
  | inline (sql : Option String)
  | bound (result : BoundSql)

namespace BoundSql

def toJson (result : BoundSql) : Json :=
  .object [("sql", match result.sql with
    | none => .null
    | some sql => .string sql), ("values", .array (Value.toJsonItems result.values))]

end BoundSql

namespace Output

def sql : Output → Option String
  | .inline sql => sql
  | .bound result => result.sql

def values : Output → List Value
  | .inline _ => []
  | .bound result => result.values

end Output

variable {F : Type} [FieldName F]

mutual
-- A tree inside `depth` groups, the innermost of which has this text for its fields.
def renderNode (options : RenderOptions F) (depth : Nat) (fieldPrefix : Option String) : Node F → Writer String
  | .leaf leaf => do
      let right ← condition leaf
      return left options.transformer leaf fieldPrefix ++ " " ++ right
  | .group logic own nodes => do
      let children ← renderNodes options (depth + 1) own nodes
      return "(" ++ indent (depth + 1) options.indentation ++
        (separator logic (depth + 1) options.indentation).intercalate children ++
        closing (depth + 1) options.indentation ++ ")"

-- The children of a group from left to right. The first that fails is the last that is looked at.
def renderNodes (options : RenderOptions F) (depth : Nat) (fieldPrefix : Option String) :
    List (Node F) → Writer (List String)
  | [] => return []
  | node :: nodes => do
      let text ← renderNode options depth fieldPrefix node
      let texts ← renderNodes options depth fieldPrefix nodes
      return text :: texts
end

def renderInline (root : Option (Node F)) (options : RenderOptions F) : Except FilterError (Option String) :=
  match root with
  | none => .ok none
  | some root =>
      match (renderNode options 0 root.fieldPrefix root).run .literal with
      | .error e _ => .error e
      | .ok sql _ => .ok (some sql)

def renderParameterized (root : Option (Node F)) (options : RenderOptions F) : Except FilterError BoundSql :=
  match root with
  | none => .ok ⟨none, []⟩
  | some root =>
      if options.start = 0 then .error (.invalidOption FilterError.zeroStart)
      else
        match (renderNode options 0 root.fieldPrefix root).run (.bound (.startingAt options.start)) with
        | .error e _ => .error e
        | .ok sql encoding => .ok ⟨some sql, encoding.values⟩

def render (root : Option (Node F)) (options : RenderOptions F) : Except FilterError Output :=
  if options.useParameters then (renderParameterized root options).map .bound
  else (renderInline root options).map .inline

end SqlFilter.Sql

namespace SqlFilter.Filter

variable {F : Type} [FieldName F]

def renderInline (filter : Filter F) (options : Sql.RenderOptions F) : Except FilterError (Option String) :=
  Sql.renderInline filter.root options

def renderParameterized (filter : Filter F) (options : Sql.RenderOptions F) : Except FilterError Sql.BoundSql :=
  Sql.renderParameterized filter.root options

def render (filter : Filter F) (options : Sql.RenderOptions F) : Except FilterError Sql.Output :=
  Sql.render filter.root options

end SqlFilter.Filter
