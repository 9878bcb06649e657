import SqlFilter.Node.Basic

/-!
Short ways to write filter trees over plain field names.
-/

set_option autoImplicit false

namespace SqlFilter.Build

def leaf (field : String) (op : Operator) (value : Value) : Node String :=
  .leaf (.of field op value)

def eq (field : String) (value : Value) : Node String :=
  leaf field .eq value

def ne (field : String) (value : Value) : Node String :=
  leaf field .ne value

def gt (field : String) (value : Value) : Node String :=
  leaf field .gt value

def gte (field : String) (value : Value) : Node String :=
  leaf field .gte value

def lt (field : String) (value : Value) : Node String :=
  leaf field .lt value

def lte (field : String) (value : Value) : Node String :=
  leaf field .lte value

def like (field : String) (pattern : Value) : Node String :=
  leaf field .like pattern

def between (field : String) (low high : Value) : Node String :=
  leaf field .between (.ofPair low high)

def isIn (field : String) (values : List Value) : Node String :=
  leaf field .isIn (.array values)

def isNull (field : String) : Node String :=
  leaf field .eq .null

def isNotNull (field : String) : Node String :=
  leaf field .ne .null

def and {F : Type} (nodes : List (Node F)) : Node F :=
  .group .and none nodes

def or {F : Type} (nodes : List (Node F)) : Node F :=
  .group .or none nodes

end SqlFilter.Build
