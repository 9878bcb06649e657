import SqlFilter.Json.Reader
import SqlFilter.Logic
import SqlFilter.Mismatch
import SqlFilter.Operator
import SqlFilter.DataType

/-!
Operators, combinators and data types that a JSON text holds on their own. Such a text is judged token by token: what
is wrong with the name counts before what is wrong with the text after it.
-/

set_option autoImplicit false

namespace SqlFilter

namespace Json

def foundToken : Token → Except ReadError Found
  | .null => .ok .null
  | .bool b => .ok (.bool b)
  | .number n => .ok (n.found)
  | .string s => .ok (.string s)
  | .openArray => .ok .sequence
  | .openObject => .ok .map
  | .brokenString e | .broken e => .error e
  | .closeArray | .closeObject | .comma | .colon => .error .malformed

def wrongType (token : Token) (expected : String) : ReadError :=
  match foundToken token with
  | .ok found => .mismatch (Mismatch.invalidType found expected)
  | .error e => e

def caseNamed {α : Type} (cases : List (String × α)) (name : String) : Except ReadError α :=
  match cases.lookup name with
  | some a => .ok a
  | none => .error (.mismatch (Mismatch.unknown "variant" name (cases.map Prod.fst)))

def closeCase : List Token → Except ReadError (List Token)
  | [] | [.null] => .error .truncated
  | .null :: .closeObject :: rest => .ok rest
  | .null :: _ => .error .malformed
  | token :: _ => .error (wrongType token "unit")

-- One of several cases at the front of the tokens: its name, or an object whose only member has that name and is
-- null.
def readCase {α : Type} (cases : List (String × α)) : List Token → Except ReadError (α × List Token)
  | [] => .error .truncated
  | .string name :: rest =>
      match caseNamed cases name with
      | .ok a => .ok (a, rest)
      | .error e => .error e
  | .brokenString e :: _ => .error e
  | .openObject :: .string name :: rest =>
      match caseNamed cases name, rest with
      | .error e, _ => .error e
      | .ok a, .colon :: rest =>
          match closeCase rest with
          | .ok rest => .ok (a, rest)
          | .error e => .error e
      | .ok _, [] => .error .truncated
      | .ok _, _ => .error .malformed
  | .openObject :: .brokenString e :: _ => .error e
  | [.openObject] => .error .truncated
  | _ => .error .malformed

def readOnly {α : Type} (readFirst : List Token → Except ReadError (α × List Token)) (text : String) :
    Except ReadError α :=
  match readFirst (tokens text.toList) with
  | .error e => .error e
  | .ok (a, rest) => if rest.isEmpty then .ok a else .error .malformed

end Json

def Operator.read (text : String) : Except Json.ReadError Operator :=
  Json.readOnly (Json.readCase (all.map fun op => (op.sql, op))) text

def Logic.read (text : String) : Except Json.ReadError Logic :=
  Json.readOnly (Json.readCase (all.map fun logic => (logic.sql, logic))) text

namespace DataType

def expected : String :=
  "a data type code 0-4 or its name"

def ofToken : Json.Token → Except Json.ReadError DataType
  | .number (.int code) =>
      match if 0 ≤ code then ofCode? code.toNat else none with
      | some type => .ok type
      | none => .error (.mismatch (Mismatch.invalidValue (.int code) expected))
  | .string name =>
      match ofName? name with
      | some type => .ok type
      | none => .error (.mismatch (Mismatch.invalidValue (.string name) expected))
  | token => .error (Json.wrongType token expected)

def read (text : String) : Except Json.ReadError DataType :=
  Json.readOnly (fun
    | [] => .error .truncated
    | token :: rest => (ofToken token).map fun type => (type, rest)) text

end DataType

end SqlFilter
