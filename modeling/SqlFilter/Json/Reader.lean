import SqlFilter.Json.Token

/-!
Reading a JSON document from the tokens of a text, and whole texts as documents or as what a document stands for.
-/

set_option autoImplicit false

namespace SqlFilter.Json

-- How many brackets may be open at once.
def maxNesting : Nat :=
  127

mutual
-- The value at the front of the tokens. `room` counts the brackets that may still be opened, `fuel` the steps.
def readValue : (fuel room : Nat) → List Token → Except ReadError (Json × List Token)
  | 0, _, _ => .error .truncated
  | fuel + 1, room, tokens =>
      match tokens with
      | [] => .error .truncated
      | .null :: rest => .ok (.null, rest)
      | .bool b :: rest => .ok (.bool b, rest)
      | .number n :: rest => .ok (.number n, rest)
      | .string s :: rest => .ok (.string s, rest)
      | .brokenString e :: _ => .error e
      | .broken e :: _ => .error e
      | .openArray :: rest =>
          match room, rest with
          | 0, _ => .error .malformed
          | _ + 1, .closeArray :: rest => .ok (.array [], rest)
          | room + 1, rest =>
              match readItems fuel room rest with
              | .ok (items, rest) => .ok (.array items, rest)
              | .error e => .error e
      | .openObject :: rest =>
          match room, rest with
          | 0, _ => .error .malformed
          | _ + 1, .closeObject :: rest => .ok (.object [], rest)
          | room + 1, rest =>
              match readMembers fuel room rest with
              | .ok (members, rest) => .ok (.object members, rest)
              | .error e => .error e
      | .closeArray :: _ | .closeObject :: _ | .comma :: _ | .colon :: _ => .error .malformed

def readItems : (fuel room : Nat) → List Token → Except ReadError (List Json × List Token)
  | 0, _, _ => .error .truncated
  | fuel + 1, room, tokens =>
      match readValue fuel room tokens with
      | .error e => .error e
      | .ok (item, .closeArray :: rest) => .ok ([item], rest)
      | .ok (item, .comma :: rest) =>
          match readItems fuel room rest with
          | .ok (items, rest) => .ok (item :: items, rest)
          | .error e => .error e
      | .ok (_, []) => .error .truncated
      | .ok _ => .error .malformed

def readMembers : (fuel room : Nat) → List Token → Except ReadError (List (String × Json) × List Token)
  | 0, _, _ => .error .truncated
  | fuel + 1, room, tokens =>
      match tokens with
      | .string key :: .colon :: rest =>
          match readValue fuel room rest with
          | .error e => .error e
          | .ok (value, .closeObject :: rest) => .ok ([(key, value)], rest)
          | .ok (value, .comma :: rest) =>
              match readMembers fuel room rest with
              | .ok (members, rest) => .ok ((key, value) :: members, rest)
              | .error e => .error e
          | .ok (_, []) => .error .truncated
          | .ok _ => .error .malformed
      | [] | [.string _] => .error .truncated
      | .brokenString e :: _ => .error e
      | _ => .error .malformed
end

-- The value at the front of the tokens of a whole text. Two steps for a token are more than reading can take.
def readFront (tokens : List Token) : Except ReadError (Json × List Token) :=
  readValue (2 * tokens.length + 1) maxNesting tokens

-- What a text stands for when it holds one document that `decode` accepts. Text after the document counts as an error
-- only once the document has been accepted.
def readAs {α : Type} (decode : Json → Except ReadError α) (text : String) : Except ReadError α :=
  match readFront (tokens text.toList) with
  | .error e => .error e
  | .ok (document, rest) =>
      match decode document with
      | .error e => .error e
      | .ok a => if rest.isEmpty then .ok a else .error .malformed

def read (text : String) : Except ReadError Json :=
  readAs .ok text

end SqlFilter.Json
