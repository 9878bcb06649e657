import SqlFilter.Value.Basic

/-!
The values bound so far, in order, and the number that the next placeholder will carry. That number is a word of 64
bits and goes on at zero after its last value.
-/

set_option autoImplicit false

namespace SqlFilter.Sql

def placeholder (number : UInt64) : String :=
  "$" ++ number.toNat.repr

structure Bindings where
  next : UInt64
  values : Array Value

namespace Bindings

def startingAt (start : UInt64) : Bindings :=
  ⟨start, #[]⟩

def size (store : Bindings) : Nat :=
  store.values.size

def isEmpty (store : Bindings) : Bool :=
  store.values.isEmpty

def bind (store : Bindings) (value : Value) : String × Bindings :=
  (placeholder store.next, ⟨store.next + 1, store.values.push value⟩)

end Bindings

end SqlFilter.Sql
