import SqlFilter.Proofs.Sql.Numbering
import SqlFilter.Proofs.Sql.Shapes

/-!
# What one condition binds

A condition binds all its operands or, if it is misshapen, none. The counter takes a step for each of them and starts
over at zero after its last value.
-/

set_option autoImplicit false

namespace SqlFilter.Sql

-- Where the counter has room, its steps are those of ordinary counting.
theorem counted (start : UInt64) (count : Nat) (room : start.toNat + count < 18446744073709551616) :
    (start + .ofNat count).toNat = start.toNat + count := by
  rw [UInt64.toNat_add, UInt64.toNat_ofNat', Nat.add_mod_mod, Nat.mod_eq_of_lt room]

namespace Bindings

/-- The stores that binding value after value leads to from a start. -/
inductive Reached (start : UInt64) : Bindings → Prop
  | fresh : Reached start (.startingAt start)
  | bound {store : Bindings} (earlier : Reached start store) (value : Value) : Reached start (store.bind value).2

-- The number that the next placeholder will carry is not kept apart from the count of values: it is the start and the
-- count together, after any history.
theorem reached_next {start : UInt64} {store : Bindings} (reached : store.Reached start) :
    store.next = start + .ofNat store.size := by
  induction reached with
  | fresh => exact (UInt64.add_zero start).symm
  | @bound store earlier value ih =>
      have grown : (store.bind value).2.size = store.size + 1 := Array.size_push value
      rw [grown, UInt64.ofNat_add, ← UInt64.add_assoc, ← ih]
      rfl

theorem reached_append {start : UInt64} {store : Bindings} (reached : store.Reached start) (values : List Value) :
    Reached start ⟨store.next + .ofNat values.length, store.values ++ values⟩ := by
  induction values generalizing store with
  | nil => simpa using reached
  | cons value values ih =>
      have grown := ih (reached.bound value)
      rw [bind, advance] at grown
      simpa [-UInt64.ofNat_add] using grown

theorem next_counted {start : UInt64} {store : Bindings} (reached : store.Reached start)
    (room : start.toNat + store.size < 18446744073709551616) : store.next.toNat = start.toNat + store.size := by
  rw [reached_next reached, counted start store.size room]

end Bindings

variable {F : Type}

theorem placeholders_later (start : UInt64) (earlier count : Nat) :
    placeholders (start + .ofNat earlier) count =
      (List.range' earlier count).map fun position => placeholder (start + .ofNat position) := by
  rw [List.range'_eq_map_range, List.map_map, placeholders]
  refine List.map_congr_left fun i _ => ?_
  rw [Function.comp_apply, placeholder, UInt64.ofNat_add, ← UInt64.add_assoc, UInt64.toNat_add _ (.ofNat i),
    UInt64.toNat_ofNat', Nat.add_mod_mod]

-- A condition has no left-hand side of its own, so every dollar sign in it is a placeholder's.
theorem condition_dollar_tokens (leaf : Leaf F) (store : Bindings) :
    dollarTokens ((conditionFragment leaf).write (.bound store)).1.toList =
      placeholders store.next leaf.operands.length := by
  have free : ∀ token ∈ (conditionFragment leaf).lefts, '$' ∉ token.toList := by
    rw [condition_lefts]
    nofun
  rw [Fragment.dollar_tokens_written _ (condition_plain leaf) (condition_delimited leaf) free, condition_operands]

variable [FieldName F]

/-- What a condition does to a store that it has been written with: it adds its operands, and its text names the
places that they have been given. Value and number of a place go together by the start alone. -/
structure Binds (leaf : Leaf F) (start : UInt64) (store grown : Bindings) (text : String) : Prop where
  reached : grown.Reached start
  values : grown.values.toList = store.values.toList ++ leaf.operands
  next : grown.next = store.next + .ofNat leaf.operands.length
  advanced : start.toNat + store.size + leaf.operands.length < 18446744073709551616 →
    grown.next.toNat = store.next.toNat + leaf.operands.length
  names : dollarTokens text.toList =
    (List.range' store.size leaf.operands.length).map fun position => placeholder (start + .ofNat position)
  counted : start.toNat + store.size + leaf.operands.length ≤ 18446744073709551616 →
    dollarTokens text.toList =
      (List.range' store.size leaf.operands.length).map fun position => "$" ++ (start.toNat + position).repr

/-- A misshapen condition is found out before the first of its operands is bound, whatever has been bound before. The
next number is start and count together, as long as the counter has room for it. -/
theorem condition_binds_all_or_nothing (leaf : Leaf F) (start : UInt64) (store : Bindings)
    (reached : store.Reached start) :
    (start.toNat + store.size < 18446744073709551616 → store.next.toNat = start.toNat + store.size) ∧
      (leaf.Misshapen → (condition leaf).run (.bound store) = .error (misfit leaf) (.bound store)) ∧
      (¬ leaf.Misshapen → ∃ text grown,
        (condition leaf).run (.bound store) = .ok text (.bound grown) ∧ Binds leaf start store grown text) := by
  have next := Bindings.reached_next reached
  refine ⟨Bindings.next_counted reached, fun misshapen => ?_, fun sound => ?_⟩
  · rw [condition_run, (shape_error_iff leaf _).mpr ⟨misshapen, rfl⟩]
  · have places := placeholders_later start store.size leaf.operands.length
    have tokens := condition_dollar_tokens leaf store
    rw [Fragment.write_bound, condition_operands] at tokens
    rw [← next] at places
    have grown := Bindings.reached_append reached leaf.operands
    rw [condition_run, (shape_error_none_iff leaf).mpr sound, Fragment.write_bound, condition_operands]
    refine ⟨_, _, rfl, grown, by simp, rfl, fun room => ?_, tokens.trans places, fun fits => ?_⟩
    · have before := Bindings.next_counted reached (by omega)
      have size : Bindings.size ⟨store.next + .ofNat leaf.operands.length, store.values ++ leaf.operands⟩ =
          store.size + leaf.operands.length := by
        rw [Bindings.size, Bindings.size, ← Array.length_toList, Array.toList_appendList, List.length_append,
          Array.length_toList]
      rw [Bindings.next_counted grown (by rwa [size, ← Nat.add_assoc]), size, before, Nat.add_assoc]
    · rw [tokens, places]
      refine List.map_congr_left fun position member => ?_
      obtain ⟨_, below⟩ := List.mem_range'_1.mp member
      rw [placeholder, counted start position (by omega)]

def onceBound : Bindings :=
  ((Bindings.startingAt 3).bind (.string "$9")).2

theorem range_bound_after_history :
    onceBound.Reached 3 ∧
      (condition (.of "id" .between (.array [.int 1, .int 5, .null]))).run (.bound onceBound) =
        .error (.invalidShape "id" .between "a 2-element array") (.bound onceBound) ∧
      ∃ text grown, (condition (.of "id" .between (.array [.int 1, .null]))).run (.bound onceBound) =
          .ok text (.bound grown) ∧
        dollarTokens text.toList = ["$4", "$5"] ∧ grown.values.toList = [.string "$9", .int 1, .null] := by
  have reached : onceBound.Reached 3 := .bound .fresh _
  have misshapen : (Leaf.of "id" .between (.array [.int 1, .int 5, .null])).Misshapen := by
    refine ⟨nofun, ?_⟩
    rintro ⟨low, high, same⟩
    cases same
  have sound : ¬ (Leaf.of "id" .between (.array [.int 1, .null])).Misshapen := fun misshapen =>
    misshapen.2 ⟨_, _, rfl⟩
  obtain ⟨_, refused, _⟩ := condition_binds_all_or_nothing (.of "id" .between _) 3 onceBound reached
  obtain ⟨_, _, accepted⟩ := condition_binds_all_or_nothing (.of "id" .between _) 3 onceBound reached
  obtain ⟨text, grown, written, binds⟩ := accepted sound
  exact ⟨reached, refused misshapen, text, grown, written, binds.counted (by decide), binds.values⟩

-- After the last number of the counter the next one is not one more.
theorem list_bound_past_the_counter :
    (Bindings.startingAt 18446744073709551615).Reached 18446744073709551615 ∧
      ∃ grown, (condition (.of "a" .isIn (.array [.int 1, .int 2]))).run
          (.bound (.startingAt 18446744073709551615)) = .ok "in ($18446744073709551615, $0)" (.bound grown) ∧
        grown.values.toList = [.int 1, .int 2] ∧
        grown.next.toNat ≠ (Bindings.startingAt 18446744073709551615).next.toNat + 2 :=
  ⟨.fresh, _, rfl, rfl, by decide⟩

end SqlFilter.Sql
