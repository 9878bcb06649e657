import Mathlib.Algebra.GroupWithZero.Nat
import Mathlib.Data.List.DropRight
import Mathlib.Data.List.Induction
import SqlFilter.Filter

/-!
# Histories of a filter

A handle is changed by updates and additions one after the other. Every operand of its history since the last update is
found in its tree, at the level that its place in the history gives.
-/

set_option autoImplicit false

namespace SqlFilter

variable {F : Type}

namespace Node

/-- A tree stands so many groups below another. At level zero they are the same tree. -/
def Below : Nat → Node F → Node F → Prop
  | 0, root, node => root = node
  | level + 1, .group _ _ nodes, node => ∃ child ∈ nodes, Below level child node
  | _ + 1, .leaf _, _ => False

theorem below_child (level : Nat) (root : Node F) (logic : Logic) (own : Option String) (nodes : List (Node F))
    (child : Node F) (below : Below level root (.group logic own nodes)) (member : child ∈ nodes) :
    Below (level + 1) root child := by
  induction level generalizing root with
  | zero =>
      cases below
      exact ⟨child, member, rfl⟩
  | succ level ih =>
      cases root with
      | leaf condition => exact below.elim
      | group rootLogic rootOwn rootNodes =>
          obtain ⟨next, nextMember, nextBelow⟩ := below
          exact ⟨next, nextMember, ih next nextBelow⟩

theorem leaves_of_append (first second : List (Node F)) :
    leavesOf (first ++ second) = leavesOf first ++ leavesOf second := by
  induction first with
  | nil => rfl
  | cons node nodes ih => rw [List.cons_append, leavesOf, leavesOf, ih, List.append_assoc]

theorem leaves_of_option (operand : Option (Node F)) : leavesOf operand.toList = operand.toList.flatMap leaves := by
  cases operand <;> simp [leavesOf]

mutual
theorem leaf_count_eq (node : Node F) : node.leafCount = node.leaves.length := by
  cases node with
  | leaf condition => rfl
  | group logic own nodes => exact leaf_counts_eq nodes
theorem leaf_counts_eq (nodes : List (Node F)) : leafCounts nodes = (leavesOf nodes).length := by
  cases nodes with
  | nil => rfl
  | cons node nodes => rw [leafCounts, leavesOf, List.length_append, leaf_count_eq node, leaf_counts_eq nodes]
end

theorem join_pair (logic : Logic) (first second : Option (Node F)) :
    join logic [first, second] = .group logic none (first.toList ++ second.toList) := by
  cases first <;> cases second <;> rfl

end Node

namespace Filter

/-- What can be done to a filter: its tree is replaced, or a tree is added to it. -/
inductive Step (F : Type) where
  | update (root : Option (Node F))
  | add (logic : Logic) (operand : Option (Node F))

def Step.update? : Step F → Option (Option (Node F))
  | .update root => some root
  | .add .. => none

def Step.add? : Step F → Option (Logic × Option (Node F))
  | .add logic operand => some (logic, operand)
  | .update _ => none

def step (filter : Filter F) : Step F → Filter F
  | .update root => filter.update root
  | .add .and operand => filter.addAnd operand
  | .add .or operand => filter.addOr operand

def run (filter : Filter F) (steps : List (Step F)) : Filter F :=
  steps.foldl step filter

-- The tree of the last replacement, or else the one at the start, and what was added since then.
def lastUpdate (initial : Option (Node F)) (steps : List (Step F)) : Option (Node F) :=
  (steps.filterMap Step.update?).getLast?.getD initial

def addsSince (steps : List (Step F)) : List (Logic × Option (Node F)) :=
  (steps.rtakeWhile fun step => step.add?.isSome).filterMap Step.add?

-- The operands that are present, in the order of their steps, each with the number of groups that were put around it.
def addedLevels (adds : List (Logic × Option (Node F))) : List (Nat × Node F) :=
  adds.zipIdx.filterMap fun (add, i) => add.2.map fun node => (adds.length - i, node)

def operandLevels (base : Option (Node F)) (adds : List (Logic × Option (Node F))) : List (Nat × Node F) :=
  base.toList.map (fun node => (adds.length, node)) ++ addedLevels adds

def grown (base : Option (Node F)) (adds : List (Logic × Option (Node F))) : Option (Node F) :=
  adds.foldl (fun root add => some (.join add.1 [root, add.2])) base

theorem grown_cons (base : Option (Node F)) (logic : Logic) (operand : Option (Node F))
    (later : List (Logic × Option (Node F))) :
    grown base ((logic, operand) :: later) = grown (some (.join logic [base, operand])) later := rfl

theorem grown_append (base : Option (Node F)) (adds : List (Logic × Option (Node F))) (logic : Logic)
    (operand : Option (Node F)) :
    grown base (adds ++ [(logic, operand)]) = some (.join logic [grown base adds, operand]) := by
  simp [grown]

theorem run_root (filter : Filter F) (steps : List (Step F)) :
    (filter.run steps).root = grown (lastUpdate filter.root steps) (addsSince steps) := by
  induction steps using List.reverseRecOn with
  | nil => rfl
  | append_singleton steps last ih =>
      have unfolded : filter.run (steps ++ [last]) = (filter.run steps).step last := by
        simp [run]
      rw [unfolded]
      cases last with
      | update root => simp [step, update, lastUpdate, addsSince, Step.update?, Step.add?, grown]
      | add logic operand =>
          have same : lastUpdate filter.root (steps ++ [.add logic operand]) = lastUpdate filter.root steps := by
            simp [lastUpdate, Step.update?]
          have more : addsSince (steps ++ [.add logic operand]) = addsSince steps ++ [(logic, operand)] := by
            simp [addsSince, Step.add?]
          rw [same, more, grown_append, ← ih]
          cases logic <;> rfl

theorem added_levels_cons (logic : Logic) (operand : Option (Node F)) (later : List (Logic × Option (Node F))) :
    addedLevels ((logic, operand) :: later) =
      operand.toList.map (fun node => (later.length + 1, node)) ++ addedLevels later := by
  have shifted : later.zipIdx 1 = later.zipIdx.map fun (add, i) => (add, i + 1) := by
    rw [List.zipIdx_succ]
  rw [addedLevels, List.zipIdx_cons, List.length_cons, List.filterMap_cons, Nat.zero_add, shifted, List.filterMap_map]
  have levels : later.zipIdx.filterMap ((fun (add, i) => add.2.map fun node => (later.length + 1 - i, node)) ∘
      fun (add, i) => (add, i + 1)) = addedLevels later := by
    unfold addedLevels
    congr 1
    funext ⟨add, i⟩
    simp [Nat.add_sub_add_right]
  cases operand with
  | none => exact levels
  | some node => exact congrArg (List.cons _) levels

theorem join_levels (base : Option (Node F)) (logic : Logic) (operand : Option (Node F))
    (later : List (Logic × Option (Node F))) :
    operandLevels base ((logic, operand) :: later) =
      (base.toList ++ operand.toList).map (fun node => (later.length + 1, node)) ++ addedLevels later := by
  rw [operandLevels, added_levels_cons, List.map_append, List.append_assoc, List.length_cons]

theorem operand_levels_some (root : Node F) (adds : List (Logic × Option (Node F))) :
    operandLevels (some root) adds = (adds.length, root) :: addedLevels adds := rfl

theorem level_operands (base : Option (Node F)) (adds : List (Logic × Option (Node F))) :
    (operandLevels base adds).map Prod.snd = base.toList ++ adds.filterMap Prod.snd := by
  have added : (addedLevels adds).map Prod.snd = adds.filterMap Prod.snd := by
    induction adds with
    | nil => rfl
    | cons add later ih =>
        obtain ⟨logic, operand⟩ := add
        rw [added_levels_cons, List.map_append, ih]
        cases operand <;> simp
  rw [operandLevels, List.map_append, added]
  cases base <;> rfl

-- The base and the first operand added stand side by side, and from then on they are one base. So the history is read
-- from its beginning.
theorem grown_leaves (base : Option (Node F)) (adds : List (Logic × Option (Node F))) :
    (grown base adds).toList.flatMap Node.leaves =
      (operandLevels base adds).flatMap fun operand => operand.2.leaves := by
  induction adds generalizing base with
  | nil => cases base <;> simp [grown, operandLevels, addedLevels]
  | cons add later ih =>
      obtain ⟨logic, operand⟩ := add
      have joined : (Node.join logic [base, operand]).leaves =
          base.toList.flatMap Node.leaves ++ operand.toList.flatMap Node.leaves := by
        rw [Node.join_pair, Node.leaves, Node.leaves_of_append, Node.leaves_of_option, Node.leaves_of_option]
      rw [grown_cons, ih, operand_levels_some, List.flatMap_cons, joined, join_levels, List.flatMap_append,
        List.flatMap_map, List.flatMap_append]

theorem grown_below (base : Option (Node F)) (adds : List (Logic × Option (Node F))) (level : Nat) (node : Node F)
    (operand : (level, node) ∈ operandLevels base adds) :
    ∃ root, grown base adds = some root ∧ Node.Below level root node := by
  induction adds generalizing base level node with
  | nil =>
      cases base with
      | none => simp [operandLevels, addedLevels] at operand
      | some root =>
          obtain ⟨rfl, rfl⟩ : level = 0 ∧ node = root := by simpa [operandLevels, addedLevels] using operand
          exact ⟨node, rfl, rfl⟩
  | cons add later ih =>
      obtain ⟨logic, added⟩ := add
      rw [join_levels] at operand
      rcases List.mem_append.mp operand with beside | after
      · obtain ⟨child, member, same⟩ := List.mem_map.mp beside
        obtain ⟨rfl, rfl⟩ := Prod.mk.inj same
        obtain ⟨root, whole, below⟩ := ih (some (.join logic [base, added])) later.length (.join logic [base, added])
          List.mem_cons_self
        rw [Node.join_pair] at below
        exact ⟨root, whole, Node.below_child _ root _ _ _ child below member⟩
      · exact ih (some (.join logic [base, added])) level node (List.mem_cons_of_mem _ after)

-- The largest of a number and the heights that operands reach at their levels.
def tallest (least : Nat) (operands : List (Nat × Node F)) : Nat :=
  (operands.map fun operand => operand.2.depth + operand.1).foldr max least

theorem tallest_cons (least level : Nat) (node : Node F) (operands : List (Nat × Node F)) :
    tallest least ((level, node) :: operands) = max (node.depth + level) (tallest least operands) := rfl

theorem tallest_raised (least other : Nat) (operands : List (Nat × Node F)) :
    tallest (max least other) operands = max least (tallest other operands) := by
  induction operands with
  | nil => rfl
  | cons operand operands ih =>
      obtain ⟨level, node⟩ := operand
      rw [tallest_cons, tallest_cons, ih]
      omega

theorem grown_depth (base : Option (Node F)) (adds : List (Logic × Option (Node F))) :
    (grown base adds).elim 0 Node.depth = tallest adds.length (operandLevels base adds) := by
  induction adds generalizing base with
  | nil => cases base <;> simp [grown, operandLevels, addedLevels, tallest]
  | cons add later ih =>
      obtain ⟨logic, operand⟩ := add
      have raised : tallest (later.length + 1) (addedLevels later) =
          max (later.length + 1) (tallest later.length (addedLevels later)) := by
        rw [← tallest_raised, Nat.max_eq_left (Nat.le_succ _)]
      rw [grown_cons, ih, operand_levels_some, tallest_cons, join_levels, List.length_cons, Node.join_pair]
      cases base <;> cases operand <;> simp [Node.depth, Node.maxDepth, tallest_cons, raised] <;> omega

theorem grown_group (base : Option (Node F)) (adds : List (Logic × Option (Node F))) (extended : adds ≠ []) :
    ∃ nodes, grown base adds = some (.group (adds.getLast extended).1 none nodes) := by
  have last := grown_append base adds.dropLast (adds.getLast extended).1 (adds.getLast extended).2
  rw [List.dropLast_append_getLast extended, Node.join_pair] at last
  exact ⟨_, last⟩

/-- Whatever is done to a filter, once something was added after the last replacement its tree holds every condition
of that replacement and of what was added, once and in order, and each operand as it was, as deep as its place in the
history says. Adding nothing adds no condition, but puts one more group around all that came before. -/
theorem run_keeps_every_operand (filter : Filter F) (steps : List (Step F)) (extended : addsSince steps ≠ []) :
    ∃ root nodes, (filter.run steps).root = some root ∧
      root = .group ((addsSince steps).getLast extended).1 none nodes ∧
      root.leaves =
        ((lastUpdate filter.root steps).toList ++ (addsSince steps).filterMap Prod.snd).flatMap Node.leaves ∧
      (∀ level node, (level, node) ∈ operandLevels (lastUpdate filter.root steps) (addsSince steps) →
        Node.Below level root node) ∧
      root.leafCount =
        (((lastUpdate filter.root steps).toList ++ (addsSince steps).filterMap Prod.snd).map Node.leafCount).sum ∧
      root.depth =
        tallest (addsSince steps).length (operandLevels (lastUpdate filter.root steps) (addsSince steps)) := by
  obtain ⟨nodes, whole⟩ := grown_group (lastUpdate filter.root steps) (addsSince steps) extended
  have leaves := grown_leaves (lastUpdate filter.root steps) (addsSince steps)
  have depth := grown_depth (lastUpdate filter.root steps) (addsSince steps)
  rw [whole] at leaves depth
  have operands : (operandLevels (lastUpdate filter.root steps) (addsSince steps)).map Prod.snd =
      (lastUpdate filter.root steps).toList ++ (addsSince steps).filterMap Prod.snd := level_operands _ _
  have ordered : (Node.group ((addsSince steps).getLast extended).1 none nodes).leaves =
      ((lastUpdate filter.root steps).toList ++ (addsSince steps).filterMap Prod.snd).flatMap Node.leaves := by
    rw [← operands, List.flatMap_map]
    simpa using leaves
  refine ⟨_, nodes, (run_root filter steps).trans whole, rfl, ordered, ?_, ?_, depth⟩
  · intro level node operand
    obtain ⟨root, same, below⟩ := grown_below _ _ level node operand
    exact Option.some.inj (whole.symm.trans same) ▸ below
  · have counts : (Node.leafCount : Node F → Nat) = fun node => node.leaves.length := funext Node.leaf_count_eq
    rw [Node.leaf_count_eq, ordered, List.length_flatMap, counts]

-- An empty filter, a replacement after an addition, and then four additions of which two add nothing.
def longHistory : List (Step String) :=
  [.add .and none, .update (some (.group .or (some "p.") [.leaf (.of "a" .eq .null)])), .add .or none,
    .add .and (some (.leaf (.of "b" .gt (.int 1)))), .add .or (some (.group .and none [.group .or none []])),
    .add .and none]

theorem long_history_kept :
    addsSince longHistory ≠ [] ∧ ∃ root nodes, (empty.run longHistory).root = some root ∧
      root = .group .and none nodes ∧ root.leaves = [.of "a" .eq .null, .of "b" .gt (.int 1)] ∧
      Node.Below 4 root (.group .or (some "p.") [.leaf (.of "a" .eq .null)]) ∧
      Node.Below 3 root (.leaf (.of "b" .gt (.int 1))) ∧ root.leafCount = 2 ∧ root.depth = 5 := by
  have extended : addsSince longHistory ≠ [] := List.ne_nil_of_length_pos (by decide)
  obtain ⟨root, nodes, whole, group, leaves, below, count, depth⟩ :=
    run_keeps_every_operand empty longHistory extended
  refine ⟨extended, root, nodes, whole, group, leaves, below 4 _ ?_, below 3 _ ?_, count, depth⟩
  · exact List.mem_cons_self
  · exact List.mem_cons_of_mem _ List.mem_cons_self

end Filter

end SqlFilter
