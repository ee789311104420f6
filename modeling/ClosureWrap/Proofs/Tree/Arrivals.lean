import ClosureWrap.Proofs.Lowering.Numbering
import Mathlib.Data.List.Chain

/-!
# Trees grown in any order

A lowered tree is grown in pre-order, but nothing asks for that. A node may arrive below any node
that is there, so that arrivals below different nodes may alternate in whatever way, and the numbers
of what is below a node need not be consecutive. What remains is that numbers grow from the root
outwards, and this alone carries the walks: outwards numbers fall until the root is reached, and
inwards every node is met once.

A tree is read off the rows in which its nodes arrived. Its `i`-th row is node `i + 1`, and the
children of a node are the numbers of the rows below it, in the order of arrival.

## Main definitions

* `Tree.arrivalsBelow` — the numbers of the rows that arrive below a node

## Main results

* `Tree.node_grow` — every node after several arrivals
* `Tree.getLast?_ancestors` — the way outwards ends in the root
* `Tree.perm_preorder_root` — a walk from the root meets every node once
* `Tree.visit_root` — a walk with a stack has come to its end after as many steps as there are nodes
* `Tree.grown_in_any_order` — the links and the walks of a tree, from its rows
-/

namespace ClosureWrap

namespace Tree

/-! ### Arrivals -/

/-- The numbers of the rows that arrive below node `p`, in the order of arrival, when `next` is the
number of the first row. -/
def arrivalsBelow (p next : Nat) (rows : List Row) : List Nat :=
  ((rows.zipIdx next).filter fun a => a.1.parent = p).map Prod.snd

theorem arrivalsBelow_cons_self (r : Row) (next : Nat) (rows : List Row) :
    arrivalsBelow r.parent next (r :: rows) = next :: arrivalsBelow r.parent (next + 1) rows := by
  simp [arrivalsBelow, List.zipIdx_cons]

theorem arrivalsBelow_cons_of_ne {r : Row} {p : Nat} (h : r.parent ≠ p) (next : Nat)
    (rows : List Row) : arrivalsBelow p next (r :: rows) = arrivalsBelow p (next + 1) rows := by
  simp [arrivalsBelow, List.zipIdx_cons, h]

/-- **A tree after several arrivals**, node by node. Each row has to name a node that is there when
it arrives. A node that was there before has the arrivals below it as further children, and a node
that arrived has them as its only children. -/
theorem node_grow (rows : List Row) {t : Tree}
    (h : ∀ i (hi : i < rows.length), rows[i].parent < t.size + i) :
    (t.grow rows).size = t.size + rows.length ∧
      (∀ n < t.size, (t.grow rows).node n =
        { t.node n with children := t.children n ++ arrivalsBelow n t.size rows }) ∧
      ∀ i (hi : i < rows.length), (t.grow rows).node (t.size + i) =
        ⟨rows[i].kind, rows[i].role, rows[i].start, rows[i].stop, some rows[i].parent,
          arrivalsBelow (t.size + i) t.size rows⟩ := by
  induction rows generalizing t with
  | nil =>
    refine ⟨rfl, fun n _ => ?_, fun i hi => absurd hi (Nat.not_lt_zero i)⟩
    simp [grow, arrivalsBelow, children]
  | cons r rows ih =>
    have hr : r.parent < t.size := h 0 (Nat.zero_lt_succ _)
    have size₁ := size_push hr r.kind r.role r.start r.stop
    have node₁ := node_push hr r.kind r.role r.start r.stop
    have hgrow : t.grow (r :: rows) =
        (t.push r.parent r.kind r.role r.start r.stop).grow rows := rfl
    rw [hgrow]
    generalize t.push r.parent r.kind r.role r.start r.stop = t₁ at size₁ node₁
    obtain ⟨hsize, hold, hnew⟩ := @ih t₁ fun i hi => by
      have := h (i + 1) (Nat.succ_lt_succ hi)
      rw [List.getElem_cons_succ] at this
      omega
    rw [size₁] at hsize hold hnew
    refine ⟨by rw [hsize, List.length_cons]; omega, fun n hn => ?_, fun i hi => ?_⟩
    · rw [hold n (by omega), children, node₁ n, if_neg (by omega)]
      by_cases hp : n = r.parent
      · subst hp
        rw [if_pos rfl, arrivalsBelow_cons_self, List.append_assoc, List.singleton_append]
      · rw [if_neg hp, arrivalsBelow_cons_of_ne (Ne.symm hp), children]
    · rw [arrivalsBelow_cons_of_ne (by omega)]
      cases i with
      | zero => rw [Nat.add_zero, hold t.size (by omega), children, node₁, if_pos rfl]; rfl
      | succ i =>
        have hi' := hnew i (Nat.lt_of_succ_lt_succ hi)
        rw [show t.size + 1 + i = t.size + (i + 1) by omega] at hi'
        rw [hi', List.getElem_cons_succ]

/-! ### Outwards -/

/-- Only a node that arrived has a parent. -/
theorem parent_root (t : Tree) : t.parent root = none :=
  Option.eq_none_iff_forall_ne_some.2 fun p hp => Nat.not_lt_zero p (parent_lt hp)

theorem ancestors_root (t : Tree) : t.ancestors root = [] :=
  ancestors_of_parent_eq_none t.parent_root

/-- The way outwards from a node goes from each node to its parent. -/
theorem isChain_ancestors (t : Tree) (n : Nat) :
    (n :: t.ancestors n).IsChain fun a b => t.parent a = some b := by
  induction n using Nat.strongRecOn with
  | ind n ih =>
    cases hn : t.parent n with
    | none =>
      rw [ancestors_of_parent_eq_none hn]
      exact .singleton n
    | some p =>
      rw [ancestors_of_parent hn]
      exact (ih p (parent_lt hn)).cons_cons hn

theorem pairwise_ancestors (t : Tree) (n : Nat) : (n :: t.ancestors n).Pairwise (· > ·) :=
  List.isChain_iff_pairwise.1 ((t.isChain_ancestors n).imp fun _ _ => parent_lt)

/-- **The way outwards ends in the root.** -/
theorem getLast?_ancestors {t : Tree} {n : Nat} (h : n < t.size) :
    (n :: t.ancestors n).getLast? = some root := by
  induction n using Nat.strongRecOn with
  | ind n ih =>
    by_cases hroot : n = root
    · rw [hroot, ancestors_root, List.getLast?_singleton]
    · obtain ⟨p, hp, hlt⟩ := exists_parent (Nat.pos_of_ne_zero hroot) h
      rw [ancestors_of_parent hp, List.getLast?_cons_cons]
      exact ih p hlt (Nat.lt_trans hlt h)

/-! ### Inwards -/

/-- What is at or below the root is all that there is. -/
theorem mem_preorder_root {t : Tree} {n : Nat} : n ∈ t.preorder root ↔ n < t.size := by
  rw [mem_preorder]
  constructor
  · rintro (rfl | habove)
    · exact t.linked.nonempty
    · obtain ⟨p, hp, -⟩ := mem_ancestors_iff.1 habove
      exact lt_size_of_parent hp
  · intro h
    rcases List.mem_cons.1 (List.mem_of_getLast? (getLast?_ancestors h)) with heq | habove
    · exact .inl heq.symm
    · exact .inr habove

/-- **A walk from the root meets every node once.** -/
theorem perm_preorder_root (t : Tree) : (t.preorder root).Perm (List.range t.size) :=
  (List.perm_ext_iff_of_nodup (t.nodup_preorder root) List.nodup_range).2 fun n => by
    rw [mem_preorder_root, List.mem_range]

/-- **A walk with a stack comes to its end** after as many steps as there are nodes, and further
steps would add nothing. -/
theorem visit_root {t : Tree} {steps : Nat} (h : t.size ≤ steps) :
    t.visit steps [root] = t.preorder root := by
  have hlength := t.perm_preorder_root.length_eq
  rw [List.length_range] at hlength
  rw [visit_eq_take, List.flatMap_singleton, List.take_of_length_le (by omega)]

/-! ### From rows to trees -/

/-- The nodes of a tree are its root and its rows. -/
theorem node_ofRows (fileName text : String) (rootKind : Kind) {rows : List Row}
    (h : ∀ i (hi : i < rows.length), rows[i].parent ≤ i) :
    (ofRows fileName text rootKind rows).size = rows.length + 1 ∧
      (ofRows fileName text rootKind rows).node root =
        ⟨rootKind, none, 0, Text.byteLength text, none, arrivalsBelow root 1 rows⟩ ∧
      ∀ i (hi : i < rows.length), (ofRows fileName text rootKind rows).node (i + 1) =
        ⟨rows[i].kind, rows[i].role, rows[i].start, rows[i].stop, some rows[i].parent,
          arrivalsBelow (i + 1) 1 rows⟩ := by
  have hone : (leaf fileName text rootKind).size = 1 := rfl
  obtain ⟨hsize, hold, hnew⟩ := node_grow rows (t := leaf fileName text rootKind) fun i hi => by
    rw [hone]
    exact Nat.lt_one_add_iff.2 (h i hi)
  rw [hone] at hsize hold hnew
  refine ⟨hsize.trans (Nat.add_comm _ _), (hold root Nat.zero_lt_one).trans rfl, fun i hi => ?_⟩
  rw [Nat.add_comm i 1]
  exact hnew i hi

/-- **The links and the walks of a tree grown in any order.** Whatever the order in which nodes
arrive, as long as each arrives below a node that is there: the nodes are the root and the rows in
the order of arrival, numbers grow from the root outwards, and the children of a node are the nodes
of which it is the parent, each once and in the order of arrival. The way outwards from a node goes
from parent to parent, with falling numbers, and ends in the root. The walk with a stack comes to
its end, it meets every node once, and its order is the recursive one. -/
theorem grown_in_any_order (fileName text : String) (rootKind : Kind) (rows : List Row)
    (h : ∀ i (hi : i < rows.length), rows[i].parent ≤ i) :
    let t := ofRows fileName text rootKind rows
    (t.size = rows.length + 1 ∧ t.parent root = none ∧
      ∀ i (hi : i < rows.length), t.rowAt? (i + 1) = some rows[i]) ∧
    (∀ n < t.size, n ≠ root → ∃ p, t.parent n = some p ∧ p < n) ∧
    (∀ p < t.size, t.children p = arrivalsBelow p 1 rows ∧ (t.children p).Pairwise (· < ·) ∧
      ∀ c, c ∈ t.children p ↔ t.parent c = some p) ∧
    (∀ n < t.size, (n :: t.ancestors n).IsChain (fun a b => t.parent a = some b) ∧
      (n :: t.ancestors n).Pairwise (· > ·) ∧
      (t.ancestors n).getLast? = if n = root then none else some root) ∧
    (t.descendants = t.preorder root ∧ (∀ steps ≥ t.size, t.visit steps [root] = t.descendants) ∧
      t.descendants.Perm (List.range t.size) ∧
      ∀ n, t.preorder n = n :: (t.children n).flatMap t.preorder) := by
  intro t
  obtain ⟨hsize, hroot, hrow⟩ := node_ofRows fileName text rootKind h
  have hwalk : t.descendants = t.preorder root := visit_root (Nat.le_refl _)
  refine ⟨⟨hsize, t.parent_root, fun i hi => ?_⟩, fun n hn hne => ?_,
    fun p hp => ⟨?_, ?_, fun c => ?_⟩,
    fun n hn => ⟨t.isChain_ancestors n, t.pairwise_ancestors n, ?_⟩, hwalk,
    fun steps hsteps => ?_, ?_, t.preorder_eq⟩
  · simp only [t, rowAt?, parent, kind, role, start, stop, hrow i hi, Option.map_some]
  · exact exists_parent (Nat.pos_of_ne_zero hne) hn
  · cases p with
    | zero => exact congrArg Node.children hroot
    | succ i =>
      have hi : i + 1 < rows.length + 1 := Nat.lt_of_lt_of_eq hp hsize
      exact congrArg Node.children (hrow i (Nat.lt_of_succ_lt_succ hi))
  · rw [children_eq, t.linked.children_eq]
    exact List.pairwise_lt_range.filter _
  · exact ⟨fun hc => (mem_children.1 hc).2, mem_children_of_parent⟩
  · split
    · rename_i hn
      rw [hn, ancestors_root, List.getLast?_nil]
    · rename_i hne
      obtain ⟨p, hparent, hlt⟩ := exists_parent (Nat.pos_of_ne_zero hne) hn
      rw [ancestors_of_parent hparent]
      exact getLast?_ancestors (Nat.lt_trans hlt hn)
  · rw [visit_root hsteps, hwalk]
  · rw [hwalk]
    exact t.perm_preorder_root

/-- Two statements, nodes 1 and 2, whose parts arrive in turn. -/
def alternatingRows : List Row := [
  ⟨0, .expressionStatement, none, 0, 2⟩, ⟨0, .expressionStatement, none, 2, 4⟩,
  ⟨1, .identifier, none, 0, 1⟩, ⟨2, .identifier, none, 2, 3⟩, ⟨1, .unknown, none, 1, 2⟩]

/-- The numbers of what is below node 1 are not consecutive, and so the walk leaves the order of
numbers. -/
theorem grown_in_any_order_alternatingRows :
    (∀ i (hi : i < alternatingRows.length), alternatingRows[i].parent ≤ i) ∧
      (ofRows "main.ts" "a;b;" .sourceFile alternatingRows).children 1 = [3, 5] ∧
      (ofRows "main.ts" "a;b;" .sourceFile alternatingRows).preorder root = [0, 1, 3, 5, 2, 4] ∧
      ((ofRows "main.ts" "a;b;" .sourceFile alternatingRows).ancestors 5).getLast? = some root := by
  have hplaced : ∀ i (hi : i < alternatingRows.length), alternatingRows[i].parent ≤ i := by decide
  obtain ⟨⟨hsize, -, -⟩, -, hchildren, hancestors, hwalk, -, -, -⟩ :=
    grown_in_any_order "main.ts" "a;b;" .sourceFile alternatingRows hplaced
  refine ⟨hplaced, (hchildren 1 ?_).1, hwalk.symm.trans (by decide +kernel), (hancestors 5 ?_).2.2⟩
  · rw [hsize]
    decide
  · rw [hsize]
    decide

end Tree

end ClosureWrap
