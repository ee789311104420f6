import ClosureWrap.Proofs.Tree.Links
import Mathlib.Data.List.Flatten

/-!
# The order of a walk

The walk with a stack and the recursive pre-order are two descriptions of one order. They are
compared without asking how many steps the stack needs: `visit_eq_take` says that a walk of so many
steps is that much of the pre-orders of the pending nodes, one after another.

What a walk comes across is said by the links alone: the node from which it starts and all that is
below it, each once. A walk that starts further down is a part of it.

## Main results

* `Tree.preorder_eq` — the pre-order of a node, from those of its children
* `Tree.visit_eq_take` — a walk with a stack goes along the pre-orders of what is pending
* `Tree.mem_preorder`, `Tree.nodup_preorder` — what a walk comes across, and that it does so once
* `Tree.preorder_sublist_root` — a walk is a part of the walk from the root
-/

namespace ClosureWrap

namespace Tree

theorem preorder_eq (t : Tree) (n : Nat) :
    t.preorder n = n :: (t.children n).flatMap t.preorder := by
  rw [preorder]
  conv => rhs; rw [← List.attach_map_subtype_val (t.children n), List.flatMap_map]

/-- **A walk with a stack follows the pre-order.** After any number of steps, whatever is pending,
the nodes visited are the first ones of the pre-orders of the pending nodes. -/
theorem visit_eq_take (t : Tree) (steps : Nat) (pending : List Nat) :
    t.visit steps pending = (pending.flatMap t.preorder).take steps := by
  induction steps generalizing pending with
  | zero => simp [visit]
  | succ steps ih =>
    cases pending with
    | nil => simp [visit]
    | cons n pending =>
      rw [visit, ih, List.flatMap_append, List.flatMap_cons, preorder_eq, List.cons_append,
        List.take_succ_cons]

theorem descendants_eq_take (t : Tree) : t.descendants = (t.preorder root).take t.size := by
  rw [descendants, visit_eq_take, List.flatMap_singleton]

/-! ### What a walk comes across -/

theorem tail_preorder (t : Tree) (n : Nat) :
    (t.preorder n).tail = (t.children n).flatMap t.preorder := by
  rw [preorder_eq, List.tail_cons]

/-- After a node come the nodes below it. -/
theorem mem_tail_preorder {t : Tree} {n d : Nat} : d ∈ (t.preorder n).tail ↔ n ∈ t.ancestors d := by
  rw [tail_preorder, List.mem_flatMap]
  constructor
  · rintro ⟨c, hc, hd⟩
    have hlt := lt_of_mem_children hc
    have habove : n ∈ t.ancestors c := mem_ancestors_of_parent (mem_children.1 hc).2
    rw [preorder_eq, List.mem_cons, ← tail_preorder] at hd
    rcases hd with rfl | hd
    · exact habove
    · exact mem_ancestors_trans habove (mem_tail_preorder.1 hd)
  · intro h
    obtain ⟨c, hc, hd⟩ := exists_child_of_mem_ancestors h
    have hlt := lt_of_mem_children hc
    refine ⟨c, hc, ?_⟩
    rw [preorder_eq, List.mem_cons, ← tail_preorder]
    exact hd.imp_right mem_tail_preorder.2
termination_by t.size - n
decreasing_by all_goals omega

theorem mem_preorder {t : Tree} {n d : Nat} : d ∈ t.preorder n ↔ d = n ∨ n ∈ t.ancestors d := by
  rw [preorder_eq, List.mem_cons, ← tail_preorder, mem_tail_preorder]

theorem nodup_children (t : Tree) (n : Nat) : (t.children n).Nodup := by
  rw [children_eq, t.linked.children_eq]
  exact List.filter_sublist.nodup List.nodup_range

/-- Different children of a node have nothing below them in common: of two nodes above a third one
is above the other, and no child is above its sibling. -/
theorem eq_of_mem_preorder {t : Tree} {n a b d : Nat} (ha : a ∈ t.children n)
    (hb : b ∈ t.children n) (hda : d ∈ t.preorder a) (hdb : d ∈ t.preorder b) : a = b := by
  have hsibling {c c' : Nat} (hc : c ∈ t.children n) (hc' : c' ∈ t.children n) :
      c ∉ t.ancestors c' := by
    intro habove
    rw [ancestors_of_parent (mem_children.1 hc').2, List.mem_cons] at habove
    have hlt := (lt_of_mem_children hc).1
    rcases habove with rfl | habove
    · exact Nat.lt_irrefl _ hlt
    · exact Nat.lt_asymm hlt (lt_of_mem_ancestors habove)
  rw [mem_preorder] at hda hdb
  rcases hda with rfl | hda
  · exact hdb.resolve_right (hsibling hb ha)
  · rcases hdb with rfl | hdb
    · exact absurd hda (hsibling ha hb)
    · rcases eq_or_mem_ancestors hda hdb with heq | habove | habove
      · exact heq
      · exact absurd habove (hsibling ha hb)
      · exact absurd habove (hsibling hb ha)

/-- **A walk comes across no node twice.** -/
theorem nodup_preorder (t : Tree) (n : Nat) : (t.preorder n).Nodup := by
  rw [preorder_eq, List.nodup_cons, ← tail_preorder]
  refine ⟨fun h => Nat.lt_irrefl n (lt_of_mem_ancestors (mem_tail_preorder.1 h)), ?_⟩
  rw [tail_preorder, List.Nodup, List.pairwise_flatMap]
  constructor
  · intro c hc
    have hlt := lt_of_mem_children hc
    exact nodup_preorder t c
  · refine List.Pairwise.imp_of_mem ?_ (t.nodup_children n)
    rintro a b ha hb hne d hda _ hdb rfl
    exact hne (eq_of_mem_preorder ha hb hda hdb)
termination_by t.size - n
decreasing_by omega

/-! ### Walks inside a walk -/

theorem singleton_sublist_preorder (t : Tree) (n : Nat) : [n].Sublist (t.preorder n) := by
  rw [preorder_eq]
  exact (List.nil_sublist _).cons_cons n

theorem children_sublist_preorder (t : Tree) (n : Nat) : (t.children n).Sublist (t.preorder n) := by
  have hparts := List.Sublist.flatMap_right (t.children n) fun c _ => t.singleton_sublist_preorder c
  rw [List.flatMap_singleton', ← tail_preorder] at hparts
  exact hparts.trans (List.tail_sublist _)

theorem preorder_sublist_of_mem_children {t : Tree} {n c : Nat} (h : c ∈ t.children n) :
    (t.preorder c).Sublist (t.preorder n) := by
  have hpart : t.preorder c ∈ (t.children n).map t.preorder := List.mem_map.2 ⟨c, h, rfl⟩
  rw [preorder_eq t n, List.flatMap_def]
  exact (List.sublist_flatten_of_mem hpart).cons n

/-- The walk from a node is a part of the walk from the root. -/
theorem preorder_sublist_root {t : Tree} {n : Nat} (h : n < t.size) :
    (t.preorder n).Sublist (t.preorder root) := by
  induction n using Nat.strongRecOn with
  | ind n ih =>
    rcases Nat.eq_zero_or_pos n with rfl | hpos
    · exact List.Sublist.refl _
    · obtain ⟨p, hp, hlt⟩ := exists_parent hpos h
      exact (preorder_sublist_of_mem_children (mem_children_of_parent hp)).trans
        (ih p hlt (Nat.lt_trans hlt h))

end Tree

end ClosureWrap
