import ClosureWrap.Proofs.Tree.Links

/-!
# Nested ranges

The ranges of a tree are arbitrary, and looking for the innermost node at an offset is a greedy
search that never goes back. In a tree whose ranges are nested the search cannot go wrong: at most
one child holds the offset, and every node that holds it lies on the one path that the search takes.
For this it is enough that siblings do not overlap; that they stand in order is more than the search
needs.

## Main definitions

* `Tree.NestedAt`, `Tree.WellNested` — the children of a node, or of every node, lie in its range,
  in order and without overlap
* `Tree.SeparatedAt`, `Tree.Separated` — the same in any order

## Main results

* `Tree.locate?_of_mem_children` — the search goes on in the child that holds the offset
* `Tree.locate?_root` — the search from the root passes through every node that holds the offset
* `Tree.locate?_leaf` — a node without children is found at every offset that it holds
-/

namespace ClosureWrap

namespace Tree

/-- The range of node `n` is not reversed, and the ranges of its children lie in it, in order and
without overlap. -/
structure NestedAt (t : Tree) (n : Nat) : Prop where
  start_le_stop : t.start n ≤ t.stop n
  inside : ∀ c ∈ t.children n, t.start n ≤ t.start c ∧ t.stop c ≤ t.stop n
  ordered : (t.children n).Pairwise fun a b => t.stop a ≤ t.start b

/-- Ranges are nested at every node. -/
def WellNested (t : Tree) : Prop := ∀ n < t.size, t.NestedAt n

theorem contains_iff {t : Tree} {n offset : Nat} :
    t.contains n offset = true ↔ t.start n ≤ offset ∧ offset < t.stop n := by
  simp [contains]

/-- The ranges of the children of node `n` lie in its own, and no two of them have an offset in
common. -/
structure SeparatedAt (t : Tree) (n : Nat) : Prop where
  inside : ∀ c ∈ t.children n, t.start n ≤ t.start c ∧ t.stop c ≤ t.stop n
  disjoint : (t.children n).Pairwise fun a b =>
    ∀ offset, t.contains a offset = true → t.contains b offset = false

/-- Ranges are separated at every node. -/
def Separated (t : Tree) : Prop := ∀ n < t.size, t.SeparatedAt n

theorem NestedAt.separatedAt {t : Tree} {n : Nat} (h : t.NestedAt n) : t.SeparatedAt n := by
  refine ⟨h.inside, h.ordered.imp fun {a b} hbefore offset ha => ?_⟩
  rw [Bool.eq_false_iff, ne_eq, contains_iff]
  rw [contains_iff] at ha
  omega

theorem WellNested.separated {t : Tree} (h : t.WellNested) : t.Separated :=
  fun n hn => (h n hn).separatedAt

/-! ### The search -/

theorem locate?_eq (t : Tree) (n offset : Nat) :
    t.locate? n offset =
      if t.contains n offset then
        some (((t.children n).findSome? fun c => t.locate? c offset).getD n)
      else none := by
  rw [locate?]
  conv => rhs; rw [← List.attach_map_subtype_val (t.children n), List.findSome?_map]
  rfl

/-- The search finds a node exactly where it may start. -/
theorem isSome_locate? (t : Tree) (n offset : Nat) :
    (t.locate? n offset).isSome = t.contains n offset := by
  rw [locate?_eq]
  cases t.contains n offset <;> rfl

theorem locate?_eq_none_iff {t : Tree} {n offset : Nat} :
    t.locate? n offset = none ↔ t.contains n offset = false := by
  rw [← Option.not_isSome_iff_eq_none, isSome_locate?, Bool.not_eq_true]

/-- What a search finds holds the offset. -/
theorem contains_of_locate? {t : Tree} {n m offset : Nat} (h : t.locate? n offset = some m) :
    t.contains m offset = true := by
  rw [locate?_eq] at h
  split at h
  · rename_i hn
    rw [Option.some.injEq] at h
    cases hfound : (t.children n).findSome? fun c => t.locate? c offset with
    | none =>
      rw [hfound, Option.getD_none] at h
      rw [← h]
      exact hn
    | some k =>
      rw [hfound, Option.getD_some] at h
      obtain ⟨c, hc, hk⟩ := List.exists_of_findSome?_eq_some hfound
      have := lt_of_mem_children hc
      exact contains_of_locate? (hk.trans (congrArg some h))
  · cases h
termination_by t.size - n
decreasing_by omega

/-- A node without children is where a search ends. -/
theorem locate?_of_children_eq_nil {t : Tree} {n offset : Nat} (hn : t.children n = [])
    (h : t.contains n offset = true) : t.locate? n offset = some n := by
  rw [locate?_eq, if_pos h, hn, List.findSome?_nil, Option.getD_none]

/-- The search goes on in the child that holds the offset: no earlier child holds it. -/
theorem locate?_of_mem_children {t : Tree} {n c offset : Nat} (hn : t.SeparatedAt n)
    (hc : c ∈ t.children n) (h : t.contains c offset = true) :
    t.locate? n offset = t.locate? c offset := by
  obtain ⟨hstart, hstop⟩ := contains_iff.1 h
  obtain ⟨hlo, hhi⟩ := hn.inside c hc
  have hhere : t.contains n offset = true := contains_iff.2 ⟨by omega, by omega⟩
  obtain ⟨earlier, later, hsplit⟩ := List.append_of_mem hc
  have hearlier : (earlier.findSome? fun d => t.locate? d offset) = none := by
    rw [List.findSome?_eq_none_iff]
    intro d hd
    have hdisjoint := hn.disjoint
    rw [hsplit, List.pairwise_append] at hdisjoint
    refine locate?_eq_none_iff.2 (Bool.eq_false_iff.2 fun hd' => ?_)
    have hnot := hdisjoint.2.2 d hd c (List.mem_cons_self ..) offset hd'
    rw [h] at hnot
    cases hnot
  obtain ⟨m, hm⟩ := Option.isSome_iff_exists.1 ((isSome_locate? t c offset).trans h)
  rw [locate?_eq, if_pos hhere, hsplit, List.findSome?_append, hearlier, List.findSome?_cons, hm]
  rfl

/-- **Every node that holds the offset lies on the way of the search.** The induction goes up from
the node: its parent holds the offset too, and from there the search comes down to the node. -/
theorem locate?_root {t : Tree} (ht : t.Separated) {n offset : Nat} (hn : n < t.size)
    (h : t.contains n offset = true) : t.locate? root offset = t.locate? n offset := by
  induction n using Nat.strongRecOn with
  | ind n ih =>
    rcases Nat.eq_zero_or_pos n with rfl | hpos
    · rfl
    · obtain ⟨p, hp, hlt⟩ := exists_parent hpos hn
      have hchild : n ∈ t.children p := mem_children.2 ⟨hn, hp⟩
      have hseparated := ht p (by omega)
      have hparent : t.contains p offset = true := by
        obtain ⟨hlo, hhi⟩ := hseparated.inside n hchild
        obtain ⟨hstart, hstop⟩ := contains_iff.1 h
        exact contains_iff.2 ⟨by omega, by omega⟩
      exact (ih p hlt (by omega) hparent).trans (locate?_of_mem_children hseparated hchild h)

/-- A node without children is found at every offset that it holds. -/
theorem locate?_leaf {t : Tree} (ht : t.Separated) {n offset : Nat} (hn : n < t.size)
    (hchildren : t.children n = []) (h : t.contains n offset = true) :
    t.locate? root offset = some n := by
  rw [locate?_root ht hn h, locate?_of_children_eq_nil hchildren h]

end Tree

end ClosureWrap
