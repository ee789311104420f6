import ClosureWrap.Proofs.Tree.Nesting
import ClosureWrap.Proofs.Tree.Order
import Mathlib.Data.List.Pairwise

/-!
# What a search finds

The search for the innermost node at an offset goes down into the first child that holds the offset
and never goes back. Said without the search, such a way down is a `Descent`, and for every tree,
whatever its ranges are, the search finds the end of the one descent that there is.

Everything on the way holds the offset and nothing below the end of it does. More cannot be said in
general. If siblings overlap, a node that holds the offset may lie off the way, even deeper down. If
ranges are laminar it cannot: a node that holds the offset has only nodes above it that do, so the
way down passes through it.

## Main definitions

* `Tree.Within` — a node and what is below it
* `Tree.Descent` — going down into the first child that holds an offset
* `Tree.Laminar` — ranges are nested or have nothing in common

## Main results

* `Tree.locate?_eq_some_iff` — the search finds the end of a descent
* `Tree.Descent.contains_of_within` — what is on the way holds the offset
* `Tree.Descent.within_of_laminar` — what holds the offset is on the way
* `Tree.locate?_finds_innermost` — the two together, for the search
-/

namespace ClosureWrap

namespace Tree

variable {t : Tree} {offset r c m n : Nat}

/-! ### At a node and below it -/

/-- Node `n` is `r` or below `r`. -/
def Within (t : Tree) (r n : Nat) : Prop := n = r ∨ r ∈ t.ancestors n

instance (t : Tree) (r n : Nat) : Decidable (t.Within r n) := inferInstanceAs (Decidable (_ ∨ _))

theorem Within.refl (t : Tree) (n : Nat) : t.Within n n := .inl rfl

theorem Within.trans (hrm : t.Within r m) (hmn : t.Within m n) : t.Within r n := by
  rcases hmn with rfl | hmn
  · exact hrm
  · rcases hrm with rfl | hrm
    · exact .inr hmn
    · exact .inr (mem_ancestors_trans hrm hmn)

theorem within_of_mem_children (h : c ∈ t.children n) : t.Within n c :=
  .inr (mem_ancestors_of_parent (mem_children.1 h).2)

theorem Within.le (h : t.Within r n) : r ≤ n := by
  rcases h with rfl | h
  · exact Nat.le_refl _
  · exact Nat.le_of_lt (lt_of_mem_ancestors h)

theorem Within.antisymm (hrn : t.Within r n) (hnr : t.Within n r) : r = n :=
  Nat.le_antisymm hrn.le hnr.le

/-- What is below a node is at or below one of its children. -/
theorem Within.eq_or_exists_child (h : t.Within r n) :
    n = r ∨ ∃ c ∈ t.children r, t.Within c n :=
  h.imp_right exists_child_of_mem_ancestors

/-- A node is at or below no more than one child of another one. -/
theorem Within.child_unique {a b : Nat} (ha : a ∈ t.children r) (hb : b ∈ t.children r)
    (han : t.Within a n) (hbn : t.Within b n) : a = b :=
  eq_of_mem_preorder ha hb (mem_preorder.2 han) (mem_preorder.2 hbn)

/-! ### Descents -/

/-- Going down from a node that holds the offset, always into the first child that holds it as well,
ends at a node none of whose children holds it. -/
inductive Descent (t : Tree) (offset : Nat) : Nat → Nat → Prop
  /-- No child holds the offset. -/
  | here {n : Nat} (holds : t.contains n offset = true)
      (innermost : ∀ c ∈ t.children n, t.contains c offset = false) : Descent t offset n n
  /-- Child `c` is the first that holds the offset. -/
  | down {n c m : Nat} {earlier later : List Nat} (holds : t.contains n offset = true)
      (split : t.children n = earlier ++ c :: later)
      (first : ∀ d ∈ earlier, t.contains d offset = false) (rest : Descent t offset c m) :
      Descent t offset n m

theorem Descent.contains_start (h : Descent t offset r n) : t.contains r offset = true := by
  cases h with
  | here holds _ => exact holds
  | down holds _ _ _ => exact holds

/-- A descent is the way that the search takes. -/
theorem Descent.locate?_eq (h : Descent t offset r n) : t.locate? r offset = some n := by
  induction h with
  | here holds innermost =>
    have hnone : (t.children _).findSome? (fun c => t.locate? c offset) = none :=
      List.findSome?_eq_none_iff.2 fun c hc => locate?_eq_none_iff.2 (innermost c hc)
    rw [t.locate?_eq, if_pos holds, hnone, Option.getD_none]
  | down holds split first _ ih =>
    have hearlier := List.findSome?_eq_none_iff.2 fun d hd => locate?_eq_none_iff.2 (first d hd)
    rw [t.locate?_eq, if_pos holds, split, List.findSome?_append, hearlier, List.findSome?_cons, ih]
    rfl

/-- The way that the search takes is a descent. -/
theorem descent_of_locate? {t : Tree} {offset r n : Nat} (h : t.locate? r offset = some n) :
    Descent t offset r n := by
  have holds : t.contains r offset = true := by
    rw [← isSome_locate?, h, Option.isSome_some]
  rw [t.locate?_eq, if_pos holds, Option.some.injEq] at h
  cases hfound : (t.children r).findSome? fun c => t.locate? c offset with
  | none =>
    rw [hfound, Option.getD_none] at h
    subst h
    exact .here holds fun c hc =>
      locate?_eq_none_iff.1 (List.findSome?_eq_none_iff.1 hfound c hc)
  | some found =>
    rw [hfound, Option.getD_some] at h
    subst h
    obtain ⟨earlier, c, later, split, hc, first⟩ := List.findSome?_eq_some_iff.1 hfound
    have hlt : r < c ∧ c < t.size := lt_of_mem_children (by rw [split]; simp)
    exact .down holds split (fun d hd => locate?_eq_none_iff.1 (first d hd)) (descent_of_locate? hc)
termination_by t.size - r
decreasing_by omega

/-- **The search finds the end of a descent**, in every tree. -/
theorem locate?_eq_some_iff : t.locate? r offset = some n ↔ Descent t offset r n :=
  ⟨descent_of_locate?, Descent.locate?_eq⟩

namespace Descent

theorem within (h : Descent t offset r n) : t.Within r n := by
  induction h with
  | here _ _ => exact .refl t _
  | down _ split _ _ ih => exact (within_of_mem_children (by rw [split]; simp)).trans ih

theorem contains_children (h : Descent t offset r n) :
    ∀ c ∈ t.children n, t.contains c offset = false := by
  induction h with
  | here _ innermost => exact innermost
  | down _ _ _ _ ih => exact ih

/-- **What is on the way holds the offset.** A node on the way below the start is at or below the
child into which the descent goes, since the end is. -/
theorem contains_of_within (h : Descent t offset r n) (hrm : t.Within r m) (hmn : t.Within m n) :
    t.contains m offset = true := by
  induction h with
  | here holds _ =>
    rw [← hrm.antisymm hmn]
    exact holds
  | @down r c n earlier later holds split _ rest ih =>
    rcases hrm.eq_or_exists_child with rfl | ⟨d, hd, hdm⟩
    · exact holds
    · have hc : c ∈ t.children r := by rw [split]; simp
      obtain rfl : d = c := Within.child_unique hd hc (hdm.trans hmn) rest.within
      exact ih hdm hmn

end Descent

/-! ### Laminar ranges -/

/-- From node `r` downwards, a node holds every offset that a child of it holds, and no two children
hold the same offset. -/
structure Laminar (t : Tree) (r : Nat) : Prop where
  inside : ∀ p, t.Within r p → ∀ c ∈ t.children p, ∀ x,
    t.contains c x = true → t.contains p x = true
  disjoint : ∀ p, t.Within r p → ∀ a ∈ t.children p, ∀ b ∈ t.children p, a ≠ b → ∀ x,
    t.contains a x = true → t.contains b x = false

/-- Ranges that lie inside each other end to end, and are separated otherwise, are laminar. -/
theorem Separated.laminar (h : t.Separated) (r : Nat) : t.Laminar r := by
  have hparent {p c : Nat} (hc : c ∈ t.children p) : t.SeparatedAt p :=
    h p (Nat.lt_trans (lt_of_mem_children hc).1 (lt_of_mem_children hc).2)
  constructor
  · intro p _ c hc x hx
    obtain ⟨hlo, hhi⟩ := (hparent hc).inside c hc
    obtain ⟨hstart, hstop⟩ := contains_iff.1 hx
    exact contains_iff.2 ⟨by omega, by omega⟩
  · intro p _ a ha b hb hne
    have hsymm : Std.Symm fun a b => ∀ x, t.contains a x = true → t.contains b x = false := by
      refine ⟨fun a b hab x hb => Bool.of_not_eq_true fun ha => ?_⟩
      rw [hab x ha] at hb
      cases hb
    exact (hparent ha).disjoint.forall ha hb hne

theorem Laminar.child (h : t.Laminar r) (hc : c ∈ t.children r) : t.Laminar c :=
  ⟨fun p hp => h.inside p ((within_of_mem_children hc).trans hp),
    fun p hp => h.disjoint p ((within_of_mem_children hc).trans hp)⟩

/-- At most one child holds the offset. -/
theorem Laminar.eq_of_contains {a b : Nat} (h : t.Laminar r) (ha : a ∈ t.children r)
    (hb : b ∈ t.children r) (hxa : t.contains a offset = true) (hxb : t.contains b offset = true) :
    a = b := by
  by_cases heq : a = b
  · exact heq
  · have hnot := h.disjoint r (.refl t r) a ha b hb heq offset hxa
    rw [hxb] at hnot
    cases hnot

/-- A node holds every offset that a node below it holds. -/
theorem Laminar.contains_of_within {t : Tree} {offset r m : Nat} (h : t.Laminar r)
    (hrm : t.Within r m) (hm : t.contains m offset = true) : t.contains r offset = true := by
  rcases hrm.eq_or_exists_child with rfl | ⟨c, hc, hcm⟩
  · exact hm
  · have hlt := lt_of_mem_children hc
    exact h.inside r (.refl t r) c hc offset ((h.child hc).contains_of_within hcm hm)
termination_by t.size - r
decreasing_by omega

/-- **What holds the offset is on the way**, if ranges are laminar. The induction follows the
descent: a node that holds the offset and is not the start is at or below a child that holds it too,
and there is only one. -/
theorem Descent.within_of_laminar (h : Descent t offset r n) (hlaminar : t.Laminar r)
    (hrm : t.Within r m) (hm : t.contains m offset = true) : t.Within m n := by
  induction h with
  | here _ innermost =>
    rcases hrm.eq_or_exists_child with rfl | ⟨c, hc, hcm⟩
    · exact .refl t _
    · have hholds := (hlaminar.child hc).contains_of_within hcm hm
      rw [innermost c hc] at hholds
      cases hholds
  | @down r c n earlier later _ split _ rest ih =>
    have hc : c ∈ t.children r := by rw [split]; simp
    rcases hrm.eq_or_exists_child with rfl | ⟨d, hd, hdm⟩
    · exact (within_of_mem_children hc).trans rest.within
    · have hholds := (hlaminar.child hd).contains_of_within hdm hm
      obtain rfl : d = c := hlaminar.eq_of_contains hd hc hholds rest.contains_start
      exact ih (hlaminar.child hc) hdm

/-! ### The search -/

/-- **The search finds an innermost node.** It finds nothing exactly if the node from which it
starts does not hold the offset. Otherwise it finds a node at or below the start, such that this
node and all nodes on the way to it hold the offset and none of its children does. If ranges are
laminar from the start downwards, every node there that holds the offset is the one that is found or
above it. -/
theorem locate?_finds_innermost (t : Tree) (r offset : Nat) :
    (t.locate? r offset = none ↔ t.contains r offset = false) ∧
      ∀ n, t.locate? r offset = some n →
        t.Within r n ∧
          (∀ m, t.Within r m → t.Within m n → t.contains m offset = true) ∧
          (∀ c ∈ t.children n, t.contains c offset = false) ∧
          (t.Laminar r → ∀ m, t.Within r m → t.contains m offset = true → t.Within m n) := by
  refine ⟨locate?_eq_none_iff, fun n hfound => ?_⟩
  have hdescent := locate?_eq_some_iff.1 hfound
  exact ⟨hdescent.within, fun m => hdescent.contains_of_within, hdescent.contains_children,
    fun hlaminar m => hdescent.within_of_laminar hlaminar⟩

/-- Nested ranges: node 1 has the range of the root, node 2 an empty one, and node 3 starts where
that is. -/
def nestedRanges : Tree :=
  ofRows "main.ts" "f(g)" .sourceFile [
    ⟨0, .callExpression, none, 0, 4⟩,
    ⟨1, .identifier, some .callee, 2, 2⟩,
    ⟨1, .parenthesizedExpression, some .argument, 2, 4⟩,
    ⟨3, .identifier, none, 3, 4⟩]

/-- Overlapping ranges: nodes 1 and 3 have an offset in common, at which node 4 below the latter
stands. -/
def overlappingRanges : Tree :=
  ofRows "main.ts" "f(g)" .sourceFile [
    ⟨0, .expressionStatement, none, 0, 3⟩,
    ⟨1, .identifier, none, 0, 2⟩,
    ⟨0, .expressionStatement, none, 2, 4⟩,
    ⟨3, .identifier, none, 2, 3⟩]

/-- Among nested ranges the search passes over the empty one, and whatever holds the offset is on
its way. Among overlapping ones it goes into the first and stays there, although node 4 lies deeper
and holds the offset as well. -/
theorem locate?_finds_innermost_nestedRanges :
    nestedRanges.locate? 1 2 = some 3 ∧ nestedRanges.Laminar 1 ∧
      (∀ m, nestedRanges.Within 1 m → nestedRanges.contains m 2 = true → nestedRanges.Within m 3) ∧
      overlappingRanges.locate? 0 2 = some 1 ∧
      (∀ c ∈ overlappingRanges.children 1, overlappingRanges.contains c 2 = false) ∧
      (overlappingRanges.contains 4 2 = true ∧ ¬ overlappingRanges.Within 4 1) := by
  have hnested : nestedRanges.WellNested := by
    have hranges : ∀ n < nestedRanges.size, nestedRanges.start n ≤ nestedRanges.stop n ∧
        (∀ c ∈ nestedRanges.children n, nestedRanges.start n ≤ nestedRanges.start c ∧
          nestedRanges.stop c ≤ nestedRanges.stop n) ∧
        (nestedRanges.children n).Pairwise fun a b =>
          nestedRanges.stop a ≤ nestedRanges.start b := by
      decide +kernel
    exact fun n hn => ⟨(hranges n hn).1, (hranges n hn).2.1, (hranges n hn).2.2⟩
  have hlaminar := hnested.separated.laminar 1
  obtain ⟨hfound, hfirst, hdeeper⟩ :
      nestedRanges.locate? 1 2 = some 3 ∧ overlappingRanges.locate? 0 2 = some 1 ∧
        overlappingRanges.contains 4 2 = true ∧ ¬ overlappingRanges.Within 4 1 := by
    decide +kernel
  obtain ⟨-, -, -, hall⟩ := (locate?_finds_innermost nestedRanges 1 2).2 3 hfound
  obtain ⟨-, -, hnone, -⟩ := (locate?_finds_innermost overlappingRanges 0 2).2 1 hfirst
  exact ⟨hfound, hlaminar, hall hlaminar, hfirst, hnone, hdeeper⟩

end Tree

end ClosureWrap
