import ClosureWrap.Tree.Walk

/-!
# Along the links of a tree

Every node but the root has one node above it, with a smaller number. So the way outwards from a
node is a chain: of two nodes above it, one lies above the other. And a node that lies somewhere
above another one is above it through exactly one of its children.

## Main results

* `Tree.ancestors_of_parent` — one step outwards
* `Tree.mem_ancestors_trans`, `Tree.eq_or_mem_ancestors` — what is above a node is a chain
* `Tree.exists_child_of_mem_ancestors` — the child through which a node is above another one
-/

namespace ClosureWrap

namespace Tree

/-! ### Numbers that name a node -/

theorem node_eq_default {t : Tree} {n : Nat} (h : t.size ≤ n) : t.node n = default := by
  rw [node, Array.getD_eq_getD_getElem?, Array.getElem?_eq_none h]
  rfl

/-- A number that names no node has no kind of its own. -/
theorem lt_size_of_kind {t : Tree} {n : Nat} (h : t.kind n ≠ .unknown) : n < t.size := by
  rcases Nat.lt_or_ge n t.size with hlt | hge
  · exact hlt
  · rw [kind, node_eq_default hge] at h
    exact absurd rfl h

theorem lt_size_of_identifier {t : Tree} {n : Nat} (h : t.kind n = .identifier) : n < t.size :=
  lt_size_of_kind (by rw [h]; exact Kind.noConfusion)

theorem lt_size_of_parent {t : Tree} {n p : Nat} (h : t.parent n = some p) : n < t.size := by
  rcases Nat.lt_or_ge n t.size with hlt | hge
  · exact hlt
  · rw [parent, node_eq_default hge] at h
    cases h

theorem mem_children_of_parent {t : Tree} {n p : Nat} (h : t.parent n = some p) :
    n ∈ t.children p :=
  mem_children.2 ⟨lt_size_of_parent h, h⟩

theorem exists_parent {t : Tree} {n : Nat} (h₀ : 0 < n) (h : n < t.size) :
    ∃ p, t.parent n = some p ∧ p < n := by
  obtain ⟨p, hp⟩ := Option.isSome_iff_exists.1 (t.linked.rooted n h₀ h)
  rw [← parent_eq] at hp
  exact ⟨p, hp, parent_lt hp⟩

/-! ### Going outwards -/

theorem ancestors_of_parent {t : Tree} {n p : Nat} (h : t.parent n = some p) :
    t.ancestors n = p :: t.ancestors p := by
  rw [ancestors]
  split
  · rename_i hnone
    rw [h] at hnone
    cases hnone
  · rename_i q hq
    rw [h] at hq
    cases hq
    rfl

theorem ancestors_of_parent_eq_none {t : Tree} {n : Nat} (h : t.parent n = none) :
    t.ancestors n = [] := by
  rw [ancestors]
  split
  · rfl
  · rename_i p hp
    rw [h] at hp
    cases hp

theorem mem_ancestors_of_parent {t : Tree} {n p : Nat} (h : t.parent n = some p) :
    p ∈ t.ancestors n := by
  rw [ancestors_of_parent h]
  exact List.mem_cons_self

/-- What is above a node is its parent, or above its parent. -/
theorem mem_ancestors_iff {t : Tree} {a n : Nat} :
    a ∈ t.ancestors n ↔ ∃ p, t.parent n = some p ∧ (a = p ∨ a ∈ t.ancestors p) := by
  cases hn : t.parent n with
  | none => simp [ancestors_of_parent_eq_none hn]
  | some p => simp [ancestors_of_parent hn]

/-- What is above a node above is above. The induction follows the walk outwards from `n`. -/
theorem mem_ancestors_trans {t : Tree} {a b n : Nat} (ha : a ∈ t.ancestors b)
    (hb : b ∈ t.ancestors n) : a ∈ t.ancestors n := by
  induction n using Nat.strongRecOn with
  | ind n ih =>
    obtain ⟨p, hp, hb⟩ := mem_ancestors_iff.1 hb
    rw [ancestors_of_parent hp]
    rcases hb with rfl | hb
    · exact List.mem_cons_of_mem _ ha
    · exact List.mem_cons_of_mem _ (ih p (parent_lt hp) hb)

theorem lt_of_mem_ancestors {t : Tree} {a n : Nat} (h : a ∈ t.ancestors n) : a < n := by
  induction n using Nat.strongRecOn with
  | ind n ih =>
    obtain ⟨p, hp, h⟩ := mem_ancestors_iff.1 h
    have hlt := parent_lt hp
    rcases h with rfl | h
    · exact hlt
    · exact Nat.lt_trans (ih p hlt h) hlt

/-- **What is above a node is a chain**: of two nodes above it, one is above the other. -/
theorem eq_or_mem_ancestors {t : Tree} {a b n : Nat} (ha : a ∈ t.ancestors n)
    (hb : b ∈ t.ancestors n) : a = b ∨ a ∈ t.ancestors b ∨ b ∈ t.ancestors a := by
  induction n using Nat.strongRecOn with
  | ind n ih =>
    obtain ⟨p, hp, ha⟩ := mem_ancestors_iff.1 ha
    rw [ancestors_of_parent hp, List.mem_cons] at hb
    rcases ha with rfl | ha
    · rcases hb with rfl | hb
      · exact .inl rfl
      · exact .inr (.inr hb)
    · rcases hb with rfl | hb
      · exact .inr (.inl ha)
      · exact ih p (parent_lt hp) ha hb

/-- A node is above another one through one of its children. -/
theorem exists_child_of_mem_ancestors {t : Tree} {a n : Nat} (h : a ∈ t.ancestors n) :
    ∃ c ∈ t.children a, n = c ∨ c ∈ t.ancestors n := by
  induction n using Nat.strongRecOn with
  | ind n ih =>
    obtain ⟨p, hp, h⟩ := mem_ancestors_iff.1 h
    rcases h with rfl | h
    · exact ⟨n, mem_children_of_parent hp, .inl rfl⟩
    · obtain ⟨c, hc, hbelow⟩ := ih p (parent_lt hp) h
      refine ⟨c, hc, .inr (mem_ancestors_iff.2 ⟨p, hp, ?_⟩)⟩
      exact hbelow.imp_left Eq.symm

end Tree

end ClosureWrap
