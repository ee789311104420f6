import ClosureWrap.Proofs.Binding

/-!
# Names up to renaming

What a name means is found by comparing it with other names, and a comparison does not look at how a
name is spelled. So if all names of a file are exchanged for others, such that equal names stay
equal and different names stay different, nothing changes about what they mean.

The two files of such an exchange are compared node by node. They have the same nodes with the same
links, kinds and roles, but each has its own text, and the ranges of the nodes may be different
ones. Only the texts of nodes that can be a name are compared at all, and only among those of the
same file.

## Main definitions

* `Tree.isNaming` — a node whose text can be a name
* `Tree.Renaming` — two trees that differ in the choice of names only
* `Tree.Renaming.Becomes` — a name of the first tree and the one that the second has in its place

## Main results

* `Tree.Renaming.declares`, `Tree.Renaming.resolve` — a name means in one tree what its counterpart
  means in the other
* `Tree.Renaming.declarationsOf` — every node stands for the same declarations
-/

namespace ClosureWrap

namespace Tree

/-- Node `n` has a text that can be a name: it is an identifier or a type reference, or it has the
role of a name. -/
def isNaming (t : Tree) (n : Nat) : Bool :=
  t.kind n == .identifier || t.kind n == .typeReference || t.role n == some .name

/-- The trees have the same nodes, and two names are equal in the one exactly if they are equal in
the other. -/
structure Renaming (t u : Tree) : Prop where
  size_eq : t.size = u.size
  parent_eq : ∀ n < t.size, t.parent n = u.parent n
  children_eq : ∀ n < t.size, t.children n = u.children n
  kind_eq : ∀ n < t.size, t.kind n = u.kind n
  role_eq : ∀ n < t.size, t.role n = u.role n
  textOf_eq_iff : ∀ m < t.size, ∀ n < t.size, t.isNaming m = true → t.isNaming n = true →
    (t.textOf m = t.textOf n ↔ u.textOf m = u.textOf n)

theorem lt_size_of_isNaming {t : Tree} {n : Nat} (h : t.isNaming n = true) : n < t.size := by
  rcases Nat.lt_or_ge n t.size with hn | hn
  · exact hn
  · rw [isNaming, kind, role, node_eq_default hn] at h
    cases h

namespace Renaming

variable {t u : Tree} (h : t.Renaming u)

include h

/-! ### What does not depend on names -/

/-- What holds of the nodes of both trees holds of every number, since any other number stands for
the same empty node. -/
theorem node_congr {α : Type} (f : Node → α) (hf : ∀ n < t.size, f (t.node n) = f (u.node n))
    (n : Nat) : f (t.node n) = f (u.node n) := by
  rcases Nat.lt_or_ge n t.size with hn | hn
  · exact hf n hn
  · rw [node_eq_default hn, node_eq_default (h.size_eq ▸ hn)]

theorem parent (n : Nat) : t.parent n = u.parent n := h.node_congr Node.parent h.parent_eq n

theorem children (n : Nat) : t.children n = u.children n :=
  h.node_congr Node.children h.children_eq n

theorem kind (n : Nat) : t.kind n = u.kind n := h.node_congr Node.kind h.kind_eq n

theorem role (n : Nat) : t.role n = u.role n := h.node_congr Node.role h.role_eq n

theorem childWith? (n : Nat) (r : Role) : t.childWith? n r = u.childWith? n r := by
  simp only [Tree.childWith?, h.children, h.role]

theorem childrenWith (n : Nat) (r : Role) : t.childrenWith n r = u.childrenWith n r := by
  simp only [Tree.childrenWith, h.children, h.role]

theorem parentKind? (n : Nat) : t.parentKind? n = u.parentKind? n := by
  rw [Tree.parentKind?, Tree.parentKind?, h.parent]
  exact congrArg (Option.map · (u.parent n)) (funext h.kind)

theorem isIntroducedName (n : Nat) : t.isIntroducedName n = u.isIntroducedName n := by
  rw [Tree.isIntroducedName, Tree.isIntroducedName, h.parentKind?, h.role]

theorem namespaceOf (n : Nat) : t.namespaceOf n = u.namespaceOf n := by
  simp only [Tree.namespaceOf, h.kind, h.parentKind?]

theorem ancestors (n : Nat) : t.ancestors n = u.ancestors n := by
  induction n using Nat.strongRecOn with
  | ind n ih =>
    cases hn : t.parent n with
    | none =>
      have hn' : u.parent n = none := (h.parent n).symm.trans hn
      rw [ancestors_of_parent_eq_none hn, ancestors_of_parent_eq_none hn']
    | some p =>
      have hn' : u.parent n = some p := (h.parent n).symm.trans hn
      rw [ancestors_of_parent hn, ancestors_of_parent hn', ih p (parent_lt hn)]

theorem scopes (n : Nat) : t.scopes n = u.scopes n := by
  simp only [Tree.scopes, h.ancestors, h.kind]

/-! ### What names mean -/

omit h in
/-- Where the first tree has the name `a`, the second has the name `b`. -/
def Becomes (t u : Tree) (a b : String) : Prop :=
  ∃ n, t.isNaming n = true ∧ t.textOf n = a ∧ u.textOf n = b

theorem textOf_eq_iff_of_becomes {a b : String} (hab : Becomes t u a b) {n : Nat}
    (hn : t.isNaming n = true) : t.textOf n = a ↔ u.textOf n = b := by
  obtain ⟨m, hm, rfl, rfl⟩ := hab
  exact h.textOf_eq_iff n (lt_size_of_isNaming hn) m (lt_size_of_isNaming hm) hn hm

/-- **A node declares a name in one tree exactly if it declares the other name in the other.** -/
theorem declares {a b : String} (hab : Becomes t u a b) (n : Nat) :
    t.declares a n = u.declares b n := by
  have hname : t.declaredName? n = some a ↔ u.declaredName? n = some b := by
    simp only [declaredName?, h.childWith?, h.kind, Option.map_eq_some_iff,
      Option.filter_eq_some_iff, beq_iff_eq]
    refine exists_congr fun c => and_congr_right fun hc => ?_
    refine h.textOf_eq_iff_of_becomes hab ?_
    simp [isNaming, h.kind, hc.2]
  rw [Bool.eq_iff_iff]
  simpa [Tree.declares] using hname

theorem variablesNamed {a b : String} (hab : Becomes t u a b) (n : Nat) :
    t.variablesNamed a n = u.variablesNamed b n := by
  simp only [Tree.variablesNamed, h.children, h.kind, h.declares hab]

/-- The induction goes down into the wrappers, as the search does. -/
theorem contained {a b : String} (hab : Becomes t u a b) (space : Namespace) (n : Nat) :
    t.contained a space n = u.contained b space n := by
  rw [contained_eq, contained_eq, ← h.children, List.flatMap_def, List.flatMap_def]
  refine congrArg List.flatten (List.map_congr_left fun c hc => ?_)
  have hlt := lt_of_mem_children hc
  rw [h.kind, h.declares hab, h.variablesNamed hab, contained hab space c]
termination_by t.size - n

theorem ownDeclarations {a b : String} (hab : Becomes t u a b) (space : Namespace) (n : Nat) :
    t.ownDeclarations a space n = u.ownDeclarations b space n := by
  have hdeclares : t.declares a = u.declares b := funext (h.declares hab)
  unfold Tree.ownDeclarations parametersNamed
  rw [h.kind, h.contained hab, h.childrenWith, hdeclares]

theorem firstDeclarations {a b : String} (hab : Becomes t u a b) (space : Namespace)
    (scopes : List Nat) :
    t.firstDeclarations a space scopes = u.firstDeclarations b space scopes := by
  induction scopes with
  | nil => rfl
  | cons scope outer ih =>
    rw [Tree.firstDeclarations, Tree.firstDeclarations, h.ownDeclarations hab, ih]

/-- **A name means in one tree what its counterpart means in the other.** -/
theorem resolve {a b : String} (hab : Becomes t u a b) (n : Nat) (space : Namespace) :
    t.resolve n a space = u.resolve n b space := by
  rw [Tree.resolve, Tree.resolve, h.scopes, h.firstDeclarations hab]

/-- The names by which a node refers in the two trees are counterparts. -/
theorem becomes_referencedName {n : Nat}
    (hkind : t.kind n = .identifier ∨ t.kind n = .typeReference) :
    Becomes t u (t.referencedName n) (u.referencedName n) := by
  unfold Tree.referencedName
  rw [← h.kind, ← h.childWith?]
  split
  · rename_i c _ hc
    have hrole : t.role c = some .name := by simpa using List.find?_some hc
    exact ⟨c, by simp [isNaming, hrole], rfl, rfl⟩
  · refine ⟨n, ?_, rfl, rfl⟩
    rcases hkind with hkind | hkind <;> simp [isNaming, hkind]

/-- **Every node stands for the same declarations in both trees.** -/
theorem declarationsOf (n : Nat) : t.declarationsOf n = u.declarationsOf n := by
  unfold Tree.declarationsOf
  rw [← h.kind]
  split
  · rename_i hkind
    rw [h.isIntroducedName, h.parent, h.role, h.namespaceOf,
      h.resolve (h.becomes_referencedName (.inl hkind))]
  · rename_i hkind
    rw [h.namespaceOf, h.resolve (h.becomes_referencedName (.inr hkind))]
  · rfl

end Renaming

end Tree

end ClosureWrap
