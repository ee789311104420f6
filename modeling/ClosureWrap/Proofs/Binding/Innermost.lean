import ClosureWrap.Proofs.Binding
import ClosureWrap.Proofs.Tree.Order

/-!
# The innermost scope that declares a name

What a name means is said here without a search. What a scope owns under a name is a part of the
walk through the scope: a file or a block owns the functions, variables and type aliases with that
name to which nothing but nodes that are not told apart stands in the way, and a function owns its
parameters. Of the scopes around a node, the innermost one that owns something decides.

The search goes outwards over the scopes and comes down into each of them. That it comes across the
same nodes in the same order is seen in two steps. It keeps the order of the walk, since it is one
that leaves things out (`contained_sublist_tail`), and it leaves out the right things
(`contained_iff_declaredIn`).

## Main definitions

* `Tree.StandsIn` — nothing but nodes that are not told apart stand between two nodes
* `Tree.DeclaredIn` — a declaration that belongs to a file or a block
* `Tree.owned` — the declarations of a name that belong to a scope, in the order of the walk

## Main results

* `Tree.ownDeclarations_eq_owned` — what is collected in a scope is what it owns
* `Tree.resolve_eq_owned_innermost` — a name means what the innermost scope owns that owns anything
-/

namespace ClosureWrap

namespace Tree

variable {t : Tree} {name : String} {space : Namespace} {s d : Nat}

/-! ### What belongs to a scope -/

/-- Node `s` is above `d`, and every node between the two is one that is not told apart. -/
def StandsIn (t : Tree) (s d : Nat) : Prop :=
  s ∈ t.ancestors d ∧ ∀ a ∈ t.ancestors d, s ∈ t.ancestors a → t.kind a = .unknown

instance (t : Tree) (s d : Nat) : Decidable (t.StandsIn s d) :=
  inferInstanceAs (Decidable (_ ∧ _))

/-- Node `d` is a declaration that belongs to the file or block `s`. A variable belongs to it by the
statement of which it is a part. -/
def DeclaredIn (t : Tree) (s d : Nat) : Namespace → Prop
  | .value =>
    t.kind d = .functionDeclaration ∧ t.StandsIn s d ∨
      t.kind d = .variableDeclaration ∧
        ∃ p ∈ t.parent d, t.kind p = .variableStatement ∧ t.StandsIn s p
  | .type => t.kind d = .typeAliasDeclaration ∧ t.StandsIn s d

instance (t : Tree) (s d : Nat) : (space : Namespace) → Decidable (t.DeclaredIn s d space)
  | .value => inferInstanceAs (Decidable (_ ∨ _))
  | .type => inferInstanceAs (Decidable (_ ∧ _))

/-- The declarations of `name` that belong to scope `s`: the parameters of a function, and otherwise
the declarations that the walk through the scope comes across. -/
def owned (t : Tree) (name : String) (space : Namespace) (s : Nat) : List Nat :=
  if (t.kind s).isFunctionLike then
    match space with
    | .value => (t.childrenWith s .parameter).filter fun p => t.declaredName? p = some name
    | .type => []
  else
    (t.preorder s).tail.filter fun d => t.declaredName? d = some name ∧ t.DeclaredIn s d space

/-- One step down: a node stands in another one as its child, or in a child that is not told
apart. -/
theorem standsIn_iff :
    t.StandsIn s d ↔
      d ∈ t.children s ∨ ∃ c ∈ t.children s, t.kind c = .unknown ∧ t.StandsIn c d := by
  constructor
  · rintro ⟨habove, hbetween⟩
    obtain ⟨c, hc, hd⟩ := exists_child_of_mem_ancestors habove
    rcases hd with rfl | hd
    · exact .inl hc
    · have hsc : s ∈ t.ancestors c := mem_ancestors_of_parent (mem_children.1 hc).2
      refine .inr ⟨c, hc, hbetween c hd hsc, hd, fun a ha hca => ?_⟩
      exact hbetween a ha (mem_ancestors_trans hsc hca)
  · -- A node at or above `s` is not below `s`, so only the nodes from the child downwards count.
    have houtside {c a : Nat} (hc : c ∈ t.children s) (ha : a ∈ t.ancestors c)
        (hsa : s ∈ t.ancestors a) : False := by
      have hlt := lt_of_mem_ancestors hsa
      rw [ancestors_of_parent (mem_children.1 hc).2, List.mem_cons] at ha
      rcases ha with rfl | ha
      · exact Nat.lt_irrefl _ hlt
      · exact Nat.lt_asymm hlt (lt_of_mem_ancestors ha)
    rintro (hd | ⟨c, hc, hkind, hcd, hbetween⟩)
    · exact ⟨mem_ancestors_of_parent (mem_children.1 hd).2,
        fun a ha hsa => (houtside hd ha hsa).elim⟩
    · have hsc : s ∈ t.ancestors c := mem_ancestors_of_parent (mem_children.1 hc).2
      refine ⟨mem_ancestors_trans hsc hcd, fun a ha hsa => ?_⟩
      rcases eq_or_mem_ancestors ha hcd with rfl | hac | hca
      · exact hkind
      · exact (houtside hc hac hsa).elim
      · exact hbetween a ha hca

/-- What belongs to a node that is not told apart belongs to the node above it. -/
theorem DeclaredIn.outwards {c : Nat} (hc : c ∈ t.children s) (hkind : t.kind c = .unknown)
    (h : t.DeclaredIn c d space) : t.DeclaredIn s d space := by
  have hstands {x : Nat} (hx : t.StandsIn c x) : t.StandsIn s x :=
    standsIn_iff.2 (.inr ⟨c, hc, hkind, hx⟩)
  cases space with
  | value =>
    rcases h with ⟨hd, hx⟩ | ⟨hd, p, hp, hstatement, hx⟩
    · exact .inl ⟨hd, hstands hx⟩
    · exact .inr ⟨hd, p, hp, hstatement, hstands hx⟩
  | type => exact ⟨h.1, hstands h.2⟩

/-- No scope lies between a declaration and the file or block to which it belongs. -/
theorem DeclaredIn.not_isScope {a : Nat} (h : t.DeclaredIn s d space) (ha : a ∈ t.ancestors d)
    (hsa : s ∈ t.ancestors a) : (t.kind a).isScope = false := by
  have hstands (hx : t.StandsIn s d) : (t.kind a).isScope = false := by
    rw [hx.2 a ha hsa]
    rfl
  cases space with
  | value =>
    rcases h with ⟨-, hx⟩ | ⟨-, p, hp, hstatement, hx⟩
    · exact hstands hx
    · rw [ancestors_of_parent hp, List.mem_cons] at ha
      rcases ha with rfl | ha
      · rw [hstatement]
        rfl
      · rw [hx.2 a ha hsa]
        rfl
  | type => exact hstands h.2

/-! ### What is collected -/

/-- A declaration is contained in every node in which `x` stands, if it is contained in the one
right above `x`. -/
theorem StandsIn.contained {s x : Nat} (h : t.StandsIn s x)
    (hx : ∀ p, x ∈ t.children p → t.Contained name space p d) : t.Contained name space s d := by
  rcases standsIn_iff.1 h with hchild | ⟨c, hc, hkind, hbelow⟩
  · exact hx s hchild
  · have hlt := lt_of_mem_children hc
    exact .wrapped hc hkind (hbelow.contained hx)
termination_by t.size - s
decreasing_by omega

/-- **The declarations that are collected are those that belong to the node.** -/
theorem contained_iff_declaredIn :
    t.Contained name space s d ↔ t.declaredName? d = some name ∧ t.DeclaredIn s d space := by
  constructor
  · intro h
    refine ⟨beq_iff_eq.1 h.declares_eq, ?_⟩
    induction h with
    | function hmem hkind _ => exact .inl ⟨hkind, standsIn_iff.2 (.inl hmem)⟩
    | typeAlias hmem hkind _ => exact ⟨hkind, standsIn_iff.2 (.inl hmem)⟩
    | variableIn hstatement hkind hmem hvariable _ =>
      exact .inr ⟨hvariable, _, (mem_children.1 hmem).2, hkind, standsIn_iff.2 (.inl hstatement)⟩
    | wrapped hmem hkind _ ih => exact ih.outwards hmem hkind
  · rintro ⟨hname, h⟩
    have hdeclares : t.declares name d = true := beq_iff_eq.2 hname
    cases space with
    | value =>
      rcases h with ⟨hkind, hx⟩ | ⟨hkind, p, hp, hstatement, hx⟩
      · exact hx.contained fun _ hmem => .function hmem hkind hdeclares
      · exact hx.contained fun _ hmem =>
          .variableIn hmem hstatement (mem_children_of_parent hp) hkind hdeclares
    | type => exact h.2.contained fun _ hmem => .typeAlias hmem h.1 hdeclares

/-- What is collected keeps the order of the walk. -/
theorem contained_sublist_tail (t : Tree) (name : String) (space : Namespace) (s : Nat) :
    (t.contained name space s).Sublist (t.preorder s).tail := by
  rw [contained_eq, tail_preorder]
  refine List.Sublist.flatMap_right _ fun c hc => ?_
  have hlt := lt_of_mem_children hc
  split
  · split
    · exact t.singleton_sublist_preorder c
    · exact List.nil_sublist _
  · split
    · exact t.singleton_sublist_preorder c
    · exact List.nil_sublist _
  · exact List.filter_sublist.trans (t.children_sublist_preorder c)
  · exact (contained_sublist_tail t name _ c).trans (List.tail_sublist _)
  · exact List.nil_sublist _
termination_by t.size - s
decreasing_by omega

/-- A part of a list without repetition is what a test leaves of it, if the test tells the members
of the part. -/
theorem eq_filter_of_sublist {part whole : List Nat} {p : Nat → Bool} (h : part.Sublist whole)
    (hnodup : whole.Nodup) (hp : ∀ x ∈ whole, p x = true ↔ x ∈ part) : part = whole.filter p := by
  induction h with
  | slnil => rfl
  | cons x hsub ih =>
    obtain ⟨hx, hnodup⟩ := List.nodup_cons.1 hnodup
    rw [List.forall_mem_cons] at hp
    rw [List.filter_cons_of_neg fun h => hx (hsub.subset (hp.1.1 h))]
    exact ih hnodup hp.2
  | cons_cons x _ ih =>
    obtain ⟨hx, hnodup⟩ := List.nodup_cons.1 hnodup
    rw [List.forall_mem_cons] at hp
    rw [List.filter_cons_of_pos (hp.1.2 List.mem_cons_self)]
    refine congrArg (x :: ·) (ih hnodup fun y hy => (hp.2 y hy).trans ?_)
    rw [List.mem_cons, or_iff_right]
    rintro rfl
    exact hx hy

/-- **What is collected in a scope is what it owns.** -/
theorem ownDeclarations_eq_owned (t : Tree) (name : String) (space : Namespace) (s : Nat) :
    t.ownDeclarations name space s = t.owned name space s := by
  unfold ownDeclarations owned
  split
  · cases space with
    | value => exact List.filter_congr fun p _ => Bool.beq_eq_decide_eq _ _
    | type => rfl
  · refine eq_filter_of_sublist (t.contained_sublist_tail name space s)
      ((List.tail_sublist _).nodup (t.nodup_preorder s)) fun d _ => ?_
    rw [decide_eq_true_iff, mem_contained, contained_iff_declaredIn]

/-- What a scope owns is a part of the walk from it. -/
theorem owned_sublist_preorder (t : Tree) (name : String) (space : Namespace) (s : Nat) :
    (t.owned name space s).Sublist (t.preorder s) := by
  unfold owned
  split
  · cases space with
    | value =>
      exact (List.filter_sublist.trans List.filter_sublist).trans (t.children_sublist_preorder s)
    | type => exact List.nil_sublist _
  · exact List.filter_sublist.trans (List.tail_sublist _)

/-- A scope around a declaration is the one that owns it, or lies around that one. -/
theorem isScope_of_mem_ownDeclarations {a : Nat} (hd : d ∈ t.ownDeclarations name space s)
    (ha : a ∈ t.ancestors d) (hscope : (t.kind a).isScope = true) : a = s ∨ a ∈ t.ancestors s := by
  rcases mem_ownDeclarations.1 hd with ⟨-, -, hparameter⟩ | ⟨-, hcontained⟩
  · obtain ⟨hchild, -⟩ := mem_childrenWith.1 (mem_parametersNamed.1 hparameter).1
    rw [ancestors_of_parent (mem_children.1 hchild).2, List.mem_cons] at ha
    exact ha
  · rcases eq_or_mem_ancestors ha hcontained.mem_ancestors with heq | habove | hbelow
    · exact .inl heq
    · exact .inr habove
    · rw [(contained_iff_declaredIn.1 hcontained).2.not_isScope ha hbelow] at hscope
      cases hscope

/-! ### What a name means -/

/-- **A name means what the innermost scope owns that owns anything.** If no scope around the node
owns something under the name, it means nothing. What it means belongs to one scope around the node,
stands in the order of the walk without repetition, and is never inside a scope that is not around
the node. -/
theorem resolve_eq_owned_innermost (t : Tree) (n : Nat) (name : String) (space : Namespace) :
    ((t.resolve n name space = [] ∧
          ∀ s ∈ t.ancestors n, (t.kind s).isScope = true → t.owned name space s = []) ∨
        ∃ s ∈ t.ancestors n, (t.kind s).isScope = true ∧ t.owned name space s ≠ [] ∧
          t.resolve n name space = t.owned name space s ∧
          (∀ a ∈ t.ancestors n, (t.kind a).isScope = true → t.owned name space a ≠ [] →
            a = s ∨ a ∈ t.ancestors s) ∧
          ∀ d ∈ t.resolve n name space, s ∈ t.ancestors d) ∧
      (t.resolve n name space).Nodup ∧ (t.resolve n name space).Sublist (t.preorder root) ∧
      ∀ d ∈ t.resolve n name space, ∀ a ∈ t.ancestors d, (t.kind a).isScope = true →
        a ∈ t.ancestors n := by
  by_cases hfound : t.resolve n name space = []
  · refine ⟨.inl ⟨hfound, fun s hs hscope => ?_⟩, ?_⟩
    · rw [← ownDeclarations_eq_owned]
      exact resolve_eq_nil_iff.1 hfound s (mem_scopes.2 ⟨hs, hscope⟩)
    · rw [hfound]
      exact ⟨List.nodup_nil, List.nil_sublist _, fun d hd => (by cases hd)⟩
  · obtain ⟨s, hs, heq, hinnermost⟩ := exists_scope_of_resolve hfound
    obtain ⟨habove, hscope⟩ := mem_scopes.1 hs
    have howned : t.resolve n name space = t.owned name space s := by
      rw [heq, ownDeclarations_eq_owned]
    have hsize : s < t.size := lt_size_of_kind fun hunknown => by
      rw [hunknown] at hscope
      cases hscope
    have horder : (t.resolve n name space).Sublist (t.preorder root) := by
      rw [howned]
      exact (t.owned_sublist_preorder name space s).trans (preorder_sublist_root hsize)
    refine ⟨.inr ⟨s, habove, hscope, howned ▸ hfound, howned, fun a ha hascope hne => ?_,
      fun d hd => ?_⟩, horder.nodup (t.nodup_preorder root), horder, fun d hd a ha hascope => ?_⟩
    · rw [← ownDeclarations_eq_owned] at hne
      exact hinnermost a (mem_scopes.2 ⟨ha, hascope⟩) hne
    · rw [heq] at hd
      exact mem_ancestors_of_mem_ownDeclarations hd
    · rw [heq] at hd
      rcases isScope_of_mem_ownDeclarations hd ha hascope with rfl | haround
      · exact habove
      · exact mem_ancestors_trans haround habove

end Tree

end ClosureWrap
