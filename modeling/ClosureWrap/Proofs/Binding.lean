import ClosureWrap.Binding
import ClosureWrap.Proofs.Tree.Links

/-!
# Scopes, one step at a time

Going outwards from a node and coming down into a scope both follow the links of a tree. The lemmas
here are the single steps of these walks, and what follows from them about a whole walk.

What a scope declares is described by a relation beside the function that collects it. `Contained`
has one case for each way in which a declaration can stand in a file or a block, so a fact about all
declarations is proved by going through the ways. On the way outwards the scopes form a chain, and
what is found is provided by the innermost scope that declares the name: `exists_scope_of_resolve`
says so once, and nothing after it looks at the walk again.

An identifier that stands below a call introduces nothing and is no part of a type, so all that
decides what it stands for is its name and the scopes around it.

## Main definitions

* `Tree.Contained` — the ways in which a declaration stands in a file or a block

## Main results

* `Tree.contained_eq`, `Tree.resolve_of_parent` — one step down, and one step outwards
* `Tree.mem_contained` — what is collected is what stands there
* `Tree.exists_scope_of_resolve`, `Tree.resolve_eq_nil_iff` — which scope a name is found in, and
  when in none
* `Tree.declarationsOf_of_isReference`, `Tree.declarationsOf_name` — what an identifier that refers
  to a name stands for, and what the name of a declaration stands for
* `Tree.declarationsOf_of_parent`, `Tree.declarationsOf_of_call` — what an identifier stands for
  below nodes that declare nothing, and below calls
-/

namespace ClosureWrap

namespace Tree

theorem contained_eq (t : Tree) (name : String) (space : Namespace) (n : Nat) :
    t.contained name space n = (t.children n).flatMap fun c =>
      match t.kind c, space with
      | .functionDeclaration, .value => if t.declares name c then [c] else []
      | .typeAliasDeclaration, .type => if t.declares name c then [c] else []
      | .variableStatement, .value => t.variablesNamed name c
      | .unknown, _ => t.contained name space c
      | _, _ => [] := by
  rw [contained]
  exact (List.flatMap_subtype fun _ _ => rfl).trans
    (congrArg (List.flatMap _) List.unattach_attach)

/-! ### Going outwards -/

theorem mem_scopes {t : Tree} {n s : Nat} :
    s ∈ t.scopes n ↔ s ∈ t.ancestors n ∧ (t.kind s).isScope = true :=
  List.mem_filter

/-- One step outwards: the node above decides if it is a scope that declares the name. -/
theorem resolve_of_parent {t : Tree} {n p : Nat} (h : t.parent n = some p) (name : String)
    (space : Namespace) :
    t.resolve n name space =
      if (t.kind p).isScope = true ∧ t.ownDeclarations name space p ≠ [] then
        t.ownDeclarations name space p
      else t.resolve p name space := by
  rw [resolve, scopes, ancestors_of_parent h, List.filter_cons]
  by_cases hscope : (t.kind p).isScope = true
  · rw [if_pos hscope, firstDeclarations]
    cases hown : t.ownDeclarations name space p with
    | nil => rw [if_neg (fun h => h.2 rfl), resolve, scopes]
    | cons d ds => rw [if_pos ⟨hscope, List.cons_ne_nil d ds⟩]
  · rw [if_neg hscope, if_neg (fun h => hscope h.1), resolve, scopes]

/-- A name means nothing exactly where no scope around declares it. -/
theorem resolve_eq_nil_iff {t : Tree} {n : Nat} {name : String} {space : Namespace} :
    t.resolve n name space = [] ↔ ∀ s ∈ t.scopes n, t.ownDeclarations name space s = [] := by
  rw [resolve]
  induction t.scopes n with
  | nil => simp [firstDeclarations]
  | cons s outer ih =>
    rw [firstDeclarations, List.forall_mem_cons]
    cases t.ownDeclarations name space s with
    | nil => simpa using ih
    | cons d ds => simp

/-- **A name is found in the innermost scope that declares it**: every other scope around the node
that declares the name lies around this one. -/
theorem exists_scope_of_resolve {t : Tree} {n : Nat} {name : String} {space : Namespace}
    (h : t.resolve n name space ≠ []) :
    ∃ s ∈ t.scopes n, t.resolve n name space = t.ownDeclarations name space s ∧
      ∀ a ∈ t.scopes n, t.ownDeclarations name space a ≠ [] → a = s ∨ a ∈ t.ancestors s := by
  induction n using Nat.strongRecOn with
  | ind n ih =>
    cases hn : t.parent n with
    | none =>
      rw [resolve, scopes, ancestors_of_parent_eq_none hn] at h
      exact absurd rfl h
    | some p =>
      have hstep := resolve_of_parent hn name space
      have hscopes {a : Nat} (ha : a ∈ t.scopes n) : a = p ∨ a ∈ t.scopes p := by
        rw [mem_scopes, ancestors_of_parent hn] at ha
        exact (List.mem_cons.1 ha.1).imp_right fun h => mem_scopes.2 ⟨h, ha.2⟩
      split at hstep
      next hhere =>
        refine ⟨p, mem_scopes.2 ⟨mem_ancestors_of_parent hn, hhere.1⟩, hstep, fun a ha _ => ?_⟩
        exact (hscopes ha).imp_right fun h => (mem_scopes.1 h).1
      next hnot =>
        rw [hstep] at h ⊢
        obtain ⟨s, hs, heq, hinner⟩ := ih p (parent_lt hn) h
        obtain ⟨habove, hscope⟩ := mem_scopes.1 hs
        have hs' : s ∈ t.ancestors n := mem_ancestors_trans habove (mem_ancestors_of_parent hn)
        refine ⟨s, mem_scopes.2 ⟨hs', hscope⟩, heq, fun a ha hown => ?_⟩
        rcases hscopes ha with rfl | ha'
        · exact absurd ⟨(mem_scopes.1 ha).2, hown⟩ hnot
        · exact hinner a ha' hown

/-! ### Coming down -/

/-- Node `d` declares `name` and stands in node `n`, directly or inside nodes that are not told
apart. -/
inductive Contained (t : Tree) (name : String) : Namespace → Nat → Nat → Prop
  | function {n d : Nat} (hmem : d ∈ t.children n) (hkind : t.kind d = .functionDeclaration)
      (hname : t.declares name d = true) : Contained t name .value n d
  | typeAlias {n d : Nat} (hmem : d ∈ t.children n) (hkind : t.kind d = .typeAliasDeclaration)
      (hname : t.declares name d = true) : Contained t name .type n d
  | variableIn {n statement d : Nat} (hstatement : statement ∈ t.children n)
      (hkind : t.kind statement = .variableStatement) (hmem : d ∈ t.children statement)
      (hvariable : t.kind d = .variableDeclaration) (hname : t.declares name d = true) :
      Contained t name .value n d
  | wrapped {space : Namespace} {n wrapper d : Nat} (hmem : wrapper ∈ t.children n)
      (hkind : t.kind wrapper = .unknown) (h : Contained t name space wrapper d) :
      Contained t name space n d

namespace Contained

variable {t : Tree} {name : String} {space : Namespace} {n d : Nat}

theorem declares_eq (h : t.Contained name space n d) : t.declares name d = true := by
  induction h with
  | function _ _ hname => exact hname
  | typeAlias _ _ hname => exact hname
  | variableIn _ _ _ _ hname => exact hname
  | wrapped _ _ _ ih => exact ih

/-- The three sorts of declarations all introduce a name. -/
theorem introducesName (h : t.Contained name space n d) : (t.kind d).introducesName = true := by
  induction h with
  | function _ hkind _ => rw [hkind]; rfl
  | typeAlias _ hkind _ => rw [hkind]; rfl
  | variableIn _ _ _ hvariable _ => rw [hvariable]; rfl
  | wrapped _ _ _ ih => exact ih

/-- What stands in a node is below it. -/
theorem mem_ancestors (h : t.Contained name space n d) : n ∈ t.ancestors d := by
  induction h with
  | function hmem _ _ => exact mem_ancestors_of_parent (mem_children.1 hmem).2
  | typeAlias hmem _ _ => exact mem_ancestors_of_parent (mem_children.1 hmem).2
  | variableIn hstatement _ hmem _ _ =>
    exact mem_ancestors_trans (mem_ancestors_of_parent (mem_children.1 hstatement).2)
      (mem_ancestors_of_parent (mem_children.1 hmem).2)
  | wrapped hmem _ _ ih =>
    exact mem_ancestors_trans (mem_ancestors_of_parent (mem_children.1 hmem).2) ih

/-- Right above a declaration is the node in which it stands, a statement, or a node that is not
told apart. -/
theorem exists_parent (h : t.Contained name space n d) : ∃ p, t.parent d = some p ∧
    (p = n ∨ t.kind p = .variableStatement ∨ t.kind p = .unknown) := by
  induction h with
  | function hmem _ _ => exact ⟨_, (mem_children.1 hmem).2, .inl rfl⟩
  | typeAlias hmem _ _ => exact ⟨_, (mem_children.1 hmem).2, .inl rfl⟩
  | variableIn _ hkind hmem _ _ => exact ⟨_, (mem_children.1 hmem).2, .inr (.inl hkind)⟩
  | wrapped _ hkind _ ih =>
    obtain ⟨p, hp, hinner⟩ := ih
    refine ⟨p, hp, .inr ?_⟩
    rcases hinner with rfl | hinner
    · exact .inr hkind
    · exact hinner

end Contained

theorem mem_variablesNamed {t : Tree} {name : String} {n d : Nat} :
    d ∈ t.variablesNamed name n ↔
      d ∈ t.children n ∧ t.kind d = .variableDeclaration ∧ t.declares name d = true := by
  simp [variablesNamed]

/-- The declarations that are collected in a node are those that stand in it. -/
theorem mem_contained {t : Tree} {name : String} {space : Namespace} {n d : Nat} :
    d ∈ t.contained name space n ↔ t.Contained name space n d := by
  constructor
  · intro h
    rw [contained_eq, List.mem_flatMap] at h
    obtain ⟨c, hc, hd⟩ := h
    have hlt := lt_of_mem_children hc
    split at hd
    next hkind =>
      split at hd
      next hname =>
        rw [List.mem_singleton] at hd
        subst hd
        exact .function hc hkind hname
      next => cases hd
    next hkind =>
      split at hd
      next hname =>
        rw [List.mem_singleton] at hd
        subst hd
        exact .typeAlias hc hkind hname
      next => cases hd
    next hkind =>
      obtain ⟨hmem, hvariable, hname⟩ := mem_variablesNamed.1 hd
      exact .variableIn hc hkind hmem hvariable hname
    next hkind => exact .wrapped hc hkind (mem_contained.1 hd)
    next => cases hd
  · intro h
    induction h with
    | function hmem hkind hname =>
      rw [contained_eq, List.mem_flatMap]
      exact ⟨_, hmem, by simp [hkind, hname]⟩
    | typeAlias hmem hkind hname =>
      rw [contained_eq, List.mem_flatMap]
      exact ⟨_, hmem, by simp [hkind, hname]⟩
    | variableIn hstatement hkind hmem hvariable hname =>
      rw [contained_eq, List.mem_flatMap]
      exact ⟨_, hstatement, by simp [hkind, mem_variablesNamed, hmem, hvariable, hname]⟩
    | wrapped hmem hkind _ ih =>
      rw [contained_eq, List.mem_flatMap]
      exact ⟨_, hmem, by simpa [hkind] using ih⟩
termination_by t.size - n
decreasing_by omega

theorem mem_parametersNamed {t : Tree} {name : String} {n d : Nat} :
    d ∈ t.parametersNamed name n ↔
      d ∈ t.childrenWith n .parameter ∧ t.declaredName? d = some name := by
  simp [parametersNamed, declares]

theorem mem_childrenWith {t : Tree} {n c : Nat} {r : Role} :
    c ∈ t.childrenWith n r ↔ c ∈ t.children n ∧ t.role c = some r := by
  simp [childrenWith]

/-- The declarations of a scope: a function declares its parameters, and they are values; any other
scope declares what stands in it. -/
theorem mem_ownDeclarations {t : Tree} {name : String} {space : Namespace} {n d : Nat} :
    d ∈ t.ownDeclarations name space n ↔
      (t.kind n).isFunctionLike = true ∧ space = .value ∧ d ∈ t.parametersNamed name n ∨
        (t.kind n).isFunctionLike = false ∧ t.Contained name space n d := by
  unfold ownDeclarations
  split
  next hfunction => cases space <;> simp [hfunction]
  next hother => simp [hother, mem_contained]

theorem declaredName?_of_mem_ownDeclarations {t : Tree} {name : String} {space : Namespace}
    {n d : Nat} (h : d ∈ t.ownDeclarations name space n) : t.declaredName? d = some name := by
  rcases mem_ownDeclarations.1 h with ⟨-, -, hparameter⟩ | ⟨-, hcontained⟩
  · exact (mem_parametersNamed.1 hparameter).2
  · exact beq_iff_eq.1 hcontained.declares_eq

/-- What a scope declares is below it. -/
theorem mem_ancestors_of_mem_ownDeclarations {t : Tree} {name : String} {space : Namespace}
    {n d : Nat} (h : d ∈ t.ownDeclarations name space n) : n ∈ t.ancestors d := by
  rcases mem_ownDeclarations.1 h with ⟨-, -, hparameter⟩ | ⟨-, hcontained⟩
  · obtain ⟨hchild, -⟩ := mem_childrenWith.1 (mem_parametersNamed.1 hparameter).1
    exact mem_ancestors_of_parent (mem_children.1 hchild).2
  · exact hcontained.mem_ancestors

/-- Whatever a name is found to mean declares that name. -/
theorem declaredName?_of_mem_resolve {t : Tree} {n d : Nat} {name : String} {space : Namespace}
    (h : d ∈ t.resolve n name space) : t.declaredName? d = some name := by
  obtain ⟨s, -, heq, -⟩ := exists_scope_of_resolve (List.ne_nil_of_mem h)
  rw [heq] at h
  exact declaredName?_of_mem_ownDeclarations h

/-! ### What an identifier stands for -/

theorem isReference_iff {t : Tree} {n : Nat} :
    t.isReference n = true ↔ t.kind n = .identifier ∧ t.isIntroducedName n = false := by
  simp [isReference]

theorem isIntroducedName_iff {t : Tree} {n : Nat} :
    t.isIntroducedName n = true ↔
      t.role n = some .name ∧ ∃ p, t.parent n = some p ∧ (t.kind p).introducesName = true := by
  cases hparent : t.parent n <;> simp [isIntroducedName, parentKind?, hparent, and_comm]

/-- An introduced name stands for what introduces it. -/
theorem declarationsOf_of_isIntroducedName {t : Tree} {n : Nat} (hkind : t.kind n = .identifier)
    (h : t.isIntroducedName n = true) : t.declarationsOf n = (t.parent n).toList := by
  simp only [declarationsOf, hkind, h, if_true]

/-- The name of a property stands for nothing. -/
theorem declarationsOf_of_property {t : Tree} {n : Nat} (hkind : t.kind n = .identifier)
    (hrole : t.role n = some .property) : t.declarationsOf n = [] := by
  have hintroduced : t.isIntroducedName n = false := by
    rw [Bool.eq_false_iff, ne_eq, isIntroducedName_iff, hrole]
    rintro ⟨hname, -⟩
    cases hname
  simp only [declarationsOf, hkind, hintroduced, hrole, Bool.false_eq_true, if_false, if_true]

/-- Any other identifier stands for what its text means where it stands. -/
theorem declarationsOf_of_isReference {t : Tree} {n : Nat} (h : t.isReference n = true)
    (hrole : t.role n ≠ some .property) :
    t.declarationsOf n = t.resolve n (t.textOf n) (t.namespaceOf n) := by
  obtain ⟨hkind, hintroduced⟩ := isReference_iff.1 h
  have hname : t.referencedName n = t.textOf n := by rw [referencedName, hkind]
  simp only [declarationsOf, hkind, hintroduced, Bool.false_eq_true, if_false, if_neg hrole, hname]

/-- A reference with a declaration is no property, so its declarations are what its name is found to
mean. -/
theorem declarationsOf_eq_resolve {t : Tree} {n target : Nat} (href : t.isReference n = true)
    (hfirst : (t.declarationsOf n).head? = some target) :
    t.declarationsOf n = t.resolve n (t.textOf n) (t.namespaceOf n) := by
  refine declarationsOf_of_isReference href fun hproperty => ?_
  rw [declarationsOf_of_property (isReference_iff.1 href).1 hproperty] at hfirst
  cases hfirst

/-- A declaration with a plain name has an identifier as its name child. -/
theorem exists_name_of_declaredName? {t : Tree} {d : Nat} {name : String}
    (h : t.declaredName? d = some name) :
    ∃ c, t.childWith? d .name = some c ∧ t.kind c = .identifier ∧ t.textOf c = name := by
  obtain ⟨c, hc, htext⟩ := Option.map_eq_some_iff.1 h
  obtain ⟨hchild, hkind⟩ := Option.filter_eq_some_iff.1 hc
  exact ⟨c, hchild, beq_iff_eq.1 hkind, htext⟩

theorem mem_children_of_childWith? {t : Tree} {n c : Nat} {r : Role}
    (h : t.childWith? n r = some c) : c ∈ t.children n ∧ t.role c = some r :=
  ⟨List.mem_of_find?_eq_some h, by simpa using List.find?_some h⟩

/-- The name of a declaration stands for that declaration alone. -/
theorem declarationsOf_name {t : Tree} {d c : Nat} (hd : (t.kind d).introducesName = true)
    (hc : t.childWith? d .name = some c) (hkind : t.kind c = .identifier) :
    t.declarationsOf c = [d] := by
  obtain ⟨hchild, hrole⟩ := mem_children_of_childWith? hc
  have hparent := (mem_children.1 hchild).2
  have hintroduced := isIntroducedName_iff.2 ⟨hrole, d, hparent, hd⟩
  rw [declarationsOf_of_isIntroducedName hkind hintroduced, hparent, Option.toList_some]

theorem referencedName_of_typeReference {t : Tree} {n c : Nat} (hkind : t.kind n = .typeReference)
    (hc : t.childWith? n .name = some c) : t.referencedName n = t.textOf c := by
  rw [referencedName, hkind, hc]

/-- A type reference with a name child is looked up as a type, under the text of that child. -/
theorem declarationsOf_of_typeReference {t : Tree} {n c : Nat} (hkind : t.kind n = .typeReference)
    (hc : t.childWith? n .name = some c) :
    t.declarationsOf n = t.resolve n (t.textOf c) .type := by
  have hspace : t.namespaceOf n = .type := if_pos (.inl hkind)
  simp only [declarationsOf, hkind, hspace, referencedName_of_typeReference hkind hc]

/-- An identifier stands for what its text means there as a value, unless it is the name of a
property, if the node above it neither introduces a name nor refers to a type. -/
theorem declarationsOf_of_parent {t : Tree} {n p : Nat} (hkind : t.kind n = .identifier)
    (hparent : t.parent n = some p) (hintroduces : (t.kind p).introducesName = false)
    (htype : t.kind p ≠ .typeReference) (hrole : t.role n ≠ some .property) :
    t.declarationsOf n = t.resolve n (t.textOf n) .value := by
  have habove : t.parentKind? n = some (t.kind p) := by rw [parentKind?, hparent, Option.map_some]
  have hreference : t.isReference n = true := by
    rw [isReference_iff, isIntroducedName, habove, Option.any_some, hintroduces]
    exact ⟨hkind, rfl⟩
  have hspace : t.namespaceOf n = .value := by
    rw [namespaceOf, hkind, habove, if_neg]
    simp [htype]
  rw [declarationsOf_of_isReference hreference hrole, hspace]

theorem declarationsOf_of_call {t : Tree} {n call : Nat} (hkind : t.kind n = .identifier)
    (hparent : t.parent n = some call) (hcall : t.kind call = .callExpression)
    (hrole : t.role n ≠ some .property) :
    t.declarationsOf n = t.resolve n (t.textOf n) .value :=
  declarationsOf_of_parent hkind hparent (by rw [hcall]; rfl)
    (by rw [hcall]; exact Kind.noConfusion)
    hrole

end Tree

end ClosureWrap
