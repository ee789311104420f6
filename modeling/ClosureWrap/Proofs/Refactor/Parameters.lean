import ClosureWrap.Proofs.Lowering.Projection
import ClosureWrap.Proofs.Refactor.Contract
import ClosureWrap.Proofs.Refactor.Refusal
import ClosureWrap.Proofs.Typing.Provenance

/-!
# Parameters are declared by parameters

A request for an edit may be refused because the first parameter of what is called is declared by
something else than a parameter. A checker may well report such a thing, but the structural checker
on a lowered file cannot, as long as the parameter lists of the file are in order.

The role of a parameter is given in three ways. A parameter list gives it to everything in it, a
field of the grammar means it, and a bare identifier in the place of a parameter list is made into a
parameter in that role. In a file with parameter lists in order the first way meets parameters only,
the second meets parameter lists only, which do not stay, and the third makes its own parameter.
Other brackets hand a role on, but they never stand in this one.

The checker adds nothing to this. Every signature that it finds is written in the file, so its
parameters are nodes in the role of a parameter.

## Main definitions

* `Concrete.Source.PlainParameters` — the parameter lists of a file are in order

## Main results

* `Lowering.every_parameter_project` — what the projection keeps in the role of a parameter
* `Tree.kind_of_role_parameter` — nodes of a lowered tree in the role of a parameter
* `Wrap.declared_by_parameter` — no edit is refused for the declaration of a parameter
-/

namespace ClosureWrap

/-- The labels in the first row of a forest. -/
def Forest.firstRow {α : Type} : Forest α → List α
  | .nil => []
  | .cons a _ rest => a :: rest.firstRow

/-! ### Parameter lists in order -/

namespace Concrete

/-- The node may stand in a parameter list: it is a token, it was only supposed, it is a comment, or
it is a parameter. -/
def Label.MayBeListed (c : Label) : Prop :=
  c.named = true → c.missing = false → c.kind ≠ "comment" →
    c.kind = "required_parameter" ∨ c.kind = "optional_parameter"

/-- The node is a parameter list if it stands where one is expected, and an identifier if it stands
where a bare parameter is expected. -/
def Label.PlainField (c : Label) : Prop :=
  c.named = true → (c.field = some "parameters" → c.kind = "formal_parameters") ∧
    (c.field = some "parameter" → c.kind = "identifier")

instance (c : Label) : Decidable c.MayBeListed :=
  inferInstanceAs (Decidable (c.named = true → c.missing = false → c.kind ≠ "comment" →
    c.kind = "required_parameter" ∨ c.kind = "optional_parameter"))

instance (c : Label) : Decidable c.PlainField :=
  inferInstanceAs (Decidable (c.named = true →
    (c.field = some "parameters" → c.kind = "formal_parameters") ∧
      (c.field = some "parameter" → c.kind = "identifier")))

/-- The parameter lists of the file are in order: they stand where they are expected, and hold
parameters only. -/
structure Source.PlainParameters (source : Source) : Prop where
  fields : source.trees.Every fun c _ => c.PlainField
  lists : source.trees.Every fun c below =>
    c.kind = "formal_parameters" → ∀ p ∈ below.firstRow, p.MayBeListed

instance (source : Source) : Decidable source.PlainParameters :=
  decidable_of_iff ((source.trees.Every fun c _ => c.PlainField) ∧
      source.trees.Every fun c below =>
        c.kind = "formal_parameters" → ∀ p ∈ below.firstRow, p.MayBeListed)
    ⟨fun h => ⟨h.1, h.2⟩, fun h => ⟨h.fields, h.lists⟩⟩

end Concrete

/-! ### The projection -/

namespace Lowering

open Concrete Projection

theorem eq_of_roleOf?_parameter {field parentKind : String}
    (h : roleOf? field parentKind = some .parameter) :
    field = "parameters" ∨ field = "parameter" := by
  simpa [fieldRoles] using mem_fieldRoles_of_roleOf? h (by decide)

/-- The three ways in which a concrete node comes into the role of a parameter: as a parameter in a
list, as a list itself, and as a bare identifier in the place of a list. -/
inductive ParameterForm (c : Label) : Prop
  | listed (h : c.kind = "required_parameter" ∨ c.kind = "optional_parameter")
  | list (h : c.kind = "formal_parameters")
  | bare (hfield : c.field = some "parameter") (hkind : c.kind = "identifier")

section Row

variable {c : Label} {given : Option Role} {parentKind : String}

theorem parameterForm_of_role (hnamed : c.named = true) (hmissing : c.missing = false)
    (hcomment : c.kind ≠ "comment") (hfield : c.PlainField)
    (hgiven : given = some .parameter → c.MayBeListed)
    (hrole : (given <|> c.field.bind fun f => roleOf? f parentKind) = some .parameter) :
    ParameterForm c := by
  simp only [Option.orElse_eq_orElse, Option.orElse_eq_or, Option.or_eq_some_iff] at hrole
  rcases hrole with hlist | ⟨-, hmeant⟩
  · exact .listed (hgiven hlist hnamed hmissing hcomment)
  · obtain ⟨field, hc, hmeans⟩ := Option.bind_eq_some_iff.1 hmeant
    obtain ⟨hparameters, hparameter⟩ := hfield hnamed
    rcases eq_of_roleOf?_parameter hmeans with rfl | rfl
    · exact .list (hparameters hc)
    · exact .bare hc (hparameter hc)

/-- A node that is kept in one of these forms, other than a bare one, is a parameter. -/
theorem ParameterForm.kind_eq (h : ParameterForm c) {kind : Kind}
    (htreat : treatment c.kind c.field = .keep kind)
    (hbare : ¬(c.field = some "parameter" ∧ kind = .identifier)) : kind = .parameter := by
  cases h with
  | listed h =>
    have hparameter : treatment c.kind c.field = .keep .parameter := by
      rcases h with h | h <;> rw [h] <;> rfl
    exact Treatment.keep.inj (htreat.symm.trans hparameter)
  | list h =>
    rw [h] at htreat
    cases htreat
  | bare hfield hkind =>
    rw [hkind] at htreat
    exact absurd ⟨hfield, (Treatment.keep.inj htreat).symm⟩ hbare

/-- Of the bracketing nodes only a parameter list gives the role of a parameter: an argument list
gives another role, and the others hand on a role in which they never stand. -/
theorem eq_of_splicedRole_parameter {inherited : Option Role} (hbracket : c.kind ∈ bracketKinds)
    (hform : inherited = some .parameter → ParameterForm c)
    (h : splicedRole c.kind inherited = some .parameter) : c.kind = "formal_parameters" := by
  unfold splicedRole at h
  split at h
  · cases h
  · split at h
    · assumption
    · cases hform h with
      | listed hkind =>
        rcases hkind with hkind | hkind <;> rw [hkind] at hbracket <;>
          simp [bracketKinds] at hbracket
      | list hkind => exact hkind
      | bare _ hkind =>
        rw [hkind] at hbracket
        simp [bracketKinds] at hbracket

end Row

/-- **What is kept in the role of a parameter is a parameter**, in a file with parameter lists in
order. The induction is on the row of concrete nodes. If the row is given the role by a parameter
list right above it, it may hold parameters only; that the lists below are in order takes this
further down. -/
theorem every_parameter_project (f : Forest Label) {parentKind : String} {given : Option Role}
    (hfields : f.Every fun c _ => c.PlainField)
    (hlists : f.Every fun c below =>
      c.kind = "formal_parameters" → ∀ p ∈ below.firstRow, p.MayBeListed)
    (hgiven : given = some .parameter → ∀ c ∈ f.firstRow, c.MayBeListed) :
    (project parentKind given f).Every fun k _ =>
      k.role = some .parameter → k.kind = .parameter := by
  induction f generalizing parentKind given with
  | nil => trivial
  | cons c below rest ihb ihr =>
    obtain ⟨hfield, hfieldsBelow, hfieldsRest⟩ := hfields
    obtain ⟨hlist, hlistsBelow, hlistsRest⟩ := hlists
    have hlater := @ihr parentKind given hfieldsRest hlistsRest
      fun h d hd => hgiven h d (List.mem_cons_of_mem _ hd)
    by_cases hthere : c.named = true ∧ c.missing = false
    · obtain ⟨hnamed, hmissing⟩ := hthere
      have hform (hcomment : c.kind ≠ "comment") := @parameterForm_of_role c given parentKind
        hnamed hmissing hcomment hfield fun h => hgiven h c (List.mem_cons_self ..)
      rcases treatment_cases c with
        ⟨htreat, -⟩ | ⟨htreat, hcomment, hbracket⟩ | ⟨kind, htreat, hcomment, -⟩
      · rw [project_skip htreat]
        exact hlater
      · rw [project_splice hnamed hmissing htreat]
        refine (ihb hfieldsBelow hlistsBelow fun h => hlist ?_).append hlater
        exact eq_of_splicedRole_parameter hbracket (hform hcomment) h
      · by_cases hbare : c.field = some "parameter" ∧ kind = .identifier
        · obtain ⟨hparameter, rfl⟩ := hbare
          rw [project_bare hnamed hmissing hparameter htreat]
          exact ⟨fun _ => rfl, ⟨fun h => (by cases h), trivial, trivial⟩, hlater⟩
        · rw [project_keep hnamed hmissing htreat hbare]
          refine ⟨fun h => (hform hcomment h).kind_eq htreat hbare, ?_, hlater⟩
          split
          · trivial
          · exact ihb hfieldsBelow hlistsBelow fun h => (by cases h)
    · rw [project_absent hthere]
      exact hlater

end Lowering

/-! ### Lowered trees -/

namespace Tree

theorem lt_size_of_role {t : Tree} {n : Nat} {r : Role} (h : t.role n = some r) : n < t.size := by
  rcases Nat.lt_or_ge n t.size with hlt | hge
  · exact hlt
  · rw [role, node, Array.getD_eq_getD_getElem?, Array.getElem?_eq_none hge] at h
    cases h

/-- **A node of a lowered tree in the role of a parameter is a parameter.** -/
theorem kind_of_role_parameter {source : Concrete.Source} (h : source.PlainParameters) {n : Nat}
    (hrole : (ofSource source).role n = some .parameter) :
    (ofSource source).kind n = .parameter := by
  have hn := lt_size_of_role hrole
  rcases Nat.eq_zero_or_pos n with rfl | hpos
  · rw [role, show (0 : Nat) = root from rfl, node_root_ofSource] at hrole
    cases hrole
  · rw [size_ofSource] at hn
    have hkept : (kept source).Every fun k _ => k.role = some .parameter → k.kind = .parameter :=
      Lowering.every_parameter_project source.trees h.fields h.lists fun hnone => (by cases hnone)
    obtain ⟨k, below, above, hkind, hnode, -⟩ :=
      (carries_ofSource source).subtree hkept hpos (by omega)
    rw [role, hnode] at hrole
    rw [kind, hnode]
    exact hkind hrole

end Tree

/-! ### Edits -/

namespace Wrap

/-- **No edit is refused for the declaration of a parameter.** In a file with parameter lists in
order, the nodes in the role of a parameter are parameters, and the structural checker finds no
others. -/
theorem declared_by_parameter {source : Concrete.Source} (h : source.PlainParameters) :
    (∀ n, (Tree.ofSource source).role n = some .parameter →
        (Tree.ofSource source).kind n = .parameter) ∧
      ∀ strict mode offset found,
        buildEdit .structural (.ofSource source) strict mode offset ≠
          .error (.notAParameter found) := by
  refine ⟨fun n => Tree.kind_of_role_parameter h, fun strict mode offset found hrefused => ?_⟩
  rcases buildEdit_eq_error_iff.1 hrefused with ⟨obstacle, -, he⟩ | ⟨target, -, hlacks⟩
  · cases he
  · cases hlacks with
    | notAParameter hresolved hfirst hundeclared =>
      obtain ⟨w, hwritten, rfl⟩ := Checker.written_of_resolvedSignature hresolved
      obtain ⟨p, hp, rfl⟩ := List.mem_map.1 (List.mem_of_mem_head? hfirst)
      obtain ⟨d, hd, hrole⟩ := hwritten.role_of_mem hp
      exact hundeclared ((Tree.ofSource source).ref d) (congrArg (Option.map _) hd)
        (Tree.kind_of_role_parameter h hrole)

/-- The file of `Session.callWithCallback` has two parameter lists, that of the function in node 1
and that of the function type in node 5. -/
theorem declared_by_parameter_callWithCallback :
    Session.callWithCallback.PlainParameters ∧
      ((Tree.ofSource Session.callWithCallback).childrenWith 1 .parameter = [3] ∧
        (Tree.ofSource Session.callWithCallback).kind 3 = .parameter) ∧
      ((Tree.ofSource Session.callWithCallback).childrenWith 5 .parameter = [6, 8] ∧
        (Tree.ofSource Session.callWithCallback).kind 8 = .parameter) ∧
      ∀ strict mode offset found,
        buildEdit .structural (.ofSource Session.callWithCallback) strict mode offset ≠
          .error (.notAParameter found) := by
  have hplain : Session.callWithCallback.PlainParameters := by decide +kernel
  obtain ⟨houter, hinner, hrole₃, hrole₈⟩ :
      (Tree.ofSource Session.callWithCallback).childrenWith 1 .parameter = [3] ∧
        (Tree.ofSource Session.callWithCallback).childrenWith 5 .parameter = [6, 8] ∧
        (Tree.ofSource Session.callWithCallback).role 3 = some .parameter ∧
        (Tree.ofSource Session.callWithCallback).role 8 = some .parameter := by
    decide +kernel
  obtain ⟨hkind, hedit⟩ := declared_by_parameter hplain
  exact ⟨hplain, ⟨houter, hkind 3 hrole₃⟩, ⟨hinner, hkind 8 hrole₈⟩, hedit⟩

end Wrap

end ClosureWrap
