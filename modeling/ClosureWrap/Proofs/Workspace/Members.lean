import ClosureWrap.Proofs.Lowering.Origin
import ClosureWrap.Proofs.Workspace.References

/-!
# Names of members

The grammar tells the names of members from other names: the property in `a.b`, the key of an
object, the names of methods and of property signatures are tokens of a kind of their own, and so is
a qualified type `a.B`. The lowered tree does not. A member name becomes an identifier, and a
qualified type a type reference, and whether a name is free is told from the role alone.

Only the role of a property is left out when names are looked up. It is the role of the name after
the dot. An object key has no role, the name of a method has the role of a name below a node that is
not told apart, and both are looked up like any other name. A qualified type is looked up under its
last component.

## Main results

* `Projection.Becomes.role_eq_property_iff` — what gives the role of a property
* `Tree.writtenType_of_typeReference` — a type reference has the type of its first declaration
* `Projection.member_names_looked_up` — how the names of members and qualified types are looked up
-/

namespace ClosureWrap

namespace Tree

/-- What has no declarations is a use of nothing. -/
theorem notMem_uses {t : Tree} {n target : Nat} {name : String} (h : t.declarationsOf n = []) :
    n ∉ t.uses target name := by
  intro hn
  obtain ⟨-, -, hfirst⟩ := mem_uses.1 hn
  rw [h] at hfirst
  cases hfirst

/-- A type reference is written as the type of its first declaration. -/
theorem writtenType_of_typeReference {t : Tree} {n declared written : Nat}
    (hkind : t.kind n = .typeReference) (hfirst : (t.declarationsOf n).head? = some declared)
    (htype : t.childWith? declared .type = some written) (budget : Nat) :
    t.writtenType (budget + 1) n = t.writtenType budget written := by
  have hspace : t.namespaceOf n = .type := if_pos (.inl hkind)
  simp only [declarationsOf, hkind, hspace] at hfirst
  simp only [writtenType, hkind, hfirst, Option.bind_some, htype]

end Tree

namespace Projection

open Lowering Concrete Forest

/-- A single field means the role of a property. -/
theorem roleOf?_eq_property_iff {field parentKind : String} :
    roleOf? field parentKind = some .property ↔ field = "property" := by
  constructor
  · intro h
    have hmem := mem_fieldRoles_of_roleOf? h (by decide)
    simpa [fieldRoles] using hmem
  · rintro rfl
    rw [roleOf?, if_neg (by simp)]
    rfl

namespace Becomes

variable {source : Source} {o : Occurrence Label} {n place : Nat} {a : Label}
  {rest : List (Nat × Label)}

/-- A node right below one that does not only bracket has the role that its own field means. -/
theorem role_eq_property_iff (h : Becomes source o n) (habove : o.above = (place, a) :: rest)
    (hbracket : a.kind ∉ bracketKinds) :
    (Tree.ofSource source).role n = some .property ↔ o.label.field = some "property" := by
  have hgiven : givenRole source.rootKind ((place, a) :: rest) = none := by
    simp [givenRole, hbracket]
  rw [h.role_eq, role, habove, hgiven]
  cases o.label.field with
  | none => simp
  | some field => simp [roleOf?_eq_property_iff]

theorem kind_of_property_identifier (h : Becomes source o n)
    (hkind : o.label.kind = "property_identifier") :
    (Tree.ofSource source).kind n = .identifier := by
  rw [h.kind, classified, hkind]
  rfl

theorem kind_of_nested_type_identifier (h : Becomes source o n)
    (hkind : o.label.kind = "nested_type_identifier") :
    (Tree.ofSource source).kind n = .typeReference := by
  rw [h.kind, classified, hkind]
  rfl

end Becomes

open ClosureWrap.Tree

/-- **How the names of members are looked up.** A member name after a dot stands for nothing and is
never listed as a use. Any other member name, right below a node that is not told apart, such as an
object key or the name of a method, stands for what its text means there as a value, and is listed
among the uses of it. A qualified type stands for what its last component means as a type, and has
the type of the first alias of this name. -/
theorem member_names_looked_up {source : Source} {o : Occurrence Label} {n : Nat}
    (h : Becomes source o n) :
    (o.label.kind = "property_identifier" → ∀ place a rest, o.above = (place, a) :: rest →
      a.kind ∉ bracketKinds →
        (o.label.field = some "property" →
          (ofSource source).declarationsOf n = [] ∧
            ∀ target name, n ∉ (ofSource source).uses target name) ∧
        (o.label.field ≠ some "property" → classified a = some .unknown →
          (ofSource source).declarationsOf n =
              (ofSource source).resolve n ((ofSource source).textOf n) .value ∧
            ∀ target, ((ofSource source).declarationsOf n).head? = some target →
              n ∈ (ofSource source).uses target ((ofSource source).textOf n))) ∧
      (o.label.kind = "nested_type_identifier" →
        ∀ c, (ofSource source).childWith? n .name = some c →
          (ofSource source).declarationsOf n =
              (ofSource source).resolve n ((ofSource source).textOf c) .type ∧
            ∀ declared written, ((ofSource source).declarationsOf n).head? = some declared →
              (ofSource source).childWith? declared .type = some written →
                ∀ budget, (ofSource source).writtenType (budget + 1) n =
                  (ofSource source).writtenType budget written) := by
  constructor
  · intro hmember place a rest habove hbracket
    have hkind := h.kind_of_property_identifier hmember
    have hrole := h.role_eq_property_iff habove hbracket
    constructor
    · intro hproperty
      have hnone := declarationsOf_of_property hkind (hrole.2 hproperty)
      exact ⟨hnone, fun _ _ => notMem_uses hnone⟩
    · intro hother hunknown
      obtain ⟨p, hp, hparent⟩ := h.above habove hbracket
      have hkindAbove : (ofSource source).kind p = .unknown := by
        rw [hp.kind, hunknown, Option.getD_some]
      refine ⟨declarationsOf_of_parent hkind hparent ?_ ?_ (mt hrole.1 hother), fun _ hfirst =>
        mem_uses_self hkind hfirst⟩
      · rw [hkindAbove]
        rfl
      · rw [hkindAbove]
        exact Kind.noConfusion
  · intro hqualified c hc
    have hkind := h.kind_of_nested_type_identifier hqualified
    exact ⟨declarationsOf_of_typeReference hkind hc, fun _ _ hfirst htype =>
      writtenType_of_typeReference hkind hfirst htype⟩

/-- A variable `fn` of a qualified type `ns.A`, next to an alias `A`; the name `fn` is an object key
as well, and the name of a property. -/
def membersNamedAlike : Source :=
  .ofTable "main.ts"
    "type A = () => void;\ndeclare const fn: ns.A;\nrun(\x7b fn: fn.fn \x7d);\n" [
    (0, ⟨"program", none, 0, 65, true, false⟩),
    (1, ⟨"type_alias_declaration", none, 0, 20, true, false⟩),
    (2, ⟨"type", none, 0, 4, false, false⟩),
    (2, ⟨"type_identifier", some "name", 5, 6, true, false⟩),
    (2, ⟨"=", none, 7, 8, false, false⟩),
    (2, ⟨"function_type", some "value", 9, 19, true, false⟩),
    (3, ⟨"formal_parameters", some "parameters", 9, 11, true, false⟩),
    (4, ⟨"(", none, 9, 10, false, false⟩),
    (4, ⟨")", none, 10, 11, false, false⟩),
    (3, ⟨"=>", none, 12, 14, false, false⟩),
    (3, ⟨"predefined_type", some "return_type", 15, 19, true, false⟩),
    (4, ⟨"void", none, 15, 19, false, false⟩),
    (2, ⟨";", none, 19, 20, false, false⟩),
    (1, ⟨"ambient_declaration", none, 21, 44, true, false⟩),
    (2, ⟨"declare", none, 21, 28, false, false⟩),
    (2, ⟨"lexical_declaration", none, 29, 44, true, false⟩),
    (3, ⟨"const", some "kind", 29, 34, false, false⟩),
    (3, ⟨"variable_declarator", none, 35, 43, true, false⟩),
    (4, ⟨"identifier", some "name", 35, 37, true, false⟩),
    (4, ⟨"type_annotation", some "type", 37, 43, true, false⟩),
    (5, ⟨":", none, 37, 38, false, false⟩),
    (5, ⟨"nested_type_identifier", none, 39, 43, true, false⟩),
    (6, ⟨"identifier", some "module", 39, 41, true, false⟩),
    (6, ⟨".", none, 41, 42, false, false⟩),
    (6, ⟨"type_identifier", some "name", 42, 43, true, false⟩),
    (3, ⟨";", none, 43, 44, false, false⟩),
    (1, ⟨"expression_statement", none, 45, 64, true, false⟩),
    (2, ⟨"call_expression", none, 45, 63, true, false⟩),
    (3, ⟨"identifier", some "function", 45, 48, true, false⟩),
    (3, ⟨"arguments", some "arguments", 48, 63, true, false⟩),
    (4, ⟨"(", none, 48, 49, false, false⟩),
    (4, ⟨"object", none, 49, 62, true, false⟩),
    (5, ⟨"\x7b", none, 49, 50, false, false⟩),
    (5, ⟨"pair", none, 51, 60, true, false⟩),
    (6, ⟨"property_identifier", some "key", 51, 53, true, false⟩),
    (6, ⟨":", none, 53, 54, false, false⟩),
    (6, ⟨"member_expression", some "value", 55, 60, true, false⟩),
    (7, ⟨"identifier", some "object", 55, 57, true, false⟩),
    (7, ⟨".", none, 57, 58, false, false⟩),
    (7, ⟨"property_identifier", some "property", 58, 60, true, false⟩),
    (5, ⟨"\x7d", none, 61, 62, false, false⟩),
    (4, ⟨")", none, 62, 63, false, false⟩),
    (2, ⟨";", none, 63, 64, false, false⟩)]

/-- Node 19 is the property, node 16 the key, and node 8 the qualified type. The key stands for the
variable, node 6, and the type for the alias, node 1, whose type is node 3. -/
theorem key_bound_to_variable :
    (ofSource membersNamedAlike).declarationsOf 19 = [] ∧
      ((ofSource membersNamedAlike).declarationsOf 16 = [6] ∧
        16 ∈ (ofSource membersNamedAlike).uses 6 "fn") ∧
      (ofSource membersNamedAlike).declarationsOf 8 = [1] ∧
      (ofSource membersNamedAlike).writtenType 2 8 =
        (ofSource membersNamedAlike).writtenType 1 3 := by
  obtain ⟨⟨o, ho, hkind, hfield, habove⟩, ⟨key, hkey, hkeyKind, hkeyField, hkeyAbove⟩,
      ⟨type, htype, htypeKind⟩, ⟨htext, hvalue⟩, ⟨hname, hlast, halias⟩, hwritten⟩ :
      (∃ o ∈ origins membersNamedAlike 19,
        o.label.kind = "property_identifier" ∧ o.label.field = some "property" ∧
          (o.above.head?.any fun a => decide (a.2.kind ∉ bracketKinds)) = true) ∧
      (∃ o ∈ origins membersNamedAlike 16,
        o.label.kind = "property_identifier" ∧ o.label.field ≠ some "property" ∧
          (o.above.head?.any fun a =>
            decide (a.2.kind ∉ bracketKinds ∧ classified a.2 = some .unknown)) = true) ∧
      (∃ o ∈ origins membersNamedAlike 8, o.label.kind = "nested_type_identifier") ∧
      ((ofSource membersNamedAlike).textOf 16 = "fn" ∧
        (ofSource membersNamedAlike).resolve 16 "fn" .value = [6]) ∧
      ((ofSource membersNamedAlike).childWith? 8 .name = some 10 ∧
        (ofSource membersNamedAlike).textOf 10 = "A" ∧
        (ofSource membersNamedAlike).resolve 8 "A" .type = [1]) ∧
      (ofSource membersNamedAlike).childWith? 1 .type = some 3 := by
    decide +kernel
  simp only [Option.any_eq_true, Prod.exists, List.head?_eq_some_iff, decide_eq_true_eq]
    at habove hkeyAbove
  obtain ⟨place, a, ⟨rest, habove⟩, hbracket⟩ := habove
  obtain ⟨place', a', ⟨rest', habove'⟩, hbracket', hunknown⟩ := hkeyAbove
  have hproperty := ((member_names_looked_up (mem_origins.1 ho)).1 hkind place a rest habove
    hbracket).1 hfield
  have hbound := ((member_names_looked_up (mem_origins.1 hkey)).1 hkeyKind place' a' rest' habove'
    hbracket').2 hkeyField hunknown
  have hqualified := (member_names_looked_up (mem_origins.1 htype)).2 htypeKind 10 hname
  rw [htext, hvalue] at hbound
  rw [hlast, halias] at hqualified
  refine ⟨hproperty.1, ⟨hbound.1, hbound.2 6 ?_⟩, hqualified.1, hqualified.2 1 3 ?_ hwritten 1⟩
  · rw [hbound.1, List.head?_cons]
  · rw [hqualified.1, List.head?_cons]

end Projection

end ClosureWrap
