import ClosureWrap.Proofs.Refactor.Parameters
import ClosureWrap.Workspace.Service

/-!
# Where a symbol is used

To ask for the references at an offset is to ask for a class: the nodes that mention a name and
stand for the same first declaration. The offset counts only through the symbol there, and every
node of the class is a symbol with that first declaration. So it makes no difference at which of the
listed places one asks again, and two lists that share a place are the same list.

The first declaration is also where the account of a symbol ends. A symbol may have several
declarations, overloads of a function or a name that is declared again, and going to its definition
shows all of them. The name of a declaration stands for that declaration alone. So among the
definitions of a symbol only the first is ever listed among its references.

## Main definitions

* `Tree.PlainTypeReferences` — a type reference without a name child has no children at all

## Main results

* `Tree.referencesAt_of_use` — every place in a list of references has that list
* `Tree.mem_uses_self` — an identifier is a use of what it stands for
* `Files.references_partition` — the references of a file fall into classes
* `Files.only_first_definition_referenced` — which definitions are references
-/

namespace ClosureWrap

namespace Tree

/-- A type reference carries its name as a child, or has no children. -/
def PlainTypeReferences (t : Tree) : Prop :=
  ∀ n < t.size, t.kind n = .typeReference → t.childWith? n .name = none → t.children n = []

instance (t : Tree) : Decidable t.PlainTypeReferences :=
  inferInstanceAs (Decidable (∀ n < t.size,
    t.kind n = .typeReference → t.childWith? n .name = none → t.children n = []))

/-! ### Uses -/

theorem mem_uses {t : Tree} {target n : Nat} {name : String} :
    n ∈ t.uses target name ↔ n ∈ t.descendants ∧ t.mentions name n = true ∧
      (t.declarationsOf n).head? = some target := by
  simp [uses]

/-- The references at an offset are the uses of the first declaration of the symbol there. -/
theorem referencesAt_of_first {t : Tree} {offset s target : Nat} {name : String}
    (hs : t.symbolAt? offset = some s) (hfirst : (t.declarationsOf s).head? = some target)
    (hname : t.declaredName? target = some name) :
    t.referencesAt offset = (t.uses target name).map t.locationOf := by
  simp only [referencesAt, hs, Option.bind_some, hfirst, hname]

/-- A list of references that is not empty consists of the uses of some declaration. -/
theorem exists_uses_of_mem_referencesAt {t : Tree} {offset : Nat} {l : Location}
    (h : l ∈ t.referencesAt offset) :
    ∃ target name, t.declaredName? target = some name ∧
      t.referencesAt offset = (t.uses target name).map t.locationOf := by
  cases hs : t.symbolAt? offset with
  | none =>
    rw [referencesAt, hs] at h
    cases h
  | some s =>
    cases hfirst : (t.declarationsOf s).head? with
    | none =>
      simp only [referencesAt, hs, Option.bind_some, hfirst] at h
      cases h
    | some target =>
      cases hname : t.declaredName? target with
      | none =>
        simp only [referencesAt, hs, Option.bind_some, hfirst, hname] at h
        cases h
      | some name => exact ⟨target, name, hname, referencesAt_of_first hs hfirst hname⟩

theorem symbolAt?_eq_some_iff {t : Tree} {offset n : Nat} :
    t.symbolAt? offset = some n ↔ t.locate? root offset = some n ∧
      (t.kind n = .identifier ∨ t.kind n = .typeReference) := by
  simp [symbolAt?, Option.filter_eq_some_iff]

/-- A name is mentioned by identifiers, and by type references without a name child. -/
theorem kind_of_mentions {t : Tree} {n : Nat} {name : String} (h : t.mentions name n = true) :
    t.kind n = .identifier ∨ t.kind n = .typeReference ∧ t.childWith? n .name = none := by
  unfold mentions at h
  split at h
  next hkind => exact .inl hkind
  next hkind =>
    rw [Bool.and_eq_true, Option.isNone_iff_eq_none] at h
    exact .inr ⟨hkind, h.1⟩
  next => cases h

section Lowered

variable {source : Concrete.Source}

theorem mem_descendants_ofSource {n : Nat} :
    n ∈ (ofSource source).descendants ↔ n < (ofSource source).size := by
  rw [descendants_ofSource, List.mem_range]

/-- What mentions a name has no children. -/
theorem children_of_mentions (hplain : (ofSource source).PlainTypeReferences) {n : Nat}
    {name : String} (h : (ofSource source).mentions name n = true) :
    (ofSource source).children n = [] := by
  rcases kind_of_mentions h with hkind | ⟨hkind, hnone⟩
  · exact children_eq_nil_of_isLeaf (by rw [hkind]; rfl)
  · exact hplain n (lt_size_of_kind (by rw [hkind]; exact Kind.noConfusion)) hkind hnone

/-- **Every place in a list of references has that list.** A use has no children, so it is the
symbol at every offset that it holds, and its first declaration is the one that the list was made
for. -/
theorem referencesAt_of_use (hseparated : (ofSource source).Separated)
    (hplain : (ofSource source).PlainTypeReferences) {target n offset : Nat} {name : String}
    (hname : (ofSource source).declaredName? target = some name)
    (hn : n ∈ (ofSource source).uses target name)
    (hoffset : (ofSource source).contains n offset = true) :
    (ofSource source).referencesAt offset =
      ((ofSource source).uses target name).map (ofSource source).locationOf := by
  obtain ⟨hvisited, hmentions, hfirst⟩ := mem_uses.1 hn
  have hfound := locate?_leaf hseparated (mem_descendants_ofSource.1 hvisited)
    (children_of_mentions hplain hmentions) hoffset
  have hkind := (kind_of_mentions hmentions).imp_right And.left
  exact referencesAt_of_first (symbolAt?_eq_some_iff.2 ⟨hfound, hkind⟩) hfirst hname

/-- An identifier is a use of its first declaration. -/
theorem mem_uses_self {n target : Nat} (hkind : (ofSource source).kind n = .identifier)
    (hfirst : ((ofSource source).declarationsOf n).head? = some target) :
    n ∈ (ofSource source).uses target ((ofSource source).textOf n) := by
  have hmentions : (ofSource source).mentions ((ofSource source).textOf n) n = true := by
    simp [mentions, hkind]
  exact mem_uses.2 ⟨mem_descendants_ofSource.2 (lt_size_of_identifier hkind), hmentions, hfirst⟩

end Lowered

/-! ### Names of declarations -/

/-- An identifier that refers to a name, or that is the name child of the node above it, has the
name of its first declaration. -/
theorem declaredName?_of_first {t : Tree} {n target : Nat} (hkind : t.kind n = .identifier)
    (hname : t.isReference n = true ∨ ∃ p, t.parent n = some p ∧ t.childWith? p .name = some n)
    (hfirst : (t.declarationsOf n).head? = some target) :
    t.declaredName? target = some (t.textOf n) := by
  by_cases href : t.isReference n = true
  · rw [declarationsOf_eq_resolve href hfirst] at hfirst
    exact declaredName?_of_mem_resolve (List.mem_of_mem_head? hfirst)
  · obtain ⟨p, hparent, hchild⟩ := hname.resolve_left href
    have hintroduced : t.isIntroducedName n = true := by
      cases h : t.isIntroducedName n with
      | true => rfl
      | false => exact absurd (isReference_iff.2 ⟨hkind, h⟩) href
    rw [declarationsOf_of_isIntroducedName hkind hintroduced, hparent] at hfirst
    obtain rfl : p = target := Option.some.inj hfirst
    rw [declaredName?, hchild, Option.filter_some, if_pos (beq_iff_eq.2 hkind), Option.map_some]

section Lowered

variable {source : Concrete.Source}

/-- Under plain parameters, the name of whatever a name is found to mean stands for that declaration
alone. -/
theorem declarationsOf_nameNode (hparameters : source.PlainParameters) {n d : Nat} {name : String}
    {space : Namespace} (h : d ∈ (ofSource source).resolve n name space) :
    (ofSource source).kind ((ofSource source).nameNode d) = .identifier ∧
      (ofSource source).textOf ((ofSource source).nameNode d) = name ∧
      (ofSource source).declarationsOf ((ofSource source).nameNode d) = [d] := by
  obtain ⟨c, hc, hkind, htext⟩ := exists_name_of_declaredName? (declaredName?_of_mem_resolve h)
  have hintroduces : ((ofSource source).kind d).introducesName = true := by
    obtain ⟨s, -, heq, -⟩ := exists_scope_of_resolve (List.ne_nil_of_mem h)
    rw [heq] at h
    rcases mem_ownDeclarations.1 h with ⟨-, -, hparameter⟩ | ⟨-, hcontained⟩
    · obtain ⟨-, hrole⟩ := mem_childrenWith.1 (mem_parametersNamed.1 hparameter).1
      rw [kind_of_role_parameter hparameters hrole]
      rfl
    · exact hcontained.introducesName
  rw [nameNode, hc, Option.getD_some]
  exact ⟨hkind, htext, declarationsOf_name hintroduces hc hkind⟩

/-- Nodes without children that take up the same bytes, at least one, are the same node. -/
theorem eq_of_locationOf_eq (hseparated : (ofSource source).Separated) {m n : Nat}
    (hm : m < (ofSource source).size) (hn : n < (ofSource source).size)
    (hmleaf : (ofSource source).children m = []) (hnleaf : (ofSource source).children n = [])
    (hspan : (ofSource source).start m < (ofSource source).stop m)
    (h : (ofSource source).locationOf m = (ofSource source).locationOf n) : m = n := by
  simp only [locationOf, span, Span.ofRange, Location.mk.injEq, Span.mk.injEq, true_and] at h
  have hfound := locate?_leaf hseparated hm hmleaf (contains_iff.2 ⟨Nat.le_refl _, hspan⟩)
  rw [locate?_leaf hseparated hn hnleaf (contains_iff.2 ⟨by omega, by omega⟩)] at hfound
  exact (Option.some.inj hfound).symm

/-- An identifier that takes up some bytes stands in the list of a declaration, under its own name,
exactly if this is its first declaration. -/
theorem locationOf_mem_uses_iff (hseparated : (ofSource source).Separated)
    (hplain : (ofSource source).PlainTypeReferences) {c target : Nat}
    (hkind : (ofSource source).kind c = .identifier)
    (hspan : (ofSource source).start c < (ofSource source).stop c) :
    (ofSource source).locationOf c ∈
        ((ofSource source).uses target ((ofSource source).textOf c)).map
          (ofSource source).locationOf ↔
      ((ofSource source).declarationsOf c).head? = some target := by
  constructor
  · intro h
    obtain ⟨n, hn, hlocation⟩ := List.mem_map.1 h
    obtain ⟨hvisited, hmentions, hfirst⟩ := mem_uses.1 hn
    have heq : c = n := eq_of_locationOf_eq hseparated (lt_size_of_identifier hkind)
      (mem_descendants_ofSource.1 hvisited) (children_eq_nil_of_isLeaf (by rw [hkind]; rfl))
      (children_of_mentions hplain hmentions) hspan hlocation.symm
    rw [heq, hfirst]
  · intro h
    exact List.mem_map_of_mem (mem_uses_self hkind h)

end Lowered

end Tree

/-! ### Classes -/

namespace Files

open ClosureWrap.Tree

theorem references_eq {files : Files} {name : String} {t : Tree} (h : files.get? name = some t)
    (offset : Nat) : Id.run (files.service.references name offset) = t.referencesAt offset := by
  simp only [service, h, Option.map_some, Option.getD_some]
  rfl

/-- **The references of a file fall into classes.** In a file with separated ranges, whose type
references either have a name child or no children, asking for the references at any place in a list
of references that is not empty gives the same list in the same order, so lists that share such a
place are the same. An identifier with a declaration is in the list of its own place, if it refers
to a name or is the name child of the node above it. -/
theorem references_partition {files : Files} {name : String} {source : Concrete.Source}
    (hfile : files.get? name = some (.ofSource source)) (hseparated : (ofSource source).Separated)
    (hplain : (ofSource source).PlainTypeReferences) (a : Nat) :
    (∀ l ∈ Id.run (files.service.references name a), 0 < l.span.length →
      Id.run (files.service.references name l.span.start) =
        Id.run (files.service.references name a)) ∧
      ∀ n, (ofSource source).locate? root a = some n → (ofSource source).kind n = .identifier →
        (ofSource source).declarationsOf n ≠ [] →
        ((ofSource source).isReference n = true ∨
          ∃ p, (ofSource source).parent n = some p ∧
            (ofSource source).childWith? p .name = some n) →
        (ofSource source).locationOf n ∈ Id.run (files.service.references name a) := by
  simp only [references_eq hfile]
  constructor
  · intro l hl hspan
    obtain ⟨target, declared, hname, hlist⟩ := exists_uses_of_mem_referencesAt hl
    rw [hlist] at hl ⊢
    obtain ⟨n, hn, rfl⟩ := List.mem_map.1 hl
    refine referencesAt_of_use hseparated hplain hname hn (contains_iff.2 ?_)
    simp only [locationOf, span, Span.ofRange] at hspan ⊢
    omega
  · intro n hfound hkind hdeclared hnamed
    obtain ⟨target, hfirst⟩ := Option.isSome_iff_exists.1
      (List.isSome_head?.2 hdeclared)
    have hname := declaredName?_of_first hkind hnamed hfirst
    rw [referencesAt_of_first (symbolAt?_eq_some_iff.2 ⟨hfound, .inl hkind⟩) hfirst hname]
    exact List.mem_map_of_mem (mem_uses_self hkind hfirst)

/-- Two declarations of a function `f`, and a call of it that passes it to itself. -/
def declaredTwice : Concrete.Source :=
  .ofTable "main.ts"
    ("declare function f(cb: A): void;\ndeclare function f(): void;\n" ++
      "type A = () => void;\nf(f);\n") [
    (0, ⟨"program", none, 0, 88, true, false⟩),
    (1, ⟨"ambient_declaration", none, 0, 32, true, false⟩),
    (2, ⟨"declare", none, 0, 7, false, false⟩),
    (2, ⟨"function_signature", none, 8, 32, true, false⟩),
    (3, ⟨"function", none, 8, 16, false, false⟩),
    (3, ⟨"identifier", some "name", 17, 18, true, false⟩),
    (3, ⟨"formal_parameters", some "parameters", 18, 25, true, false⟩),
    (4, ⟨"(", none, 18, 19, false, false⟩),
    (4, ⟨"required_parameter", none, 19, 24, true, false⟩),
    (5, ⟨"identifier", some "pattern", 19, 21, true, false⟩),
    (5, ⟨"type_annotation", some "type", 21, 24, true, false⟩),
    (6, ⟨":", none, 21, 22, false, false⟩),
    (6, ⟨"type_identifier", none, 23, 24, true, false⟩),
    (4, ⟨")", none, 24, 25, false, false⟩),
    (3, ⟨"type_annotation", some "return_type", 25, 31, true, false⟩),
    (4, ⟨":", none, 25, 26, false, false⟩),
    (4, ⟨"predefined_type", none, 27, 31, true, false⟩),
    (5, ⟨"void", none, 27, 31, false, false⟩),
    (3, ⟨";", none, 31, 32, false, false⟩),
    (1, ⟨"ambient_declaration", none, 33, 60, true, false⟩),
    (2, ⟨"declare", none, 33, 40, false, false⟩),
    (2, ⟨"function_signature", none, 41, 60, true, false⟩),
    (3, ⟨"function", none, 41, 49, false, false⟩),
    (3, ⟨"identifier", some "name", 50, 51, true, false⟩),
    (3, ⟨"formal_parameters", some "parameters", 51, 53, true, false⟩),
    (4, ⟨"(", none, 51, 52, false, false⟩),
    (4, ⟨")", none, 52, 53, false, false⟩),
    (3, ⟨"type_annotation", some "return_type", 53, 59, true, false⟩),
    (4, ⟨":", none, 53, 54, false, false⟩),
    (4, ⟨"predefined_type", none, 55, 59, true, false⟩),
    (5, ⟨"void", none, 55, 59, false, false⟩),
    (3, ⟨";", none, 59, 60, false, false⟩),
    (1, ⟨"type_alias_declaration", none, 61, 81, true, false⟩),
    (2, ⟨"type", none, 61, 65, false, false⟩),
    (2, ⟨"type_identifier", some "name", 66, 67, true, false⟩),
    (2, ⟨"=", none, 68, 69, false, false⟩),
    (2, ⟨"function_type", some "value", 70, 80, true, false⟩),
    (3, ⟨"formal_parameters", some "parameters", 70, 72, true, false⟩),
    (4, ⟨"(", none, 70, 71, false, false⟩),
    (4, ⟨")", none, 71, 72, false, false⟩),
    (3, ⟨"=>", none, 73, 75, false, false⟩),
    (3, ⟨"predefined_type", some "return_type", 76, 80, true, false⟩),
    (4, ⟨"void", none, 76, 80, false, false⟩),
    (2, ⟨";", none, 80, 81, false, false⟩),
    (1, ⟨"expression_statement", none, 82, 87, true, false⟩),
    (2, ⟨"call_expression", none, 82, 86, true, false⟩),
    (3, ⟨"identifier", some "function", 82, 83, true, false⟩),
    (3, ⟨"arguments", some "arguments", 83, 86, true, false⟩),
    (4, ⟨"(", none, 83, 84, false, false⟩),
    (4, ⟨"identifier", none, 84, 85, true, false⟩),
    (4, ⟨")", none, 85, 86, false, false⟩),
    (2, ⟨";", none, 86, 87, false, false⟩)]

/-- A workspace with this file alone. -/
def onlyDeclaredTwice : Files :=
  ⟨[("main.ts", ofSource declaredTwice)], List.pairwise_singleton ..⟩

theorem get?_onlyDeclaredTwice :
    onlyDeclaredTwice.get? "main.ts" = some (ofSource declaredTwice) := by
  rw [get?, onlyDeclaredTwice, List.lookup_cons_self]

/-- The name of the first declaration, node 2, is in the list of the argument, node 17, and has the
same list. -/
theorem references_partition_declaredTwice :
    Id.run (onlyDeclaredTwice.service.references "main.ts" 84) =
        [⟨"main.ts", ⟨17, 1⟩⟩, ⟨"main.ts", ⟨82, 1⟩⟩, ⟨"main.ts", ⟨84, 1⟩⟩] ∧
      Id.run (onlyDeclaredTwice.service.references "main.ts" 17) =
        Id.run (onlyDeclaredTwice.service.references "main.ts" 84) ∧
      (ofSource declaredTwice).locationOf 17 ∈
        Id.run (onlyDeclaredTwice.service.references "main.ts" 84) := by
  obtain ⟨hlist, hsource, hplain, hfound, hkind, hdeclared, href⟩ :
      Id.run (onlyDeclaredTwice.service.references "main.ts" 84) =
        [⟨"main.ts", ⟨17, 1⟩⟩, ⟨"main.ts", ⟨82, 1⟩⟩, ⟨"main.ts", ⟨84, 1⟩⟩] ∧
      declaredTwice.WellFormed ∧ (ofSource declaredTwice).PlainTypeReferences ∧
      (ofSource declaredTwice).locate? root 84 = some 17 ∧
      (ofSource declaredTwice).kind 17 = .identifier ∧
      (ofSource declaredTwice).declarationsOf 17 ≠ [] ∧
      (ofSource declaredTwice).isReference 17 = true := by
    decide +kernel
  obtain ⟨hsame, hown⟩ :=
    references_partition get?_onlyDeclaredTwice (separated_ofSource hsource) hplain 84
  have hname : ⟨"main.ts", ⟨17, 1⟩⟩ ∈
      Id.run (onlyDeclaredTwice.service.references "main.ts" 84) := by
    rw [hlist]
    exact List.mem_cons_self
  exact ⟨hlist, hsame _ hname Nat.one_pos, hown 17 hfound hkind hdeclared (.inl href)⟩

theorem definition_eq {files : Files} {name : String} {t : Tree} (h : files.get? name = some t)
    (offset : Nat) : Id.run (files.service.definition name offset) = t.definitionsAt offset := by
  simp only [service, h, Option.map_some, Option.getD_some]
  rfl

/-- **Among the definitions of a symbol, only the first is a reference to it.** In a well-formed
file with plain parameters and plain type references, going from a reference to its definition leads
to the names of all its declarations. The name of the first is in the list of references, and the
name of any other declaration is not. So all definitions are references exactly if there is only one
declaration. -/
theorem only_first_definition_referenced {files : Files} {name : String} {source : Concrete.Source}
    (hfile : files.get? name = some (.ofSource source)) (hsource : source.WellFormed)
    (hparameters : source.PlainParameters) (hplain : (ofSource source).PlainTypeReferences)
    {offset s first : Nat} (hs : (ofSource source).symbolAt? offset = some s)
    (href : (ofSource source).isReference s = true)
    (hfirst : ((ofSource source).declarationsOf s).head? = some first) :
    (∀ d ∈ (ofSource source).declarationsOf s,
      (ofSource source).locationOf ((ofSource source).nameNode d) ∈
          Id.run (files.service.definition name offset) ∧
        ((ofSource source).locationOf ((ofSource source).nameNode d) ∈
          Id.run (files.service.references name offset) ↔ d = first)) ∧
      ((∀ l ∈ Id.run (files.service.definition name offset),
          l ∈ Id.run (files.service.references name offset)) ↔
        ∀ d ∈ (ofSource source).declarationsOf s, d = first) := by
  obtain ⟨hkind, -⟩ := isReference_iff.1 href
  have hlist := referencesAt_of_first hs hfirst (declaredName?_of_first hkind (.inl href) hfirst)
  have hseparated := separated_ofSource hsource
  -- the symbol is not empty, and the names of its declarations are spelt as it is
  have hbytes : 0 < Text.byteLength ((ofSource source).textOf s) := by
    obtain ⟨hstart, hstop⟩ := contains_iff.1 (contains_of_locate? (symbolAt?_eq_some_iff.1 hs).1)
    rw [stop_eq_add_byteLength hsource (lt_size_of_identifier hkind)] at hstop
    omega
  have hdefinitions : (ofSource source).definitionsAt offset =
      ((ofSource source).declarationsOf s).map fun d =>
        (ofSource source).locationOf ((ofSource source).nameNode d) := by
    rw [definitionsAt, hs]
  have hreferenced : ∀ d ∈ (ofSource source).declarationsOf s,
      ((ofSource source).locationOf ((ofSource source).nameNode d) ∈
        (ofSource source).referencesAt offset ↔ d = first) := by
    intro d hd
    rw [declarationsOf_eq_resolve href hfirst] at hd
    obtain ⟨hname, htext, hdeclared⟩ := declarationsOf_nameNode hparameters hd
    have hlength := stop_eq_add_byteLength hsource (lt_size_of_identifier hname)
    rw [htext] at hlength
    rw [hlist, ← htext, locationOf_mem_uses_iff hseparated hplain hname (by omega), hdeclared,
      List.head?_cons, Option.some.injEq]
  rw [references_eq hfile, definition_eq hfile, hdefinitions]
  refine ⟨fun d hd => ⟨List.mem_map_of_mem hd, hreferenced d hd⟩, ?_⟩
  rw [List.forall_mem_map]
  exact forall₂_congr hreferenced

/-- Node 16 calls the function, whose declarations are nodes 1 and 7. -/
theorem second_declaration_not_referenced :
    (ofSource declaredTwice).declarationsOf 16 = [1, 7] ∧
      ⟨"main.ts", ⟨50, 1⟩⟩ ∈ Id.run (onlyDeclaredTwice.service.definition "main.ts" 82) ∧
      ⟨"main.ts", ⟨50, 1⟩⟩ ∉ Id.run (onlyDeclaredTwice.service.references "main.ts" 82) := by
  obtain ⟨hsource, hparameters, hplain, hs, href, hdeclarations, hlocation⟩ :
      declaredTwice.WellFormed ∧ declaredTwice.PlainParameters ∧
      (ofSource declaredTwice).PlainTypeReferences ∧
      (ofSource declaredTwice).symbolAt? 82 = some 16 ∧
      (ofSource declaredTwice).isReference 16 = true ∧
      (ofSource declaredTwice).declarationsOf 16 = [1, 7] ∧
      (ofSource declaredTwice).locationOf ((ofSource declaredTwice).nameNode 7) =
        ⟨"main.ts", ⟨50, 1⟩⟩ := by
    decide +kernel
  have hfirst : ((ofSource declaredTwice).declarationsOf 16).head? = some 1 := by
    rw [hdeclarations, List.head?_cons]
  obtain ⟨hmem, hiff⟩ := (only_first_definition_referenced get?_onlyDeclaredTwice hsource
    hparameters hplain hs href hfirst).1 7 (by rw [hdeclarations]; decide)
  rw [hlocation] at hmem hiff
  exact ⟨hdeclarations, hmem, fun h => absurd (hiff.1 h) (by decide)⟩

end Files

end ClosureWrap
