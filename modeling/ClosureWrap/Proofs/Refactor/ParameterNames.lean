import ClosureWrap.Proofs.Lowering.Origin
import ClosureWrap.Proofs.Refactor.Parameters
import Mathlib.Data.List.Basic

/-!
# The names of a closure's parameters

The parameters of a closure have the names of the parameters of a function type, copied as they are
written. A function type is more liberal than an arrow function: its first parameter may be `this`,
which only says what the function is called on. An arrow function can have no such parameter.

Here the names are followed back to the concrete tree. In a file whose parameters have names, every
parameter of a closure is the text of the concrete node that names the parameter, so it is never
empty. But it is `this` as soon as that node reads `this`: nothing on the way drops such a
parameter.

## Main definitions

* `Concrete.Source.NamedParameters` — the parameters of a file have names
* `Concrete.Source.Names` — a concrete node names a parameter of the lowered tree

## Main results

* `Lowering.firstName?_project` — what becomes of the node that names a parameter
* `Tree.exists_names` — parameters of a lowered tree are named by concrete nodes
* `Wrap.parameters_fit_unless_this` — the names of the parameters of a closure
-/

namespace ClosureWrap

/-! ### Parameters with names -/

namespace Concrete

open Projection

/-- The node stands where a parameter has its name. -/
def Label.inNameField (d : Label) : Bool := d.field == some "pattern" || d.field == some "name"

/-- The node that names a parameter, given what is below the parameter. -/
def nameNode? (below : Forest Label) : Option Label := below.firstRow.find? Label.inNameField

/-- The node is written in the file and is kept: it is neither a token nor empty nor only supposed,
and neither a comment nor a bracket. -/
structure Label.IsWritten (d : Label) : Prop where
  named : d.named = true
  there : d.missing = false
  nonempty : d.start < d.stop
  notComment : d.kind ≠ "comment"
  notBracket : d.kind ∉ bracketKinds

instance (d : Label) : Decidable d.IsWritten :=
  decidable_of_iff (d.named = true ∧ d.missing = false ∧ d.start < d.stop ∧ d.kind ≠ "comment" ∧
      d.kind ∉ bracketKinds)
    ⟨fun h => ⟨h.1, h.2.1, h.2.2.1, h.2.2.2.1, h.2.2.2.2⟩,
      fun h => ⟨h.named, h.there, h.nonempty, h.notComment, h.notBracket⟩⟩

/-- What is below a parameter names it: there is a node for the name, such nodes are written, and no
bracket stands before them. -/
structure HasName (below : Forest Label) : Prop where
  exists_node : ∃ d ∈ below.firstRow, d.inNameField = true
  written : ∀ d ∈ below.firstRow, d.inNameField = true → d.IsWritten
  first : ∀ b ∈ below.firstRow.takeWhile fun d => !d.inNameField, b.kind ∉ bracketKinds

instance (below : Forest Label) : Decidable (HasName below) :=
  decidable_of_iff ((∃ d ∈ below.firstRow, d.inNameField = true) ∧
      (∀ d ∈ below.firstRow, d.inNameField = true → d.IsWritten) ∧
      ∀ b ∈ below.firstRow.takeWhile fun d : Label => !d.inNameField, b.kind ∉ bracketKinds)
    ⟨fun h => ⟨h.1, h.2.1, h.2.2⟩, fun h => ⟨h.exists_node, h.written, h.first⟩⟩

/-- The parameters of the file have names: those in lists are named by what is below them, and those
that stand bare are not empty. -/
structure Source.NamedParameters (source : Source) : Prop where
  listed : source.trees.Every fun c below =>
    c.kind = "required_parameter" ∨ c.kind = "optional_parameter" → HasName below
  bare : source.trees.Every fun c _ => c.field = some "parameter" → c.start < c.stop

instance (source : Source) : Decidable source.NamedParameters :=
  decidable_of_iff ((source.trees.Every fun c below =>
        c.kind = "required_parameter" ∨ c.kind = "optional_parameter" → HasName below) ∧
      source.trees.Every fun c _ => c.field = some "parameter" → c.start < c.stop)
    ⟨fun h => ⟨h.1, h.2⟩, fun h => ⟨h.listed, h.bare⟩⟩

/-- The node `d` names a parameter of the file: one in a list that it stands below, or a bare one,
which is the node itself. -/
inductive Source.NamesParameter (source : Source) (d : Label) : Prop
  | listed {c : Label} {below : Forest Label} (hmem : (c, below) ∈ source.trees.subtrees)
      (hkind : c.kind = "required_parameter" ∨ c.kind = "optional_parameter")
      (hname : nameNode? below = some d)
  | bare {below : Forest Label} (hmem : (d, below) ∈ source.trees.subtrees)
      (hfield : d.field = some "parameter")

/-- The node `d` names parameter `p` of the lowered tree: the name of `p` stands where `d`
stands. -/
structure Source.Names (source : Source) (d : Label) (p : Nat) : Prop where
  ofParameter : source.NamesParameter d
  inPlace : ∃ m, (Tree.ofSource source).childWith? p .name = some m ∧
    (Tree.ofSource source).start m = d.start ∧ (Tree.ofSource source).stop m = d.stop

end Concrete

/-! ### The projection -/

namespace Lowering

open Concrete Projection

theorem roleOf?_eq_name_iff {field parentKind : String} :
    roleOf? field parentKind = some .name ↔ field = "pattern" ∨ field = "name" := by
  constructor
  · intro h
    have hmem := mem_fieldRoles_of_roleOf? h (by decide)
    simpa [fieldRoles, or_comm] using hmem
  · rintro (rfl | rfl)
    · rfl
    · rfl

theorem bind_roleOf?_eq_name_iff {c : Label} {parentKind : String} :
    (c.field.bind fun f => roleOf? f parentKind) = some .name ↔ c.inNameField = true := by
  simp only [Option.bind_eq_some_iff, roleOf?_eq_name_iff, Label.inNameField, Bool.or_eq_true,
    beq_iff_eq]
  constructor
  · rintro ⟨field, hfield, rfl | rfl⟩
    · exact .inl hfield
    · exact .inr hfield
  · rintro (hfield | hfield)
    · exact ⟨_, hfield, .inl rfl⟩
    · exact ⟨_, hfield, .inr rfl⟩

/-- Apart from bare ones, only the parameters in lists are kept as parameters. -/
theorem eq_of_treatment_parameter {c : Label} (h : treatment c.kind c.field = .keep .parameter) :
    c.kind = "required_parameter" ∨ c.kind = "optional_parameter" := by
  unfold treatment at h
  split at h
  · cases h
  · split at h
    · cases h
    · split at h
      · cases h
      · cases hlookup : keptKinds.lookup c.kind with
        | none =>
          rw [hlookup] at h
          cases h
        | some kind =>
          rw [hlookup, Option.getD_some, Treatment.keep.injEq] at h
          rw [h] at hlookup
          simpa [keptKinds] using mem_of_lookup_eq_some hlookup

/-- The first label of a row in the role of a name. -/
def firstName? (f : Forest Kept) : Option Kept := f.firstRow.find? fun k => k.role = some .name

section Row

variable {c d : Label} {inner below rest : Forest Label} {parentKind : String}

/-- The node that names a parameter is kept in the role of a name. -/
theorem firstName?_project_of_inNameField (hfield : c.inNameField = true) (hwritten : c.IsWritten) :
    ∃ k, firstName? (project parentKind none (.cons c inner rest)) = some k ∧
      k.start = c.start ∧ k.stop = c.stop := by
  rcases treatment_cases c with ⟨-, hcomment⟩ | ⟨-, -, hbracket⟩ | ⟨kind, htreat, -, -⟩
  · exact absurd hcomment hwritten.notComment
  · exact absurd hbracket hwritten.notBracket
  · have hbare : ¬(c.field = some "parameter" ∧ kind = .identifier) := by
      rintro ⟨hparameter, -⟩
      rw [Label.inNameField, hparameter] at hfield
      cases hfield
    rw [firstName?, project_keep hwritten.named hwritten.there htreat hbare]
    exact ⟨_, List.find?_cons_of_pos (decide_eq_true (bind_roleOf?_eq_name_iff.2 hfield)), rfl, rfl⟩

/-- A node that neither names nor brackets leaves no label in the role of a name. -/
theorem firstName?_project_of_not_inNameField (hfield : c.inNameField = false)
    (hbracket : c.kind ∉ bracketKinds) :
    firstName? (project parentKind none (.cons c inner rest)) =
      firstName? (project parentKind none rest) := by
  by_cases hthere : c.named = true ∧ c.missing = false
  · rcases treatment_cases c with ⟨htreat, -⟩ | ⟨-, -, hsplice⟩ | ⟨kind, htreat, -, -⟩
    · rw [project_skip htreat]
    · exact absurd hsplice hbracket
    · by_cases hbare : c.field = some "parameter" ∧ kind = .identifier
      · obtain ⟨hparameter, rfl⟩ := hbare
        rw [project_bare hthere.1 hthere.2 hparameter htreat]
        exact List.find?_cons_of_neg (by simp)
      · have hrole : (c.field.bind fun f => roleOf? f parentKind) ≠ some .name := fun hname => by
          rw [bind_roleOf?_eq_name_iff, hfield] at hname
          cases hname
        rw [project_keep hthere.1 hthere.2 htreat hbare]
        exact List.find?_cons_of_neg (by simpa using hrole)
  · rw [project_absent hthere]

/-- The first label in the role of a name that is kept below a parameter comes from the node that
names the parameter. -/
theorem firstName?_project (hd : nameNode? below = some d) (hwritten : d.IsWritten)
    (hfirst : ∀ b ∈ below.firstRow.takeWhile fun d => !d.inNameField, b.kind ∉ bracketKinds) :
    ∃ k, firstName? (project parentKind none below) = some k ∧
      k.start = d.start ∧ k.stop = d.stop := by
  induction below with
  | nil => cases hd
  | cons c inner rest _ ihr =>
    rw [nameNode?, Forest.firstRow] at hd
    rw [Forest.firstRow] at hfirst
    cases hfield : c.inNameField with
    | true =>
      rw [List.find?_cons_of_pos hfield, Option.some.injEq] at hd
      subst hd
      exact firstName?_project_of_inNameField hfield hwritten
    | false =>
      rw [List.find?_cons_of_neg (by simp [hfield])] at hd
      rw [List.takeWhile_cons_of_pos (by simp [hfield])] at hfirst
      rw [firstName?_project_of_not_inNameField hfield (hfirst c List.mem_cons_self)]
      exact ihr hd fun b hb => hfirst b (List.mem_cons_of_mem _ hb)

end Row

/-- A kept parameter has a name, which comes from the concrete node that names it. -/
theorem KeptFrom.exists_firstName? {source : Source} (hnamed : source.NamedParameters) {c : Label}
    {below : Forest Label} (hmem : (c, below) ∈ source.trees.subtrees) {k : Kept}
    {inner : Forest Kept} (h : KeptFrom c below k inner) (hkind : k.kind = .parameter) :
    ∃ d, source.NamesParameter d ∧ d.start < d.stop ∧
      ∃ m, firstName? inner = some m ∧ m.start = d.start ∧ m.stop = d.stop := by
  cases h with
  | node htreat =>
    obtain rfl := hkind
    have hlisted := eq_of_treatment_parameter htreat
    obtain ⟨hexists, hwritten, hfirst⟩ := hnamed.listed.of_mem_subtrees hmem hlisted
    obtain ⟨d, hd⟩ : ∃ d, nameNode? below = some d :=
      Option.isSome_iff_exists.1 (List.find?_isSome.2 hexists)
    have hwritten := hwritten d (List.mem_of_find?_eq_some hd) (List.find?_some hd)
    exact ⟨d, .listed hmem hlisted hd, hwritten.nonempty, firstName?_project hd hwritten hfirst⟩
  | bare hfield =>
    exact ⟨c, .bare hmem hfield, hnamed.bare.of_mem_subtrees hmem hfield, _, rfl, rfl, rfl⟩
  | bareName => cases hkind

end Lowering

/-! ### Lowered trees -/

namespace Tree

open Lowering Concrete

/-- The first child in a role is the first label of the row in that role. -/
theorem Carries.find?_role {t : Tree} {parent next : Nat} {f : Forest Kept}
    (h : t.Carries parent next f) {r : Role} {k : Kept}
    (hk : f.firstRow.find? (fun k => k.role = some r) = some k) :
    ∃ m, (numbers next f).find? (fun n => t.role n = some r) = some m ∧
      t.start m = k.start ∧ t.stop m = k.stop := by
  induction f generalizing parent next with
  | nil => cases hk
  | cons j below rest _ ihr =>
    obtain ⟨here, -, hrest⟩ := h
    have hrole : t.role next = j.role := by rw [role, here]
    rw [Forest.firstRow] at hk
    rw [numbers]
    by_cases hname : j.role = some r
    · rw [List.find?_cons_of_pos (by simpa using hname), Option.some.injEq] at hk
      subst hk
      refine ⟨next, List.find?_cons_of_pos (by simpa [hrole] using hname), ?_, ?_⟩
      · rw [start, here]
      · rw [stop, here]
    · rw [List.find?_cons_of_neg (by simpa using hname)] at hk
      rw [List.find?_cons_of_neg (by simpa [hrole] using hname)]
      exact ihr hrest hk

section Names

variable {source : Source} {p : Nat}

/-- **Every parameter of a lowered tree is named by a concrete node** that is not empty. -/
theorem exists_names (hnamed : source.NamedParameters)
    (hkind : (ofSource source).kind p = .parameter) :
    ∃ d, source.Names d p ∧ d.start < d.stop := by
  have hp : p < (ofSource source).size := lt_size_of_kind (by rw [hkind]; exact Kind.noConfusion)
  have hpos : 0 < p := by
    refine Nat.pos_of_ne_zero fun hzero => ?_
    rw [hzero, kind, show (0 : Nat) = root from rfl, node_root_ofSource] at hkind
    cases hkind
  obtain ⟨c, below, k, inner, above, hmem, hfrom, hnode, hcarries⟩ := exists_keptFrom hpos hp
  rw [kind, hnode] at hkind
  obtain ⟨d, hd, hnonempty, name, hname, hstart, hstop⟩ :=
    hfrom.exists_firstName? hnamed hmem hkind
  obtain ⟨m, hm, hm₁, hm₂⟩ := hcarries.find?_role hname
  refine ⟨d, ⟨hd, m, ?_, hm₁.trans hstart, hm₂.trans hstop⟩, hnonempty⟩
  rw [childWith?, children, hnode]
  exact hm

/-- The name of a parameter is the text of the concrete node that names it. -/
theorem slice?_of_names {d : Label} (hwell : source.WellFormed) (h : source.Names d p) :
    Text.slice? source.text d.start d.stop = some ((ofSource source).parameterName p) := by
  obtain ⟨-, m, hm, hstart, hstop⟩ := h
  have hlt := (lt_of_mem_children (mem_children_of_childWith? hm).1).2
  rw [parameterName, hm, ← hstart, ← hstop, slice?_ofSource hwell hlt]
  rfl

theorem parameterName_ne_empty {d : Label} (hwell : source.WellFormed) (h : source.Names d p)
    (hnonempty : d.start < d.stop) : (ofSource source).parameterName p ≠ "" := by
  intro hempty
  have hslice := slice?_of_names hwell h
  rw [hempty] at hslice
  obtain ⟨before, after, -, hstart, hstop⟩ := Text.slice?_eq_some_iff.1 hslice
  rw [String.utf8ByteSize_empty] at hstop
  omega

end Names

end Tree

/-! ### Edits -/

namespace Wrap

open Concrete

/-- **The parameters of a closure fit, unless one is `this`.** Let a file have parameter lists in
order and parameters with names. Whenever an edit is made, it writes the closure that forwards to
the identifier `n` at the offset, and the parameters of the closure are those of the callback `c`.
Each of them is the text of the concrete node that names it, so none is empty. One of them is `this`
exactly if the node that names some parameter of the function type reads `this`. -/
theorem parameters_fit_unless_this {source : Source} (hwell : source.WellFormed)
    (hplain : source.PlainParameters) (hnamed : source.NamedParameters) {strict : Bool}
    {mode : ArrowParens} {offset : Nat} {edit : Edit}
    (h : buildEdit .structural (.ofSource source) strict mode offset = .ok edit) :
    ∃ (n call : Nat) (c : Callback .structural (.ofSource source) call),
      (Tree.ofSource source).locate? Tree.root offset = some n ∧
      (Tree.ofSource source).parent n = some call ∧
      edit = ⟨source.name, (Tree.ofSource source).span n,
        (Expr.forward ((Tree.ofSource source).textOf n) c.names).render mode⟩ ∧
      (∀ p ∈ (Tree.ofSource source).childrenWith c.functionType .parameter, ∃ d, source.Names d p ∧
        Text.slice? source.text d.start d.stop = some ((Tree.ofSource source).parameterName p)) ∧
      (∀ name ∈ c.names, name ≠ "") ∧
      ("this" ∈ c.names ↔
        ∃ p ∈ (Tree.ofSource source).childrenWith c.functionType .parameter, ∃ d, source.Names d p ∧
          Text.slice? source.text d.start d.stop = some "this") := by
  obtain ⟨⟨n, call⟩, htarget, c, rfl⟩ := buildEdit_eq_ok_iff.1 h
  obtain ⟨hlocate, -, hparent, -, -⟩ := findTarget_eq_ok_iff.1 htarget
  have hmem {name : String} : name ∈ c.names ↔
      ∃ p ∈ (Tree.ofSource source).childrenWith c.functionType .parameter,
        (Tree.ofSource source).parameterName p = name := by
    rw [Callback.mem_names, c.home_structural]
  have hexists : ∀ p ∈ (Tree.ofSource source).childrenWith c.functionType .parameter,
      ∃ d, source.Names d p ∧ d.start < d.stop := fun p hp =>
    Tree.exists_names hnamed (Tree.kind_of_role_parameter hplain (Tree.mem_childrenWith.1 hp).2)
  refine ⟨n, call, c, hlocate, hparent, by rw [Tree.fileName_ofSource], fun p hp => ?_, ?_, ?_⟩
  · obtain ⟨d, hd, -⟩ := hexists p hp
    exact ⟨d, hd, Tree.slice?_of_names hwell hd⟩
  · intro name hname
    obtain ⟨p, hp, rfl⟩ := hmem.1 hname
    obtain ⟨d, hd, hnonempty⟩ := hexists p hp
    exact Tree.parameterName_ne_empty hwell hd hnonempty
  · rw [hmem]
    constructor
    · rintro ⟨p, hp, hthis⟩
      obtain ⟨d, hd, -⟩ := hexists p hp
      exact ⟨p, hp, d, hd, hthis ▸ Tree.slice?_of_names hwell hd⟩
    · rintro ⟨p, hp, d, hd, hthis⟩
      exact ⟨p, hp, Option.some.inj ((Tree.slice?_of_names hwell hd).symm.trans hthis)⟩

/-- A function that expects a callback with a parameter for `this`, and a call of it. -/
def callbackOnThis : Source :=
  .ofTable "main.ts"
    "declare function run(cb: (this: 1, e: 2) => void): void;\nfunction fn() {}\nrun(fn);\n" [
    (0, ⟨"program", none, 0, 83, true, false⟩),
    (1, ⟨"ambient_declaration", none, 0, 56, true, false⟩),
    (2, ⟨"declare", none, 0, 7, false, false⟩),
    (2, ⟨"function_signature", none, 8, 56, true, false⟩),
    (3, ⟨"function", none, 8, 16, false, false⟩),
    (3, ⟨"identifier", some "name", 17, 20, true, false⟩),
    (3, ⟨"formal_parameters", some "parameters", 20, 49, true, false⟩),
    (4, ⟨"(", none, 20, 21, false, false⟩),
    (4, ⟨"required_parameter", none, 21, 48, true, false⟩),
    (5, ⟨"identifier", some "pattern", 21, 23, true, false⟩),
    (5, ⟨"type_annotation", some "type", 23, 48, true, false⟩),
    (6, ⟨":", none, 23, 24, false, false⟩),
    (6, ⟨"function_type", none, 25, 48, true, false⟩),
    (7, ⟨"formal_parameters", some "parameters", 25, 40, true, false⟩),
    (8, ⟨"(", none, 25, 26, false, false⟩),
    (8, ⟨"required_parameter", none, 26, 33, true, false⟩),
    (9, ⟨"this", some "pattern", 26, 30, true, false⟩),
    (9, ⟨"type_annotation", some "type", 30, 33, true, false⟩),
    (10, ⟨":", none, 30, 31, false, false⟩),
    (10, ⟨"literal_type", none, 32, 33, true, false⟩),
    (11, ⟨"number", none, 32, 33, true, false⟩),
    (8, ⟨",", none, 33, 34, false, false⟩),
    (8, ⟨"required_parameter", none, 35, 39, true, false⟩),
    (9, ⟨"identifier", some "pattern", 35, 36, true, false⟩),
    (9, ⟨"type_annotation", some "type", 36, 39, true, false⟩),
    (10, ⟨":", none, 36, 37, false, false⟩),
    (10, ⟨"literal_type", none, 38, 39, true, false⟩),
    (11, ⟨"number", none, 38, 39, true, false⟩),
    (8, ⟨")", none, 39, 40, false, false⟩),
    (7, ⟨"=>", none, 41, 43, false, false⟩),
    (7, ⟨"predefined_type", some "return_type", 44, 48, true, false⟩),
    (8, ⟨"void", none, 44, 48, false, false⟩),
    (4, ⟨")", none, 48, 49, false, false⟩),
    (3, ⟨"type_annotation", some "return_type", 49, 55, true, false⟩),
    (4, ⟨":", none, 49, 50, false, false⟩),
    (4, ⟨"predefined_type", none, 51, 55, true, false⟩),
    (5, ⟨"void", none, 51, 55, false, false⟩),
    (3, ⟨";", none, 55, 56, false, false⟩),
    (1, ⟨"function_declaration", none, 57, 73, true, false⟩),
    (2, ⟨"function", none, 57, 65, false, false⟩),
    (2, ⟨"identifier", some "name", 66, 68, true, false⟩),
    (2, ⟨"formal_parameters", some "parameters", 68, 70, true, false⟩),
    (3, ⟨"(", none, 68, 69, false, false⟩),
    (3, ⟨")", none, 69, 70, false, false⟩),
    (2, ⟨"statement_block", some "body", 71, 73, true, false⟩),
    (3, ⟨"\x7b", none, 71, 72, false, false⟩),
    (3, ⟨"\x7d", none, 72, 73, false, false⟩),
    (1, ⟨"expression_statement", none, 74, 82, true, false⟩),
    (2, ⟨"call_expression", none, 74, 81, true, false⟩),
    (3, ⟨"identifier", some "function", 74, 77, true, false⟩),
    (3, ⟨"arguments", some "arguments", 77, 81, true, false⟩),
    (4, ⟨"(", none, 77, 78, false, false⟩),
    (4, ⟨"identifier", none, 78, 80, true, false⟩),
    (4, ⟨")", none, 80, 81, false, false⟩),
    (2, ⟨";", none, 81, 82, false, false⟩)]

/-- The closure for the argument of `callbackOnThis` has a parameter `this`, as the file names one
so. No arrow function has such a parameter. -/
theorem parameters_fit_unless_this_callbackOnThis :
    callbackOnThis.WellFormed ∧ callbackOnThis.PlainParameters ∧ callbackOnThis.NamedParameters ∧
      buildEdit .structural (.ofSource callbackOnThis) true .asNeeded 78 =
        .ok ⟨"main.ts", ⟨78, 2⟩, "(this, e) => fn(this, e)"⟩ ∧
      ∃ p d, callbackOnThis.Names d p ∧
        Text.slice? callbackOnThis.text d.start d.stop = some "this" := by
  obtain ⟨hwell, hplain, hnamed⟩ :
      callbackOnThis.WellFormed ∧ callbackOnThis.PlainParameters ∧
        callbackOnThis.NamedParameters := by
    decide +kernel
  have hedit : buildEdit .structural (.ofSource callbackOnThis) true .asNeeded 78 =
      .ok ⟨"main.ts", ⟨78, 2⟩, "(this, e) => fn(this, e)"⟩ := by
    decide +kernel
  obtain ⟨hfound, habove, hnames⟩ :
      (Tree.ofSource callbackOnThis).locate? Tree.root 78 = some 22 ∧
        (Tree.ofSource callbackOnThis).parent 22 = some 20 ∧
        callbackParameters .structural (.ofSource callbackOnThis) 20 = .ok ["this", "e"] := by
    decide +kernel
  obtain ⟨n, call, c, hlocate, hparent, -, -, -, hthis⟩ :=
    parameters_fit_unless_this hwell hplain hnamed hedit
  obtain rfl : 22 = n := Option.some.inj (hfound.symm.trans hlocate)
  obtain rfl : 20 = call := Option.some.inj (habove.symm.trans hparent)
  obtain ⟨c', hc'⟩ := callbackParameters_eq_ok_iff.1 hnames
  have hmem : "this" ∈ c.names := by
    rw [c.names_eq c', ← hc']
    exact List.mem_cons_self
  obtain ⟨p, -, d, hd, hslice⟩ := hthis.1 hmem
  exact ⟨hwell, hplain, hnamed, hedit, p, d, hd, hslice⟩

end Wrap

end ClosureWrap
