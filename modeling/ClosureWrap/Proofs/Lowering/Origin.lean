import ClosureWrap.Proofs.Lowering.Projection

/-!
# Where a lowered node comes from

The projection lists the nodes of a lowered tree, one concrete node after another. Here the list is
read at a single place. A concrete node that is kept becomes a node whose number, kind and role are
those that the concrete node decides together with what stands above it, and if the node right above
is not one that only brackets, then it is kept too, and becomes the parent.

The other way round, every lowered node comes from some concrete node, and what is below it comes
from what is below that one. This is read off the walk instead of the list.

## Main definitions

* `Projection.Becomes`, `Projection.origins` — a concrete node is kept as a single lowered node, as
  a relation and computed
* `Forest.subtrees`, `Lowering.KeptFrom` — the labels of a forest with what is below them, and how a
  concrete one is kept

## Main results

* `Projection.Becomes.rowAt?` — the lowered node, field by field
* `Projection.Becomes.above` — the parent of the lowered node
* `Tree.exists_keptFrom` — the concrete node that a lowered node comes from
-/

namespace ClosureWrap

/-- Whatever stands above an occurrence is an occurrence itself, unless it stands above the whole
row. -/
theorem Forest.mem_occurrences_of_above {α : Type} {f : Forest α} {above rest : List (Nat × α)}
    {next place : Nat} {a : α} {o : Forest.Occurrence α} (ho : o ∈ f.occurrences above next)
    (h : o.above = (place, a) :: rest) :
    ⟨place, a, rest⟩ ∈ f.occurrences above next ∨ o.above = above := by
  induction f generalizing above next with
  | nil => cases ho
  | cons b below later ihb ihl =>
    rw [occurrences, List.mem_cons, List.mem_append] at ho ⊢
    rcases ho with rfl | ho | ho
    · exact .inr rfl
    · rcases ihb ho with hmem | heq
      · exact .inl (.inr (.inl hmem))
      · rw [h, List.cons.injEq, Prod.mk.injEq] at heq
        obtain ⟨⟨rfl, rfl⟩, rfl⟩ := heq
        exact .inl (.inl rfl)
    · exact (ihl ho).imp_left fun hmem => .inr (.inr hmem)

namespace Projection

open Lowering Concrete Forest

/-- The concrete node at `o` is kept, as the single lowered node `n`. -/
structure Becomes (source : Source) (o : Occurrence Label) (n : Nat) : Prop where
  mem : o ∈ source.trees.occurrences [] 0
  emitted : emitted o.label o.above = true
  single : isBareParameter o.label = false
  number : numberAt source.trees o.place = n

/-- The concrete nodes that become node `n`. -/
def origins (source : Source) (n : Nat) : List (Occurrence Label) :=
  (source.trees.occurrences [] 0).filter fun o =>
    Projection.emitted o.label o.above && !isBareParameter o.label &&
      numberAt source.trees o.place == n

theorem mem_origins {source : Source} {o : Occurrence Label} {n : Nat} :
    o ∈ origins source n ↔ Becomes source o n := by
  simp only [origins, List.mem_filter, Bool.and_eq_true, Bool.not_eq_true', beq_iff_eq]
  constructor
  · rintro ⟨hmem, ⟨hemitted, hsingle⟩, hnumber⟩
    exact ⟨hmem, hemitted, hsingle, hnumber⟩
  · rintro ⟨hmem, hemitted, hsingle, hnumber⟩
    exact ⟨hmem, ⟨hemitted, hsingle⟩, hnumber⟩

/-- The number of an occurrence is one more than the number of rows before it. -/
theorem numberAt_eq (source : Source) (place : Nat) :
    numberAt source.trees place =
      (((source.trees.occurrences [] 0).take place).flatMap
        (rowsOf source.rootKind (numberAt source.trees))).length + 1 := by
  have hcount (os : List (Occurrence Label)) (first : Nat) :
      os.foldl (fun number o => number + width o) first =
        (os.flatMap (rowsOf source.rootKind (numberAt source.trees))).length + first := by
    induction os generalizing first with
    | nil => exact (Nat.zero_add first).symm
    | cons o os ih =>
      rw [List.foldl_cons, ih, List.flatMap_cons, List.length_append, length_rowsOf]
      omega
  exact hcount _ 1

/-- The rows of a file are its nodes after the root. -/
theorem rowAt?_of_getElem? {source : Source} {i : Nat} {row : Tree.Row}
    (h : ((source.trees.occurrences [] 0).flatMap
      (rowsOf source.rootKind (numberAt source.trees)))[i]? = some row) :
    (Tree.ofSource source).rowAt? (i + 1) = some row := by
  have hwalk := @rows_project source.rootKind _ source.trees [] 0 rfl (counts_numberAt source.trees)
  have hread := congrArg (fun rows => rows[i]?) (Tree.carries_ofSource source).map_rowAt?
  rw [← hwalk] at h
  simp only [List.getElem?_map] at hread
  rw [show (Lowering.rows Tree.root 1 (Tree.kept source))[i]? = some row from h] at hread
  obtain ⟨k, hk, hrow⟩ := Option.map_eq_some_iff.1 hread
  obtain ⟨hlt, rfl⟩ := List.getElem?_eq_some_iff.1 hk
  rw [List.getElem_range', Nat.one_mul, Nat.add_comm] at hrow
  exact hrow

namespace Becomes

variable {source : Source} {o : Occurrence Label} {n : Nat}

/-- The lowered node that a concrete node becomes. -/
theorem rowAt? (h : Becomes source o n) :
    (Tree.ofSource source).rowAt? n =
      some ⟨parentNumber (numberAt source.trees) o.above, (classified o.label).getD .unknown,
        role source.rootKind o.label o.above, o.label.start, o.label.stop⟩ := by
  obtain ⟨hlt, hat⟩ := List.getElem?_eq_some_iff.1 (getElem?_occurrences h.mem)
  rw [← h.number, numberAt_eq]
  apply rowAt?_of_getElem?
  -- the rows before this one come from the occurrences before `o`
  have hsplit := List.take_append_drop o.place (source.trees.occurrences [] 0)
  rw [List.drop_eq_getElem_cons hlt, hat] at hsplit
  rw [← hsplit, List.flatMap_append, hsplit, List.getElem?_append_right (Nat.le_refl _),
    Nat.sub_self, List.flatMap_cons, rowsOf, if_pos h.emitted, h.single, if_neg Bool.false_ne_true]
  rfl

theorem kind (h : Becomes source o n) :
    (Tree.ofSource source).kind n = (classified o.label).getD .unknown := by
  obtain ⟨p, -, hrow⟩ := Option.map_eq_some_iff.1 h.rowAt?
  exact congrArg Tree.Row.kind hrow

theorem role_eq (h : Becomes source o n) :
    (Tree.ofSource source).role n = role source.rootKind o.label o.above := by
  obtain ⟨p, -, hrow⟩ := Option.map_eq_some_iff.1 h.rowAt?
  exact congrArg Tree.Row.role hrow

theorem parent (h : Becomes source o n) :
    (Tree.ofSource source).parent n = some (parentNumber (numberAt source.trees) o.above) := by
  obtain ⟨p, hparent, hrow⟩ := Option.map_eq_some_iff.1 h.rowAt?
  rw [hparent]
  exact congrArg (fun row => some row.parent) hrow

/-- The node right above a kept node, if it does not only bracket, is kept as its parent: it hides
nothing, so it is neither a comment nor an identifier. -/
theorem above {place : Nat} {a : Label} {rest : List (Nat × Label)} (h : Becomes source o n)
    (habove : o.above = (place, a) :: rest) (hbracket : a.kind ∉ bracketKinds) :
    ∃ p, Becomes source ⟨place, a, rest⟩ p ∧ (Tree.ofSource source).parent n = some p := by
  have hmem := (mem_occurrences_of_above h.mem habove).resolve_right (by rw [habove]; simp)
  have hemitted := h.emitted
  simp only [Projection.emitted, habove, visible, Bool.and_eq_true, Bool.not_eq_true'] at hemitted
  obtain ⟨⟨⟨-, hvisible, hhides⟩, -⟩, -⟩ := hemitted
  simp only [hides, Bool.or_eq_false_iff] at hhides
  obtain ⟨hcomment, hleaf⟩ := hhides
  have hkept : Projection.emitted a rest = true := by
    rw [beq_eq_false_iff_ne] at hcomment
    simp [Projection.emitted, hvisible, hbracket, hcomment]
  have hsingle : isBareParameter a = false := by
    cases hclass : classified a with
    | none => simp [isBareParameter, hclass]
    | some kind =>
      have hkind : kind ≠ .identifier := by
        rintro rfl
        rw [hclass] at hleaf
        cases hleaf
      simp [isBareParameter, hclass, hkind]
  refine ⟨numberAt source.trees place, ⟨hmem, hkept, hsingle, rfl⟩, ?_⟩
  rw [h.parent, habove, parentNumber, if_pos hkept]

end Becomes

end Projection

/-! ### From lowered nodes to concrete ones -/

/-- The labels of a forest in pre-order, each with what is below it. -/
def Forest.subtrees {α : Type} : Forest α → List (α × Forest α)
  | .nil => []
  | .cons a below rest => (a, below) :: (below.subtrees ++ rest.subtrees)

theorem Forest.Every.of_mem_subtrees {α : Type} {P : α → Forest α → Prop} {f below : Forest α}
    {a : α} (h : f.Every P) (hmem : (a, below) ∈ f.subtrees) : P a below := by
  induction f with
  | nil => cases hmem
  | cons b inner rest ihb ihr =>
    obtain ⟨hhere, hinner, hrest⟩ := h
    rw [subtrees, List.mem_cons, List.mem_append, Prod.mk.injEq] at hmem
    rcases hmem with ⟨rfl, rfl⟩ | hmem | hmem
    · exact hhere
    · exact ihb hinner hmem
    · exact ihr hrest hmem

namespace Lowering

open Concrete

/-- The concrete node `c` with `below` it is kept as a label with the given labels below it. -/
inductive KeptFrom (c : Label) (below : Forest Label) : Kept → Forest Kept → Prop
  /-- It stays, with what is kept of what is below it. -/
  | node {kind : Kind} {role : Option Role} (htreat : treatment c.kind c.field = .keep kind) :
      KeptFrom c below ⟨kind, role, c.start, c.stop⟩
        (if kind.isLeaf then .nil else project c.kind none below)
  /-- It becomes a parameter, as it stands in the place of a parameter list. -/
  | bare (hfield : c.field = some "parameter") :
      KeptFrom c below ⟨.parameter, some .parameter, c.start, c.stop⟩
        (.cons ⟨.identifier, some .name, c.start, c.stop⟩ .nil .nil)
  /-- It becomes the name of that parameter. -/
  | bareName : KeptFrom c below ⟨.identifier, some .name, c.start, c.stop⟩ .nil

/-- **Every kept label comes from a concrete node**, and so does what is below it. -/
theorem every_keptFrom_project {all : List (Label × Forest Label)} (f : Forest Label)
    (hall : ∀ s ∈ f.subtrees, s ∈ all) (parentKind : String) (given : Option Role) :
    (project parentKind given f).Every fun k inner => ∃ s ∈ all, KeptFrom s.1 s.2 k inner := by
  induction f generalizing parentKind given with
  | nil => trivial
  | cons c below rest ihb ihr =>
    have hhere : (c, below) ∈ all := hall _ List.mem_cons_self
    have hinner := ihb fun s hs => hall s (List.mem_cons_of_mem _ (List.mem_append_left _ hs))
    have hlater := ihr (fun s hs => hall s (List.mem_cons_of_mem _ (List.mem_append_right _ hs)))
      parentKind given
    simp only [project]
    split
    · exact hlater
    · split
      · exact hlater
      · exact (hinner _ _).append hlater
      · next kind htreat =>
        split
        · next hbare =>
          exact ⟨⟨_, hhere, .bare hbare.1⟩, ⟨⟨_, hhere, .bareName⟩, trivial, trivial⟩, hlater⟩
        · refine ⟨⟨_, hhere, .node htreat⟩, ?_, hlater⟩
          split
          · trivial
          · exact hinner _ _

end Lowering

namespace Tree

open Lowering

/-- **Every node of a lowered tree but the root comes from a concrete node.** -/
theorem exists_keptFrom {source : Concrete.Source} {n : Nat} (hpos : 0 < n)
    (hn : n < (ofSource source).size) :
    ∃ c below k inner above, (c, below) ∈ source.trees.subtrees ∧ KeptFrom c below k inner ∧
      (ofSource source).node n =
        ⟨k.kind, k.role, k.start, k.stop, some above, numbers (n + 1) inner⟩ ∧
      (ofSource source).Carries n (n + 1) inner := by
  rw [size_ofSource] at hn
  obtain ⟨k, inner, above, ⟨⟨c, below⟩, hmem, hfrom⟩, hnode, hcarries⟩ :=
    (carries_ofSource source).subtree
      (every_keptFrom_project source.trees (fun _ h => h) source.rootKind none) hpos (by omega)
  exact ⟨c, below, k, inner, above, hmem, hfrom, hnode, hcarries⟩

end Tree

end ClosureWrap
