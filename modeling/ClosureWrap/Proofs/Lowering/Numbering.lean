import ClosureWrap.Lowering
import ClosureWrap.Proofs.Tree.Order

/-!
# The arena of a forest

A lowered tree is grown one node at a time, each below a node that is already there. What comes out
is the projected forest itself, its nodes numbered in pre-order: this file says so once, as the
relation `Tree.Carries` between a tree and a forest, and reads every fact about a lowered tree off
that relation.

The relation fixes a node completely, its list of children included. That is what makes it survive
later growth: a node that arrives below `parent` changes the children of `parent` and nothing else,
so a forest that is already carried stays carried as long as `parent` is not one of its nodes.

## Main definitions

* `Forest.Every` — a property of every label of a forest together with what is below it
* `Lowering.numbers` — the numbers that the first row of a forest takes
* `Tree.grow` — a tree after several arrivals
* `Tree.Carries` — a stretch of numbers of a tree holds a forest

## Main results

* `Tree.grown_rows` — growing by the rows of a forest carries that forest and leaves the rest alone
* `Tree.Carries.subtree` — what a number in the stretch stands for
* `Tree.descendants_ofSource` — the nodes of a lowered tree are visited in the order of their
  numbers
-/

namespace ClosureWrap

namespace Forest

variable {α : Type}

/-- Every label of the forest satisfies `P` together with the forest below it. -/
def Every (P : α → Forest α → Prop) : Forest α → Prop
  | .nil => True
  | .cons a below rest => P a below ∧ Every P below ∧ Every P rest

theorem Every.append {P : α → Forest α → Prop} {f g : Forest α} (hf : f.Every P)
    (hg : g.Every P) : (f.append g).Every P := by
  induction f with
  | nil => exact hg
  | cons a below rest _ ihr => exact ⟨hf.1, hf.2.1, ihr hf.2.2⟩

end Forest

namespace Lowering

/-- The numbers of the labels in the first row of a forest, when `next` is the next free number. -/
def numbers {α : Type} (next : Nat) : Forest α → List Nat
  | .nil => []
  | .cons _ below rest => next :: numbers (next + 1 + below.size) rest

theorem rows_append (parent next : Nat) (f g : Forest Kept) :
    rows parent next (f.append g) = rows parent next f ++ rows parent (next + f.size) g := by
  induction f generalizing next with
  | nil => rfl
  | cons k below rest _ ihr =>
    simp only [Forest.append, rows, Forest.size, ihr, List.cons_append, List.append_assoc]
    rw [show next + 1 + below.size + rest.size = next + (below.size + rest.size + 1) by omega]

end Lowering

namespace Tree

open Lowering

/-! ### One arrival -/

@[simp] theorem size_push {t : Tree} {parent : Nat} (h : parent < t.size) (kind : Kind)
    (role : Option Role) (start stop : Nat) :
    (t.push parent kind role start stop).size = t.size + 1 := by
  simp only [push, size] at *
  rw [dif_pos h, size_pushNode]

/-- An arrival adds its node at the end and its number to the children of the node above it. -/
theorem node_push {t : Tree} {parent : Nat} (h : parent < t.size) (kind : Kind)
    (role : Option Role) (start stop i : Nat) :
    (t.push parent kind role start stop).node i =
      if i = t.size then ⟨kind, role, start, stop, some parent, []⟩
      else if i = parent then { t.node parent with children := t.children parent ++ [t.size] }
      else t.node i := by
  simp only [push, node, children, size] at *
  rw [dif_pos h]
  simp only [Array.getD_eq_getD_getElem?, pushNode, Array.getElem?_push, Array.size_modify]
  split
  · rfl
  · rw [Array.getElem?_modify]
    by_cases hi : i = parent
    · subst hi
      simp [Array.getElem?_eq_getElem h]
    · rw [if_neg (Ne.symm hi), if_neg hi]

/-! ### Several arrivals -/

/-- The tree after nodes have arrived in the order of `rows`. -/
def grow (t : Tree) (rows : List Row) : Tree :=
  rows.foldl (fun t r => t.push r.parent r.kind r.role r.start r.stop) t

theorem grow_append (t : Tree) (rows₁ rows₂ : List Row) :
    t.grow (rows₁ ++ rows₂) = (t.grow rows₁).grow rows₂ :=
  List.foldl_append

/-- Arrivals change neither the name of the file nor its text. -/
theorem file_grow (t : Tree) (rows : List Row) :
    (t.grow rows).fileName = t.fileName ∧ (t.grow rows).text = t.text := by
  induction rows generalizing t with
  | nil => exact ⟨rfl, rfl⟩
  | cons r rows ih =>
    have hpush : (t.push r.parent r.kind r.role r.start r.stop).fileName = t.fileName ∧
        (t.push r.parent r.kind r.role r.start r.stop).text = t.text := by
      unfold push
      split <;> exact ⟨rfl, rfl⟩
    obtain ⟨hname, htext⟩ := ih (t.push r.parent r.kind r.role r.start r.stop)
    rw [grow, List.foldl_cons]
    exact ⟨hname.trans hpush.1, htext.trans hpush.2⟩

/-- The nodes of `t` from number `next` on are the labels of the forest in pre-order, and the first
row of the forest stands below node `parent`. -/
def Carries (t : Tree) (parent next : Nat) : Forest Kept → Prop
  | .nil => True
  | .cons k below rest =>
    t.node next = ⟨k.kind, k.role, k.start, k.stop, some parent, numbers (next + 1) below⟩ ∧
      t.Carries next (next + 1) below ∧ t.Carries parent (next + 1 + below.size) rest

/-- Only the nodes in the stretch matter. -/
theorem Carries.congr {t t' : Tree} {parent next : Nat} {f : Forest Kept}
    (h : t.Carries parent next f)
    (hnode : ∀ i, next ≤ i → i < next + f.size → t'.node i = t.node i) :
    t'.Carries parent next f := by
  induction f generalizing parent next with
  | nil => trivial
  | cons k below rest ihb ihr =>
    obtain ⟨here, hbelow, hrest⟩ := h
    simp only [Forest.size] at hnode
    refine ⟨by rw [hnode next (by omega) (by omega), here], ihb hbelow fun i h₁ h₂ => ?_,
      ihr hrest fun i h₁ h₂ => ?_⟩
    · exact hnode i (by omega) (by omega)
    · exact hnode i (by omega) (by omega)

/-- What growing `t` by a forest below `parent` gives: the forest is carried, `parent` has the first
row of it as further children, and every other node that was there is as it was. -/
structure Grown (t t' : Tree) (parent : Nat) (f : Forest Kept) : Prop where
  size : t'.size = t.size + f.size
  old : ∀ i < t.size, t'.node i =
    if i = parent then { t.node parent with children := t.children parent ++ numbers t.size f }
    else t.node i
  carries : t'.Carries parent t.size f

/-- **Growing by a forest carries it.** The induction is on the forest: its first label is one
arrival, what is below it grows below that arrival, and the rest of the row grows beside it. -/
theorem grown_rows (f : Forest Kept) {t : Tree} {parent : Nat} (h : parent < t.size) :
    Grown t (t.grow (rows parent t.size f)) parent f := by
  induction f generalizing t parent with
  | nil =>
    refine ⟨rfl, fun i _ => ?_, trivial⟩
    split
    · subst i
      simp [grow, rows, numbers, children]
    · rfl
  | cons k below rest ihb ihr =>
    have size₁ := size_push h k.kind k.role k.start k.stop
    have node₁ := node_push h k.kind k.role k.start k.stop
    generalize ht₁ : t.push parent k.kind k.role k.start k.stop = t₁ at size₁ node₁
    obtain ⟨size₂, old₂, carries₂⟩ := @ihb t₁ t.size (by omega)
    generalize ht₂ : t₁.grow (rows t.size t₁.size below) = t₂ at size₂ old₂ carries₂
    obtain ⟨size₃, old₃, carries₃⟩ := @ihr t₂ parent (by omega)
    have hgrow : t.grow (rows parent t.size (.cons k below rest)) =
        t₂.grow (rows parent t₂.size rest) := by
      rw [grow, rows, List.foldl_cons, ht₁, ← grow, grow_append, ← size₁, ht₂, size₂]
    rw [hgrow]
    generalize t₂.grow (rows parent t₂.size rest) = t₃ at size₃ old₃ carries₃
    refine ⟨?_, fun i hi => ?_, ?_, ?_, ?_⟩
    · simp only [Forest.size]
      omega
    · rw [old₃ i (by omega)]
      by_cases hp : i = parent
      · subst hp
        have hi₂ : t₂.node i = { t.node i with children := t.children i ++ [t.size] } := by
          rw [old₂ i (by omega), if_neg (by omega), node₁, if_neg (by omega), if_pos rfl]
        rw [if_pos rfl, if_pos rfl, children, hi₂, size₂, size₁, numbers, List.append_assoc,
          List.singleton_append]
      · rw [if_neg hp, if_neg hp, old₂ i (by omega), if_neg (by omega), node₁, if_neg (by omega),
          if_neg hp]
    · rw [old₃ t.size (by omega), if_neg (by omega), old₂ t.size (by omega), if_pos rfl, children,
        node₁, if_pos rfl, size₁, List.nil_append]
    · rw [← size₁]
      refine carries₂.congr fun i h₁ h₂ => ?_
      rw [old₃ i (by omega), if_neg (by omega)]
    · rw [← size₁, ← size₂]
      exact carries₃

/-! ### Reading a carried forest -/

/-- A number in the stretch stands for a label of the forest, and what is below the label is carried
right after it. -/
theorem Carries.subtree {P : Kept → Forest Kept → Prop} {t : Tree} {parent next : Nat}
    {f : Forest Kept} (h : t.Carries parent next f) (hP : f.Every P) {i : Nat} (h₁ : next ≤ i)
    (h₂ : i < next + f.size) :
    ∃ k below above, P k below ∧
      t.node i = ⟨k.kind, k.role, k.start, k.stop, some above, numbers (i + 1) below⟩ ∧
      t.Carries i (i + 1) below := by
  induction f generalizing parent next with
  | nil =>
    simp only [Forest.size] at h₂
    omega
  | cons k below rest ihb ihr =>
    obtain ⟨here, hbelow, hrest⟩ := h
    obtain ⟨hk, hPb, hPr⟩ := hP
    simp only [Forest.size] at h₂
    by_cases heq : i = next
    · subst heq
      exact ⟨k, below, parent, hk, here, hbelow⟩
    · by_cases hlt : i < next + 1 + below.size
      · exact ihb hbelow hPb (by omega) hlt
      · exact ihr hrest hPr (by omega) (by omega)

/-- The nodes at or below the first row of a carried forest have consecutive numbers, and these are
their pre-order. -/
theorem Carries.preorder {t : Tree} {parent next : Nat} {f : Forest Kept}
    (h : t.Carries parent next f) :
    (numbers next f).flatMap t.preorder = List.range' next f.size := by
  induction f generalizing parent next with
  | nil => rfl
  | cons k below rest ihb ihr =>
    obtain ⟨here, hbelow, hrest⟩ := h
    have hchildren : t.children next = numbers (next + 1) below := by rw [children, here]
    rw [numbers, List.flatMap_cons, preorder_eq, hchildren, ihb hbelow, ihr hrest,
      List.cons_append, List.range'_append_1, Forest.size, List.range'_succ]

/-- What arrived as node `n`. The root did not arrive. -/
def rowAt? (t : Tree) (n : Nat) : Option Row :=
  (t.parent n).map fun p => ⟨p, t.kind n, t.role n, t.start n, t.stop n⟩

/-- Reading a carried forest by number gives back the rows that it arrived in. -/
theorem Carries.map_rowAt? {t : Tree} {parent next : Nat} {f : Forest Kept}
    (h : t.Carries parent next f) :
    (List.range' next f.size).map t.rowAt? = (rows parent next f).map some := by
  induction f generalizing parent next with
  | nil => rfl
  | cons k below rest ihb ihr =>
    obtain ⟨here, hbelow, hrest⟩ := h
    have hrow : t.rowAt? next = some ⟨parent, k.kind, k.role, k.start, k.stop⟩ := by
      simp only [rowAt?, Tree.parent, kind, role, start, stop, here, Option.map_some]
    rw [Forest.size, List.range'_succ, ← List.range'_append_1, List.map_cons, List.map_append,
      ihb hbelow, ihr hrest, hrow, rows, List.map_cons, List.map_append]

/-! ### Lowered trees -/

/-- The forest that the tree of a source file is grown from. -/
abbrev kept (source : Concrete.Source) : Forest Kept := project source.rootKind none source.trees

theorem ofSource_eq_grow (source : Concrete.Source) :
    ofSource source = (leaf source.name source.text .sourceFile).grow (rows root 1 (kept source)) :=
  rfl

theorem grown_ofSource (source : Concrete.Source) :
    Grown (leaf source.name source.text .sourceFile) (ofSource source) root (kept source) :=
  grown_rows (kept source)
    (Nat.zero_lt_one : root < (leaf source.name source.text .sourceFile).size)

@[simp] theorem fileName_ofSource (source : Concrete.Source) :
    (ofSource source).fileName = source.name := by
  rw [ofSource_eq_grow, (file_grow _ _).1, leaf]

@[simp] theorem text_ofSource (source : Concrete.Source) :
    (ofSource source).text = source.text := by
  rw [ofSource_eq_grow, (file_grow _ _).2, leaf]

theorem size_ofSource (source : Concrete.Source) :
    (ofSource source).size = (kept source).size + 1 :=
  (grown_ofSource source).size.trans (Nat.add_comm _ _)

theorem carries_ofSource (source : Concrete.Source) :
    (ofSource source).Carries root 1 (kept source) :=
  (grown_ofSource source).carries

/-- The root spans the whole text, and the first row of the kept nodes stands below it. -/
theorem node_root_ofSource (source : Concrete.Source) :
    (ofSource source).node root =
      ⟨.sourceFile, none, 0, Text.byteLength source.text, none, numbers 1 (kept source)⟩ :=
  (grown_ofSource source).old root Nat.zero_lt_one

theorem preorder_ofSource (source : Concrete.Source) :
    (ofSource source).preorder root = List.range (ofSource source).size := by
  have hchildren : (ofSource source).children root = numbers 1 (kept source) := by
    rw [children, node_root_ofSource]
  rw [preorder_eq, hchildren, (carries_ofSource source).preorder, size_ofSource,
    List.range_eq_range', List.range'_succ]
  rfl

/-- **A walk of a lowered tree goes by number.** -/
theorem descendants_ofSource (source : Concrete.Source) :
    (ofSource source).descendants = List.range (ofSource source).size := by
  rw [descendants_eq_take, preorder_ofSource, List.take_of_length_le (by simp)]

end Tree

end ClosureWrap
