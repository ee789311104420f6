import ClosureWrap.Proofs.Lowering.Nesting
import ClosureWrap.Proofs.Text.Boundary

/-!
# Every node has a text

The text of a node is the slice of the file between its ends, and it is empty if there is no such
slice. In the tree of a file whose concrete ranges are nested and end between characters there
always is one: the ranges of a lowered tree are concrete ranges, apart from that of the root, which
is everything.

## Main definitions

* `Concrete.Source.WellFormed` — the concrete tree has nested ranges that end between characters

## Main results

* `Lowering.Reshaped.every_range` — the ranges that are kept are concrete ranges
* `Tree.range_ofSource` — what holds of all concrete ranges holds below the root of a lowered tree
* `Tree.slice?_ofSource` — every node of a lowered tree has a text
-/

namespace ClosureWrap

instance Forest.Every.decidable {α : Type} (P : α → Forest α → Prop)
    [∀ a below, Decidable (P a below)] : (f : Forest α) → Decidable (f.Every P)
  | .nil => .isTrue trivial
  | .cons a below rest =>
    have := Every.decidable P below
    have := Every.decidable P rest
    inferInstanceAs (Decidable (P a below ∧ _ ∧ _))

/-- What a parser promises of a concrete tree: ranges are nested, and end between characters. -/
structure Concrete.Source.WellFormed (source : Concrete.Source) : Prop where
  nested : source.Nested
  boundaries : source.trees.Every fun c _ =>
    Text.isBoundary source.text c.start ∧ Text.isBoundary source.text c.stop

instance (source : Concrete.Source) : Decidable source.WellFormed :=
  decidable_of_iff (source.Nested ∧ source.trees.Every fun c _ =>
      Text.isBoundary source.text c.start ∧ Text.isBoundary source.text c.stop)
    ⟨fun h => ⟨h.1, h.2⟩, fun h => ⟨h.nested, h.boundaries⟩⟩

/-- The ranges that are kept are ranges of the concrete row. -/
theorem Lowering.Reshaped.every_range {f : Forest Concrete.Label} {g : Forest Kept}
    (h : Reshaped f g) {P : Nat → Nat → Prop} (hf : f.Every fun c _ => P c.start c.stop) :
    g.Every fun k _ => P k.start k.stop := by
  induction h with
  | nil => trivial
  | drop _ ihr => exact ihr hf.2.2
  | splice _ _ ihb ihr => exact (ihb hf.2.1).append (ihr hf.2.2)
  | bare _ ihr => exact ⟨hf.1, ⟨hf.1, trivial, trivial⟩, ihr hf.2.2⟩
  | leaf _ ihr => exact ⟨hf.1, trivial, ihr hf.2.2⟩
  | keep _ _ _ ihb ihr => exact ⟨hf.1, ihb hf.2.1, ihr hf.2.2⟩

namespace Tree

open Lowering

/-- What holds of all concrete ranges holds of the ranges below the root of a lowered tree. -/
theorem range_ofSource {source : Concrete.Source} {P : Nat → Nat → Prop}
    (h : source.trees.Every fun c _ => P c.start c.stop) {n : Nat} (hpos : 0 < n)
    (hn : n < (ofSource source).size) :
    P ((ofSource source).start n) ((ofSource source).stop n) := by
  rw [size_ofSource] at hn
  have hkept : (kept source).Every fun k _ => P k.start k.stop :=
    (reshaped_project _ _ _).every_range h
  obtain ⟨k, below, above, hends, hnode, _⟩ :=
    (carries_ofSource source).subtree hkept hpos (by omega)
  rw [start, stop, hnode]
  exact hends

/-- The ends of a node of a lowered tree are boundaries. -/
theorem boundaries_ofSource {source : Concrete.Source} (h : source.WellFormed) {n : Nat}
    (hn : n < (ofSource source).size) :
    Text.isBoundary source.text ((ofSource source).start n) ∧
      Text.isBoundary source.text ((ofSource source).stop n) := by
  rcases Nat.eq_zero_or_pos n with rfl | hpos
  · rw [start, stop, show (0 : Nat) = root from rfl, node_root_ofSource]
    exact ⟨String.Pos.Raw.isValid_eq_true_iff.2 String.Pos.Raw.isValid_zero,
      String.Pos.Raw.isValid_eq_true_iff.2 String.Pos.Raw.isValid_rawEndPos⟩
  · exact range_ofSource
      (P := fun start stop => Text.isBoundary source.text start ∧ Text.isBoundary source.text stop)
      h.boundaries hpos hn

/-- **Every node of a lowered tree has a text**: there is a slice of the file between its ends. -/
theorem slice?_ofSource {source : Concrete.Source} (h : source.WellFormed) {n : Nat}
    (hn : n < (ofSource source).size) :
    Text.slice? source.text ((ofSource source).start n) ((ofSource source).stop n) =
      some ((ofSource source).textOf n) := by
  obtain ⟨hstart, hstop⟩ := boundaries_ofSource h hn
  have hsome := Text.isSome_slice?.2
    ⟨(wellNested_ofSource h.nested n hn).start_le_stop, hstart, hstop⟩
  obtain ⟨text, htext⟩ := Option.isSome_iff_exists.1 hsome
  rw [textOf, text_ofSource, htext, Option.getD_some]

/-- The length of a node is that of its text. -/
theorem stop_eq_add_byteLength {source : Concrete.Source} (h : source.WellFormed) {n : Nat}
    (hn : n < (ofSource source).size) :
    (ofSource source).stop n =
      (ofSource source).start n + Text.byteLength ((ofSource source).textOf n) := by
  obtain ⟨before, after, -, hstart, hstop⟩ := Text.slice?_eq_some_iff.1 (slice?_ofSource h hn)
  rw [← hstart, ← hstop, Text.byteLength]

/-- Different children of a node have no byte in common. -/
theorem separated_ofSource {source : Concrete.Source} (h : source.WellFormed) :
    (ofSource source).Separated :=
  (wellNested_ofSource h.nested).separated

end Tree

end ClosureWrap
