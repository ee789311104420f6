import ClosureWrap.Proofs.Lowering.Numbering
import ClosureWrap.Proofs.Tree.Nesting

/-!
# Lowering keeps ranges nested

A concrete tree has nested ranges: below a node the ranges lie in its own, in order and without
overlap. Lowering flattens brackets into their surroundings, drops nodes, and doubles bare
parameters, and still the ranges of the lowered tree are nested. The reason is that a row of trees
is nested between two bounds, and each of these changes respects the bounds of the row in which it
happens. What the changes are is said once, by `Lowering.Reshaped`.

An identifier has nothing below it, so a search that reaches it ends there. Together this gives that
every byte of an identifier finds that identifier.

## Main definitions

* `Forest.Nested`, `Concrete.Source.Nested` — ranges nested between two bounds, and in a whole file
* `Lowering.Reshaped` — the changes that a row of concrete nodes may go through

## Main results

* `Lowering.Reshaped.nested` — a reshaped row is nested between the same bounds
* `Tree.wellNested_ofSource` — the ranges of a lowered tree are nested
* `Tree.locate?_of_identifier` — every byte of an identifier finds it
-/

namespace ClosureWrap

/-! ### Rows between two bounds -/

namespace Forest

variable {α : Type} {start stop : α → Nat}

/-- The ranges of a row lie between `lo` and `hi`, in order and without overlap, and so do, in the
range of each label, the ranges of what is below it. -/
def Nested (start stop : α → Nat) (lo hi : Nat) : Forest α → Prop
  | .nil => True
  | .cons a below rest =>
    (lo ≤ start a ∧ start a ≤ stop a ∧ stop a ≤ hi) ∧
      below.Nested start stop (start a) (stop a) ∧ rest.Nested start stop (stop a) hi

instance Nested.decidable (start stop : α → Nat) :
    (lo hi : Nat) → (f : Forest α) → Decidable (f.Nested start stop lo hi)
  | _, _, .nil => .isTrue trivial
  | lo, hi, .cons a below rest =>
    have := Nested.decidable start stop (start a) (stop a) below
    have := Nested.decidable start stop (stop a) hi rest
    inferInstanceAs (Decidable ((lo ≤ start a ∧ start a ≤ stop a ∧ stop a ≤ hi) ∧ _ ∧ _))

theorem Nested.mono {f : Forest α} {lo lo' hi : Nat} (h : f.Nested start stop lo hi)
    (hlo : lo' ≤ lo) : f.Nested start stop lo' hi := by
  cases f with
  | nil => trivial
  | cons a below rest =>
    obtain ⟨hrange, hbelow, hrest⟩ := h
    exact ⟨⟨by omega, hrange.2⟩, hbelow, hrest⟩

/-- Rows between bounds that meet make one row. -/
theorem Nested.append {f g : Forest α} {lo mid hi : Nat} (hf : f.Nested start stop lo mid)
    (hg : g.Nested start stop mid hi) (hlo : lo ≤ mid) (hhi : mid ≤ hi) :
    (f.append g).Nested start stop lo hi := by
  induction f generalizing lo with
  | nil => exact hg.mono hlo
  | cons a below rest _ ihr =>
    obtain ⟨hrange, hbelow, hrest⟩ := hf
    exact ⟨⟨by omega, by omega, by omega⟩, hbelow, ihr hrest (by omega)⟩

theorem Nested.every {f : Forest α} {lo hi : Nat} (h : f.Nested start stop lo hi) :
    f.Every fun a below => start a ≤ stop a ∧ below.Nested start stop (start a) (stop a) := by
  induction f generalizing lo hi with
  | nil => trivial
  | cons a below rest ihb ihr =>
    obtain ⟨hrange, hbelow, hrest⟩ := h
    exact ⟨⟨hrange.2.1, hbelow⟩, ihb hbelow, ihr hrest⟩

end Forest

/-- The ranges of the concrete tree are nested, and lie in the text. -/
def Concrete.Source.Nested (source : Concrete.Source) : Prop :=
  source.trees.Nested Concrete.Label.start Concrete.Label.stop 0 (Text.byteLength source.text)

instance (source : Concrete.Source) : Decidable source.Nested :=
  Forest.Nested.decidable _ _ _ _ _

namespace Lowering

/-! ### What the projection does to a row -/

/-- The changes that a row of concrete nodes may go through, one for each thing that can become of
its first node. Which of them happens depends on kinds and fields, and is left open here. -/
inductive Reshaped : Forest Concrete.Label → Forest Kept → Prop
  | nil : Reshaped .nil .nil
  /-- The first node goes with everything below it. -/
  | drop {c below rest later} : Reshaped rest later → Reshaped (.cons c below rest) later
  /-- The first node goes, and what is below it moves up. -/
  | splice {c below inner rest later} : Reshaped below inner → Reshaped rest later →
      Reshaped (.cons c below rest) (inner.append later)
  /-- The first node becomes a parameter with a name, both in its range. -/
  | bare {c below rest later} : Reshaped rest later →
      Reshaped (.cons c below rest) (.cons ⟨.parameter, some .parameter, c.start, c.stop⟩
        (.cons ⟨.identifier, some .name, c.start, c.stop⟩ .nil .nil) later)
  /-- The first node stays, without what is below it. -/
  | leaf {c below rest later kind role} : Reshaped rest later →
      Reshaped (.cons c below rest) (.cons ⟨kind, role, c.start, c.stop⟩ .nil later)
  /-- The first node stays, with what is below it. -/
  | keep {c below inner rest later kind role} : kind.isLeaf = false → Reshaped below inner →
      Reshaped rest later →
      Reshaped (.cons c below rest) (.cons ⟨kind, role, c.start, c.stop⟩ inner later)

/-- The projection only makes these changes. -/
theorem reshaped_project (parentKind : String) (given : Option Role) (f : Forest Concrete.Label) :
    Reshaped f (project parentKind given f) := by
  induction f generalizing parentKind given with
  | nil => exact .nil
  | cons c below rest ihb ihr =>
    have hlater := ihr parentKind given
    simp only [project]
    split
    · exact .drop hlater
    · split
      · exact .drop hlater
      · exact .splice (ihb _ _) hlater
      · split
        · exact .bare hlater
        · split
          · exact .leaf hlater
          · rename_i hleaf
            exact .keep (Bool.eq_false_iff.2 hleaf) (ihb _ _) hlater

/-- **A reshaped row is nested between the same bounds.** Where a node goes, the row after it is
nested from the end of that node on, hence from `lo` on; where a bracket goes, what is below it fits
between the bracket's own ends. -/
theorem Reshaped.nested {f : Forest Concrete.Label} {g : Forest Kept} (h : Reshaped f g)
    {lo hi : Nat} (hf : f.Nested Concrete.Label.start Concrete.Label.stop lo hi) :
    g.Nested Kept.start Kept.stop lo hi := by
  induction h generalizing lo hi with
  | nil => trivial
  | drop _ ihr =>
    obtain ⟨hrange, _, hrest⟩ := hf
    exact (ihr hrest).mono (by omega)
  | splice _ _ ihb ihr =>
    obtain ⟨hrange, hbelow, hrest⟩ := hf
    exact ((ihb hbelow).mono hrange.1).append (ihr hrest) (by omega) hrange.2.2
  | bare _ ihr =>
    obtain ⟨hrange, _, hrest⟩ := hf
    exact ⟨hrange, ⟨⟨Nat.le_refl _, hrange.2.1, Nat.le_refl _⟩, trivial, trivial⟩, ihr hrest⟩
  | leaf _ ihr =>
    obtain ⟨hrange, _, hrest⟩ := hf
    exact ⟨hrange, trivial, ihr hrest⟩
  | keep _ _ _ ihb ihr =>
    obtain ⟨hrange, hbelow, hrest⟩ := hf
    exact ⟨hrange, ihb hbelow, ihr hrest⟩

/-- Nothing is kept below a leaf. -/
theorem Reshaped.every_leaf {f : Forest Concrete.Label} {g : Forest Kept} (h : Reshaped f g) :
    g.Every fun k below => k.kind.isLeaf = true → below = .nil := by
  induction h with
  | nil => trivial
  | drop _ ihr => exact ihr
  | splice _ _ ihb ihr => exact ihb.append ihr
  | bare _ ihr => exact ⟨fun h => (by cases h), ⟨fun _ => rfl, trivial, trivial⟩, ihr⟩
  | leaf _ ihr => exact ⟨fun _ => rfl, trivial, ihr⟩
  | keep hkind _ _ ihb ihr =>
    refine ⟨fun hleaf => ?_, ihb, ihr⟩
    rw [hkind] at hleaf
    cases hleaf

end Lowering

namespace Tree

open Lowering

/-! ### Lowered trees -/

/-- The first row of a carried forest, seen as a list of siblings. -/
theorem Carries.siblings {t : Tree} {parent next lo hi : Nat} {f : Forest Kept}
    (h : t.Carries parent next f) (hf : f.Nested Kept.start Kept.stop lo hi) :
    (∀ c ∈ numbers next f, lo ≤ t.start c ∧ t.start c ≤ t.stop c ∧ t.stop c ≤ hi) ∧
      (numbers next f).Pairwise fun a b => t.stop a ≤ t.start b := by
  induction f generalizing parent next lo hi with
  | nil => exact ⟨fun c hc => (by cases hc), .nil⟩
  | cons k below rest _ ihr =>
    obtain ⟨here, _, hrest⟩ := h
    obtain ⟨hrange, _, hnested⟩ := hf
    obtain ⟨hbounds, hpairs⟩ := ihr hrest hnested
    have hstart : t.start next = k.start := by rw [start, here]
    have hstop : t.stop next = k.stop := by rw [stop, here]
    refine ⟨fun c hc => ?_, List.pairwise_cons.2 ⟨fun c hc => ?_, hpairs⟩⟩
    · rcases List.mem_cons.1 hc with rfl | hc
      · omega
      · have := hbounds c hc
        omega
    · have := hbounds c hc
      omega

theorem nestedAt_of_node {t : Tree} {n lo hi : Nat} {kind : Kind} {role : Option Role}
    {above : Option Nat} {below : Forest Kept}
    (hnode : t.node n = ⟨kind, role, lo, hi, above, numbers (n + 1) below⟩) (hle : lo ≤ hi)
    (hbelow : t.Carries n (n + 1) below) (hnested : below.Nested Kept.start Kept.stop lo hi) :
    t.NestedAt n := by
  have hstart : t.start n = lo := by rw [start, hnode]
  have hstop : t.stop n = hi := by rw [stop, hnode]
  have hchildren : t.children n = numbers (n + 1) below := by rw [children, hnode]
  obtain ⟨hbounds, hpairs⟩ := hbelow.siblings hnested
  refine ⟨by omega, fun c hc => ?_, by rw [hchildren]; exact hpairs⟩
  rw [hchildren] at hc
  have := hbounds c hc
  omega

/-- **The ranges of a lowered tree are nested** if those of the concrete tree are. -/
theorem wellNested_ofSource {source : Concrete.Source} (h : source.Nested) :
    (ofSource source).WellNested := by
  have hkept : (kept source).Nested Kept.start Kept.stop 0 (Text.byteLength source.text) :=
    (reshaped_project _ _ _).nested h
  have hcarries := carries_ofSource source
  intro n hn
  rcases Nat.eq_zero_or_pos n with rfl | hpos
  · exact nestedAt_of_node (node_root_ofSource source) (Nat.zero_le _) hcarries hkept
  · rw [size_ofSource] at hn
    obtain ⟨k, below, above, ⟨hle, hnested⟩, hnode, hbelow⟩ :=
      hcarries.subtree hkept.every hpos (by omega)
    exact nestedAt_of_node hnode hle hbelow hnested

/-- A leaf of a lowered tree has no children. -/
theorem children_eq_nil_of_isLeaf {source : Concrete.Source} {n : Nat}
    (h : ((ofSource source).kind n).isLeaf = true) : (ofSource source).children n = [] := by
  rcases Nat.lt_or_ge n (ofSource source).size with hn | hn
  · rcases Nat.eq_zero_or_pos n with rfl | hpos
    · rw [kind, show (0 : Nat) = root from rfl, node_root_ofSource] at h
      cases h
    · rw [size_ofSource] at hn
      obtain ⟨k, below, above, hleaf, hnode, _⟩ :=
        (carries_ofSource source).subtree (reshaped_project _ _ _).every_leaf hpos (by omega)
      rw [kind, hnode] at h
      rw [children, hnode, hleaf h]
      rfl
  · rw [children_eq, childrenIn, Array.getElem?_eq_none hn]
    rfl

/-- Every byte of an identifier finds that identifier. -/
theorem locate?_of_identifier {source : Concrete.Source} (h : source.Nested) {n offset : Nat}
    (hkind : (ofSource source).kind n = .identifier) (hstart : (ofSource source).start n ≤ offset)
    (hstop : offset < (ofSource source).stop n) :
    (ofSource source).locate? root offset = some n := by
  exact locate?_leaf (wellNested_ofSource h).separated (lt_size_of_identifier hkind)
    (children_eq_nil_of_isLeaf (by rw [hkind]; rfl)) (contains_iff.2 ⟨hstart, hstop⟩)

end Tree

end ClosureWrap
