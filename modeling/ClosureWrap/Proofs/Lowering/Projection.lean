import ClosureWrap.Proofs.Lowering.Numbering

/-!
# Lowering is a projection

Lowering walks the concrete tree and skips, splices, stops and expands as it goes. Here the outcome
is described without a walk. Every node of the concrete tree is looked at on its own, together with
the nodes that it stands below: that decides whether it is seen at all, whether it is kept, which
node of the lowered tree it stands below, and in which role. The lowered nodes are then those of the
kept concrete nodes, in pre-order.

## The number of a node

A kept concrete node has the number that is reached by counting the lowered nodes of all concrete
nodes before it. The count never refers to the walk, and it is what ties the parent of a lowered
node to a concrete node: `parentNumber` looks for the nearest kept node above and takes its number.

## Main definitions

* `Forest.Occurrence`, `Forest.occurrences` — a label where it stands, and all of them in pre-order
* `Projection.visible`, `Projection.emitted` — which concrete nodes are seen, and which are kept
* `Projection.role` — the role of a kept node
* `Projection.rowsOf` — the lowered nodes of a concrete node

## Main results

* `Projection.rows_project` — the walk produces the lowered nodes of the occurrences, one after
  another
* `Projection.ofSource_eq_projection` — the nodes of a lowered tree, by number
-/

namespace ClosureWrap

/-! ### Labels where they stand -/

namespace Forest

variable {α : Type}

/-- A label where it stands in a forest. -/
structure Occurrence (α : Type) where
  /-- The place in pre-order. -/
  place : Nat
  /-- The label. -/
  label : α
  /-- The labels above with their places, nearest first. -/
  above : List (Nat × α)

/-- The labels of a row of trees that stands below `above`, in pre-order, when `next` is the next
place. -/
def occurrences (above : List (Nat × α)) (next : Nat) : Forest α → List (Occurrence α)
  | .nil => []
  | .cons a below rest =>
    ⟨next, a, above⟩ :: (occurrences ((next, a) :: above) (next + 1) below ++
      occurrences above (next + 1 + below.size) rest)

theorem map_place_occurrences (f : Forest α) (above : List (Nat × α)) (next : Nat) :
    (f.occurrences above next).map Occurrence.place = List.range' next f.size := by
  induction f generalizing above next with
  | nil => rfl
  | cons a below rest ihb ihr =>
    rw [occurrences, List.map_cons, List.map_append, ihb, ihr, List.range'_append_1, size,
      List.range'_succ]

theorem length_occurrences (f : Forest α) (above : List (Nat × α)) (next : Nat) :
    (f.occurrences above next).length = f.size := by
  have h := congrArg List.length (map_place_occurrences f above next)
  simpa using h

/-- The occurrence at a place is the one that is met there. -/
theorem getElem?_occurrences {f : Forest α} {o : Occurrence α} (h : o ∈ f.occurrences [] 0) :
    (f.occurrences [] 0)[o.place]? = some o := by
  obtain ⟨i, hi, rfl⟩ := List.mem_iff_getElem.1 h
  have hplace : ((f.occurrences [] 0).map Occurrence.place)[i]? = some i := by
    rw [map_place_occurrences, List.getElem?_range' (by rwa [length_occurrences] at hi)]
    simp
  rw [List.getElem?_map, List.getElem?_eq_getElem hi] at hplace
  rw [Option.some.inj hplace, List.getElem?_eq_getElem hi]

end Forest

/-! ### Tables of kinds and fields -/

namespace Lowering

theorem mem_of_lookup_eq_some {β : Type} {table : List (String × β)} {key : String} {value : β}
    (h : table.lookup key = some value) : (key, value) ∈ table := by
  obtain ⟨before, after, hsplit, -⟩ := List.lookup_eq_some_iff.1 h
  rw [hsplit]
  exact List.mem_append_right _ List.mem_cons_self

/-- Roles other than that of a type are meant by the same fields in every node. -/
theorem mem_fieldRoles_of_roleOf? {field parentKind : String} {r : Role}
    (h : roleOf? field parentKind = some r) (hr : r ≠ .type) : (field, r) ∈ fieldRoles := by
  unfold roleOf? at h
  split at h
  · exact absurd (Option.some.inj h).symm hr
  · exact mem_of_lookup_eq_some h

end Lowering

namespace Projection

open Lowering Concrete Forest

/-! ### What becomes of a concrete node -/

/-- The kind that a concrete node is given, if it is given one. -/
def classified (c : Label) : Option Kind :=
  match treatment c.kind c.field with
  | .keep kind => some kind
  | _ => none

/-- The kinds below which nothing is looked at. -/
def leafKinds : List Kind := [.identifier, .stringLiteral, .numericLiteral, .keywordType]

/-- The concrete kinds that only bracket what is below them. -/
def bracketKinds : List String :=
  ["arguments", "formal_parameters", "type_annotation", "ambient_declaration"]

/-- A concrete node hides what is below it if it is a comment or becomes a leaf. -/
def hides (c : Label) : Bool :=
  c.kind == "comment" || (classified c).any fun kind => leafKinds.contains kind

/-- A node is visible if it is named and really there, and so are all the nodes above it, none of
which hides what is below: the nearest one is visible itself and does not hide anything. -/
def visible (c : Label) : List (Nat × Label) → Bool
  | [] => c.named && !c.missing
  | (_, a) :: above => c.named && !c.missing && (visible a above && !hides a)

/-- A visible node is kept unless it is a comment or only brackets. -/
def emitted (c : Label) (above : List (Nat × Label)) : Bool :=
  visible c above && c.kind != "comment" && !bracketKinds.contains c.kind

/-- A bare identifier in the place of a whole parameter list. -/
def isBareParameter (c : Label) : Bool :=
  c.field == some "parameter" && classified c == some .identifier

/-- The number of lowered nodes of a concrete node. -/
def width (o : Occurrence Label) : Nat :=
  if emitted o.label o.above then if isBareParameter o.label then 2 else 1 else 0

/-- The number of the lowered node of the concrete node at a place: one more than the lowered nodes
before it, the root being number zero. -/
def numberAt (trees : Forest Label) (place : Nat) : Nat :=
  ((trees.occurrences [] 0).take place).foldl (fun number o => number + width o) 1

/-- The number of the nearest kept node above, or that of the root. -/
def parentNumber (number : Nat → Nat) : List (Nat × Label) → Nat
  | [] => Tree.root
  | (place, a) :: above => if emitted a above then number place else parentNumber number above

/-- The concrete kind of the node right above. -/
def kindAbove (rootKind : String) : List (Nat × Label) → String
  | [] => rootKind
  | (_, a) :: _ => a.kind

/-- The role that the bracketing nodes right above give, if there are any. The innermost argument or
parameter list decides; other brackets hand on the role in which they stand. -/
def givenRole (rootKind : String) : List (Nat × Label) → Option Role
  | [] => none
  | (_, a) :: above =>
    if bracketKinds.contains a.kind then
      splicedRole a.kind
        (givenRole rootKind above <|> a.field.bind fun f => roleOf? f (kindAbove rootKind above))
    else none

/-- The role of a kept node. -/
def role (rootKind : String) (c : Label) (above : List (Nat × Label)) : Option Role :=
  givenRole rootKind above <|> c.field.bind fun f => roleOf? f (kindAbove rootKind above)

/-- The lowered nodes of a concrete node: none if it is not kept, a parameter and its name for a
bare parameter, and else a single node of the kind that it is given. -/
def rowsOf (rootKind : String) (number : Nat → Nat) (o : Occurrence Label) : List Tree.Row :=
  if emitted o.label o.above then
    if isBareParameter o.label then
      [⟨parentNumber number o.above, .parameter, some .parameter, o.label.start, o.label.stop⟩,
        ⟨number o.place, .identifier, some .name, o.label.start, o.label.stop⟩]
    else
      [⟨parentNumber number o.above, (classified o.label).getD .unknown,
        role rootKind o.label o.above, o.label.start, o.label.stop⟩]
  else []

/-! ### Hidden nodes -/

/-- None of the nodes above hides what is below. -/
def reachable : List (Nat × Label) → Bool
  | [] => true
  | (_, a) :: above => visible a above && !hides a

theorem visible_eq (c : Label) (above : List (Nat × Label)) :
    visible c above = (c.named && !c.missing && reachable above) := by
  cases above with
  | nil => simp [visible, reachable]
  | cons a above => rfl

theorem reachable_cons {c : Label} {above : List (Nat × Label)} {place : Nat} :
    reachable ((place, c) :: above) = true ↔
      c.named = true ∧ c.missing = false ∧ reachable above = true ∧ hides c = false := by
  rw [reachable, visible_eq]
  simp [and_assoc]

theorem emitted_eq_false_of_unreachable {c : Label} {above : List (Nat × Label)}
    (h : reachable above = false) : emitted c above = false := by
  simp [emitted, visible_eq, h]

/-- What is below a hidden row gives no lowered nodes: a place that is not reachable stays so
further down. -/
theorem flatMap_rowsOf_of_unreachable (rootKind : String) (number : Nat → Nat) (f : Forest Label)
    {above : List (Nat × Label)} (h : reachable above = false) (next : Nat) :
    (f.occurrences above next).flatMap (rowsOf rootKind number) = [] := by
  induction f generalizing above next with
  | nil => rfl
  | cons c below rest ihb ihr =>
    have hbelow : reachable ((next, c) :: above) = false := by
      rw [Bool.eq_false_iff, ne_eq, reachable_cons]
      rintro ⟨-, -, habove, -⟩
      rw [h] at habove
      cases habove
    rw [occurrences, List.flatMap_cons, List.flatMap_append, ihb hbelow, ihr h, rowsOf,
      emitted_eq_false_of_unreachable h]
    rfl

/-! ### Counting lowered nodes -/

theorem length_rowsOf (rootKind : String) (number : Nat → Nat) (o : Occurrence Label) :
    (rowsOf rootKind number o).length = width o := by
  unfold rowsOf width
  split
  · split <;> rfl
  · rfl

/-- `number` counts the lowered nodes of the listed occurrences. -/
def Counts (number : Nat → Nat) (os : List (Occurrence Label)) : Prop :=
  ∀ o ∈ os, number (o.place + 1) = number o.place + width o

theorem counts_numberAt (trees : Forest Label) :
    Counts (numberAt trees) (trees.occurrences [] 0) := by
  intro o ho
  have hget := getElem?_occurrences ho
  have htake : (trees.occurrences [] 0).take (o.place + 1) =
      (trees.occurrences [] 0).take o.place ++ [o] := by
    rw [List.take_add_one, hget]
    rfl
  rw [numberAt, htake, List.foldl_append, List.foldl_cons, List.foldl_nil, ← numberAt]

/-- Over a whole row of trees the count grows by the number of lowered nodes. -/
theorem Counts.add_size {number : Nat → Nat} {f : Forest Label} {above : List (Nat × Label)}
    {next : Nat} (h : Counts number (f.occurrences above next)) (rootKind : String) :
    number (next + f.size) =
      number next + ((f.occurrences above next).flatMap (rowsOf rootKind number)).length := by
  induction f generalizing above next with
  | nil => rfl
  | cons c below rest ihb ihr =>
    have hhere : number (next + 1) = number next + width ⟨next, c, above⟩ :=
      h ⟨next, c, above⟩ (by simp [occurrences])
    have hbelow : number (next + 1 + below.size) = number (next + 1) +
        ((below.occurrences ((next, c) :: above) (next + 1)).flatMap
          (rowsOf rootKind number)).length := ihb fun o ho => h o (by simp [occurrences, ho])
    have hrest : number (next + 1 + below.size + rest.size) = number (next + 1 + below.size) +
        ((rest.occurrences above (next + 1 + below.size)).flatMap
          (rowsOf rootKind number)).length := ihr fun o ho => h o (by simp [occurrences, ho])
    rw [occurrences, List.flatMap_cons, List.flatMap_append, List.length_append,
      List.length_append, length_rowsOf, size]
    rw [show next + (below.size + rest.size + 1) = next + 1 + below.size + rest.size by omega]
    omega

/-! ### The walk -/

/-- The three treatments, told from the concrete kind alone. -/
theorem treatment_cases (c : Label) :
    (treatment c.kind c.field = .skip ∧ c.kind = "comment") ∨
      (treatment c.kind c.field = .splice ∧ c.kind ≠ "comment" ∧ c.kind ∈ bracketKinds) ∨
      ∃ kind, treatment c.kind c.field = .keep kind ∧ c.kind ≠ "comment" ∧
        c.kind ∉ bracketKinds := by
  unfold treatment
  by_cases hcomment : c.kind = "comment"
  · exact .inl ⟨if_pos hcomment, hcomment⟩
  · rw [if_neg hcomment]
    by_cases hbracket : c.kind ∈ splicedKinds
    · exact .inr (.inl ⟨if_pos hbracket, hcomment, hbracket⟩)
    · rw [if_neg hbracket]
      refine .inr (.inr ?_)
      split
      · exact ⟨_, rfl, hcomment, hbracket⟩
      · exact ⟨_, rfl, hcomment, hbracket⟩

theorem length_rows (parent next : Nat) (f : Forest Kept) :
    (rows parent next f).length = f.size := by
  induction f generalizing parent next with
  | nil => rfl
  | cons k below rest ihb ihr =>
    simp only [rows, List.length_cons, List.length_append, ihb, ihr, Forest.size]

section Step

variable {rootKind : String} {number : Nat → Nat} {c : Label} {above : List (Nat × Label)}
  {below rest : Forest Label} {next : Nat} {parentKind : String} {given : Option Role}

/-- Where a node hides what is below it, the count passes over all of that. -/
theorem Counts.add_size_of_unreachable
    (hcount : Counts number (below.occurrences ((next, c) :: above) (next + 1)))
    (hhere : number (next + 1) = number next + width ⟨next, c, above⟩)
    (h : reachable ((next, c) :: above) = false) (rootKind : String) :
    number (next + 1 + below.size) = number next + width ⟨next, c, above⟩ := by
  rw [hcount.add_size rootKind, flatMap_rowsOf_of_unreachable rootKind number below h,
    List.length_nil, hhere, Nat.add_zero]

theorem width_eq_zero (h : emitted c above = false) : width ⟨next, c, above⟩ = 0 := by
  simp [width, h]

theorem rowsOf_eq_nil (h : emitted c above = false) :
    rowsOf rootKind number ⟨next, c, above⟩ = [] := by
  simp [rowsOf, h]

theorem project_absent (h : ¬(c.named = true ∧ c.missing = false)) :
    project parentKind given (.cons c below rest) = project parentKind given rest := by
  rw [project, if_pos]
  cases hn : c.named <;> cases hm : c.missing <;> simp_all

theorem project_skip (h : treatment c.kind c.field = .skip) :
    project parentKind given (.cons c below rest) = project parentKind given rest := by
  rw [project, h]
  split <;> rfl

theorem project_splice (hnamed : c.named = true) (hmissing : c.missing = false)
    (h : treatment c.kind c.field = .splice) :
    project parentKind given (.cons c below rest) =
      (project c.kind (splicedRole c.kind (given <|> c.field.bind fun f => roleOf? f parentKind))
        below).append (project parentKind given rest) := by
  simp [project, hnamed, hmissing, h]

theorem project_bare (hnamed : c.named = true) (hmissing : c.missing = false)
    (hfield : c.field = some "parameter") (h : treatment c.kind c.field = .keep .identifier) :
    project parentKind given (.cons c below rest) =
      .cons ⟨.parameter, some .parameter, c.start, c.stop⟩
        (.cons ⟨.identifier, some .name, c.start, c.stop⟩ .nil .nil)
        (project parentKind given rest) := by
  rw [project, h, if_neg (by simp [hnamed, hmissing])]
  exact if_pos ⟨hfield, rfl⟩

theorem project_keep {kind : Kind} (hnamed : c.named = true) (hmissing : c.missing = false)
    (h : treatment c.kind c.field = .keep kind)
    (hbare : ¬(c.field = some "parameter" ∧ kind = .identifier)) :
    project parentKind given (.cons c below rest) =
      .cons ⟨kind, given <|> c.field.bind fun f => roleOf? f parentKind, c.start, c.stop⟩
        (if kind.isLeaf then .nil else project c.kind none below)
        (project parentKind given rest) := by
  rw [project, h, if_neg (by simp [hnamed, hmissing])]
  exact if_neg hbare

/-- The count over what is below a node, once the walk below it is known. -/
theorem Counts.add_size_of_rows {parent : Nat} {kept : Forest Kept}
    (hcount : Counts number (below.occurrences ((next, c) :: above) (next + 1)))
    (hrows : rows parent (number (next + 1)) kept =
      (below.occurrences ((next, c) :: above) (next + 1)).flatMap (rowsOf rootKind number)) :
    number (next + 1 + below.size) = number (next + 1) + kept.size := by
  rw [hcount.add_size rootKind, ← hrows, length_rows]

end Step

/-! Each treatment is a step of the walk. A step says what the first tree of a row gives, before the
rows of the trees after it; `ih` is what is known about the walk below that tree. -/

section Walk

variable {rootKind : String} {number : Nat → Nat} {c : Label} {above : List (Nat × Label)}
  {below rest : Forest Label} {next : Nat}

/-- What the walk of a whole row gives, from what its first tree gives. -/
def Walks (rootKind : String) (number : Nat → Nat) (above : List (Nat × Label)) (next : Nat)
    (c : Label) (below rest : Forest Label) : Prop :=
  rows (parentNumber number above) (number next)
      (project (kindAbove rootKind above) (givenRole rootKind above) (.cons c below rest)) =
    rowsOf rootKind number ⟨next, c, above⟩ ++
      ((below.occurrences ((next, c) :: above) (next + 1)).flatMap (rowsOf rootKind number) ++
        rows (parentNumber number above) (number (next + 1 + below.size))
          (project (kindAbove rootKind above) (givenRole rootKind above) rest))

/-- A node that gives nothing and hides what is below it is passed over. -/
theorem walks_of_hidden
    (hhere : number (next + 1) = number next + width ⟨next, c, above⟩)
    (hcount : Counts number (below.occurrences ((next, c) :: above) (next + 1)))
    (hproject : ∀ parentKind given, project parentKind given (.cons c below rest) =
      project parentKind given rest)
    (hemitted : emitted c above = false) (hbelow : reachable ((next, c) :: above) = false) :
    Walks rootKind number above next c below rest := by
  rw [Walks, hproject, rowsOf_eq_nil hemitted, flatMap_rowsOf_of_unreachable _ _ _ hbelow,
    hcount.add_size_of_unreachable hhere hbelow rootKind, width_eq_zero hemitted]
  rfl

/-- A bracketing node gives nothing itself, and what is below it arrives in its place. -/
theorem walks_of_splice
    (hhere : number (next + 1) = number next + width ⟨next, c, above⟩)
    (hcount : Counts number (below.occurrences ((next, c) :: above) (next + 1)))
    (hnamed : c.named = true) (hmissing : c.missing = false)
    (htreat : treatment c.kind c.field = .splice) (hbracket : c.kind ∈ bracketKinds)
    (ih : rows (parentNumber number ((next, c) :: above)) (number (next + 1))
        (project (kindAbove rootKind ((next, c) :: above))
          (givenRole rootKind ((next, c) :: above)) below) =
      (below.occurrences ((next, c) :: above) (next + 1)).flatMap (rowsOf rootKind number)) :
    Walks rootKind number above next c below rest := by
  have hemitted : emitted c above = false := by simp [emitted, hbracket]
  have hgiven : givenRole rootKind ((next, c) :: above) = splicedRole c.kind
      (givenRole rootKind above <|>
        c.field.bind fun f => roleOf? f (kindAbove rootKind above)) := by
    simp [givenRole, hbracket]
  have hnext : number (next + 1) = number next := by
    rw [hhere, width_eq_zero hemitted, Nat.add_zero]
  have hsize := hcount.add_size_of_rows ih
  rw [parentNumber, hemitted, if_neg Bool.false_ne_true, kindAbove, hgiven, hnext] at ih
  rw [Walks, project_splice hnamed hmissing htreat, rows_append, rowsOf_eq_nil hemitted,
    List.nil_append, ih, hsize, hnext, kindAbove, hgiven]

/-- A bare parameter gives two nodes, and nothing below it is looked at. -/
theorem walks_of_bare
    (hhere : number (next + 1) = number next + width ⟨next, c, above⟩)
    (hcount : Counts number (below.occurrences ((next, c) :: above) (next + 1)))
    (hnamed : c.named = true) (hmissing : c.missing = false) (hfield : c.field = some "parameter")
    (htreat : treatment c.kind c.field = .keep .identifier) (hemitted : emitted c above = true) :
    Walks rootKind number above next c below rest := by
  have hclass : classified c = some .identifier := by simp [classified, htreat]
  have hbare : isBareParameter c = true := by simp [isBareParameter, hfield, hclass]
  have hbelow : reachable ((next, c) :: above) = false := by
    simp [reachable, hides, hclass, leafKinds]
  have hnext := hcount.add_size_of_unreachable hhere hbelow rootKind
  rw [Walks, project_bare hnamed hmissing hfield htreat, rows, rows, rows, rows,
    flatMap_rowsOf_of_unreachable _ _ _ hbelow, hnext]
  simp [rowsOf, width, hemitted, hbare, Forest.size]

/-- Any other node that is kept gives one node, and what is below it stands below that node, unless
the node is a leaf. -/
theorem walks_of_keep {kind : Kind}
    (hhere : number (next + 1) = number next + width ⟨next, c, above⟩)
    (hcount : Counts number (below.occurrences ((next, c) :: above) (next + 1)))
    (hvisible : visible c above = true) (hnamed : c.named = true) (hmissing : c.missing = false)
    (htreat : treatment c.kind c.field = .keep kind)
    (hbare : ¬(c.field = some "parameter" ∧ kind = .identifier)) (hcomment : c.kind ≠ "comment")
    (hbracket : c.kind ∉ bracketKinds)
    (ih : reachable ((next, c) :: above) = true →
      rows (parentNumber number ((next, c) :: above)) (number (next + 1))
          (project (kindAbove rootKind ((next, c) :: above))
            (givenRole rootKind ((next, c) :: above)) below) =
        (below.occurrences ((next, c) :: above) (next + 1)).flatMap (rowsOf rootKind number)) :
    Walks rootKind number above next c below rest := by
  have hemitted : emitted c above = true := by simp [emitted, hvisible, hcomment, hbracket]
  have hclass : classified c = some kind := by simp [classified, htreat]
  have hbareC : isBareParameter c = false := by
    rw [Bool.eq_false_iff]
    simpa [isBareParameter, hclass] using hbare
  have hhides : hides c = kind.isLeaf := by
    have hkind : kind.isLeaf = leafKinds.contains kind := by cases kind <;> rfl
    simp [hides, hcomment, hclass, hkind]
  rw [Walks, project_keep hnamed hmissing htreat hbare, rows]
  by_cases hleaf : kind.isLeaf = true
  · have hbelow : reachable ((next, c) :: above) = false := by simp [reachable, hhides, hleaf]
    have hnext := hcount.add_size_of_unreachable hhere hbelow rootKind
    rw [if_pos hleaf, flatMap_rowsOf_of_unreachable _ _ _ hbelow, hnext, rows]
    simp [rowsOf, width, hemitted, hbareC, hclass, role, Forest.size]
  · have hbelow : reachable ((next, c) :: above) = true := by
      simp [reachable, hvisible, hhides, hleaf]
    have hgiven : givenRole rootKind ((next, c) :: above) = none := by simp [givenRole, hbracket]
    have hwidth : width ⟨next, c, above⟩ = 1 := by simp [width, hemitted, hbareC]
    have hrows := ih hbelow
    have hsize := hcount.add_size_of_rows hrows
    rw [parentNumber, if_pos hemitted, kindAbove, hgiven, hhere, hwidth] at hrows
    rw [if_neg hleaf, hrows, hsize, hhere, hwidth, kindAbove, hgiven]
    simp [rowsOf, hemitted, hbareC, hclass, role]

end Walk

/-- **The walk produces the lowered nodes of the occurrences, one after another.** The induction is
on the concrete forest. It is stated for a row that can be reached, since a hidden one is never
walked; the role and the concrete kind that the walk carries along are those that the nodes above
decide. -/
theorem rows_project {rootKind : String} {number : Nat → Nat} (f : Forest Label)
    {above : List (Nat × Label)} {next : Nat} (hreach : reachable above = true)
    (hcount : Counts number (f.occurrences above next)) :
    rows (parentNumber number above) (number next)
        (project (kindAbove rootKind above) (givenRole rootKind above) f) =
      (f.occurrences above next).flatMap (rowsOf rootKind number) := by
  induction f generalizing above next with
  | nil => rfl
  | cons c below rest ihb ihr =>
    have hhere : number (next + 1) = number next + width ⟨next, c, above⟩ :=
      hcount ⟨next, c, above⟩ (by simp [occurrences])
    have hcountBelow : Counts number (below.occurrences ((next, c) :: above) (next + 1)) :=
      fun o ho => hcount o (by simp [occurrences, ho])
    have hcountRest : Counts number (rest.occurrences above (next + 1 + below.size)) :=
      fun o ho => hcount o (by simp [occurrences, ho])
    have hrest := ihr hreach hcountRest
    rw [occurrences, List.flatMap_cons, List.flatMap_append, ← hrest]
    by_cases hthere : c.named = true ∧ c.missing = false
    · obtain ⟨hnamed, hmissing⟩ := hthere
      have hvisible : visible c above = true := by simp [visible_eq, hnamed, hmissing, hreach]
      have ih (hbelow : reachable ((next, c) :: above) = true) := ihb hbelow hcountBelow
      rcases treatment_cases c with
        ⟨htreat, hcomment⟩ | ⟨htreat, hcomment, hbracket⟩ | ⟨kind, htreat, hcomment, hbracket⟩
      · refine walks_of_hidden hhere hcountBelow (fun _ _ => project_skip htreat) ?_ ?_
        · simp [emitted, hcomment]
        · simp [reachable, hides, hcomment]
      · refine walks_of_splice hhere hcountBelow hnamed hmissing htreat hbracket (ih ?_)
        simp [reachable, hvisible, hides, hcomment, classified, htreat]
      · by_cases hbare : c.field = some "parameter" ∧ kind = .identifier
        · obtain ⟨hfield, rfl⟩ := hbare
          refine walks_of_bare hhere hcountBelow hnamed hmissing hfield htreat ?_
          simp [emitted, hvisible, hcomment, hbracket]
        · exact walks_of_keep hhere hcountBelow hvisible hnamed hmissing htreat hbare hcomment
            hbracket ih
    · refine walks_of_hidden hhere hcountBelow (fun _ _ => project_absent hthere) ?_ ?_
      · cases hn : c.named <;> cases hm : c.missing <;> simp_all [emitted, visible_eq]
      · rw [Bool.eq_false_iff, ne_eq, reachable_cons]
        exact fun h => hthere ⟨h.1, h.2.1⟩

/-- **Lowering is the projection of the concrete tree.** By number, the nodes of the lowered tree
are the root, which spans the text, and then for each concrete node in pre-order the lowered nodes
that it gives, each below the nearest kept node above it. A walk of the lowered tree meets them in
this order. -/
theorem ofSource_eq_projection (source : Concrete.Source) :
    (Tree.ofSource source).kind Tree.root = .sourceFile ∧
      (Tree.ofSource source).start Tree.root = 0 ∧
      (Tree.ofSource source).stop Tree.root = Text.byteLength source.text ∧
      (List.range (Tree.ofSource source).size).map (Tree.ofSource source).rowAt? =
        none :: ((source.trees.occurrences [] 0).flatMap
          (rowsOf source.rootKind (numberAt source.trees))).map some ∧
      (Tree.ofSource source).descendants = List.range (Tree.ofSource source).size := by
  have hroot := Tree.node_root_ofSource source
  have hrow : (Tree.ofSource source).rowAt? 0 = none := by
    rw [Tree.rowAt?, Tree.parent, show (0 : Nat) = Tree.root from rfl, hroot]
    rfl
  have hwalk := @rows_project source.rootKind _ source.trees [] 0 rfl (counts_numberAt source.trees)
  refine ⟨by rw [Tree.kind, hroot], by rw [Tree.start, hroot], by rw [Tree.stop, hroot], ?_,
    Tree.descendants_ofSource source⟩
  rw [Tree.size_ofSource, List.range_eq_range', List.range'_succ, List.map_cons, hrow,
    (Tree.carries_ofSource source).map_rowAt?, ← hwalk]
  rfl

end Projection

end ClosureWrap
