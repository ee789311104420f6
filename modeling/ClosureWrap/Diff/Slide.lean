import ClosureWrap.Diff.Block

/-!
# Sliding blocks together

Added lines can often slide over kept ones without any effect on the result: if the last added line
is the same as the last kept line before, the block may stand one line earlier. Blocks slide first
as far up and then as far down as they can, and swallow blocks of their own kind on the way. Last,
removed and added lines that stand side by side become a replacement.

A block that moves past one of the other kind takes its position along unchanged.

## Main definitions

* `Diff.Focus` — a list of blocks, seen from one of them
* `Diff.compact` — slides all removed blocks, then all added ones
* `Diff.coalesce` — joins neighbours and forms replacements
-/

namespace ClosureWrap

namespace Diff

namespace Block

/-- The block `n` lines earlier. -/
def earlier (b : Block) (n : Nat) : Block := { b with old := b.old - n, new := b.new - n }

/-- The block `n` lines later. -/
def later (b : Block) (n : Nat) : Block := { b with old := b.old + n, new := b.new + n }

/-- Kept lines with `n` more at the start. -/
def growStart (b : Block) (n : Nat) : Block :=
  .kept (b.old - n) (b.new - n) (b.oldLength + n)

/-- Kept lines with `n` more at the end. -/
def growEnd (b : Block) (n : Nat) : Block := .kept b.old b.new (b.oldLength + n)

/-- Kept lines without the first `n`. -/
def dropStart (b : Block) (n : Nat) : Block := .kept (b.old + n) (b.new + n) (b.oldLength - n)

/-- Kept lines without the last `n`. -/
def dropEnd (b : Block) (n : Nat) : Block := .kept b.old b.new (b.oldLength - n)

/-- A block with the lines of one of its kind after it. -/
def absorb (b next : Block) : Block :=
  { b with oldLength := b.oldLength + next.oldLength, newLength := b.newLength + next.newLength }

/-- A block in a list, unless it is empty. -/
def onto (b : Block) (others : List Block) : List Block := if b.isEmpty then others else b :: others

end Block

/-- A list of blocks, seen from one of them. -/
structure Focus where
  /-- The blocks before, the nearest first. -/
  before : List Block
  /-- The block in view. -/
  this : Block
  /-- The blocks after. -/
  after : List Block

/-- The total number of lines and blocks in a list. -/
def weight (bs : List Block) : Nat := bs.foldl (fun n b => n + (b.size + 1)) 0

/-- Slides the block in view up as far as it goes. Every move takes lines or a block from those
before, which bounds their number by the fuel. -/
def slideUp (old new : Array (List Char)) : Nat → Focus → Focus
  | 0, f => f
  | fuel + 1, f =>
    match f.before with
    | [] => f
    | b :: before =>
      if b.kind = .keep then
        let n := commonSuffix old new b.oldStop f.this.newStop (min b.oldLength f.this.newLength)
        if 0 < n then
          let after := match f.after with
            | next :: others =>
              if next.kind = .keep then next.growStart n :: others
              else .kept (b.oldStop - n) (f.this.newStop - n) n :: f.after
            | [] => [.kept (b.oldStop - n) (f.this.newStop - n) n]
          slideUp old new fuel ⟨(b.dropEnd n).onto before, f.this.earlier n, after⟩
        else if b.isEmpty then slideUp old new fuel { f with before := before }
        else f
      else if b.kind = f.this.kind then slideUp old new fuel ⟨before, b.absorb f.this, f.after⟩
      else slideUp old new fuel ⟨before, f.this, b :: f.after⟩

/-- Slides the block in view down as far as it goes, with fuel for the moves as in `slideUp`. -/
def slideDown (old new : Array (List Char)) : Nat → Focus → Focus
  | 0, f => f
  | fuel + 1, f =>
    match f.after with
    | [] => f
    | b :: after =>
      if b.kind = .keep then
        let n := commonPrefix old new b.old f.this.new (min b.oldLength f.this.newLength)
        if 0 < n then
          let before := match f.before with
            | last :: others =>
              if last.kind = .keep then last.growEnd n :: others
              else .kept b.old f.this.new n :: f.before
            | [] => [.kept b.old f.this.new n]
          slideDown old new fuel ⟨before, f.this.later n, (b.dropStart n).onto after⟩
        else if b.isEmpty then slideDown old new fuel { f with after := after }
        else f
      else if b.kind = f.this.kind then slideDown old new fuel ⟨f.before, f.this.absorb b, after⟩
      else slideDown old new fuel ⟨b :: f.before, f.this, after⟩

/-- Slides a block up and then down. -/
def slide (old new : Array (List Char)) (f : Focus) : Focus :=
  let up := slideUp old new (weight f.before + 1) f
  slideDown old new (weight up.after + 1) up

/-- Slides all blocks of a kind, from the first to the last. The fuel bounds the number of
blocks. -/
def slideKind (old new : Array (List Char)) (kind : BlockKind) :
    Nat → List Block → List Block → List Block
  | _, before, [] => before.reverse
  | 0, before, after => before.reverse ++ after
  | fuel + 1, before, b :: after =>
    if b.kind = kind then
      let f := slide old new ⟨before, b, after⟩
      slideKind old new kind fuel (f.this :: f.before) f.after
    else slideKind old new kind fuel (b :: before) after

/-- Slides all removed blocks, then all added ones. -/
def compact (old new : Array (List Char)) (blocks : List Block) : List Block :=
  let slid := slideKind old new .remove (weight blocks + 1) [] blocks
  slideKind old new .add (weight slid + 1) [] slid

/-! ### Replacements -/

/-- Neighbours that are not yet written: kept lines, or removed and added ones. -/
structure Pending where
  kept : Option Block := none
  removed : Option Block := none
  added : Option Block := none

namespace Pending

/-- The block that removed and added lines make up. -/
def change (p : Pending) : List Block :=
  match p.removed, p.added with
  | some r, some a => [⟨.replace, r.old, r.oldLength, a.new, a.newLength⟩]
  | some r, none => [r]
  | none, some a => [a]
  | none, none => []

/-- A block after others of its kind, if there are any. -/
def joined (earlier : Option Block) (b : Block) : Block := (earlier.map fun e => e.absorb b).getD b

end Pending

/-- Joins neighbours of one kind and forms replacements, after what is pending. -/
def coalesceAfter (p : Pending) : List Block → List Block
  | [] => p.kept.toList ++ p.change
  | b :: bs =>
    match b.kind with
    | .keep => p.change ++ coalesceAfter { kept := some (Pending.joined p.kept b) } bs
    | .add => p.kept.toList ++
        coalesceAfter { removed := p.removed, added := some (Pending.joined p.added b) } bs
    | _ => p.kept.toList ++
        coalesceAfter { removed := some (Pending.joined p.removed b), added := p.added } bs

/-- Joins neighbours of one kind and forms replacements. -/
def coalesce (blocks : List Block) : List Block := coalesceAfter {} blocks

end Diff

end ClosureWrap
