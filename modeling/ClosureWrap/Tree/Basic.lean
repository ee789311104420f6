import ClosureWrap.Text.Span
import ClosureWrap.Text.Slice
import ClosureWrap.Text.Numeral
import ClosureWrap.Tree.Kind

/-!
# Trees of numbered nodes

A tree is grown one node at a time. Nodes are numbered in the order of their arrival, the root being
number zero, and a node arrives below a node that is already there. So a parent always has a smaller
number than its children, which is what every recursion over a tree rests on, and the children of a
node stand in the order of their arrival. The numbers stand for numbers of 32 bits, so a tree is
meant to have fewer than 2^32 nodes.

Byte ranges are arbitrary. A range may be reversed, lie outside the text or outside the parent's
range, or cut a character; nothing here depends on it being otherwise, and a node whose range is not
a slice of the text has the empty text.

All accessors are total: a number that names no node has kind `unknown`, no role, no parent, no
children and an empty range.

## Main definitions

* `Node`, `Tree` — a node with its links, and the nodes of a file
* `Tree.Linked` — parents come first, and children lists agree with parents
* `Tree.leaf`, `Tree.push`, `Tree.ofRows` — growing a tree
* `Tree.kind`, `Tree.role`, `Tree.parent`, `Tree.children`, `Tree.textOf` … — reading a node

## Main results

* `Tree.parent_lt`, `Tree.lt_of_mem_children` — numbers grow from the root outwards
* `Tree.mem_children` — parents and children agree
-/

namespace ClosureWrap

/-- A node of a tree: what it is, where it is, and its neighbours by number. -/
structure Node where
  /-- What the node is. -/
  kind : Kind
  /-- What the node is to its parent. -/
  role : Option Role
  /-- Offset of the first byte. -/
  start : Nat
  /-- Offset just past the last byte. -/
  stop : Nat
  /-- The node above; only the root has none. -/
  parent : Option Nat
  /-- The nodes right below, in order of arrival. -/
  children : List Nat
  deriving DecidableEq, Repr

instance : Inhabited Node := ⟨⟨.unknown, none, 0, 0, none, []⟩⟩

namespace Tree

/-- The parent of node `i`. -/
def parentIn (nodes : Array Node) (i : Nat) : Option Nat := nodes[i]?.bind Node.parent

/-- The children of node `i`. -/
def childrenIn (nodes : Array Node) (i : Nat) : List Nat := (nodes[i]?.map Node.children).getD []

/-- The links of the nodes agree: there is a root, every other node has a parent that came before
it, and the children of a node are the nodes with that parent, in order. -/
structure Linked (nodes : Array Node) : Prop where
  nonempty : 0 < nodes.size
  rooted : ∀ i, 0 < i → i < nodes.size → (parentIn nodes i).isSome
  parent_lt : ∀ i p, parentIn nodes i = some p → p < i
  children_eq : ∀ i, childrenIn nodes i =
    (List.range nodes.size).filter fun c => parentIn nodes c = some i

end Tree

/-- The tree of a source file. -/
structure Tree where
  /-- Name of the file. -/
  fileName : String
  /-- Text of the file. -/
  text : String
  /-- The nodes by number. -/
  nodes : Array Node
  /-- The links of the nodes agree. -/
  linked : Tree.Linked nodes

namespace Tree

/-! ### Reading a node -/

/-- Number of nodes, the root included. -/
def size (t : Tree) : Nat := t.nodes.size

/-- The node with number `n`. -/
def node (t : Tree) (n : Nat) : Node := t.nodes.getD n default

/-- The number of the root. -/
def root : Nat := 0

/-- What node `n` is. -/
def kind (t : Tree) (n : Nat) : Kind := (t.node n).kind

/-- What node `n` is to its parent. -/
def role (t : Tree) (n : Nat) : Option Role := (t.node n).role

/-- Offset of the first byte of node `n`. -/
def start (t : Tree) (n : Nat) : Nat := (t.node n).start

/-- Offset just past the last byte of node `n`. -/
def stop (t : Tree) (n : Nat) : Nat := (t.node n).stop

/-- The node above `n`. -/
def parent (t : Tree) (n : Nat) : Option Nat := (t.node n).parent

/-- The nodes right below `n`, in order of arrival. -/
def children (t : Tree) (n : Nat) : List Nat := (t.node n).children

/-- The span of node `n`. -/
def span (t : Tree) (n : Nat) : Span := Span.ofRange (t.start n) (t.stop n)

/-- Whether `offset` lies in the half-open range of node `n`. -/
def contains (t : Tree) (n offset : Nat) : Bool := t.start n ≤ offset && offset < t.stop n

/-- The text of node `n`, empty if its range is not a slice of the file. -/
def textOf (t : Tree) (n : Nat) : String := (Text.slice? t.text (t.start n) (t.stop n)).getD ""

/-- The first child of `n` with role `r`. -/
def childWith? (t : Tree) (n : Nat) (r : Role) : Option Nat :=
  (t.children n).find? fun c => t.role c = some r

/-- The children of `n` with role `r`. -/
def childrenWith (t : Tree) (n : Nat) (r : Role) : List Nat :=
  (t.children n).filter fun c => t.role c = some r

/-- Short description of node `n`: its kind and its range. -/
def describe (t : Tree) (n : Nat) : String :=
  (t.kind n).name ++ "@" ++ Text.decimal (t.start n) ++ ".." ++ Text.decimal (t.stop n)

/-! ### Links -/

theorem parent_eq (t : Tree) (n : Nat) : t.parent n = parentIn t.nodes n := by
  unfold parent node parentIn
  rw [Array.getD_eq_getD_getElem?]
  cases t.nodes[n]? <;> rfl

theorem children_eq (t : Tree) (n : Nat) : t.children n = childrenIn t.nodes n := by
  unfold children node childrenIn
  rw [Array.getD_eq_getD_getElem?]
  cases t.nodes[n]? <;> rfl

/-- A parent has a smaller number than its child. -/
theorem parent_lt {t : Tree} {n p : Nat} (h : t.parent n = some p) : p < n :=
  t.linked.parent_lt n p (by rw [← parent_eq]; exact h)

/-- The children of a node are the nodes of which it is the parent. -/
theorem mem_children {t : Tree} {n c : Nat} :
    c ∈ t.children n ↔ c < t.size ∧ t.parent c = some n := by
  rw [children_eq, t.linked.children_eq, List.mem_filter, List.mem_range]
  simp [parent_eq, size]

/-- A child has a larger number than its parent, and names a node. -/
theorem lt_of_mem_children {t : Tree} {n c : Nat} (h : c ∈ t.children n) : n < c ∧ c < t.size :=
  ⟨parent_lt (mem_children.1 h).2, (mem_children.1 h).1⟩

/-! ### Growing a tree -/

/-- A tree with only its root, which spans the whole text. -/
def leaf (fileName text : String) (kind : Kind) : Tree where
  fileName := fileName
  text := text
  nodes := #[⟨kind, none, 0, Text.byteLength text, none, []⟩]
  linked := by
    have hp : ∀ i, parentIn #[⟨kind, none, 0, Text.byteLength text, none, []⟩] i = none := by
      intro i
      cases i <;> simp [parentIn]
    refine ⟨by simp, fun i h₀ h₁ => ?_, fun i p h => ?_, fun i => ?_⟩
    · simp at h₁; omega
    · rw [hp] at h; cases h
    · simp only [hp, reduceCtorEq, decide_false]
      cases i <;> simp [childrenIn]

/-- The nodes after a new one has arrived below node `parent`. -/
def pushNode (nodes : Array Node) (parent : Nat) (kind : Kind) (role : Option Role)
    (start stop : Nat) : Array Node :=
  (nodes.modify parent fun n => { n with children := n.children ++ [nodes.size] }).push
    ⟨kind, role, start, stop, some parent, []⟩

theorem parentIn_pushNode {nodes : Array Node} {parent : Nat} {kind : Kind} {role : Option Role}
    {start stop : Nat} (i : Nat) :
    parentIn (pushNode nodes parent kind role start stop) i =
      if i = nodes.size then some parent else parentIn nodes i := by
  unfold parentIn pushNode
  rw [Array.getElem?_push]
  simp only [Array.size_modify]
  split
  · rfl
  · rw [Array.getElem?_modify]
    split
    · cases nodes[i]? <;> rfl
    · rfl

theorem childrenIn_pushNode {nodes : Array Node} {parent : Nat} {kind : Kind} {role : Option Role}
    {start stop : Nat} (h : parent < nodes.size) (i : Nat) :
    childrenIn (pushNode nodes parent kind role start stop) i =
      childrenIn nodes i ++ if i = parent then [nodes.size] else [] := by
  unfold childrenIn pushNode
  rw [Array.getElem?_push]
  simp only [Array.size_modify]
  split
  · subst i
    rw [if_neg (by omega)]
    simp
  · rw [Array.getElem?_modify]
    by_cases hi : parent = i
    · subst hi
      simp [Array.getElem?_eq_getElem h]
    · rw [if_neg hi, if_neg (Ne.symm hi)]
      simp

theorem size_pushNode {nodes : Array Node} {parent : Nat} {kind : Kind} {role : Option Role}
    {start stop : Nat} : (pushNode nodes parent kind role start stop).size = nodes.size + 1 := by
  simp [pushNode]

/-- The links stay in agreement when a node arrives below one that is there. -/
theorem Linked.pushNode {nodes : Array Node} (hl : Linked nodes) {parent : Nat} {kind : Kind}
    {role : Option Role} {start stop : Nat} (h : parent < nodes.size) :
    Linked (pushNode nodes parent kind role start stop) := by
  refine ⟨by rw [size_pushNode]; omega, fun i h₀ h₁ => ?_, fun i p hp => ?_, fun i => ?_⟩
  · rw [parentIn_pushNode]
    split
    · rfl
    · rw [size_pushNode] at h₁
      exact hl.rooted i h₀ (by omega)
  · rw [parentIn_pushNode] at hp
    split at hp
    · cases hp; omega
    · exact hl.parent_lt i p hp
  · rw [childrenIn_pushNode h, hl.children_eq, size_pushNode, List.range_succ, List.filter_append]
    congr 1
    · refine List.filter_congr fun c hc => ?_
      rw [parentIn_pushNode, if_neg (by have := List.mem_range.1 hc; omega)]
    · simp only [List.filter_cons, List.filter_nil, parentIn_pushNode, if_pos]
      by_cases hi : i = parent
      · simp [hi]
      · simp [hi, Ne.symm hi]

/-- The tree after a node has arrived below node `parent`. A row whose parent has not arrived names
no place in the tree and is dropped. -/
def push (t : Tree) (parent : Nat) (kind : Kind) (role : Option Role) (start stop : Nat) : Tree :=
  if h : parent < t.nodes.size then
    { t with
      nodes := pushNode t.nodes parent kind role start stop
      linked := t.linked.pushNode h }
  else
    t

/-- What is known of a node when it arrives. -/
structure Row where
  /-- Number of the node above. -/
  parent : Nat
  /-- What the node is. -/
  kind : Kind
  /-- What the node is to its parent. -/
  role : Option Role
  /-- Offset of the first byte. -/
  start : Nat
  /-- Offset just past the last byte. -/
  stop : Nat
  deriving DecidableEq, Repr

/-- The tree whose nodes arrive in the order of `rows`, after the root. -/
def ofRows (fileName text : String) (rootKind : Kind) (rows : List Row) : Tree :=
  rows.foldl (fun t r => t.push r.parent r.kind r.role r.start r.stop)
    (leaf fileName text rootKind)

end Tree

end ClosureWrap
