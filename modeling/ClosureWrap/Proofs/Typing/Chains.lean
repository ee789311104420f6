import ClosureWrap.Typing.Structural

/-!
# Chains of aliases and initializers

The type of a name is often the type of something else: of the annotation or the initializer of a
variable, of what is inside parentheses, of what an alias stands for. To follow such references one
after the other is to go along a chain, and each link has a price. The type at one end of a chain,
within some budget, is the type at the other end within what is left of it (`typeAt_follow`). All
else comes from this. A chain that ends at a function gives its signatures if it can be paid for,
and not otherwise; and a chain that comes back to where it has been is never paid for.

A node can be read as an expression or as a written type, and a link may lead from the one to the
other, so chains are made of readings. Calls, unions and intersections take their types from several
places, or from none, and are no links.

## Main definitions

* `Reading`, `Tree.typeAt` — a node as an expression or as a type, and the type it then has
* `Tree.next?`, `Tree.follow` — one link of a chain and several, with what they cost
* `Tree.endSignatures?` — the signatures of a reading at which a chain ends

## Main results

* `Tree.typeAt_next?`, `Tree.typeAt_follow` — what a link and a chain do to a type
* `Tree.typeAt_of_cycle` — nothing is known on a cycle
* `Tree.typeOf_along_chain` — which types are found along chains, and which are not
-/

namespace ClosureWrap

/-- A node as it is read. -/
inductive Reading where
  | expression (n : Nat)
  | type (n : Nat)
  deriving DecidableEq, Repr

namespace Tree

/-- The type of a reading, within a budget. -/
def typeAt (t : Tree) (budget : Nat) : Reading → CallType Nat
  | .expression n => t.expressionType budget n
  | .type n => t.writtenType budget n

/-! ### Links and chains -/

/-- There is a function among the declarations. -/
def declaresFunction (t : Tree) (ds : List Nat) : Bool :=
  ds.any fun d => t.kind d == .functionDeclaration

/-- Where a declaration has its type from: a variable from its annotation or else from its
initializer, a parameter from its annotation. -/
def typeSource? (t : Tree) (d : Nat) : Option Reading :=
  match t.kind d with
  | .variableDeclaration =>
    ((t.childWith? d .type).map .type).or ((t.childWith? d .initializer).map .expression)
  | .parameter => (t.childWith? d .type).map .type
  | _ => none

/-- Where a reading has its type from. -/
def next? (t : Tree) : Reading → Option Reading
  | .expression n =>
    match t.kind n with
    | .identifier =>
      if t.declaresFunction (t.declarationsOf n) then none
      else (t.declarationsOf n).head?.bind t.typeSource?
    | .parenthesizedExpression => (t.children n).head?.map .expression
    | _ => none
  | .type n =>
    match t.kind n with
    | .typeReference =>
      ((t.resolve n (t.referencedName n) .type).head?.bind fun a => t.childWith? a .type).map .type
    | .parenthesizedType => (t.children n).head?.map .type
    | _ => none

/-- What it costs to go there: for a name one to its declaration and one further, otherwise one. -/
def price (t : Tree) : Reading → Nat
  | .expression n => if t.kind n = .identifier then 2 else 1
  | .type _ => 1

/-- Where a chain of so many links leads to, if it is that long, and what the links cost
together. -/
def follow (t : Tree) : Nat → Reading → Option (Nat × Reading)
  | 0, r => some (0, r)
  | links + 1, r =>
    (t.next? r).bind fun r' => (t.follow links r').map fun (cost, last) => (t.price r + cost, last)

/-- The signatures of a reading that is a function, a function type, or the name of declared
functions. -/
def endSignatures? (t : Tree) : Reading → Option (List (Signature Nat))
  | .expression n =>
    match t.kind n with
    | .arrowFunction => some [t.signatureOf n]
    | .functionExpression => some [t.signatureOf n]
    | .identifier =>
      if t.declaresFunction (t.declarationsOf n) then
        some ((t.visibleFunctions (t.declarationsOf n)).map t.signatureOf)
      else none
    | _ => none
  | .type n =>
    match t.kind n with
    | .functionType => some [t.signatureOf n]
    | _ => none

variable {t : Tree} {r r' : Reading} {links cost : Nat}

theorem price_pos (t : Tree) (r : Reading) : 0 < t.price r := by
  cases r with
  | expression n =>
    rw [price]
    split <;> omega
  | type n => exact Nat.one_pos

theorem follow_succ_eq_some_iff :
    t.follow (links + 1) r = some (cost, r') ↔
      ∃ middle rest, t.next? r = some middle ∧ t.follow links middle = some (rest, r') ∧
        cost = t.price r + rest := by
  rw [follow, Option.bind_eq_some_iff]
  constructor
  · rintro ⟨middle, hnext, h⟩
    obtain ⟨⟨rest, last⟩, hrest, heq⟩ := Option.map_eq_some_iff.1 h
    cases heq
    exact ⟨middle, rest, hnext, hrest, rfl⟩
  · rintro ⟨middle, rest, hnext, hrest, rfl⟩
    exact ⟨middle, hnext, Option.map_eq_some_iff.2 ⟨(rest, r'), hrest, rfl⟩⟩

/-! ### What a link does to a type -/

theorem typeAt_zero (t : Tree) (r : Reading) : t.typeAt 0 r = .unknown := by
  cases r with
  | expression n => rw [typeAt, expressionType]
  | type n => rw [typeAt, writtenType]

/-- Where there is a function there is one that counts: implementations are hidden only behind
overloads. -/
theorem visibleFunctions_eq_nil_iff {ds : List Nat} :
    t.visibleFunctions ds = [] ↔ t.declaresFunction ds = false := by
  have hnone : (ds.filter fun d => t.kind d == .functionDeclaration) = [] ↔
      t.declaresFunction ds = false := by
    simp [declaresFunction]
  rw [← hnone]
  unfold visibleFunctions
  by_cases hhidden : (ds.filter fun d => t.kind d == .functionDeclaration).length > 1 ∧
      ((ds.filter fun d => t.kind d == .functionDeclaration).filter fun f =>
        (t.childWith? f .body).isNone) ≠ []
  · rw [if_pos hhidden]
    refine iff_of_false hhidden.2 fun h => ?_
    rw [h] at hhidden
    exact hhidden.2 rfl
  · rw [if_neg hhidden]

/-- Declarations with a visible function have the signatures of the visible ones, whatever the
budget. -/
theorem declaredType_of_visible {ds : List Nat} {f : Nat} {fs : List Nat}
    (h : t.visibleFunctions ds = f :: fs) (budget : Nat) :
    t.declaredType budget ds = ⟨(f :: fs).map t.signatureOf⟩ := by
  unfold declaredType
  rw [h]

/-- The type of declarations without a function is the type of what the first one has it from, one
further. -/
theorem declaredType_eq {ds : List Nat} (hnone : t.declaresFunction ds = false)
    (hfirst : ds.head?.bind t.typeSource? = some r) (budget : Nat) :
    t.declaredType budget ds = t.typeAt (budget - 1) r := by
  have hvisible := visibleFunctions_eq_nil_iff.2 hnone
  obtain ⟨d, hd, hsource⟩ := Option.bind_eq_some_iff.1 hfirst
  obtain ⟨rest, rfl⟩ := List.head?_eq_some_iff.1 hd
  cases budget with
  | zero =>
    rw [typeAt_zero, declaredType, hvisible]
  | succ budget =>
    rw [Nat.add_sub_cancel]
    unfold typeSource? at hsource
    split at hsource
    next hkind =>
      cases hwritten : t.childWith? d .type with
      | some written =>
        rw [hwritten, Option.map_some, Option.some_or] at hsource
        cases hsource
        simp only [declaredType, hvisible, hkind, hwritten, typeAt]
      | none =>
        rw [hwritten, Option.map_none, Option.none_or] at hsource
        obtain ⟨value, hvalue, rfl⟩ := Option.map_eq_some_iff.1 hsource
        simp only [declaredType, hvisible, hkind, hwritten, hvalue, typeAt]
    next hkind =>
      obtain ⟨written, hwritten, rfl⟩ := Option.map_eq_some_iff.1 hsource
      simp only [declaredType, hvisible, hkind, hwritten, typeAt]
    next => cases hsource

/-- **A link**: the type of a reading is the type of the next one, within what the link leaves of
the budget. -/
theorem typeAt_next? (h : t.next? r = some r') (budget : Nat) :
    t.typeAt budget r = t.typeAt (budget - t.price r) r' := by
  cases budget with
  | zero => rw [Nat.zero_sub, typeAt_zero, typeAt_zero]
  | succ budget =>
    cases r with
    | expression n =>
      simp only [next?] at h
      split at h
      next hkind =>
        split at h
        next => cases h
        next hnone =>
          rw [typeAt, expressionType, price, hkind, if_pos rfl, Nat.add_sub_add_right]
          exact declaredType_eq (Bool.eq_false_iff.2 hnone) h budget
      next hkind =>
        obtain ⟨inner, hinner, rfl⟩ := Option.map_eq_some_iff.1 h
        obtain ⟨others, hchildren⟩ := List.head?_eq_some_iff.1 hinner
        rw [typeAt, expressionType, price, hkind, hchildren]
        rfl
      next => cases h
    | type n =>
      simp only [next?] at h
      split at h
      next hkind =>
        obtain ⟨written, hwritten, rfl⟩ := Option.map_eq_some_iff.1 h
        rw [typeAt, writtenType, hkind, hwritten]
        rfl
      next hkind =>
        obtain ⟨inner, hinner, rfl⟩ := Option.map_eq_some_iff.1 h
        obtain ⟨others, hchildren⟩ := List.head?_eq_some_iff.1 hinner
        rw [typeAt, writtenType, hkind, hchildren]
        rfl
      next => cases h

/-! ### What a chain does to a type -/

/-- **A chain**: the type at its start is the type at its end, within what its links leave of the
budget. The induction is on the number of links. -/
theorem typeAt_follow (h : t.follow links r = some (cost, r')) (budget : Nat) :
    t.typeAt budget r = t.typeAt (budget - cost) r' := by
  induction links generalizing r cost budget with
  | zero =>
    cases h
    rfl
  | succ links ih =>
    obtain ⟨middle, rest, hnext, hrest, rfl⟩ := follow_succ_eq_some_iff.1 h
    calc t.typeAt budget r
        = t.typeAt (budget - t.price r) middle := typeAt_next? hnext budget
      _ = t.typeAt (budget - t.price r - rest) r' := ih hrest _
      _ = t.typeAt (budget - (t.price r + rest)) r' := by rw [Nat.sub_sub]

/-- A reading at which chains end needs no more than a budget that is not spent. -/
theorem typeAt_of_endSignatures? {signatures : List (Signature Nat)}
    (h : t.endSignatures? r = some signatures) (budget : Nat) :
    t.typeAt (budget + 1) r = ⟨signatures⟩ := by
  cases r with
  | expression n =>
    simp only [endSignatures?] at h
    split at h
    next hkind =>
      cases h
      rw [typeAt, expressionType, hkind]
      rfl
    next hkind =>
      cases h
      rw [typeAt, expressionType, hkind]
      rfl
    next hkind =>
      split at h
      next hfunction =>
        cases h
        rw [typeAt, expressionType, hkind]
        show t.declaredType budget _ = _
        cases hvisible : t.visibleFunctions (t.declarationsOf n) with
        | nil =>
          rw [visibleFunctions_eq_nil_iff.1 hvisible] at hfunction
          cases hfunction
        | cons f fs => exact declaredType_of_visible hvisible budget
      next => cases h
    next => cases h
  | type n =>
    simp only [endSignatures?] at h
    split at h
    next hkind =>
      cases h
      rw [typeAt, writtenType, hkind]
      rfl
    next => cases h

/-- **Nothing is known on a cycle**: what one round leaves of a budget is less, and gives the same
type. -/
theorem typeAt_of_cycle (h : t.follow (links + 1) r = some (cost, r)) (budget : Nat) :
    t.typeAt budget r = .unknown := by
  have hpos : 0 < cost := by
    obtain ⟨middle, rest, -, -, rfl⟩ := follow_succ_eq_some_iff.1 h
    exact Nat.add_pos_left (t.price_pos r) rest
  induction budget using Nat.strongRecOn with
  | ind budget ih =>
    rcases Nat.eq_zero_or_pos budget with rfl | hbudget
    · exact typeAt_zero t r
    · rw [typeAt_follow h]
      exact ih (budget - cost) (Nat.sub_lt hbudget hpos)

/-- **The types along a chain.** Let a chain of links with the given cost lead from an expression to
some reading. If chains end at this reading, the expression has exactly the signatures found there
as long as the cost is not above 16, and none beyond that. No chain that costs more than 16 gives a
type, wherever it leads, and neither does a chain that gets to a cycle. -/
theorem typeOf_along_chain (t : Tree) (n links cost : Nat) (r : Reading)
    (h : t.follow links (.expression n) = some (cost, r)) :
    (∀ signatures, t.endSignatures? r = some signatures →
        (Checker.structural.typeOf t n).signatures =
          if cost ≤ 16 then signatures.map (·.map t.ref) else []) ∧
      (16 < cost → Checker.structural.typeOf t n = .unknown) ∧
      ∀ round back, t.follow (round + 1) r = some (back, r) →
        Checker.structural.typeOf t n = .unknown := by
  have hchain : Checker.structural.typeOf t n = (t.typeAt (typingBudget - cost) r).map t.ref :=
    congrArg (CallType.map t.ref) (typeAt_follow h typingBudget)
  have hspent (hcost : 16 < cost) : Checker.structural.typeOf t n = .unknown := by
    have hnothing : typingBudget - cost = 0 := Nat.sub_eq_zero_of_le hcost
    rw [hchain, hnothing, typeAt_zero]
    rfl
  refine ⟨fun signatures hend => ?_, hspent, fun round back hcycle => ?_⟩
  · by_cases hcost : cost ≤ 16
    · have hleft : typingBudget - cost = (16 - cost) + 1 := by
        rw [typingBudget]
        omega
      rw [if_pos hcost, hchain, hleft, CallType.map, typeAt_of_endSignatures? hend]
    · rw [if_neg hcost, hspent (Nat.lt_of_not_le hcost)]
      rfl
  · rw [hchain, typeAt_of_cycle hcycle]
    rfl

/-- A function that is given a type through all sorts of links, and two variables that are each
initialized with the other. -/
def chainAndCycle : Tree :=
  ofRows "main.ts"
    "const f = (g); const g: A; type A = (B); type B = (x) => 0; const a = b, b = a; f(a);"
    .sourceFile [
      ⟨0, .variableStatement, none, 0, 14⟩,
      ⟨1, .variableDeclaration, none, 6, 13⟩,
      ⟨2, .identifier, some .name, 6, 7⟩,
      ⟨2, .parenthesizedExpression, some .initializer, 10, 13⟩,
      ⟨4, .identifier, none, 11, 12⟩,
      ⟨0, .variableStatement, none, 15, 26⟩,
      ⟨6, .variableDeclaration, none, 21, 25⟩,
      ⟨7, .identifier, some .name, 21, 22⟩,
      ⟨7, .typeReference, some .type, 24, 25⟩,
      ⟨0, .typeAliasDeclaration, none, 27, 40⟩,
      ⟨10, .identifier, some .name, 32, 33⟩,
      ⟨10, .parenthesizedType, some .type, 36, 39⟩,
      ⟨12, .typeReference, none, 37, 38⟩,
      ⟨0, .typeAliasDeclaration, none, 41, 59⟩,
      ⟨14, .identifier, some .name, 46, 47⟩,
      ⟨14, .functionType, some .type, 50, 58⟩,
      ⟨16, .parameter, some .parameter, 51, 52⟩,
      ⟨17, .identifier, some .name, 51, 52⟩,
      ⟨0, .variableStatement, none, 60, 79⟩,
      ⟨19, .variableDeclaration, none, 66, 71⟩,
      ⟨20, .identifier, some .name, 66, 67⟩,
      ⟨20, .identifier, some .initializer, 70, 71⟩,
      ⟨19, .variableDeclaration, none, 73, 78⟩,
      ⟨23, .identifier, some .name, 73, 74⟩,
      ⟨23, .identifier, some .initializer, 77, 78⟩,
      ⟨0, .expressionStatement, none, 80, 85⟩,
      ⟨26, .callExpression, none, 80, 84⟩,
      ⟨27, .identifier, some .callee, 80, 81⟩,
      ⟨27, .identifier, some .argument, 82, 83⟩]

/-- A variable, its use, and an arrow function inside so many parentheses as its initializer. -/
def arrowInParentheses (parentheses : Nat) : Tree :=
  ofRows "main.ts" "f" .sourceFile ([
      ⟨0, .variableStatement, none, 0, 1⟩,
      ⟨1, .variableDeclaration, none, 0, 1⟩,
      ⟨2, .identifier, some .name, 0, 1⟩,
      ⟨0, .expressionStatement, none, 0, 1⟩,
      ⟨4, .identifier, none, 0, 1⟩,
      ⟨2, .parenthesizedExpression, some .initializer, 0, 1⟩] ++
    (List.range parentheses).map fun i =>
      ⟨6 + i, if i + 1 = parentheses then .arrowFunction else .parenthesizedExpression, none, 0, 1⟩)

/-- The function of the first tree, node 28, has the function type at the end of a chain of six
links, and its argument, node 29, gets to a cycle of two. In the second tree the chain can just be
paid for if there are fourteen parentheses, and no longer if there are fifteen. -/
theorem typeOf_along_chain_chainAndCycle :
    (Checker.structural.typeOf chainAndCycle 28).signatures =
        [.map chainAndCycle.ref ⟨some 16, [⟨"x", some 17⟩]⟩] ∧
      Checker.structural.typeOf chainAndCycle 29 = .unknown ∧
      (Checker.structural.typeOf (arrowInParentheses 14) 5).signatures =
        [.map (arrowInParentheses 14).ref ⟨some 20, []⟩] ∧
      Checker.structural.typeOf (arrowInParentheses 15) 5 = .unknown := by
  have hchain : chainAndCycle.follow 6 (.expression 28) = some (8, .type 16) := by decide +kernel
  have hend : chainAndCycle.endSignatures? (.type 16) = some [⟨some 16, [⟨"x", some 17⟩]⟩] := by
    decide +kernel
  have hinto : chainAndCycle.follow 1 (.expression 29) = some (2, .expression 22) := by
    decide +kernel
  have hround : chainAndCycle.follow 2 (.expression 22) = some (4, .expression 22) := by
    decide +kernel
  have hpaid : (arrowInParentheses 14).follow 15 (.expression 5) = some (16, .expression 20) := by
    decide +kernel
  have harrow : (arrowInParentheses 14).endSignatures? (.expression 20) = some [⟨some 20, []⟩] := by
    decide +kernel
  have hunpaid : (arrowInParentheses 15).follow 16 (.expression 5) = some (17, .expression 21) := by
    decide +kernel
  exact ⟨(typeOf_along_chain chainAndCycle 28 6 8 _ hchain).1 _ hend,
    (typeOf_along_chain chainAndCycle 29 1 2 _ hinto).2.2 1 4 hround,
    (typeOf_along_chain (arrowInParentheses 14) 5 15 16 _ hpaid).1 _ harrow,
    (typeOf_along_chain (arrowInParentheses 15) 5 16 17 _ hunpaid).2.1 (by decide)⟩

end Tree

end ClosureWrap
