import ClosureWrap.Closure

/-!
# What a forwarding closure says

Two readings of the closure that forwards to a name. The first is its written form: the parameters,
an arrow, and the call. The second is what it refers to. A name in an expression is free unless an
arrow function around it has a parameter of that name; only free names reach what stands outside.

The second reading is where forwarding can go wrong. The closure binds its parameters before it
calls its target, and nothing keeps the target from having the name of a parameter. Then the closure
calls its own parameter and refers to nothing outside at all.

A parameter may also be written as a pattern, or be spelled with escapes, and then comparing texts
does not tell what it binds. Free names are therefore read only off plain expressions, in which
every name is a plain identifier.

## Main definitions

* `Expr.listed`, `Expr.writtenHead` — names in a row, and the parameters as they stand before the
  arrow
* `Expr.isPlain`, `Expr.free` — an expression with only plain names, and the free names of it

## Main results

* `Expr.render_forward` — the written form of a forwarding closure
* `Expr.free_forward` — its only free name is its target, unless that is a parameter
-/

namespace ClosureWrap

namespace Expr

/-! ### The written form -/

/-- Names in a row, separated by a comma and a blank. -/
def listed (names : List String) : String := ", ".intercalate names

/-- The parameters of an arrow function as they stand before the arrow: in parentheses, unless a
single plain identifier may do without. -/
def writtenHead (mode : ArrowParens) (names : List String) : String :=
  if mode = .asNeeded ∧ names.length = 1 ∧ ∀ name ∈ names, Text.isPlainIdentifier name.toList then
    listed names
  else
    "(" ++ listed names ++ ")"

theorem toList_listed (names : List String) :
    (listed names).toList = Text.comma.intercalate (names.map String.toList) :=
  String.toList_intercalate

theorem parenthesized_toList (names : List String) :
    Text.parenthesized (names.map String.toList) = ("(" ++ listed names ++ ")").toList := by
  rw [Text.parenthesized, String.toList_append, String.toList_append, toList_listed]
  rfl

theorem headChars_eq (mode : ArrowParens) (names : List String) :
    headChars mode names = (writtenHead mode names).toList := by
  unfold headChars writtenHead
  split
  · rename_i only
    by_cases h : mode = .asNeeded ∧ Text.isPlainIdentifier only.toList = true
    · rw [if_pos h, if_pos ⟨h.1, rfl, by simpa using h.2⟩, listed, String.intercalate_singleton]
    · rw [if_neg h, if_neg (fun h' => h ⟨h'.1, by simpa using h'.2.2⟩)]
      exact parenthesized_toList [only]
  · rename_i hmany
    rw [if_neg, parenthesized_toList]
    rintro ⟨_, hone, _⟩
    obtain ⟨only, rfl⟩ := List.length_eq_one_iff.1 hone
    exact hmany only rfl

theorem charsAll_identifiers (mode : ArrowParens) (names : List String) :
    charsAll mode (names.map .identifier) = names.map String.toList := by
  induction names with
  | nil => rfl
  | cons name names ih => rw [List.map_cons, charsAll, chars, ih, List.map_cons]

/-- **The written form of a forwarding closure**: its parameters, an arrow, its target, and the same
names once more as arguments. -/
theorem render_forward (mode : ArrowParens) (target : String) (names : List String) :
    (forward target names).render mode =
      writtenHead mode names ++ " => " ++ target ++ "(" ++ listed names ++ ")" := by
  rw [← String.toList_inj, render, String.toList_ofList, forward, chars, chars, chars,
    charsAll_identifiers, headChars_eq, parenthesized_toList]
  simp [isArrow]

/-! ### Free names -/

mutual

/-- Every name in the expression is a plain identifier. -/
def isPlain : Expr → Bool
  | .identifier name => Text.isPlainIdentifier name.toList
  | .call callee arguments => callee.isPlain && isPlainAll arguments
  | .arrow parameters body =>
    (parameters.all fun name => Text.isPlainIdentifier name.toList) && body.isPlain

/-- Every name in the expressions is a plain identifier. -/
def isPlainAll : List Expr → Bool
  | [] => true
  | e :: es => e.isPlain && isPlainAll es

end

mutual

/-- The names by which an expression refers to something outside, in the order of the text. -/
def free : Expr → List String
  | .identifier name => [name]
  | .call callee arguments => callee.free ++ freeAll arguments
  | .arrow parameters body => body.free.filter fun name => name ∉ parameters

/-- The free names of several expressions. -/
def freeAll : List Expr → List String
  | [] => []
  | e :: es => e.free ++ freeAll es

end

theorem freeAll_identifiers (names : List String) : freeAll (names.map .identifier) = names := by
  induction names with
  | nil => rfl
  | cons name names ih => rw [List.map_cons, freeAll, free, ih, List.singleton_append]

/-- **A forwarding closure refers to its target and to nothing else**, and not even to its target if
a parameter has that name. -/
theorem free_forward (target : String) (names : List String) :
    (forward target names).free = if target ∈ names then [] else [target] := by
  have hown : names.filter (fun name => name ∉ names) = [] :=
    List.filter_eq_nil_iff.2 fun name hname => by simpa using hname
  rw [forward, free, free, free, freeAll_identifiers, List.filter_append, hown, List.append_nil]
  by_cases h : target ∈ names <;> simp [h]

end Expr

end ClosureWrap
