import ClosureWrap.Proofs.Refactor.Refusal
import ClosureWrap.Proofs.Text.Boundary
import Mathlib.Data.List.Basic

/-!
# Replacing what could be read

The ranges of a tree can be anything: reversed, outside the text, with an end inside a character.
Three rules cut something out of the text by such a range, each in its own way. The text of a node
is the slice between its ends, and empty where there is none. The span of an edit is a start and a
length, and its end a sum that has to be an address. The text after an edit is put together from
what is before the span and what is after it.

A node that was found at an offset holds the offset, so its range is neither reversed nor empty. No
more is known of it, and no more is needed for the rules to agree. The span ends where the node
does. The two outer parts can be cut out exactly if the inner one can, and the inner one is never
empty. So an edit can be applied exactly if the identifier could be read, and a closure that was
made without knowing what it has to call does not get into a file.

## Main results

* `Edit.apply_of_split`, `Edit.apply_of_slice?_eq_none` — the text after an edit, if the span is a
  slice and if it is not
* `Tree.slice?_eq_none_iff` — a node that holds an offset has an empty text only if it has no slice
* `Tree.apply_eq_some_iff`, `Tree.apply_eq_none_iff` — the text after a node is replaced
* `Wrap.edit_replaces_readable` — the edits that are made on arbitrary ranges
-/

namespace ClosureWrap

namespace Edit

variable {edit : Edit} {text : String}

theorem apply_of_stop {stop : Nat} (h : edit.span.stop = .ok stop) :
    edit.apply text = .ok ((Text.slice? text 0 edit.span.start).bind fun before =>
      (Text.slice? text stop (Text.byteLength text)).map fun after =>
        before ++ edit.newText ++ after) := by
  rw [apply, h]
  rfl

theorem stop_of_lt (h : edit.span.start + edit.span.length < addressLimit) :
    edit.span.stop = .ok (edit.span.start + edit.span.length) :=
  Span.stop_eq_ok_iff.2 ⟨rfl, h⟩

/-- Where the span is the middle of a split of the text, the edit replaces it and leaves the
rest. -/
theorem apply_of_split {before middle after : String} (htext : text = before ++ middle ++ after)
    (hstart : edit.span.start = Text.byteLength before)
    (hlength : edit.span.length = Text.byteLength middle)
    (hfits : edit.span.start + edit.span.length < addressLimit) :
    edit.apply text = .ok (some (before ++ edit.newText ++ after)) := by
  have hbefore : Text.slice? text 0 edit.span.start = some before := by
    refine Text.slice?_eq_some_iff.2 ⟨"", middle ++ after, ?_, rfl, ?_⟩
    · rw [htext, String.empty_append, String.append_assoc]
    · rw [hstart]
      exact Nat.zero_add _
  have hafter : Text.slice? text (edit.span.start + edit.span.length) (Text.byteLength text) =
      some after := by
    refine Text.slice?_eq_some_iff.2 ⟨before ++ middle, "", ?_, ?_, ?_⟩
    · rw [htext, String.append_empty]
    · rw [hstart, hlength]
      exact Text.byteLength_append before middle
    · rw [htext]
      exact (Text.byteLength_append (before ++ middle) after).symm
  rw [apply_of_stop (stop_of_lt hfits), hbefore, Option.bind_some, hafter, Option.map_some]

/-- Where the span is no slice of the text, the edit leaves no text at all: its two outer parts end
at the boundaries between which the slice would be. -/
theorem apply_of_slice?_eq_none
    (h : Text.slice? text edit.span.start (edit.span.start + edit.span.length) = none)
    (hfits : edit.span.start + edit.span.length < addressLimit) : edit.apply text = .ok none := by
  rw [apply_of_stop (stop_of_lt hfits)]
  congr 1
  rw [Option.bind_eq_none_iff]
  intro before hbefore
  rw [Option.map_eq_none_iff, ← Option.not_isSome_iff_eq_none]
  intro hafter
  have hstart := (Text.isSome_slice?.1 (Option.isSome_of_eq_some hbefore)).2.2
  have hstop := (Text.isSome_slice?.1 hafter).2.1
  have hmiddle := Text.isSome_slice?.2 ⟨Nat.le_add_right _ _, hstart, hstop⟩
  rw [h] at hmiddle
  cases hmiddle

end Edit

namespace Tree

variable {t : Tree} {n offset : Nat} {edit : Edit}

/-! ### Replacing a node -/

/-- A text that is not empty was read between the ends of the node. -/
theorem slice?_of_textOf_ne_empty (h : t.textOf n ≠ "") :
    Text.slice? t.text (t.start n) (t.stop n) = some (t.textOf n) := by
  unfold textOf at h ⊢
  cases hslice : Text.slice? t.text (t.start n) (t.stop n) with
  | none =>
    rw [hslice] at h
    exact absurd rfl h
  | some text => rfl

/-- A node that holds an offset has an empty text only because there is nothing between its ends. -/
theorem slice?_eq_none_iff (h : t.contains n offset = true) :
    Text.slice? t.text (t.start n) (t.stop n) = none ↔ t.textOf n = "" := by
  constructor
  · intro hnone
    rw [textOf, hnone, Option.getD_none]
  · intro hempty
    rw [Option.eq_none_iff_forall_ne_some]
    intro text hslice
    obtain ⟨before, after, -, hstart, hstop⟩ := Text.slice?_eq_some_iff.1 hslice
    have htext : text = "" := by rw [← hempty, textOf, hslice, Option.getD_some]
    obtain ⟨hlo, hhi⟩ := contains_iff.1 h
    rw [htext, String.utf8ByteSize_empty] at hstop
    omega

/-- The span of a node that holds an offset ends where the node does. -/
theorem start_add_length_span (h : t.contains n offset = true) :
    (t.span n).start + (t.span n).length = t.stop n := by
  obtain ⟨hlo, hhi⟩ := contains_iff.1 h
  simp only [span, Span.ofRange]
  omega

theorem stop_span (h : t.contains n offset = true) (haddress : t.stop n < addressLimit) :
    (t.span n).stop = .ok (t.stop n) := by
  obtain ⟨hlo, hhi⟩ := contains_iff.1 h
  rw [span, Span.stop_ofRange (by omega) haddress, Nat.max_eq_right (by omega)]

theorem exists_split_of_textOf_ne_empty (h : t.textOf n ≠ "") :
    ∃ before after, t.text = before ++ t.textOf n ++ after ∧
      Text.byteLength before = t.start n := by
  obtain ⟨before, after, htext, hstart, -⟩ :=
    Text.slice?_eq_some_iff.1 (slice?_of_textOf_ne_empty h)
  exact ⟨before, after, htext, hstart⟩

/-- A node that could be read is replaced, and the text around it stays. -/
theorem apply_of_textOf_ne_empty (h : t.contains n offset = true)
    (haddress : t.stop n < addressLimit)
    (hspan : edit.span = t.span n) (hread : t.textOf n ≠ "") {before after : String}
    (htext : t.text = before ++ t.textOf n ++ after) (hstart : Text.byteLength before = t.start n) :
    edit.apply t.text = .ok (some (before ++ edit.newText ++ after)) := by
  have hends := start_add_length_span h
  have hlength : (t.span n).length = Text.byteLength (t.textOf n) := by
    obtain ⟨_, _, -, hlo, hhi⟩ := Text.slice?_eq_some_iff.1 (slice?_of_textOf_ne_empty hread)
    rw [show (t.span n).start = t.start n from rfl] at hends
    rw [Text.byteLength]
    omega
  refine Edit.apply_of_split htext ?_ ?_ ?_
  · rw [hspan, hstart]
    rfl
  · rw [hspan, hlength]
  · rw [hspan, hends]
    exact haddress

/-- A node that could not be read is not replaced. -/
theorem apply_of_textOf_eq_empty (h : t.contains n offset = true)
    (haddress : t.stop n < addressLimit) (hspan : edit.span = t.span n) (hempty : t.textOf n = "") :
    edit.apply t.text = .ok none := by
  have hends := start_add_length_span h
  apply Edit.apply_of_slice?_eq_none
  · rw [hspan, hends]
    exact (slice?_eq_none_iff h).2 hempty
  · rw [hspan, hends]
    exact haddress

/-- **A node is replaced exactly if it could be read**, and the text around it stays. -/
theorem apply_eq_some_iff (h : t.contains n offset = true) (haddress : t.stop n < addressLimit)
    (hspan : edit.span = t.span n) {out : String} :
    edit.apply t.text = .ok (some out) ↔
      t.textOf n ≠ "" ∧ ∃ before after, t.text = before ++ t.textOf n ++ after ∧
        Text.byteLength before = t.start n ∧ out = before ++ edit.newText ++ after := by
  constructor
  · intro happly
    by_cases hread : t.textOf n = ""
    · rw [apply_of_textOf_eq_empty h haddress hspan hread] at happly
      cases happly
    · obtain ⟨before, after, htext, hstart⟩ := exists_split_of_textOf_ne_empty hread
      rw [apply_of_textOf_ne_empty h haddress hspan hread htext hstart] at happly
      cases happly
      exact ⟨hread, before, after, htext, hstart, rfl⟩
  · rintro ⟨hread, before, after, htext, hstart, rfl⟩
    exact apply_of_textOf_ne_empty h haddress hspan hread htext hstart

theorem apply_eq_none_iff (h : t.contains n offset = true) (haddress : t.stop n < addressLimit)
    (hspan : edit.span = t.span n) : edit.apply t.text = .ok none ↔ t.textOf n = "" := by
  constructor
  · intro happly
    by_cases hread : t.textOf n = ""
    · exact hread
    · obtain ⟨before, after, htext, hstart⟩ := exists_split_of_textOf_ne_empty hread
      rw [apply_of_textOf_ne_empty h haddress hspan hread htext hstart] at happly
      cases happly
  · exact apply_of_textOf_eq_empty h haddress hspan

end Tree

namespace Wrap

/-- **Edits on arbitrary ranges.** In a tree whose ranges end at addresses and are arbitrary
otherwise, let an edit be made, with whatever checker. It brings in a closure that forwards to the
identifier found at the cursor, it has an end, and the cursor lies in its span. It can be applied
exactly if the identifier could be read. The text is then the same before and after the identifier,
which gives way to the closure. -/
theorem edit_replaces_readable (checker : Checker) (t : Tree) (strict : Bool) (mode : ArrowParens)
    (offset : Nat) (edit : Edit) (haddresses : ∀ n < t.size, t.stop n < addressLimit)
    (hedit : buildEdit checker t strict mode offset = .ok edit) :
    ∃ n, t.locate? Tree.root offset = some n ∧ t.kind n = .identifier ∧
      (∃ names, edit.newText = (Expr.forward (t.textOf n) names).render mode) ∧
      (∃ stop, edit.span.stop = .ok stop ∧ edit.span.start ≤ offset ∧ offset < stop) ∧
      (∀ out, edit.apply t.text = .ok (some out) ↔
        t.textOf n ≠ "" ∧ ∃ before after, t.text = before ++ t.textOf n ++ after ∧
          Text.byteLength before = edit.span.start ∧ out = before ++ edit.newText ++ after) ∧
      (edit.apply t.text = .ok none ↔ t.textOf n = "") := by
  obtain ⟨target, htarget, c, rfl⟩ := buildEdit_eq_ok_iff.1 hedit
  obtain ⟨hfound, hkind, -⟩ := findTarget_eq_ok_iff.1 htarget
  have hholds := Tree.contains_of_locate? hfound
  have haddress := haddresses _ (Tree.lt_size_of_identifier hkind)
  exact ⟨target.identifier, hfound, hkind, ⟨c.names, rfl⟩,
    ⟨_, Tree.stop_span hholds haddress, Tree.contains_iff.1 hholds⟩,
    fun out => Tree.apply_eq_some_iff hholds haddress rfl,
    Tree.apply_eq_none_iff hholds haddress rfl⟩

/-- A call with three arguments. The first is in order, the second ends inside a character, and the
third starts there and ends at the last address. -/
def unreadableArguments : Tree :=
  .ofRows "main.ts" "function run(cb: (x) => 0) \x7b\x7d run(f, é);" .sourceFile [
    ⟨0, .functionDeclaration, none, 0, 29⟩,
    ⟨1, .identifier, some .name, 9, 12⟩,
    ⟨1, .parameter, some .parameter, 13, 25⟩,
    ⟨3, .identifier, some .name, 13, 15⟩,
    ⟨3, .functionType, some .type, 17, 25⟩,
    ⟨5, .parameter, some .parameter, 18, 19⟩,
    ⟨6, .identifier, some .name, 18, 19⟩,
    ⟨1, .block, some .body, 27, 29⟩,
    ⟨0, .expressionStatement, none, 30, 41⟩,
    ⟨9, .callExpression, none, 30, 40⟩,
    ⟨10, .identifier, some .callee, 30, 33⟩,
    ⟨10, .identifier, some .argument, 34, 35⟩,
    ⟨10, .identifier, some .argument, 37, 38⟩,
    ⟨10, .identifier, some .argument, 38, 18446744073709551615⟩]

/-- An edit is made for each of the three arguments, and only the first can be applied. -/
theorem edit_replaces_readable_unreadableArguments :
    (∀ n < unreadableArguments.size, unreadableArguments.stop n < addressLimit) ∧
      buildEdit .structural unreadableArguments true .always 34 =
        .ok ⟨"main.ts", ⟨34, 1⟩, "(x) => f(x)"⟩ ∧
      Edit.apply ⟨"main.ts", ⟨34, 1⟩, "(x) => f(x)"⟩ unreadableArguments.text =
        .ok (some "function run(cb: (x) => 0) \x7b\x7d run((x) => f(x), é);") ∧
      buildEdit .structural unreadableArguments true .always 37 =
        .ok ⟨"main.ts", ⟨37, 1⟩, "(x) => (x)"⟩ ∧
      Edit.apply ⟨"main.ts", ⟨37, 1⟩, "(x) => (x)"⟩ unreadableArguments.text = .ok none ∧
      buildEdit .structural unreadableArguments true .always 38 =
        .ok ⟨"main.ts", ⟨38, 18446744073709551577⟩, "(x) => (x)"⟩ ∧
      Edit.apply ⟨"main.ts", ⟨38, 18446744073709551577⟩, "(x) => (x)"⟩ unreadableArguments.text =
        .ok none := by
  have haddresses : ∀ n < unreadableArguments.size, unreadableArguments.stop n < addressLimit := by
    decide +kernel
  obtain ⟨hfirst, hsecond, hthird⟩ :
      buildEdit .structural unreadableArguments true .always 34 =
          .ok ⟨"main.ts", ⟨34, 1⟩, "(x) => f(x)"⟩ ∧
        buildEdit .structural unreadableArguments true .always 37 =
          .ok ⟨"main.ts", ⟨37, 1⟩, "(x) => (x)"⟩ ∧
        buildEdit .structural unreadableArguments true .always 38 =
          .ok ⟨"main.ts", ⟨38, 18446744073709551577⟩, "(x) => (x)"⟩ := by
    decide +kernel
  -- Which argument is found at each of the places, and what it reads.
  obtain ⟨hfound₁, hfound₂, hfound₃, hread₁, hread₂, hread₃⟩ :
      unreadableArguments.locate? Tree.root 34 = some 12 ∧
        unreadableArguments.locate? Tree.root 37 = some 13 ∧
        unreadableArguments.locate? Tree.root 38 = some 14 ∧
        unreadableArguments.textOf 12 = "f" ∧ unreadableArguments.textOf 13 = "" ∧
        unreadableArguments.textOf 14 = "" := by
    decide +kernel
  obtain ⟨n₁, h₁, -, -, -, happly, -⟩ := edit_replaces_readable _ _ _ _ _ _ haddresses hfirst
  obtain ⟨n₂, h₂, -, -, -, -, hnone₂⟩ := edit_replaces_readable _ _ _ _ _ _ haddresses hsecond
  obtain ⟨n₃, h₃, -, -, -, -, hnone₃⟩ := edit_replaces_readable _ _ _ _ _ _ haddresses hthird
  obtain rfl : n₁ = 12 := Option.some.inj (h₁.symm.trans hfound₁)
  obtain rfl : n₂ = 13 := Option.some.inj (h₂.symm.trans hfound₂)
  obtain rfl : n₃ = 14 := Option.some.inj (h₃.symm.trans hfound₃)
  refine ⟨haddresses, hfirst, (happly _).2 ?_, hsecond, hnone₂.2 hread₂, hthird, hnone₃.2 hread₃⟩
  rw [hread₁]
  exact ⟨by decide, "function run(cb: (x) => 0) \x7b\x7d run(", ", é);", by decide +kernel,
    by decide +kernel, by decide +kernel⟩

end Wrap

end ClosureWrap
