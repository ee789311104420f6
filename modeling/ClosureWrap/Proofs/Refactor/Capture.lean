import ClosureWrap.Proofs.Refactor.Contract

/-!
# When a closure forwards to the original

A reference is wrapped to be called later with the parameters of the callback, and the closure is
meant to call what the reference stood for. Its parameters are named by whoever declared the callee,
its target by whoever wrote the call, and neither knows of the other. If the two names meet, the
parameter captures the target: the closure calls one of its own parameters, and what it was meant to
call is lost.

Among plain names this is the only way in which forwarding fails. As long as no parameter has the
name of the wrapped identifier, the closure refers to the declarations that the identifier stood
for, and to nothing else.

## Main definitions

* `Tree.referents?` — what an expression refers to in the place of a node

## Main results

* `Tree.referents?_forward` — what a forwarding closure refers to
* `Wrap.forwards_unless_captured` — when the closure that an edit writes forwards to the original
-/

namespace ClosureWrap

namespace Tree

/-- The free names of a plain expression, each with the declarations that it means when the
expression stands in the place of node `n`. -/
def referents? (t : Tree) (n : Nat) (e : Expr) : Option (List (String × List Nat)) :=
  if e.isPlain then some (e.free.map fun name => (name, t.resolve n name .value)) else none

theorem referents?_of_isPlain {t : Tree} {n : Nat} {e : Expr} (h : e.isPlain = true) :
    t.referents? n e = some (e.free.map fun name => (name, t.resolve n name .value)) :=
  if_pos h

/-- A forwarding closure refers to its target, unless a parameter captures it. -/
theorem referents?_forward {t : Tree} {n : Nat} {target : String} {names : List String}
    (h : (Expr.forward target names).isPlain = true) :
    t.referents? n (.forward target names) =
      some (if target ∈ names then [] else [(target, t.resolve n target .value)]) := by
  rw [referents?_of_isPlain h, Expr.free_forward]
  split <;> rfl

end Tree

namespace Wrap

/-- **A closure forwards to the original unless a parameter captures it.** Whenever an edit is made,
it writes the closure that forwards to the identifier `n` at the offset, and the parameters of the
closure are those of the callback that the call expects. If none of these has the text of `n` as its
name, the closure refers to the declarations of `n` and to nothing else; if one has, it refers to
nothing outside.
-/
theorem forwards_unless_captured {checker : Checker} {t : Tree} {strict : Bool} {mode : ArrowParens}
    {offset : Nat} {edit : Edit} (h : buildEdit checker t strict mode offset = .ok edit) :
    ∃ (n call : Nat) (c : Callback checker t call) (closure : Expr),
      t.locate? Tree.root offset = some n ∧ t.parent n = some call ∧
      closure = .forward (t.textOf n) c.names ∧
      edit = ⟨t.fileName, t.span n, closure.render mode⟩ ∧
      (closure.isPlain = true → t.role n ≠ some .property →
        ((∀ p ∈ c.home.childrenWith c.functionType .parameter,
            c.home.parameterName p ≠ t.textOf n) →
          t.referents? n closure = some [(t.textOf n, t.declarationsOf n)]) ∧
        ((∃ p ∈ c.home.childrenWith c.functionType .parameter,
            c.home.parameterName p = t.textOf n) →
          t.referents? n closure = some [])) := by
  obtain ⟨⟨n, call⟩, htarget, c, rfl⟩ := buildEdit_eq_ok_iff.1 h
  obtain ⟨hlocate, hkind, hparent, hcall, _⟩ := findTarget_eq_ok_iff.1 htarget
  refine ⟨n, call, c, .forward (t.textOf n) c.names, hlocate, hparent, rfl, rfl, ?_⟩
  intro hplain hrole
  rw [Tree.referents?_forward hplain]
  refine ⟨fun hfree => ?_, fun hcaptured => ?_⟩
  · have hnot : t.textOf n ∉ c.names := by
      intro hmem
      obtain ⟨p, hp, hname⟩ := Callback.mem_names.1 hmem
      exact hfree p hp hname
    rw [if_neg hnot, Tree.declarationsOf_of_call hkind hparent hcall hrole]
  · rw [if_pos (Callback.mem_names.2 hcaptured)]

/-- The argument of `Session.callWithCallback` is captured. It stands for the function that node 12
declares, and the closure that is written in its place refers to no declaration. -/
theorem argument_captured :
    buildEdit .structural (.ofSource Session.callWithCallback) true .asNeeded 71 =
        .ok ⟨"main.ts", ⟨70, 2⟩, "(fn, b) => fn(fn, b)"⟩ ∧
      (Expr.forward "fn" ["fn", "b"]).render .asNeeded = "(fn, b) => fn(fn, b)" ∧
      (Tree.ofSource Session.callWithCallback).declarationsOf 18 = [12] ∧
      (Tree.ofSource Session.callWithCallback).referents? 18 (.forward "fn" ["fn", "b"]) =
        some [] := by
  have hcontained : (Tree.ofSource Session.callWithCallback).contained "fn" .value 0 = [12] := by
    rw [Tree.contained_eq]
    decide +kernel
  have hwell : Session.callWithCallback.WellFormed := by decide +kernel
  have htarget : findTarget (.ofSource Session.callWithCallback) 71 true = .ok ⟨18, 16⟩ :=
    Session.siteOfArgument.findTarget_eq hwell
  obtain ⟨hfound, hkind, habove, hcall, hrole⟩ := findTarget_eq_ok_iff.1 htarget
  obtain ⟨htext, hnames, hplain, hrender, hspan, hfile⟩ :
      (Tree.ofSource Session.callWithCallback).textOf 18 = "fn" ∧
        Session.callbackOfCall.names = ["fn", "b"] ∧
        (Expr.forward "fn" ["fn", "b"]).isPlain = true ∧
        (Expr.forward "fn" ["fn", "b"]).render .asNeeded = "(fn, b) => fn(fn, b)" ∧
        (Tree.ofSource Session.callWithCallback).span 18 = ⟨70, 2⟩ ∧
        Session.callWithCallback.name = "main.ts" := by
    decide +kernel
  have hbuild : buildEdit .structural (.ofSource Session.callWithCallback) true .asNeeded 71 =
      .ok ⟨"main.ts", ⟨70, 2⟩, "(fn, b) => fn(fn, b)"⟩ := by
    refine buildEdit_eq_ok_iff.2 ⟨⟨18, 16⟩, htarget, Session.callbackOfCall, ?_⟩
    simp only [Tree.fileName_ofSource, hfile, hspan, htext, hnames, hrender]
  obtain ⟨n, call, c, closure, hlocate, hparent, rfl, -, hmeaning⟩ :=
    forwards_unless_captured hbuild
  obtain rfl : 18 = n := Option.some.inj (hfound.symm.trans hlocate)
  obtain rfl : 16 = call := Option.some.inj (habove.symm.trans hparent)
  have hsame : c.names = ["fn", "b"] := (c.names_eq Session.callbackOfCall).trans hnames
  have hcaptured : "fn" ∈ c.names := by
    rw [hsame]
    exact List.mem_cons_self
  have hproperty : (Tree.ofSource Session.callWithCallback).role 18 ≠ some .property := by
    rw [hrole rfl]
    decide
  rw [hsame, htext] at hmeaning
  refine ⟨hbuild, hrender, ?_, (hmeaning hplain hproperty).2 (Callback.mem_names.1 hcaptured)⟩
  rw [Tree.declarationsOf_of_call hkind habove hcall hproperty, htext,
    Session.resolve_callWithCallback "fn" habove, hcontained]

end Wrap

end ClosureWrap
