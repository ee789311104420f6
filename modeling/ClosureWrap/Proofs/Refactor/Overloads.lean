import ClosureWrap.Proofs.Binding.Innermost
import ClosureWrap.Proofs.Refactor.Refusal
import ClosureWrap.Proofs.Typing.Chains

/-!
# Which overload a call settles on

A name can stand for several functions at once. The ones without a body announce ways of calling,
and behind them the one with a body is hidden, which only carries them out. Of those that are left a
call takes the first that has a parameter for each argument, and if none has, the first of all: a
call with too many arguments is not refused.

The rule is stated here on the declarations in the order of the source, by what comes before the
function that is taken. The checker chooses among signatures instead, after it has dropped the
hidden functions, so the proofs carry the choice back over both steps.

An edit suffers from this rule in one case. If the first visible function has no parameter at all, a
call with too many arguments falls back on it, and there is nothing from which the closure could be
made.

## Main definitions

* `Tree.functionsNamed` — the functions for which an identifier stands
* `Tree.VisibleAmong` — a function that is not hidden behind overloads
* `Tree.IsFirst`, `Tree.Settles` — the first node of some kind in a list, and the rule

## Main results

* `Tree.visibleFunctions_eq_filter` — the functions that are not dropped are the visible ones
* `Tree.exists_settles` — the signature that is chosen follows the rule
* `Wrap.call_settles_on_overload` — the rule for calls, and when it leaves an edit without a
  parameter
-/

namespace ClosureWrap

namespace Tree

/-! ### The rule -/

/-- The functions for which identifier `n` stands. -/
def functionsNamed (t : Tree) (n : Nat) : List Nat :=
  (t.declarationsOf n).filter fun d => t.kind d == .functionDeclaration

/-- Function `f` is visible among `fs`: if it is not alone and some of them has no body, then it has
none itself. -/
def VisibleAmong (t : Tree) (fs : List Nat) (f : Nat) : Prop :=
  1 < fs.length → (∃ g ∈ fs, t.childWith? g .body = none) → t.childWith? f .body = none

instance (t : Tree) (fs : List Nat) (f : Nat) : Decidable (t.VisibleAmong fs f) :=
  inferInstanceAs (Decidable (_ → _ → _))

/-- Node `n` is the first in the list for which `holds` is true. -/
def IsFirst (holds : Nat → Prop) (nodes : List Nat) (n : Nat) : Prop :=
  ∃ before after, nodes = before ++ n :: after ∧ holds n ∧ ∀ m ∈ before, ¬ holds m

/-- A call of `fs` with so many arguments settles on `f`: the first visible function with at least
as many parameters, or the first visible one if none has that many. -/
def Settles (t : Tree) (fs : List Nat) (arguments f : Nat) : Prop :=
  IsFirst (fun g => t.VisibleAmong fs g ∧ arguments ≤ (t.childrenWith g .parameter).length) fs f ∨
    (∀ g ∈ fs, t.VisibleAmong fs g → (t.childrenWith g .parameter).length < arguments) ∧
      IsFirst (t.VisibleAmong fs) fs f

section First

variable {holds : Nat → Prop} {nodes : List Nat} {m n : Nat}

theorem isFirst_iff_find? [DecidablePred holds] :
    IsFirst holds nodes n ↔ (nodes.find? fun m => holds m) = some n := by
  rw [List.find?_eq_some_iff_append]
  constructor
  · rintro ⟨before, after, heq, hn, hbefore⟩
    exact ⟨decide_eq_true hn, before, after, heq, fun m hm => by simpa using hbefore m hm⟩
  · rintro ⟨hn, before, after, heq, hbefore⟩
    exact ⟨before, after, heq, of_decide_eq_true hn, fun m hm => by simpa using hbefore m hm⟩

instance [DecidablePred holds] (nodes : List Nat) (n : Nat) : Decidable (IsFirst holds nodes n) :=
  decidable_of_iff _ isFirst_iff_find?.symm

theorem IsFirst.unique (hm : IsFirst holds nodes m) (hn : IsFirst holds nodes n) : m = n := by
  classical
  rw [isFirst_iff_find?] at hm hn
  exact Option.some.inj (hm.symm.trans hn)

theorem IsFirst.mem (h : IsFirst holds nodes n) : n ∈ nodes := by
  obtain ⟨before, after, rfl, -⟩ := h
  exact List.mem_append_right _ List.mem_cons_self

theorem IsFirst.here (h : IsFirst holds nodes n) : holds n := by
  obtain ⟨_, _, -, hn, -⟩ := h
  exact hn

end First

variable {t : Tree} {fs : List Nat} {arguments f : Nat}

instance (t : Tree) (fs : List Nat) (arguments f : Nat) : Decidable (t.Settles fs arguments f) :=
  inferInstanceAs (Decidable (_ ∨ _))

theorem Settles.mem (h : t.Settles fs arguments f) : f ∈ fs :=
  h.elim IsFirst.mem fun h => h.2.mem

theorem Settles.visible (h : t.Settles fs arguments f) : t.VisibleAmong fs f :=
  h.elim (fun h => h.here.1) fun h => h.2.here

/-- An implementation is not settled on while there is an overload. -/
theorem Settles.body_eq_none (h : t.Settles fs arguments f)
    (hoverload : ∃ g ∈ fs, t.childWith? g .body = none) : t.childWith? f .body = none := by
  rcases Nat.lt_or_ge 1 fs.length with hmany | hone
  · exact h.visible hmany hoverload
  · -- The overload is the only function there is.
    obtain ⟨g, hg, hbody⟩ := hoverload
    have hlength : fs.length = 1 := Nat.le_antisymm hone (List.length_pos_of_mem hg)
    obtain ⟨only, rfl⟩ := List.length_eq_one_iff.1 hlength
    rw [List.mem_singleton.1 h.mem, ← List.mem_singleton.1 hg]
    exact hbody

/-- What a call with arguments settles on has no parameter exactly if the first visible function has
none and no visible function has enough. -/
theorem Settles.parameters_eq_nil_iff (h : t.Settles fs arguments f) (hpos : 0 < arguments) :
    t.childrenWith f .parameter = [] ↔
      (∃ g, IsFirst (t.VisibleAmong fs) fs g ∧ t.childrenWith g .parameter = []) ∧
        ∀ g ∈ fs, t.VisibleAmong fs g → (t.childrenWith g .parameter).length < arguments := by
  rcases h with hfirst | ⟨hfew, hfirst⟩
  · obtain ⟨hvisible, henough⟩ := hfirst.here
    constructor
    · intro hnone
      rw [hnone] at henough
      exact absurd henough (Nat.not_le.2 hpos)
    · rintro ⟨-, hfew⟩
      exact absurd (hfew f hfirst.mem hvisible) (Nat.not_lt.2 henough)
  · constructor
    · intro hnone
      exact ⟨⟨f, hfirst, hnone⟩, hfew⟩
    · rintro ⟨⟨g, hg, hnone⟩, -⟩
      rw [hfirst.unique hg]
      exact hnone

/-! ### The choice -/

/-- **The functions that are not dropped are the visible ones.** -/
theorem visibleFunctions_eq_filter (t : Tree) (ds : List Nat) :
    t.visibleFunctions ds =
      (ds.filter fun d => t.kind d == .functionDeclaration).filter fun f =>
        t.VisibleAmong (ds.filter fun d => t.kind d == .functionDeclaration) f := by
  unfold visibleFunctions
  generalize ds.filter (fun d => t.kind d == .functionDeclaration) = fs
  have hbodiless : (fs.filter fun f => (t.childWith? f .body).isNone) ≠ [] ↔
      ∃ g ∈ fs, t.childWith? g .body = none := by
    simp
  simp only
  split
  next hhidden =>
    refine List.filter_congr fun f _ => ?_
    rw [Bool.eq_iff_iff, Option.isNone_iff_eq_none, decide_eq_true_iff]
    exact ⟨fun hbody _ _ => hbody, fun hvisible => hvisible hhidden.1 (hbodiless.1 hhidden.2)⟩
  next hnone =>
    refine (List.filter_eq_self.2 fun f _ => decide_eq_true fun hmany hoverload => ?_).symm
    exact absurd ⟨hmany, hbodiless.2 hoverload⟩ hnone

theorem length_parameters_signatureOf (t : Tree) (f : Nat) :
    (t.signatureOf f).parameters.length = (t.childrenWith f .parameter).length :=
  List.length_map _

/-- To choose among the signatures of functions is to choose among the functions. -/
theorem overload?_map_signatureOf (t : Tree) (vs : List Nat) (arguments : Nat) :
    overload? (vs.map t.signatureOf) arguments =
      ((vs.find? fun f => arguments ≤ (t.childrenWith f .parameter).length).or vs.head?).map
        t.signatureOf := by
  simp only [overload?, Option.orElse_eq_orElse, Option.orElse_eq_or, List.find?_map,
    List.head?_map, Function.comp_def, length_parameters_signatureOf, Option.map_or]

/-- **The signature that is chosen follows the rule**, if there is a visible function. -/
theorem exists_settles (arguments : Nat) (h : (fs.filter fun f => t.VisibleAmong fs f) ≠ []) :
    ∃ f, overload? ((fs.filter fun f => t.VisibleAmong fs f).map t.signatureOf) arguments =
        some (t.signatureOf f) ∧
      t.Settles fs arguments f := by
  rw [overload?_map_signatureOf, List.find?_filter, List.head?_filter]
  simp only [decide_eq_true_eq]
  cases henough : fs.find? fun g =>
      t.VisibleAmong fs g ∧ arguments ≤ (t.childrenWith g .parameter).length with
  | some f => exact ⟨f, rfl, .inl (isFirst_iff_find?.2 henough)⟩
  | none =>
    have hfew : ∀ g ∈ fs, t.VisibleAmong fs g →
        (t.childrenWith g .parameter).length < arguments := by
      intro g hg hvisible
      have hnot := List.find?_eq_none.1 henough g hg
      simpa [hvisible] using hnot
    cases hfirst : fs.find? fun g => t.VisibleAmong fs g with
    | some f => exact ⟨f, rfl, .inr ⟨hfew, isFirst_iff_find?.2 hfirst⟩⟩
    | none =>
      rw [← List.head?_filter, List.head?_eq_none_iff] at hfirst
      exact absurd hfirst h

/-- The way of calling an identifier that stands for functions. -/
theorem resolvedSignature_of_functions {call callee : Nat} (hcall : t.kind call = .callExpression)
    (hcallee : t.childWith? call .callee = some callee) (hkind : t.kind callee = .identifier)
    (hfunction : t.declaresFunction (t.declarationsOf callee) = true) :
    ∃ f, Checker.structural.resolvedSignature t call = some ((t.signatureOf f).map t.ref) ∧
      t.Settles (t.functionsNamed callee) (t.childrenWith call .argument).length f := by
  have hends : t.endSignatures? (.expression callee) =
      some ((t.visibleFunctions (t.declarationsOf callee)).map t.signatureOf) := by
    simp only [endSignatures?, hkind, hfunction, if_true]
  have htype : t.expressionType typingBudget callee =
      ⟨(t.visibleFunctions (t.declarationsOf callee)).map t.signatureOf⟩ :=
    typeAt_of_endSignatures? hends 16
  have hsome : t.visibleFunctions (t.declarationsOf callee) ≠ [] := by
    rw [ne_eq, visibleFunctions_eq_nil_iff, hfunction]
    exact Bool.noConfusion
  rw [visibleFunctions_eq_filter] at htype hsome
  obtain ⟨f, hchosen, hsettles⟩ := exists_settles (t.childrenWith call .argument).length hsome
  refine ⟨f, ?_, hsettles⟩
  have hsettled : t.callSignature? typingBudget call = some (t.signatureOf f) := by
    simp only [callSignature?, settle?, hcallee, Option.bind_some, htype]
    exact hchosen
  rw [Checker.resolvedSignature_structural hcall, hsettled, Option.map_some]

/-! ### Calls and edits -/

/-- What a name means stands in the order of the walk from the root. -/
theorem resolve_sublist_root (t : Tree) (n : Nat) (name : String) (space : Namespace) :
    (t.resolve n name space).Sublist (t.preorder root) := by
  by_cases hfound : t.resolve n name space = []
  · rw [hfound]
    exact List.nil_sublist _
  · obtain ⟨s, hs, heq, -⟩ := exists_scope_of_resolve hfound
    have hsize : s < t.size := lt_size_of_kind fun hunknown => by
      have hscope := (mem_scopes.1 hs).2
      rw [hunknown] at hscope
      cases hscope
    rw [heq, ownDeclarations_eq_owned]
    exact (t.owned_sublist_preorder name space s).trans (preorder_sublist_root hsize)

end Tree

namespace Wrap

open ClosureWrap.Tree

variable {t : Tree} {mode : ArrowParens} {offset : Nat}

/-- Where there is something to wrap, a parameter is missing exactly if the call of it settles on
nothing that has one. -/
theorem buildEdit_eq_noParameter_iff {checker : Checker} {strict : Bool} {target : Target}
    (htarget : findTarget t offset strict = .ok target) {text : String} :
    buildEdit checker t strict mode offset = .error (.noParameter text) ↔
      text = calleeText t target.call ∧
        ((checker.resolvedSignature t target.call).bind fun s => s.parameters.head?) = none := by
  rw [buildEdit_eq_error_iff, htarget]
  constructor
  · rintro (⟨_, h, -⟩ | ⟨found, hfound, hlacks⟩)
    · cases h
    · cases hfound
      cases hlacks with
      | noParameter hunknown => exact ⟨rfl, hunknown⟩
  · rintro ⟨rfl, hunknown⟩
    exact .inr ⟨target, rfl, .noParameter hunknown⟩

/-- What is wrapped in strict mode is an argument of its call, so the call has one. -/
theorem arguments_pos {target : Target} (h : findTarget t offset true = .ok target) :
    0 < (t.childrenWith target.call .argument).length := by
  obtain ⟨-, -, hparent, -, hargument⟩ := findTarget_eq_ok_iff.1 h
  exact List.length_pos_of_mem (mem_childrenWith.2 ⟨mem_children_of_parent hparent, hargument rfl⟩)

/-- **A call settles on an overload.** Let a call have an identifier as its callee that stands for
functions, among other things. These functions stand in the order of the source. The call settles on
the signature of the first visible one that has a parameter for each argument, or of the first
visible one if none has, and never on an implementation while there is an overload. In strict mode
an edit of an argument of the call is refused for the lack of a parameter exactly if the first
visible function has none and every visible function has fewer than there are arguments. -/
theorem call_settles_on_overload (t : Tree) (call callee : Nat)
    (hcall : t.kind call = .callExpression)
    (hcallee : t.childWith? call .callee = some callee) (hkind : t.kind callee = .identifier)
    (hfunction : ∃ d ∈ t.declarationsOf callee, t.kind d = .functionDeclaration) :
    (t.functionsNamed callee).Sublist (t.preorder root) ∧
      (∃ f, Checker.structural.resolvedSignature t call = some ((t.signatureOf f).map t.ref) ∧
        t.Settles (t.functionsNamed callee) (t.childrenWith call .argument).length f ∧
        ((∃ g ∈ t.functionsNamed callee, t.childWith? g .body = none) →
          t.childWith? f .body = none)) ∧
      ∀ offset mode target text, findTarget t offset true = .ok target → target.call = call →
        (buildEdit .structural t true mode offset = .error (.noParameter text) ↔
          text = t.textOf callee ∧
            (∃ g, IsFirst (t.VisibleAmong (t.functionsNamed callee)) (t.functionsNamed callee) g ∧
              t.childrenWith g .parameter = []) ∧
            ∀ g ∈ t.functionsNamed callee, t.VisibleAmong (t.functionsNamed callee) g →
              (t.childrenWith g .parameter).length < (t.childrenWith call .argument).length) := by
  obtain ⟨hchild, hrole⟩ := mem_children_of_childWith? hcallee
  have hdeclares : t.declaresFunction (t.declarationsOf callee) = true := by
    obtain ⟨d, hd, hdkind⟩ := hfunction
    exact List.any_eq_true.2 ⟨d, hd, by rw [hdkind]; rfl⟩
  obtain ⟨f, hresolved, hsettles⟩ := resolvedSignature_of_functions hcall hcallee hkind hdeclares
  refine ⟨?_, ⟨f, hresolved, hsettles, hsettles.body_eq_none⟩, ?_⟩
  · rw [functionsNamed,
      declarationsOf_of_call hkind (mem_children.1 hchild).2 hcall (by simp [hrole])]
    exact List.filter_sublist.trans (t.resolve_sublist_root ..)
  · rintro offset mode target text htarget rfl
    have htext : calleeText t target.call = t.textOf callee := by
      rw [calleeText, hcallee, Option.getD_some]
    have hnone : ((t.signatureOf f).map t.ref).parameters.head? = none ↔
        t.childrenWith f .parameter = [] := by
      rw [List.head?_eq_none_iff, Signature.map, List.map_eq_nil_iff, signatureOf,
        List.map_eq_nil_iff]
    rw [buildEdit_eq_noParameter_iff htarget, htext, hresolved, Option.bind_some, hnone,
      hsettles.parameters_eq_nil_iff (arguments_pos htarget)]

/-- Two overloads, the first without parameters, a variable of the same name, the implementation,
and two calls. -/
def overloadedTwice : Tree :=
  .ofRows "main.ts" "function f(); var f; function f(a, b); function f(a) {} f(g); f(g, g, g);"
    .sourceFile [
      ⟨0, .functionDeclaration, none, 0, 13⟩,
      ⟨1, .identifier, some .name, 9, 10⟩,
      ⟨0, .variableStatement, none, 14, 20⟩,
      ⟨3, .variableDeclaration, none, 18, 19⟩,
      ⟨4, .identifier, some .name, 18, 19⟩,
      ⟨0, .functionDeclaration, none, 21, 38⟩,
      ⟨6, .identifier, some .name, 30, 31⟩,
      ⟨6, .parameter, some .parameter, 32, 33⟩,
      ⟨8, .identifier, some .name, 32, 33⟩,
      ⟨6, .parameter, some .parameter, 35, 36⟩,
      ⟨10, .identifier, some .name, 35, 36⟩,
      ⟨0, .functionDeclaration, none, 39, 55⟩,
      ⟨12, .identifier, some .name, 48, 49⟩,
      ⟨12, .parameter, some .parameter, 50, 51⟩,
      ⟨14, .identifier, some .name, 50, 51⟩,
      ⟨12, .block, some .body, 53, 55⟩,
      ⟨0, .expressionStatement, none, 56, 61⟩,
      ⟨17, .callExpression, none, 56, 60⟩,
      ⟨18, .identifier, some .callee, 56, 57⟩,
      ⟨18, .identifier, some .argument, 58, 59⟩,
      ⟨0, .expressionStatement, none, 62, 73⟩,
      ⟨21, .callExpression, none, 62, 72⟩,
      ⟨22, .identifier, some .callee, 62, 63⟩,
      ⟨22, .identifier, some .argument, 64, 65⟩,
      ⟨22, .identifier, some .argument, 67, 68⟩,
      ⟨22, .identifier, some .argument, 70, 71⟩]

/-- The first call, node 18, passes over the overload without parameters and settles on the second
one, node 6, although the implementation has just as many parameters as there are arguments. The
second call, node 22, has too many arguments for both overloads and falls back on the first. -/
theorem call_settles_on_overload_overloadedTwice :
    overloadedTwice.declarationsOf 19 = [1, 4, 6, 12] ∧
      overloadedTwice.functionsNamed 19 = [1, 6, 12] ∧
      overloadedTwice.Settles (overloadedTwice.functionsNamed 19) 1 6 ∧
      (∃ f, Checker.structural.resolvedSignature overloadedTwice 18 =
          some ((overloadedTwice.signatureOf f).map overloadedTwice.ref) ∧
        overloadedTwice.Settles (overloadedTwice.functionsNamed 19)
          (overloadedTwice.childrenWith 18 .argument).length f ∧
        overloadedTwice.childWith? f .body = none) ∧
      buildEdit .structural overloadedTwice true .asNeeded 67 = .error (.noParameter "f") := by
  obtain ⟨hdeclarations, hnamed, hsettles⟩ :
      overloadedTwice.declarationsOf 19 = [1, 4, 6, 12] ∧
        overloadedTwice.functionsNamed 19 = [1, 6, 12] ∧
        overloadedTwice.Settles (overloadedTwice.functionsNamed 19) 1 6 := by
    decide +kernel
  obtain ⟨-, ⟨f, hresolved, hf, hbody⟩, -⟩ := call_settles_on_overload overloadedTwice 18 19
    (by decide +kernel) (by decide +kernel) (by decide +kernel) (by decide +kernel)
  obtain ⟨-, -, hrefused⟩ := call_settles_on_overload overloadedTwice 22 23
    (by decide +kernel) (by decide +kernel) (by decide +kernel) (by decide +kernel)
  have htarget : findTarget overloadedTwice 67 true = .ok ⟨25, 22⟩ := by decide +kernel
  have hfallback : IsFirst (overloadedTwice.VisibleAmong (overloadedTwice.functionsNamed 23))
        (overloadedTwice.functionsNamed 23) 1 ∧ overloadedTwice.childrenWith 1 .parameter = [] := by
    decide +kernel
  exact ⟨hdeclarations, hnamed, hsettles, ⟨f, hresolved, hf, hbody (by decide +kernel)⟩,
    (hrefused 67 .asNeeded _ "f" htarget rfl).2
      ⟨by decide +kernel, ⟨1, hfallback⟩, by decide +kernel⟩⟩

end Wrap

end ClosureWrap
