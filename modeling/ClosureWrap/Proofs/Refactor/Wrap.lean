import ClosureWrap.Refactor.Wrap
import ClosureWrap.Typing.Structural

/-!
# When an edit is made

Each stage of the refactoring either gives its result or names the first thing that is wrong. Read
backwards, a result says that nothing was wrong. Here that is said once for every stage, as an
equivalence, so that nothing else has to take the stages apart.

## Main definitions

* `Wrap.Callback`, `Wrap.Callback.names` — the function type that a call expects of its callback,
  and the names in it

## Main results

* `Wrap.findTarget_eq_ok_iff` — the identifiers that can be wrapped
* `Wrap.callbackParameters_eq_ok_iff` — the calls that expect a callback
* `Wrap.buildEdit_eq_ok_iff` — the edits that are made
-/

namespace ClosureWrap

namespace Wrap

/-- A child of a call refers to a name: a call introduces none. -/
theorem isReference_of_call {t : Tree} {n call : Nat} (hkind : t.kind n = .identifier)
    (hparent : t.parent n = some call) (hcall : t.kind call = .callExpression) :
    t.isReference n = true := by
  simp [Tree.isReference, Tree.isIntroducedName, Tree.parentKind?, hkind, hparent, hcall,
    Kind.introducesName]

theorem kind_of_isReference {t : Tree} {n : Nat} (h : t.isReference n = true) :
    t.kind n = .identifier := by
  simp only [Tree.isReference, Bool.and_eq_true, beq_iff_eq] at h
  exact h.1

theorem enclosingCall?_eq_some_iff {t : Tree} {n call : Nat} :
    t.enclosingCall? n = some call ↔
      t.parent n = some call ∧ t.kind call = .callExpression := by
  simp [Tree.enclosingCall?, Option.filter_eq_some_iff]

theorem isCallArgument_iff {t : Tree} {n call : Nat} (hparent : t.parent n = some call)
    (hcall : t.kind call = .callExpression) :
    t.isCallArgument n = true ↔ t.role n = some .argument := by
  simp [Tree.isCallArgument, Tree.parentKind?, hparent, hcall]

/-- **The identifiers that can be wrapped** stand right below a call, and if `strict` is set they
are arguments of it. -/
theorem findTarget_eq_ok_iff {t : Tree} {offset : Nat} {strict : Bool} {target : Target} :
    findTarget t offset strict = .ok target ↔
      t.locate? Tree.root offset = some target.identifier ∧
        t.kind target.identifier = .identifier ∧
        t.parent target.identifier = some target.call ∧
        t.kind target.call = .callExpression ∧
        (strict = true → t.role target.identifier = some .argument) := by
  obtain ⟨n, call⟩ := target
  constructor
  · intro h
    unfold findTarget at h
    split at h
    · cases h
    · rename_i m hm
      split at h
      · cases h
      · rename_i href
        split at h
        · cases h
        · rename_i hcall
          split at h
          · cases h
          · rename_i hstrict
            cases h
            rw [Bool.not_eq_true', Bool.not_eq_false] at href
            obtain ⟨hparent, hkind⟩ := enclosingCall?_eq_some_iff.1 hcall
            refine ⟨hm, kind_of_isReference href, hparent, hkind, fun hs => ?_⟩
            rw [← isCallArgument_iff hparent hkind]
            simpa [hs] using hstrict
  · rintro ⟨hm, hkind, hparent, hcall, hstrict⟩
    have href := isReference_of_call hkind hparent hcall
    have henclosing := enclosingCall?_eq_some_iff.2 ⟨hparent, hcall⟩
    have harg : (strict && !t.isCallArgument n) = false := by
      cases strict with
      | false => rfl
      | true => simp [isCallArgument_iff hparent hcall, hstrict rfl]
    simp only [findTarget, hm, href, henclosing, harg, Bool.not_true, Bool.false_eq_true, if_false]

/-! ### Callbacks -/

/-- The function type with which the first parameter of what `call` calls is annotated. -/
structure Callback (checker : Checker) (t : Tree) (call : Nat) where
  /-- The way of calling that the call settles on. -/
  signature : Signature NodeRef
  /-- The first parameter of it. -/
  first : ParameterSymbol NodeRef
  /-- Where that parameter is declared. -/
  declaration : NodeRef
  /-- The type that is written there, in the tree of the declaration. -/
  functionType : Nat
  resolved : checker.resolvedSignature t call = some signature
  first_eq : signature.parameters.head? = some first
  declared : first.declaration = some declaration
  isParameter : declaration.kind = .parameter
  annotated : declaration.tree.childWith? declaration.number .type = some functionType
  isFunctionType : declaration.tree.kind functionType = .functionType

/-- The tree in which a callback is written, not necessarily that of the call. -/
def Callback.home {checker : Checker} {t : Tree} {call : Nat}
    (c : Callback checker t call) : Tree :=
  c.declaration.tree

/-- The names of the parameters of a callback, in order. -/
def Callback.names {checker : Checker} {t : Tree} {call : Nat} (c : Callback checker t call) :
    List String :=
  (c.home.childrenWith c.functionType .parameter).map c.home.parameterName

theorem Callback.mem_names {checker : Checker} {t : Tree} {call : Nat}
    {c : Callback checker t call} {name : String} :
    name ∈ c.names ↔
      ∃ p ∈ c.home.childrenWith c.functionType .parameter, c.home.parameterName p = name :=
  List.mem_map

/-- What the structural checker finds is written in the tree of the call. -/
theorem Callback.home_structural {t : Tree} {call : Nat} (c : Callback .structural t call) :
    c.home = t := by
  obtain ⟨w, -, hw⟩ := Checker.exists_of_resolvedSignature c.resolved
  have hfirst : c.first ∈ (w.map t.ref).parameters := hw ▸ List.mem_of_mem_head? c.first_eq
  obtain ⟨p, -, hp⟩ := List.mem_map.1 hfirst
  have hdeclared : p.declaration.map t.ref = some c.declaration := by
    rw [← c.declared, ← hp]
    rfl
  obtain ⟨d, -, hd⟩ := Option.map_eq_some_iff.1 hdeclared
  rw [home, ← hd]
  rfl

/-- **The calls that expect a callback** are those whose first parameter has a function type. -/
theorem callbackParameters_eq_ok_iff {checker : Checker} {t : Tree} {call : Nat}
    {names : List String} :
    callbackParameters checker t call = .ok names ↔
      ∃ c : Callback checker t call, names = c.names := by
  constructor
  · intro h
    unfold callbackParameters at h
    split at h
    · cases h
    · rename_i first hfirst
      split at h
      · cases h
      · rename_i home declaration hdeclaration
        simp only at h
        split at h
        · cases h
        · rename_i functionType htype
          cases h
          obtain ⟨signature, hresolved, hhead⟩ := Option.bind_eq_some_iff.1 hfirst
          obtain ⟨hdeclared, hparameter⟩ := Option.filter_eq_some_iff.1 hdeclaration
          obtain ⟨hannotated, hfunction⟩ := Option.filter_eq_some_iff.1 htype
          exact ⟨⟨signature, first, ⟨home, declaration⟩, functionType, hresolved, hhead, hdeclared,
            by simpa using hparameter, hannotated, by simpa using hfunction⟩, rfl⟩
  · rintro ⟨c, rfl⟩
    simp only [callbackParameters, c.resolved, c.first_eq, c.declared, c.isParameter, c.annotated,
      c.isFunctionType, Option.bind_some, Option.filter_some, beq_self_eq_true, if_true]
    rfl

/-- A call expects one callback. -/
theorem Callback.names_eq {checker : Checker} {t : Tree} {call : Nat}
    (c d : Callback checker t call) : c.names = d.names := by
  have hc := callbackParameters_eq_ok_iff.2 ⟨c, rfl⟩
  have hd := callbackParameters_eq_ok_iff.2 ⟨d, rfl⟩
  exact Except.ok.inj (hc.symm.trans hd)

/-- **The edits that are made**: the identifier gives way to a closure that forwards to it. -/
theorem buildEdit_eq_ok_iff {checker : Checker} {t : Tree} {strict : Bool} {mode : ArrowParens}
    {offset : Nat} {edit : Edit} :
    buildEdit checker t strict mode offset = .ok edit ↔
      ∃ target, findTarget t offset strict = .ok target ∧
        ∃ c : Callback checker t target.call,
          edit = ⟨t.fileName, t.span target.identifier,
            (Expr.forward (t.textOf target.identifier) c.names).render mode⟩ := by
  constructor
  · intro h
    unfold buildEdit at h
    split at h
    · cases h
    · rename_i target htarget
      cases hnames : callbackParameters checker t target.call with
      | error e =>
        rw [hnames] at h
        cases h
      | ok names =>
        rw [hnames] at h
        cases h
        obtain ⟨c, rfl⟩ := callbackParameters_eq_ok_iff.1 hnames
        exact ⟨target, htarget, c, rfl⟩
  · rintro ⟨target, htarget, c, rfl⟩
    rw [buildEdit, htarget]
    simp only
    rw [callbackParameters_eq_ok_iff.2 ⟨c, rfl⟩]
    rfl

end Wrap

end ClosureWrap
