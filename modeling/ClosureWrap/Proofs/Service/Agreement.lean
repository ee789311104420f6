import ClosureWrap.Proofs.Refactor.Refusal
import ClosureWrap.Proofs.Service.Decorate

/-!
# Offer and edit

An editor first asks what is offered and later, in another request, for the edits. The two requests
look for the file and for the identifier on their own, and nothing is kept from the first to the
second. They nevertheless agree on the place: where the refactoring was offered, a request for its
edits is never refused because of the place and never left to the host. It is refused only for what
the call lacks.

The other way round, a request that is not refused because of its place is made where the
refactoring is offered, unless the identifier cannot be called: an edit does not depend on that.

Between the two requests the host may change its state; its files are the same.

## Main definitions

* `LanguageService.listed`, `LanguageService.answer` — the answers of a service in a given state

## Main results

* `LanguageService.appended_iff` — when a decorated service appends the refactoring
* `LanguageService.offer_agrees_with_edit` — offer and edit agree
-/

namespace ClosureWrap

namespace LanguageService

variable {σ : Type} {host : LanguageService (StateM σ)} {program : Option Program}
  {settings : Settings}

/-- The refactorings that a service lists when it is asked in state `x`. -/
def listed (s : LanguageService (StateM σ)) (fileName : String) (locus : Locus) (x : σ) :
    List Descriptor :=
  (Id.run ((s.refactors fileName locus).run x)).1

/-- The answer of a service that is asked for edits in state `x`. -/
def answer (s : LanguageService (StateM σ)) (request : EditRequest) (x : σ) :
    Except RefactorError (Option EditInfo) :=
  (Id.run ((s.edits request).run x)).1

theorem AlwaysHas.logged (h : host.AlwaysHas program) : host.logged.AlwaysHas program := by
  refine StateT.ext fun log => ?_
  rw [StateT.run_map, LanguageService.logged, Call.asks_record, Functor.map_map]
  conv => lhs; rw [h, Functor.map_map]

theorem listed_decorate (hprogram : host.AlwaysHas program) (fileName : String) (locus : Locus)
    (x : σ) :
    (host.decorate settings).listed fileName locus x =
      settings.extend program fileName locus (host.listed fileName locus x) := by
  rw [listed, hprogram.refactors_decorate]
  rfl

/-- **A decorated service appends the refactoring** where it has something to say that the host does
not list. -/
theorem appended_iff (hprogram : host.AlwaysHas program) {fileName : String} {locus : Locus}
    {x : σ} :
    (host.decorate settings).listed fileName locus x =
        host.listed fileName locus x ++ [Wrap.descriptor] ↔
      settings.Applies program fileName locus ∧ Unlisted (host.listed fileName locus x) := by
  rw [listed_decorate hprogram, Settings.extend_eq, List.append_cancel_left_eq]
  split
  · rename_i h
    exact iff_of_true rfl h
  · rename_i h
    exact iff_of_false (fun hnil => (by cases hnil)) h

/-- In a known file, what the refactoring has to say depends on the place alone. -/
theorem applies_iff_isApplicable {fileName : String} {locus : Locus}
    {p : Program} {t : Tree} (henabled : settings.enabled = true) (hp : p ∈ program)
    (ht : t ∈ p.sourceTree fileName) :
    settings.Applies program fileName locus ↔
      Wrap.isApplicable p.checker t settings.strictArgumentPosition locus.offset = true := by
  constructor
  · rintro ⟨-, q, hq, u, hu, happlicable⟩
    obtain rfl := Option.mem_unique hp hq
    obtain rfl := Option.mem_unique ht hu
    exact happlicable
  · intro happlicable
    exact ⟨henabled, p, hp, t, ht, happlicable⟩

/-- A request for the edits in a known file is answered by the edit alone, or by the reason why
there is none. The host is asked for its program only. -/
theorem answer_decorate {request : EditRequest} {p : Program} {t : Tree}
    (hprogram : host.AlwaysHas program) (henabled : settings.enabled = true)
    (haction : request.actionName = Wrap.actionName) (hp : p ∈ program)
    (ht : t ∈ p.sourceTree request.fileName) :
    Asks [.program] ((host.logged.decorate settings).edits request)
        ((fun _ => (Wrap.buildEdit p.checker t settings.strictArgumentPosition settings.arrowParens
          request.locus.offset).map fun edit => some ⟨[edit], none, none⟩) <$> host.program) ∧
      ∀ x, (host.decorate settings).answer request x =
        (Wrap.buildEdit p.checker t settings.strictArgumentPosition settings.arrowParens
          request.locus.offset).map fun edit => some ⟨[edit], none, none⟩ := by
  have hown : settings.ownEdit? program request = some _ := Settings.ownEdit?_eq_some hp ht
  constructor
  · rw [edits_decorate haction henabled, hprogram.logged.bind_program, editsWith_of_some hown,
      ← bind_pure_comp]
    exact (Call.asks_record _ _).bind fun _ => asks_pure _
  · intro x
    rw [answer, hprogram.edits_decorate haction henabled, editsWith_of_some hown]
    rfl

/-- **Offer and edit agree.** If the refactoring was appended to what the host lists, a request for
its edits at the same place asks nothing of the host but its program, and its answer is a single
edit around the cursor or an error about the call. If a request for edits in a known file is not
refused because of its place, there is an identifier at the place, and where the host does not list
the refactoring it is appended exactly if that identifier can be called. -/
theorem offer_agrees_with_edit (host : LanguageService (StateM σ)) (program : Option Program)
    (hprogram : host.AlwaysHas program) (settings : Settings) (request : EditRequest)
    (henabled : settings.enabled = true) (haction : request.actionName = Wrap.actionName)
    (before after : σ) :
    ((host.decorate settings).listed request.fileName request.locus before =
        host.listed request.fileName request.locus before ++ [Wrap.descriptor] →
      ∃ given, Asks [.program] ((host.logged.decorate settings).edits request)
          ((fun _ => given) <$> host.program) ∧
        (host.decorate settings).answer request after = given ∧
        ((∃ edit, given = .ok (some ⟨[edit], none, none⟩) ∧
            edit.span.Holds request.locus.offset) ∨
          (∃ callee, given = .error (.noParameter callee)) ∨
          (∃ found, given = .error (.notAParameter found)) ∨
          ∃ found, given = .error (.unsupportedParameterType found))) ∧
      ∀ p ∈ program, ∀ t ∈ p.sourceTree request.fileName,
        Unlisted (host.listed request.fileName request.locus before) →
        (∀ place reason, (host.decorate settings).answer request after ≠
          .error (.precondition place reason)) →
        ∃ n, t.locate? Tree.root request.locus.offset = some n ∧ t.kind n = .identifier ∧
          ((host.decorate settings).listed request.fileName request.locus before =
              host.listed request.fileName request.locus before ++ [Wrap.descriptor] ↔
            (p.checker.typeOf t n).isCallable = true) := by
  constructor
  · intro happended
    obtain ⟨⟨-, p, hp, t, ht, happlicable⟩, -⟩ := (appended_iff hprogram).1 happended
    obtain ⟨target, htarget, -⟩ := Wrap.isApplicable_iff.1 happlicable
    obtain ⟨hasks, hanswer⟩ := answer_decorate hprogram henabled haction hp ht
    refine ⟨_, hasks, hanswer after, ?_⟩
    rcases Wrap.buildEdit_of_findTarget htarget p.checker settings.arrowParens with
      ⟨edit, hedit, hholds⟩ | ⟨e, hedit, hlacks⟩
    · rw [hedit]
      exact .inl ⟨edit, rfl, hholds⟩
    · rw [hedit]
      cases hlacks with
      | noParameter => exact .inr (.inl ⟨_, rfl⟩)
      | notAParameter => exact .inr (.inr (.inl ⟨_, rfl⟩))
      | unsupportedParameterType => exact .inr (.inr (.inr ⟨_, rfl⟩))
  · intro p hp t ht hunlisted hplace
    rw [(answer_decorate hprogram henabled haction hp ht).2] at hplace
    obtain ⟨target, htarget⟩ := Wrap.exists_target_of_buildEdit fun place reason hrefused =>
      hplace place reason (by rw [hrefused]; rfl)
    obtain ⟨hlocate, hkind, -⟩ := Wrap.findTarget_eq_ok_iff.1 htarget
    refine ⟨target.identifier, hlocate, hkind, ?_⟩
    rw [appended_iff hprogram, applies_iff_isApplicable henabled hp ht, Wrap.isApplicable_iff,
      htarget]
    simp [hunlisted]

/-- At the argument of the call the refactoring is offered, and in a later state of the host the
edit is made without it. The callback is written in another file. -/
theorem offer_agrees_with_edit_hostOfCall :
    (hostOfCall : LanguageService (StateM Nat)).AlwaysHas (some programOfCall) ∧
      (hostOfCall.decorate {}).listed "main.ts" (.point 4) (0 : Nat) =
        [⟨"inline", "Inline", []⟩, Wrap.descriptor] ∧
      Asks [.program] (((hostOfCall : LanguageService (StateM Nat)).logged.decorate {}).edits
          (requestAtArgument Wrap.actionName))
        ((fun _ => .ok (some ⟨[⟨"main.ts", ⟨4, 2⟩, "v => fn(v)"⟩], none, none⟩)) <$>
          hostOfCall.program) ∧
      treeOfCall.locate? Tree.root 4 = some 4 ∧
      (programOfCall.checker.typeOf treeOfCall 4).isCallable = true := by
  have halways : (hostOfCall : LanguageService (StateM Nat)).AlwaysHas (some programOfCall) := rfl
  have hanswer : (hostOfCall.decorate {}).answer (requestAtArgument Wrap.actionName) (1 : Nat) =
      .ok (some ⟨[⟨"main.ts", ⟨4, 2⟩, "v => fn(v)"⟩], none, none⟩) :=
    ((answer_decorate halways rfl rfl (Option.mem_some_self programOfCall)
      sourceTree_programOfCall).2 1).trans (congrArg (Except.map _) buildEdit_treeOfCall)
  have happended : (hostOfCall.decorate {}).listed "main.ts" (.point 4) (0 : Nat) =
      [⟨"inline", "Inline", []⟩, Wrap.descriptor] :=
    (appended_iff halways).2 ⟨applies_programOfCall, by decide⟩
  obtain ⟨hoffer, hedit⟩ := offer_agrees_with_edit hostOfCall (some programOfCall) halways {}
    (requestAtArgument Wrap.actionName) rfl rfl (0 : Nat) (1 : Nat)
  obtain ⟨given, hasks, hgiven, -⟩ := hoffer happended
  obtain ⟨n, hlocate, -, hcallable⟩ := hedit programOfCall rfl treeOfCall sourceTree_programOfCall
    (by decide) (by rw [hanswer]; simp)
  obtain rfl : given = _ := hgiven.symm.trans hanswer
  obtain rfl : n = 4 := by
    have hfound : treeOfCall.locate? Tree.root 4 = some 4 := by decide +kernel
    exact Option.some.inj (hlocate.symm.trans hfound)
  exact ⟨halways, happended, hasks, hlocate, hcallable.1 happended⟩

end LanguageService

end ClosureWrap
