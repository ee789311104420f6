import ClosureWrap.Proofs.Binding
import ClosureWrap.Proofs.Lowering.Slices
import ClosureWrap.Proofs.Refactor.Closure
import ClosureWrap.Proofs.Refactor.Replacement
import ClosureWrap.Proofs.Workspace.Session

/-!
# The contract of an edit

What a user of a session may rely on when edits are asked for, said without any of the stages that
make them. A site is an identifier right below a call that expects a callback, together with the
three parts into which the identifier cuts the text. An edit is made exactly where there is a site,
it replaces the middle part by the closure, and leaves the other two as they are.

The files of the session are the ones that arrived, so a site is described in terms of a source
file.

## Main definitions

* `Wrap.Site`, `Wrap.Site.newText` — where an identifier is wrapped, and by what it is replaced

## Main results

* `Wrap.buildEdit_iff_site` — an edit is made exactly at the sites
* `Wrap.Site.apply_edit` — what the text is after the edit
* `Session.edits_iff_site` — the edits that a session hands out
-/

namespace ClosureWrap

namespace Wrap

/-- A place of a source file where an identifier is wrapped. -/
structure Site (source : Concrete.Source) (strict : Bool) (offset : Nat) where
  /-- The identifier. -/
  identifier : Nat
  /-- The call right above it. -/
  call : Nat
  /-- What the call expects. -/
  callback : Callback .structural (.ofSource source) call
  /-- The text up to the identifier. -/
  before : String
  /-- The identifier as it is written. -/
  written : String
  /-- The text from the end of the identifier on. -/
  after : String
  isIdentifier : (Tree.ofSource source).kind identifier = .identifier
  holdsOffset : (Tree.ofSource source).start identifier ≤ offset ∧
    offset < (Tree.ofSource source).stop identifier
  parent_eq : (Tree.ofSource source).parent identifier = some call
  isCall : (Tree.ofSource source).kind call = .callExpression
  isArgument : strict = true → (Tree.ofSource source).role identifier = some .argument
  text_eq : source.text = before ++ written ++ after
  start_eq : (Tree.ofSource source).start identifier = Text.byteLength before
  stop_eq : (Tree.ofSource source).stop identifier =
    Text.byteLength before + Text.byteLength written

namespace Site

variable {source : Concrete.Source} {strict : Bool} {offset : Nat}

/-- The closure that takes the place of the identifier. -/
def newText (site : Site source strict offset) (mode : ArrowParens) : String :=
  Expr.writtenHead mode site.callback.names ++ " => " ++ site.written ++ "(" ++
    Expr.listed site.callback.names ++ ")"

theorem slice?_written (site : Site source strict offset) :
    Text.slice? source.text ((Tree.ofSource source).start site.identifier)
      ((Tree.ofSource source).stop site.identifier) = some site.written :=
  Text.slice?_eq_some_iff.2
    ⟨site.before, site.after, site.text_eq, site.start_eq.symm, site.stop_eq.symm⟩

theorem textOf_identifier (site : Site source strict offset) :
    (Tree.ofSource source).textOf site.identifier = site.written := by
  rw [Tree.textOf, Tree.text_ofSource, site.slice?_written, Option.getD_some]

/-- What replaces the identifier is the closure that forwards to it. -/
theorem render_eq_newText (site : Site source strict offset) (mode : ArrowParens) :
    (Expr.forward ((Tree.ofSource source).textOf site.identifier) site.callback.names).render mode =
      site.newText mode := by
  rw [Expr.render_forward, site.textOf_identifier, newText]

/-- In a file that fits into memory, the edit replaces the identifier and leaves the rest. -/
theorem apply_edit (site : Site source strict offset) (fileName newText : String)
    (hfits : Text.byteLength source.text < addressLimit) :
    Edit.apply ⟨fileName, (Tree.ofSource source).span site.identifier, newText⟩ source.text =
      .ok (some (site.before ++ newText ++ site.after)) := by
  have hlength : ((Tree.ofSource source).span site.identifier).length =
      Text.byteLength site.written := by
    rw [Tree.span, Span.ofRange, site.start_eq, site.stop_eq, Nat.add_sub_cancel_left]
  have htotal : Text.byteLength source.text =
      Text.byteLength site.before + Text.byteLength site.written + Text.byteLength site.after := by
    rw [site.text_eq, Text.byteLength_append, Text.byteLength_append]
  refine Edit.apply_of_split site.text_eq site.start_eq hlength ?_
  rw [hlength, show ((Tree.ofSource source).span site.identifier).start = _ from site.start_eq]
  omega

/-- A site is found by a search for its offset. -/
theorem findTarget_eq (site : Site source strict offset) (h : source.WellFormed) :
    findTarget (.ofSource source) offset strict = .ok ⟨site.identifier, site.call⟩ := by
  have hfound := Tree.locate?_of_identifier h.nested site.isIdentifier site.holdsOffset.1
    site.holdsOffset.2
  exact findTarget_eq_ok_iff.2
    ⟨hfound, site.isIdentifier, site.parent_eq, site.isCall, site.isArgument⟩

/-- Whatever is found by a search is a site, if a callback is expected there. -/
theorem exists_of_findTarget (h : source.WellFormed) {target : Target}
    (htarget : findTarget (.ofSource source) offset strict = .ok target)
    (c : Callback .structural (.ofSource source) target.call) :
    ∃ site : Site source strict offset, site.identifier = target.identifier ∧
      site.callback.names = c.names := by
  obtain ⟨hlocate, hkind, hparent, hcall, hargument⟩ := findTarget_eq_ok_iff.1 htarget
  have hsize : target.identifier < (Tree.ofSource source).size :=
    Tree.lt_size_of_kind (by rw [hkind]; exact Kind.noConfusion)
  have hholds := Tree.contains_iff.1 (Tree.contains_of_locate? hlocate)
  obtain ⟨before, after, htext, hstart, hstop⟩ :=
    Text.slice?_eq_some_iff.1 (Tree.slice?_ofSource h hsize)
  exact ⟨⟨target.identifier, target.call, c, before, _, after, hkind, hholds, hparent, hcall,
    hargument, htext, hstart.symm, hstop.symm⟩, rfl, rfl⟩

end Site

/-- **An edit is made exactly at the sites.** -/
theorem buildEdit_iff_site {source : Concrete.Source} (h : source.WellFormed) {strict : Bool}
    {mode : ArrowParens} {offset : Nat} {edit : Edit} :
    buildEdit .structural (.ofSource source) strict mode offset = .ok edit ↔
      ∃ site : Site source strict offset,
        edit = ⟨source.name, (Tree.ofSource source).span site.identifier, site.newText mode⟩ := by
  rw [buildEdit_eq_ok_iff, Tree.fileName_ofSource]
  constructor
  · rintro ⟨target, htarget, c, rfl⟩
    obtain ⟨site, hidentifier, hnames⟩ := Site.exists_of_findTarget h htarget c
    refine ⟨site, ?_⟩
    rw [← site.render_eq_newText, hidentifier, hnames]
  · rintro ⟨site, rfl⟩
    refine ⟨_, site.findTarget_eq h, site.callback, ?_⟩
    rw [← site.render_eq_newText]

end Wrap

namespace Session

/-- An enabled session answers a request for its own action by itself, if it knows the file. -/
theorem edits_eq {s : Session} {request : EditRequest} (henabled : s.settings.enabled = true)
    (haction : request.actionName = Wrap.actionName) :
    Id.run (s.service.edits request) =
      match s.files.get? request.fileName with
      | none => .ok none
      | some t =>
        (Wrap.buildEdit .structural t s.settings.strictArgumentPosition s.settings.arrowParens
          request.locus.offset).map fun edit => some ⟨[edit], none, none⟩ := by
  simp only [service, LanguageService.decorate, haction, henabled, and_self, if_true, Files.service,
    pure_bind, Settings.ownEdit?, Option.bind_some, Files.program]
  cases s.files.get? request.fileName <;> rfl

/-- **The contract of an edit.** In an enabled session whose requested file has a well-formed
concrete tree, the answer to a request for the action carries edits exactly if the cursor is at a
site of that file. It then carries a single edit and no renaming, and the edit replaces the
identifier of the site by the closure that forwards to it, and nothing else. -/
theorem edits_iff_site (settings : Settings) (steps : List Step) (request : EditRequest)
    (hsource : ∀ source, opened request.fileName steps = some source → source.WellFormed)
    (henabled : ((start settings).run steps).settings.enabled = true)
    (haction : request.actionName = Wrap.actionName) (info : EditInfo) :
    (Id.run (((start settings).run steps).service.edits request) = .ok (some info) ↔
      ∃ (source : Concrete.Source)
        (site : Wrap.Site source ((start settings).run steps).settings.strictArgumentPosition
          request.locus.offset),
        opened request.fileName steps = some source ∧
          info = ⟨[⟨request.fileName, (Tree.ofSource source).span site.identifier,
            site.newText ((start settings).run steps).settings.arrowParens⟩], none, none⟩) ∧
      ∀ (source : Concrete.Source) (strict : Bool)
        (site : Wrap.Site source strict request.locus.offset)
        (mode : ArrowParens), Text.byteLength source.text < addressLimit →
          Edit.apply ⟨request.fileName, (Tree.ofSource source).span site.identifier,
            site.newText mode⟩ source.text =
              .ok (some (site.before ++ site.newText mode ++ site.after)) := by
  refine ⟨?_, fun source strict site mode hfits => site.apply_edit _ _ hfits⟩
  rw [edits_eq henabled haction, get?_run]
  cases hopened : opened request.fileName steps with
  | none =>
    refine ⟨fun h => (by cases h), ?_⟩
    rintro ⟨source, site, hsome, rfl⟩
    cases hsome
  | some source =>
    have hname := name_of_opened hopened
    have hwell := hsource source hopened
    simp only [Option.map_some]
    constructor
    · intro h
      cases hedit : Wrap.buildEdit .structural (.ofSource source)
          ((start settings).run steps).settings.strictArgumentPosition
          ((start settings).run steps).settings.arrowParens request.locus.offset with
      | error e =>
        rw [hedit] at h
        cases h
      | ok edit =>
        rw [hedit] at h
        obtain ⟨site, rfl⟩ := (Wrap.buildEdit_iff_site hwell).1 hedit
        cases h
        exact ⟨source, site, rfl, by rw [hname]⟩
    · rintro ⟨source', site, hsome, rfl⟩
      cases hsome
      rw [(Wrap.buildEdit_iff_site hwell).2 ⟨site, rfl⟩, hname]
      rfl

/-- A function that expects a callback of two parameters, and a call of it. The callback that is
passed has the name of one of these parameters. -/
def callWithCallback : Concrete.Source :=
  .ofTable "main.ts"
    "declare function run(cb: (fn, b) => void): void;\nfunction fn() {}\nrun(fn);\n" [
    (0, ⟨"program", none, 0, 75, true, false⟩),
    (1, ⟨"ambient_declaration", none, 0, 48, true, false⟩),
    (2, ⟨"declare", none, 0, 7, false, false⟩),
    (2, ⟨"function_signature", none, 8, 48, true, false⟩),
    (3, ⟨"function", none, 8, 16, false, false⟩),
    (3, ⟨"identifier", some "name", 17, 20, true, false⟩),
    (3, ⟨"formal_parameters", some "parameters", 20, 41, true, false⟩),
    (4, ⟨"(", none, 20, 21, false, false⟩),
    (4, ⟨"required_parameter", none, 21, 40, true, false⟩),
    (5, ⟨"identifier", some "pattern", 21, 23, true, false⟩),
    (5, ⟨"type_annotation", some "type", 23, 40, true, false⟩),
    (6, ⟨":", none, 23, 24, false, false⟩),
    (6, ⟨"function_type", none, 25, 40, true, false⟩),
    (7, ⟨"formal_parameters", some "parameters", 25, 32, true, false⟩),
    (8, ⟨"(", none, 25, 26, false, false⟩),
    (8, ⟨"required_parameter", none, 26, 28, true, false⟩),
    (9, ⟨"identifier", some "pattern", 26, 28, true, false⟩),
    (8, ⟨",", none, 28, 29, false, false⟩),
    (8, ⟨"required_parameter", none, 30, 31, true, false⟩),
    (9, ⟨"identifier", some "pattern", 30, 31, true, false⟩),
    (8, ⟨")", none, 31, 32, false, false⟩),
    (7, ⟨"=>", none, 33, 35, false, false⟩),
    (7, ⟨"predefined_type", some "return_type", 36, 40, true, false⟩),
    (8, ⟨"void", none, 36, 40, false, false⟩),
    (4, ⟨")", none, 40, 41, false, false⟩),
    (3, ⟨"type_annotation", some "return_type", 41, 47, true, false⟩),
    (4, ⟨":", none, 41, 42, false, false⟩),
    (4, ⟨"predefined_type", none, 43, 47, true, false⟩),
    (5, ⟨"void", none, 43, 47, false, false⟩),
    (3, ⟨";", none, 47, 48, false, false⟩),
    (1, ⟨"function_declaration", none, 49, 65, true, false⟩),
    (2, ⟨"function", none, 49, 57, false, false⟩),
    (2, ⟨"identifier", some "name", 58, 60, true, false⟩),
    (2, ⟨"formal_parameters", some "parameters", 60, 62, true, false⟩),
    (3, ⟨"(", none, 60, 61, false, false⟩),
    (3, ⟨")", none, 61, 62, false, false⟩),
    (2, ⟨"statement_block", some "body", 63, 65, true, false⟩),
    (3, ⟨"\x7b", none, 63, 64, false, false⟩),
    (3, ⟨"\x7d", none, 64, 65, false, false⟩),
    (1, ⟨"expression_statement", none, 66, 74, true, false⟩),
    (2, ⟨"call_expression", none, 66, 73, true, false⟩),
    (3, ⟨"identifier", some "function", 66, 69, true, false⟩),
    (3, ⟨"arguments", some "arguments", 69, 73, true, false⟩),
    (4, ⟨"(", none, 69, 70, false, false⟩),
    (4, ⟨"identifier", none, 70, 72, true, false⟩),
    (4, ⟨")", none, 72, 73, false, false⟩),
    (2, ⟨";", none, 73, 74, false, false⟩)]

/-- In the call, node 16, only the file itself is a scope. -/
theorem resolve_callWithCallback {n : Nat} (name : String)
    (hn : (Tree.ofSource callWithCallback).parent n = some 16) :
    (Tree.ofSource callWithCallback).resolve n name .value =
      (Tree.ofSource callWithCallback).contained name .value 0 := by
  obtain ⟨h₁₆, h₁₅, h₀, hscope, hroot⟩ :
      (Tree.ofSource callWithCallback).parent 16 = some 15 ∧
        (Tree.ofSource callWithCallback).parent 15 = some 0 ∧
        (Tree.ofSource callWithCallback).parent 0 = none ∧
        [16, 15, 0].filter (fun a => ((Tree.ofSource callWithCallback).kind a).isScope) = [0] ∧
        (Tree.ofSource callWithCallback).kind 0 = .sourceFile := by
    decide +kernel
  rw [Tree.resolve, Tree.scopes, Tree.ancestors_of_parent hn, Tree.ancestors_of_parent h₁₆,
    Tree.ancestors_of_parent h₁₅, Tree.ancestors_of_parent_eq_none h₀, hscope,
    Tree.firstDeclarations, Tree.ownDeclarations, hroot, if_neg (by decide)]
  cases (Tree.ofSource callWithCallback).contained name .value 0 <;> rfl

/-- What the call calls is declared by node 1, with the parameter 3. -/
theorem resolved_callWithCallback :
    Checker.structural.resolvedSignature (.ofSource callWithCallback) 16 =
      some (.map (Tree.ref (.ofSource callWithCallback)) ⟨some 1, [⟨"cb", some 3⟩]⟩) := by
  have hcontained : (Tree.ofSource callWithCallback).contained "run" .value 0 = [1] := by
    rw [Tree.contained_eq]
    decide +kernel
  obtain ⟨hparent, hcall, hkind, hrole, hname, hvisible, hsignature, hcallee, harguments⟩ :
      (Tree.ofSource callWithCallback).parent 17 = some 16 ∧
        (Tree.ofSource callWithCallback).kind 16 = .callExpression ∧
        (Tree.ofSource callWithCallback).kind 17 = .identifier ∧
        (Tree.ofSource callWithCallback).role 17 ≠ some .property ∧
        (Tree.ofSource callWithCallback).textOf 17 = "run" ∧
        (Tree.ofSource callWithCallback).visibleFunctions [1] = [1] ∧
        (Tree.ofSource callWithCallback).signatureOf 1 = ⟨some 1, [⟨"cb", some 3⟩]⟩ ∧
        (Tree.ofSource callWithCallback).childWith? 16 .callee = some 17 ∧
        ((Tree.ofSource callWithCallback).childrenWith 16 .argument).length = 1 := by
    decide +kernel
  have hdeclarations : (Tree.ofSource callWithCallback).declarationsOf 17 = [1] := by
    rw [Tree.declarationsOf_of_call hkind hparent hcall hrole, hname,
      resolve_callWithCallback "run" hparent, hcontained]
  have htype : (Tree.ofSource callWithCallback).expressionType Tree.typingBudget 17 =
      ⟨[⟨some 1, [⟨"cb", some 3⟩]⟩]⟩ := by
    rw [Tree.typingBudget, Tree.expressionType, hkind]
    simp only [hdeclarations, Tree.declaredType, hvisible, List.map_cons, List.map_nil, hsignature]
  have hsettled : (Tree.ofSource callWithCallback).callSignature? Tree.typingBudget 16 =
      some ⟨some 1, [⟨"cb", some 3⟩]⟩ := by
    simp only [Tree.callSignature?, Tree.settle?, hcallee, Option.bind_some, htype, harguments]
    rfl
  rw [Checker.resolvedSignature_structural hcall, hsettled, Option.map_some]

/-- The callback that the call expects. -/
def callbackOfCall : Wrap.Callback .structural (.ofSource callWithCallback) 16 where
  signature := .map (Tree.ref (.ofSource callWithCallback)) ⟨some 1, [⟨"cb", some 3⟩]⟩
  first := .map (Tree.ref (.ofSource callWithCallback)) ⟨"cb", some 3⟩
  declaration := (Tree.ofSource callWithCallback).ref 3
  functionType := 5
  resolved := resolved_callWithCallback
  first_eq := rfl
  declared := rfl
  isParameter := by decide +kernel
  annotated := by decide +kernel
  isFunctionType := by decide +kernel

/-- The second byte of the argument of the call is a site. -/
def siteOfArgument : Wrap.Site callWithCallback true 71 where
  identifier := 18
  call := 16
  callback := callbackOfCall
  before := "declare function run(cb: (fn, b) => void): void;\nfunction fn() {}\nrun("
  written := "fn"
  after := ");\n"
  isIdentifier := by decide +kernel
  holdsOffset := by decide +kernel
  parent_eq := by decide +kernel
  isCall := by decide +kernel
  isArgument := fun _ => by decide +kernel
  text_eq := by decide +kernel
  start_eq := by decide +kernel
  stop_eq := by decide +kernel

theorem opened_callWithCallback :
    opened "main.ts" [.add callWithCallback] = some callWithCallback := by
  have hname : callWithCallback.name = "main.ts" := by decide +kernel
  rw [opened, List.foldl_cons, List.foldl_nil, Step.opened, if_pos hname]

/-- The edit for the argument of the call, asked for at its second byte. -/
theorem edits_at_argument :
    callWithCallback.WellFormed ∧
      Id.run (((start {}).run [.add callWithCallback]).service.edits
        ⟨"main.ts", {}, .point 71, Wrap.refactorName, Wrap.actionName, {}⟩) =
          .ok (some ⟨[⟨"main.ts", ⟨70, 2⟩, "(fn, b) => fn(fn, b)"⟩], none, none⟩) ∧
      Edit.apply ⟨"main.ts", ⟨70, 2⟩, "(fn, b) => fn(fn, b)"⟩ callWithCallback.text =
        .ok (some ("declare function run(cb: (fn, b) => void): void;\n" ++
          "function fn() {}\nrun((fn, b) => fn(fn, b));\n")) := by
  have hwell : callWithCallback.WellFormed := by decide +kernel
  obtain ⟨hspan, hnewText, hfits, hrest⟩ :
      (Tree.ofSource callWithCallback).span siteOfArgument.identifier = ⟨70, 2⟩ ∧
        siteOfArgument.newText .asNeeded = "(fn, b) => fn(fn, b)" ∧
        Text.byteLength callWithCallback.text < addressLimit ∧
        siteOfArgument.before ++ "(fn, b) => fn(fn, b)" ++ siteOfArgument.after =
          "declare function run(cb: (fn, b) => void): void;\n" ++
            "function fn() {}\nrun((fn, b) => fn(fn, b));\n" := by
    decide +kernel
  obtain ⟨hedits, happly⟩ := edits_iff_site {} [.add callWithCallback]
    ⟨"main.ts", {}, .point 71, Wrap.refactorName, Wrap.actionName, {}⟩
    (fun source h => Option.some.inj (opened_callWithCallback.symm.trans h) ▸ hwell) rfl rfl
    ⟨[⟨"main.ts", ⟨70, 2⟩, "(fn, b) => fn(fn, b)"⟩], none, none⟩
  refine ⟨hwell, hedits.2 ⟨callWithCallback, siteOfArgument, opened_callWithCallback, ?_⟩, ?_⟩
  · rw [← hnewText, ← hspan]
    rfl
  · have happlied : Edit.apply ⟨"main.ts",
        (Tree.ofSource callWithCallback).span siteOfArgument.identifier,
        siteOfArgument.newText .asNeeded⟩ callWithCallback.text =
          .ok (some (siteOfArgument.before ++ siteOfArgument.newText .asNeeded ++
            siteOfArgument.after)) :=
      happly callWithCallback true siteOfArgument .asNeeded hfits
    rw [hspan, hnewText, hrest] at happlied
    exact happlied

end Session

end ClosureWrap
