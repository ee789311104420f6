import ClosureWrap.Service.Canned
import ClosureWrap.Service.Decorate

/-!
# What a decorated service asks of its host

A service that is decorated stands between an editor and the host. It must not be noticed where it
has nothing to say: a question goes to the host once, as it was put, and the answer comes back as it
was given. Where the refactoring has something to say, the list of the host grows by one entry at
most, and for an edit of its own the host is asked for nothing but its program.

The host may have effects of its own and need not answer the same question twice in the same way.
Nothing is assumed of it. What it is asked is seen by decorating the service that keeps its calls.

Since the decorated service sees nothing of the host but its answers, a host that is decorated
already is a host like any other. The second decoration finds the refactoring listed and adds
nothing. This needs a host that has the same program whenever it is asked, since each decoration
asks for itself.

## Main definitions

* `Asks` — a computation over a watched service, what it answers and which calls it makes
* `Settings.Applies`, `Unlisted` — the refactoring has something to say, and the host does not list
  it
* `LanguageService.Extends` — a service that adds the refactoring to a host and is like it otherwise
* `LanguageService.AlwaysHas` — a host with the same program whenever it is asked

## Main results

* `Settings.extend_eq` — what is added to the list of a host
* `LanguageService.extends_decorate` — a decorated service adds the refactoring and nothing else
* `LanguageService.decorate_decorate` — decorating twice is decorating once
-/

namespace ClosureWrap

variable {m : Type → Type} [Monad m] {α β : Type}

/-! ### Watching a host -/

/-- The computation answers as `answer` does, and meanwhile the watched service receives the given
calls in this order and no others. -/
def Asks (calls : List Call) (watched : StateT (List Call) m α) (answer : m α) : Prop :=
  ∀ log, watched.run log = (fun a => (a, log ++ calls)) <$> answer

section Asks

variable [LawfulMonad m]

theorem Call.asks_record (call : Call) (answer : m α) :
    Asks [call] (call.record answer) answer := by
  intro log
  rw [StateT.run, record, bind_pure_comp]

theorem asks_pure (a : α) : Asks [] (pure a : StateT (List Call) m α) (pure a) := by
  intro log
  rw [StateT.run_pure, map_pure, List.append_nil]

/-- Of two computations, one after the other, the calls come in this order. -/
theorem Asks.bind {calls more : List Call} {watched : StateT (List Call) m α} {answer : m α}
    {rest : α → StateT (List Call) m β} {answers : α → m β} (h : Asks calls watched answer)
    (hrest : ∀ a, Asks more (rest a) (answers a)) :
    Asks (calls ++ more) (watched >>= rest) (answer >>= answers) := by
  intro log
  rw [StateT.run_bind, h log, bind_map_left, map_bind]
  refine bind_congr fun a => ?_
  rw [hrest a, List.append_assoc]

end Asks

/-! ### What the refactoring has to say -/

/-- The refactoring is switched on, the file is known, and there is something to wrap at the
place. -/
def Settings.Applies (settings : Settings) (program : Option Program) (fileName : String)
    (locus : Locus) : Prop :=
  settings.enabled = true ∧ ∃ p ∈ program, ∃ t ∈ p.sourceTree fileName,
    Wrap.isApplicable p.checker t settings.strictArgumentPosition locus.offset = true

/-- None of the listed refactorings has the name of this one. -/
def Unlisted (listed : List Descriptor) : Prop := ∀ d ∈ listed, d.name ≠ Wrap.descriptor.name

instance (listed : List Descriptor) : Decidable (Unlisted listed) :=
  inferInstanceAs (Decidable (∀ d ∈ listed, d.name ≠ Wrap.descriptor.name))

namespace Settings

variable {settings : Settings} {program : Option Program} {fileName : String} {locus : Locus}

theorem offers_iff :
    settings.offers program fileName locus = true ↔ settings.Applies program fileName locus := by
  simp [offers, Applies, Option.any_eq_true]

instance : Decidable (settings.Applies program fileName locus) := decidable_of_iff _ offers_iff

theorem unlisted_iff {listed : List Descriptor} :
    (!listed.any fun d => d.name == Wrap.descriptor.name) = true ↔ Unlisted listed := by
  simp [Unlisted]

/-- **What is added to the list of a host** is one entry at most, at the end. -/
theorem extend_eq (listed : List Descriptor) :
    settings.extend program fileName locus listed =
      listed ++ if settings.Applies program fileName locus ∧ Unlisted listed then [Wrap.descriptor]
        else [] := by
  have hcond : (settings.offers program fileName locus &&
      !listed.any fun d => d.name == Wrap.descriptor.name) = true ↔
        settings.Applies program fileName locus ∧ Unlisted listed := by
    rw [Bool.and_eq_true, offers_iff, unlisted_iff]
  unfold extend
  by_cases h : settings.Applies program fileName locus ∧ Unlisted listed
  · rw [if_pos (hcond.2 h), if_pos h]
  · rw [if_neg (mt hcond.1 h), if_neg h, List.append_nil]

/-- A list to which the refactoring was added is not added to again. -/
theorem extend_extend (listed : List Descriptor) :
    settings.extend program fileName locus (settings.extend program fileName locus listed) =
      settings.extend program fileName locus listed := by
  rw [extend_eq listed]
  by_cases h : settings.Applies program fileName locus ∧ Unlisted listed
  · have hlisted : ¬Unlisted (listed ++ [Wrap.descriptor]) := fun hnot =>
      hnot Wrap.descriptor (by simp) rfl
    rw [if_pos h, extend_eq, if_neg (fun hagain => hlisted hagain.2), List.append_nil]
  · rw [if_neg h, List.append_nil, extend_eq, if_neg h, List.append_nil]

/-- There is no edit without a program that knows the file. -/
theorem ownEdit?_eq_none {request : EditRequest}
    (h : ∀ p ∈ program, p.sourceTree request.fileName = none) :
    settings.ownEdit? program request = none := by
  cases program with
  | none => rfl
  | some p => rw [ownEdit?, Option.bind_some, h p rfl, Option.map_none]

/-- The edits of the action are made here if the file is known. -/
theorem ownEdit?_eq_some {request : EditRequest} {p : Program} {t : Tree}
    (hp : p ∈ program) (ht : t ∈ p.sourceTree request.fileName) :
    settings.ownEdit? program request =
      some (Wrap.buildEdit p.checker t settings.strictArgumentPosition settings.arrowParens
        request.locus.offset) := by
  rw [ownEdit?, Option.mem_def.1 hp, Option.bind_some, Option.mem_def.1 ht, Option.map_some]

end Settings

attribute [ext] LanguageService

namespace LanguageService

/-! ### One decoration -/

variable {settings : Settings} {host : LanguageService m}

/-- What a decorated service answers to a request for its own edits, once it has the program. -/
def editsWith (settings : Settings) (host : LanguageService m) (request : EditRequest)
    (program : Option Program) : m (Except RefactorError (Option EditInfo)) :=
  match settings.ownEdit? program request with
  | some edit => return edit.map fun e => some ⟨[e], none, none⟩
  | none => host.edits request

theorem editsWith_of_none {request : EditRequest} {program : Option Program}
    (h : settings.ownEdit? program request = none) :
    editsWith settings host request program = host.edits request := by
  simp only [editsWith, h]

theorem editsWith_of_some {request : EditRequest} {program : Option Program}
    {edit : Except RefactorError Edit} (h : settings.ownEdit? program request = some edit) :
    editsWith settings host request program = pure (edit.map fun e => some ⟨[e], none, none⟩) := by
  simp only [editsWith, h]

theorem refactors_decorate_of_disabled [LawfulMonad m] (h : settings.enabled = false)
    (fileName : String) (locus : Locus) :
    (host.decorate settings).refactors fileName locus = host.refactors fileName locus := by
  simp only [decorate, h, Bool.false_eq_true, if_false, bind_pure]

theorem refactors_decorate (h : settings.enabled = true) (fileName : String) (locus : Locus) :
    (host.decorate settings).refactors fileName locus =
      (do
        let listed ← host.refactors fileName locus
        let program ← host.program
        return settings.extend program fileName locus listed) := by
  simp only [decorate, h, if_true]

theorem edits_decorate_of_host {request : EditRequest}
    (h : ¬(request.actionName = Wrap.actionName ∧ settings.enabled = true)) :
    (host.decorate settings).edits request = host.edits request :=
  if_neg h

theorem edits_decorate {request : EditRequest} (haction : request.actionName = Wrap.actionName)
    (henabled : settings.enabled = true) :
    (host.decorate settings).edits request =
      host.program >>= editsWith settings host request :=
  if_pos ⟨haction, henabled⟩

/-- Service `d`, which is made on top of the watched host, adds the refactoring to the host and is
like it otherwise. -/
structure Extends (settings : Settings) (host : LanguageService m)
    (d : LanguageService (StateT (List Call) m)) : Prop where
  program : Asks [.program] d.program host.program
  quickInfo : ∀ fileName offset,
    Asks [.quickInfo fileName offset] (d.quickInfo fileName offset) (host.quickInfo fileName offset)
  definition : ∀ fileName offset,
    Asks [.definition fileName offset] (d.definition fileName offset)
      (host.definition fileName offset)
  references : ∀ fileName offset,
    Asks [.references fileName offset] (d.references fileName offset)
      (host.references fileName offset)
  hostRefactors : settings.enabled = false → ∀ fileName locus,
    Asks [.refactors fileName locus] (d.refactors fileName locus) (host.refactors fileName locus)
  /-- The host lists its refactorings, and this one comes last if it is not among them. Besides, the
  host is asked for its program. -/
  refactors : settings.enabled = true → ∀ fileName locus,
    Asks [.refactors fileName locus, .program] (d.refactors fileName locus) (do
      let listed ← host.refactors fileName locus
      let program ← host.program
      return listed ++
        if settings.Applies program fileName locus ∧ Unlisted listed then [Wrap.descriptor] else [])
  /-- A request that is not about this refactoring is the host's. -/
  hostEdits : ∀ request : EditRequest,
    request.actionName ≠ Wrap.actionName ∨ settings.enabled = false →
    Asks [.edits request] (d.edits request) (host.edits request)
  /-- For any other request the program is asked for. Without a program that knows the file the
  request is again the host's, and otherwise it is answered by the edit alone, or by the reason why
  there is none, and the host is asked nothing more. -/
  ownEdits : ∀ request : EditRequest, request.actionName = Wrap.actionName →
    settings.enabled = true → ∃ rest, d.edits request = d.program >>= rest ∧
      (∀ program : Option Program, (∀ p ∈ program, p.sourceTree request.fileName = none) →
        Asks [.edits request] (rest program) (host.edits request)) ∧
      ∀ (p : Program) (t : Tree), p.sourceTree request.fileName = some t →
        Asks [] (rest (some p))
          (pure ((Wrap.buildEdit p.checker t settings.strictArgumentPosition settings.arrowParens
            request.locus.offset).map fun edit => some ⟨[edit], none, none⟩))

/-- **A decorated service adds the refactoring and nothing else.** Every question but a request for
its own edits reaches the host exactly once and unaltered, and the answer is the host's, with one
entry more if it is a list of refactorings. -/
theorem extends_decorate [LawfulMonad m] (settings : Settings) (host : LanguageService m) :
    Extends settings host (host.logged.decorate settings) where
  program := Call.asks_record _ _
  quickInfo fileName offset := Call.asks_record _ _
  definition fileName offset := Call.asks_record _ _
  references fileName offset := Call.asks_record _ _
  hostRefactors hdisabled fileName locus := by
    rw [refactors_decorate_of_disabled hdisabled]
    exact Call.asks_record _ _
  refactors henabled fileName locus := by
    have hextend (program : Option Program) (listed : List Descriptor) :
        settings.extend program fileName locus listed = listed ++
          if settings.Applies program fileName locus ∧ Unlisted listed then [Wrap.descriptor]
          else [] := Settings.extend_eq listed
    rw [refactors_decorate henabled]
    simp only [← hextend]
    exact (Call.asks_record _ _).bind fun listed =>
      (Call.asks_record _ _).bind fun program => asks_pure _
  hostEdits request h := by
    rw [edits_decorate_of_host fun hown => h.elim (absurd hown.1) (by simp [hown.2])]
    exact Call.asks_record _ _
  ownEdits request haction henabled := by
    refine ⟨_, edits_decorate haction henabled, fun program hunknown => ?_, fun p t ht => ?_⟩
    · rw [editsWith_of_none (Settings.ownEdit?_eq_none hunknown)]
      exact Call.asks_record _ _
    · rw [editsWith_of_some (Settings.ownEdit?_eq_some (Option.mem_some_self p) ht)]
      exact asks_pure _

/-- The function `function run(cb: (v) => void) {}` in a file of its own. -/
def treeOfCallee : Tree :=
  .ofRows "lib.ts" "function run(cb: (v) => void) \x7b\x7d" .sourceFile [
    ⟨0, .functionDeclaration, none, 0, 32⟩,
    ⟨1, .identifier, some .name, 9, 12⟩,
    ⟨1, .parameter, some .parameter, 13, 28⟩,
    ⟨3, .identifier, some .name, 13, 15⟩,
    ⟨3, .functionType, some .type, 17, 28⟩,
    ⟨5, .parameter, some .parameter, 18, 19⟩,
    ⟨6, .identifier, some .name, 18, 19⟩]

/-- A call `run(fn);` in another file. -/
def treeOfCall : Tree :=
  .ofRows "main.ts" "run(fn);" .sourceFile [
    ⟨0, .expressionStatement, none, 0, 8⟩,
    ⟨1, .callExpression, none, 0, 7⟩,
    ⟨2, .identifier, some .callee, 0, 3⟩,
    ⟨2, .identifier, some .argument, 4, 6⟩]

/-- The program with the call. For its checker `fn` can be called, and a call takes the parameter
that node 3 of the other file declares. -/
def programOfCall : Program where
  sourceTree name := if name = treeOfCall.fileName then some treeOfCall else none
  checker := .canned ["fn"] (some [⟨"cb", some (treeOfCallee.ref 3)⟩])

/-- A host with this program and one refactoring, which makes edits of its own. -/
def hostOfCall : LanguageService m :=
  .canned (some treeOfCall) programOfCall.checker [⟨"inline", "Inline", []⟩] (.insert "host")

/-- A request for the edits of an action at the argument of the call. -/
def requestAtArgument (actionName : String) : EditRequest :=
  ⟨"main.ts", {}, .point 4, Wrap.refactorName, actionName, {}⟩

theorem sourceTree_programOfCall : programOfCall.sourceTree "main.ts" = some treeOfCall := by
  have hname : "main.ts" = treeOfCall.fileName := by decide +kernel
  simp only [programOfCall, ← hname, if_true]

theorem applies_programOfCall : Settings.Applies {} (some programOfCall) "main.ts" (.point 4) := by
  decide +kernel

theorem buildEdit_treeOfCall :
    Wrap.buildEdit programOfCall.checker treeOfCall true .asNeeded 4 =
      .ok ⟨"main.ts", ⟨4, 2⟩, "v => fn(v)"⟩ := by
  have hedit : (Wrap.buildEdit programOfCall.checker treeOfCall true .asNeeded 4).toOption =
      some ⟨"main.ts", ⟨4, 2⟩, "v => fn(v)"⟩ := by decide +kernel
  cases h : Wrap.buildEdit programOfCall.checker treeOfCall true .asNeeded 4 with
  | error e =>
    rw [h] at hedit
    cases hedit
  | ok edit =>
    rw [h] at hedit
    exact congrArg Except.ok (Option.some.inj hedit)

/-- At the argument of the call the host is asked for its list and for the edits of other actions,
but for those of this one it is asked for the program only. -/
theorem extends_hostOfCall :
    Id.run ((hostOfCall.logged.decorate {}).program.run []) =
        (some programOfCall, [.program]) ∧
      Id.run (((hostOfCall.logged.decorate {}).refactors "main.ts" (.point 4)).run []) =
        ([⟨"inline", "Inline", []⟩, Wrap.descriptor],
          [.refactors "main.ts" (.point 4), .program]) ∧
      Id.run (((hostOfCall.logged.decorate {}).edits (requestAtArgument "inline")).run []) =
        (.ok (some ⟨[⟨"main.ts", ⟨0, 0⟩, "host"⟩], none, none⟩),
          [.edits (requestAtArgument "inline")]) ∧
      Id.run (((hostOfCall.logged.decorate {}).edits (requestAtArgument Wrap.actionName)).run []) =
        (.ok (some ⟨[⟨"main.ts", ⟨4, 2⟩, "v => fn(v)"⟩], none, none⟩), [.program]) := by
  have h : Extends {} (hostOfCall : LanguageService Id) _ := extends_decorate {} hostOfCall
  have hadded : (if Settings.Applies {} (some programOfCall) "main.ts" (.point 4) ∧
      Unlisted [⟨"inline", "Inline", []⟩] then [Wrap.descriptor] else []) = [Wrap.descriptor] :=
    if_pos ⟨applies_programOfCall, by decide⟩
  have hanswer : (Wrap.buildEdit programOfCall.checker treeOfCall true .asNeeded 4).map
      (fun edit => some (⟨[edit], none, none⟩ : EditInfo)) =
        .ok (some ⟨[⟨"main.ts", ⟨4, 2⟩, "v => fn(v)"⟩], none, none⟩) := by
    rw [buildEdit_treeOfCall]
    rfl
  obtain ⟨rest, hrest, -, hown⟩ := h.ownEdits (requestAtArgument Wrap.actionName) rfl rfl
  refine ⟨(h.program []).trans rfl, (h.refactors rfl "main.ts" (.point 4) []).trans ?_,
    (h.hostEdits (requestAtArgument "inline") (.inl (by decide)) []).trans rfl, ?_⟩
  · exact congrArg (fun added => (⟨"inline", "Inline", []⟩ :: added, _)) hadded
  · rw [hrest]
    refine (hown programOfCall treeOfCall sourceTree_programOfCall [.program]).trans ?_
    exact congrArg (·, _) hanswer

/-! ### Two decorations -/

/-- Whenever the host is asked for its program it answers with this one, whatever else it does
then. -/
def AlwaysHas (host : LanguageService m) (program : Option Program) : Prop :=
  host.program = (fun _ => program) <$> host.program

/-- The question for the program that a decoration adds, unless the refactoring is switched off. -/
def reask (host : LanguageService m) (settings : Settings) : m PUnit :=
  if settings.enabled then (fun _ => ⟨⟩) <$> host.program else pure ⟨⟩

section AlwaysHas

variable [LawfulMonad m] {program : Option Program}

theorem AlwaysHas.bind_program (h : host.AlwaysHas program) (f : Option Program → m β) :
    host.program >>= f = host.program >>= fun _ => f program := by
  rw [h, bind_map_left, bind_map_left]

/-- A program that is at hand can be asked for any number of times. -/
theorem reask_of_pure (h : host.program = pure program) (settings : Settings) :
    host.reask settings = pure ⟨⟩ := by
  rw [reask, h, map_pure, ite_self]

/-- What is listed in the end depends on the program, and this is known beforehand. -/
theorem AlwaysHas.refactors_decorate (h : host.AlwaysHas program) (settings : Settings)
    (fileName : String) (locus : Locus) :
    (host.decorate settings).refactors fileName locus =
      (do
        let listed ← host.refactors fileName locus
        host.reask settings
        return settings.extend program fileName locus listed) := by
  cases henabled : settings.enabled with
  | true =>
    rw [LanguageService.refactors_decorate henabled]
    refine bind_congr fun listed => ?_
    rw [h.bind_program, reask, henabled, if_pos rfl, bind_map_left]
  | false =>
    have hsame (listed : List Descriptor) :
        settings.extend program fileName locus listed = listed := by
      rw [Settings.extend_eq, if_neg fun happlies => ?_, List.append_nil]
      rw [happlies.1.1] at henabled
      cases henabled
    rw [refactors_decorate_of_disabled henabled]
    simp only [reask, henabled, Bool.false_eq_true, if_false, pure_bind, hsame, bind_pure]

theorem AlwaysHas.edits_decorate (h : host.AlwaysHas program) {request : EditRequest}
    (haction : request.actionName = Wrap.actionName) (henabled : settings.enabled = true) :
    (host.decorate settings).edits request =
      (do
        host.reask settings
        editsWith settings host request program) := by
  rw [LanguageService.edits_decorate haction henabled, h.bind_program, reask, henabled, if_pos rfl,
    bind_map_left]

/-- A second decoration leaves a list as it is. -/
theorem AlwaysHas.refactors_twice (h : host.AlwaysHas program) (settings : Settings)
    (fileName : String) (locus : Locus) :
    ((host.decorate settings).decorate settings).refactors fileName locus =
      (do
        let listed ← (host.decorate settings).refactors fileName locus
        host.reask settings
        return listed) := by
  have hdecorated : (host.decorate settings).AlwaysHas program := h
  rw [hdecorated.refactors_decorate, h.refactors_decorate]
  simp only [bind_assoc, pure_bind, Settings.extend_extend]
  rfl

/-- A second decoration makes the same edits, or leaves them to the first. -/
theorem AlwaysHas.edits_twice (h : host.AlwaysHas program) (settings : Settings)
    (request : EditRequest) :
    ((host.decorate settings).decorate settings).edits request =
        (host.decorate settings).edits request ∨
      ((host.decorate settings).decorate settings).edits request =
        (do
          host.reask settings
          (host.decorate settings).edits request) := by
  by_cases hown : request.actionName = Wrap.actionName ∧ settings.enabled = true
  · obtain ⟨haction, henabled⟩ := hown
    have hdecorated : (host.decorate settings).AlwaysHas program := h
    rw [hdecorated.edits_decorate haction henabled]
    cases hown : settings.ownEdit? program request with
    | none =>
      rw [editsWith_of_none hown]
      exact .inr rfl
    | some edit =>
      rw [h.edits_decorate haction henabled, editsWith_of_some hown, editsWith_of_some hown]
      exact .inl rfl
  · exact .inl (edits_decorate_of_host hown)

end AlwaysHas

/-- **Decorating twice is decorating once**, for a host with the same program whenever it is asked.
Every operation gives the same answer, and the only difference is that a host with effects is asked
for its program once more. In particular the refactoring is added to a list at most once, and only
if the host does not list it, and an answer to a request for edits that is not the host's carries a
single edit. -/
theorem decorate_decorate [LawfulMonad m] (settings : Settings) (host : LanguageService m)
    (program : Option Program) (hprogram : host.AlwaysHas program) :
    (host.program = pure program →
        (host.decorate settings).decorate settings = host.decorate settings) ∧
      ((host.decorate settings).decorate settings).program = (host.decorate settings).program ∧
      ((host.decorate settings).decorate settings).quickInfo = (host.decorate settings).quickInfo ∧
      ((host.decorate settings).decorate settings).definition =
        (host.decorate settings).definition ∧
      ((host.decorate settings).decorate settings).references =
        (host.decorate settings).references ∧
      (∀ fileName locus,
        ((host.decorate settings).decorate settings).refactors fileName locus =
          (do
            let listed ← (host.decorate settings).refactors fileName locus
            host.reask settings
            return listed)) ∧
      (∀ request, ((host.decorate settings).decorate settings).edits request =
            (host.decorate settings).edits request ∨
          ((host.decorate settings).decorate settings).edits request =
            (do
              host.reask settings
              (host.decorate settings).edits request)) ∧
      (∀ fileName locus, ∃ added : List Descriptor → List Descriptor,
        ((host.decorate settings).decorate settings).refactors fileName locus =
            (do
              let listed ← host.refactors fileName locus
              host.reask settings
              host.reask settings
              return listed ++ added listed) ∧
          ∀ listed, added listed = [] ∨ added listed = [Wrap.descriptor] ∧ Unlisted listed) ∧
      ∀ request, ((host.decorate settings).decorate settings).edits request = host.edits request ∨
        ((host.decorate settings).decorate settings).edits request =
          (do
            host.reask settings
            host.reask settings
            host.edits request) ∨
        ∃ answer, ((host.decorate settings).decorate settings).edits request =
            (do
              host.reask settings
              return answer) ∧
          ∀ info, answer = .ok (some info) → ∃ edit, info = ⟨[edit], none, none⟩ := by
  refine ⟨fun hpure => ?_, rfl, rfl, rfl, rfl, hprogram.refactors_twice settings,
    hprogram.edits_twice settings, fun fileName locus => ?_, fun request => ?_⟩
  · refine LanguageService.ext rfl ?_ ?_ rfl rfl rfl
    · funext fileName locus
      rw [hprogram.refactors_twice, reask_of_pure hpure]
      simp only [pure_bind, bind_pure]
    · funext request
      rcases hprogram.edits_twice settings request with hsame | hagain
      · exact hsame
      · rw [hagain, reask_of_pure hpure, pure_bind]
  · refine ⟨fun listed => if settings.Applies program fileName locus ∧ Unlisted listed then
      [Wrap.descriptor] else [], ?_, fun listed => ?_⟩
    · rw [hprogram.refactors_twice, hprogram.refactors_decorate]
      simp only [bind_assoc, pure_bind, Settings.extend_eq]
    · by_cases h : settings.Applies program fileName locus ∧ Unlisted listed
      · exact .inr ⟨if_pos h, h.2⟩
      · exact .inl (if_neg h)
  · by_cases hown : request.actionName = Wrap.actionName ∧ settings.enabled = true
    · obtain ⟨haction, henabled⟩ := hown
      have hdecorated : (host.decorate settings).AlwaysHas program := hprogram
      rw [hdecorated.edits_decorate haction henabled]
      cases hown : settings.ownEdit? program request with
      | none =>
        rw [editsWith_of_none hown, hprogram.edits_decorate haction henabled,
          editsWith_of_none hown]
        exact .inr (.inl rfl)
      | some edit =>
        rw [editsWith_of_some hown]
        refine .inr (.inr ⟨_, rfl, fun info hinfo => ?_⟩)
        cases edit with
        | error e => cases hinfo
        | ok edit =>
          cases hinfo
          exact ⟨edit, rfl⟩
    · exact .inl ((edits_decorate_of_host hown).trans (edits_decorate_of_host hown))

/-- The host of the call, decorated twice. -/
theorem decorate_decorate_hostOfCall :
    (hostOfCall : LanguageService Id).AlwaysHas (some programOfCall) ∧
      Id.run (((hostOfCall.decorate {}).decorate {}).refactors "main.ts" (.point 4)) =
        [⟨"inline", "Inline", []⟩, Wrap.descriptor] ∧
      Id.run (((hostOfCall.decorate {}).decorate {}).edits (requestAtArgument Wrap.actionName)) =
        .ok (some ⟨[⟨"main.ts", ⟨4, 2⟩, "v => fn(v)"⟩], none, none⟩) := by
  have halways : (hostOfCall : LanguageService Id).AlwaysHas (some programOfCall) := rfl
  have hextend : Settings.extend {} (some programOfCall) "main.ts" (.point 4)
      [⟨"inline", "Inline", []⟩] = [⟨"inline", "Inline", []⟩, Wrap.descriptor] := by
    rw [Settings.extend_eq, if_pos ⟨applies_programOfCall, by decide⟩]
    rfl
  have hown : Settings.ownEdit? {} (some programOfCall) (requestAtArgument Wrap.actionName) =
      some (.ok ⟨"main.ts", ⟨4, 2⟩, "v => fn(v)"⟩) :=
    (Settings.ownEdit?_eq_some (Option.mem_some_self programOfCall)
      sourceTree_programOfCall).trans (congrArg some buildEdit_treeOfCall)
  rw [(decorate_decorate {} hostOfCall (some programOfCall) halways).1 rfl]
  refine ⟨halways, ?_, ?_⟩
  · rw [halways.refactors_decorate]
    exact hextend
  · rw [halways.edits_decorate rfl rfl, editsWith_of_some hown]
    rfl

end LanguageService

end ClosureWrap
