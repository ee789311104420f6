import ClosureWrap.Proofs.CommandLine.Faults
import ClosureWrap.Proofs.Storage
import ClosureWrap.Proofs.Typing.Chains

/-!
# The commands and the modes of output

The two commands look for the same thing, and the modes of output differ only in what becomes of the
rewritten text. What a run comes to is decided before the mode counts: the place is refused, the
wrapping is not on offer there, it is on offer and cannot be made, or there is a rewritten text.
`Opened.apply_cases` tells the last three apart for a file that is open, and
`Invocation.Opens.runOn_apply_cases` for a run whose place is accepted. How the runs of an
invocation with different commands compare is read off these cases.

Nothing is known of the surroundings but this: to read or to parse a file leaves what can be read as
it is, and the file that the run is about can be written and then holds what was written. Files in
memory are like that (`Surroundings.readsOnly_inMemory`, `Surroundings.replaces_inMemory`). For a
file whose lines can be counted in 32 bits, whose tree is nested and cut between characters, an edit
can always be made, and a place between characters can always be reported.

## Main definitions

* `Surroundings.contents` — what can be read in a state
* `Surroundings.ReadsOnly`, `Surroundings.Replaces` — what is assumed of reading and writing
* `Invocation.Finds` — what the runs of an invocation find: settings, a text and its tree
* `Invocation.Fails` — where the wrapping fails, whatever becomes of its result

## Main results

* `Opened.apply_cases` — what becomes of the command on an open file, in all modes at once
* `Invocation.Opens.runOn_apply_cases` — what becomes of a run, in all modes at once
* `Invocation.commands_agree` — the two commands and the three modes agree
-/

namespace ClosureWrap

/-! ### The command on an open file -/

namespace Wrap

/-- Where a function is visible under the name, the wrapping is applicable. -/
theorem isApplicable_of_visible {t : Tree} {target : Target} {strict : Bool} {offset : Nat}
    (htarget : findTarget t offset strict = .ok target)
    (hvisible : t.visibleFunctions (t.declarationsOf target.identifier) ≠ []) :
    isApplicable .structural t strict offset = true := by
  have hkind := (findTarget_eq_ok_iff.1 htarget).2.1
  refine isApplicable_iff.2 ⟨target, htarget, ?_⟩
  obtain ⟨f, fs, hfs⟩ := List.exists_cons_of_ne_nil hvisible
  have htype : t.expressionType Tree.typingBudget target.identifier =
      ⟨(f :: fs).map t.signatureOf⟩ := by
    rw [Tree.typingBudget, Tree.expressionType, hkind]
    exact Tree.declaredType_of_visible hfs 16
  simp only [Checker.structural, htype]
  rfl

end Wrap

namespace Opened

variable {o : Opened}

/-- The edit that wraps the reference at the place, whether or not it is on offer. -/
def edit (o : Opened) : Except RefactorError Edit :=
  Wrap.buildEdit .structural (.ofSource o.source) o.settings.strictArgumentPosition
    o.settings.arrowParens o.locus.offset

/-- A place between characters can be reported. -/
theorem exists_report (hsize : Text.byteLength o.source.text + 1 < lineLimit)
    (hplace : Text.isBoundary o.source.text o.locus.offset = true) :
    ∃ complaint, o.notOffered = .ok { status := 2, complaint := complaint } := by
  rcases o.notOffered_cases with ⟨fault, hwritten, -⟩ | ⟨_, complaint, -, hreport⟩
  · obtain ⟨before, after, htext, hoffset⟩ := Text.isBoundary_iff.1 hplace
    have hle : o.locus.offset ≤ Text.byteLength o.source.text := by
      rw [htext, Text.byteLength_append, hoffset]
      exact Nat.le_add_right _ _
    rcases (LineCol.written_eq_error_iff hle).1 hwritten with
      ⟨-, hlong⟩ | ⟨-, -, hinside⟩ | ⟨-, hover⟩
    · omega
    · rw [Text.not_isBoundary_of_insideCharacter hinside] at hplace
      cases hplace
    · exact absurd hover.1 (Nat.ne_of_lt hsize)
  · exact ⟨complaint, hreport⟩

/-- Where the wrapping is on offer, the edit that makes it is all that the service returns. -/
theorem edits_of_isOffered (hoffered : o.isOffered = true) :
    o.edits = o.edit.map fun edit => some ⟨[edit], none, none⟩ :=
  edits_eq (isOffered_iff.1 hoffered).1

/-- At a site of a file that fits into memory, all modes deliver the text with the identifier
replaced. -/
theorem apply_of_site (hwell : o.source.WellFormed)
    (hfits : Text.byteLength o.source.text < addressLimit) (hoffered : o.isOffered = true)
    (site : Wrap.Site o.source o.settings.strictArgumentPosition o.locus.offset)
    (mode : OutputMode) :
    o.apply mode =
      .ok (o.deliver mode (site.before ++ site.newText o.settings.arrowParens ++ site.after)) := by
  have hedit : o.edit = .ok ⟨o.source.name, (Tree.ofSource o.source).span site.identifier,
      site.newText o.settings.arrowParens⟩ := (Wrap.buildEdit_iff_site hwell).2 ⟨site, rfl⟩
  rw [apply, if_pos hoffered, edits_of_isOffered hoffered, hedit]
  simp only [Except.map, List.reverse_singleton, rewrite, site.apply_edit _ _ hfits]
  rfl

/-- **What becomes of the command on an open file**, in all modes at once: the wrapping is not on
offer, it is refused, or there is one rewritten text that all modes deliver. -/
theorem apply_cases (hwell : o.source.WellFormed)
    (hsize : Text.byteLength o.source.text + 1 < lineLimit)
    (hplace : Text.isBoundary o.source.text o.locus.offset = true) :
    (o.isOffered = false ∧
        ∃ complaint, ∀ mode, o.apply mode = .ok { status := 2, complaint := complaint }) ∨
      (o.isOffered = true ∧
        ∃ e, o.edit = .error e ∧ ∀ mode, o.apply mode = .ok (.failure (.refactor e))) ∨
      (o.isOffered = true ∧
        ∃ edit text, o.edit = .ok edit ∧ ∀ mode, o.apply mode = .ok (o.deliver mode text)) := by
  cases hoffered : o.isOffered with
  | false =>
    obtain ⟨complaint, hreport⟩ := exists_report hsize hplace
    exact .inl ⟨rfl, complaint, fun mode => (apply_of_not_isOffered hoffered mode).trans hreport⟩
  | true =>
    refine .inr ?_
    cases hedit : o.edit with
    | error e =>
      refine .inl ⟨rfl, e, rfl, fun mode => ?_⟩
      rw [apply, if_pos hoffered, edits_of_isOffered hoffered, hedit]
      rfl
    | ok edit =>
      obtain ⟨site, -⟩ := (Wrap.buildEdit_iff_site hwell).1 hedit
      have hfits : Text.byteLength o.source.text < addressLimit :=
        Nat.lt_trans (Nat.lt_of_succ_lt hsize) (by decide : lineLimit < addressLimit)
      exact .inr ⟨rfl, edit, _, rfl, apply_of_site hwell hfits hoffered site⟩

theorem status_list_eq_two_iff : o.list.status = 2 ↔ o.isOffered = false := by
  rw [list]
  cases o.isOffered <;> simp

theorem status_list_ne_two (h : o.isOffered = true) : o.list.status ≠ 2 := by
  rw [ne_eq, status_list_eq_two_iff, h]
  exact Bool.noConfusion

end Opened

/-! ### Surroundings -/

namespace Surroundings

variable {σ : Type}

/-- What is read at a path in state `x`. -/
def contents (env : Surroundings (StateM σ)) (x : σ) (path : String) : Except ReadProblem String :=
  (Id.run ((env.read path).run x)).1

/-- To read or to parse a file leaves what can be read as it is. -/
structure ReadsOnly (env : Surroundings (StateM σ)) : Prop where
  read : ∀ path x, env.contents (Id.run ((env.read path).run x)).2 = env.contents x
  parse : ∀ name text x, env.contents (Id.run ((env.parse name text).run x)).2 = env.contents x

/-- The file at a path can be written, and then holds what was written. -/
def Replaces (env : Surroundings (StateM σ)) (x : σ) (path : String) : Prop :=
  ∀ text, ∃ x', Id.run ((env.write path text).run x) = (.ok (), x') ∧
    env.contents x' path = .ok text

variable {parse : String → String → Option Concrete.Source} {userSettings : Option String}

theorem readsOnly_inMemory : (inMemory parse userSettings).ReadsOnly :=
  ⟨fun _ _ => rfl, fun _ _ _ => rfl⟩

theorem write_inMemory {s s' : Storage} {path text : String} :
    Id.run (((inMemory parse userSettings).write path text).run s) = (.ok (), s') ↔
      s.write path text = .ok s' := by
  simp only [inMemory, StateT.run]
  cases s.write path text with
  | ok stored => simp [Id.run]
  | error problem => simp [Id.run]

/-- A file in memory that can be read can be written. -/
theorem replaces_inMemory {s : Storage} {path text : String} (h : s.read path = .ok text) :
    (inMemory parse userSettings).Replaces s path := by
  intro new
  obtain ⟨s', hwrite, hsame, -⟩ := Storage.write_of_read h new
  exact ⟨s', write_inMemory.2 hwrite, hsame path rfl⟩

end Surroundings

/-! ### Runs -/

namespace Invocation

variable {σ : Type} {env : Surroundings (StateM σ)} {inv : Invocation} {x x' : σ}
  {settings : Settings} {source : Concrete.Source} {text : String} {o : Opened}

/-- The invocation of another command with the same file, place and settings. -/
def withCommand (inv : Invocation) (command : Command) : Invocation :=
  { inv with command := command }

/-- To read the settings leaves what can be read as it is. -/
theorem contents_settings (henv : env.ReadsOnly) (inv : Invocation) (x : σ) :
    env.contents (Id.run ((inv.settings env).run x)).2 = env.contents x := by
  rw [Invocation.settings]
  cases inv.config <|> env.userSettings with
  | none => rfl
  | some path => exact henv.read path x

theorem Reads.contents_eq (h : inv.Reads env x settings text x') (henv : env.ReadsOnly) :
    env.contents x' = env.contents x := by
  obtain ⟨x₁, hsettings, hread⟩ := h
  have hfirst := inv.contents_settings henv x
  have hsecond := henv.read inv.file x₁
  rw [hsettings] at hfirst
  rw [hread] at hsecond
  exact hsecond.trans hfirst

/-- A run that is refused its place says so and goes no further. -/
theorem Reads.runOn_of_refused (h : inv.Reads env x settings text x') {e : LocusError}
    (hplace : Locus.parse text inv.place = .ok (.error e)) (command : Command) :
    (inv.withCommand command).runOn env x = (.ok (.failure (.ofLocus e)), x') := by
  have hreads : (inv.withCommand command).Reads env x settings text x' := h
  have hplace' : Locus.parse text (inv.withCommand command).place = .ok (.error e) := hplace
  rw [hreads.runOn_eq, hplace']

theorem store_of_none {outcome : Outcome} (h : outcome.rewritten = none) :
    Id.run ((inv.store env outcome).run x) = (outcome, x) := by
  rw [store, h]
  rfl

theorem store_of_some {outcome : Outcome} (h : outcome.rewritten = some text)
    (hwrite : Id.run ((env.write inv.file text).run x) = (.ok (), x')) :
    Id.run ((inv.store env outcome).run x) = (outcome, x') := by
  rw [store, h]
  simp only [StateT.run_bind, Id.run_bind, hwrite]
  rfl

namespace Opens

/-- A run with another command opens the same file, and stores what this command leaves. -/
theorem runOn_withCommand (h : inv.Opens env x text o x') {command : Command} {outcome : Outcome}
    (houtcome : o.perform command = .ok outcome) :
    (inv.withCommand command).runOn env x =
      (Id.run ((inv.store env outcome).run x')).map .ok id := by
  have hopens : (inv.withCommand command).Opens env x text o x' := h
  have houtcome' : o.perform (inv.withCommand command).command = .ok outcome := houtcome
  rw [hopens.runOn_eq, houtcome']
  rfl

theorem contents_eq (h : inv.Opens env x text o x') (henv : env.ReadsOnly) :
    env.contents x' = env.contents x := by
  obtain ⟨x₂, hreads, -, hparse⟩ := h
  have hparsed := henv.parse inv.file text x₂
  rw [hparse] at hparsed
  exact hparsed.trans (hreads.contents_eq henv)

/-- A run without a text to write ends in the state after the parser. -/
theorem runOn_of_none (h : inv.Opens env x text o x') {command : Command} {outcome : Outcome}
    (houtcome : o.perform command = .ok outcome) (hnothing : outcome.rewritten = none) :
    (inv.withCommand command).runOn env x = (.ok outcome, x') := by
  rw [h.runOn_withCommand houtcome, store_of_none hnothing]
  rfl

/-- The state after a rewritten text is delivered: only one mode writes it. -/
theorem runOn_of_deliver (h : inv.Opens env x text o x') {new : String} {x'' : σ}
    (hwrite : Id.run ((env.write inv.file new).run x') = (.ok (), x'')) {mode : OutputMode}
    (happly : o.perform (.apply mode) = .ok (o.deliver mode new)) :
    (inv.withCommand (.apply mode)).runOn env x =
      (.ok (o.deliver mode new), if mode = .write then x'' else x') := by
  cases mode with
  | print => exact h.runOn_of_none happly rfl
  | diff => exact h.runOn_of_none happly rfl
  | write =>
    rw [h.runOn_withCommand happly, store_of_some rfl hwrite]
    rfl

/-- **What becomes of a run whose place is accepted**, in all modes at once. -/
theorem runOn_apply_cases (h : inv.Opens env x o.source.text o x')
    (hwell : o.source.WellFormed) (hsize : Text.byteLength o.source.text + 1 < lineLimit)
    (hboundary : Text.isBoundary o.source.text o.locus.offset = true)
    (hwrites : env.Replaces x' inv.file) :
    (o.isOffered = false ∧ ∃ complaint, ∀ mode,
        (inv.withCommand (.apply mode)).runOn env x =
          (.ok { status := 2, complaint := complaint }, x')) ∨
      (o.isOffered = true ∧ ∃ e, o.edit = .error e ∧ ∀ mode,
        (inv.withCommand (.apply mode)).runOn env x = (.ok (.failure (.refactor e)), x')) ∨
      (o.isOffered = true ∧ ∃ edit new x'', o.edit = .ok edit ∧
        Id.run ((env.write inv.file new).run x') = (.ok (), x'') ∧
        env.contents x'' inv.file = .ok new ∧
        ∀ mode, (inv.withCommand (.apply mode)).runOn env x =
          (.ok (o.deliver mode new), if mode = .write then x'' else x')) := by
  rcases Opened.apply_cases hwell hsize hboundary with
    ⟨hoffered, complaint, happly⟩ | ⟨hoffered, e, hedit, happly⟩ |
      ⟨hoffered, edit, new, hedit, happly⟩
  · exact .inl ⟨hoffered, complaint, fun mode => h.runOn_of_none (happly mode) rfl⟩
  · exact .inr (.inl ⟨hoffered, e, hedit, fun mode => h.runOn_of_none (happly mode) rfl⟩)
  · obtain ⟨x'', hwrite, hwritten⟩ := hwrites new
    exact .inr (.inr ⟨hoffered, edit, new, x'', hedit, hwrite, hwritten,
      fun mode => h.runOn_of_deliver hwrite (happly mode)⟩)

end Opens

/-- The settings can be read, the file holds a text, and the parser makes a tree of it and leaves
the state `x'`. -/
def Finds (inv : Invocation) (env : Surroundings (StateM σ)) (x : σ) (settings : Settings)
    (source : Concrete.Source) (x' : σ) : Prop :=
  ∃ x₂, inv.Reads env x settings source.text x₂ ∧
    Id.run ((env.parse inv.file source.text).run x₂) = (some source, x')

/-- The place is refused, or the wrapping is on offer there and cannot be made. -/
def Fails (inv : Invocation) (settings : Settings) (source : Concrete.Source) : Prop :=
  (∃ e, Locus.parse source.text inv.place = .ok (.error e)) ∨
    ∃ locus e, Locus.parse source.text inv.place = .ok (.ok locus) ∧
      (Opened.mk source locus settings).isOffered = true ∧
      (Opened.mk source locus settings).edit = .error e

theorem fails_iff_of_accepted (hplace : Locus.parse o.source.text inv.place = .ok (.ok o.locus)) :
    inv.Fails o.settings o.source ↔ o.isOffered = true ∧ ∃ e, o.edit = .error e := by
  rw [Fails, hplace]
  constructor
  · rintro (⟨e, herror⟩ | ⟨locus, e, hlocus, hoffered, hedit⟩)
    · cases herror
    · cases hlocus
      exact ⟨hoffered, e, hedit⟩
  · rintro ⟨hoffered, e, hedit⟩
    exact .inr ⟨o.locus, e, rfl, hoffered, hedit⟩

/-- **The two commands and the three modes agree.** Let the settings and the file be read, let the
file be writable, and let the place be refused or lie between characters. Then the command that
wraps ends with status 2 exactly if the one that lists does, and with status 1 exactly if the place
is refused, or the wrapping is on offer and cannot be made. The runs that do not write leave all
that can be read as it was, and so does the mode that writes unless the status is 0. If it is, then
nothing is printed, one thing is written, namely what would have been printed, and the file holds
it. -/
theorem commands_agree (henv : env.ReadsOnly) (h : inv.Finds env x settings source x')
    (hwell : source.WellFormed) (hsize : Text.byteLength source.text + 1 < lineLimit)
    (hwrites : env.Replaces x' inv.file)
    (hplace : ∀ locus, Locus.parse source.text inv.place = .ok (.ok locus) →
      Text.isBoundary source.text locus.offset = true) (mode : OutputMode) :
    ∃ listed applied printed before after,
      (inv.withCommand .refactors).runOn env x = (.ok listed, before) ∧
      (inv.withCommand (.apply mode)).runOn env x = (.ok applied, after) ∧
      (inv.withCommand (.apply .print)).runOn env x = (.ok printed, before) ∧
      env.contents before = env.contents x ∧
      (applied.status = 2 ↔ listed.status = 2) ∧
      (applied.status = 1 ↔ inv.Fails settings source) ∧
      (mode ≠ .write ∨ applied.status ≠ 0 → after = before) ∧
      (mode = .write → applied.status = 0 →
        applied.output = "" ∧ applied.complaint = "" ∧ printed.status = 0 ∧
          Id.run ((env.write inv.file printed.output).run before) = (.ok (), after) ∧
          env.contents after inv.file = .ok printed.output) := by
  obtain ⟨x₂, hreads, hparse⟩ := h
  -- In a file of this size the place cannot fault. If it is refused, no run gets to the parser.
  rcases hparsed : Locus.parse source.text inv.place with fault | e | locus
  · have hlong := (Locus.parse_eq_error_iff.1 hparsed).2.1
    omega
  · have hrun := hreads.runOn_of_refused hparsed
    exact ⟨_, _, _, x₂, x₂, hrun _, hrun _, hrun _, hreads.contents_eq henv, Iff.rfl,
      iff_of_true rfl (.inl ⟨e, hparsed⟩), fun _ => rfl, fun _ hstatus => (by cases hstatus)⟩
  · obtain ⟨o, rfl, rfl, rfl⟩ :
        ∃ o : Opened, o.source = source ∧ o.settings = settings ∧ o.locus = locus :=
      ⟨⟨source, locus, settings⟩, rfl, rfl, rfl⟩
    have hopens : inv.Opens env x o.source.text o x' := ⟨x₂, hreads, hparsed, hparse⟩
    have hsame := hopens.contents_eq henv
    have hlist : (inv.withCommand .refactors).runOn env x = (.ok o.list, x') :=
      hopens.runOn_of_none rfl rfl
    rw [fails_iff_of_accepted hparsed]
    rcases hopens.runOn_apply_cases hwell hsize (hplace o.locus hparsed) hwrites with
      ⟨hoffered, complaint, hrun⟩ | ⟨hoffered, e, hedit, hrun⟩ |
        ⟨hoffered, edit, new, x'', hedit, hwrite, hwritten, hrun⟩
    · refine ⟨_, _, _, x', x', hlist, hrun mode, hrun .print, hsame, ?_, ?_, fun _ => rfl,
        fun _ hstatus => (by cases hstatus)⟩
      · exact iff_of_true rfl (Opened.status_list_eq_two_iff.2 hoffered)
      · refine iff_of_false (fun hstatus => (by cases hstatus)) fun hfails => ?_
        rw [hoffered] at hfails
        cases hfails.1
    · refine ⟨_, _, _, x', x', hlist, hrun mode, hrun .print, hsame, ?_, ?_, fun _ => rfl,
        fun _ hstatus => (by cases hstatus)⟩
      · exact iff_of_false (fun hstatus => (by cases hstatus)) (Opened.status_list_ne_two hoffered)
      · exact iff_of_true rfl ⟨hoffered, e, hedit⟩
    · have hstatus := o.status_deliver mode new
      refine ⟨_, _, _, x', _, hlist, hrun mode, hrun .print, hsame, ?_, ?_, ?_, ?_⟩
      · exact iff_of_false (by rw [hstatus]; decide) (Opened.status_list_ne_two hoffered)
      · refine iff_of_false (by rw [hstatus]; decide) ?_
        rintro ⟨-, e, herror⟩
        rw [hedit] at herror
        cases herror
      · intro hkept
        exact if_neg (hkept.resolve_right fun hfailed => hfailed hstatus)
      · rintro rfl _
        exact ⟨rfl, rfl, rfl, hwrite, hwritten⟩

/-! ### A call with a callback, in memory -/

/-- Files in memory. The only text with a tree is that of `Session.callWithCallback`. -/
def besideCall : Surroundings (StateM Storage) :=
  .inMemory (fun _ text => if text = Session.callWithCallback.text then
    some Session.callWithCallback else none) none

/-- The call, and another file beside it. -/
def storageOfCall : Storage :=
  .ofList [("/work/main.ts", .file Session.callWithCallback.text.toUTF8),
    ("/work/notes.md", .file "fn".toUTF8)]

/-- The command that wraps the argument of the call. -/
def wrapArgument : Invocation := ⟨.apply .write, "/work/main.ts", "71", none⟩

/-- The call with its argument wrapped. -/
def wrappedCall : String :=
  "declare function run(cb: (fn, b) => void): void;\nfunction fn() {}\nrun((fn, b) => fn(fn, b));\n"

theorem follow_wrapArgument :
    storageOfCall.follow wrapArgument.file = .ok ["/", "work", "main.ts"] := by
  rfl

theorem read_wrapArgument :
    storageOfCall.read wrapArgument.file = .ok Session.callWithCallback.text := by
  have hlookup : storageOfCall.lookup ["/", "work", "main.ts"] =
      some (.file Session.callWithCallback.text.toUTF8) := rfl
  have hread := Storage.read_of_follow follow_wrapArgument
  rw [hlookup] at hread
  simp only [Storage.fromUTF8?_toUTF8] at hread
  exact hread

theorem finds_callWithCallback :
    wrapArgument.Finds besideCall storageOfCall (.ofFile {}) Session.callWithCallback
      storageOfCall :=
  ⟨storageOfCall, ⟨storageOfCall, rfl, congrArg (·, storageOfCall) read_wrapArgument⟩,
    congrArg (·, storageOfCall) (if_pos rfl)⟩

/-- The place of the argument is accepted in every text that is long enough. -/
theorem parse_wrapArgument {text : String} (h : 71 ≤ Text.byteLength text) :
    Locus.parse text wrapArgument.place = .ok (.ok (.point 71)) := by
  have hnumber : Locus.readNumber ['7', '1'] = .ok 71 := by decide
  have hoffset : Locus.readOffset text ['7', '1'] = .ok 71 :=
    Locus.readOffset_eq_ok_iff.2 ⟨hnumber, h⟩
  exact Locus.parse_eq_ok_iff.2 ((Locus.readTrimmed_offset rfl rfl).2 ⟨71, hoffset, rfl⟩)

/-- The argument of the call is a function that is declared, and all modes deliver the wrapped
call. -/
theorem apply_callWithCallback (mode : OutputMode) :
    (Opened.mk Session.callWithCallback (.point 71) (.ofFile {})).apply mode =
      .ok ((Opened.mk Session.callWithCallback (.point 71) (.ofFile {})).deliver mode
        wrappedCall) := by
  have hcontained : (Tree.ofSource Session.callWithCallback).contained "fn" .value 0 = [12] := by
    rw [Tree.contained_eq]
    decide +kernel
  obtain ⟨hwell, hfits, hname, hrole, hvisible, hwrapped⟩ :
      Session.callWithCallback.WellFormed ∧
        Text.byteLength Session.callWithCallback.text < addressLimit ∧
        (Tree.ofSource Session.callWithCallback).textOf 18 = "fn" ∧
        (Tree.ofSource Session.callWithCallback).role 18 ≠ some .property ∧
        (Tree.ofSource Session.callWithCallback).visibleFunctions [12] = [12] ∧
        Session.siteOfArgument.before ++ Session.siteOfArgument.newText .asNeeded ++
          Session.siteOfArgument.after = wrappedCall := by
    decide +kernel
  have htarget : Wrap.findTarget (.ofSource Session.callWithCallback) 71 true = .ok ⟨18, 16⟩ :=
    Session.siteOfArgument.findTarget_eq hwell
  obtain ⟨-, hkind, habove, hcall, -⟩ := Wrap.findTarget_eq_ok_iff.1 htarget
  have hdeclared : (Tree.ofSource Session.callWithCallback).declarationsOf 18 = [12] := by
    rw [Tree.declarationsOf_of_call hkind habove hcall hrole, hname,
      Session.resolve_callWithCallback "fn" habove, hcontained]
  have happlicable :
      Wrap.isApplicable .structural (.ofSource Session.callWithCallback) true 71 = true := by
    refine Wrap.isApplicable_of_visible htarget ?_
    rw [hdeclared, hvisible]
    exact List.cons_ne_nil _ _
  have hoffered :
      (Opened.mk Session.callWithCallback (.point 71) (.ofFile {})).isOffered = true := by
    refine Opened.isOffered_iff.2 ⟨rfl, ?_⟩
    dsimp only [Locus.offset]
    exact happlicable
  have hdelivered := Opened.apply_of_site (o := ⟨Session.callWithCallback, .point 71, .ofFile {}⟩)
  dsimp only [Locus.offset] at hdelivered
  rw [← hwrapped]
  exact hdelivered hwell hfits hoffered Session.siteOfArgument mode

/-- The wrapped call is written to its file, which may be spelled in another way, and nowhere
else. -/
theorem commands_agree_callWithCallback :
    ∃ s', (wrapArgument.withCommand (.apply .write)).runOn besideCall storageOfCall =
        (.ok { status := 0, rewritten := some wrappedCall }, s') ∧
      s'.read "/work/main.ts" = .ok wrappedCall ∧ s'.read "/../work/./main.ts" = .ok wrappedCall ∧
      s'.read "/work/notes.md" = .ok "fn" := by
  have hfinds := finds_callWithCallback
  have hread := read_wrapArgument
  have hplace : Locus.parse Session.callWithCallback.text wrapArgument.place =
      .ok (.ok (.point 71)) := parse_wrapArgument (by decide +kernel)
  have hboundary : Text.isBoundary Session.callWithCallback.text 71 = true := by decide +kernel
  have hwell : Session.callWithCallback.WellFormed := by decide +kernel
  have hsize : Text.byteLength Session.callWithCallback.text + 1 < lineLimit := by decide +kernel
  have happly := apply_callWithCallback
  -- What is inside the file does not matter from here on.
  generalize Session.callWithCallback = source at hfinds hread hplace hboundary hwell hsize happly
  let o : Opened := ⟨source, .point 71, .ofFile {}⟩
  have henv : besideCall.ReadsOnly := Surroundings.readsOnly_inMemory
  have hwrites : besideCall.Replaces storageOfCall wrapArgument.file :=
    Surroundings.replaces_inMemory hread
  have hopens : wrapArgument.Opens besideCall storageOfCall source.text o storageOfCall := by
    obtain ⟨x₂, hreads, hparse⟩ := hfinds
    exact ⟨x₂, hreads, hplace, hparse⟩
  obtain ⟨written, hwrite, -⟩ := hwrites wrappedCall
  obtain ⟨listed, applied, printed, before, after, -, happlied, hprinted, -, -, -, -, hwritten⟩ :=
    commands_agree henv hfinds hwell hsize hwrites
      (fun locus h => by rw [hplace] at h; cases h; exact hboundary) .write
  have hprint := hopens.runOn_of_deliver hwrite (happly .print)
  have hrun := hopens.runOn_of_deliver hwrite (happly .write)
  rw [hprint] at hprinted
  rw [hrun] at happlied
  cases hprinted
  cases happlied
  obtain ⟨-, -, -, hstored, -⟩ := hwritten rfl rfl
  obtain ⟨s', hstored', hsame, hother⟩ := Storage.write_of_read hread wrappedCall
  obtain rfl : written = s' :=
    Except.ok.inj ((Surroundings.write_inMemory.1 hstored).symm.trans hstored')
  refine ⟨_, hrun, hsame _ rfl, hsame _ rfl, ?_⟩
  rw [if_pos rfl, hother _ (by rw [follow_wrapArgument]; decide)]
  rfl

end Invocation

end ClosureWrap
