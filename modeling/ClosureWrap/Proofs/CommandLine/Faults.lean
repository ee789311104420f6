import ClosureWrap.CommandLine.Run
import ClosureWrap.Proofs.Locus
import ClosureWrap.Proofs.Refactor.Contract
import ClosureWrap.Proofs.Service.Agreement

/-!
# Runs that end without a status

Every way in which the command that wraps a reference can go wrong has a status, except where a line
and a column are asked for. A place is accepted as soon as it lies in the file, in whichever form it
is written. If the wrapping is not on offer there, the place is to be reported by its line and
column. An offset inside a character has none; nor is there an index of the lines if the offsets of
the file need more than 32 bits; and at the end of the longest file that has an index, the line or
the column may be too large to be counted from one. Without an index, a place that is written as a
line and a column cannot be read either.

No other fault occurs. The end of an edit is the end of an identifier, which the parser gave as an
address.

A run is described by what it finds on its way: settings that can be read, a file that can be read,
a place that is accepted and a tree.

## Main definitions

* `Surroundings.ParsesFaithfully` — what is promised of the parser
* `Invocation.runOn`, `Invocation.ending` — a run from a state, and how it ends
* `Invocation.Reads`, `Invocation.Opens` — what a run reads and opens before it starts to work
* `Invocation.Stops` — the runs that come to a fault, and to which

## Main results

* `Opened.apply_eq_error_iff` — where the command on an open file faults
* `Invocation.ending_cases` — how far a run comes
* `Invocation.faults_iff_stops` — the runs that end without a status
-/

namespace ClosureWrap

/-! ### The command on an open file -/

namespace Opened

variable {o : Opened}

theorem get?_files (o : Opened) :
    ((Session.start o.settings).step (.openOnly o.source)).files.get? o.source.name =
      some (.ofSource o.source) := by
  rw [Session.step, Files.get?_insert, if_pos rfl]

/-- The wrapping is on offer where it is enabled and applicable. -/
theorem isOffered_iff :
    o.isOffered = true ↔ o.settings.enabled = true ∧
      Wrap.isApplicable .structural (.ofSource o.source) o.settings.strictArgumentPosition
        o.locus.offset = true := by
  let files := ((Session.start o.settings).step (.openOnly o.source)).files
  have hlist : o.refactors = o.settings.extend (some files.program) o.source.name o.locus [] := by
    have halways : (files.service (m := Id)).AlwaysHas (some files.program) := rfl
    exact halways.refactors_decorate o.settings o.source.name o.locus
  have hoffers : o.isOffered = true ↔
      o.settings.Applies (some files.program) o.source.name o.locus := by
    rw [isOffered, hlist, Settings.extend_eq]
    by_cases happlies : o.settings.Applies (some files.program) o.source.name o.locus
    · simp [happlies, Unlisted, Wrap.descriptor]
    · simp [happlies]
  rw [hoffers]
  constructor
  · intro happlies
    exact ⟨happlies.1,
      (LanguageService.applies_iff_isApplicable happlies.1 rfl o.get?_files).1 happlies⟩
  · rintro ⟨henabled, happlicable⟩
    exact (LanguageService.applies_iff_isApplicable henabled rfl o.get?_files).2 happlicable

/-- The edits of an enabled wrapping are the one edit that it makes. -/
theorem edits_eq (henabled : o.settings.enabled = true) :
    o.edits = (Wrap.buildEdit .structural (.ofSource o.source) o.settings.strictArgumentPosition
      o.settings.arrowParens o.locus.offset).map fun edit => some ⟨[edit], none, none⟩ := by
  let s := (Session.start o.settings).step (.openOnly o.source)
  let request : EditRequest :=
    ⟨o.source.name, {}, o.locus, Wrap.refactorName, Wrap.actionName, {}⟩
  have hasked : o.edits = Id.run (s.service.edits request) := rfl
  have hfile : s.files.get? request.fileName = some (.ofSource o.source) := o.get?_files
  rw [hasked, Session.edits_eq henabled rfl, hfile]
  rfl

/-- An edit ends at an address, if the nodes of the concrete tree do. -/
theorem exists_stop_of_buildEdit {source : Concrete.Source}
    (haddresses : source.trees.Every fun c _ => c.stop < addressLimit) {checker : Checker}
    {strict : Bool} {mode : ArrowParens} {offset : Nat} {edit : Edit}
    (h : Wrap.buildEdit checker (.ofSource source) strict mode offset = .ok edit) :
    ∃ stop, edit.span.stop = .ok stop := by
  obtain ⟨target, htarget, c, rfl⟩ := Wrap.buildEdit_eq_ok_iff.1 h
  obtain ⟨hlocate, hkind, hparent, -⟩ := Wrap.findTarget_eq_ok_iff.1 htarget
  have hpos : 0 < target.identifier := Nat.zero_lt_of_lt (Tree.parent_lt hparent)
  have hstop : (Tree.ofSource source).stop target.identifier < addressLimit :=
    Tree.range_ofSource (P := fun _ stop => stop < addressLimit) haddresses hpos
      (Tree.lt_size_of_identifier hkind)
  exact ⟨_, Tree.stop_span (Tree.contains_of_locate? hlocate) hstop⟩

/-- The text after an edit that ends at an address is settled, one way or the other. -/
theorem exists_rewrite_of_stop {edit : Edit} {stop : Nat} (h : edit.span.stop = .ok stop)
    (text : String) : ∃ result, rewrite text [edit] = .ok result := by
  rw [rewrite, Edit.apply, h]
  cases hslices : (Text.slice? text 0 edit.span.start).bind fun before =>
      (Text.slice? text stop (Text.byteLength text)).map fun after =>
        before ++ edit.newText ++ after with
  | none => exact ⟨_, by simp only [Except.map, hslices]; rfl⟩
  | some rewritten => exact ⟨_, by simp only [Except.map, hslices]; rfl⟩

/-- What becomes of the rewritten text is always a success. -/
theorem status_deliver (mode : OutputMode) (text : String) : (o.deliver mode text).status = 0 := by
  cases mode <;> rfl

/-- Where the wrapping is on offer it succeeds, or is refused for what the call lacks. -/
theorem exists_outcome_of_isOffered
    (haddresses : o.source.trees.Every fun c _ => c.stop < addressLimit)
    (hoffered : o.isOffered = true) (mode : OutputMode) :
    ∃ outcome, o.apply mode = .ok outcome ∧ outcome.status ≤ 1 := by
  obtain ⟨henabled, -⟩ := isOffered_iff.1 hoffered
  rw [apply, if_pos hoffered, edits_eq henabled]
  cases hedit : Wrap.buildEdit .structural (.ofSource o.source) o.settings.strictArgumentPosition
      o.settings.arrowParens o.locus.offset with
  | error problem => exact ⟨_, rfl, Nat.le_refl 1⟩
  | ok edit =>
    obtain ⟨stop, hstop⟩ := exists_stop_of_buildEdit haddresses hedit
    obtain ⟨result, hresult⟩ := exists_rewrite_of_stop hstop o.source.text
    simp only [Except.map, List.reverse_singleton, hresult]
    cases result with
    | ok text => exact ⟨o.deliver mode text, rfl, by rw [status_deliver]; exact Nat.zero_le 1⟩
    | error problem => exact ⟨_, rfl, Nat.le_refl 1⟩

theorem apply_of_not_isOffered (hoffered : o.isOffered = false) (mode : OutputMode) :
    o.apply mode = o.notOffered := by
  rw [apply, hoffered, if_neg Bool.false_ne_true]

/-- The report that the wrapping is not on offer has a status, unless the place cannot be
written. -/
theorem notOffered_cases (o : Opened) :
    (∃ fault, LineCol.written o.source.text o.locus.offset = .error fault ∧
        o.notOffered = .error fault) ∨
      ∃ place complaint, LineCol.written o.source.text o.locus.offset = .ok place ∧
        o.notOffered = .ok { status := 2, complaint := complaint } := by
  rw [notOffered]
  cases LineCol.written o.source.text o.locus.offset with
  | error fault => exact .inl ⟨fault, rfl, rfl⟩
  | ok place => exact .inr ⟨place, _, rfl, rfl⟩

/-- **Where the command on an open file faults**: the wrapping is not on offer at the place, and the
place cannot be reported. -/
theorem apply_eq_error_iff (haddresses : o.source.trees.Every fun c _ => c.stop < addressLimit)
    (mode : OutputMode) {fault : Fault} :
    o.apply mode = .error fault ↔
      o.isOffered = false ∧ LineCol.written o.source.text o.locus.offset = .error fault := by
  cases hoffered : o.isOffered with
  | true =>
    obtain ⟨outcome, happly, -⟩ := exists_outcome_of_isOffered haddresses hoffered mode
    rw [happly]
    exact iff_of_false (fun h => by cases h) fun h => by cases h.1
  | false =>
    rw [apply_of_not_isOffered hoffered]
    rcases o.notOffered_cases with ⟨fault', hwritten, hreport⟩ | ⟨place, _, hwritten, hreport⟩
    · rw [hwritten, hreport, Except.error.injEq, Except.error.injEq]
      exact (and_iff_right rfl).symm
    · rw [hwritten, hreport]
      exact iff_of_false (fun h => by cases h) fun h => by cases h.2

/-- Any other outcome has a status up to 2. -/
theorem status_le_of_apply (haddresses : o.source.trees.Every fun c _ => c.stop < addressLimit)
    {mode : OutputMode} {outcome : Outcome} (h : o.apply mode = .ok outcome) :
    outcome.status ≤ 2 := by
  cases hoffered : o.isOffered with
  | true =>
    obtain ⟨outcome', happly, hstatus⟩ := exists_outcome_of_isOffered haddresses hoffered mode
    cases h.symm.trans happly
    exact Nat.le_succ_of_le hstatus
  | false =>
    rw [apply_of_not_isOffered hoffered] at h
    rcases o.notOffered_cases with ⟨_, -, hreport⟩ | ⟨_, _, -, hreport⟩
    · cases h.symm.trans hreport
    · cases h.symm.trans hreport
      exact Nat.le_refl 2

end Opened

/-! ### Runs -/

/-- What is promised of a parser: the tree is that of the text that was given, and its nodes end at
addresses. -/
def Surroundings.ParsesFaithfully {σ : Type} (env : Surroundings (StateM σ)) : Prop :=
  ∀ name text x source x', Id.run ((env.parse name text).run x) = (some source, x') →
    source.text = text ∧ source.trees.Every fun c _ => c.stop < addressLimit

namespace Invocation

variable {σ : Type} {env : Surroundings (StateM σ)} {inv : Invocation} {x x' : σ}
  {settings : Settings} {text : String} {o : Opened}

/-- A run that starts in state `x`: how it ends, and the state that it leaves behind. -/
def runOn (inv : Invocation) (env : Surroundings (StateM σ)) (x : σ) : Except Fault Outcome × σ :=
  Id.run ((inv.run env).run x)

/-- How a run ends that starts in state `x`. -/
def ending (inv : Invocation) (env : Surroundings (StateM σ)) (x : σ) : Except Fault Outcome :=
  (inv.runOn env x).1

/-- The settings and the file can be read, and then the state is `x'`. -/
def Reads (inv : Invocation) (env : Surroundings (StateM σ)) (x : σ) (settings : Settings)
    (text : String) (x' : σ) : Prop :=
  ∃ x₁, Id.run ((inv.settings env).run x) = (.ok settings, x₁) ∧
    Id.run ((env.read inv.file).run x₁) = (.ok text, x')

/-- The settings and the file can be read, the place is accepted for the text of the file, and the
file is parsed. -/
def Opens (inv : Invocation) (env : Surroundings (StateM σ)) (x : σ) (text : String) (o : Opened)
    (x' : σ) : Prop :=
  ∃ x₂, inv.Reads env x o.settings text x₂ ∧
    Locus.parse text inv.place = .ok (.ok o.locus) ∧
    Id.run ((env.parse inv.file text).run x₂) = (some o.source, x')

/-- What a run does with the file that it has read. -/
theorem Reads.runOn_eq (h : inv.Reads env x settings text x') :
    inv.runOn env x =
      match Locus.parse text inv.place with
      | .error fault => (.error fault, x')
      | .ok (.error e) => (.ok (.failure (.ofLocus e)), x')
      | .ok (.ok locus) =>
        match Id.run ((env.parse inv.file text).run x') with
        | (none, x'') => (.ok (.failure (.unparsed inv.file)), x'')
        | (some source, x'') =>
          match (Opened.mk source locus settings).perform inv.command with
          | .error fault => (.error fault, x'')
          | .ok outcome => (Id.run ((inv.store env outcome).run x'')).map .ok id := by
  obtain ⟨x₁, hsettings, hread⟩ := h
  simp only [runOn, run, openFile, StateT.run_bind, Id.run_bind, hsettings, hread]
  rcases Locus.parse text inv.place with _ | _ | locus
  · rfl
  · rfl
  · simp only [StateT.run_bind, Id.run_bind]
    rcases Id.run ((env.parse inv.file text).run x') with ⟨_ | source, x''⟩
    · rfl
    · dsimp only
      cases hperform : (Opened.mk source locus settings).perform inv.command with
      | error fault => simp only [StateT.run_pure, Id.run_pure, hperform]
      | ok outcome =>
        simp only [StateT.run_pure, Id.run_pure, hperform]
        rfl

/-- A run that cannot read its settings or its file fails, and says why. -/
theorem reads_or_failure (inv : Invocation) (env : Surroundings (StateM σ)) (x : σ) :
    (∃ settings text x', inv.Reads env x settings text x') ∨
      ∃ e, inv.ending env x = .ok (.failure e) := by
  rcases hsettings : Id.run ((inv.settings env).run x) with ⟨e | settings, x₁⟩
  · refine .inr ⟨e, ?_⟩
    simp only [ending, runOn, run, StateT.run_bind, Id.run_bind, hsettings]
    rfl
  · rcases hread : Id.run ((env.read inv.file).run x₁) with ⟨problem | text, x₂⟩
    · refine .inr ⟨.access problem, ?_⟩
      simp only [ending, runOn, run, openFile, StateT.run_bind, Id.run_bind, hsettings, hread]
      rfl
    · exact .inl ⟨settings, text, x₂, x₁, hsettings, hread⟩

/-- A run that cannot look up its place comes to that fault. -/
theorem Reads.ending_of_fault (h : inv.Reads env x settings text x') {fault : Fault}
    (hplace : Locus.parse text inv.place = .error fault) : inv.ending env x = .error fault := by
  rw [ending, h.runOn_eq, hplace]

/-- A run that opens a file carries out its command there, and then stores what there is to
store. -/
theorem Opens.runOn_eq (h : inv.Opens env x text o x') :
    inv.runOn env x =
      match o.perform inv.command with
      | .error fault => (.error fault, x')
      | .ok outcome => (Id.run ((inv.store env outcome).run x')).map .ok id := by
  obtain ⟨x₂, hreads, hplace, hparse⟩ := h
  rw [hreads.runOn_eq, hplace]
  simp only [hparse]

theorem Opens.ending_eq (h : inv.Opens env x text o x') :
    inv.ending env x = (o.perform inv.command).map fun outcome =>
      (Id.run ((inv.store env outcome).run x')).1 := by
  rw [ending, h.runOn_eq]
  cases o.perform inv.command <;> rfl

/-- **How far a run comes.** It cannot look up its place, it opens a file, or it fails and says
why. -/
theorem ending_cases (inv : Invocation) (env : Surroundings (StateM σ)) (x : σ) :
    (∃ settings text x' fault, inv.Reads env x settings text x' ∧
        Locus.parse text inv.place = .error fault) ∨
      (∃ text o x', inv.Opens env x text o x') ∨ ∃ e, inv.ending env x = .ok (.failure e) := by
  -- The stages after the reading are gone through in order, each with its failure first.
  rcases inv.reads_or_failure env x with ⟨settings, text, x', hreads⟩ | hfails
  · have hending : inv.ending env x = _ := congrArg Prod.fst hreads.runOn_eq
    rcases hplace : Locus.parse text inv.place with fault | e | locus
    · exact .inl ⟨settings, text, x', fault, hreads, hplace⟩
    · rw [hplace] at hending
      exact .inr (.inr ⟨_, hending⟩)
    · rcases hparse : Id.run ((env.parse inv.file text).run x') with ⟨_ | source, x''⟩
      · simp only [hplace, hparse] at hending
        exact .inr (.inr ⟨_, hending⟩)
      · exact .inr (.inl ⟨text, ⟨source, locus, settings⟩, x'', x', hreads, hplace, hparse⟩)
  · exact .inr (.inr hfails)

/-- To write the file can turn a success into a failure, and nothing else. -/
theorem status_store_le {outcome : Outcome} (h : outcome.status ≤ 2) (x : σ) :
    (Id.run ((inv.store env outcome).run x)).1.status ≤ 2 := by
  unfold store
  split
  · exact h
  · rename_i text _
    rw [StateT.run_bind, Id.run_bind]
    cases hwrite : (Id.run ((env.write inv.file text).run x)).1 with
    | ok _ => exact h
    | error problem => exact Nat.le_succ 1

/-- The tree of a file that is opened is that of its text, and its nodes end at addresses. -/
theorem Opens.parsed (henv : env.ParsesFaithfully) (h : inv.Opens env x text o x') :
    o.source.text = text ∧ o.source.trees.Every fun c _ => c.stop < addressLimit := by
  obtain ⟨x₂, -, -, hparse⟩ := h
  exact henv _ _ _ _ _ hparse

theorem Opens.offset_le (h : inv.Opens env x text o x') :
    o.locus.offset ≤ Text.byteLength text := by
  obtain ⟨x₂, -, hplace, -⟩ := h
  exact (Locus.inText_of_parse hplace).offset_le

/-- The runs of the command that wraps a reference that come to a fault, and to which. -/
inductive Stops (inv : Invocation) (env : Surroundings (StateM σ)) (x : σ) : Fault → Prop where
  /-- The place is written as a line and a column, and the file is too long for an index. -/
  | unread {settings : Settings} {text : String} {x' : σ}
    (hreads : inv.Reads env x settings text x') (hlong : lineLimit ≤ Text.byteLength text)
    (hasks : Locus.AsksForLine inv.place) : Stops inv env x .textTooLong
  /-- The wrapping is not on offer, and the file is too long for an index. -/
  | unindexed {text : String} {o : Opened} {x' : σ} (hopens : inv.Opens env x text o x')
    (hoffered : o.isOffered = false) (hlong : lineLimit ≤ Text.byteLength text) :
    Stops inv env x .textTooLong
  /-- The wrapping is not on offer, and the place is inside a character. -/
  | insideCharacter {text : String} {o : Opened} {x' : σ} (hopens : inv.Opens env x text o x')
    (hoffered : o.isOffered = false) (hshort : Text.byteLength text < lineLimit)
    (hinside : Text.InsideCharacter text o.locus.offset) : Stops inv env x .insideCharacter
  /-- The wrapping is not on offer, and the place cannot be counted from one. -/
  | countOverflow {text : String} {o : Opened} {x' : σ} (hopens : inv.Opens env x text o x')
    (hoffered : o.isOffered = false) (hover : Text.CountOverflows text o.locus.offset) :
    Stops inv env x .countOverflow

/-- A run stops on an open file if the wrapping is not on offer and the place cannot be written. -/
theorem Opens.stops (h : inv.Opens env x text o x') (hoffered : o.isOffered = false) {fault : Fault}
    (hwritten : LineCol.written text o.locus.offset = .error fault) : inv.Stops env x fault := by
  rcases (LineCol.written_eq_error_iff h.offset_le).1 hwritten with
    ⟨rfl, hlong⟩ | ⟨rfl, hshort, hinside⟩ | ⟨rfl, hover⟩
  · exact .unindexed h hoffered hlong
  · exact .insideCharacter h hoffered hshort hinside
  · exact .countOverflow h hoffered hover

/-- How the command that wraps a reference ends on an open file, if its place cannot be written. -/
theorem Opens.ending_of_written (h : inv.Opens env x text o x') (henv : env.ParsesFaithfully)
    {mode : OutputMode} (hcommand : inv.command = .apply mode) (hoffered : o.isOffered = false)
    {fault : Fault} (hwritten : LineCol.written text o.locus.offset = .error fault) :
    inv.ending env x = .error fault := by
  obtain ⟨htext, haddresses⟩ := h.parsed henv
  have happly : o.apply mode = .error fault :=
    (Opened.apply_eq_error_iff haddresses mode).2 ⟨hoffered, by rwa [htext]⟩
  rw [h.ending_eq, hcommand, Opened.perform, happly]
  rfl

theorem Stops.ending_eq (henv : env.ParsesFaithfully) {mode : OutputMode}
    (hcommand : inv.command = .apply mode) {fault : Fault} (h : inv.Stops env x fault) :
    inv.ending env x = .error fault := by
  cases h with
  | unread hreads hlong hasks =>
    exact hreads.ending_of_fault (Locus.parse_eq_error_iff.2 ⟨rfl, hlong, hasks⟩)
  | unindexed hopens hoffered hlong =>
    exact hopens.ending_of_written henv hcommand hoffered
      ((LineCol.written_eq_error_iff hopens.offset_le).2 (.inl ⟨rfl, hlong⟩))
  | insideCharacter hopens hoffered hshort hinside =>
    exact hopens.ending_of_written henv hcommand hoffered
      ((LineCol.written_eq_error_iff hopens.offset_le).2 (.inr (.inl ⟨rfl, hshort, hinside⟩)))
  | countOverflow hopens hoffered hover =>
    exact hopens.ending_of_written henv hcommand hoffered
      ((LineCol.written_eq_error_iff hopens.offset_le).2 (.inr (.inr ⟨rfl, hover⟩)))

/-- A run comes to a fault for one of the reasons above, or it has a status. -/
theorem stops_or_status (henv : env.ParsesFaithfully) {mode : OutputMode}
    (hcommand : inv.command = .apply mode) (x : σ) :
    (∃ fault, inv.Stops env x fault) ∨
      ∃ outcome, inv.ending env x = .ok outcome ∧ outcome.status ≤ 2 := by
  rcases inv.ending_cases env x with
    ⟨settings, text, x', fault, hreads, hplace⟩ | ⟨text, o, x', hopens⟩ | ⟨e, hending⟩
  · obtain ⟨rfl, hlong, hasks⟩ := Locus.parse_eq_error_iff.1 hplace
    exact .inl ⟨_, .unread hreads hlong hasks⟩
  · obtain ⟨htext, haddresses⟩ := hopens.parsed henv
    cases happly : o.apply mode with
    | error fault =>
      obtain ⟨hoffered, hwritten⟩ := (Opened.apply_eq_error_iff haddresses mode).1 happly
      exact .inl ⟨fault, hopens.stops hoffered (by rwa [htext] at hwritten)⟩
    | ok outcome =>
      refine .inr ?_
      rw [hopens.ending_eq, hcommand, Opened.perform, happly]
      exact ⟨_, rfl, status_store_le (Opened.status_le_of_apply haddresses happly) x'⟩
  · exact .inr ⟨_, hending, Nat.le_succ 1⟩

/-- **The runs that end without a status.** A run of the command that wraps a reference faults
exactly if it has to look up a line and a column in a file that is too long for an index, or if the
wrapping is not on offer at an accepted place and this place cannot be reported: there is no index,
the place is inside a character, or its line or column cannot be counted from one. Every other run
ends with status 0, 1 or 2. -/
theorem faults_iff_stops (env : Surroundings (StateM σ)) (henv : env.ParsesFaithfully)
    (inv : Invocation) (mode : OutputMode) (hcommand : inv.command = .apply mode) (x : σ) :
    (∀ fault, inv.ending env x = .error fault ↔ inv.Stops env x fault) ∧
      ((∀ fault, ¬inv.Stops env x fault) → ∃ outcome, inv.ending env x = .ok outcome ∧
        (outcome.status = 0 ∨ outcome.status = 1 ∨ outcome.status = 2)) := by
  rcases stops_or_status henv hcommand x with ⟨reason, hstops⟩ | ⟨outcome, hending, hstatus⟩
  · have hending := hstops.ending_eq henv hcommand
    refine ⟨fun fault => ⟨fun hfault => ?_, fun h => h.ending_eq henv hcommand⟩,
      fun hnone => absurd hstops (hnone reason)⟩
    cases hending.symm.trans hfault
    exact hstops
  · refine ⟨fun fault => ⟨fun hfault => ?_, fun h => h.ending_eq henv hcommand⟩,
      fun _ => ⟨outcome, hending, by omega⟩⟩
    cases hending.symm.trans hfault

/-! ### A declaration of `é` -/

/-- A file in which one character takes two bytes, those at 6 and 7. -/
def declarationOfAccent : Concrete.Source :=
  .ofTable "main.ts" "const é = 1;\n" [
    (0, ⟨"program", none, 0, 14, true, false⟩),
    (1, ⟨"lexical_declaration", none, 0, 13, true, false⟩),
    (2, ⟨"const", some "kind", 0, 5, false, false⟩),
    (2, ⟨"variable_declarator", none, 6, 12, true, false⟩),
    (3, ⟨"identifier", some "name", 6, 8, true, false⟩),
    (3, ⟨"=", none, 9, 10, false, false⟩),
    (3, ⟨"number", some "value", 11, 12, true, false⟩),
    (2, ⟨";", none, 12, 13, false, false⟩)]

/-- Files in memory, with a parser that knows the declaration. -/
def besideAccent : Surroundings (StateM Storage) :=
  .inMemory
    (fun _ text => if text = declarationOfAccent.text then some declarationOfAccent else none) none

/-- The declaration is the only file. -/
def storageOfAccent : Storage := .ofList [("main.ts", .file declarationOfAccent.text.toUTF8)]

/-- The command on the declaration, at a place. -/
def applyToAccent (place : String) : Invocation := ⟨.apply .print, "main.ts", place, none⟩

theorem parsesFaithfully_besideAccent : besideAccent.ParsesFaithfully := by
  intro name text x source x' h
  have haddresses : declarationOfAccent.trees.Every fun c _ => c.stop < addressLimit := by
    decide +kernel
  have hparsed : (if text = declarationOfAccent.text then some declarationOfAccent else none) =
      some source := congrArg Prod.fst h
  split at hparsed
  · rename_i htext
    cases hparsed
    exact ⟨htext.symm, haddresses⟩
  · cases hparsed

theorem read_besideAccent :
    Id.run ((besideAccent.read "main.ts").run storageOfAccent) =
      (.ok declarationOfAccent.text, storageOfAccent) := by
  rfl

/-- A place with the offset 7 is inside the character, and nothing can be wrapped there. -/
theorem stops_applyToAccent {place : String} (locus : Locus)
    (hplace : Locus.parse declarationOfAccent.text place = .ok (.ok locus))
    (hoffset : locus.offset = 7) :
    (applyToAccent place).Stops besideAccent storageOfAccent .insideCharacter := by
  have happlicable : Wrap.isApplicable .structural (.ofSource declarationOfAccent)
      (Settings.ofFile {}).strictArgumentPosition 7 = false := by
    decide +kernel
  have hopens : (applyToAccent place).Opens besideAccent storageOfAccent declarationOfAccent.text
      ⟨declarationOfAccent, locus, .ofFile {}⟩ storageOfAccent :=
    ⟨storageOfAccent, ⟨storageOfAccent, rfl, read_besideAccent⟩, hplace, rfl⟩
  refine .insideCharacter hopens ?_ (by decide +kernel) ?_
  · refine Bool.of_not_eq_true fun hoffered => ?_
    have htrue := (Opened.isOffered_iff.1 hoffered).2
    simp only [hoffset] at htrue
    rw [happlicable] at htrue
    cases htrue
  · rw [hoffset]
    exact ⟨"const ", 'é', " = 1;\n", by decide +kernel, by decide +kernel, by decide +kernel⟩

/-- Each of the three forms in which the place can be written leads into the character. -/
theorem faults_inside_accent :
    besideAccent.ParsesFaithfully ∧ ∀ place ∈ ["7", "7..8", "1:8"],
      (applyToAccent place).ending besideAccent storageOfAccent = .error .insideCharacter := by
  refine ⟨parsesFaithfully_besideAccent, fun place hplace => ?_⟩
  refine ((faults_iff_stops besideAccent parsesFaithfully_besideAccent (applyToAccent place)
    .print rfl storageOfAccent).1 _).2 ?_
  simp only [List.mem_cons, List.not_mem_nil, or_false] at hplace
  rcases hplace with rfl | rfl | rfl
  · exact stops_applyToAccent (.point 7) rfl rfl
  · exact stops_applyToAccent (.range 7 8) rfl rfl
  · exact stops_applyToAccent (.point 7) rfl rfl

end Invocation

end ClosureWrap
