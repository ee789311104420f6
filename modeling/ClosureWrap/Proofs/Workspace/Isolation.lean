import ClosureWrap.Proofs.Refactor.Contract
import ClosureWrap.Proofs.Service.Decorate
import ClosureWrap.Proofs.Text.Order
import ClosureWrap.Proofs.Workspace.References
import ClosureWrap.Proofs.Workspace.Session

/-!
# Files of a session by themselves

A session lasts, and many files come and go in it. An answer about one file must not show what has
become of the others, nor what the file has been before. There is a simple way to say what this
comes to. After any changes, ask about a file, and then start afresh with nothing but the last
version of that file and the settings that hold now: the answer has to be the same.

That version is described in terms of the changes, without any state. It has arrived at some point,
and nothing since has displaced it; a file is displaced by another version of it, by its removal,
and whenever the session is opened on a single file. The session itself keeps trees by name, so the
bridge is that it holds the tree of the last version under the name of the file, and that an answer
about a file looks at that tree and at the settings only.

## Main definitions

* `Session.Step.Displaces`, `Session.LastVersion` — what takes a file away, and the version that is
  left
* `Session.InForce` — the settings that hold after some changes
* `Session.AnswersAlike` — two sessions that say the same about a file
* `Session.StaysIn` — a session whose answers about a file lead into that file only
* `Session.alone` — a new session with one file at most

## Main results

* `Session.opened_eq_some_iff` — the file that a session holds under a name is its last version
* `Session.answersAlike_of_get?` — answers about a file depend on its tree and the settings only
* `Session.staysIn_of_get?` — answers lead into the file that the tree names
* `Files.pairwise_bytes_names` — names come in the order of their bytes
* `Session.mem_names_run` — the names of a session are those with a last version
* `Session.files_do_not_interfere` — all this for every run
-/

namespace ClosureWrap

namespace Session

/-! ### The last version of a file -/

/-- After the change, what stood under `name` is no longer there. -/
def Step.Displaces (name : String) : Step → Prop
  | .add source => source.name = name
  | .openOnly _ => True
  | .remove other => other = name
  | .configure _ => False

/-- The change brings a version of a file. -/
def Step.Brings (source : Concrete.Source) (change : Step) : Prop :=
  change = .add source ∨ change = .openOnly source

/-- The source file has arrived, and nothing since then has displaced it. -/
def LastVersion (steps : List Step) (source : Concrete.Source) : Prop :=
  ∃ earlier change later, steps = earlier ++ change :: later ∧ change.Brings source ∧
    ∀ next ∈ later, ¬ next.Displaces source.name

theorem lastVersion_cons {change : Step} {steps : List Step} {source : Concrete.Source} :
    LastVersion (change :: steps) source ↔
      (change.Brings source ∧ ∀ next ∈ steps, ¬ next.Displaces source.name) ∨
        LastVersion steps source := by
  constructor
  · rintro ⟨earlier, brought, later, heq, hbrings, hkept⟩
    cases earlier with
    | nil =>
      obtain ⟨rfl, rfl⟩ := List.cons.inj heq
      exact .inl ⟨hbrings, hkept⟩
    | cons first earlier =>
      exact .inr ⟨earlier, brought, later, (List.cons.inj heq).2, hbrings, hkept⟩
  · rintro (⟨hbrings, hkept⟩ | ⟨earlier, brought, later, rfl, hbrings, hkept⟩)
    · exact ⟨[], change, steps, rfl, hbrings, hkept⟩
    · exact ⟨change :: earlier, brought, later, rfl, hbrings, hkept⟩

theorem Step.brings_add {source other : Concrete.Source} :
    (Step.add other).Brings source ↔ other = source := by
  simp [Step.Brings]

theorem Step.brings_openOnly {source other : Concrete.Source} :
    (Step.openOnly other).Brings source ↔ other = source := by
  simp [Step.Brings]

/-- A version that arrives is there afterwards under its own name, and under any other name is what
is left there. -/
theorem arrival_eq_some_iff {name : String} {source other : Concrete.Source}
    {left : Option Concrete.Source} :
    (if other.name = name then some other else left) = some source ↔
      (other = source ∧ source.name = name) ∨ (left = some source ∧ other.name ≠ name) := by
  by_cases hname : other.name = name
  · rw [if_pos hname, Option.some.injEq]
    constructor
    · rintro rfl
      exact .inl ⟨rfl, hname⟩
    · rintro (⟨rfl, -⟩ | ⟨-, hother⟩)
      · rfl
      · exact absurd hname hother
  · rw [if_neg hname]
    constructor
    · intro h
      exact .inr ⟨h, hname⟩
    · rintro (⟨rfl, hsource⟩ | ⟨h, -⟩)
      · exact absurd hsource hname
      · exact h

/-- One change: it brings what is there afterwards, or leaves what was there. -/
theorem Step.opened_eq_some_iff {name : String} {before : Option Concrete.Source} {change : Step}
    {source : Concrete.Source} :
    change.opened name before = some source ↔
      (change.Brings source ∧ source.name = name) ∨
        (before = some source ∧ ¬ change.Displaces name) := by
  cases change with
  | add other =>
    rw [opened, brings_add, arrival_eq_some_iff]
    rfl
  | openOnly other =>
    rw [opened, brings_openOnly, arrival_eq_some_iff]
    simp [Displaces]
  | remove other =>
    rw [opened, Displaces]
    by_cases hname : other = name
    · simp [Brings, hname]
    · simp [Brings, hname]
  | configure settings => simp [opened, Brings, Displaces]

/-- What is there after a run has arrived in it, or was there before and has not been displaced. -/
theorem foldl_opened_eq_some_iff {name : String} {before : Option Concrete.Source}
    {steps : List Step} {source : Concrete.Source} :
    steps.foldl (Step.opened name) before = some source ↔
      (source.name = name ∧ LastVersion steps source) ∨
        (before = some source ∧ ∀ change ∈ steps, ¬ change.Displaces name) := by
  induction steps generalizing before with
  | nil =>
    have hnone : ¬ LastVersion [] source := by
      rintro ⟨earlier, change, later, heq, -⟩
      simp at heq
    simp [hnone]
  | cons change steps ih =>
    rw [List.foldl_cons, ih, Step.opened_eq_some_iff, lastVersion_cons, List.forall_mem_cons]
    constructor
    · rintro (⟨hname, hlast⟩ | ⟨⟨hbrings, rfl⟩ | ⟨hbefore, hkept⟩, hlater⟩)
      · exact .inl ⟨hname, .inr hlast⟩
      · exact .inl ⟨rfl, .inl ⟨hbrings, hlater⟩⟩
      · exact .inr ⟨hbefore, hkept, hlater⟩
    · rintro (⟨rfl, ⟨hbrings, hlater⟩ | hlast⟩ | ⟨hbefore, hkept, hlater⟩)
      · exact .inr ⟨.inl ⟨hbrings, rfl⟩, hlater⟩
      · exact .inl ⟨rfl, hlast⟩
      · exact .inr ⟨.inr ⟨hbefore, hkept⟩, hlater⟩

/-- **The file under a name is its last version.** -/
theorem opened_eq_some_iff {name : String} {steps : List Step} {source : Concrete.Source} :
    opened name steps = some source ↔ source.name = name ∧ LastVersion steps source := by
  rw [opened, foldl_opened_eq_some_iff]
  simp

/-! ### The settings in force -/

/-- The settings are the last ones that were put in force, or the first ones if no others were. -/
def InForce (settings : Settings) (steps : List Step) (current : Settings) : Prop :=
  (∃ earlier later, steps = earlier ++ .configure current :: later ∧
    ∀ other, .configure other ∉ later) ∨
  (current = settings ∧ ∀ other, .configure other ∉ steps)

/-- What is in force after the later changes is in force after all of them. -/
theorem inForce_cons {s : Session} {change : Step} {steps : List Step} {current : Settings}
    (h : InForce (s.step change).settings steps current) :
    InForce s.settings (change :: steps) current := by
  rcases h with ⟨earlier, later, rfl, hlater⟩ | ⟨rfl, hnone⟩
  · exact .inl ⟨change :: earlier, later, rfl, hlater⟩
  · -- Only the first change can have put settings in force.
    cases change with
    | configure current => exact .inl ⟨[], steps, rfl, hnone⟩
    | add source => exact .inr ⟨rfl, fun other h => by simp [hnone] at h⟩
    | openOnly source => exact .inr ⟨rfl, fun other h => by simp [hnone] at h⟩
    | remove name => exact .inr ⟨rfl, fun other h => by simp [hnone] at h⟩

theorem inForce_run (s : Session) (steps : List Step) :
    InForce s.settings steps (s.run steps).settings := by
  induction steps generalizing s with
  | nil => exact .inr ⟨rfl, fun other => List.not_mem_nil⟩
  | cons change steps ih => exact inForce_cons (ih (s.step change))

/-! ### What an answer depends on -/

/-- The two sessions give the same answers about a file, over every monad. -/
structure AnswersAlike (name : String) (s s' : Session) : Prop where
  refactors : ∀ {m : Type → Type} [Monad m] [LawfulMonad m] (locus : Locus),
    (s.service (m := m)).refactors name locus = s'.service.refactors name locus
  edits : ∀ {m : Type → Type} [Monad m] [LawfulMonad m] (request : EditRequest),
    request.fileName = name → (s.service (m := m)).edits request = s'.service.edits request
  quickInfo : ∀ {m : Type → Type} [Monad m] (offset : Nat),
    (s.service (m := m)).quickInfo name offset = s'.service.quickInfo name offset
  definition : ∀ {m : Type → Type} [Monad m] (offset : Nat),
    (s.service (m := m)).definition name offset = s'.service.definition name offset
  references : ∀ {m : Type → Type} [Monad m] (offset : Nat),
    (s.service (m := m)).references name offset = s'.service.references name offset

/-- **Answers about a file depend on its tree and the settings only.** -/
theorem answersAlike_of_get? {name : String} {s s' : Session} (hsettings : s.settings = s'.settings)
    (hfile : s.files.get? name = s'.files.get? name) : AnswersAlike name s s' where
  refactors locus := by
    have hoffers : s'.settings.offers (some s.files.program) name locus =
        s'.settings.offers (some s'.files.program) name locus := by
      simp only [Settings.offers, Files.program, Option.any_some, hfile]
    simp only [service, LanguageService.decorate, Files.service, pure_bind, hsettings,
      Settings.extend, hoffers]
  edits request hname := by
    subst hname
    simp only [service, LanguageService.decorate, Files.service, pure_bind, Settings.ownEdit?,
      Files.program, Option.bind_some, hsettings, hfile]
  quickInfo offset := by simp only [service, LanguageService.decorate, Files.service, hfile]
  definition offset := by simp only [service, LanguageService.decorate, Files.service, hfile]
  references offset := by simp only [service, LanguageService.decorate, Files.service, hfile]

end Session

/-! ### Where answers lead -/

theorem Tree.fileName_of_mem_definitionsAt {t : Tree} {offset : Nat} {l : Location}
    (h : l ∈ t.definitionsAt offset) : l.fileName = t.fileName := by
  unfold definitionsAt at h
  split at h
  · cases h
  · obtain ⟨d, -, rfl⟩ := List.mem_map.1 h
    rfl

theorem Tree.fileName_of_mem_referencesAt {t : Tree} {offset : Nat} {l : Location}
    (h : l ∈ t.referencesAt offset) : l.fileName = t.fileName := by
  obtain ⟨target, name, -, hlist⟩ := exists_uses_of_mem_referencesAt h
  rw [hlist] at h
  obtain ⟨n, -, rfl⟩ := List.mem_map.1 h
  rfl

/-- An edit of the refactoring is in the file of the tree. -/
theorem Wrap.fileName_of_buildEdit {checker : Checker} {t : Tree} {strict : Bool}
    {mode : ArrowParens}
    {offset : Nat} {edit : Edit} (h : Wrap.buildEdit checker t strict mode offset = .ok edit) :
    edit.fileName = t.fileName := by
  obtain ⟨target, -, c, rfl⟩ := buildEdit_eq_ok_iff.1 h
  rfl

namespace Session

/-- Every place in an answer about a file, and every edit, is in that file. -/
structure StaysIn (name : String) (s : Session) : Prop where
  definition : ∀ offset, ∀ l ∈ Id.run (s.service.definition name offset), l.fileName = name
  references : ∀ offset, ∀ l ∈ Id.run (s.service.references name offset), l.fileName = name
  edits : ∀ request : EditRequest, request.fileName = name → ∀ info,
    Id.run (s.service.edits request) = .ok (some info) → ∀ e ∈ info.edits, e.fileName = name

/-- A session makes edits only for its own action, and only if it is enabled. -/
theorem own_of_edits {s : Session} {request : EditRequest} {info : EditInfo}
    (h : Id.run (s.service.edits request) = .ok (some info)) :
    s.settings.enabled = true ∧ request.actionName = Wrap.actionName := by
  refine Decidable.of_not_not fun hother => ?_
  have hanswer : s.service.edits request = s.files.service.edits request :=
    LanguageService.edits_decorate_of_host (m := Id) fun hown => hother ⟨hown.2, hown.1⟩
  rw [hanswer] at h
  cases h

/-- **Answers lead into the file that the tree names.** -/
theorem staysIn_of_get? {name : String} {s : Session}
    (h : ∀ t, s.files.get? name = some t → t.fileName = name) : StaysIn name s where
  definition offset l hl := by
    cases hfile : s.files.get? name with
    | none => simp [service, LanguageService.decorate, Files.service, hfile] at hl
    | some t =>
      have hanswer : Id.run (s.service.definition name offset) = t.definitionsAt offset :=
        Files.definition_eq hfile offset
      rw [hanswer] at hl
      rw [Tree.fileName_of_mem_definitionsAt hl, h t hfile]
  references offset l hl := by
    cases hfile : s.files.get? name with
    | none => simp [service, LanguageService.decorate, Files.service, hfile] at hl
    | some t =>
      have hanswer : Id.run (s.service.references name offset) = t.referencesAt offset :=
        Files.references_eq hfile offset
      rw [hanswer] at hl
      rw [Tree.fileName_of_mem_referencesAt hl, h t hfile]
  edits request hname info hinfo e he := by
    obtain ⟨henabled, haction⟩ := own_of_edits hinfo
    rw [edits_eq henabled haction, hname] at hinfo
    cases hfile : s.files.get? name with
    | none =>
      rw [hfile] at hinfo
      cases hinfo
    | some t =>
      simp only [hfile] at hinfo
      cases hedit : Wrap.buildEdit .structural t s.settings.strictArgumentPosition
          s.settings.arrowParens request.locus.offset with
      | error problem =>
        rw [hedit] at hinfo
        cases hinfo
      | ok edit =>
        rw [hedit] at hinfo
        cases hinfo
        rw [List.mem_singleton.1 he, Wrap.fileName_of_buildEdit hedit, h t hfile]

end Session

/-! ### Names -/

theorem Files.mem_names {files : Files} {name : String} :
    name ∈ files.names ↔ ∃ t, files.get? name = some t := by
  obtain ⟨entries, sorted⟩ := files
  show name ∈ entries.map Prod.fst ↔ ∃ t, entries.lookup name = some t
  clear sorted
  induction entries with
  | nil => simp
  | cons e rest ih =>
    obtain ⟨n, tree⟩ := e
    rw [List.map_cons, List.mem_cons, ih, Files.lookup_entry]
    by_cases hname : name = n
    · simp [hname]
    · simp [hname]

/-- Names come in the order of their bytes. -/
theorem Files.pairwise_bytes_names (files : Files) :
    files.names.Pairwise fun a b => Text.bytes a < Text.bytes b :=
  List.pairwise_map.2 (files.sorted.imp Text.bytes_lt_bytes)

theorem Files.nodup_names (files : Files) : files.names.Nodup :=
  files.pairwise_bytes_names.imp fun hlt heq => by
    rw [heq] at hlt
    exact List.lt_irrefl _ hlt

namespace Session

/-- The names of a session are those with a last version. -/
theorem mem_names_run {settings : Settings} {steps : List Step} {name : String} :
    name ∈ ((start settings).run steps).files.names ↔
      ∃ source, source.name = name ∧ LastVersion steps source := by
  rw [Files.mem_names, get?_run]
  constructor
  · rintro ⟨t, ht⟩
    obtain ⟨source, hopened, -⟩ := Option.map_eq_some_iff.1 ht
    exact ⟨source, opened_eq_some_iff.1 hopened⟩
  · rintro ⟨source, hlast⟩
    exact ⟨.ofSource source, by rw [opened_eq_some_iff.2 hlast, Option.map_some]⟩

/-! ### Every run -/

/-- A new session that holds one version of a file, or nothing. -/
def alone (settings : Settings) : Option Concrete.Source → Session
  | none => start settings
  | some source => (start settings).step (.add source)

theorem settings_alone (settings : Settings) (version : Option Concrete.Source) :
    (alone settings version).settings = settings := by
  cases version <;> rfl

theorem get?_alone {settings : Settings} {version : Option Concrete.Source} {name : String}
    (h : ∀ source, version = some source → source.name = name) :
    (alone settings version).files.get? name = version.map Tree.ofSource := by
  cases version with
  | none => rfl
  | some source => rw [alone, step, Files.get?_insert, if_pos (h source rfl).symm, Option.map_some]

/-- **Files do not interfere.** After any changes to a session that started with no files, and for
any name, the answers about the file of that name are those of a new session under the settings in
force that holds nothing but the last version of the file, and nothing at all if it has no last
version. They lead nowhere but into that file. The names of the session are those with a last
version, each once, in increasing order of their bytes. -/
theorem files_do_not_interfere (settings : Settings) (steps : List Step) (name : String) :
    let s := (start settings).run steps
    InForce settings steps s.settings ∧
      (∃ version,
        (∀ source, version = some source ↔ source.name = name ∧ LastVersion steps source) ∧
        AnswersAlike name s (alone s.settings version)) ∧
      StaysIn name s ∧
      (∀ other, other ∈ s.files.names ↔ ∃ source, source.name = other ∧ LastVersion steps source) ∧
      s.files.names.Nodup ∧
      s.files.names.Pairwise fun a b => Text.bytes a < Text.bytes b := by
  intro s
  have hfile : s.files.get? name = (opened name steps).map Tree.ofSource :=
    get?_run settings steps name
  have hname : ∀ source, opened name steps = some source → source.name = name :=
    fun source h => name_of_opened h
  refine ⟨inForce_run (start settings) steps,
    ⟨opened name steps, fun source => opened_eq_some_iff, ?_⟩, staysIn_of_get? ?_,
    fun other => mem_names_run, s.files.nodup_names, s.files.pairwise_bytes_names⟩
  · exact answersAlike_of_get? (settings_alone _ _).symm (hfile.trans (get?_alone hname).symm)
  · intro t ht
    obtain ⟨source, hopened, rfl⟩ := Option.map_eq_some_iff.1 (hfile.symm.trans ht)
    rw [Tree.fileName_ofSource, hname source hopened]

end Session

end ClosureWrap
