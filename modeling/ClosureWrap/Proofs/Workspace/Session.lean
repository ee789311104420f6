import ClosureWrap.Workspace.Session

/-!
# The files of a session

A session keeps trees, not source files: a file is lowered when it arrives. What a session holds
under a name is nevertheless settled by the changes alone. It is the lowering of the file that last
arrived under that name, unless that file has been taken away since.

## Main definitions

* `Session.Step.opened`, `Session.opened` — the source file under a name, after one change and after
  several

## Main results

* `Session.get?_run` — the trees of a session are the lowerings of its source files
* `Session.name_of_opened` — a source file stands under its own name
-/

namespace ClosureWrap

namespace Session

/-- The source file under `name` after a change, when `before` is the one that was there. -/
def Step.opened (name : String) (before : Option Concrete.Source) : Step → Option Concrete.Source
  | .add source => if source.name = name then some source else before
  | .openOnly source => if source.name = name then some source else none
  | .remove other => if other = name then none else before
  | .configure _ => before

/-- The source file under `name` in a session that started with no files. -/
def opened (name : String) (steps : List Step) : Option Concrete.Source :=
  steps.foldl (Step.opened name) none

theorem get?_step {s : Session} {name : String} {before : Option Concrete.Source}
    (h : s.files.get? name = before.map Tree.ofSource) (change : Step) :
    (s.step change).files.get? name = (change.opened name before).map Tree.ofSource := by
  cases change with
  | add source =>
    rw [step, Files.get?_insert, h, Step.opened]
    by_cases hname : source.name = name
    · rw [if_pos hname.symm, if_pos hname, Option.map_some]
    · rw [if_neg (Ne.symm hname), if_neg hname]
  | openOnly source =>
    rw [step, Files.get?_insert, Step.opened]
    by_cases hname : source.name = name
    · rw [if_pos hname.symm, if_pos hname, Option.map_some]
    · rw [if_neg (Ne.symm hname), if_neg hname]
      rfl
  | remove other =>
    rw [step, Files.get?_erase, h, Step.opened]
    by_cases hname : other = name
    · rw [if_pos hname.symm, if_pos hname, Option.map_none]
    · rw [if_neg (Ne.symm hname), if_neg hname]
  | configure settings => exact h

/-- What holds of the files at the start of a run holds at its end. -/
theorem get?_run_of {s : Session} {name : String} {before : Option Concrete.Source}
    (h : s.files.get? name = before.map Tree.ofSource) (steps : List Step) :
    (s.run steps).files.get? name = (steps.foldl (Step.opened name) before).map Tree.ofSource := by
  induction steps generalizing s before with
  | nil => exact h
  | cons change steps ih => exact ih (get?_step h change)

/-- **The trees of a session are the lowerings of its source files.** -/
theorem get?_run (settings : Settings) (steps : List Step) (name : String) :
    ((start settings).run steps).files.get? name = (opened name steps).map Tree.ofSource :=
  get?_run_of rfl steps

theorem Step.name_of_opened {name : String} {before : Option Concrete.Source} {change : Step}
    {source : Concrete.Source} (hbefore : ∀ s, before = some s → s.name = name)
    (h : change.opened name before = some source) : source.name = name := by
  cases change with
  | add other =>
    simp only [opened] at h
    split at h
    · cases h
      assumption
    · exact hbefore source h
  | openOnly other =>
    simp only [opened] at h
    split at h
    · cases h
      assumption
    · cases h
  | remove other =>
    simp only [opened] at h
    split at h
    · cases h
    · exact hbefore source h
  | configure settings => exact hbefore source h

/-- A file that stands under its own name does so at every later time. -/
theorem name_of_opened_from {name : String} {before : Option Concrete.Source} {steps : List Step}
    {source : Concrete.Source} (hbefore : ∀ s, before = some s → s.name = name)
    (h : steps.foldl (Step.opened name) before = some source) : source.name = name := by
  induction steps generalizing before with
  | nil => exact hbefore source h
  | cons change steps ih => exact ih (fun s hs => Step.name_of_opened hbefore hs) h

/-- A source file stands under its own name. -/
theorem name_of_opened {name : String} {steps : List Step} {source : Concrete.Source}
    (h : opened name steps = some source) : source.name = name :=
  name_of_opened_from (fun s hs => (by cases hs)) h

end Session

end ClosureWrap
