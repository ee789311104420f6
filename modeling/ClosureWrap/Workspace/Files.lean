import ClosureWrap.Tree.Basic

/-!
# The files of a workspace

The trees of the files by name, one for each name. Names are kept in strictly increasing order of
their code points, which is the order of their bytes in UTF-8, so no answer depends on the order in
which files were added.

## Main definitions

* `Files` — trees by name, sorted
* `Files.get?`, `Files.insert`, `Files.erase`, `Files.names`

## Main results

* `Files.get?_insert`, `Files.get?_erase` — what is found after a change
-/

namespace ClosureWrap

/-- Trees by file name. -/
structure Files where
  /-- Names and trees. -/
  entries : List (String × Tree)
  /-- The names increase. -/
  sorted : entries.Pairwise fun a b => a.1 < b.1

namespace Files

/-- No files. -/
def empty : Files := ⟨[], .nil⟩

/-- The names in increasing order. -/
def names (files : Files) : List String := files.entries.map Prod.fst

/-- The tree of a file. -/
def get? (files : Files) (name : String) : Option Tree := files.entries.lookup name

/-- Whether there is a file `name`. -/
def contains (files : Files) (name : String) : Bool := (files.get? name).isSome

/-! ### Changes -/

/-- Puts a tree at its place in a sorted list, in place of another one with the same name. -/
def insertEntry (name : String) (tree : Tree) : List (String × Tree) → List (String × Tree)
  | [] => [(name, tree)]
  | (n, t) :: rest =>
    if name = n then (name, tree) :: rest
    else if name < n then (name, tree) :: (n, t) :: rest
    else (n, t) :: insertEntry name tree rest

theorem mem_insertEntry {name : String} {tree : Tree} {entries : List (String × Tree)}
    {e : String × Tree} (h : e ∈ insertEntry name tree entries) :
    e = (name, tree) ∨ e ∈ entries := by
  induction entries with
  | nil => exact .inl (by simpa [insertEntry] using h)
  | cons f rest ih =>
    simp only [insertEntry] at h
    split at h
    · rcases List.mem_cons.1 h with rfl | h
      · exact .inl rfl
      · exact .inr (List.mem_cons_of_mem _ h)
    · split at h
      · rcases List.mem_cons.1 h with rfl | h
        · exact .inl rfl
        · exact .inr h
      · rcases List.mem_cons.1 h with rfl | h
        · exact .inr List.mem_cons_self
        · exact (ih h).imp_right (List.mem_cons_of_mem _)

theorem sorted_insertEntry {name : String} {tree : Tree} {entries : List (String × Tree)}
    (h : entries.Pairwise fun a b => a.1 < b.1) :
    (insertEntry name tree entries).Pairwise fun a b => a.1 < b.1 := by
  induction entries with
  | nil => exact List.pairwise_singleton _ _
  | cons f rest ih =>
    obtain ⟨first, later⟩ := List.pairwise_cons.1 h
    simp only [insertEntry]
    split
    · rename_i heq
      exact List.pairwise_cons.2 ⟨fun e he => heq ▸ first e he, later⟩
    · split
      · rename_i hlt
        refine List.pairwise_cons.2 ⟨fun e he => ?_, h⟩
        rcases List.mem_cons.1 he with rfl | he
        · exact hlt
        · exact String.lt_trans hlt (first e he)
      · rename_i hne hle
        refine List.pairwise_cons.2 ⟨fun e he => ?_, ih later⟩
        rcases mem_insertEntry he with rfl | he
        · exact Std.lt_of_le_of_ne (String.not_lt.1 hle) (Ne.symm hne)
        · exact first e he

/-- The files with the file `name` added or replaced. -/
def insert (files : Files) (name : String) (tree : Tree) : Files :=
  ⟨insertEntry name tree files.entries, sorted_insertEntry files.sorted⟩

/-- The files without the file `name`. -/
def erase (files : Files) (name : String) : Files :=
  ⟨files.entries.filter fun e => e.1 != name, files.sorted.filter _⟩

/-! ### What is found after a change -/

theorem lookup_entry (other n : String) (t : Tree) (rest : List (String × Tree)) :
    ((n, t) :: rest).lookup other = if other = n then some t else rest.lookup other := by
  by_cases h : other = n
  · simp [h]
  · rw [List.lookup_cons, beq_false_of_ne h, if_neg h]

theorem get?_insert (files : Files) (name : String) (tree : Tree) (other : String) :
    (files.insert name tree).get? other = if other = name then some tree else files.get? other := by
  obtain ⟨entries, sorted⟩ := files
  show (insertEntry name tree entries).lookup other =
    if other = name then some tree else entries.lookup other
  clear sorted
  induction entries with
  | nil => rw [insertEntry, lookup_entry]
  | cons e rest ih =>
    obtain ⟨n, t⟩ := e
    by_cases hn : name = n
    · subst hn
      simp only [insertEntry, if_true, lookup_entry]
      split <;> rfl
    · by_cases hl : name < n
      · simp only [insertEntry, hn, hl, if_false, if_true, lookup_entry]
      · simp only [insertEntry, hn, hl, if_false, lookup_entry, ih]
        by_cases ho : other = n
        · rw [if_pos ho, if_pos ho, if_neg (fun h => hn (h.symm.trans ho))]
        · rw [if_neg ho, if_neg ho]

theorem get?_erase (files : Files) (name other : String) :
    (files.erase name).get? other = if other = name then none else files.get? other := by
  obtain ⟨entries, sorted⟩ := files
  show (entries.filter fun e => e.1 != name).lookup other =
    if other = name then none else entries.lookup other
  clear sorted
  induction entries with
  | nil => simp
  | cons e rest ih =>
    obtain ⟨n, t⟩ := e
    by_cases hn : n = name
    · rw [List.filter_cons_of_neg (by simp [hn]), ih, lookup_entry]
      split
      · rfl
      · rename_i ho
        rw [if_neg (fun h => ho (h.trans hn))]
    · rw [List.filter_cons_of_pos (by simpa using hn), lookup_entry, lookup_entry, ih]
      by_cases ho : other = n
      · rw [if_pos ho, if_pos ho, if_neg (fun h => hn (ho.symm.trans h))]
      · rw [if_neg ho, if_neg ho]

end Files

end ClosureWrap
