import ClosureWrap.Storage

/-!
# Writing a file

To write a file that can be read changes what is read at the place of the file, and nothing else.
All paths lead to where they led before, since what stands at a place stays a file or stays a
directory, and every other place keeps what it holds.

## Main definitions

* `Storage.replace` — the files with a new text at one place

## Main results

* `Storage.lookup_replace`, `Storage.follow_replace` — what stands where after a file is replaced,
  and where paths lead to
* `Storage.write_of_read` — a file that can be read can be written, and what is read afterwards
-/

namespace ClosureWrap

namespace Storage

variable {s : Storage} {names : List String} {content : ByteArray} {new : String}

/-- The files after the one at a place has got a new text. -/
def replace (s : Storage) (names : List String) (new : String) : Storage :=
  ⟨s.entries.map fun (n, e) => if n = names then (n, .file new.toUTF8) else (n, e)⟩

/-! ### What stands at a place -/

/-- A file is always listed; only directories are implied by what lies below them. -/
theorem entries_lookup_of_file (h : s.lookup names = some (.file content)) :
    s.entries.lookup names = some (.file content) := by
  unfold lookup at h
  split at h
  next e hlisted => rw [hlisted, h]
  next =>
    split at h
    · cases h
    · cases h

theorem entries_lookup_replace (s : Storage) (place : List String) :
    (s.replace names new).entries.lookup place =
      (s.entries.lookup place).map fun e => if place = names then .file new.toUTF8 else e := by
  simp only [replace]
  induction s.entries with
  | nil => rfl
  | cons entry entries ih =>
    obtain ⟨n, e⟩ := entry
    have hkey : (if n = names then (n, Entry.file new.toUTF8) else (n, e)) =
        (n, if n = names then .file new.toUTF8 else e) := by
      split <;> rfl
    rw [List.map_cons, hkey, List.lookup_cons, List.lookup_cons]
    cases hplace : place == n with
    | true => rw [beq_iff_eq.1 hplace, Option.map_some]
    | false => exact ih

/-- No place comes into being or goes away. -/
theorem any_replace (s : Storage) (p : List String → Bool) :
    ((s.replace names new).entries.any fun e => p e.1) = s.entries.any fun e => p e.1 := by
  rw [replace, List.any_map]
  refine congrArg (List.any s.entries) (funext fun entry => ?_)
  simp only [Function.comp_apply]
  split <;> rfl

/-- After a file is replaced, its place holds the new text, and every other place what it held. -/
theorem lookup_replace (h : s.lookup names = some (.file content)) (place : List String) :
    (s.replace names new).lookup place =
      if place = names then some (.file new.toUTF8) else s.lookup place := by
  rw [lookup, entries_lookup_replace, any_replace s fun n => place.isPrefixOf n]
  by_cases hplace : place = names
  · rw [if_pos hplace, hplace, entries_lookup_of_file h, Option.map_some, if_pos rfl]
  · simp only [if_neg hplace, Option.map_id', lookup]

theorem isDirectory_replace (h : s.lookup names = some (.file content)) (place : List String) :
    (s.replace names new).isDirectory place = s.isDirectory place := by
  rw [isDirectory, isDirectory, lookup_replace h]
  by_cases hplace : place = names
  · rw [if_pos hplace, hplace, h]
  · rw [if_neg hplace]

theorem isNone_lookup_replace (h : s.lookup names = some (.file content)) (place : List String) :
    ((s.replace names new).lookup place).isNone = (s.lookup place).isNone := by
  rw [lookup_replace h]
  by_cases hplace : place = names
  · rw [if_pos hplace, hplace, h]
    rfl
  · rw [if_neg hplace]

/-! ### Where paths lead to -/

theorem followFrom_replace (h : s.lookup names = some (.file content)) (here steps : List String) :
    (s.replace names new).followFrom here steps = s.followFrom here steps := by
  induction steps generalizing here with
  | nil => rfl
  | cons step rest ih =>
    simp only [followFrom, isDirectory_replace h, isNone_lookup_replace h, ih]

/-- All paths lead to where they led before. -/
theorem follow_replace (h : s.lookup names = some (.file content)) (path : String) :
    (s.replace names new).follow path = s.follow path := by
  simp only [follow, followFrom_replace h]

/-! ### Reading and writing -/

theorem fromUTF8?_toUTF8 (text : String) : String.fromUTF8? text.toUTF8 = some text := by
  have hvalid : text.toUTF8.IsValidUTF8 := text.isValidUTF8
  rw [String.fromUTF8?, dif_pos hvalid]
  rfl

/-- What is read at a path depends on where it leads to and on what stands there. -/
theorem read_of_follow {path : String} (h : s.follow path = .ok names) :
    s.read path =
      match s.lookup names with
      | some (.file content) =>
        match String.fromUTF8? content with
        | some text => .ok text
        | none => .error .invalidText
      | some .directory => .error .isDirectory
      | none => .error .notFound := by
  rw [read, h]
  rfl

theorem read_of_follow_error {path : String} {problem : ReadProblem}
    (h : s.follow path = .error problem) : s.read path = .error problem := by
  rw [read, h]
  rfl

/-- What can be read is the text of a file. -/
theorem exists_file_of_read {path text : String} (h : s.read path = .ok text) :
    ∃ names content, s.follow path = .ok names ∧ s.lookup names = some (.file content) := by
  cases hfollow : s.follow path with
  | error problem =>
    rw [read_of_follow_error hfollow] at h
    cases h
  | ok names =>
    rw [read_of_follow hfollow] at h
    cases hlookup : s.lookup names with
    | none =>
      rw [hlookup] at h
      cases h
    | some entry =>
      cases entry with
      | file content => exact ⟨names, content, rfl, hlookup⟩
      | directory =>
        rw [hlookup] at h
        cases h

theorem read_replace_of_follow (h : s.lookup names = some (.file content)) {path : String}
    (hpath : s.follow path = .ok names) : (s.replace names new).read path = .ok new := by
  rw [read_of_follow ((follow_replace h path).trans hpath), lookup_replace h, if_pos rfl]
  simp only [fromUTF8?_toUTF8]

theorem read_replace_of_ne (h : s.lookup names = some (.file content)) {path : String}
    (hpath : s.follow path ≠ .ok names) : (s.replace names new).read path = s.read path := by
  have hsame : (s.replace names new).follow path = s.follow path := follow_replace h path
  cases hfollow : s.follow path with
  | error problem =>
    rw [hfollow] at hsame
    rw [read_of_follow_error hsame, read_of_follow_error hfollow]
  | ok place =>
    rw [hfollow] at hsame
    have hplace : place ≠ names := fun heq => hpath (heq ▸ hfollow)
    rw [read_of_follow hsame, read_of_follow hfollow, lookup_replace h, if_neg hplace]

/-- **A file that can be read can be written.** Afterwards the new text is read at every path that
leads to the file, and at any other path what was read before. -/
theorem write_of_read {path text : String} (h : s.read path = .ok text) (new : String) :
    ∃ s', s.write path new = .ok s' ∧
      (∀ other, s.follow other = s.follow path → s'.read other = .ok new) ∧
      ∀ other, s.follow other ≠ s.follow path → s'.read other = s.read other := by
  obtain ⟨names, content, hfollow, hfile⟩ := exists_file_of_read h
  have hnot : s.isDirectory names = false := by rw [isDirectory, hfile]
  refine ⟨s.replace names new, ?_, ?_, ?_⟩
  · rw [write, hfollow]
    show (if s.isDirectory names = true then _ else _) = _
    rw [hnot]
    rfl
  · intro other hother
    exact read_replace_of_follow hfile (hother.trans hfollow)
  · intro other hother
    rw [hfollow] at hother
    exact read_replace_of_ne hfile hother

end Storage

end ClosureWrap
