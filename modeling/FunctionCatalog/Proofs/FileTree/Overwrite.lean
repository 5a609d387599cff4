import FunctionCatalog.FileTree.Access

/-!
# Writing a file again

A path that leads to a file, or to a name that nothing has yet, leads to the same location after
something has been written there: a walk meets the location in its last step only, because what
stands in the middle of a path is a directory or a link. So a file that is opened a second time is
found where it was put, and it is as if it had not been there before.

## Main results

* `FileTree.walk_eq_ok_iff` — the steps of a walk that arrives.
* `FileTree.resolve_put` — writing a file does not change where its path leads.
* `FileTree.resolve_put_iff` — nor where paths to other places lead.
* `FileTree.openEmpty_put` — opening a file again gives the tree in which it was opened first.
* `FileTree.read_openEmpty` — whatever path leads to a file just opened, it is read as empty.
* `FileTree.read_of_openEmpty` — other files are read as before.
-/

namespace FunctionCatalog

namespace FileTree

/-! ## Putting twice -/

private theorem putIn_putIn (location : Location) (first second : Entry)
    (table : List (Location × Entry)) :
    putIn location second (putIn location first table) = putIn location second table := by
  induction table with
  | nil => simp [putIn]
  | cons head rest ih =>
      obtain ⟨other, old⟩ := head
      by_cases hOther : other = location
      · simp [putIn, hOther]
      · simp [putIn, hOther, ih]

/-- Of two entries put at a location, the second one stays. -/
theorem put_put (tree : FileTree) (location : Location) (first second : Entry) :
    (tree.put location first).put location second = tree.put location second := by
  simp only [put, putIn_putIn]

/-! ## Walks that arrive -/

/-- A part of a path that stands for a name, and not for the directory it is looked up in or for its
parent. -/
structure IsName (purpose : Purpose) (part : String) (rest : List String) : Prop where
  not_here : ¬(part = "" ∨ part = ".")
  not_parent : part ≠ ".."
  not_refused : ¬(purpose = .writing ∧ rest ≠ [] ∧ rest.all (· = "") = true)
  fits : ¬maxNameSize < part.utf8ByteSize

instance (purpose : Purpose) (part : String) (rest : List String) :
    Decidable (IsName purpose part rest) :=
  decidable_of_iff (¬(part = "" ∨ part = ".") ∧ part ≠ ".." ∧
      ¬(purpose = .writing ∧ rest ≠ [] ∧ rest.all (· = "") = true) ∧
      ¬maxNameSize < part.utf8ByteSize)
    ⟨fun ⟨hHere, hParent, hRefused, hFits⟩ => ⟨hHere, hParent, hRefused, hFits⟩,
      fun ⟨hHere, hParent, hRefused, hFits⟩ => ⟨hHere, hParent, hRefused, hFits⟩⟩

/-- The steps by which a walk arrives at a place. -/
inductive Leads (tree : FileTree) (purpose : Purpose) :
    Nat → Location → List String → Place → Prop
  | arrive {links : Nat} {here : Location} : Leads tree purpose links here [] (.directory here)
  | stay {links : Nat} {here : Location} {part : String} {rest : List String} {place : Place}
    (hPart : part = "" ∨ part = ".") (hRest : Leads tree purpose links here rest place) :
    Leads tree purpose links here (part :: rest) place
  | up {links : Nat} {here : Location} {rest : List String} {place : Place}
    (hRest : Leads tree purpose links here.dropLast rest place) :
    Leads tree purpose links here (".." :: rest) place
  | vacant {links : Nat} {here : Location} {part : String} (hName : IsName purpose part [])
    (hEntry : tree.get? (here ++ [part]) = none) :
    Leads tree purpose links here [part] (.vacant (here ++ [part]))
  | file {links : Nat} {here : Location} {part : String} {source : Source}
    (hName : IsName purpose part []) (hEntry : tree.get? (here ++ [part]) = some (.file source)) :
    Leads tree purpose links here [part] (.file (here ++ [part]) source)
  | enter {links : Nat} {here : Location} {part : String} {rest : List String} {place : Place}
    (hName : IsName purpose part rest) (hEntry : tree.get? (here ++ [part]) = some .directory)
    (hRest : Leads tree purpose links (here ++ [part]) rest place) :
    Leads tree purpose links here (part :: rest) place
  | follow {links : Nat} {here : Location} {part : String} {rest : List String} {place : Place}
    {target : Path} (hName : IsName purpose part rest)
    (hEntry : tree.get? (here ++ [part]) = some (.link target))
    (hRest : Leads tree purpose links (origin target here) (target.parts ++ rest) place) :
    Leads tree purpose (links + 1) here (part :: rest) place

variable {tree : FileTree} {purpose : Purpose}

private theorem walk_name {links : Nat} {here : Location} {part : String} {rest : List String}
    (hName : IsName purpose part rest) :
    tree.walk purpose links here (part :: rest) =
      match tree.get? (here ++ [part]) with
      | none => if rest = [] then .ok (.vacant (here ++ [part])) else .error .notFound
      | some .directory => tree.walk purpose links (here ++ [part]) rest
      | some (.file source) =>
        if rest = [] then .ok (.file (here ++ [part]) source) else .error .notDirectory
      | some (.link target) =>
        match links with
        | 0 => .error .tooManyLinks
        | links + 1 => tree.walk purpose links (origin target here) (target.parts ++ rest) := by
  rw [walk, if_neg hName.not_here, if_neg hName.not_parent, if_neg hName.not_refused]
  exact if_neg hName.fits

private theorem Leads.walk_eq {links : Nat} {here : Location} {parts : List String} {place : Place}
    (h : Leads tree purpose links here parts place) :
    tree.walk purpose links here parts = .ok place := by
  induction h with
  | arrive => rw [walk]
  | stay hPart _ ih => rw [walk, if_pos hPart, ih]
  | up _ ih => rw [walk, if_neg (by decide), if_pos rfl, ih]
  | vacant hName hEntry => rw [walk_name hName, hEntry]; rfl
  | file hName hEntry => rw [walk_name hName, hEntry]; rfl
  | enter hName hEntry _ ih => rw [walk_name hName, hEntry]; exact ih
  | follow hName hEntry _ ih => rw [walk_name hName, hEntry]; exact ih

private theorem leads_of_walk {links : Nat} {here : Location} {parts : List String} {place : Place}
    (h : tree.walk purpose links here parts = .ok place) :
    Leads tree purpose links here parts place := by
  fun_induction walk tree purpose links here parts <;> try contradiction
  case case1 => cases h; exact .arrive
  case case2 hPart ih => exact .stay hPart (ih h)
  case case3 ih => exact .up (ih h)
  case case6 hHere hParent hFits hEntry hRefused =>
    cases h
    exact .vacant ⟨hHere, hParent, hRefused, hFits⟩ hEntry
  case case8 hHere hParent hRefused hFits hEntry ih =>
    exact .enter ⟨hHere, hParent, hRefused, hFits⟩ hEntry (ih h)
  case case9 hHere hParent hFits source hEntry hRefused =>
    cases h
    exact .file ⟨hHere, hParent, hRefused, hFits⟩ hEntry
  case case12 hHere hParent hRefused hFits target hEntry links ih =>
    exact .follow ⟨hHere, hParent, hRefused, hFits⟩ hEntry (ih h)

/-- A walk arrives at a place by the steps that lead there. -/
theorem walk_eq_ok_iff {links : Nat} {here : Location} {parts : List String} {place : Place} :
    tree.walk purpose links here parts = .ok place ↔
      Leads tree purpose links here parts place :=
  ⟨leads_of_walk, Leads.walk_eq⟩

/-! ## What is written stays where it is -/

/-- A place is as the tree has it. -/
def Shows (tree : FileTree) : Place → Prop
  | .directory _ => True
  | .file location source => location ≠ [] ∧ tree.get? location = some (.file source)
  | .vacant location => location ≠ [] ∧ tree.get? location = none

private theorem Leads.shows {links : Nat} {here : Location} {parts : List String} {place : Place}
    (h : Leads tree purpose links here parts place) : tree.Shows place := by
  induction h with
  | arrive => trivial
  | stay _ _ ih => exact ih
  | up _ ih => exact ih
  | vacant _ hEntry => exact ⟨List.concat_ne_nil _ _, hEntry⟩
  | file _ hEntry => exact ⟨List.concat_ne_nil _ _, hEntry⟩
  | enter _ _ _ ih => exact ih
  | follow _ _ _ ih => exact ih

/-- Whether a file can be written at a place, and where it is then. -/
def writtenAt? : Place → Option Location
  | .directory _ => none
  | .file location _ | .vacant location => some location

/-- What stands where a file can be written. -/
theorem Leads.get?_writtenAt {links : Nat} {here location : Location} {parts : List String}
    {place : Place} (h : Leads tree purpose links here parts place)
    (hPlace : writtenAt? place = some location) :
    location ≠ [] ∧
      (tree.get? location = none ∨ ∃ source, tree.get? location = some (.file source)) := by
  have hEntry := h.shows
  cases place with
  | directory other => cases hPlace
  | file other source => cases hPlace; exact ⟨hEntry.1, .inr ⟨source, hEntry.2⟩⟩
  | vacant other => cases hPlace; exact ⟨hEntry.1, .inl hEntry.2⟩

/-- Writing a file leaves directories and links as they are. -/
theorem get?_put_of_not_file {location other : Location} {entry : Entry}
    (hFree : tree.get? location = none ∨ ∃ source, tree.get? location = some (.file source))
    (hEntry : tree.get? other = some entry) (hNoFile : ∀ source, entry ≠ .file source)
    (source : Source) : (tree.put location (.file source)).get? other = some entry := by
  rw [get?_put_ne _ _ ?_, hEntry]
  rintro rfl
  rcases hFree with hNone | ⟨old, hOld⟩
  · exact absurd (hNone.symm.trans hEntry) nofun
  · exact hNoFile old (Option.some.inj (hEntry.symm.trans hOld))

/-- Writing a file makes no directory and no link. -/
theorem get?_of_put_of_not_file {location other : Location} {entry : Entry} {source : Source}
    (hRoot : other ≠ [])
    (hEntry : (tree.put location (.file source)).get? other = some entry)
    (hNoFile : ∀ source, entry ≠ .file source) : tree.get? other = some entry := by
  rwa [get?_put_ne] at hEntry
  rintro rfl
  rw [get?_put_self _ _ hRoot] at hEntry
  exact hNoFile source (Option.some.inj hEntry).symm

/-- A walk to where a file is written arrives at the file. -/
theorem Leads.put {links : Nat} {here location : Location} {parts : List String} {place : Place}
    (h : Leads tree purpose links here parts place) (hPlace : writtenAt? place = some location)
    (source : Source) :
    Leads (tree.put location (.file source)) purpose links here parts (.file location source) := by
  -- What a walk passes on its way is a directory or a link, so it is not the file.
  obtain ⟨hRoot, hFree⟩ := h.get?_writtenAt hPlace
  induction h with
  | arrive => cases hPlace
  | stay hPart _ ih => exact .stay hPart (ih hPlace)
  | up _ ih => exact .up (ih hPlace)
  | vacant hName _ =>
      cases hPlace
      exact .file hName (get?_put_self tree _ hRoot)
  | file hName _ =>
      cases hPlace
      exact .file hName (get?_put_self tree _ hRoot)
  | enter hName hEntry _ ih =>
      exact .enter hName (get?_put_of_not_file hFree hEntry nofun source) (ih hPlace)
  | follow hName hEntry _ ih =>
      exact .follow hName (get?_put_of_not_file hFree hEntry nofun source) (ih hPlace)

/-- A walk to somewhere else takes no notice of a file that is written. -/
theorem Leads.put_of_ne {links : Nat} {here location : Location} {parts : List String}
    {place : Place} (h : Leads tree purpose links here parts place)
    (hFree : tree.get? location = none ∨ ∃ source, tree.get? location = some (.file source))
    (hOther : writtenAt? place ≠ some location) (source : Source) :
    Leads (tree.put location (.file source)) purpose links here parts place := by
  induction h with
  | arrive => exact .arrive
  | stay hPart _ ih => exact .stay hPart (ih hOther)
  | up _ ih => exact .up (ih hOther)
  | vacant hName hEntry =>
      exact .vacant hName ((get?_put_ne _ _ fun h => hOther (congrArg some h)).trans hEntry)
  | file hName hEntry =>
      exact .file hName ((get?_put_ne _ _ fun h => hOther (congrArg some h)).trans hEntry)
  | enter hName hEntry _ ih =>
      exact .enter hName (get?_put_of_not_file hFree hEntry nofun source) (ih hOther)
  | follow hName hEntry _ ih =>
      exact .follow hName (get?_put_of_not_file hFree hEntry nofun source) (ih hOther)

/-- Nor did it before the file was written. -/
theorem Leads.of_put {links : Nat} {here location : Location} {parts : List String} {place : Place}
    {source : Source}
    (h : Leads (tree.put location (.file source)) purpose links here parts place)
    (hOther : writtenAt? place ≠ some location) : Leads tree purpose links here parts place := by
  induction h with
  | arrive => exact .arrive
  | stay hPart _ ih => exact .stay hPart (ih hOther)
  | up _ ih => exact .up (ih hOther)
  | vacant hName hMet =>
      exact .vacant hName ((get?_put_ne _ _ fun h => hOther (congrArg some h)).symm.trans hMet)
  | file hName hMet =>
      exact .file hName ((get?_put_ne _ _ fun h => hOther (congrArg some h)).symm.trans hMet)
  | enter hName hMet _ ih =>
      exact .enter hName (get?_of_put_of_not_file (List.concat_ne_nil _ _) hMet nofun) (ih hOther)
  | follow hName hMet _ ih =>
      exact .follow hName (get?_of_put_of_not_file (List.concat_ne_nil _ _) hMet nofun) (ih hOther)

theorem resolve_eq_ok_iff {path : Path} {place : Place} :
    tree.resolve purpose path = .ok place ↔
      '\x00' ∉ path.text.toList ∧ path.text ≠ "" ∧ path.text.utf8ByteSize ≤ maxPathSize ∧
        Leads tree purpose maxLinks (origin path tree.workingDirectory) path.parts place := by
  rw [← walk_eq_ok_iff, resolve]
  by_cases hNul : '\x00' ∈ path.text.toList
  · simp [hNul]
  · by_cases hEmpty : path.text = ""
    · simp [hEmpty]
    · by_cases hLong : maxPathSize < path.text.utf8ByteSize
      · simp [hLong, Nat.not_le.2 hLong, hNul, hEmpty]
      · simp [hLong, Nat.not_lt.1 hLong, hNul, hEmpty]

/-- What stands where a path leads to a file. -/
theorem get?_of_resolve {path : Path} {location : Location} {source : Source}
    (h : tree.resolve purpose path = .ok (.file location source)) :
    location ≠ [] ∧ tree.get? location = some (.file source) :=
  (resolve_eq_ok_iff.1 h).2.2.2.shows

/-- Writing a file does not change where its path leads. -/
theorem resolve_put {path : Path} {place : Place} {location : Location}
    (h : tree.resolve purpose path = .ok place) (hPlace : writtenAt? place = some location)
    (source : Source) :
    (tree.put location (.file source)).resolve purpose path = .ok (.file location source) := by
  obtain ⟨hNul, hEmpty, hLong, hLeads⟩ := resolve_eq_ok_iff.1 h
  exact resolve_eq_ok_iff.2 ⟨hNul, hEmpty, hLong, hLeads.put hPlace source⟩

/-- Writing a file does not change where paths to other places lead. -/
theorem resolve_put_iff {path : Path} {place : Place} {location : Location}
    (hFree : tree.get? location = none ∨ ∃ source, tree.get? location = some (.file source))
    (hOther : writtenAt? place ≠ some location) (source : Source) :
    (tree.put location (.file source)).resolve purpose path = .ok place ↔
      tree.resolve purpose path = .ok place := by
  rw [resolve_eq_ok_iff, resolve_eq_ok_iff, workingDirectory_put]
  refine and_congr_right fun _ => and_congr_right fun _ => and_congr_right fun _ => ?_
  exact ⟨fun h => h.of_put hOther, fun h => h.put_of_ne hFree hOther source⟩

/-! ## Opening again -/

/-- A file is opened where its path leads. -/
theorem openEmpty_eq_ok_iff {path : Path} {location : Location} {opened : FileTree} :
    tree.openEmpty path = .ok (location, opened) ↔
      (∃ place, tree.resolve .writing path = .ok place ∧ writtenAt? place = some location) ∧
        opened = tree.put location (.file .empty) := by
  unfold openEmpty
  cases hResolve : tree.resolve .writing path with
  | error cause => simp [bind, Except.bind]
  | ok place =>
      cases place <;> simp [bind, Except.bind, writtenAt?] <;> grind

/-- What stands where a file has been opened was a file or nothing. -/
theorem get?_of_openEmpty {path : Path} {location : Location} {opened : FileTree}
    (h : tree.openEmpty path = .ok (location, opened)) :
    location ≠ [] ∧
      (tree.get? location = none ∨ ∃ source, tree.get? location = some (.file source)) := by
  obtain ⟨⟨place, hResolve, hPlace⟩, -⟩ := openEmpty_eq_ok_iff.1 h
  exact (resolve_eq_ok_iff.1 hResolve).2.2.2.get?_writtenAt hPlace

/-- A file is read where its path leads. -/
theorem read_eq_ok_iff {path : Path} {source : Source} :
    tree.read path = .ok source ↔
      ∃ location, tree.resolve .finding path = .ok (.file location source) := by
  unfold read find
  cases hResolve : tree.resolve .finding path with
  | error cause => simp [bind, Except.bind]
  | ok place => cases place <;> simp [bind, Except.bind]

/-- A file is read by a path whose parts lead to it. -/
theorem read_of_leads {path : Path} {parts : List String} {here location : Location}
    {source : Source}
    (hText : '\x00' ∉ path.text.toList ∧ path.text ≠ "" ∧ path.text.utf8ByteSize ≤ maxPathSize)
    (hParts : path.parts = parts) (hOrigin : origin path tree.workingDirectory = here)
    (hLeads : Leads tree .finding maxLinks here parts (.file location source)) :
    tree.read path = .ok source := by
  subst hParts hOrigin
  obtain ⟨hNul, hEmpty, hLong⟩ := hText
  exact read_eq_ok_iff.2 ⟨location, resolve_eq_ok_iff.2 ⟨hNul, hEmpty, hLong, hLeads⟩⟩

/-- What is read stands somewhere in the tree. -/
theorem exists_mem_entries_of_read {path : Path} {source : Source}
    (h : tree.read path = .ok source) : ∃ location, (location, .file source) ∈ tree.entries := by
  obtain ⟨location, hResolve⟩ := read_eq_ok_iff.1 h
  obtain ⟨hRoot, hEntry⟩ := get?_of_resolve hResolve
  rw [get?, if_neg hRoot] at hEntry
  obtain ⟨front, back, hSplit, -⟩ := List.lookup_eq_some_iff.1 hEntry
  exact ⟨location, hSplit ▸ List.mem_append_right front List.mem_cons_self⟩

/-- Once a file has been opened, a path leads to it and is read as empty, or is read as before. -/
theorem read_of_openEmpty {path other : Path} {location : Location} {opened : FileTree}
    {source : Source} (h : tree.openEmpty path = .ok (location, opened))
    (hRead : opened.read other = .ok source) : source = .empty ∨ tree.read other = .ok source := by
  obtain ⟨hRoot, hFree⟩ := get?_of_openEmpty h
  obtain ⟨-, rfl⟩ := openEmpty_eq_ok_iff.1 h
  obtain ⟨found, hResolve⟩ := read_eq_ok_iff.1 hRead
  by_cases hFound : found = location
  · have hEntry := (get?_of_resolve hResolve).2
    rw [hFound, get?_put_self _ _ hRoot] at hEntry
    exact .inl (Entry.file.inj (Option.some.inj hEntry)).symm
  · have hOther : writtenAt? (.file found source) ≠ some location :=
      fun h => hFound (Option.some.inj h)
    exact .inr (read_eq_ok_iff.2 ⟨found, (resolve_put_iff hFree hOther _).1 hResolve⟩)

/-- The path by which a file was opened leads to what has been written. -/
theorem resolve_put_of_openEmpty {path : Path} {location : Location} {opened : FileTree}
    (h : tree.openEmpty path = .ok (location, opened)) (source : Source) :
    (opened.put location (.file source)).resolve .writing path = .ok (.file location source) := by
  obtain ⟨⟨place, hResolve, hPlace⟩, rfl⟩ := openEmpty_eq_ok_iff.1 h
  rw [put_put]
  exact resolve_put hResolve hPlace source

end FileTree

end FunctionCatalog
