import Hdlc.Command.Files
import Mathlib.Data.List.Basic

/-!
# Writing and reading files

A file can be written where a path leads to the name of something other than a directory
(`write_eq_ok_iff`). Putting a file there changes no directory, so that the same path leads to the
same place afterwards and reads back what was written (`read_put`).
-/

namespace Hdlc.Command

namespace Files

variable {files : Files} {path : String} {location : Location}

/-- The path leads to a place where a file can be put, or replaced if there is one. -/
structure Admits (files : Files) (path : String) (location : Location) : Prop where
  target : files.target path = .ok (.entry location false)
  name : (location.getLastD "").utf8ByteSize ≤ maxNameSize
  node : files.node? location ≠ some .directory

theorem checkName_eq_ok_iff {name : String} :
    checkName name = .ok () ↔ name.utf8ByteSize ≤ maxNameSize := by
  rw [checkName, ← Nat.not_lt]
  split
  next hlong => simp [hlong]
  next hshort => simp [hshort]

@[simp]
theorem workingDirectory_put (files : Files) (location : Location) (content : Octets) :
    (files.put location content).workingDirectory = files.workingDirectory := rfl

/-! ## Walking -/

/-- Putting a file where there is no directory leaves every way through directories open. -/
theorem walk_put (hnode : files.node? location ≠ some .directory) (content : Octets)
    {here found : Location} {parts : List String} (hwalk : files.walk here parts = .ok found) :
    (files.put location content).walk here parts = .ok found := by
  induction parts generalizing here with
  | nil => exact hwalk
  | cons part rest ih =>
      rw [walk] at hwalk ⊢
      by_cases hstay : part = "" ∨ part = "."
      · rw [if_pos hstay] at hwalk ⊢
        exact ih hwalk
      · by_cases hup : part = ".."
        · rw [if_neg hstay, if_pos hup] at hwalk ⊢
          exact ih hwalk
        · rw [if_neg hstay, if_neg hup] at hwalk ⊢
          cases hname : checkName part with
          | error failure =>
              rw [hname] at hwalk
              cases hwalk
          | ok _ =>
              cases hchild : files.node? (here ++ [part]) with
              | none =>
                  rw [hname, hchild] at hwalk
                  cases hwalk
              | some node =>
                  cases node with
                  | file _ =>
                      rw [hname, hchild] at hwalk
                      cases hwalk
                  | directory =>
                      have hother : here ++ [part] ≠ location := by
                        rintro rfl
                        exact hnode hchild
                      rw [hname, hchild] at hwalk
                      rw [node?_put_of_ne files content hother, hchild]
                      exact ih hwalk

theorem exists_of_map_eq_ok {walked : Except Failure Location} {change : Location → Target}
    {found : Target} (hmap : walked.map change = .ok found) :
    ∃ parent, walked = .ok parent ∧ change parent = found := by
  cases walked with
  | error failure => cases hmap
  | ok parent => exact ⟨parent, rfl, Except.ok.inj hmap⟩

theorem target_put (hnode : files.node? location ≠ some .directory) (content : Octets)
    {found : Target} (htarget : files.target path = .ok found) :
    (files.put location content).target path = .ok found := by
  simp only [target, bind, Except.bind] at htarget ⊢
  split at htarget
  next => cases htarget
  next hpath =>
    split at htarget
    next => exact htarget
    next name hname =>
      split at htarget
      next hdots =>
        obtain ⟨parent, hwalk, hfound⟩ := exists_of_map_eq_ok htarget
        rw [if_pos hdots, workingDirectory_put, walk_put hnode content hwalk, ← hfound]
        rfl
      next hdots =>
        obtain ⟨parent, hwalk, hfound⟩ := exists_of_map_eq_ok htarget
        rw [if_neg hdots, workingDirectory_put, walk_put hnode content hwalk, ← hfound]
        rfl

/-- A bare name is looked for in the working directory. -/
theorem target_of_splitOn {name : String} (hpath : checkPath name = .ok ())
    (hsplit : name.splitOn "/" = [name]) (hname : name ≠ "" ∧ name ≠ "." ∧ name ≠ "..") :
    files.target name = .ok (.entry (files.workingDirectory ++ [name]) false) := by
  obtain ⟨hempty, hdot, hdots⟩ := hname
  simp [target, hpath, hsplit, bind, Except.bind, hempty, hdot, hdots, walk, Except.map]

/-- A path with a name at its end does not lead to the root. -/
theorem ne_nil_of_target {asDirectory : Bool}
    (htarget : files.target path = .ok (.entry location asDirectory)) : location ≠ [] := by
  simp only [target, bind, Except.bind] at htarget
  split at htarget
  next => cases htarget
  next =>
    split at htarget
    next => cases htarget
    next name _ =>
      split at htarget
      next =>
        obtain ⟨parent, -, hfound⟩ := exists_of_map_eq_ok htarget
        cases hfound
      next =>
        obtain ⟨parent, -, hfound⟩ := exists_of_map_eq_ok htarget
        cases hfound
        exact List.append_ne_nil_of_right_ne_nil parent (List.cons_ne_nil name [])

/-! ## Writing -/

theorem write_of_admits (hadmits : files.Admits path location) (content : Octets) :
    files.write path content = .ok (files.put location content) := by
  simp only [write, hadmits.target, bind, Except.bind, Bool.false_eq_true, if_false,
    checkName_eq_ok_iff.mpr hadmits.name, if_neg hadmits.node]

theorem exists_admits_of_write {content : Octets} {after : Files}
    (hwrite : files.write path content = .ok after) : ∃ location, files.Admits path location := by
  simp only [write, bind, Except.bind] at hwrite
  split at hwrite
  next => cases hwrite
  next found htarget =>
    cases found with
    | directory => cases hwrite
    | entry location asDirectory =>
        dsimp only at hwrite
        split at hwrite
        next => cases hwrite
        next hfile =>
          rw [Bool.not_eq_true] at hfile
          subst hfile
          split at hwrite
          next => cases hwrite
          next hname =>
            split at hwrite
            next => cases hwrite
            next hnode => exact ⟨location, htarget, checkName_eq_ok_iff.mp hname, hnode⟩

/-- A file is written exactly where its path admits one, and nothing else changes. -/
theorem write_eq_ok_iff {content : Octets} {after : Files} :
    files.write path content = .ok after ↔
      ∃ location, files.Admits path location ∧ after = files.put location content := by
  constructor
  · intro hwrite
    obtain ⟨location, hadmits⟩ := exists_admits_of_write hwrite
    rw [write_of_admits hadmits] at hwrite
    exact ⟨location, hadmits, (Except.ok.inj hwrite).symm⟩
  · rintro ⟨location, hadmits, rfl⟩
    exact write_of_admits hadmits content

/-- What was put where a path leads is read back under that path. -/
theorem read_put (hadmits : files.Admits path location) (content : Octets) :
    (files.put location content).read path = .ok content := by
  have hlocation := ne_nil_of_target hadmits.target
  simp only [read, find, target_put hadmits.node content hadmits.target, bind, Except.bind,
    checkName_eq_ok_iff.mpr hadmits.name, node?_put_self files content hlocation,
    Bool.false_eq_true, if_false]

/-! ## The working directory -/

theorem mem_here_iff {name : String} {content : Octets} :
    (name, content) ∈ files.here ↔
      (files.workingDirectory ++ [name], .file content) ∈ files.nodes := by
  rw [here, List.mem_filterMap]
  constructor
  · rintro ⟨⟨location, node⟩, hnode, hshown⟩
    cases node with
    | directory => cases hshown
    | file found =>
        dsimp only at hshown
        split_ifs at hshown with hhere
        obtain ⟨last, hlast, hentry⟩ := Option.map_eq_some_iff.mp hshown
        cases hentry
        rw [← hhere, List.dropLast_append_getLast? name hlast]
        exact hnode
  · intro hnode
    refine ⟨_, hnode, ?_⟩
    dsimp only
    rw [List.dropLast_concat, if_pos rfl, List.getLast?_concat]
    rfl

/-- The working directory lists the file that was put there, and all others as before. -/
theorem mem_here_put_iff {name : String} {content found : Octets} :
    (name, found) ∈ (files.put location content).here ↔
      if files.workingDirectory ++ [name] = location then found = content
      else (name, found) ∈ files.here := by
  rw [mem_here_iff, mem_here_iff, workingDirectory_put, put, List.mem_append, List.mem_filter,
    List.mem_singleton, Prod.mk.injEq, Node.file.injEq]
  split
  next hlocation => simp [hlocation]
  next hlocation => simp [hlocation]

/-! ## Reading -/

/-- A file that can be read can be opened, and delivers what would be read. -/
theorem openSource_of_read {content : Octets} (hread : files.read path = .ok content) :
    files.openSource path = .ok (.ofOctets content) := by
  simp only [read, openSource, bind, Except.bind] at hread ⊢
  split at hread
  next => cases hread
  next node hnode =>
    cases node with
    | file content =>
        cases hread
        rfl
    | directory => cases hread

end Files

end Hdlc.Command
