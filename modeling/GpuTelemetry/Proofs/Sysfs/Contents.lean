import GpuTelemetry.Proofs.Sysfs.Walks

/-!
# The contents of open files

A file tree changes by writes, replacements, removals, new directories and new
links. Only a write along a path that leads to a file changes what that file
holds: an open file has the contents that were last written to it in this way,
whatever has become of the path by which it was opened.
-/

namespace GpuTelemetry.Sysfs

inductive FileChange
  | write (path : Path) (bytes : List UInt8)
  | replace (path : Path) (bytes : List UInt8)
  | remove (path : Path)
  | makeDirectory (path : Path)
  | makeLink (path target : Path)
  deriving DecidableEq

namespace FileTree

def change (tree : FileTree) : FileChange → FileTree
  | .write path bytes => tree.write path bytes
  | .replace path bytes => tree.replace path bytes
  | .remove path => tree.remove path
  | .makeDirectory path => tree.makeDirectory path
  | .makeLink path target => tree.makeLink path target

def changeAll (tree : FileTree) (changes : List FileChange) : FileTree :=
  changes.foldl change tree

/-- What a change writes into a file in place: into the file to which the path leads once the
directories on the way are made. -/
def written? (tree : FileTree) (id : Nat) : FileChange → Option (List UInt8)
  | .write path bytes =>
    if (tree.makeParents? path).bind (fun made => made.open? path) = some (.file id) then some bytes
    else none
  | .replace .. | .remove _ | .makeDirectory _ | .makeLink .. => none

/-- What some changes last write into a file in place. -/
def lastWritten? (id : Nat) : FileTree → List FileChange → Option (List UInt8)
  | _, [] => none
  | tree, change :: changes =>
    (lastWritten? id (tree.change change) changes).or (tree.written? id change)

/-- What can be read of an open file after some changes. -/
def contentsAfter? (tree : FileTree) (changes : List FileChange) : Handle → Option (List UInt8)
  | .directory => none
  | .file id => (lastWritten? id tree changes).or (tree.read? (.file id))

variable {tree after : FileTree} {place path : Path} {node : Node} {id : Nat}

theorem mem_nodes_of_node? (h : tree.node? place = some (.file id)) :
    (place, Node.file id) ∈ tree.nodes := by
  rw [node?] at h
  split at h
  · cases h
  · obtain ⟨entry, hentry, hkind⟩ := Option.map_eq_some_iff.mp h
    have hplace : entry.1 = place := by simpa using List.find?_some hentry
    rw [← hplace, ← hkind]
    exact List.mem_of_find?_eq_some hentry

theorem lt_nextId_of_open? (h : tree.open? path = some (.file id)) : id < tree.nextId := by
  obtain ⟨place, -, hnode⟩ := exists_of_open?_file h
  exact tree.fresh place id (mem_nodes_of_node? hnode)

/-! ## Changes that make no file -/

/-- No file was ever made in a tree that was not in another one, nor written. -/
structure AddsNoFile (tree after : FileTree) : Prop where
  contents : after.contents = tree.contents
  nextId : after.nextId = tree.nextId

namespace AddsNoFile

theorem refl (tree : FileTree) : tree.AddsNoFile tree :=
  ⟨rfl, rfl⟩

theorem trans {last : FileTree} (h : tree.AddsNoFile after) (hlast : after.AddsNoFile last) :
    tree.AddsNoFile last where
  contents := hlast.contents.trans h.contents
  nextId := hlast.nextId.trans h.nextId

theorem read? (h : tree.AddsNoFile after) (file : Handle) : after.read? file = tree.read? file := by
  cases file with
  | directory => rfl
  | file id => rw [FileTree.read?, FileTree.read?, h.contents]

end AddsNoFile

theorem addsNoFile_insertNew? {hnode : ∀ id, node ≠ .file id}
    (h : tree.insertNew? path node hnode = some after) : tree.AddsNoFile after := by
  obtain ⟨place, -, hafter⟩ := Option.bind_eq_some_iff.mp h
  split at hafter
  · cases hafter
  · cases hafter
    exact ⟨rfl, rfl⟩

theorem addsNoFile_makeDirectoriesFrom? {above names : Path}
    (h : tree.makeDirectoriesFrom? above names = some after) : tree.AddsNoFile after := by
  induction names generalizing tree above with
  | nil =>
      cases h
      exact .refl _
  | cons name rest ih =>
      rw [makeDirectoriesFrom?] at h
      split at h
      · exact ih h
      · obtain ⟨made, hmade, hrest⟩ := Option.bind_eq_some_iff.mp h
        exact (addsNoFile_insertNew? hmade).trans (ih hrest)

theorem addsNoFile_makeParents? (h : tree.makeParents? path = some after) :
    tree.AddsNoFile after :=
  addsNoFile_makeDirectoriesFrom? h

theorem addsNoFile_remove (tree : FileTree) (path : Path) : tree.AddsNoFile (tree.remove path) := by
  rcases tree.remove_cases path with ⟨place, -, -, hremoved⟩ | ⟨hkept, -⟩
  · rw [hremoved]
    exact ⟨rfl, rfl⟩
  · rw [hkept]
    exact .refl tree

theorem addsNoFile_makeDirectory (tree : FileTree) (path : Path) :
    tree.AddsNoFile (tree.makeDirectory path) := by
  rw [makeDirectory]
  cases hmade : tree.makeDirectories? path with
  | none => exact .refl tree
  | some made => exact addsNoFile_makeDirectoriesFrom? hmade

theorem addsNoFile_makeLink (tree : FileTree) (path target : Path) :
    tree.AddsNoFile (tree.makeLink path target) := by
  rw [makeLink]
  cases hmade : tree.makeParents? path with
  | none => exact .refl tree
  | some made =>
      refine (addsNoFile_makeParents? hmade).trans ?_
      dsimp only
      cases hlinked : made.insertNew? path (.link target) (Node.link_ne_file target) with
      | none => exact .refl made
      | some linked => exact addsNoFile_insertNew? hlinked

/-! ## Putting contents into files -/

/-- What putting contents into a file does: it makes a file, gives the file that the path leads to
new contents, or nothing. -/
theorem put_cases (tree : FileTree) (path : Path) (bytes : List UInt8) :
    (∃ place, tree.open? path = none ∧ tree.put path bytes = tree.insertFile place bytes) ∨
    (∃ id, tree.open? path = some (.file id) ∧
      tree.put path bytes =
        { tree with contents := (id, bytes) :: Generations.without id tree.contents }) ∨
    ((∀ id, tree.open? path ≠ some (.file id)) ∧ tree.put path bytes = tree) := by
  rw [put]
  cases hplace : tree.locate? path with
  | none => exact .inr (.inr ⟨by simp [open?, hplace], rfl⟩)
  | some place =>
      cases hnode : tree.node? place with
      | none => exact .inl ⟨place, by simp [open?, hplace, hnode], by simp [hnode]⟩
      | some node =>
          cases node with
          | directory =>
              exact .inr (.inr ⟨by simp [open?, hplace, hnode], by simp [hnode]⟩)
          | link target =>
              exact .inr (.inr ⟨by simp [open?, hplace, hnode], by simp [hnode]⟩)
          | file id =>
              refine .inr (.inl ⟨id, by simp [open?, hplace, hnode], ?_⟩)
              simp [hnode, Generations.without]

theorem nextId_le_put (tree : FileTree) (path : Path) (bytes : List UInt8) :
    tree.nextId ≤ (tree.put path bytes).nextId := by
  rcases tree.put_cases path bytes with ⟨place, -, hput⟩ | ⟨id, -, hput⟩ | ⟨-, hput⟩
  · rw [hput]
    exact Nat.le_succ _
  · rw [hput]
  · rw [hput]

/-- The contents of files are keyed entries. -/
theorem read?_file (tree : FileTree) (id : Nat) :
    tree.read? (.file id) = Generations.find? id tree.contents :=
  rfl

/-- A file that is there already gets new contents only along a path that leads to it. -/
theorem read?_put (hid : id < tree.nextId) (path : Path) (bytes : List UInt8) :
    (tree.put path bytes).read? (.file id) =
      if tree.open? path = some (.file id) then some bytes else tree.read? (.file id) := by
  rw [read?_file, read?_file]
  rcases tree.put_cases path bytes with
    ⟨place, hopen, hput⟩ | ⟨found, hopen, hput⟩ | ⟨hopen, hput⟩
  · have hnew : tree.nextId ≠ id := Nat.ne_of_gt hid
    rw [hput, insertFile, Generations.find?_cons, if_neg hnew, hopen]
    rfl
  · rw [hput, Generations.find?_cons, Generations.find?_without, hopen]
    simp only [Option.some.injEq, Handle.file.injEq]
    by_cases hsame : found = id
    · rw [if_pos hsame, if_pos hsame]
    · rw [if_neg hsame, if_neg hsame, if_neg (Ne.symm hsame)]
  · rw [hput, if_neg (hopen id)]

/-! ## One change, and a run of them -/

theorem nextId_le_change (tree : FileTree) (change : FileChange) :
    tree.nextId ≤ (tree.change change).nextId := by
  cases change with
  | write path bytes =>
      rw [FileTree.change, write]
      cases hmade : tree.makeParents? path with
      | none => exact Nat.le_refl _
      | some made =>
          rw [← (addsNoFile_makeParents? hmade).nextId]
          exact made.nextId_le_put path bytes
  | replace path bytes =>
      rw [FileTree.change, replace, ← (tree.addsNoFile_remove path).nextId]
      exact (tree.remove path).nextId_le_put path bytes
  | remove path => exact (tree.addsNoFile_remove path).nextId.ge
  | makeDirectory path => exact (tree.addsNoFile_makeDirectory path).nextId.ge
  | makeLink path target => exact (tree.addsNoFile_makeLink path target).nextId.ge

/-- A change leaves the contents of a file as they are unless it writes to the file in place. -/
theorem read?_change (hid : id < tree.nextId) (change : FileChange) :
    (tree.change change).read? (.file id) =
      (tree.written? id change).or (tree.read? (.file id)) := by
  cases change with
  | write path bytes =>
      rw [FileTree.change, write, written?]
      cases hmade : tree.makeParents? path with
      | none => rfl
      | some made =>
          have hadds := addsNoFile_makeParents? hmade
          dsimp only
          rw [read?_put (hadds.nextId.symm ▸ hid), hadds.read?, Option.bind_some]
          split <;> rfl
  | replace path bytes =>
      have hadds := tree.addsNoFile_remove path
      rw [FileTree.change, replace, read?_put (hadds.nextId.symm ▸ hid),
        if_neg (tree.open?_remove path id), hadds.read?]
      rfl
  | remove path => exact (tree.addsNoFile_remove path).read? (.file id)
  | makeDirectory path => exact (tree.addsNoFile_makeDirectory path).read? (.file id)
  | makeLink path target => exact (tree.addsNoFile_makeLink path target).read? (.file id)

theorem read?_changeAll (hid : id < tree.nextId) (changes : List FileChange) :
    (tree.changeAll changes).read? (.file id) =
      (lastWritten? id tree changes).or (tree.read? (.file id)) := by
  induction changes generalizing tree with
  | nil => rfl
  | cons change changes ih =>
      have hlater : id < (tree.change change).nextId :=
        Nat.lt_of_lt_of_le hid (tree.nextId_le_change change)
      rw [changeAll, List.foldl_cons, ← changeAll, ih hlater, read?_change hid, lastWritten?,
        Option.or_assoc]

/-- What can be read of an open file is what was last written to it in place, or else what it held
when it was opened. -/
theorem read?_opened {file : Handle} (hopen : tree.open? path = some file)
    (changes : List FileChange) :
    (tree.changeAll changes).read? file = tree.contentsAfter? changes file := by
  cases file with
  | directory => rfl
  | file id => exact read?_changeAll (lt_nextId_of_open? hopen) changes

end FileTree

end GpuTelemetry.Sysfs
