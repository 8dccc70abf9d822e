import GpuTelemetry.Generations
import GpuTelemetry.Sysfs.FileTree
import Mathlib.Data.List.Infix

/-!
# Walks along paths

A walk with one more name either fails or is one step from the directory in which
the shorter walk ends. A file that is taken out of a tree only cuts walks short,
so that the path by which it was removed leads to no file any more.
-/

namespace GpuTelemetry.Sysfs.FileTree

variable {tree : FileTree} {place base path : Path} {name : String}

theorem node?_nil (tree : FileTree) : tree.node? [] = some .directory :=
  rfl

/-- All places on the way to a place, with itself, are directories. -/
def Descends (tree : FileTree) (place : Path) : Prop :=
  ∀ above, above <+: place → tree.node? above = some .directory

theorem descends_nil (tree : FileTree) : tree.Descends [] := by
  intro above habove
  rw [List.prefix_nil.mp habove, node?_nil]

theorem Descends.concat (h : tree.Descends place)
    (hnode : tree.node? (place ++ [name]) = some .directory) :
    tree.Descends (place ++ [name]) := by
  intro above habove
  rcases List.prefix_concat_iff.mp habove with heq | hprefix
  · rw [heq]
    exact hnode
  · exact h above hprefix

theorem Descends.dropLast (h : tree.Descends place) : tree.Descends place.dropLast :=
  fun above habove => h above (habove.trans place.dropLast_prefix)

/-- A walk that is longer by one name fails, or goes on from the directory where the shorter one
ends. -/
def Continues (tree : FileTree) (name : String) (shorter longer : Except Int Path) : Prop :=
  (∃ number, longer = .error number) ∨
    ∃ parent follow, shorter = .ok parent ∧ tree.Descends parent ∧
      longer = tree.walkFrom follow parent [name]

theorem continues_walkFrom {follow : Path → Except Int Path}
    (hfollow : ∀ path, tree.Continues name (follow path) (follow (path ++ [name])))
    (path : Path) (hbase : tree.Descends base) :
    tree.Continues name (tree.walkFrom follow base path)
      (tree.walkFrom follow base (path ++ [name])) := by
  induction path generalizing base with
  | nil => exact .inr ⟨base, follow, rfl, hbase, rfl⟩
  | cons next rest ih =>
      have hmore : (rest ++ [name]).isEmpty = false := by simp
      rw [List.cons_append, walkFrom, walkFrom]
      by_cases hsame : next = "."
      · rw [if_pos hsame, if_pos hsame]
        exact ih hbase
      rw [if_neg hsame, if_neg hsame]
      by_cases hup : next = ".."
      · rw [if_pos hup, if_pos hup]
        cases base.isEmpty with
        | true => exact .inl ⟨_, rfl⟩
        | false => exact ih hbase.dropLast
      rw [if_neg hup, if_neg hup, hmore]
      cases hnode : tree.node? (base ++ [next]) with
      | none => exact .inl ⟨_, rfl⟩
      | some node =>
          cases node with
          | directory => exact ih (hbase.concat hnode)
          | file id => exact .inl ⟨_, rfl⟩
          | link target =>
              dsimp only
              rw [← List.append_assoc]
              exact hfollow (target ++ rest)

theorem continues_walk (tree : FileTree) (name : String) (links : Nat) (path : Path) :
    tree.Continues name (tree.walk links path) (tree.walk links (path ++ [name])) := by
  induction links generalizing path with
  | zero => exact continues_walkFrom (fun _ => .inl ⟨_, rfl⟩) path tree.descends_nil
  | succ links ih => exact continues_walkFrom ih path tree.descends_nil

theorem exists_of_open?_file {id : Nat} (h : tree.open? path = some (.file id)) :
    ∃ place, tree.locate path = .ok place ∧ tree.node? place = some (.file id) := by
  rw [open?, locate?] at h
  cases hplace : tree.locate path with
  | error number =>
      rw [hplace] at h
      cases h
  | ok place =>
      rw [hplace] at h
      refine ⟨place, rfl, ?_⟩
      cases hnode : tree.node? place with
      | none => simp [Except.toOption, hnode] at h
      | some node => cases node <;> simp_all [Except.toOption]

theorem entry?_concat {parent : Path} (hparent : tree.locate path = .ok parent)
    (hdirectory : tree.node? parent = some .directory) (hsame : name ≠ ".") (hup : name ≠ "..") :
    tree.entry? (path ++ [name]) = some (parent ++ [name]) := by
  simp [locate?, entry?, hparent, hdirectory, hsame, hup, Except.toOption]

/-- A last step to a file is an entry of a directory, and that entry is a file or a link. -/
theorem exists_node_of_last {follow : Path → Except Int Path} {id : Nat} (hbase : tree.Descends base)
    (h : tree.walkFrom follow base [name] = .ok place)
    (hfile : tree.node? place = some (.file id)) :
    name ≠ "." ∧ name ≠ ".." ∧
      ∃ node, tree.node? (base ++ [name]) = some node ∧ node ≠ .directory := by
  have hdirectory (parent : Path) (hparent : tree.node? parent = some .directory) :
      parent ≠ place := by
    intro heq
    rw [heq, hfile] at hparent
    cases hparent
  rw [walkFrom] at h
  by_cases hsame : name = "."
  · rw [if_pos hsame] at h
    exact absurd (Except.ok.inj h) (hdirectory base (hbase base List.prefix_rfl))
  rw [if_neg hsame] at h
  by_cases hup : name = ".."
  · rw [if_pos hup] at h
    cases hroot : base.isEmpty with
    | true => simp [hroot] at h
    | false =>
        rw [hroot] at h
        exact absurd (Except.ok.inj h) (hdirectory _ (hbase.dropLast _ List.prefix_rfl))
  rw [if_neg hup] at h
  refine ⟨hsame, hup, ?_⟩
  cases hnode : tree.node? (base ++ [name]) with
  | none =>
      rw [hnode] at h
      cases h
      rw [hnode] at hfile
      cases hfile
  | some node =>
      refine ⟨node, rfl, ?_⟩
      intro heq
      rw [hnode, heq] at h
      exact hdirectory _ (hnode.trans (congrArg some heq)) (Except.ok.inj h)

/-- The last name of a path to a file is an entry of a directory, and names a file or a link. -/
theorem exists_entry?_of_open? {id : Nat} (h : tree.open? path = some (.file id)) :
    ∃ parent above last node, path = above ++ [last] ∧ last ≠ "." ∧ last ≠ ".." ∧
      tree.locate above = .ok parent ∧ tree.node? parent = some .directory ∧
      tree.node? (parent ++ [last]) = some node ∧ node ≠ .directory := by
  obtain ⟨place, hplace, hfile⟩ := exists_of_open?_file h
  rcases path.eq_nil_or_concat with rfl | ⟨above, last, rfl⟩
  · cases hplace
    cases hfile
  rw [List.concat_eq_append] at hplace
  rcases tree.continues_walk last linkLimit above with
    ⟨number, hfails⟩ | ⟨parent, follow, hparent, hdescends, hstep⟩
  · cases hfails.symm.trans hplace
  · obtain ⟨hsame, hup, node, hnode, hkind⟩ :=
      exists_node_of_last hdescends (hstep.symm.trans hplace) hfile
    exact ⟨parent, above, last, node, List.concat_eq_append, hsame, hup, hparent,
      hdescends parent List.prefix_rfl, hnode, hkind⟩

/-! ## Trees without a file -/

theorem node?_without (tree : FileTree) (hplace : place ≠ []) (other : Path) :
    (tree.without place).node? other = if other = place then none else tree.node? other := by
  cases other with
  | nil => rw [if_neg hplace.symm, node?_nil, node?_nil]
  | cons next rest =>
      -- The nodes below the root are keyed entries.
      exact Generations.find?_without place (next :: rest) tree.nodes

/-- A walk may fail now, or end where something is missing now, and else ends where it did. -/
def CutShort (place : Path) (now before : Except Int Path) : Prop :=
  now = before ∨ now = .ok place ∨ ∃ number, now = .error number

theorem cutShort_walkFrom {now before : Path → Except Int Path} (hplace : place ≠ [])
    (hfollow : ∀ path, CutShort place (now path) (before path)) (path base : Path) :
    CutShort place ((tree.without place).walkFrom now base path)
      (tree.walkFrom before base path) := by
  induction path generalizing base with
  | nil => exact .inl rfl
  | cons next rest ih =>
      rw [walkFrom, walkFrom]
      by_cases hsame : next = "."
      · rw [if_pos hsame, if_pos hsame]
        exact ih base
      rw [if_neg hsame, if_neg hsame]
      by_cases hup : next = ".."
      · rw [if_pos hup, if_pos hup]
        cases base.isEmpty with
        | true => exact .inl rfl
        | false => exact ih base.dropLast
      rw [if_neg hup, if_neg hup, node?_without tree hplace]
      by_cases hmissing : base ++ [next] = place
      · rw [if_pos hmissing, hmissing]
        cases rest.isEmpty with
        | true => exact .inr (.inl rfl)
        | false => exact .inr (.inr ⟨_, rfl⟩)
      rw [if_neg hmissing]
      cases tree.node? (base ++ [next]) with
      | none => exact .inl rfl
      | some node =>
          cases node with
          | directory => exact ih (base ++ [next])
          | file id => exact .inl rfl
          | link target => exact hfollow (target ++ rest)

theorem cutShort_walk (tree : FileTree) (hplace : place ≠ []) (links : Nat) (path : Path) :
    CutShort place ((tree.without place).walk links path) (tree.walk links path) := by
  induction links generalizing path with
  | zero => exact cutShort_walkFrom hplace (fun _ => .inl rfl) path []
  | succ links ih => exact cutShort_walkFrom hplace ih path []

theorem locate_of_without {found : Path} (hplace : place ≠ [])
    (h : (tree.without place).locate path = .ok found) (hother : found ≠ place) :
    tree.locate path = .ok found := by
  rcases tree.cutShort_walk hplace linkLimit path with hsame | hmissing | ⟨number, hfails⟩
  · exact hsame.symm.trans h
  · have heq := Except.ok.inj (hmissing.symm.trans h)
    exact absurd heq.symm hother
  · cases hfails.symm.trans h

/-- What a removal does: it takes an entry out that is no directory, or nothing. -/
theorem remove_cases (tree : FileTree) (path : Path) :
    (∃ place, tree.entry? path = some place ∧ tree.node? place ≠ some .directory ∧
      tree.remove path = tree.without place) ∨
    (tree.remove path = tree ∧
      ∀ place, tree.entry? path = some place → tree.node? place = some .directory) := by
  rw [remove]
  cases tree.entry? path with
  | none =>
      refine .inr ⟨rfl, ?_⟩
      intro place heq
      cases heq
  | some place =>
      by_cases hdirectory : tree.node? place = some .directory
      · refine .inr ⟨if_pos hdirectory, ?_⟩
        intro other heq
        cases heq
        exact hdirectory
      · exact .inl ⟨place, rfl, hdirectory, if_neg hdirectory⟩

/-- Once a path is removed no file is opened by it. -/
theorem open?_remove (tree : FileTree) (path : Path) (id : Nat) :
    (tree.remove path).open? path ≠ some (.file id) := by
  intro hopen
  obtain ⟨parent, above, last, node, rfl, hsame, hup, hparent, hdirectory, hnode, hkind⟩ :=
    exists_entry?_of_open? hopen
  rcases tree.remove_cases (above ++ [last]) with
    ⟨place, hentry, hplaceNode, hremoved⟩ | ⟨hkept, hentries⟩
  · have hplace : place ≠ [] := by
      intro heq
      rw [heq] at hplaceNode
      exact hplaceNode rfl
    rw [hremoved] at hparent hdirectory hnode
    rw [node?_without tree hplace] at hdirectory hnode
    have hother : parent ≠ place := by
      intro heq
      rw [if_pos heq] at hdirectory
      cases hdirectory
    rw [if_neg hother] at hdirectory
    have hbefore := locate_of_without hplace hparent hother
    -- The entry that was taken out is the one by which the file is opened.
    have hsamePlace := hentry.symm.trans (entry?_concat hbefore hdirectory hsame hup)
    rw [if_pos (Option.some.inj hsamePlace).symm] at hnode
    cases hnode
  · rw [hkept] at hparent hdirectory hnode
    have hentry := hentries _ (entry?_concat hparent hdirectory hsame hup)
    exact hkind (Option.some.inj (hnode.symm.trans hentry))

end GpuTelemetry.Sysfs.FileTree
