import ClassSynthesis.Proofs.Host.FileChanges
import ClassSynthesis.Proofs.Host.PathOrder

/-!
# What Stands Beneath a Directory

The files beneath a directory are reported by paths: the path of the directory and behind it the
names on the way, joined one by one. Such a path leads to the file (`Reaches.foldl_join`), but the
system follows it only if it is not too long (`locate_eq_ok_iff_reaches`). It has the components
of the directory's path and then the names (`components_foldl_join`), so different files have
paths that are not the same (`beneath_distinct`).

All this rests on the tree's promise that everything in it has a name that the system admits
(`FileTree.isName_of_get?`).
-/

namespace ClassSynthesis

/-! ## Slashes -/

namespace Path

/-- A number of slashes. -/
def slashes (count : Nat) : String := String.join (List.replicate count "/")

theorem toList_slashes (count : Nat) : (slashes count).toList = List.replicate count '/' := by
  induction count with
  | zero => rfl
  | succ count ih =>
    rw [slashes, List.replicate_succ, String.join_cons, String.toList_append]
    exact congrArg ('/' :: ·) ih

theorem utf8ByteSize_slashes (count : Nat) : (slashes count).utf8ByteSize = count := by
  induction count with
  | zero => rfl
  | succ count ih =>
    have hslash : "/".utf8ByteSize = 1 := rfl
    rw [slashes] at ih ⊢
    rw [List.replicate_succ, String.join_cons, String.utf8ByteSize_append, ih, hslash]
    omega

/-- Slashes behind a text add empty segments. -/
theorem pieces_append_slashes (cs : List Char) (count : Nat) :
    Text.pieces '/' (cs ++ List.replicate count '/') =
      Text.pieces '/' cs ++ List.replicate count [] := by
  induction count generalizing cs with
  | zero => simp
  | succ count ih =>
    have hfirst := ih (cs ++ ['/'])
    rw [Text.pieces_append_cons, List.append_assoc, List.append_assoc] at hfirst
    exact hfirst

end Path

namespace FileTree

variable {tree : FileTree} {location directory : Location} {name path : String}
  {names : List String} {entry : FileEntry}

namespace IsName

/-- A name stands for itself in a path. -/
theorem ofSegment? (h : IsName name) :
    Path.Component.ofSegment? name.toList = some (.name name) :=
  Path.ofSegment?_eq_name_iff.2 ⟨rfl, h.1, h.2.1, h.2.2.1⟩

theorem slash (h : IsName name) : '/' ∉ name.toList := h.2.2.2.1

theorem nul (h : IsName name) : '\x00' ∉ name.toList := h.2.2.2.2.1

theorem short (h : IsName name) : name.utf8ByteSize ≤ maxNameBytes := h.2.2.2.2.2

theorem isAbsolute (h : IsName name) : Path.isAbsolute name = false :=
  Path.isAbsolute_eq_false_iff.2 fun hhead => h.slash (List.mem_of_mem_head? hhead)

/-- Between a base and a name there is one slash, that of the base if it ends with one. -/
theorem join_eq (h : IsName name) (hpath : path ≠ "") :
    Path.join path name =
      if path.toList.getLast? = some '/' then path ++ name else path ++ "/" ++ name := by
  rw [Path.join, h.isAbsolute, if_neg Bool.false_ne_true]
  simp [hpath]

theorem join_ne_empty (h : IsName name) (hpath : path ≠ "") : Path.join path name ≠ "" := by
  rw [h.join_eq hpath]
  split <;> simp [hpath]

end IsName

/-! ## Locations -/

/-- Whatever exists stands in a directory. -/
theorem get?_of_concat (h : (tree.get? (directory ++ [name])).isSome) :
    tree.get? directory = some .directory := by
  obtain ⟨entry, hentry⟩ := Option.isSome_iff_exists.1 h
  rw [get?_eq_some_iff tree entry (by simp)] at hentry
  have hparent := (tree.rooted _ _ hentry).2
  rw [List.dropLast_concat] at hparent
  by_cases hroot : directory = []
  · rw [hroot]
    rfl
  · rw [get?_eq_some_iff tree .directory hroot]
    exact hparent.resolve_left hroot

/-- All names on the way to something are names. -/
theorem isName_of_get? (hsome : (tree.get? location).isSome) (hname : name ∈ location) :
    IsName name := by
  obtain ⟨entry, hentry⟩ := Option.isSome_iff_exists.1 hsome
  rw [get?_eq_some_iff tree entry (List.ne_nil_of_mem hname)] at hentry
  exact tree.named _ _ hentry name hname

/-! ## Paths -/

/-- Behind a base, a name is the last segment. If the base ends with a slash, its last segment is
empty and the name takes its place. -/
theorem exists_pieces_join (hpath : path ≠ "") (hname : IsName name) :
    ∃ front, Text.pieces '/' (Path.join path name).toList = front ++ [name.toList] ∧
      (Text.pieces '/' path.toList = front ∨ Text.pieces '/' path.toList = front ++ [[]]) := by
  have hpieces : ∀ cs : List Char, Text.pieces '/' (cs ++ '/' :: name.toList) =
      Text.pieces '/' cs ++ [name.toList] := by
    intro cs
    rw [Text.pieces_append_cons, Text.pieces_of_not_mem hname.slash]
  rw [hname.join_eq hpath]
  by_cases hslash : path.toList.getLast? = some '/'
  · obtain ⟨cs, hcs⟩ := List.getLast?_eq_some_iff.1 hslash
    refine ⟨Text.pieces '/' cs, ?_, .inr ?_⟩
    · rw [if_pos hslash, String.toList_append, hcs, List.append_assoc]
      exact hpieces cs
    · rw [hcs, Text.pieces_append_cons]
      rfl
  · refine ⟨Text.pieces '/' path.toList, ?_, .inl rfl⟩
    rw [if_neg hslash, String.toList_append, String.toList_append,
      List.append_assoc]
    exact hpieces path.toList

/-- The path leads to the location, if only the system follows paths of its length. -/
structure Reaches (tree : FileTree) (path : String) (location : Location) : Prop where
  nul : '\x00' ∉ path.toList
  nonempty : path ≠ ""
  follow : tree.follow (Text.pieces '/' path.toList) = .ok location

/-- What keeps the system from following a path that leads somewhere is its length. -/
theorem locate_eq_ok_iff_reaches :
    tree.locate path = .ok location ↔
      tree.Reaches path location ∧ path.utf8ByteSize ≤ maxPathBytes := by
  rw [locate_eq_ok_iff]
  constructor
  · rintro ⟨parts, hparts, hfollow⟩
    obtain ⟨hnul, hempty, hsize, rfl⟩ := segments_eq_ok_iff.1 hparts
    exact ⟨⟨hnul, hempty, hfollow⟩, hsize⟩
  · rintro ⟨⟨hnul, hempty, hfollow⟩, hsize⟩
    exact ⟨_, segments_eq_ok_iff.2 ⟨hnul, hempty, hsize, rfl⟩, hfollow⟩

/-- A path that is too long leads nowhere. -/
theorem not_isFile_of_long (h : maxPathBytes < path.utf8ByteSize) :
    tree.isFile path = false ∧ tree.isDirectory path = false := by
  rw [isFile, isDirectory, resolve?]
  cases hlocate : tree.locate path with
  | error e => exact ⟨rfl, rfl⟩
  | ok location =>
    have hsize := (locate_eq_ok_iff_reaches.1 hlocate).2
    omega

namespace Reaches

/-- Slashes behind the path to a directory lead nowhere else. -/
theorem slashes (h : tree.Reaches path location)
    (hdirectory : tree.get? location = some .directory) (count : Nat) :
    tree.Reaches (path ++ Path.slashes count) location where
  nul := by simp [Path.toList_slashes, h.nul]
  nonempty := by simp [h.nonempty]
  follow := by
    rw [String.toList_append, Path.toList_slashes, Path.pieces_append_slashes]
    apply follow_append_empties h.follow hdirectory
    intro segment hsegment
    exact List.eq_of_mem_replicate hsegment

theorem join (h : tree.Reaches path directory) (hname : IsName name)
    (hsome : (tree.get? (directory ++ [name])).isSome) :
    tree.Reaches (Path.join path name) (directory ++ [name]) where
  nul := by
    rw [hname.join_eq h.nonempty]
    split <;> simp [h.nul, hname.nul]
  nonempty := hname.join_ne_empty h.nonempty
  follow := by
    have hdirectory := get?_of_concat hsome
    obtain ⟨front, hjoin, hpath⟩ := exists_pieces_join h.nonempty hname
    -- An empty segment at the end of the base leads from a directory to itself.
    have hfront : tree.follow front = .ok directory := by
      rcases hpath with hpath | hpath
      · rw [← hpath]
        exact h.follow
      · have hfollow := h.follow
        rw [hpath, follow_concat_eq_ok_iff] at hfollow
        obtain ⟨before, hbefore, hdescend⟩ := hfollow
        obtain ⟨-, rfl⟩ := descend_eq_ok_iff.1 hdescend
        exact hbefore
    rw [hjoin, follow_concat_eq_ok_iff]
    refine ⟨directory, hfront, ?_⟩
    rw [descend_eq_ok_iff, hname.ofSegment?]
    exact ⟨hdirectory, hname.short, hsome, rfl⟩

/-- The names on the way from a directory, joined to its path, lead where they lead from it. -/
theorem foldl_join (h : tree.Reaches path directory)
    (hsome : (tree.get? (directory ++ names)).isSome) :
    tree.Reaches (names.foldl Path.join path) (directory ++ names) := by
  induction names using List.reverseRecOn with
  | nil => rwa [List.append_nil]
  | append_singleton names name ih =>
    -- The directory that the last name stands in is reached by the names before.
    rw [← List.append_assoc] at hsome ⊢
    rw [List.foldl_append]
    have hbefore := get?_of_concat hsome
    have hname : IsName name := isName_of_get? hsome (by simp)
    exact (ih (by rw [hbefore]; rfl)).join hname hsome

end Reaches

/-- Names joined to a path are its last components. -/
theorem components_foldl_join (hpath : path ≠ "") (hnames : ∀ name ∈ names, IsName name) :
    Path.components (names.foldl Path.join path) = Path.components path ++ names.map .name := by
  induction names generalizing path with
  | nil => simp
  | cons name rest ih =>
    obtain ⟨hname, hrest⟩ := List.forall_mem_cons.1 hnames
    have hone : Path.segmentComponents name.toList = [.name name] := by
      rw [Path.segmentComponents, Text.pieces_of_not_mem hname.slash]
      simp [hname.ofSegment?]
    rw [List.foldl_cons, ih (hname.join_ne_empty hpath) hrest,
      Path.components_join hpath hname.isAbsolute, hone]
    simp

/-! ## Searching -/

theorem namesBeneath?_eq_some_iff :
    namesBeneath? directory location = some names ↔ location = directory ++ names := by
  unfold namesBeneath?
  split
  next hprefix =>
    obtain ⟨rest, rfl⟩ := List.isPrefixOf_iff_prefix.1 hprefix
    simp
  next hprefix =>
    apply iff_of_false nofun
    rintro rfl
    exact hprefix (List.isPrefixOf_iff_prefix.2 (List.prefix_append directory names))

theorem mem_beneath {found : String} :
    (found, entry) ∈ tree.beneath path directory ↔
      ∃ names, (directory ++ names, entry) ∈ tree.entries ∧ found = names.foldl Path.join path := by
  simp only [beneath, List.mem_filterMap, Option.map_eq_some_iff, namesBeneath?_eq_some_iff,
    Prod.exists, Prod.mk.injEq]
  constructor
  · rintro ⟨location, listed, hlisted, names, rfl, rfl, rfl⟩
    exact ⟨names, hlisted, rfl⟩
  · rintro ⟨names, hlisted, rfl⟩
    exact ⟨directory ++ names, entry, hlisted, names, rfl, rfl, rfl⟩

/-- What stands at different places beneath a directory has paths that are not the same. -/
theorem beneath_distinct (hpath : path ≠ "") :
    (tree.beneath path directory).Pairwise fun a b => Path.same a.1 b.1 = false := by
  have hdistinct : tree.entries.Pairwise fun a b => a.1 ≠ b.1 := List.pairwise_map.1 tree.distinct
  have hboth := hdistinct.imp_of_mem fun {a b} ha hb hab => And.intro hab (And.intro ha hb)
  apply hboth.filterMap
  rintro ⟨location, entry⟩ ⟨location', entry'⟩ ⟨hne, hlisted, hlisted'⟩ found hfound found' hfound'
  simp only [Option.map_eq_some_iff, namesBeneath?_eq_some_iff] at hfound hfound'
  obtain ⟨names, rfl, rfl⟩ := hfound
  obtain ⟨names', rfl, rfl⟩ := hfound'
  have hwell : ∀ {way : List String} {entry : FileEntry}, (directory ++ way, entry) ∈ tree.entries →
      ∀ name ∈ way, IsName name :=
    fun h name hname => tree.named _ _ h name (List.mem_append_right _ hname)
  rw [Path.same_eq_false_iff, components_foldl_join hpath (hwell hlisted),
    components_foldl_join hpath (hwell hlisted')]
  -- The same components would be the same names, and so the same place.
  intro hsame
  have hequal := (List.map_inj_right fun _ _ => Path.Component.name.inj).1
    (List.append_cancel_left hsame)
  exact hne (congrArg (directory ++ ·) hequal)

/-- The tree lists what stands below its root. -/
theorem get?_eq_file_iff {content : ByteArray} :
    tree.get? location = some (.file content) ↔ (location, .file content) ∈ tree.entries := by
  by_cases hroot : location = []
  · subst hroot
    exact iff_of_false nofun fun h => (tree.rooted _ _ h).1 rfl
  · exact get?_eq_some_iff tree _ hroot

/-- The files among what stands beneath a directory are those that the tree has there. -/
theorem mem_map_filter_beneath {file : String} :
    file ∈ ((tree.beneath path directory).filter (·.2 ≠ .directory)).map Prod.fst ↔
      ∃ names content, tree.get? (directory ++ names) = some (.file content) ∧
        file = names.foldl Path.join path := by
  simp only [List.mem_map, List.mem_filter, decide_eq_true_eq, get?_eq_file_iff]
  constructor
  · rintro ⟨⟨found, entry⟩, ⟨hfound, hfile⟩, rfl⟩
    obtain ⟨names, hlisted, rfl⟩ := mem_beneath.1 hfound
    cases entry with
    | directory => exact absurd rfl hfile
    | file content => exact ⟨names, content, hlisted, rfl⟩
  · rintro ⟨names, content, hlisted, rfl⟩
    exact ⟨⟨_, .file content⟩, ⟨mem_beneath.2 ⟨names, hlisted, rfl⟩, nofun⟩, rfl⟩

/-- A directory is searched unless the path of a directory beneath it is too long. The search finds
the path of every file beneath it, and no two paths that are the same. -/
theorem filesBeneath_spec (hlocate : tree.locate path = .ok directory) :
    match tree.filesBeneath path with
    | .ok found =>
      (∀ names, tree.get? (directory ++ names) = some .directory →
        (names.foldl Path.join path).utf8ByteSize ≤ maxPathBytes) ∧
      (∀ file, file ∈ found ↔ ∃ names content,
        tree.get? (directory ++ names) = some (.file content) ∧
          file = names.foldl Path.join path) ∧
      found.Pairwise fun a b => Path.same a b = false
    | .error e =>
      ∃ names, tree.get? (directory ++ names) = some .directory ∧
        maxPathBytes < (names.foldl Path.join path).utf8ByteSize ∧
        e = ⟨names.foldl Path.join path, .nameTooLong⟩ := by
  obtain ⟨hreaches, hsize⟩ := locate_eq_ok_iff_reaches.1 hlocate
  rw [filesBeneath, hlocate]
  dsimp only
  cases hfind : (tree.beneath path directory).find? fun e =>
      e.2 = .directory ∧ e.1.utf8ByteSize > maxPathBytes with
  | some unreadable =>
    obtain ⟨found, entry⟩ := unreadable
    have hunreadable := List.find?_some hfind
    simp only [decide_eq_true_eq] at hunreadable
    obtain ⟨rfl, hlong⟩ := hunreadable
    obtain ⟨names, hlisted, rfl⟩ := mem_beneath.1 (List.mem_of_find?_eq_some hfind)
    refine ⟨names, ?_, hlong, rfl⟩
    exact (get?_eq_some_iff tree _ (tree.rooted _ _ hlisted).1).2 hlisted
  | none =>
    simp only [List.find?_eq_none, decide_eq_true_eq, not_and, Nat.not_lt] at hfind
    refine ⟨?_, ?_, ?_⟩
    · intro names hdirectory
      by_cases hroot : directory ++ names = []
      · -- The root is not listed; its path is the one that was followed.
        obtain ⟨-, rfl⟩ := List.append_eq_nil_iff.1 hroot
        exact hsize
      · rw [get?_eq_some_iff tree _ hroot] at hdirectory
        exact hfind _ (mem_beneath.2 ⟨names, hdirectory, rfl⟩) rfl
    · exact fun file => mem_map_filter_beneath
    · exact List.pairwise_map.2 ((beneath_distinct hreaches.nonempty).filter _)

/-- The path is that of a model file beneath the directory that a path leads to: behind that path
come the names on the way to a file, and the last of them is that of a model. -/
def IsModelBeneath (tree : FileTree) (path file : String) : Prop :=
  ∃ directory names name content, tree.locate path = .ok directory ∧
    tree.get? (directory ++ (names ++ [name])) = some (.file content) ∧
    file = (names ++ [name]).foldl Path.join path ∧
    Path.extensionOf? name = some "json" ∧ name ≠ projectFileName

/-- Whether a file found in a directory is a model file depends on its name. -/
theorem isModelPath_foldl_join (hpath : path ≠ "") (hnames : ∀ n ∈ names ++ [name], IsName n) :
    isModelPath ((names ++ [name]).foldl Path.join path) = true ↔
      Path.extensionOf? name = some "json" ∧ name ≠ projectFileName := by
  have hname : Path.fileName? ((names ++ [name]).foldl Path.join path) = some name := by
    rw [Path.fileName?, components_foldl_join hpath hnames]
    simp
  rw [isModelPath, Path.extension?, hname]
  simp

end FileTree

end ClassSynthesis
