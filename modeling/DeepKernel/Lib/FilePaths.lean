import DeepKernel.Lib.ShellWords

/-!
# Paths and the directories they lead to

A path is walked byte by byte: a slash enters the directory whose name stands before it. Directories
are an arbitrary type, so that `.`, `..` and links to directories are names like others. `appendPath` is
`std::filesystem::path::operator/`.
-/

set_option autoImplicit false

namespace DeepKernel.Lib

universe u

/-- The directories of a file system, and which paths can be opened for writing if their directory
exists. -/
structure DirectoryTree (Dir : Type u) where
  root : Dir
  cwd : Dir
  enter : Dir → ByteString → Option Dir
  canOpen : ByteString → Bool

namespace DirectoryTree

variable {Dir : Type u} (tree : DirectoryTree Dir)

/-- From a directory along a path, with the name that was read last. -/
def walk : Dir × ByteString → ByteString → Option (Dir × ByteString)
  | s, [] => some s
  | (dir, name), b :: path =>
      if b = 47 then
        -- slashes that follow each other count as one
        if name = [] then walk (dir, []) path
        else (tree.enter dir name).bind fun sub => walk (sub, []) path
      else walk (dir, name ++ [b]) path

/-- Where a path begins. -/
def start (path : ByteString) : Dir := if path.head? = some 47 then tree.root else tree.cwd

/-- The directory that a path is. -/
def directory (path : ByteString) : Option Dir :=
  (tree.walk (tree.start path, []) (path ++ [47])).map Prod.fst

/-- The directory and the name of a path for a file. -/
def locate (path : ByteString) : Option (Dir × ByteString) := tree.walk (tree.start path, []) path

/-- The file that is opened for writing: a directory is not. -/
def openedFile (path : ByteString) : Option (Dir × ByteString) :=
  (tree.locate path).filter fun file =>
    tree.canOpen path && !file.2.isEmpty && (tree.enter file.1 file.2).isNone

theorem walk_append (s : Dir × ByteString) (path rest : ByteString) :
    tree.walk s (path ++ rest) = (tree.walk s path).bind fun t => tree.walk t rest := by
  induction path generalizing s with
  | nil => rfl
  | cons b path ih =>
      obtain ⟨dir, name⟩ := s
      rw [List.cons_append, walk, walk]
      split_ifs
      · exact ih _
      · cases tree.enter dir name with
        | none => rfl
        | some sub => exact ih _
      · exact ih _

theorem walk_of_no_slash {path : ByteString} (h : 47 ∉ path) (dir : Dir) (name : ByteString) :
    tree.walk (dir, name) path = some (dir, name ++ path) := by
  induction path generalizing name with
  | nil => rw [walk, List.append_nil]
  | cons b path ih =>
      have hb : b ≠ 47 := fun heq => h (heq ▸ List.mem_cons_self)
      rw [walk, if_neg hb, ih fun hmem => h (List.mem_cons_of_mem _ hmem), List.append_assoc,
        List.singleton_append]

/-- Behind a slash no name has been begun. -/
theorem name_of_walk_slash {s t : Dir × ByteString} {path : ByteString}
    (h : tree.walk s (path ++ [47]) = some t) : t.2 = [] := by
  rw [walk_append] at h
  obtain ⟨⟨dir, name⟩, -, hslash⟩ := Option.bind_eq_some_iff.1 h
  rw [walk, if_pos rfl] at hslash
  split_ifs at hslash
  · cases hslash
    rfl
  · obtain ⟨sub, -, hsub⟩ := Option.bind_eq_some_iff.1 hslash
    cases hsub
    rfl

/-- Two slashes lead where one does. -/
theorem walk_slash_slash (s : Dir × ByteString) (path : ByteString) :
    tree.walk s (path ++ [47] ++ [47]) = tree.walk s (path ++ [47]) := by
  rw [walk_append]
  cases h : tree.walk s (path ++ [47]) with
  | none => rfl
  | some t =>
      obtain ⟨dir, name⟩ := t
      have hname : name = [] := tree.name_of_walk_slash h
      rw [hname]
      rfl

end DirectoryTree

/-- A path below a directory; an absolute one stays as it is. -/
def appendPath (dir file : ByteString) : ByteString :=
  if file.head? = some 47 ∨ dir = [] then file
  else if dir.getLast? = some 47 then dir ++ file
  else dir ++ [47] ++ file

theorem isLiteral_appendPath {dir file : ByteString} (h : isLiteral dir = true)
    (h' : isLiteral file = true) : isLiteral (appendPath dir file) = true := by
  rw [appendPath]
  split_ifs
  · exact h'
  · exact isLiteral_append h h'
  · exact isLiteral_append (isLiteral_append h (by decide)) h'

theorem head_cString {text : ByteString} : (cString text).head? = some 47 ↔ text.head? = some 47 := by
  cases text with
  | nil => exact Iff.rfl
  | cons b text =>
      by_cases hb : b = 0
      · subst hb
        simp [cString]
      · have hne : (b != 0) = true := bne_iff_ne.2 hb
        rw [cString, List.takeWhile_cons, if_pos hne]
        rfl

/-- A NUL in the file's part of a path cuts that part. -/
theorem cString_appendPath {dir : ByteString} (h : 0 ∉ dir) (file : ByteString) :
    cString (appendPath dir file) = appendPath dir (cString file) := by
  rw [appendPath, appendPath]
  simp only [head_cString]
  split_ifs
  · rfl
  · exact cString_append h file
  · exact cString_append (by simpa using h) file

section Join

variable {Dir : Type u} (tree : DirectoryTree Dir)

theorem walk_slash_append (s : Dir × ByteString) (path file : ByteString) :
    tree.walk s (path ++ [47] ++ file) =
      ((tree.walk s (path ++ [47])).map Prod.fst).bind fun d => tree.walk (d, []) file := by
  rw [DirectoryTree.walk_append]
  cases h : tree.walk s (path ++ [47]) with
  | none => rfl
  | some t =>
      obtain ⟨dir, name⟩ := t
      have hname : name = [] := tree.name_of_walk_slash h
      rw [hname]
      rfl

/-- A relative path is walked from the directory that it was put below. -/
theorem locate_appendPath {dir file : ByteString} (hfile : file.head? ≠ some 47) :
    tree.locate (appendPath dir file) =
      (tree.directory dir).bind fun d => tree.walk (d, []) file := by
  rw [appendPath]
  by_cases hdir : dir = []
  · rw [if_pos (.inr hdir), hdir, DirectoryTree.locate, DirectoryTree.start, if_neg hfile]
    rfl
  · have hstart : ∀ more, tree.start (dir ++ more) = tree.start dir := by
      intro more
      rw [DirectoryTree.start, DirectoryTree.start, List.head?_append_of_ne_nil dir hdir]
    rw [if_neg (not_or.2 ⟨hfile, hdir⟩), DirectoryTree.directory]
    split_ifs with hslash
    · -- the directory's path ends in a slash of its own
      obtain ⟨path, rfl⟩ := List.getLast?_eq_some_iff.1 hslash
      rw [DirectoryTree.locate, hstart, walk_slash_append, DirectoryTree.walk_slash_slash]
    · rw [DirectoryTree.locate, List.append_assoc, hstart, ← List.append_assoc, walk_slash_append]

theorem locate_appendPath_absolute {dir file : ByteString} (hfile : file.head? = some 47) :
    tree.locate (appendPath dir file) = tree.walk (tree.root, []) file := by
  rw [appendPath, if_pos (.inl hfile), DirectoryTree.locate, DirectoryTree.start, if_pos hfile]

end Join

end DeepKernel.Lib
