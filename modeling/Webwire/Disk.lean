import Webwire.Filepath
import Mathlib.Data.List.AList

/-!
# The file system, as Linux answers the session manager

The session manager makes four calls on the file system: `os.Stat`, `ioutil.ReadFile`,
`ioutil.WriteFile` and `os.Remove`.  `Disk` is what they see, and each call returns the error
Linux gives, or its result.

The kernel reads a path as a list of names, from the root or from the working directory
(`OsPath.parse`), and the disk is a finite map from such paths to entries: a file with its
contents, or a directory.  Every call first resolves its path (`Disk.resolveErr`).  Go refuses
a path with a NUL byte before any system call (`EINVAL`).  The kernel refuses a path that does
not fit in `PATH_MAX` bytes with its terminating NUL (`ENAMETOOLONG`), and then walks it
(`link_path_walk`): each name is looked up in the directory before it, where a name longer than
`NAME_MAX` is refused (`ENAMETOOLONG`), and each name but the last must be there (`ENOENT`) and
be a directory (`ENOTDIR`).  The call then acts on the last name: `stat` finds it or not; `open`
for reading or writing refuses a directory (`EISDIR`), and for writing creates or truncates a
file; `os.Remove` unlinks a file, and removes a directory only when it is empty (`ENOTEMPTY`).

Left out: permissions (`EACCES`), symbolic links, a full disk and the other I/O errors of an
open file.  A relative path is read from the working directory and is not related to any
rooted one: a `..` at its start is a name like another.

## Main results

* `Disk.resolveErr_congr`, `Disk.accessible_congr`: a path resolves alike on two disks that
  agree on the entries a call on it reads (`Disk.Reads`), its own and those of the paths
  shorter than it;
* `Disk.writeFile_eq_ok`, `Disk.remove_of_accessible`: when writing and removing succeed, and
  what they do;
* `Disk.entry_of_writeFile`, `Disk.entry_of_remove`: they change the entry of their path and no
  other.
-/

namespace Webwire

open Filepath

/-- A path as the kernel walks it: from the root or from the working directory, through the
names in order. -/
structure OsPath where
  rooted : Bool
  names : List Bytes
  deriving DecidableEq, Repr

namespace OsPath

/-- How the kernel reads a path: the names between `/`s, where the empty ones, of repeated
separators, are skipped. -/
def parse (path : Bytes) : OsPath :=
  ⟨rootedPath .unix path, (path.splitOnP Platform.unix.isSep).filter (· ≠ [])⟩

/-- The path of a clean directory: `.` is the working directory, with no name. -/
def parseDir (dir : Bytes) : OsPath := if dir = [dot] then ⟨false, []⟩ else parse dir

/-- The entry `n` of the directory `dir` is one name below it. -/
theorem parse_childPath {dir n : Bytes} (hd : dir ≠ []) (hn : IsName .unix n) :
    parse (childPath .unix dir n) = ⟨(parseDir dir).rooted, (parseDir dir).names ++ [n]⟩ := by
  unfold childPath parseDir
  split_ifs with h₁ h₂
  · simp [parse, hn.rootedPath, hn.splitOnP, hn.1]
  · subst h₂
    simp [parse, rootedPath, Platform.separator, Platform.isSep, List.splitOnP_cons, hn.splitOnP,
      hn.1]
  · have hr : rootedPath .unix (dir ++ Platform.separator .unix :: n) = rootedPath .unix dir := by
      obtain ⟨x, d, rfl⟩ := List.exists_cons_of_ne_nil hd
      rfl
    simp [parse, hr, splitOnP_append_cons _ (Platform.isSep_separator .unix), hn.splitOnP, hn.1]

end OsPath

/-- An entry of the file system. -/
inductive Entry where
  | file (contents : Bytes)
  | dir
  deriving DecidableEq, Repr

/-- The errors the calls of the session manager meet. -/
inductive OsErr where
  /-- `EINVAL`: Go's `syscall.ByteSliceFromString` refuses a path with a NUL byte. -/
  | invalid
  /-- `ENAMETOOLONG`: a path longer than `PATH_MAX`, or a name longer than `NAME_MAX`. -/
  | nameTooLong
  /-- `ENOENT`. -/
  | notExist
  /-- `ENOTDIR`: a name on the way is a file. -/
  | notDir
  /-- `EISDIR`: reading or writing a directory. -/
  | isDir
  /-- `ENOTEMPTY`: removing a directory with entries. -/
  | notEmpty
  deriving DecidableEq, Repr

/-- `os.IsNotExist`, of an error or of `nil`. -/
def OsErr.isNotExist : Option OsErr → Bool
  | some .notExist => true
  | _ => false

/-- Linux's `NAME_MAX`. -/
def nameMax : Nat := 255

/-- Linux's `PATH_MAX`, which counts the terminating NUL. -/
def pathMax : Nat := 4096

/-- The file system: the entry at each of finitely many paths. -/
structure Disk where
  entries : AList (fun _ : OsPath => Entry)

namespace Disk

/-- The entry at a path. -/
def entry (disk : Disk) (p : OsPath) : Option Entry := disk.entries.lookup p

/-- The walk of the names after the directory `pre`: every name is looked up where a name
longer than `NAME_MAX` is refused, and every name but the last must be a directory. -/
def walk (disk : Disk) (rooted : Bool) : List Bytes → List Bytes → Option OsErr
  | _, [] => none
  | _, [name] => if nameMax < name.length then some .nameTooLong else none
  | pre, c :: d :: cs =>
    if nameMax < c.length then some .nameTooLong
    else match disk.entry ⟨rooted, pre ++ [c]⟩ with
      | some .dir => disk.walk rooted (pre ++ [c]) (d :: cs)
      | some (.file _) => some .notDir
      | none => some .notExist

/-- The error of resolving `path`, before the call acts on its last name. -/
def resolveErr (disk : Disk) (path : Bytes) : Option OsErr :=
  if (0 : UInt8) ∈ path then some .invalid
  else if pathMax ≤ path.length then some .nameTooLong
  else disk.walk (OsPath.parse path).rooted [] (OsPath.parse path).names

/-- `os.Stat`: `none` when it finds the path. -/
def stat (disk : Disk) (path : Bytes) : Option OsErr :=
  match disk.resolveErr path with
  | some e => some e
  | none => if (disk.entry (.parse path)).isSome then none else some .notExist

/-- `ioutil.ReadFile`: `open` for reading finds a directory too, and its `read` fails. -/
def readFile (disk : Disk) (path : Bytes) : Except OsErr Bytes :=
  match disk.resolveErr path, disk.entry (.parse path) with
  | some e, _ => .error e
  | none, some (.file contents) => .ok contents
  | none, some .dir => .error .isDir
  | none, none => .error .notExist

/-- `ioutil.WriteFile`: `open` with `O_WRONLY|O_CREATE|O_TRUNC`, then the write. -/
def writeFile (disk : Disk) (path contents : Bytes) : Except OsErr Disk :=
  match disk.resolveErr path, disk.entry (.parse path) with
  | some e, _ => .error e
  | none, some .dir => .error .isDir
  | none, _ => .ok ⟨disk.entries.insert (.parse path) (.file contents)⟩

/-- Whether the directory at `p` holds an entry. -/
def hasEntries (disk : Disk) (p : OsPath) : Bool :=
  disk.entries.keys.any fun q =>
    q.rooted == p.rooted && q.names.dropLast == p.names && !q.names.isEmpty

/-- `os.Remove`: `unlink`, and when that fails, `rmdir`.  Of the two errors it returns the one of
`rmdir` unless that is `ENOTDIR`; both are `ENOENT` for a missing path. -/
def remove (disk : Disk) (path : Bytes) : Except OsErr Disk :=
  match disk.resolveErr path, disk.entry (.parse path) with
  | some e, _ => .error e
  | none, some (.file _) => .ok ⟨disk.entries.erase (.parse path)⟩
  | none, some .dir =>
    if disk.hasEntries (.parse path) then .error .notEmpty
    else .ok ⟨disk.entries.erase (.parse path)⟩
  | none, none => .error .notExist

/-- The system reaches the last name of `path` and finds no directory there: a file at `path`
can be written, read and removed. -/
def Accessible (disk : Disk) (path : Bytes) : Prop :=
  disk.resolveErr path = none ∧ disk.entry (.parse path) ≠ some .dir

instance (disk : Disk) (path : Bytes) : Decidable (disk.Accessible path) :=
  inferInstanceAs (Decidable (_ ∧ _))

/-! ## What each call does -/

theorem entry_insert (disk : Disk) (p q : OsPath) (e : Entry) :
    (⟨disk.entries.insert p e⟩ : Disk).entry q = if q = p then some e else disk.entry q := by
  split_ifs with h
  · subst h
    exact AList.lookup_insert _
  · exact AList.lookup_insert_ne h

theorem entry_erase (disk : Disk) (p q : OsPath) :
    (⟨disk.entries.erase p⟩ : Disk).entry q = if q = p then none else disk.entry q := by
  split_ifs with h
  · subst h
    exact AList.lookup_erase _ _
  · exact AList.lookup_erase_ne h

/-- **Writing succeeds exactly on an accessible path**, and puts the file there. -/
theorem writeFile_eq_ok {disk disk' : Disk} {path contents : Bytes} :
    disk.writeFile path contents = .ok disk' ↔
      disk.Accessible path ∧
        disk' = ⟨disk.entries.insert (.parse path) (.file contents)⟩ := by
  unfold writeFile Accessible
  cases hr : disk.resolveErr path with
  | some e => simp
  | none =>
    cases he : disk.entry (.parse path) with
    | none => simp [eq_comm]
    | some e => cases e <;> simp [eq_comm]

theorem writeFile_of_accessible {disk : Disk} {path : Bytes} (h : disk.Accessible path)
    (contents : Bytes) :
    disk.writeFile path contents = .ok ⟨disk.entries.insert (.parse path) (.file contents)⟩ :=
  writeFile_eq_ok.mpr ⟨h, rfl⟩

/-- **Removing an accessible path** removes the file there, and fails when there is none. -/
theorem remove_of_accessible {disk : Disk} {path : Bytes} (h : disk.Accessible path) :
    disk.remove path = match disk.entry (.parse path) with
      | some _ => .ok ⟨disk.entries.erase (.parse path)⟩
      | none => .error .notExist := by
  obtain ⟨hr, hd⟩ := h
  unfold remove
  rw [hr]
  cases he : disk.entry (.parse path) with
  | none => rfl
  | some e => cases e with
    | file => rfl
    | dir => exact absurd he hd

theorem stat_of_resolveErr {disk : Disk} {path : Bytes} (h : disk.resolveErr path = none) :
    disk.stat path = if (disk.entry (.parse path)).isSome then none else some .notExist := by
  rw [stat, h]

theorem readFile_of_resolveErr {disk : Disk} {path : Bytes} (h : disk.resolveErr path = none)
    {contents : Bytes} (he : disk.entry (.parse path) = some (.file contents)) :
    disk.readFile path = .ok contents := by
  rw [readFile, h, he]

theorem entry_of_writeFile {disk disk' : Disk} {path contents : Bytes}
    (h : disk.writeFile path contents = .ok disk') (q : OsPath) :
    disk'.entry q = if q = .parse path then some (.file contents) else disk.entry q := by
  rw [(writeFile_eq_ok.mp h).2, entry_insert]

theorem eq_erase_of_remove {disk disk' : Disk} {path : Bytes} (h : disk.remove path = .ok disk') :
    disk' = ⟨disk.entries.erase (.parse path)⟩ := by
  unfold remove at h
  split at h <;> (try split at h) <;> simp only [Except.ok.injEq, reduceCtorEq] at h
  all_goals exact h.symm

theorem entry_of_remove {disk disk' : Disk} {path : Bytes} (h : disk.remove path = .ok disk')
    (q : OsPath) : disk'.entry q = if q = .parse path then none else disk.entry q := by
  rw [eq_erase_of_remove h, entry_erase]

/-! ## What a call reads -/

theorem walk_congr {d₁ d₂ : Disk} {rooted : Bool} {n : Nat}
    (h : ∀ q : List Bytes, q.length < n →
      d₁.entry ⟨rooted, q⟩ = d₂.entry ⟨rooted, q⟩) :
    ∀ pre names : List Bytes, pre.length + names.length ≤ n →
      d₁.walk rooted pre names = d₂.walk rooted pre names
  | _, [], _ => rfl
  | _, [_], _ => rfl
  | pre, c :: d :: cs, hl => by
    simp only [List.length_cons] at hl
    have hc : d₁.entry ⟨rooted, pre ++ [c]⟩ = d₂.entry ⟨rooted, pre ++ [c]⟩ :=
      h _ (by simp only [List.length_append, List.length_cons, List.length_nil]; omega)
    have ih := walk_congr h (pre ++ [c]) (d :: cs)
      (by simp only [List.length_append, List.length_cons, List.length_nil]; omega)
    simp only [walk, hc, ih]

/-- **A path resolves alike on two disks that agree on the shorter paths from its start**,
among which are the directories of its walk. -/
theorem resolveErr_congr {d₁ d₂ : Disk} {path : Bytes}
    (h : ∀ q : List Bytes, q.length < (OsPath.parse path).names.length →
      d₁.entry ⟨(OsPath.parse path).rooted, q⟩ =
        d₂.entry ⟨(OsPath.parse path).rooted, q⟩) :
    d₁.resolveErr path = d₂.resolveErr path := by
  unfold resolveErr
  rw [walk_congr h [] _ (by simp)]

/-- The entries a call on `path` reads: its own, and those of the shorter paths from the same
start. -/
def Reads (path : Bytes) (q : OsPath) : Prop :=
  q = .parse path ∨
    q.rooted = (OsPath.parse path).rooted ∧ q.names.length < (OsPath.parse path).names.length

section Congr

variable {d₁ d₂ : Disk} {path : Bytes} (h : ∀ q, Reads path q → d₁.entry q = d₂.entry q)
include h

theorem accessible_congr : d₁.Accessible path ↔ d₂.Accessible path := by
  rw [Accessible, Accessible, resolveErr_congr fun q hq => h _ (.inr ⟨rfl, hq⟩), h _ (.inl rfl)]

theorem stat_congr : d₁.stat path = d₂.stat path := by
  rw [stat, stat, resolveErr_congr fun q hq => h _ (.inr ⟨rfl, hq⟩), h _ (.inl rfl)]

theorem readFile_congr : d₁.readFile path = d₂.readFile path := by
  rw [readFile, readFile, resolveErr_congr fun q hq => h _ (.inr ⟨rfl, hq⟩), h _ (.inl rfl)]

end Congr

theorem ne_parse_of_length_lt {path : Bytes} {r : Bool} {q : List Bytes}
    (hq : q.length < (OsPath.parse path).names.length) : (⟨r, q⟩ : OsPath) ≠ .parse path :=
  fun he => by rw [← he] at hq; exact lt_irrefl _ hq

/-- A call on `path` reads no entry of another path with as many names. -/
theorem not_reads {path : Bytes} {q : OsPath}
    (hl : q.names.length = (OsPath.parse path).names.length) (hq : q ≠ .parse path) :
    ¬Reads path q := by
  rintro (h | ⟨-, h⟩)
  · exact hq h
  · omega

/-- A path resolves as it did once a file is written or removed at it. -/
theorem resolveErr_of_update {disk disk' : Disk} {path : Bytes}
    (h : ∀ q, q ≠ .parse path → disk'.entry q = disk.entry q) :
    disk'.resolveErr path = disk.resolveErr path :=
  resolveErr_congr fun _ hq => h _ (ne_parse_of_length_lt hq)

/-- A file written at `path` leaves it accessible. -/
theorem accessible_of_writeFile {disk disk' : Disk} {path contents : Bytes}
    (h : disk.writeFile path contents = .ok disk') : disk'.Accessible path := by
  have hr : disk'.resolveErr path = disk.resolveErr path :=
    resolveErr_of_update fun q hq => by rw [entry_of_writeFile h, if_neg hq]
  exact ⟨hr.trans (writeFile_eq_ok.mp h).1.1, by simp [entry_of_writeFile h]⟩

end Disk
end Webwire
