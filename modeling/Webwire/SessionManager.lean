import Webwire.Json
import Webwire.Disk

/-!
# The default session manager

`DefaultSessionManager` keeps one file per session in its directory `path`, at
`filePath(key) = filepath.Join(path, key + ".wwrsess")`: `OnSessionCreated` writes the file,
`OnSessionLookup` finds it with `os.Stat` and reads it, and `OnSessionClosed` removes it.  The
file system is Linux's (`Disk`), so the hooks join paths as `path/filepath` does on Unix.

Every error of those calls is kept.  `OnSessionCreated` returns the error of the encoding or of
the write; `OnSessionLookup` returns no session when `os.Stat` reports a missing file, "Unexpected
error during file lookup" for any other error of `os.Stat`, and "Couldn't parse session file"
when the read or the decoding fails; `OnSessionClosed` returns every error of `os.Remove`.  A
failed call leaves the disk as it was.  The texts of the wrapped errors are not modelled.
`Usable` is the condition under which none of the calls fails on the path: the system reaches
the file of the key and finds no directory there.

The key is the client's: `handleSessionRestore` passes the payload of a restore frame to
`OnSessionLookup` as it came, and the session it restores keeps that key for
`OnSessionClosed`.  And `filepath.Join` cleans the path it builds: a `.` element goes, and a
`..` element takes the element before it along.  A key with a separator can therefore name the
file of another key, or a file outside the directory; on Windows `\` is a separator as well.

`NewDefaultSessionManager` settles on a directory and checks it with `os.Stat`.  When the
directory is missing it calls `os.MkdirAll`, but tests the error of `os.Stat` again, not the
one `MkdirAll` returned: so it panics whenever it had to create the directory.

## Main results

* `DefaultSessionManager.newDefaultSessionManager_spec`: the constructor returns a manager
  exactly when `os.Stat` finds the directory, and panics after asking for it to be created
  when it is missing;
* `DefaultSessionManager.onSessionLookup_onSessionCreated`: `OnSessionCreated` succeeds exactly
  when the file encodes and the key is usable; `OnSessionLookup` then finds the session, and a
  failure leaves the disk;
* `DefaultSessionManager.onSessionLookup_onSessionClosed`: after `OnSessionClosed` of a usable
  key `OnSessionLookup` finds nothing, and `OnSessionClosed` fails exactly when there was no
  file;
* `DefaultSessionManager.filePath_escapes`: the key `"../K"` names a file outside the
  directory, which `OnSessionLookup` reads and `OnSessionClosed` removes.
-/

namespace Webwire

open Filepath

/-- `SessionFile`, what a session file holds (`"c"` and `"i"` in JSON). -/
structure SessionFile where
  creation : Nat
  info : Option SessionInfo
  deriving DecidableEq, Repr

/-- A session file is made of a time and of Lean strings, and comes back from JSON as it
was. -/
instance : JsonRoundTrip SessionFile := ⟨id⟩

@[simp] theorem roundTrip_sessionFile (f : SessionFile) : JsonRoundTrip.roundTrip f = f := rfl

namespace SessionFile

variable (JF : JsonCodec SessionFile)

/-- `SessionFile.Parse`: read the file and decode it.  The text of the `encoding/json` error is
not modelled. -/
def parse (disk : Disk) (filePath : Bytes) : Except String SessionFile :=
  match disk.readFile filePath with
  | .error _ => .error "Couldn't parse session file, failed reading file: "
  | .ok contents =>
    match JF.unmarshal contents with
    | some file => .ok file
    | none => .error ""

/-- `SessionFile.WriteFile`: encode the file and write it. -/
def writeFile (sessf : SessionFile) (disk : Disk) (filePath : Bytes) : Except String Disk :=
  match JF.marshal sessf with
  | none => .error "Couldn't marshal session file: "
  | some encoded =>
    match disk.writeFile filePath encoded with
    | .error _ => .error "Couldn't write session file: "
    | .ok disk' => .ok disk'

end SessionFile

/-- `DefaultSessionManager`: the directory of the session files. -/
structure DefaultSessionManager where
  path : Bytes

/-! ## Construction -/

/-- What `NewDefaultSessionManager` asks of the process and the file system: the two results
of `filepath.Abs(filepath.Dir(os.Args[0]))`, and the disk `os.Stat` looks at. -/
structure Host where
  executableDir : Bytes × Option Error
  disk : Disk

/-- The panics of `NewDefaultSessionManager`, each with the path its `fmt.Errorf` prints; the
text of the wrapped error is not modelled. -/
inductive ManagerPanic where
  /-- The panic "Failed to get the current directory ('%s') for the default session
  manager: %s". -/
  | currentDirectory (path : Bytes)
  /-- The panic "Couldn't create default session directory ('%s'): %s". -/
  | createDirectory (path : Bytes)
  /-- The panic "Unexpected error during default session directory creation('%s'): %s". -/
  | statDirectory (path : Bytes)
  deriving DecidableEq, Repr

namespace DefaultSessionManager

/-- The directory `NewDefaultSessionManager` settles on: `sessFilesPath`, or when that is empty,
`wwrsess` in the absolute directory of the executable. -/
def sessionDir (P : Platform) (host : Host) (sessFilesPath : Bytes) : Except ManagerPanic Bytes :=
  if sessFilesPath.length < 1 then
    match host.executableDir with
    | (dir, some _) => .error (.currentDirectory dir)
    | (dir, none) => .ok (join P dir (goString "wwrsess"))
  else .ok sessFilesPath

/-- `NewDefaultSessionManager`: the directory it passes to `os.MkdirAll`, if any, and the
manager or the panic.  The code reads `if os.MkdirAll(sessFilesPath, 0640); err != nil`: what
`MkdirAll` returns is dropped, and `err` is still the error of `os.Stat`. -/
def newDefaultSessionManager (P : Platform) (host : Host) (sessFilesPath : Bytes) :
    Option Bytes × Except ManagerPanic DefaultSessionManager :=
  match sessionDir P host sessFilesPath with
  | .error p => (none, .error p)
  | .ok path =>
    let err := host.disk.stat path
    if OsErr.isNotExist err then
      (some path, if err ≠ none then .error (.createDirectory path) else .ok ⟨path⟩)
    else if err ≠ none then (none, .error (.statDirectory path))
    else (none, .ok ⟨path⟩)

/-- **`NewDefaultSessionManager` only accepts a directory that is already there.**  For every
host and argument, it returns a manager exactly when `os.Stat` finds the directory it settled
on, and the manager keeps that directory.  When the directory is missing it asks
`os.MkdirAll` to create it and then panics with "Couldn't create default session directory",
whatever `MkdirAll` did. -/
theorem newDefaultSessionManager_spec (P : Platform) (host : Host) (sessFilesPath : Bytes) :
    (∀ mng, (newDefaultSessionManager P host sessFilesPath).2 = .ok mng ↔
      ∃ path, sessionDir P host sessFilesPath = .ok path ∧ host.disk.stat path = none ∧
        mng = ⟨path⟩) ∧
    ∀ path, sessionDir P host sessFilesPath = .ok path →
      host.disk.stat path = some .notExist → newDefaultSessionManager P host sessFilesPath =
        (some path, .error (.createDirectory path)) := by
  unfold newDefaultSessionManager
  cases sessionDir P host sessFilesPath with
  | error p => simp
  | ok path =>
    cases hs : host.disk.stat path with
    | none => simpa [hs, OsErr.isNotExist] using fun _ => eq_comm
    | some e => cases e <;> simp [hs, OsErr.isNotExist]

example : newDefaultSessionManager .unix ⟨([], none), ⟨∅⟩⟩ [47, 115] =
    (some [47, 115], .error (.createDirectory [47, 115])) := rfl

/-! ## The hooks -/

variable (JF : JsonCodec SessionFile) (mng : DefaultSessionManager)

/-- `filePath`: `filepath.Join(mng.path, sessionKey+".wwrsess")`. -/
def filePath (P : Platform) (sessionKey : Bytes) : Bytes :=
  join P mng.path (sessionKey ++ goString ".wwrsess")

/-- `OnSessionCreated` for the client's session `sess`: `SessionFile.WriteFile` of its creation
time and info to the file of its key. -/
def onSessionCreated (disk : Disk) (sess : Session) : Disk × Option Error :=
  match SessionFile.writeFile JF ⟨sess.creation, sess.info⟩ disk
      (mng.filePath .unix sess.key) with
  | .error e => (disk, some (.other e))
  | .ok disk' => (disk', none)

/-- `OnSessionLookup`: no session when `os.Stat` finds no file, and otherwise the session parsed
from the file, with the key asked for.  `LastLookup` is left at its zero value. -/
def onSessionLookup (disk : Disk) (key : Bytes) : Except Error (Option Session) :=
  let err := disk.stat (mng.filePath .unix key)
  if OsErr.isNotExist err then .ok none
  else if err ≠ none then .error (.other "Unexpected error during file lookup: ")
  else
    match SessionFile.parse JF disk (mng.filePath .unix key) with
    | .error e => .error (.other ("Couldn't parse session file: " ++ e))
    | .ok file => .ok (some ⟨key, file.creation, 0, file.info⟩)

/-- `OnSessionClosed` for the client's session key: `os.Remove` of its file. -/
def onSessionClosed (disk : Disk) (sessionKey : Bytes) : Disk × Option Error :=
  match disk.remove (mng.filePath .unix sessionKey) with
  | .error _ => (disk, some (.other "Unexpected error during session destruction: "))
  | .ok disk' => (disk', none)

/-- The hooks can write, read and remove the file of `key`: the system reaches it, and finds no
directory there. -/
def Usable (disk : Disk) (key : Bytes) : Prop := disk.Accessible (mng.filePath .unix key)

instance (disk : Disk) (key : Bytes) : Decidable (mng.Usable disk key) :=
  inferInstanceAs (Decidable (disk.Accessible _))

/-! ## What each hook does -/

/-- **What `OnSessionCreated` can do**: fail, leaving the disk, when the file does not encode or
the key is not usable; or write the encoded file to the file of the key. -/
theorem onSessionCreated_cases (disk : Disk) (sess : Session) :
    ((mng.onSessionCreated JF disk sess).2 ≠ none ∧
        (mng.onSessionCreated JF disk sess).1 = disk ∧
        ∀ b, JF.marshal ⟨sess.creation, sess.info⟩ = some b → ¬mng.Usable disk sess.key) ∨
      ∃ b, JF.marshal ⟨sess.creation, sess.info⟩ = some b ∧ mng.Usable disk sess.key ∧
        mng.onSessionCreated JF disk sess =
          (⟨disk.entries.insert (.parse (mng.filePath .unix sess.key)) (.file b)⟩, none) := by
  unfold onSessionCreated SessionFile.writeFile
  cases hb : JF.marshal ⟨sess.creation, sess.info⟩ with
  | none => exact .inl ⟨by simp, rfl, by simp⟩
  | some b =>
    dsimp only
    cases hw : disk.writeFile (mng.filePath .unix sess.key) b with
    | error e =>
      refine .inl ⟨by simp, rfl, fun b' hb' hu => ?_⟩
      cases (Option.some.inj hb').symm
      rw [Disk.writeFile_of_accessible hu] at hw
      cases hw
    | ok disk' =>
      obtain ⟨hu, rfl⟩ := Disk.writeFile_eq_ok.mp hw
      exact .inr ⟨b, rfl, hu, rfl⟩

/-- **`OnSessionLookup` of a usable key**: no session when there is no file, and otherwise the
session decoded from the file, or an error when it does not decode. -/
theorem onSessionLookup_of_usable {disk : Disk} {key : Bytes} (hu : mng.Usable disk key) :
    mng.onSessionLookup JF disk key = match disk.entry (.parse (mng.filePath .unix key)) with
      | some (.file b) =>
        match JF.unmarshal b with
        | some file => .ok (some ⟨key, file.creation, 0, file.info⟩)
        | none => .error (.other "Couldn't parse session file: ")
      | _ => .ok none := by
  obtain ⟨hr, hd⟩ := hu
  unfold onSessionLookup
  simp only [Disk.stat_of_resolveErr hr]
  cases he : disk.entry (.parse (mng.filePath .unix key)) with
  | none => rfl
  | some e =>
    cases e with
    | dir => exact absurd he hd
    | file b =>
      simp only [Option.isSome_some, if_true, OsErr.isNotExist, ne_eq, not_true_eq_false,
        if_false, SessionFile.parse, Disk.readFile_of_resolveErr hr he]
      cases JF.unmarshal b <;> rfl

/-- The entry a hook writes or removes is the file of its key. -/
theorem entry_onSessionCreated_of_ne (disk : Disk) (sess : Session) {q : OsPath}
    (hq : q ≠ .parse (mng.filePath .unix sess.key)) :
    (mng.onSessionCreated JF disk sess).1.entry q = disk.entry q := by
  rcases mng.onSessionCreated_cases JF disk sess with ⟨-, h, -⟩ | ⟨b, -, -, h⟩
  · rw [h]
  · rw [h, Disk.entry_insert, if_neg hq]

theorem entry_onSessionClosed_of_ne (disk : Disk) (key : Bytes) {q : OsPath}
    (hq : q ≠ .parse (mng.filePath .unix key)) :
    (mng.onSessionClosed disk key).1.entry q = disk.entry q := by
  unfold onSessionClosed
  cases h : disk.remove (mng.filePath .unix key) with
  | error => rfl
  | ok disk' => exact (Disk.entry_of_remove h q).trans (if_neg hq)

/-- `OnSessionLookup` reads no entry but those a call on the file of its key reads. -/
theorem onSessionLookup_congr {d₁ d₂ : Disk} (key : Bytes)
    (h : ∀ q, Disk.Reads (mng.filePath .unix key) q → d₁.entry q = d₂.entry q) :
    mng.onSessionLookup JF d₁ key = mng.onSessionLookup JF d₂ key := by
  unfold onSessionLookup SessionFile.parse
  rw [Disk.stat_congr h, Disk.readFile_congr h]

/-! ## The store, key by key -/

/-- What `OnSessionCreated` stores on a usable key, `OnSessionLookup` finds: a session with the
key, the creation time and the info of the one stored, and a zero `LastLookup`. -/
theorem onSessionLookup_of_stored {disk : Disk} {sess : Session} {b : Bytes}
    (hb : JF.marshal ⟨sess.creation, sess.info⟩ = some b) (hu : mng.Usable disk sess.key) :
    mng.onSessionCreated JF disk sess =
        (⟨disk.entries.insert (.parse (mng.filePath .unix sess.key)) (.file b)⟩, none) ∧
      mng.onSessionLookup JF (mng.onSessionCreated JF disk sess).1 sess.key =
        .ok (some ⟨sess.key, sess.creation, 0, sess.info⟩) := by
  have hw := Disk.writeFile_of_accessible hu b
  have hc : mng.onSessionCreated JF disk sess =
      (⟨disk.entries.insert (.parse (mng.filePath .unix sess.key)) (.file b)⟩, none) := by
    simp only [onSessionCreated, SessionFile.writeFile, hb, hw]
  refine ⟨hc, ?_⟩
  rw [hc, mng.onSessionLookup_of_usable JF (Disk.accessible_of_writeFile hw), Disk.entry_insert,
    if_pos rfl]
  simp [JF.unmarshal_marshal _ _ hb]

/-- After `OnSessionClosed`, a key that is usable has no file. -/
theorem onSessionLookup_onSessionClosed_of_usable {disk : Disk} {key : Bytes}
    (hu : mng.Usable (mng.onSessionClosed disk key).1 key) :
    mng.onSessionLookup JF (mng.onSessionClosed disk key).1 key = .ok none := by
  rw [mng.onSessionLookup_of_usable JF hu]
  unfold onSessionClosed at hu ⊢
  cases h : disk.remove (mng.filePath .unix key) with
  | ok disk' => simp [Disk.entry_of_remove h]
  | error e =>
    rw [h] at hu
    cases he : disk.entry (.parse (mng.filePath .unix key)) with
    | none => rfl
    | some e' =>
      cases e' with
      | dir => exact absurd he hu.2
      | file => simp [Disk.remove_of_accessible hu, he] at h

theorem isName_key {key : Bytes} (hk : NoSep .unix key) :
    IsName .unix (key ++ goString ".wwrsess") := by
  have hlen : (key ++ goString ".wwrsess").length = key.length + 8 := by
    rw [List.length_append]
    rfl
  refine ⟨fun h => ?_, fun b hb => ?_, fun h => ?_, fun h => ?_⟩
  · simp [h] at hlen
  · rcases List.mem_append.mp hb with hb | hb
    · exact hk b hb
    · exact (by decide : ∀ b ∈ goString ".wwrsess", Platform.unix.isSep b = false) b hb
  all_goals rw [h] at hlen; simp at hlen

/-- The path of the session directory, as the kernel walks it. -/
def dirPath : OsPath := OsPath.parseDir (clean .unix mng.path)

/-- The file of a key without a separator is one name below the session directory. -/
theorem parse_filePath {key : Bytes} (hk : NoSep .unix key) :
    OsPath.parse (mng.filePath .unix key) =
      ⟨mng.dirPath.rooted, mng.dirPath.names ++ [key ++ goString ".wwrsess"]⟩ := by
  rw [filePath, join_name _ (isName_key hk)]
  exact OsPath.parse_childPath (clean_ne_nil _) (isName_key hk)

/-- **A hook on one key reads nothing another key's hooks write**, for keys without a
separator: the file of the other key has as many names and is another file. -/
theorem not_reads_filePath {k₁ k₂ : Bytes} (h₁ : NoSep .unix k₁) (h₂ : NoSep .unix k₂)
    (hne : k₁ ≠ k₂) :
    ¬Disk.Reads (mng.filePath .unix k₁) (.parse (mng.filePath .unix k₂)) := by
  refine Disk.not_reads ?_ fun h => hne ?_
  · rw [mng.parse_filePath h₁, mng.parse_filePath h₂]
    simp
  · rw [mng.parse_filePath h₁, mng.parse_filePath h₂] at h
    simpa using h.symm

/-- **A key with a separator reaches a file outside the session directory.**  In the directory
`/s` of a disk that also holds `/K.wwrsess`, the key `"../K"` names `/K.wwrsess`:
`OnSessionLookup("../K")` reads it as a session, and `OnSessionClosed` of that session removes
it.  The key `"./K"` names the file of `"K"`.  On Windows, where `\` is a separator too, the
key `"..\K"`, which has no `/`, names `\K.wwrsess`. -/
theorem filePath_escapes :
    let mng : DefaultSessionManager := ⟨goString "/s"⟩
    let disk : Disk :=
      ⟨[⟨⟨true, [goString "s"]⟩, .dir⟩, ⟨⟨true, [goString "K.wwrsess"]⟩, .file []⟩].toAList⟩
    mng.filePath .unix (goString "../K") = goString "/K.wwrsess" ∧
      ¬DirectChild .unix mng.path (mng.filePath .unix (goString "../K")) ∧
      mng.onSessionLookup (.only ⟨0, none⟩) disk (goString "../K") =
        .ok (some ⟨goString "../K", 0, 0, none⟩) ∧
      (mng.onSessionClosed disk (goString "../K")).2 = none ∧
      (mng.onSessionClosed disk (goString "../K")).1.entry ⟨true, [goString "K.wwrsess"]⟩ =
        none ∧
      mng.filePath .unix (goString "./K") = mng.filePath .unix (goString "K") ∧
      mng.filePath .windows (goString "..\\K") = goString "\\K.wwrsess" := by
  refine ⟨by decide, ?_, rfl, rfl, by decide, by decide, by decide⟩
  rintro ⟨name, -, h⟩
  have h : goString "/K.wwrsess" = goString "/s" ++ 47 :: name := h
  have h2 : (goString "/K.wwrsess").take 2 = goString "/s" := by
    rw [h]
    exact List.take_left' (rfl : (goString "/s").length = 2)
  exact absurd h2 (by decide)

end DefaultSessionManager
end Webwire
