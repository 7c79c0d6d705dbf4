import Webwire.Client.Handle

/-!
# The session mirror over a run of the reader

The client's reader hands each frame to `handleMessage`, in the order received.  What the
frames do to the session mirror is said by `sessionUpdate`, frame by frame and without
reference to `handleMessage`: a `SessionCreated` frame whose body decodes sets the mirror to
that session, a `SessionClosed` frame clears it, and every other frame leaves it.

`readFrames_mirror` is the law over a whole run: when no frame makes the reader panic, the
mirror at the end is the update of the *last* frame that has one (the initial mirror if none
has), the session hooks are called once per such frame and in the same order, and each hook
sees the mirror already updated.  `isSome_readFrames_iff` says which runs those are: the ones
whose every frame reaches as far as its case slices, within its length for a payload and
within its capacity for the identifier of a typed failure.  A truncated frame ends the run
(`readFrames_truncated_signal`): the reader panics, and the frames after it are never read.

The reader loop (`client.go`) is not under `src/`; `readFrames` follows §4.7, "decodes one frame
at a time and dispatches by tag".
-/

namespace Webwire
namespace Client

variable (T : MsgTags) (JS : JsonCodec Session) (JR : JsonCodec ReqErr)

/-- Modelled from the spec: the reader task (`client.go`) is not under `src/`.  It hands the
frames to `handleMessage` in order; a panic ends it. -/
def readFrames (clt : Client) : List Slice → Option (Client × List Effect)
  | [] => some (clt, [])
  | m :: ms => do
    let (c₁, e₁) ← handleMessage T JS JR clt m
    let (c₂, e₂) ← readFrames c₁ ms
    pure (c₂, e₁ ++ e₂)

/-- What a frame does to the session mirror: `some (some s)` sets it to `s`, `some none`
clears it, `none` leaves it. -/
def sessionUpdate (m : Slice) : Option (Option Session) :=
  match m.bytes with
  | [] => none
  | tag :: body =>
    if tag = T.byte .sessionCreated then (JS.unmarshal body).map some
    else if tag = T.byte .sessionClosed then some none
    else none

/-- The session hook an effect calls, as the update it reports. -/
def Effect.hookCall : Effect → Option (Option Session)
  | .onSessionCreated s _ => some (some s)
  | .onSessionClosed _ => some none
  | _ => none

/-- A hook call sees the mirror it reports. -/
def Effect.SeesUpdate : Effect → Prop
  | .onSessionCreated s seen => seen = some s
  | .onSessionClosed seen => seen = none
  | _ => True

/-- Effects that call no session hook. -/
def HookFree (e : List Effect) : Prop := e.filterMap Effect.hookCall = []

/-- A frame the reader handles without a panic: the slices of its case lie within its length,
or within its capacity for the identifier of a typed failure. -/
def Fits (m : Slice) : Prop :=
  match m.bytes with
  | [] => True
  | tag :: _ => sliceEnd (switchCase T tag) ≤ reach (switchCase T tag) m

instance : DecidablePred (Fits T) := fun m =>
  match m with
  | ⟨[], _⟩ => isTrue trivial
  | ⟨_ :: _, _⟩ => Nat.decLe _ _

/-- The four things a frame can do to the mirror: panic; keep it and call no hook; or make the
update `sessionUpdate` names and call its hook. -/
def MirrorStep (clt : Client) (m : Slice) (r : Option (Client × List Effect)) : Prop :=
  r = none ∨
  (∃ e, r = some (clt, e) ∧ sessionUpdate T JS m = none ∧ HookFree e) ∨
  (∃ s, sessionUpdate T JS m = some (some s) ∧ r = some (⟨some s⟩, [.onSessionCreated s (some s)])) ∨
  (sessionUpdate T JS m = some none ∧ r = some (⟨none⟩, [.onSessionClosed none]))

/-! ## One frame -/

theorem hookFree_identifiedCase {message : Slice} {offset : Nat}
    {handler : MessageIdentifier → Bytes → List Effect} {l : List Effect}
    (h : identifiedCase message offset handler = some l) (hk : ∀ id d, HookFree (handler id d)) :
    HookFree l := by
  simp only [identifiedCase, Option.bind_eq_bind, Option.bind_eq_some, Option.pure_def,
    Option.some.injEq] at h
  obtain ⟨id, -, d, -, rfl⟩ := h
  exact hk id d

theorem hookFree_failureCase {message : Slice} {handler : MessageIdentifier → List Effect}
    {l : List Effect} (h : failureCase message handler = some l)
    (hk : ∀ id, HookFree (handler id)) : HookFree l := by
  obtain ⟨id, -, rfl⟩ := Option.map_eq_some'.mp h
  exact hk id

theorem hookFree_signalCase {message : Slice} {encoding : PayloadEncoding} {l : List Effect}
    (h : signalCase message encoding = some l) : HookFree l := by
  obtain ⟨_, -, rfl⟩ := Option.map_eq_some'.mp h
  rfl

theorem hookFree_handleFailure (id : MessageIdentifier) (d : Bytes) :
    HookFree (handleFailure JR id d) := by
  unfold handleFailure HookFree
  split <;> rfl

/-- A case that keeps the mirror and whose outputs call no hook. -/
theorem mirrorStep_keep {clt : Client} {m : Slice} {X : Option (List Effect)}
    (hu : sessionUpdate T JS m = none) (hX : ∀ l, X = some l → HookFree l) :
    MirrorStep T JS clt m (X.map (clt, ·)) := by
  cases X with
  | none => exact .inl rfl
  | some l => exact .inr (.inl ⟨l, rfl, hu, hX l rfl⟩)

/-- **What one frame does to the mirror.** -/
theorem handleMessage_mirror (clt : Client) (m : Slice) :
    MirrorStep T JS clt m (handleMessage T JS JR clt m) := by
  obtain ⟨bytes, spare⟩ := m
  cases bytes with
  | nil => exact .inr (.inl ⟨[], rfl, rfl, rfl⟩)
  | cons tag body =>
    cases hs : switchCase T tag with
    | none =>
      have h₁ := byte_ne_of_switchCase_eq_none T hs (t := .sessionCreated) (by decide)
      have h₂ := byte_ne_of_switchCase_eq_none T hs (t := .sessionClosed) (by decide)
      refine .inr (.inl ⟨[.warningLog tag], ?_, ?_, rfl⟩)
      · simp [handleMessage, hs]
      · simp [sessionUpdate, Ne.symm h₁, Ne.symm h₂]
    | some t =>
      obtain rfl := byte_eq_of_switchCase_eq_some T hs
      cases t
      case sessionCreated =>
        cases hb : JS.unmarshal body with
        | none =>
          refine .inr (.inl ⟨[.errorLog], ?_, ?_, rfl⟩)
          · simp [handleMessage, hs, sliceFrom_of_le, handleSessionCreated, hb]
          · simp [sessionUpdate, hb]
        | some s =>
          refine .inr (.inr (.inl ⟨s, ?_, ?_⟩))
          · simp [sessionUpdate, hb]
          · simp [handleMessage, hs, sliceFrom_of_le, handleSessionCreated, hb]
      case sessionClosed =>
        exact .inr (.inr (.inr ⟨by simp [sessionUpdate],
          by simp [handleMessage, hs, handleSessionClosed]⟩))
      case replyProtocolError | closeSession | restoreSession | requestBinary | requestUtf8
        | requestUtf16 => exact absurd (mem_handledTypes_of_switchCase T hs) (by decide)
      all_goals
        simp only [handleMessage, hs]
        refine mirrorStep_keep T JS ?_ fun l hl => ?_
        · simp [sessionUpdate]
        first
          | exact hookFree_identifiedCase hl fun _ _ => rfl
          | exact hookFree_identifiedCase hl (hookFree_handleFailure JR)
          | exact hookFree_failureCase hl fun _ => rfl
          | exact hookFree_signalCase hl

/-- Whether a frame panics does not depend on the client. -/
theorem isSome_handleMessage_iff_fits (clt : Client) (m : Slice) :
    (handleMessage T JS JR clt m).isSome ↔ Fits T m := by
  obtain ⟨bytes, spare⟩ := m
  cases bytes with
  | nil => simp [handleMessage, Fits]
  | cons tag rest => exact isSome_handleMessage_iff T JS JR clt tag rest spare

theorem seesUpdate_of_hookFree {e : List Effect} (h : HookFree e) : ∀ x ∈ e, x.SeesUpdate := by
  intro x hx
  have hn : x.hookCall = none := List.filterMap_eq_nil_iff.mp h x hx
  cases x <;> trivial

/-! ## A run -/

/-- **The reader runs to the end exactly when every frame fits.** -/
theorem isSome_readFrames_iff (clt : Client) (frames : List Slice) :
    (readFrames T JS JR clt frames).isSome ↔ ∀ m ∈ frames, Fits T m := by
  induction frames generalizing clt with
  | nil => simp [readFrames]
  | cons m ms ih =>
    rw [List.forall_mem_cons, ← isSome_handleMessage_iff_fits T JS JR clt]
    cases h : handleMessage T JS JR clt m with
    | none => simp [readFrames, h]
    | some r =>
      rw [← ih r.1]
      simp only [readFrames, h, Option.bind_eq_bind, Option.some_bind, Option.isSome_some, true_and]
      cases readFrames T JS JR r.1 ms <;> rfl

/-- **The session mirror after a run.**  On a run that panics nowhere, the mirror at the end
is the update of the last frame that has one, or the initial mirror if no frame has; the
session hooks are called once per such frame, in the order of the frames; and every hook sees
the mirror already updated. -/
theorem readFrames_mirror {clt : Client} {frames : List Slice} (hfit : ∀ m ∈ frames, Fits T m) :
    ∃ c e, readFrames T JS JR clt frames = some (c, e) ∧
      c.session = ((frames.filterMap (sessionUpdate T JS)).getLast?).getD clt.session ∧
      e.filterMap Effect.hookCall = frames.filterMap (sessionUpdate T JS) ∧
      ∀ x ∈ e, x.SeesUpdate := by
  induction frames generalizing clt with
  | nil => exact ⟨clt, [], rfl, rfl, rfl, by simp⟩
  | cons m ms ih =>
    have hm := (isSome_handleMessage_iff_fits T JS JR clt m).mpr (hfit m (.head _))
    have hms : ∀ m ∈ ms, Fits T m := fun m' h' => hfit m' (.tail _ h')
    rcases handleMessage_mirror T JS JR clt m with h | ⟨e₁, h, hu, hf⟩ | ⟨s, hu, h⟩ | ⟨hu, h⟩
    · simp [h] at hm
    · obtain ⟨c, e₂, hr, hc, he, hs⟩ := @ih clt hms
      have hf' : e₁.filterMap Effect.hookCall = [] := hf
      refine ⟨c, e₁ ++ e₂, by simp [readFrames, h, hr], by simpa [hu] using hc, ?_, ?_⟩
      · simpa [List.filterMap_append, hu, hf'] using he
      · exact fun x hx => (List.mem_append.mp hx).elim (seesUpdate_of_hookFree hf x) (hs x)
    · obtain ⟨c, e₂, hr, hc, he, hs⟩ := @ih ⟨some s⟩ hms
      refine ⟨c, .onSessionCreated s (some s) :: e₂, by simp [readFrames, h, hr], ?_, ?_, ?_⟩
      · simpa [hu, List.getLast?_cons] using hc
      · simpa [hu, Effect.hookCall] using he
      · simpa [Effect.SeesUpdate] using hs
    · obtain ⟨c, e₂, hr, hc, he, hs⟩ := @ih ⟨none⟩ hms
      refine ⟨c, .onSessionClosed none :: e₂, by simp [readFrames, h, hr], ?_, ?_, ?_⟩
      · simpa [hu, List.getLast?_cons] using hc
      · simpa [hu, Effect.hookCall] using he
      · simpa [Effect.SeesUpdate] using hs

/-- A client holding the session `"J"` reads a `SessionCreated` frame for `"K"`, a
`SessionClosed` frame and a `SessionCreated` frame for `"L"`: it ends with `"L"`, having
called the hooks for the three frames in order. -/
theorem readFrames_mirror_created_closed :
    ∃ frames : List Slice,
      frames.map (·.bytes) = [[MsgTags.ordinal.byte .sessionCreated, 75],
        [MsgTags.ordinal.byte .sessionClosed], [MsgTags.ordinal.byte .sessionCreated, 76]] ∧
      (∀ m ∈ frames, Fits .ordinal m) ∧
      ((frames.filterMap (sessionUpdate .ordinal .sessionKeys)).getLast?).getD
        (some ⟨[74], 0, 0, none⟩) = some ⟨[76], 0, 0, none⟩ ∧
      ∃ c e, readFrames .ordinal .sessionKeys (.empty _) ⟨some ⟨[74], 0, 0, none⟩⟩ frames =
          some (c, e) ∧
        c.session = ((frames.filterMap (sessionUpdate .ordinal .sessionKeys)).getLast?).getD
          (some ⟨[74], 0, 0, none⟩) ∧
        e.filterMap Effect.hookCall = frames.filterMap (sessionUpdate .ordinal .sessionKeys) ∧
        ∀ x ∈ e, x.SeesUpdate :=
  ⟨[⟨[MsgTags.ordinal.byte .sessionCreated, 75], []⟩, ⟨[MsgTags.ordinal.byte .sessionClosed], []⟩,
      ⟨[MsgTags.ordinal.byte .sessionCreated, 76], []⟩],
    rfl, by decide, by decide, readFrames_mirror _ _ _ (by decide)⟩

/-- A one-byte `SignalBinary` frame ends the run, whatever its capacity: the frames after it
are never read. -/
theorem readFrames_truncated_signal (clt : Client) (spare : Bytes) (ms : List Slice) :
    readFrames T JS JR clt (⟨[T.byte .signalBinary], spare⟩ :: ms) = none := by
  simp [readFrames, handleMessage, switchCase_byte, handledTypes, signalCase, sliceFrom_of_lt]

end Client
end Webwire
