import Mathlib.Data.List.Basic

/-!
# The shutdown gate

Every request and signal handler of the server runs between an admission and a release, both
under `opsLock`: admission refuses the operation once `shutdown` is set and otherwise counts it
in the `uint32` `currentOps`; release uncounts it and, when it was the last one after
`shutdown`, signals `shutdownRdy`.  `Shutdown` sets the flag and, unless nothing is in
progress, waits for that signal before it shuts the HTTP server down.

`Gate` is that state together with the handlers admitted and not yet finished (`running`, what
the counter counts; no field of the server), and `Gate.next` one step of any party: an
operation arriving, a handler finishing, `Shutdown` up to its wait, and `Shutdown` receiving
the signal.

## Main results

* `Gate.gate_bounded`: along every run in which fewer than `2 ^ 32` handlers are in flight at
  once, `currentOps` is the number of running handlers, no step admits a handler once
  `shutdown` is set, and `Shutdown` reaches `shutdownHTTPServer` only when no handler runs.
* `Gate.shutdown_completes`: once `Shutdown` has been called, the handlers in flight finishing
  in any order lead from that gate to `shutdownHTTPServer`; no wakeup is lost.
* `Gate.shutdown_with_handlers_running`: the counter is a `uint32`, and `2 ^ 32` admissions
  bring it back to `0`; `Shutdown` then goes straight on with every handler still running.
-/

namespace Webwire

/-- Where the one `Shutdown` call is: not called, blocked on `shutdownRdy`, or at
`shutdownHTTPServer`. -/
inductive Gate.Phase where
  | idle
  | waiting
  | done
  deriving DecidableEq, Repr

/-- The fields of the server that `opsLock` guards, the signals sent on `shutdownRdy` and not
yet received, where `Shutdown` is, and the handlers in flight. -/
structure Gate where
  shutdown : Bool
  currentOps : UInt32
  shutdownRdy : Nat
  phase : Gate.Phase
  running : List Nat
  deriving DecidableEq, Repr

namespace Gate

/-- The gate of a new server. -/
def initial : Gate := ⟨false, 0, 0, .idle, []⟩

/-- What an incoming operation is. -/
inductive OpKind where
  | request
  | signal
  deriving DecidableEq, Repr

/-- What the gate does with an incoming operation. -/
inductive Admission where
  | admitted
  | replyShutdown
  | dropped
  deriving DecidableEq, Repr

/-- Modelled from the spec: steps 1–3 of an incoming operation.  Under `shutdown` a request is
answered with `MsgReplyShutdown` and a signal dropped, and nothing changes; otherwise the
handler `h` is counted. -/
def admitOp (g : Gate) (kind : OpKind) (h : Nat) : Gate × Admission :=
  if g.shutdown then
    (g, match kind with
      | .request => .replyShutdown
      | .signal => .dropped)
  else
    ({ g with currentOps := g.currentOps + 1, running := g.running ++ [h] }, .admitted)

/-- Modelled from the spec: step 4, the handler `h` completing. -/
def release (g : Gate) (h : Nat) : Gate :=
  let g := { g with currentOps := g.currentOps - 1, running := g.running.erase h }
  if g.shutdown && g.currentOps == 0 then { g with shutdownRdy := g.shutdownRdy + 1 } else g

/-- `Shutdown` up to `<-srv.shutdownRdy`: set the flag and, when `currentOps < 1`, go straight
on to `shutdownHTTPServer`. -/
def shutdownBegin (g : Gate) : Gate :=
  let g := { g with shutdown := true }
  if g.currentOps < 1 then { g with phase := .done } else { g with phase := .waiting }

/-- `<-srv.shutdownRdy`: the blocked `Shutdown` receives a signal and goes on. -/
def shutdownWake (g : Gate) : Option Gate :=
  if g.phase = .waiting ∧ 0 < g.shutdownRdy then
    some { g with shutdownRdy := g.shutdownRdy - 1, phase := .done }
  else none

/-- One step of some party. -/
inductive Action where
  | arrive (kind : OpKind) (h : Nat)
  | finish (h : Nat)
  | shutdown
  | wake
  deriving DecidableEq, Repr

/-- A step; `none` when no party can take it.  `Shutdown` is called once. -/
def next (g : Gate) : Action → Option Gate
  | .arrive kind h => some (g.admitOp kind h).1
  | .finish h => if h ∈ g.running then some (g.release h) else none
  | .shutdown => if g.phase = .idle then some g.shutdownBegin else none
  | .wake => g.shutdownWake

/-- The handlers `hs` finishing one after the other, each while it runs. -/
def finishAll (g : Gate) : List Nat → Option Gate
  | [] => some g
  | h :: hs => (g.next (.finish h)).bind (·.finishAll hs)

/-- The gates a run from `initial` reaches while every gate on the way satisfies `ok`. -/
inductive ReachableWithin (ok : Gate → Prop) : Gate → Prop where
  | init : ReachableWithin ok initial
  | next {g g' : Gate} {a : Action} :
      ReachableWithin ok g → next g a = some g' → ok g' → ReachableWithin ok g'

/-- The gates of any run. -/
def Reachable : Gate → Prop := ReachableWithin fun _ => True

/-- Fewer than `2 ^ 32` handlers in flight. -/
def Bounded (g : Gate) : Prop := g.running.length < UInt32.size

instance : DecidablePred Bounded := fun g => inferInstanceAs (Decidable (g.running.length < _))

/-! ## `uint32` arithmetic -/

theorem toNat_add_one (a : UInt32) : (a + 1).toNat = (a.toNat + 1) % UInt32.size := rfl

theorem toNat_sub_one {a : UInt32} (h : 0 < a.toNat) : (a - 1).toNat = a.toNat - 1 :=
  UInt32.toNat_sub_of_le a 1 h

theorem lt_one_iff {a : UInt32} : a < 1 ↔ a.toNat = 0 := by
  show a.toNat < 1 ↔ _
  omega

theorem beq_zero_iff {a : UInt32} : (a == 0) = true ↔ a.toNat = 0 := by
  rw [beq_iff_eq]
  exact ⟨fun h => h ▸ rfl, fun h => UInt32.toNat.inj h⟩

/-! ## What each step does -/

@[simp] theorem release_running (g : Gate) (h : Nat) :
    (g.release h).running = g.running.erase h := by
  simp only [release]; split <;> rfl

@[simp] theorem release_currentOps (g : Gate) (h : Nat) :
    (g.release h).currentOps = g.currentOps - 1 := by
  simp only [release]; split <;> rfl

@[simp] theorem release_shutdown (g : Gate) (h : Nat) :
    (g.release h).shutdown = g.shutdown := by
  simp only [release]; split <;> rfl

@[simp] theorem release_phase (g : Gate) (h : Nat) : (g.release h).phase = g.phase := by
  simp only [release]; split <;> rfl

theorem release_shutdownRdy (g : Gate) (h : Nat) :
    (g.release h).shutdownRdy =
      if (g.shutdown && g.currentOps - 1 == 0) = true then g.shutdownRdy + 1
      else g.shutdownRdy := by
  simp only [release]; split <;> rfl

/-- Under `shutdown`, no step admits a handler, and the flag stays set. -/
theorem next_of_shutdown {g g' : Gate} {a : Action} (hs : g.shutdown = true)
    (h : next g a = some g') : g'.shutdown = true ∧ g'.running.Sublist g.running := by
  cases a with
  | arrive kind h' =>
    simp only [next, admitOp, hs, if_true, Option.some.injEq] at h
    subst h
    exact ⟨hs, .refl _⟩
  | finish h' =>
    simp only [next, release] at h
    split_ifs at h <;> cases h <;> exact ⟨hs, List.erase_sublist _ _⟩
  | shutdown =>
    simp only [next, shutdownBegin] at h
    split_ifs at h <;> cases h <;> exact ⟨rfl, .refl _⟩
  | wake =>
    simp only [next, shutdownWake] at h
    split_ifs at h
    cases h
    exact ⟨hs, .refl _⟩

/-! ## The invariant -/

/-- What holds of the gate along a run with fewer than `2 ^ 32` handlers in flight. -/
structure Inv (g : Gate) : Prop where
  counts : g.currentOps.toNat = g.running.length
  idle_iff : g.phase = .idle ↔ g.shutdown = false
  signal : 0 < g.shutdownRdy → g.phase = .waiting ∧ g.running = [] ∧ g.shutdownRdy = 1
  done : g.phase = .done → g.running = [] ∧ g.shutdownRdy = 0
  waiting : g.phase = .waiting → g.running ≠ [] ∨ 0 < g.shutdownRdy

theorem Inv.initial : Inv initial where
  counts := rfl
  idle_iff := by simp [Gate.initial]
  signal := by simp [Gate.initial]
  done := by simp [Gate.initial]
  waiting := by simp [Gate.initial]

/-- Only a waiting `Shutdown` with every handler finished has a signal to receive. -/
theorem Inv.noSignal {g : Gate} (hi : Inv g) (hp : g.phase ≠ .waiting ∨ g.running ≠ []) :
    g.shutdownRdy = 0 :=
  Nat.eq_zero_of_not_pos fun hpos => hp.elim (· (hi.signal hpos).1) (· (hi.signal hpos).2.1)

/-- Once `Shutdown` has been called, the flag is set. -/
theorem Inv.shutdown_of_ne_idle {g : Gate} (hi : Inv g) (hp : g.phase ≠ .idle) :
    g.shutdown = true := by
  simpa [hp] using hi.idle_iff

theorem Inv.arrive {g : Gate} (hi : Inv g) (kind : OpKind) (h : Nat)
    (hb : Bounded (g.admitOp kind h).1) : Inv (g.admitOp kind h).1 := by
  unfold admitOp at hb ⊢
  split_ifs with hs
  · exact hi
  · have hidle : g.phase = .idle := hi.idle_iff.mpr (by simpa using hs)
    have hrdy := hi.noSignal (.inl (by simp [hidle]))
    simp only [Bounded, List.length_append, List.length_singleton, if_neg hs] at hb
    refine ⟨?_, hi.idle_iff, ?_, ?_, ?_⟩
    · simp only [List.length_append, List.length_singleton, toNat_add_one, hi.counts]
      exact Nat.mod_eq_of_lt hb
    · simp [hrdy]
    · simp [hidle]
    · simp [hidle]

theorem Inv.finish {g : Gate} (hi : Inv g) {h : Nat} (hm : h ∈ g.running) :
    Inv (g.release h) := by
  have hne : g.running ≠ [] := List.ne_nil_of_mem hm
  have hrdy := hi.noSignal (.inr hne)
  have hcount : (g.currentOps - 1).toNat = (g.running.erase h).length := by
    rw [toNat_sub_one (hi.counts ▸ List.length_pos_of_mem hm), hi.counts,
      List.length_erase_of_mem hm]
  have hnotdone : g.phase ≠ .done := fun hd => hne (hi.done hd).1
  have hwait : g.shutdown = true → g.phase = .waiting := fun hs => by
    cases hp : g.phase
    · exact absurd (hi.idle_iff.mp hp) (by simp [hs])
    · rfl
    · exact absurd hp hnotdone
  -- the signal goes out exactly when the last handler finishes after `shutdown`
  have hsig : (g.shutdown && g.currentOps - 1 == 0) = true ↔
      g.shutdown = true ∧ g.running.erase h = [] := by
    rw [Bool.and_eq_true_iff, beq_zero_iff, hcount, List.length_eq_zero]
  refine ⟨by simpa using hcount, by simpa using hi.idle_iff, ?hsignal,
    fun hd => absurd ((release_phase g h).symm.trans hd) hnotdone, ?hwaiting⟩
  case hsignal =>
    rw [release_shutdownRdy, release_phase, release_running]
    split_ifs with hz
    · exact fun _ => ⟨hwait (hsig.mp hz).1, (hsig.mp hz).2, by rw [hrdy]⟩
    · simp [hrdy]
  case hwaiting =>
    rw [release_shutdownRdy, release_phase, release_running]
    intro hw
    by_cases hr : g.running.erase h = []
    · rw [if_pos (hsig.mpr ⟨hi.shutdown_of_ne_idle (by simp [hw]), hr⟩)]
      exact .inr (Nat.succ_pos _)
    · exact .inl hr

theorem Inv.shutdownBegin {g : Gate} (hi : Inv g) (hp : g.phase = .idle) :
    Inv g.shutdownBegin := by
  have hrdy := hi.noSignal (.inl (by simp [hp]))
  simp only [Gate.shutdownBegin]
  split_ifs with hz
  · have hr : g.running = [] := List.length_eq_zero.mp (hi.counts ▸ lt_one_iff.mp hz)
    exact ⟨hi.counts, by simp, by simp [hrdy], fun _ => ⟨hr, hrdy⟩, by simp⟩
  · have hr : g.running ≠ [] := fun hr => hz (lt_one_iff.mpr (by rw [hi.counts, hr]; rfl))
    exact ⟨hi.counts, by simp, by simp [hrdy], by simp, fun _ => .inl hr⟩

theorem Inv.shutdownWake {g g' : Gate} (hi : Inv g) (h : g.shutdownWake = some g') : Inv g' := by
  unfold Gate.shutdownWake at h
  split_ifs at h with hw
  cases h
  obtain ⟨hp, hr, h1⟩ := hi.signal hw.2
  have hs := hi.shutdown_of_ne_idle (by simp [hp])
  exact ⟨hi.counts, by simp [hs], by simp [h1], fun _ => ⟨hr, by simp [h1]⟩, by simp⟩

/-- Every step of a run with fewer than `2 ^ 32` handlers in flight keeps the invariant. -/
theorem Inv.next {g g' : Gate} {a : Action} (hi : Inv g) (h : next g a = some g')
    (hb : Bounded g') : Inv g' := by
  cases a with
  | arrive kind h' =>
    cases h
    exact hi.arrive kind h' hb
  | finish h' =>
    simp only [Gate.next] at h
    split_ifs at h with hm
    cases h
    exact hi.finish hm
  | shutdown =>
    simp only [Gate.next] at h
    split_ifs at h with hp
    cases h
    exact hi.shutdownBegin hp
  | wake => exact hi.shutdownWake h

theorem Inv.of_reachableWithin {g : Gate} (hg : ReachableWithin Bounded g) : Inv g := by
  induction hg with
  | init => exact Inv.initial
  | next _ h hb ih => exact ih.next h hb

/-! ## The gate along a run -/

/-- **The gate, while fewer than `2 ^ 32` handlers are in flight.**  `currentOps` counts the
handlers admitted and not yet finished, no step admits a handler once `shutdown` is set, and
`Shutdown` reaches `shutdownHTTPServer` only when every admitted handler has finished. -/
theorem gate_bounded {g : Gate} (hg : ReachableWithin Bounded g) :
    g.currentOps.toNat = g.running.length ∧
      (∀ a g', g.shutdown = true → next g a = some g' →
        g'.shutdown = true ∧ g'.running.Sublist g.running) ∧
      (g.phase = .done → g.running = []) :=
  have hi := Inv.of_reachableWithin hg
  ⟨hi.counts, fun _ _ hs h => next_of_shutdown hs h, fun hd => (hi.done hd).1⟩

/-- A request admitted, then `Shutdown` waiting for it, and woken when it finishes. -/
theorem gate_bounded_drained :
    ReachableWithin Bounded ⟨true, 0, 0, .done, []⟩ ∧
      ((0 : UInt32).toNat = ([] : List Nat).length ∧
        (∀ a g', true = true → next ⟨true, 0, 0, .done, []⟩ a = some g' →
          g'.shutdown = true ∧ g'.running.Sublist []) ∧
        (Phase.done = .done → ([] : List Nat) = [])) :=
  have h : ReachableWithin Bounded ⟨true, 0, 0, .done, []⟩ :=
    .next (a := .wake)
      (.next (a := .finish 0)
        (.next (a := .shutdown)
          (.next (a := .arrive .request 0) .init rfl (by decide)) rfl (by decide))
        rfl (by decide))
      rfl (by decide)
  ⟨h, gate_bounded h⟩

theorem ReachableWithin.bounded {g : Gate} (hg : ReachableWithin Bounded g) : Bounded g := by
  cases hg with
  | init => decide
  | next _ _ hb => exact hb

/-- One handler finishing, on the way to `shutdownHTTPServer`. -/
theorem reachable_release {g : Gate} (hg : ReachableWithin Bounded g) {h : Nat}
    (hm : h ∈ g.running) : ReachableWithin Bounded (g.release h) :=
  .next (a := .finish h) hg (by simp [Gate.next, hm])
    (lt_of_le_of_lt (by simpa using List.length_erase_le h g.running) hg.bounded)

/-- **`Shutdown` completes once the handlers in flight finish, in any order.**  From every
state of a run with fewer than `2 ^ 32` handlers in flight in which `Shutdown` has been called,
the running handlers finishing one after the other, in any order, lead to a gate where no
handler runs and `Shutdown` has gone on to `shutdownHTTPServer`, or receives its signal and
goes on: the last handler to finish after `shutdown` always sends the signal, so no wakeup is
lost. -/
theorem shutdown_completes {g : Gate} (hg : ReachableWithin Bounded g) (hp : g.phase ≠ .idle)
    {order : List Nat} (ho : order.Perm g.running) :
    ∃ g₁, g.finishAll order = some g₁ ∧ g₁.running = [] ∧
      (g₁.phase = .done ∨ ∃ g₂, g₁.next .wake = some g₂ ∧ g₂.phase = .done) := by
  induction order generalizing g with
  | nil =>
    have hr : g.running = [] := List.perm_nil.mp ho.symm
    refine ⟨g, rfl, hr, ?_⟩
    cases hph : g.phase
    · exact absurd hph hp
    · -- waiting with nothing running: the signal is pending
      have hrdy := ((Inv.of_reachableWithin hg).waiting hph).resolve_left (· hr)
      exact .inr ⟨{ g with shutdownRdy := g.shutdownRdy - 1, phase := .done },
        by simp [Gate.next, shutdownWake, hph, hrdy], rfl⟩
    · exact .inl rfl
  | cons h hs ih =>
    have hm : h ∈ g.running := ho.subset (List.mem_cons_self _ _)
    have hs' : hs.Perm (g.release h).running := by
      rw [release_running]
      exact (ho.trans (List.perm_cons_erase hm)).cons_inv
    obtain ⟨g₁, h₁, hr, hdone⟩ := ih (reachable_release hg hm) (by simpa using hp) hs'
    exact ⟨g₁, by simp [finishAll, Gate.next, hm, h₁], hr, hdone⟩

/-- `Shutdown` waiting for two admitted requests, which finish in the reverse order. -/
theorem shutdown_completes_pending :
    ReachableWithin Bounded ⟨true, 2, 0, .waiting, [0, 1]⟩ ∧ Phase.waiting ≠ .idle ∧
      [1, 0].Perm [0, 1] ∧
      ∃ g₁, (⟨true, 2, 0, .waiting, [0, 1]⟩ : Gate).finishAll [1, 0] = some g₁ ∧
        g₁.running = [] ∧ (g₁.phase = .done ∨ ∃ g₂, g₁.next .wake = some g₂ ∧ g₂.phase = .done) :=
  have h : ReachableWithin Bounded ⟨true, 2, 0, .waiting, [0, 1]⟩ :=
    .next (a := .shutdown) (.next (a := .arrive .request 1)
      (.next (a := .arrive .request 0) .init rfl (by decide)) rfl (by decide)) rfl (by decide)
  ⟨h, by decide, List.Perm.swap 0 1 [],
    shutdown_completes h (by decide) (List.Perm.swap 0 1 [])⟩

/-! ## Without the bound -/

theorem ofNat_succ (n : Nat) : UInt32.ofNat (n + 1) = UInt32.ofNat n + 1 :=
  UInt32.toNat.inj (by
    show (n + 1) % 4294967296 = (n % 4294967296 + 1) % 4294967296
    omega)

/-- `n` admissions from a new server, with no handler finishing. -/
theorem reachable_admissions (n : Nat) :
    Reachable ⟨false, UInt32.ofNat n, 0, .idle, List.range n⟩ := by
  induction n with
  | zero => exact .init
  | succ n ih =>
    refine ReachableWithin.next (a := .arrive .request n) ih ?_ trivial
    simp [Gate.next, admitOp, List.range_succ, ofNat_succ]

/-- **`2 ^ 32` handlers in flight wrap `currentOps` to `0`.**  `Shutdown` then sees no
operation in progress and goes straight on to `shutdownHTTPServer` while all of them run. -/
theorem shutdown_with_handlers_running :
    ∃ g, Reachable g ∧ g.phase = .done ∧ g.running.length = UInt32.size ∧ g.currentOps = 0 := by
  have h := reachable_admissions UInt32.size
  rw [show UInt32.ofNat UInt32.size = 0 by decide] at h
  have hs : ∀ r, next ⟨false, 0, 0, .idle, r⟩ .shutdown = some ⟨true, 0, 0, .done, r⟩ :=
    fun _ => rfl
  exact ⟨_, ReachableWithin.next h (hs _) trivial, rfl, by simp only [List.length_range], rfl⟩

end Gate
end Webwire
