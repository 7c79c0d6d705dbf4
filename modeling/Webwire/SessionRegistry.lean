import Webwire.Basic
import Mathlib.Data.List.AList

/-!
# The session registry

The server indexes its live connections by the key of the session each is bound to, in a
map from session key to the set of connections (`map[string]map[*connection]bool`), with a
cap `maxConns` on the size of a set (0 for no cap).  `session_registry.go` is not under
`src/`; the operations follow §4.2:

* `register` adds a connection to the set of a key, and fails with `MaxSessConnsReachedErr`
  when the cap is set and the set is full;
* `deregister` removes it, and drops the key when its set becomes empty;
* `sessionConnectionsNum` is the size of the set, or `-1` when the key has no set;
* `sessionConnections` is a copy of the set, and `activeSessionsNum` the number of keys.

A set of connections is a duplicate-free list: the order is the one a `range` over the Go map
happens to visit, and every statement about a set below holds for every order.

What the operations do is said once, as membership (`registered_register`,
`registered_deregister`), as the absence of empty sets and as the cap; every invariant of
the server is derived from these.
-/

namespace Webwire

/-- A connection, by its identity (the `*connection` pointer). -/
abbrev ConnId := Nat

/-- A set of connections, as the duplicate-free list of its members. -/
structure ConnSet where
  toList : List ConnId
  nodup : toList.Nodup
  deriving DecidableEq

namespace ConnSet

instance : Membership ConnId ConnSet := ⟨fun s c => c ∈ s.toList⟩

instance (c : ConnId) (s : ConnSet) : Decidable (c ∈ s) :=
  inferInstanceAs (Decidable (c ∈ s.toList))

@[simp] theorem mem_toList {c : ConnId} {s : ConnSet} : c ∈ s.toList ↔ c ∈ s := Iff.rfl

/-- The number of connections, `len(connSet)`. -/
def card (s : ConnSet) : Nat := s.toList.length

/-- The empty set. -/
def empty : ConnSet := ⟨[], List.nodup_nil⟩

/-- `connSet[con] = true`. -/
def insert (s : ConnSet) (c : ConnId) : ConnSet := ⟨s.toList.insert c, s.nodup.insert⟩

/-- `delete(connSet, con)`. -/
def erase (s : ConnSet) (c : ConnId) : ConnSet := ⟨s.toList.erase c, s.nodup.erase c⟩

@[simp] theorem not_mem_empty (c : ConnId) : c ∉ empty := List.not_mem_nil c

@[simp] theorem mem_insert {s : ConnSet} {c d : ConnId} : d ∈ s.insert c ↔ d = c ∨ d ∈ s :=
  List.mem_insert_iff

@[simp] theorem mem_erase {s : ConnSet} {c d : ConnId} : d ∈ s.erase c ↔ d ≠ c ∧ d ∈ s :=
  s.nodup.mem_erase_iff

@[simp] theorem card_empty : empty.card = 0 := rfl

theorem card_insert_le (s : ConnSet) (c : ConnId) : (s.insert c).card ≤ s.card + 1 := by
  unfold insert card
  by_cases h : c ∈ s.toList <;> simp [List.insert, h]

theorem card_erase_le (s : ConnSet) (c : ConnId) : (s.erase c).card ≤ s.card :=
  List.length_erase_le _ _

theorem card_pos_of_mem {s : ConnSet} {c : ConnId} (h : c ∈ s) : 0 < s.card :=
  List.length_pos_of_mem h

theorem card_insert_pos (s : ConnSet) (c : ConnId) : 0 < (s.insert c).card :=
  card_pos_of_mem (mem_insert.mpr (.inl rfl))

end ConnSet

/-- Modelled from the spec: `sessionRegistry` (`session_registry.go`) is not under `src/`;
§4.2 gives its state and operations. -/
structure SessionRegistry where
  maxConns : Nat
  registry : AList (fun _ : Bytes => ConnSet)

namespace SessionRegistry

variable (r : SessionRegistry)

/-- Modelled from the spec: `register` (§4.2). -/
def register (con : ConnId) (key : Bytes) : Except Error SessionRegistry :=
  let connSet := (r.registry.lookup key).getD .empty
  if r.maxConns > 0 ∧ connSet.card + 1 > r.maxConns then .error .maxSessConnsReachedErr
  else .ok { r with registry := r.registry.insert key (connSet.insert con) }

/-- Modelled from the spec: `deregister` (§4.2). -/
def deregister (con : ConnId) (key : Bytes) : SessionRegistry :=
  match r.registry.lookup key with
  | none => r
  | some connSet =>
    if (connSet.erase con).card = 0 then { r with registry := r.registry.erase key }
    else { r with registry := r.registry.insert key (connSet.erase con) }

/-- Modelled from the spec: `sessionConnectionsNum` (§4.2). -/
def sessionConnectionsNum (key : Bytes) : Int :=
  match r.registry.lookup key with
  | none => -1
  | some connSet => connSet.card

/-- Modelled from the spec: `sessionConnections` (§4.2), a copy of the set. -/
def sessionConnections (key : Bytes) : Option ConnSet :=
  r.registry.lookup key

/-- Modelled from the spec: `activeSessionsNum` (§4.2). -/
def activeSessionsNum : Nat :=
  r.registry.keys.length

/-- `con` is in the set of `key`. -/
def Registered (key : Bytes) (con : ConnId) : Prop :=
  ∃ connSet, r.registry.lookup key = some connSet ∧ con ∈ connSet

/-- The set of `key` has room for one more connection. -/
def HasRoom (key : Bytes) : Prop :=
  0 < r.maxConns → ((r.registry.lookup key).getD .empty).card < r.maxConns

instance (key : Bytes) : Decidable (r.HasRoom key) :=
  inferInstanceAs (Decidable (_ → _))

/-- No key has an empty set. -/
def NoEmptySet : Prop :=
  ∀ key connSet, r.registry.lookup key = some connSet → 0 < connSet.card

/-- No set is over the cap, when there is one. -/
def WithinCap : Prop :=
  0 < r.maxConns → ∀ key connSet, r.registry.lookup key = some connSet → connSet.card ≤ r.maxConns

variable {r}

/-! ## `register` -/

theorem register_eq_ok {con : ConnId} {key : Bytes} {r' : SessionRegistry}
    (h : r.register con key = .ok r') :
    r' = { r with registry := r.registry.insert key (((r.registry.lookup key).getD .empty).insert con) } ∧
      ¬ (r.maxConns > 0 ∧ ((r.registry.lookup key).getD .empty).card + 1 > r.maxConns) := by
  dsimp only [register] at h
  split at h
  · cases h
  · exact ⟨(Except.ok.inj h).symm, ‹_›⟩

/-- Registration succeeds when the set has room. -/
theorem register_of_hasRoom {con : ConnId} {key : Bytes} (h : r.HasRoom key) :
    r.register con key =
      .ok { r with registry := r.registry.insert key (((r.registry.lookup key).getD .empty).insert con) } :=
  if_neg fun ⟨hpos, hfull⟩ => by have := h hpos; omega

/-- Registration fails when the set is full. -/
theorem register_of_not_hasRoom {con : ConnId} {key : Bytes} (h : ¬ r.HasRoom key) :
    r.register con key = .error .maxSessConnsReachedErr :=
  if_pos (by unfold HasRoom at h; omega)

theorem registered_register {con : ConnId} {key : Bytes} {r' : SessionRegistry}
    (h : r.register con key = .ok r') (k : Bytes) (c : ConnId) :
    r'.Registered k c ↔ r.Registered k c ∨ (k = key ∧ c = con) := by
  obtain ⟨rfl, -⟩ := register_eq_ok h
  by_cases hk : k = key
  · subst hk
    cases hl : r.registry.lookup k <;>
      simp [Registered, AList.lookup_insert, hl, or_comm]
  · simp [Registered, AList.lookup_insert_ne hk, hk]

theorem noEmptySet_register {con : ConnId} {key : Bytes} {r' : SessionRegistry}
    (h : r.register con key = .ok r') (hr : r.NoEmptySet) : r'.NoEmptySet := by
  obtain ⟨rfl, -⟩ := register_eq_ok h
  intro k s hs
  by_cases hk : k = key
  · subst hk
    rw [AList.lookup_insert] at hs
    cases hs
    exact ConnSet.card_insert_pos _ _
  · exact hr k s (by rwa [AList.lookup_insert_ne hk] at hs)

theorem withinCap_register {con : ConnId} {key : Bytes} {r' : SessionRegistry}
    (h : r.register con key = .ok r') (hr : r.WithinCap) : r'.WithinCap := by
  obtain ⟨rfl, hcap⟩ := register_eq_ok h
  intro hpos k s hs
  by_cases hk : k = key
  · subst hk
    rw [AList.lookup_insert] at hs
    cases hs
    have := ConnSet.card_insert_le ((r.registry.lookup k).getD .empty) con
    simp only [not_and, not_lt] at hcap
    exact this.trans (hcap hpos)
  · exact hr hpos k s (by rwa [AList.lookup_insert_ne hk] at hs)

/-! ## `deregister` -/

/-- What `deregister` leaves under each key: the set of `key` loses `con`, and goes when it
becomes empty; every other key keeps its set. -/
theorem lookup_deregister (con : ConnId) (key k : Bytes) :
    (r.deregister con key).registry.lookup k =
      if k = key then
        (r.registry.lookup key).bind fun s => if (s.erase con).card = 0 then none else some (s.erase con)
      else r.registry.lookup k := by
  cases hl : r.registry.lookup key with
  | none =>
    simp only [deregister, hl, Option.none_bind]
    split_ifs with hk
    · rw [hk, hl]
    · rfl
  | some s =>
    simp only [deregister, hl, Option.some_bind]
    by_cases hk : k = key
    · subst hk
      rw [if_pos rfl]
      split_ifs <;> simp [AList.lookup_insert, AList.lookup_erase]
    · split_ifs <;> simp [hk, AList.lookup_erase_ne hk, AList.lookup_insert_ne hk]

@[simp] theorem maxConns_deregister (con : ConnId) (key : Bytes) :
    (r.deregister con key).maxConns = r.maxConns := by
  unfold deregister
  split
  · rfl
  · split <;> rfl

theorem registered_deregister (con : ConnId) (key : Bytes) (k : Bytes) (c : ConnId) :
    (r.deregister con key).Registered k c ↔ r.Registered k c ∧ ¬ (k = key ∧ c = con) := by
  unfold Registered
  rw [lookup_deregister]
  by_cases hk : k = key
  · subst hk
    cases r.registry.lookup k with
    | none => simp
    | some s =>
      by_cases h0 : (s.erase con).card = 0
      · simp only [Option.some_bind, h0, if_true, reduceCtorEq, false_and, exists_false,
          Option.some.injEq, exists_eq_left', true_and, false_iff, not_and, not_not]
        intro hc
        by_contra hne
        have := ConnSet.card_pos_of_mem (ConnSet.mem_erase.mpr ⟨hne, hc⟩)
        omega
      · simp [h0, and_comm]
  · simp [hk]

/-- Deregistering never grows a set. -/
theorem card_lookup_deregister_le (con : ConnId) (key k : Bytes) :
    (((r.deregister con key).registry.lookup k).getD .empty).card ≤
      ((r.registry.lookup k).getD .empty).card := by
  rw [lookup_deregister]
  split_ifs with hk
  · subst hk
    cases r.registry.lookup k with
    | none => exact le_rfl
    | some s =>
      simp only [Option.some_bind, Option.getD_some]
      split_ifs
      · exact Nat.zero_le _
      · exact ConnSet.card_erase_le s con
  · exact le_rfl

theorem hasRoom_deregister (con : ConnId) {key k : Bytes} (h : r.HasRoom k) :
    (r.deregister con key).HasRoom k := by
  intro hpos
  rw [maxConns_deregister] at hpos ⊢
  exact (card_lookup_deregister_le con key k).trans_lt (h hpos)

theorem noEmptySet_deregister (con : ConnId) (key : Bytes) (hr : r.NoEmptySet) :
    (r.deregister con key).NoEmptySet := by
  intro k s' hs'
  rw [lookup_deregister] at hs'
  split_ifs at hs' with hk
  · obtain ⟨s, -, hs⟩ := Option.bind_eq_some.mp hs'
    split_ifs at hs with h0
    cases hs
    omega
  · exact hr k s' hs'

theorem withinCap_deregister (con : ConnId) (key : Bytes) (hr : r.WithinCap) :
    (r.deregister con key).WithinCap := by
  intro hpos k s' hs'
  rw [maxConns_deregister] at hpos ⊢
  rw [lookup_deregister] at hs'
  split_ifs at hs' with hk
  · obtain ⟨s, hs, hs''⟩ := Option.bind_eq_some.mp hs'
    split_ifs at hs'' with h0
    cases hs''
    exact (ConnSet.card_erase_le s con).trans (hr hpos key s hs)
  · exact hr hpos k s' hs'

end SessionRegistry
end Webwire
