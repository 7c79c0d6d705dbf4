import Webwire.Basic

/-!
# JSON, as `encoding/json` writes and reads the values of the model

A Go `string` is any bytes, and `json.Marshal` writes it as a JSON string.  It copies every
valid UTF-8 sequence, but a byte that begins none is written as `\ufffd`
(`encodeState.string`), which `json.Unmarshal` reads back as the three bytes of U+FFFD.  So
a round trip gives back the string with each such byte replaced: `Utf8.coerce`.

`Utf8.runeLen` is `utf8.DecodeRune` on the head of a string: the length of the valid sequence
there, by Go's `first` and `acceptRanges` tables (the ranges of RFC 3629), or nothing where
`DecodeRune` returns `(RuneError, 1)`.  `Utf8.coerceFrom` is the scan of
`encodeState.string`, one byte at a time: the bytes of a valid sequence are copied, and a
byte that begins none becomes U+FFFD.

Of the values the modelled code marshals, only the key of a session is raw bytes: the info
and a `ReqErr` are made of Lean strings, which are valid Unicode, and times are numbers.
`JsonRoundTrip.roundTrip` is what `Unmarshal(Marshal(a))` gives for each type, and
`JsonCodec`'s law is that `Unmarshal` gives back exactly that.
-/

namespace Webwire

namespace Utf8

/-- The three bytes of U+FFFD, which `Unmarshal` reads for the `\ufffd` that `Marshal` writes
in place of a byte that begins no valid sequence. -/
def replacement : Bytes := [0xEF, 0xBF, 0xBD]

/-- Go's `first` and `acceptRanges` tables: for a byte that begins a sequence of two to four
bytes, the length of the sequence and the range its second byte must lie in. -/
def lead (b : UInt8) : Option (Nat × UInt8 × UInt8) :=
  if b < 0xC2 then none
  else if b < 0xE0 then some (2, 0x80, 0xBF)
  else if b = 0xE0 then some (3, 0xA0, 0xBF)
  else if b = 0xED then some (3, 0x80, 0x9F)
  else if b < 0xF0 then some (3, 0x80, 0xBF)
  else if b = 0xF0 then some (4, 0x90, 0xBF)
  else if b < 0xF4 then some (4, 0x80, 0xBF)
  else if b = 0xF4 then some (4, 0x80, 0x8F)
  else none

/-- A continuation byte, `0x80` to `0xBF` (`locb`, `hicb`). -/
def isCont (b : UInt8) : Bool := 0x80 ≤ b && b ≤ 0xBF

/-- `utf8.DecodeRune`: the length of the valid sequence at the head of `s`, or `none` where it
returns `(RuneError, 1)`.  A byte below `utf8.RuneSelf` is a sequence of its own. -/
def runeLen : Bytes → Option Nat
  | [] => none
  | b :: rest =>
    if b < 0x80 then some 1
    else match lead b, rest with
      | some (n, lo, hi), c :: more =>
        if lo ≤ c ∧ c ≤ hi ∧ n - 2 ≤ more.length ∧ (more.take (n - 2)).all isCont = true
        then some n
        else none
      | _, _ => none

/-- The loop of `encodeState.string` over a string, with `skip` bytes of the valid sequence in
hand still to copy. -/
def coerceFrom : Nat → Bytes → Bytes
  | _, [] => []
  | skip + 1, b :: rest => b :: coerceFrom skip rest
  | 0, b :: rest =>
    match runeLen (b :: rest) with
    | some n => b :: coerceFrom (n - 1) rest
    | none => replacement ++ coerceFrom 0 rest

/-- What a JSON round trip makes of a Go string: each byte that begins no valid UTF-8
sequence becomes U+FFFD, and the valid sequences stay. -/
def coerce (s : Bytes) : Bytes := coerceFrom 0 s

theorem runeLen_ascii {b : UInt8} (hb : b < 0x80) (rest : Bytes) : runeLen (b :: rest) = some 1 :=
  if_pos hb

/-- A string of ASCII bytes, such as a key of the default generator, comes back as it was. -/
theorem coerce_ascii : ∀ {s : Bytes}, (∀ b ∈ s, b < 0x80) → coerce s = s
  | [], _ => rfl
  | b :: rest, h => by
    have hb := h b (List.mem_cons_self _ _)
    have ih : coerce rest = rest := coerce_ascii fun b' hb' => h b' (List.mem_cons_of_mem _ hb')
    simpa [coerce, coerceFrom, runeLen_ascii hb] using ih

example : coerce [0x4B] = [0x4B] := by decide

end Utf8

/-- What `json.Unmarshal` gives back for a value of each type that `json.Marshal` wrote. -/
class JsonRoundTrip (α : Type) where
  roundTrip : α → α

/-- A session comes back with its key coerced to UTF-8; its times and info come back as they
were. -/
instance : JsonRoundTrip Session := ⟨fun s => { s with key := Utf8.coerce s.key }⟩

/-- A `ReqErr` is made of Lean strings, which are valid Unicode, and comes back as it was. -/
instance : JsonRoundTrip ReqErr := ⟨id⟩

@[simp] theorem roundTrip_session (s : Session) :
    JsonRoundTrip.roundTrip s = { s with key := Utf8.coerce s.key } := rfl

@[simp] theorem roundTrip_reqErr (e : ReqErr) : JsonRoundTrip.roundTrip e = e := rfl

/-- What the modelled code needs of `encoding/json` for one Go type: `json.Marshal`, which
may fail, and `json.Unmarshal`, which reads back what `Marshal` wrote as a round trip gives
it. -/
structure JsonCodec (α : Type) [JsonRoundTrip α] where
  marshal : α → Option Bytes
  unmarshal : Bytes → Option α
  unmarshal_marshal : ∀ a b, marshal a = some b → unmarshal b = some (JsonRoundTrip.roundTrip a)

/-- The codec that encodes only `a₀`, as the empty document. -/
def JsonCodec.only {α : Type} [DecidableEq α] [JsonRoundTrip α] (a₀ : α) : JsonCodec α where
  marshal a := if a = a₀ then some [] else none
  unmarshal b := if b = [] then some (JsonRoundTrip.roundTrip a₀) else none
  unmarshal_marshal a b h := by
    by_cases ha : a = a₀
    · subst ha
      simp only [if_true, Option.some.injEq] at h
      simp [← h]
    · simp [ha] at h

/-- A codec for the sessions with zero times and no info, which writes such a session as
JSON writes its key. -/
def JsonCodec.sessionKeys : JsonCodec Session where
  marshal s :=
    if s.creation = 0 ∧ s.lastLookup = 0 ∧ s.info = none then some (Utf8.coerce s.key) else none
  unmarshal b := some ⟨b, 0, 0, none⟩
  unmarshal_marshal s b h := by
    obtain ⟨key, creation, lastLookup, info⟩ := s
    by_cases hs : creation = 0 ∧ lastLookup = 0 ∧ info = none
    · obtain ⟨rfl, rfl, rfl⟩ := hs
      simp only [if_true, and_self, Option.some.injEq] at h
      simp [h]
    · simp only [hs, if_false] at h
      cases h

/-- The codec that encodes nothing and decodes nothing. -/
def JsonCodec.empty (α : Type) [JsonRoundTrip α] : JsonCodec α where
  marshal _ := none
  unmarshal _ := none
  unmarshal_marshal _ _ h := Option.noConfusion h

end Webwire
