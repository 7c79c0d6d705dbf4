import Webwire.Basic
import Mathlib.Data.List.Basic

/-!
# `path/filepath`: `Clean` and `Join`

The session manager names the file of a session with `filepath.Join`, which cleans the path
it builds.  `Clean` is modelled by the rules its documentation gives: one separator between
elements, no `.` element, each `..` removing the name before it, none at the start of a rooted
path, and `"."` for the empty result.  The scan is a fold of `push` over the elements between
separators.

What a separator is depends on the system (`os.IsPathSeparator`): on Unix only `/`; on
Windows both `\` and `/`, and `Clean` writes `\` between the elements it keeps.  `Platform` is
that parameter.  Windows volume names (`C:`, `\\host\share`), which `Clean` keeps in front of
the path, are not modelled: every path here is one without a volume.

## Main results

* `Filepath.join_name`: joining a directory and one name (an element with no separator that is
  neither `.` nor `..`) puts the name directly inside the cleaned directory;
* `Filepath.childPath_inj`: two names inside one directory are two paths.
-/

namespace Webwire

/-- The bytes of a Go string literal. -/
def goString (s : String) : Bytes := s.toUTF8.data.toList

namespace Filepath

/-- The systems whose `path/filepath` is modelled. -/
inductive Platform where
  | unix
  | windows
  deriving DecidableEq, Repr

/-- `filepath.Separator`, the separator `Clean` writes. -/
def Platform.separator : Platform → UInt8
  | .unix => 47
  | .windows => 92

/-- `os.IsPathSeparator`, the bytes read as separators. -/
def Platform.isSep : Platform → UInt8 → Bool
  | .unix, b => b == 47
  | .windows, b => b == 47 || b == 92

/-- The byte `'.'`. -/
def dot : UInt8 := 46

@[simp] theorem Platform.isSep_separator (P : Platform) : P.isSep P.separator = true := by
  cases P <;> rfl

@[simp] theorem Platform.isSep_dot (P : Platform) : P.isSep dot = false := by
  cases P <;> rfl

theorem Platform.separator_ne_dot (P : Platform) : P.separator ≠ dot := by
  cases P <;> decide

variable (P : Platform)

/-- One element of `Clean`'s scan, onto the elements kept so far (last first).  An empty or
`.` element is dropped.  A `..` removes the last kept element when that is a name; with none,
it is dropped at the root of a rooted path and kept otherwise. -/
def push (rooted : Bool) (kept : List Bytes) (e : Bytes) : List Bytes :=
  if e = [] ∨ e = [dot] then kept
  else if e = [dot, dot] then
    match kept with
    | top :: rest => if top = [dot, dot] then (if rooted then kept else e :: kept) else rest
    | [] => if rooted then [] else [e]
  else e :: kept

/-- Whether a path starts at the root, with a separator. -/
def rootedPath : Bytes → Bool
  | b :: _ => P.isSep b
  | [] => false

/-- The elements `Clean` keeps of `path`, last first. -/
def cleanElems (rooted : Bool) (path : Bytes) : List Bytes :=
  (path.splitOnP P.isSep).foldl (push rooted) []

/-- The kept elements in order, separated by the separator. -/
def joinKept (kept : List Bytes) : Bytes := [P.separator].intercalate kept.reverse

/-- The path `Clean` writes for the kept elements: `"."` for none on a relative path. -/
def render (rooted : Bool) (kept : List Bytes) : Bytes :=
  if rooted then P.separator :: joinKept P kept
  else if joinKept P kept = [] then [dot] else joinKept P kept

/-- `filepath.Clean`, for a path with no volume name. -/
def clean (path : Bytes) : Bytes :=
  render P (rootedPath P path) (cleanElems P (rootedPath P path) path)

/-- `filepath.Join(a, b)`: the elements from the first non-empty one on, separated by the
separator, and cleaned; `""` when both are empty. -/
def join (a b : Bytes) : Bytes :=
  if a ≠ [] then clean P (a ++ P.separator :: b) else if b ≠ [] then clean P b else []

/-- A string with no separator in it. -/
def NoSep (n : Bytes) : Prop := ∀ b ∈ n, P.isSep b = false

instance (n : Bytes) : Decidable (NoSep P n) := inferInstanceAs (Decidable (∀ b ∈ n, _))

/-- One element that `Clean` keeps as it is: non-empty, no separator, neither `.` nor
`..`. -/
def IsName (n : Bytes) : Prop := n ≠ [] ∧ NoSep P n ∧ n ≠ [dot] ∧ n ≠ [dot, dot]

/-- The path of the entry `name` directly inside the clean directory `dir`. -/
def childPath (dir name : Bytes) : Bytes :=
  if dir = [dot] then name
  else if dir = [P.separator] then P.separator :: name
  else dir ++ P.separator :: name

/-- `q` names an entry directly inside the directory `dir`. -/
def DirectChild (dir q : Bytes) : Prop :=
  ∃ name, IsName P name ∧ q = childPath P (clean P dir) name

/-! ## Lists -/

theorem splitOnP_append_cons {α : Type} (p : α → Bool) {s : α} (hs : p s = true) :
    ∀ a b : List α, (a ++ s :: b).splitOnP p = a.splitOnP p ++ b.splitOnP p
  | [], b => by simp [List.splitOnP_cons, hs]
  | x :: a, b => by
    rw [List.cons_append, List.splitOnP_cons, List.splitOnP_cons, splitOnP_append_cons p hs a b]
    split_ifs
    · rfl
    · obtain ⟨e, es, he⟩ := List.exists_cons_of_ne_nil (List.splitOnP_ne_nil p a)
      rw [he]
      rfl

/-- The elements between separators hold no separator. -/
theorem noSep_of_mem_splitOnP {α : Type} (p : α → Bool) :
    ∀ (l e : List α), e ∈ l.splitOnP p → ∀ x ∈ e, p x = false
  | [], e, h => by simp at h; simp [h]
  | y :: l, e, h => by
    have ih := noSep_of_mem_splitOnP p l
    rw [List.splitOnP_cons] at h
    split_ifs at h with hy
    · rcases List.mem_cons.mp h with rfl | h
      · simp
      · exact ih e h
    · obtain ⟨e', es, he⟩ := List.exists_cons_of_ne_nil (List.splitOnP_ne_nil p l)
      rw [he] at h ih
      rcases List.mem_cons.mp h with rfl | h
      · exact List.forall_mem_cons.mpr ⟨by simpa using hy, ih e' (List.mem_cons_self _ _)⟩
      · exact ih e (List.mem_cons_of_mem _ h)

theorem intercalate_concat {α : Type} (s : α) :
    ∀ (L : List (List α)) (n : List α), L ≠ [] →
      [s].intercalate (L ++ [n]) = [s].intercalate L ++ s :: n
  | [], _, h => absurd rfl h
  | [a], n, _ => by simp [List.intercalate]
  | a :: b :: L, n, _ => by
    have ih := intercalate_concat s (b :: L) n (List.cons_ne_nil _ _)
    simp only [List.intercalate, List.cons_append, List.intersperse_cons₂,
      List.flatten_cons] at ih ⊢
    rw [ih]
    simp

/-! ## `Clean` on names -/

/-- What `Clean` keeps: elements that are not empty, not `.`, and free of separators. -/
def Kept (kept : List Bytes) : Prop := ∀ e ∈ kept, e ≠ [] ∧ e ≠ [dot] ∧ NoSep P e

variable {P}

theorem IsName.splitOnP {n : Bytes} (hn : IsName P n) : n.splitOnP P.isSep = [n] :=
  List.splitOnP_eq_single _ _ fun x hx => ne_true_of_eq_false (hn.2.1 x hx)

theorem IsName.rootedPath {n : Bytes} (hn : IsName P n) : rootedPath P n = false := by
  obtain ⟨x, n', rfl⟩ := List.exists_cons_of_ne_nil hn.1
  exact hn.2.1 x (List.mem_cons_self _ _)

theorem IsName.push {n : Bytes} (hn : IsName P n) (rooted : Bool) (kept : List Bytes) :
    push rooted kept n = n :: kept := by
  obtain ⟨h0, -, h1, h2⟩ := hn
  simp [Filepath.push, h0, h1, h2]

theorem Kept.push {kept : List Bytes} (hk : Kept P kept) (rooted : Bool) {e : Bytes}
    (he : NoSep P e) : Kept P (push rooted kept e) := by
  have hcons : ¬(e = [] ∨ e = [dot]) → Kept P (e :: kept) := fun h0 =>
    List.forall_mem_cons.mpr ⟨⟨fun h => h0 (.inl h), fun h => h0 (.inr h), he⟩, hk⟩
  have htail : Kept P kept.tail := fun x hx => hk x (List.mem_of_mem_tail hx)
  unfold Filepath.push
  split
  · exact hk
  next h0 =>
    split
    · split <;> (repeat' split) <;> first | exact hk | exact htail | exact hcons h0
    · exact hcons h0

theorem kept_foldl_push (rooted : Bool) :
    ∀ (l : List Bytes) (kept : List Bytes), Kept P kept → (∀ e ∈ l, NoSep P e) →
      Kept P (l.foldl (push rooted) kept)
  | [], _, hk, _ => hk
  | e :: l, _, hk, hl =>
    kept_foldl_push rooted l _ (hk.push rooted (hl e (List.mem_cons_self _ _)))
      fun x hx => hl x (List.mem_cons_of_mem _ hx)

theorem kept_cleanElems (rooted : Bool) (path : Bytes) : Kept P (cleanElems P rooted path) :=
  kept_foldl_push rooted _ [] (fun _ h => absurd h (List.not_mem_nil _))
    (noSep_of_mem_splitOnP P.isSep path)

theorem joinKept_cons (n : Bytes) (kept : List Bytes) :
    joinKept P (n :: kept) = if kept = [] then n else joinKept P kept ++ P.separator :: n := by
  unfold joinKept
  split_ifs with h
  · simp [h, List.intercalate]
  · rw [List.reverse_cons, intercalate_concat _ _ _ (List.reverse_ne_nil_iff.mpr h)]

/-- The kept elements of a non-empty list join to a path that is neither empty, nor `.`, nor
a separator. -/
theorem Kept.joinKept_ne : ∀ {kept : List Bytes}, Kept P kept → kept ≠ [] →
    joinKept P kept ≠ [] ∧ joinKept P kept ≠ [dot] ∧ joinKept P kept ≠ [P.separator]
  | [], _, h => absurd rfl h
  | n :: kept, hk, _ => by
    obtain ⟨⟨h0, h1, hs⟩, hk⟩ := List.forall_mem_cons.mp hk
    rw [joinKept_cons]
    split_ifs with he
    · exact ⟨h0, h1, fun h => by subst h; simp [NoSep] at hs⟩
    · have hB := (Kept.joinKept_ne hk he).1
      have hlen : 2 ≤ (joinKept P kept ++ P.separator :: n).length := by
        have := List.length_pos_of_ne_nil hB
        simp only [List.length_append, List.length_cons]
        omega
      refine ⟨by simp, fun h => ?_, fun h => ?_⟩ <;> rw [h] at hlen <;> simp at hlen

@[simp] theorem joinKept_nil : joinKept P [] = [] := rfl

theorem render_cons {n : Bytes} (hn : IsName P n) (rooted : Bool) {kept : List Bytes}
    (hk : Kept P kept) : render P rooted (n :: kept) = childPath P (render P rooted kept) n := by
  have hsd : [P.separator] ≠ [dot] := by simpa using P.separator_ne_dot
  by_cases he : kept = []
  · subst he
    cases rooted <;> simp [render, joinKept_cons, childPath, hn.1, hsd]
  · obtain ⟨hB, hBd, hBs⟩ := hk.joinKept_ne he
    cases rooted <;>
      simp [render, joinKept_cons, childPath, he, hB, hBd, hBs, P.separator_ne_dot]

theorem cleanElems_append_name (rooted : Bool) (p : Bytes) {n : Bytes} (hn : IsName P n) :
    cleanElems P rooted (p ++ P.separator :: n) = n :: cleanElems P rooted p := by
  rw [cleanElems, splitOnP_append_cons _ P.isSep_separator, List.foldl_append, hn.splitOnP,
    List.foldl_cons, List.foldl_nil, hn.push]
  rfl

theorem clean_nil : clean P [] = [dot] := rfl

theorem clean_ne_nil (path : Bytes) : clean P path ≠ [] := by
  unfold clean render
  split_ifs <;> simp_all

/-- **Cleaning a path with one more name** puts the name directly inside the cleaned path. -/
theorem clean_append_name {p n : Bytes} (hp : p ≠ []) (hn : IsName P n) :
    clean P (p ++ P.separator :: n) = childPath P (clean P p) n := by
  have hr : rootedPath P (p ++ P.separator :: n) = rootedPath P p := by
    obtain ⟨x, p', rfl⟩ := List.exists_cons_of_ne_nil hp
    rfl
  rw [clean, hr, cleanElems_append_name _ _ hn, render_cons hn _ (kept_cleanElems _ p)]
  rfl

theorem clean_name {n : Bytes} (hn : IsName P n) : clean P n = n := by
  rw [clean, hn.rootedPath, cleanElems, hn.splitOnP, List.foldl_cons, List.foldl_nil, hn.push]
  simp [render, joinKept, List.intercalate, hn.1]

/-- **`Join` of a directory and one name** is the name directly inside the cleaned
directory. -/
theorem join_name (p : Bytes) {n : Bytes} (hn : IsName P n) :
    join P p n = childPath P (clean P p) n := by
  unfold join
  by_cases hp : p = []
  · subst hp
    simp [hn.1, clean_name hn, clean_nil, childPath]
  · rw [if_pos hp, clean_append_name hp hn]

theorem childPath_inj {dir n₁ n₂ : Bytes} (h : childPath P dir n₁ = childPath P dir n₂) :
    n₁ = n₂ := by
  unfold childPath at h
  split_ifs at h
  · exact h
  · exact List.cons_injective h
  · exact List.cons_injective (List.append_cancel_left h)

end Filepath
end Webwire
