import MiniDocker.Limits.Resources
import Mathlib.Data.List.Basic

/-! # The COPY instruction

`ImageBuilder._handle_copy` splits its arguments at blanks, takes the last word as the
destination and the others as sources, reads each source at `os.path.join(context, src)` and
writes under `os.path.join(layer_path, dest.lstrip("/"))`. A source or a destination without
a `..` component stays in its directory once the path is normalised. But `os.path.join` drops
the context when a source is absolute, and `lstrip("/")` keeps the `..` components of the
destination, so a build file reads any host path and writes above its layer
(`handleCopy_escapes`).
-/

namespace MiniDocker.Image
open MiniDocker.Limits
set_option autoImplicit false

/-- `s.split()`: the runs of non-blank characters; `acc` holds the word being read, reversed. -/
def splitWords : List Char → List Char → List (List Char)
  | [], acc => if acc = [] then [] else [acc.reverse]
  | c :: cs, acc =>
    if isPySpace c then (if acc = [] then splitWords cs [] else acc.reverse :: splitWords cs [])
    else splitWords cs (c :: acc)

/-- `os.path.join(a, b)`. -/
def posixJoin (a b : List Char) : List Char :=
  if b.head? = some '/' then b else if a = [] ∨ a.getLast? = some '/' then a ++ b else a ++ '/' :: b

/-- `os.path.join(context, src)`: where a source is read. -/
def copySource (context src : List Char) : List Char := posixJoin context src

/-- `os.path.join(layer_path, dest.lstrip("/"))`: where the copies are written. -/
def copyTarget (layerPath dest : List Char) : List Char :=
  posixJoin layerPath (dest.dropWhile (· = '/'))

/-- `_handle_copy(image_id, args, context)` with the new layer at `layerPath`: the paths it reads
and the path it writes under, or the `BuildError` it raises. -/
def handleCopy (hasLayer : Bool) (layerPath context args : List Char) :
    Except String (List (List Char) × List Char) :=
  if !hasLayer then .error "COPY instruction before FROM" else
  match (splitWords args []).reverse with
  | dest :: srcs@(_ :: _) => .ok (srcs.reverse.map (copySource context), copyTarget layerPath dest)
  | _ => .error "COPY requires source and destination"

/-! ## Normalised paths -/

/-- The components `cs` resolved from the components `acc` (reversed) already reached: empty
and `.` components stay, `..` goes one up and stops at the root. -/
def normComps : List (List Char) → List (List Char) → List (List Char)
  | acc, [] => acc.reverse
  | acc, c :: cs =>
    if c = [] ∨ c = ['.'] then normComps acc cs
    else if c = ['.', '.'] then normComps acc.tail cs
    else normComps (c :: acc) cs

/-- `os.path.normpath` of an absolute path, as its components. -/
def absNorm (p : List Char) : List (List Char) := normComps [] (p.splitOn '/')

/-- Once both are normalised, the path `p` lies in the directory `dir`. -/
def Inside (p dir : List Char) : Prop := absNorm dir <+: absNorm p

instance (p dir : List Char) : Decidable (Inside p dir) :=
  inferInstanceAs (Decidable (absNorm dir <+: absNorm p))

theorem normComps_append (acc xs ys : List (List Char)) :
    normComps acc (xs ++ ys) = normComps (normComps acc xs).reverse ys := by
  induction xs generalizing acc with
  | nil => simp [normComps]
  | cons c xs ih =>
    simp only [List.cons_append, normComps]
    split_ifs <;> exact ih _

theorem normComps_of_no_dotdot {cs : List (List Char)} (h : ∀ c ∈ cs, c ≠ ['.', '.'])
    (acc : List (List Char)) :
    normComps acc cs = acc.reverse ++ cs.filter fun c => !(c = [] ∨ c = ['.']) := by
  induction cs generalizing acc with
  | nil => simp [normComps]
  | cons c cs ih =>
    have ih := ih fun c' hc' => h c' (.tail _ hc')
    rw [normComps]
    split_ifs with h₁ h₂
    · rw [ih, List.filter_cons_of_neg (by simp [h₁])]
    · exact absurd h₂ (h c (List.mem_cons_self _ _))
    · rw [ih, List.filter_cons_of_pos (by simpa using h₁)]
      simp

theorem normComps_dotdot (k : Nat) (acc cs : List (List Char)) :
    normComps acc (List.replicate k ['.', '.'] ++ cs) = normComps (acc.drop k) cs := by
  induction k generalizing acc with
  | zero => rfl
  | succ k ih =>
    rw [List.replicate_succ, List.cons_append, normComps, if_neg (by decide), if_pos rfl, ih]
    cases acc <;> simp

theorem splitOn_append_slash (xs ys : List Char) :
    (xs ++ '/' :: ys).splitOn '/' = xs.splitOn '/' ++ ys.splitOn '/' := by
  simp only [List.splitOn]
  induction xs with
  | nil => simp
  | cons x xs ih =>
    rw [List.cons_append, List.splitOnP_cons, List.splitOnP_cons, ih]
    split
    · rfl
    · obtain ⟨h, t, he⟩ := List.exists_cons_of_ne_nil (List.splitOnP_ne_nil _ xs)
      rw [he]
      rfl

theorem splitOn_dotdots (k : Nat) (rest : List Char) :
    ((List.replicate k ['.', '.', '/']).flatten ++ rest).splitOn '/' =
      List.replicate k ['.', '.'] ++ rest.splitOn '/' := by
  induction k with
  | zero => rfl
  | succ k ih =>
    rw [List.replicate_succ, List.flatten_cons, List.append_assoc,
      show ['.', '.', '/'] ++ ((List.replicate k ['.', '.', '/']).flatten ++ rest) =
        ['.', '.'] ++ '/' :: ((List.replicate k ['.', '.', '/']).flatten ++ rest) from rfl,
      splitOn_append_slash, ih]
    rfl

theorem absNorm_posixJoin {a b : List Char} (ha : a ≠ []) (hb : b.head? ≠ some '/') :
    absNorm (posixJoin a b) = normComps (absNorm a).reverse (b.splitOn '/') := by
  rw [posixJoin, if_neg hb]
  split
  · next h =>
    obtain ⟨a', rfl⟩ := List.getLast?_eq_some_iff.1 (h.resolve_left ha)
    rw [List.append_assoc, List.singleton_append, absNorm, splitOn_append_slash, absNorm,
      splitOn_append_slash, normComps_append, normComps_append]
    simp [normComps, List.splitOn_nil]
  · rw [absNorm, splitOn_append_slash, normComps_append]
    rfl

/-- A relative path without a `..` component stays in the directory it is joined to. -/
theorem inside_posixJoin {a b : List Char} (ha : a ≠ []) (hb : b.head? ≠ some '/')
    (hdd : ∀ c ∈ b.splitOn '/', c ≠ ['.', '.']) : Inside (posixJoin a b) a := by
  rw [Inside, absNorm_posixJoin ha hb, normComps_of_no_dotdot hdd, List.reverse_reverse]
  exact List.prefix_append _ _

/-! ## What COPY reads and writes -/

theorem handleCopy_ok (layerPath context args : List Char) {srcs : List (List Char)}
    {dest : List Char} (hw : splitWords args [] = srcs ++ [dest]) (hs : srcs ≠ []) :
    handleCopy true layerPath context args =
      .ok (srcs.map (copySource context), copyTarget layerPath dest) := by
  obtain ⟨x, xs, hx⟩ := List.exists_cons_of_ne_nil (List.reverse_ne_nil_iff.2 hs)
  rw [handleCopy, if_neg (by decide), hw, List.reverse_append, List.reverse_singleton,
    List.singleton_append, hx]
  dsimp only
  rw [← hx, List.reverse_reverse]

theorem head?_dropWhile_slash : ∀ (l : List Char), (l.dropWhile (· = '/')).head? ≠ some '/'
  | [] => by simp
  | c :: l => by
    by_cases hc : c = '/'
    · rw [List.dropWhile_cons_of_pos (by simpa using hc)]
      exact head?_dropWhile_slash l
    · rw [List.dropWhile_cons_of_neg (by simpa using hc)]
      simpa using hc

/-- For every argument string, `_handle_copy` reads each source at `os.path.join(context, src)`
and writes under `os.path.join(layer_path, dest.lstrip("/"))`. A relative source and a
destination without a `..` component stay in the context and in the layer. An absolute source
is read as it is, and a destination that starts with at least as many `../` as the layer path
has components writes at the rest of it, taken from the root. -/
theorem handleCopy_escapes (layerPath context : List Char) (hl : layerPath ≠ [])
    (hc : context ≠ []) :
    (∀ args srcs dest, splitWords args [] = srcs ++ [dest] → srcs ≠ [] →
      handleCopy true layerPath context args =
        .ok (srcs.map (copySource context), copyTarget layerPath dest)) ∧
    (∀ src, src.head? ≠ some '/' → (∀ c ∈ src.splitOn '/', c ≠ ['.', '.']) →
      Inside (copySource context src) context) ∧
    (∀ dest, (∀ c ∈ (dest.dropWhile (· = '/')).splitOn '/', c ≠ ['.', '.']) →
      Inside (copyTarget layerPath dest) layerPath) ∧
    (∀ src, src.head? = some '/' → copySource context src = src) ∧
    (∀ k rest, 0 < k → (absNorm layerPath).length ≤ k →
      absNorm (copyTarget layerPath ((List.replicate k ['.', '.', '/']).flatten ++ rest)) =
        absNorm rest) := by
  refine ⟨fun args srcs dest hw hs => handleCopy_ok layerPath context args hw hs,
    fun src hs hdd => inside_posixJoin hc hs hdd,
    fun dest hdd => inside_posixJoin hl (head?_dropWhile_slash dest) hdd,
    fun src hs => by rw [copySource, posixJoin, if_pos hs], fun k rest hk hlen => ?_⟩
  obtain ⟨k, rfl⟩ : ∃ j, k = j + 1 := ⟨k - 1, by omega⟩
  have hdrop : ((List.replicate (k + 1) ['.', '.', '/']).flatten ++ rest).dropWhile (· = '/') =
      (List.replicate (k + 1) ['.', '.', '/']).flatten ++ rest := by
    simp [List.replicate_succ]
  rw [copyTarget, hdrop, absNorm_posixJoin hl (by simp [List.replicate_succ]), splitOn_dotdots,
    normComps_dotdot, List.drop_of_length_le (by simpa using hlen)]
  rfl

/-- The layer of a COPY instruction in the image store. -/
def copyLayer : List Char := "/var/lib/mini-docker/images/aaaaaaaaaaaa/layers/bbbbbbbbbbbb".toList

/-- `COPY /etc/shadow ../../../../../../../tmp/x` in a build file under `/home/u/app`: the
host's `/etc/shadow` is read and the copy is written at `/tmp/x`. -/
theorem handleCopy_escapes_shadow :
    handleCopy true copyLayer "/home/u/app".toList
        "/etc/shadow ../../../../../../../tmp/x".toList =
      .ok (["/etc/shadow".toList],
        copyTarget copyLayer ((List.replicate 7 ['.', '.', '/']).flatten ++ "tmp/x".toList)) ∧
    absNorm (copyTarget copyLayer ((List.replicate 7 ['.', '.', '/']).flatten ++ "tmp/x".toList)) =
      ["tmp".toList, "x".toList] ∧
    ¬ Inside "/etc/shadow".toList "/home/u/app".toList :=
  have h := handleCopy_escapes copyLayer "/home/u/app".toList (by decide) (by decide)
  ⟨by
    rw [h.1 _ ["/etc/shadow".toList] "../../../../../../../tmp/x".toList (by decide) (by decide)]
    rfl,
    (h.2.2.2.2 7 "tmp/x".toList (by decide) (by decide)).trans (by decide), by decide⟩

end MiniDocker.Image
