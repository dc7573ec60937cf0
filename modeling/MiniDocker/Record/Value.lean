import Mathlib.Algebra.Group.Int
import Mathlib.Algebra.Group.Nat.Basic
import Mathlib.Data.List.Nodup

/-! # Python values held by records

The values that `asdict` hands to `json.dump` and that `json.load` hands back:
`None`, booleans, integers, floats, strings, lists and dicts with string keys.

A finite float is kept as the decimal that `float.__repr__` prints for it: a sign, a digit
string without trailing zeros and a power of ten. `repr` prints the shortest decimal that reads
back as the same double, so a double and its repr determine each other; this module does not
model binary rounding, overflow to infinity, or decimals longer than a double holds.

A string is a list of code points, lone surrogates included, as a Python `str` is.

Equality is Python's `==`, which is not structural: `nan == nan` is false, `-0.0 == 0.0` is
true, and `True == 1 == 1.0`.
-/

namespace MiniDocker.Record
set_option autoImplicit false

/-- The decimal a finite float's repr prints, in lowest terms: `(-1)^neg · digits · 10^exp`,
the digits carrying no trailing zero, and zero written with exponent 0. -/
structure Decimal where
  neg : Bool
  digits : Nat
  exp : Int
  canonical : digits % 10 ≠ 0 ∨ digits = 0 ∧ exp = 0
  deriving DecidableEq, Repr

/-- A Python float: finite, an infinity, or `nan`. -/
inductive PyFloat where
  | finite (d : Decimal)
  | inf (neg : Bool)
  | nan
  deriving DecidableEq, Repr

/-- A Python value that `json.dump` can write. Strings are lists of code points. -/
inductive PyVal where
  | none
  | bool (b : Bool)
  | int (i : Int)
  | float (x : PyFloat)
  | str (s : List (Fin 0x110000))
  | list (xs : List PyVal)
  | dict (kvs : List (List (Fin 0x110000) × PyVal))
  deriving Repr

theorem Char.toNat_lt_codeSpace (c : Char) : c.toNat < 0x110000 := by
  have h := c.valid
  simp only [Char.toNat, UInt32.isValidChar, Nat.isValidChar] at h ⊢
  omega

/-- A UTF-16 high surrogate. -/
def isHighSurrogate (c : Nat) : Bool := 0xd800 ≤ c && c ≤ 0xdbff

/-- A UTF-16 low surrogate. -/
def isLowSurrogate (c : Nat) : Bool := 0xdc00 ≤ c && c ≤ 0xdfff

/-- No high surrogate stands right before a low one. A `str` may hold such a pair of code
points, but `json.dump` writes it as two `\u` escapes, which `json.load` joins into one. -/
def pairFree : List (Fin 0x110000) → Bool
  | a :: b :: s => !(isHighSurrogate a && isLowSurrogate b) && pairFree (b :: s)
  | _ => true

/-- A Lean string as a Python `str`. -/
def pyStr (s : String) : List (Fin 0x110000) :=
  s.toList.map fun c => ⟨c.toNat, Char.toNat_lt_codeSpace c⟩

theorem pyStr_injective : Function.Injective pyStr := by
  intro s t h
  have hm : s.toList.map Char.toNat = t.toList.map Char.toNat := by
    simpa [pyStr, List.map_map, Function.comp_def] using congrArg (List.map Fin.val) h
  exact String.ext (List.map_injective_iff.mpr (fun a b hab => Char.ext
    (UInt32.toNat.inj hab)) hm)

@[simp] theorem pyStr_inj {s t : String} : pyStr s = pyStr t ↔ s = t :=
  pyStr_injective.eq_iff

theorem Char.not_surrogate (c : Char) : isHighSurrogate c.toNat = false ∧
    isLowSurrogate c.toNat = false := by
  have h := c.valid
  simp only [Char.toNat, UInt32.isValidChar, Nat.isValidChar] at h
  simp only [isHighSurrogate, isLowSurrogate, Char.toNat, Bool.and_eq_false_iff,
    decide_eq_false_iff_not]
  omega

theorem pairFree_pyStr (s : String) : pairFree (pyStr s) = true := by
  suffices h : ∀ cs : List Char,
      pairFree (cs.map fun c => ⟨c.toNat, Char.toNat_lt_codeSpace c⟩) = true from h s.toList
  intro cs
  induction cs with
  | nil => rfl
  | cons a cs ih =>
    cases cs with
    | nil => rfl
    | cons b cs => simpa [pairFree, (Char.not_surrogate b).2] using ih

@[simp] theorem pyStr_beq (s t : String) : (pyStr s == pyStr t) = (s == t) := by
  by_cases h : s = t
  · subst h; simp
  · rw [beq_false_of_ne h, beq_false_of_ne (fun e => h (pyStr_injective e))]

@[simp] theorem pyStr_eq_nil {s : String} : pyStr s = [] ↔ s = "" := by
  simp [pyStr, String.ext_iff]

namespace Decimal

/-- Strip up to `fuel` trailing zeros of `m · 10^e`. -/
def strip : Nat → Nat → Int → Nat × Int
  | 0, m, e => (m, e)
  | fuel + 1, m, e => if m ≠ 0 ∧ m % 10 = 0 then strip fuel (m / 10) (e + 1) else (m, e)

theorem strip_canonical : ∀ (fuel m : Nat) (e : Int), m ≤ fuel →
    (strip fuel m e).1 % 10 ≠ 0 ∨ (strip fuel m e).1 = 0
  | 0, m, e, h => by simp [strip]; omega
  | fuel + 1, m, e, h => by
    simp only [strip]
    split
    · exact strip_canonical fuel (m / 10) (e + 1) (by omega)
    · omega

theorem strip_of_canonical {m : Nat} {e : Int} (h : m % 10 ≠ 0) (fuel : Nat) :
    strip fuel m e = (m, e) := by
  cases fuel <;> simp [strip, h]

/-- The float a decimal `(-1)^neg · m · 10^e` reads as, in lowest terms. -/
def ofParts (neg : Bool) (m : Nat) (e : Int) : Decimal :=
  if h : (strip m m e).1 = 0 then ⟨neg, 0, 0, .inr ⟨rfl, rfl⟩⟩
  else ⟨neg, (strip m m e).1, (strip m m e).2,
    .inl ((strip_canonical m m e le_rfl).resolve_right h)⟩

@[simp] theorem ofParts_self (d : Decimal) : ofParts d.neg d.digits d.exp = d := by
  obtain ⟨neg, m, e, h | ⟨rfl, rfl⟩⟩ := d
  · have hm : m ≠ 0 := by rintro rfl; simp at h
    simp [ofParts, strip_of_canonical h, hm]
  · simp [ofParts, strip]


theorem strip_fuel : ∀ (f f' m : Nat) (e : Int), m ≤ f → m ≤ f' → strip f m e = strip f' m e
  | 0, f', m, e, h, _ => by
    obtain rfl : m = 0 := by omega
    cases f' <;> simp [strip]
  | f + 1, 0, m, e, _, h => by
    obtain rfl : m = 0 := by omega
    simp [strip]
  | f + 1, f' + 1, m, e, h, h' => by
    simp only [strip]
    split
    · exact strip_fuel f f' (m / 10) (e + 1) (by omega) (by omega)
    · rfl

theorem ofParts_mul_ten (neg : Bool) (m : Nat) (e : Int) :
    ofParts neg (m * 10) e = ofParts neg m (e + 1) := by
  by_cases hm : m = 0
  · subst hm; simp [ofParts, strip]
  · have h : strip (m * 10) (m * 10) e = strip m m (e + 1) := by
      obtain ⟨f, hf⟩ : ∃ f, m * 10 = f + 1 := ⟨m * 10 - 1, by omega⟩
      rw [hf, strip, if_pos (by omega), show (f + 1) / 10 = m by omega]
      exact strip_fuel f m m _ (by omega) le_rfl
    simp only [ofParts, h]

theorem ofParts_mul_pow (neg : Bool) (m k : Nat) (e : Int) :
    ofParts neg (m * 10 ^ k) e = ofParts neg m (e + k) := by
  induction k generalizing e with
  | zero => simp
  | succ k ih =>
    rw [Nat.pow_succ, ← Nat.mul_assoc, ofParts_mul_ten, ih]
    congr 1
    push_cast
    omega

/-- Python's `==` on two finite floats: equal values, so the two zeros are equal. -/
def pyEq (a b : Decimal) : Bool := (a.digits == 0 && b.digits == 0) || decide (a = b)

/-- Python's `==` between a finite float and an int: a canonical decimal is an integer only
when its exponent is not negative. -/
def eqInt (d : Decimal) (i : Int) : Bool :=
  0 ≤ d.exp && (if d.neg then -1 else 1) * (d.digits * 10 ^ d.exp.toNat : Nat) == i

/-- The value times `10^s`, an integer once `s` covers a negative exponent. -/
def scaled (d : Decimal) (s : Nat) : Int :=
  (if d.neg then -1 else 1) * ((d.digits * 10 ^ (s + d.exp).toNat : Nat) : Int)

/-- Python's `<` on finite floats, compared at a common scale. -/
def lt (a b : Decimal) : Bool :=
  let s := max (-a.exp).toNat (-b.exp).toNat
  decide (a.scaled s < b.scaled s)

end Decimal

namespace PyFloat

/-- Python's `<` on floats: `nan` is below and above nothing. -/
def lt : PyFloat → PyFloat → Bool
  | .finite a, .finite b => a.lt b
  | .finite _, .inf n => !n
  | .inf n, .finite _ => n
  | .inf a, .inf b => a && !b
  | _, _ => false

/-- Python's `==` on floats. -/
def pyEq : PyFloat → PyFloat → Bool
  | .finite a, .finite b => a.pyEq b
  | .inf a, .inf b => a == b
  | _, _ => false

/-- Python's `==` between a float and an int. -/
def eqInt : PyFloat → Int → Bool
  | .finite d, i => d.eqInt i
  | _, _ => false

/-- Truthiness: only the zeros are false; `nan` is true. -/
def truthy : PyFloat → Bool
  | .finite d => d.digits != 0
  | _ => true

theorem pyEq_self {x : PyFloat} (h : x ≠ .nan) : x.pyEq x = true := by
  cases x with
  | finite d => simp [pyEq, Decimal.pyEq]
  | inf b => simp [pyEq]
  | nan => exact absurd rfl h

end PyFloat

/-- A Python dict from `str` to `str`: its items in insertion order, no key twice. -/
structure StrDict where
  items : List (String × String)
  nodup : (items.map Prod.fst).Nodup

namespace StrDict

/-- The empty dict. -/
def empty : StrDict := ⟨[], List.nodup_nil⟩

/-- Overwrite the value of an item, keeping its place. -/
def replaceAt (k v : String) : List (String × String) → List (String × String)
  | [] => []
  | kv :: kvs => if kv.1 = k then (k, v) :: kvs else kv :: replaceAt k v kvs

theorem map_fst_replaceAt (k v : String) (kvs : List (String × String)) :
    (replaceAt k v kvs).map Prod.fst = kvs.map Prod.fst := by
  induction kvs with
  | nil => rfl
  | cons kv kvs ih => by_cases h : kv.1 = k <;> simp [replaceAt, h, ih]

/-- `d[k] = v`: a present key keeps its place and takes the new value; a new key goes last. -/
def set (d : StrDict) (k v : String) : StrDict :=
  if h : k ∈ d.items.map Prod.fst then
    ⟨replaceAt k v d.items, by rw [map_fst_replaceAt]; exact d.nodup⟩
  else ⟨d.items ++ [(k, v)], by
    rw [List.map_append, List.nodup_append]
    exact ⟨d.nodup, List.nodup_singleton k, by simpa using h⟩⟩

end StrDict

namespace PyVal

/-- Python truthiness, which `__post_init__` tests with `if not self.hostname`. -/
def truthy : PyVal → Bool
  | .none => false
  | .bool b => b
  | .int i => i != 0
  | .float x => x.truthy
  | .str s => !s.isEmpty
  | .list xs => !xs.isEmpty
  | .dict kvs => !kvs.isEmpty

/-- A Lean string as a `str` value. -/
def ofString (s : String) : PyVal := .str (pyStr s)

/-- An optional string: `None` or a `str`. -/
def ofOption {α : Type} (f : α → PyVal) : Option α → PyVal
  | some a => f a
  | Option.none => .none

@[simp] theorem truthy_ofString (s : String) : (ofString s).truthy = true ↔ s ≠ "" := by
  simp [ofString, truthy]

mutual
/-- Python's `==`. Numbers compare by value across `bool`, `int` and `float`; a dict equals
another of the same size that maps each of its keys to an equal value. -/
def pyEq : PyVal → PyVal → Bool
  | .none, .none => true
  | .bool a, .bool b => a == b
  | .bool a, .int i => (if a then 1 else 0) == i
  | .int i, .bool b => i == (if b then 1 else 0)
  | .int i, .int j => i == j
  | .int i, .float y => y.eqInt i
  | .float x, .int j => x.eqInt j
  | .bool a, .float y => y.eqInt (if a then 1 else 0)
  | .float x, .bool b => x.eqInt (if b then 1 else 0)
  | .float x, .float y => x.pyEq y
  | .str s, .str t => s == t
  | .list xs, .list ys => pyEqList xs ys
  | .dict a, .dict b => a.length == b.length && pyEqDict a b
  | _, _ => false

/-- Elementwise `==` of two lists of the same length. -/
def pyEqList : List PyVal → List PyVal → Bool
  | [], [] => true
  | x :: xs, y :: ys => pyEq x y && pyEqList xs ys
  | _, _ => false

/-- Every key of the first dict is in `b` with an equal value. -/
def pyEqDict : List (List (Fin 0x110000) × PyVal) → List (List (Fin 0x110000) × PyVal) → Bool
  | [], _ => true
  | kv :: kvs, b => (match b.lookup kv.1 with
      | some w => pyEq kv.2 w
      | Option.none => false) && pyEqDict kvs b
end

mutual
/-- A value a Python program can hold that `json.dump` writes faithfully: no dict holds a key
twice, and no string a surrogate pair of code points. What `json.load` returns is of this
kind, and so is every value the records get from the command line. -/
def wellFormed : PyVal → Bool
  | .str s => pairFree s
  | .list xs => wellFormedList xs
  | .dict kvs => decide (kvs.map Prod.fst).Nodup && wellFormedDict kvs
  | _ => true

/-- Every item is well formed. -/
def wellFormedList : List PyVal → Bool
  | [] => true
  | x :: xs => wellFormed x && wellFormedList xs

/-- Every key and value is well formed. -/
def wellFormedDict : List (List (Fin 0x110000) × PyVal) → Bool
  | [] => true
  | kv :: kvs => pairFree kv.1 && wellFormed kv.2 && wellFormedDict kvs
end

mutual
/-- No `nan` anywhere in the value. -/
def nanFree : PyVal → Bool
  | .float .nan => false
  | .list xs => nanFreeList xs
  | .dict kvs => nanFreeDict kvs
  | _ => true

/-- No item holds `nan`. -/
def nanFreeList : List PyVal → Bool
  | [] => true
  | x :: xs => nanFree x && nanFreeList xs

/-- No value holds `nan`. -/
def nanFreeDict : List (List (Fin 0x110000) × PyVal) → Bool
  | [] => true
  | kv :: kvs => nanFree kv.2 && nanFreeDict kvs
end

theorem lookup_of_nodup {α β : Type} [BEq α] [LawfulBEq α] :
    ∀ {kvs : List (α × β)}, (kvs.map Prod.fst).Nodup → ∀ kv ∈ kvs, kvs.lookup kv.1 = some kv.2
  | [], _, _, h => absurd h (List.not_mem_nil _)
  | kv' :: kvs, hn, kv, hkv => by
    simp only [List.map_cons, List.nodup_cons, List.mem_map] at hn
    rcases List.mem_cons.1 hkv with rfl | hkv
    · exact List.lookup_cons_self
    · have hne : (kv.1 == kv'.1) = false := by
        simpa using fun he => hn.1 ⟨kv, hkv, he⟩
      rw [List.lookup_cons, hne]
      exact lookup_of_nodup hn.2 kv hkv

mutual
theorem pyEq_self : ∀ v : PyVal, v.wellFormed = true → v.nanFree = true → v.pyEq v = true
  | .none, _, _ => rfl
  | .bool b, _, _ => beq_self_eq_true b
  | .int i, _, _ => beq_self_eq_true i
  | .float x, _, h => PyFloat.pyEq_self (by rintro rfl; exact absurd h Bool.false_ne_true)
  | .str s, _, _ => beq_self_eq_true s
  | .list xs, hw, hn => pyEqList_self xs hw hn
  | .dict kvs, hw, hn => by
    simp only [wellFormed, Bool.and_eq_true, decide_eq_true_eq] at hw
    show (kvs.length == kvs.length && pyEqDict kvs kvs) = true
    rw [beq_self_eq_true, Bool.true_and]
    exact pyEqDict_of kvs kvs hw.2 hn (lookup_of_nodup hw.1)

theorem pyEqList_self : ∀ xs : List PyVal, wellFormedList xs = true → nanFreeList xs = true →
    pyEqList xs xs = true
  | [], _, _ => rfl
  | x :: xs, hw, hn => by
    simp only [wellFormedList, nanFreeList, Bool.and_eq_true] at hw hn
    show (pyEq x x && pyEqList xs xs) = true
    rw [pyEq_self x hw.1 hn.1, pyEqList_self xs hw.2 hn.2, Bool.and_self]

theorem pyEqDict_of : ∀ (kvs b : List (List (Fin 0x110000) × PyVal)), wellFormedDict kvs = true →
    nanFreeDict kvs = true → (∀ kv ∈ kvs, b.lookup kv.1 = some kv.2) → pyEqDict kvs b = true
  | [], _, _, _, _ => rfl
  | (k, v) :: kvs, b, hw, hn, hl => by
    simp only [wellFormedDict, nanFreeDict, Bool.and_eq_true] at hw hn
    simp only [pyEqDict, hl (k, v) (List.mem_cons_self _ _), pyEq_self v hw.1.2 hn.1,
      Bool.true_and]
    exact pyEqDict_of kvs b hw.2 hn.2 fun kv hkv => hl kv (List.mem_cons_of_mem _ hkv)
end

end PyVal

end MiniDocker.Record
