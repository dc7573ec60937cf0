import MiniDocker.Record.Value

/-! # json.dump with indent=2, and json.load

The text `json.dump(obj, f, indent=2)` writes, and the value `json.load` reads back, over
`List Char`. `dump` follows `_make_iterencode`, which the indented encoder uses. Lists and
dicts put each item on its own line, indented by two spaces per level, with `,` after every
item but the last and `: ` after a key. Strings pass through `encode_basestring_ascii`, which
escapes every code point outside printable ASCII, above U+FFFF as a surrogate pair. Floats are
printed by `floatstr`, which writes `NaN`, `Infinity` and `-Infinity` for the non-finite ones.

`load` follows the C scanner of `json.decoder` with `strict=True`. It joins a `\u` high
surrogate with a `\u` low surrogate that follows it, and reads a number with a fraction or an
exponent as a float. A key seen twice keeps its first place and takes its last value, as
`PyDict_SetItem` does. The scanner is given a nesting budget; the length of the text always
suffices for what `dump` writes.

Numbers are exact decimals (`Decimal`), not doubles: `load` keeps the digits of a float
literal where `float()` rounds them, and reads `1e400` as itself where Python gives `inf`. For
every text `dump` writes the two agree, since `float.__repr__` prints the shortest decimal that
rounds back to the same double.
-/

namespace MiniDocker.Record
set_option autoImplicit false

/-! ## Writing -/

/-- A digit of `Py_hexdigits`. -/
def hexDigit (d : Nat) : Char := if d < 10 then Char.ofNat (48 + d) else Char.ofNat (87 + d)

/-- Four lowercase hex digits of a 16-bit value. -/
def hex4 (v : Nat) : List Char :=
  [hexDigit (v / 4096 % 16), hexDigit (v / 256 % 16), hexDigit (v / 16 % 16), hexDigit (v % 16)]

/-- `ascii_escape_unichar`, and the printable characters `S_CHAR` passes through. -/
def escapeCodePoint (c : Nat) : List Char :=
  if c = 0x5c then ['\\', '\\']
  else if c = 0x22 then ['\\', '"']
  else if 0x20 ≤ c ∧ c ≤ 0x7e then [Char.ofNat c]
  else if c = 8 then ['\\', 'b']
  else if c = 12 then ['\\', 'f']
  else if c = 10 then ['\\', 'n']
  else if c = 13 then ['\\', 'r']
  else if c = 9 then ['\\', 't']
  else if 0x10000 ≤ c then
    '\\' :: 'u' :: hex4 (0xd7c0 + c / 1024) ++ '\\' :: 'u' :: hex4 (0xdc00 + c % 1024)
  else '\\' :: 'u' :: hex4 c

/-- The escaped code points of a string, without the quotes. -/
def escapeChars : List (Fin 0x110000) → List Char
  | [] => []
  | c :: s => escapeCodePoint c.val ++ escapeChars s

/-- `encode_basestring_ascii`. -/
def encodeString (s : List (Fin 0x110000)) : List Char := '"' :: escapeChars s ++ ['"']

/-- The decimal digits of a natural number, most significant first. -/
def natDigits (n : Nat) : List Char := Nat.toDigits 10 n

/-- `int.__repr__`. -/
def intRepr (i : Int) : List Char :=
  if i < 0 then '-' :: natDigits i.natAbs else natDigits i.natAbs

/-- The exponent of `repr` in scientific notation: a sign and at least two digits. -/
def expRepr (x : Int) : List Char :=
  (if x < 0 then '-' else '+') ::
    (if x.natAbs < 10 then '0' :: natDigits x.natAbs else natDigits x.natAbs)

/-- The digits of `float.__repr__` with the point placed `decpt` digits after the start:
positional notation when the point falls between 4 places before and 16 places after the first
digit, with `.0` added to a whole number, and scientific notation otherwise. -/
def reprDigits (ds : List Char) (decpt : Int) : List Char :=
  if decpt ≤ -4 ∨ 16 < decpt then
    ds.take 1 ++ (if ds.length = 1 then [] else '.' :: ds.drop 1) ++ 'e' :: expRepr (decpt - 1)
  else if decpt ≤ 0 then '0' :: '.' :: List.replicate (-decpt).toNat '0' ++ ds
  else if ds.length ≤ decpt.toNat then
    ds ++ List.replicate (decpt.toNat - ds.length) '0' ++ ['.', '0']
  else ds.take decpt.toNat ++ '.' :: ds.drop decpt.toNat

/-- `float.__repr__` of a finite float: the sign, then the shortest digits. -/
def decimalRepr (d : Decimal) : List Char :=
  let ds := natDigits d.digits
  let body := reprDigits ds (ds.length + d.exp)
  if d.neg then '-' :: body else body

/-- `floatstr` of the encoder, with `allow_nan=True`. -/
def floatStr : PyFloat → List Char
  | .finite d => decimalRepr d
  | .inf false => "Infinity".toList
  | .inf true => "-Infinity".toList
  | .nan => "NaN".toList

/-- A newline and the indentation of a level. -/
def newlineIndent (level : Nat) : List Char := '\n' :: List.replicate (2 * level) ' '

mutual
/-- `_iterencode` at an indentation level. -/
def encode : Nat → PyVal → List Char
  | _, .none => "null".toList
  | _, .bool true => "true".toList
  | _, .bool false => "false".toList
  | _, .int i => intRepr i
  | _, .float x => floatStr x
  | _, .str s => encodeString s
  | _, .list [] => "[]".toList
  | l, .list (x :: xs) =>
    '[' :: newlineIndent (l + 1) ++ encode (l + 1) x ++ encodeItems (l + 1) xs ++
      newlineIndent l ++ [']']
  | _, .dict [] => "{}".toList
  | l, .dict (kv :: kvs) =>
    '{' :: newlineIndent (l + 1) ++ encodeString kv.1 ++ ':' :: ' ' :: encode (l + 1) kv.2 ++
      encodeMembers (l + 1) kvs ++ newlineIndent l ++ ['}']

/-- The items of `_iterencode_list` after the first. -/
def encodeItems : Nat → List PyVal → List Char
  | _, [] => []
  | l, x :: xs => ',' :: newlineIndent l ++ encode l x ++ encodeItems l xs

/-- The items of `_iterencode_dict` after the first. -/
def encodeMembers : Nat → List (List (Fin 0x110000) × PyVal) → List Char
  | _, [] => []
  | l, kv :: kvs =>
    ',' :: newlineIndent l ++ encodeString kv.1 ++ ':' :: ' ' :: encode l kv.2 ++
      encodeMembers l kvs
end

/-- The text `json.dump(obj, f, indent=2)` writes. -/
def dump (v : PyVal) : List Char := encode 0 v

/-! ## Reading -/

/-- The whitespace of the decoder. -/
def isJsonWs (c : Char) : Bool := c = ' ' || c = '\t' || c = '\n' || c = '\r'

/-- Skip whitespace. -/
def skipWs (cs : List Char) : List Char := cs.dropWhile isJsonWs

/-- The value of a hex digit, either case. -/
def hexVal (c : Char) : Option Nat :=
  if '0' ≤ c ∧ c ≤ '9' then some (c.toNat - 48)
  else if 'a' ≤ c ∧ c ≤ 'f' then some (c.toNat - 87)
  else if 'A' ≤ c ∧ c ≤ 'F' then some (c.toNat - 55)
  else none

/-- Four hex digits. -/
def hexVal4 (a b c d : Char) : Option Nat := do
  let a ← hexVal a
  let b ← hexVal b
  let c ← hexVal c
  let d ← hexVal d
  return ((a * 16 + b) * 16 + c) * 16 + d

/-- The one-letter escapes. -/
def simpleEscape (c : Char) : Option (Fin 0x110000) :=
  if c = '"' then some 0x22 else if c = '\\' then some 0x5c else if c = '/' then some 0x2f
  else if c = 'b' then some 8 else if c = 'f' then some 12 else if c = 'n' then some 10
  else if c = 'r' then some 13 else if c = 't' then some 9 else none

/-- Prepend a code point to a decoded string. -/
def consCodePoint (c : Fin 0x110000) :
    Except String (List (Fin 0x110000) × List Char) → Except String (List (Fin 0x110000) × List Char)
  | .ok (s, r) => .ok (c :: s, r)
  | .error e => .error e

/-- The code point a high and a low surrogate stand for. -/
def joinSurrogates (hi lo : Nat) : Nat := 0x10000 + (hi - 0xd800) * 1024 + (lo - 0xdc00)

theorem joinSurrogates_lt {hi lo : Nat} (h₁ : hi ≤ 0xdbff) (h₂ : lo ≤ 0xdfff) :
    joinSurrogates hi lo < 0x110000 := by
  unfold joinSurrogates; omega

theorem hexVal_lt {c : Char} {d : Nat} (h : hexVal c = some d) : d < 16 := by
  simp only [hexVal] at h
  split_ifs at h with h₁ h₂ h₃ <;> cases h
  · have : c.toNat ≤ 57 := h₁.2
    omega
  · have : c.toNat ≤ 102 := h₂.2
    have : 97 ≤ c.toNat := h₂.1
    omega
  · have : c.toNat ≤ 70 := h₃.2
    have : 65 ≤ c.toNat := h₃.1
    omega

theorem hexVal4_lt {a b c d : Char} {v : Nat} (h : hexVal4 a b c d = some v) : v < 0x10000 := by
  simp only [hexVal4, Option.bind_eq_bind, Option.bind_eq_some, Option.pure_def,
    Option.some.injEq] at h
  obtain ⟨a', ha, b', hb, c', hc, d', hd, rfl⟩ := h
  have := hexVal_lt ha; have := hexVal_lt hb; have := hexVal_lt hc; have := hexVal_lt hd
  omega

/-- `scanstring_unicode` after the opening quote: the code points up to the closing quote and
the text after it. A `\u` escape needs one more character after its four digits. A high
surrogate looks at the next six characters, when at least one more follows them, for a `\u`
low surrogate to join; when the six hold no low surrogate, scanning goes on right after the
first escape. -/
def scanString : List Char → Except String (List (Fin 0x110000) × List Char)
  | [] => .error "Unterminated string"
  | '"' :: r => .ok ([], r)
  | '\\' :: 'u' :: a :: b :: c :: d :: '\\' :: 'u' :: a' :: b' :: c' :: d' :: x :: rest =>
    match h : hexVal4 a b c d with
    | none => .error "Invalid \\uXXXX escape"
    | some v =>
      if hv : 0xd800 ≤ v ∧ v ≤ 0xdbff then
        match hexVal4 a' b' c' d' with
        | none => .error "Invalid \\uXXXX escape"
        | some w =>
          if hw : 0xdc00 ≤ w ∧ w ≤ 0xdfff then
            consCodePoint ⟨joinSurrogates v w, joinSurrogates_lt hv.2 hw.2⟩ (scanString (x :: rest))
          else consCodePoint ⟨v, by have := hexVal4_lt h; omega⟩
            (scanString ('\\' :: 'u' :: a' :: b' :: c' :: d' :: x :: rest))
      else consCodePoint ⟨v, by have := hexVal4_lt h; omega⟩
        (scanString ('\\' :: 'u' :: a' :: b' :: c' :: d' :: x :: rest))
  | '\\' :: 'u' :: a :: b :: c :: d :: x :: r =>
    match h : hexVal4 a b c d with
    | none => .error "Invalid \\uXXXX escape"
    | some v => consCodePoint ⟨v, by have := hexVal4_lt h; omega⟩ (scanString (x :: r))
  | '\\' :: 'u' :: _ => .error "Invalid \\uXXXX escape"
  | ['\\'] => .error "Unterminated string"
  | '\\' :: e :: r =>
    match simpleEscape e with
    | some c => consCodePoint c (scanString r)
    | none => .error "Invalid \\escape"
  | c :: r =>
    if c.toNat < 0x20 then .error "Invalid control character"
    else consCodePoint ⟨c.toNat, Char.toNat_lt_codeSpace c⟩ (scanString r)

/-- The value of a digit string. -/
def digitsValue (ds : List Char) : Nat := ds.foldl (fun acc c => acc * 10 + (c.toNat - 48)) 0

/-- The integer part of a number: `0`, or a digit 1 to 9 and the digits after it. -/
def intPart : List Char → Option (List Char × List Char)
  | '0' :: r => some (['0'], r)
  | c :: r => if c.isDigit then some (c :: (r.span Char.isDigit).1, (r.span Char.isDigit).2)
    else none
  | [] => none

/-- The fraction of a number: a dot and at least one digit, or nothing. -/
def fracPart : List Char → List Char × List Char
  | '.' :: d :: r =>
    if d.isDigit then (d :: (r.span Char.isDigit).1, (r.span Char.isDigit).2)
    else ([], '.' :: d :: r)
  | r => ([], r)

/-- The digits of an exponent after its sign, or nothing when there are none. -/
def expDigits (neg : Bool) (r : List Char) : Option (Int × List Char) :=
  match r.span Char.isDigit with
  | ([], _) => none
  | (ds, rest) => some (if neg then -(digitsValue ds : Int) else digitsValue ds, rest)

/-- The exponent of a number: `e` or `E`, a sign, and at least one digit; the scanner backs
up when no digit follows. -/
def expPart : List Char → Option (Int × List Char)
  | e :: r =>
    if e = 'e' ∨ e = 'E' then
      match r with
      | '-' :: r' => expDigits true r'
      | '+' :: r' => expDigits false r'
      | r' => expDigits false r'
    else none
  | [] => none

/-- `_match_number_unicode` after the sign: an int, or with a fraction or an exponent a
float. -/
def matchUnsigned (neg : Bool) (body : List Char) : Except String (PyVal × List Char) :=
  match intPart body with
  | none => .error "Expecting value"
  | some (ip, r) =>
    let fr := fracPart r
    match expPart fr.2 with
    | none =>
      if fr.1 = [] then
        .ok (.int (if neg then -(digitsValue ip : Int) else digitsValue ip), fr.2)
      else
        .ok (.float (.finite
          (Decimal.ofParts neg (digitsValue (ip ++ fr.1)) (-(fr.1.length : Int)))), fr.2)
    | some (x, rest) =>
      .ok (.float (.finite (Decimal.ofParts neg (digitsValue (ip ++ fr.1)) (x - fr.1.length))),
        rest)

/-- `_match_number_unicode`: an optional minus sign, then the number. -/
def matchNumber : List Char → Except String (PyVal × List Char)
  | '-' :: body => matchUnsigned true body
  | body => matchUnsigned false body

/-- `PyDict_SetItem`: a present key keeps its place and takes the new value. -/
def dictSet (kvs : List (List (Fin 0x110000) × PyVal)) (k : List (Fin 0x110000)) (v : PyVal) :
    List (List (Fin 0x110000) × PyVal) :=
  if kvs.any (·.1 == k) then kvs.map fun kv => if kv.1 = k then (k, v) else kv
  else kvs ++ [(k, v)]

/-- The named constants `scan_once_unicode` recognises, in the order its switch tries them,
with their values: `NaN` and the infinities as `parse_constant` gives them. -/
def constants : List (List Char × PyVal) :=
  [("null".toList, .none), ("true".toList, .bool true), ("false".toList, .bool false),
   ("NaN".toList, .float .nan), ("Infinity".toList, .float (.inf false)),
   ("-Infinity".toList, .float (.inf true))]

/-- The named constant the text starts with, and the text after it. -/
def scanConstant (cs : List Char) : Option (PyVal × List Char) :=
  constants.findSome? fun c => if c.1.isPrefixOf cs then some (c.2, cs.drop c.1.length) else none

mutual
/-- `scan_once_unicode` with a nesting budget. -/
def scanValue : Nat → List Char → Except String (PyVal × List Char)
  | 0, _ => .error "RecursionError"
  | n + 1, cs =>
    match cs with
    | '"' :: r =>
      match scanString r with
      | .ok (s, r) => .ok (.str s, r)
      | .error e => .error e
    | '{' :: r =>
      match skipWs r with
      | '}' :: r => .ok (.dict [], r)
      | '"' :: r => scanMembers n [] r
      | _ => .error "Expecting property name enclosed in double quotes"
    | '[' :: r =>
      match skipWs r with
      | ']' :: r => .ok (.list [], r)
      | r =>
        match scanValue n r with
        | .ok (v, r) =>
          match scanItems n (skipWs r) with
          | .ok (vs, r) => .ok (.list (v :: vs), r)
          | .error e => .error e
        | .error e => .error e
    | _ =>
      match scanConstant cs with
      | some (v, r) => .ok (v, r)
      | none => matchNumber cs

/-- The rest of `_parse_array_unicode` after an item and the whitespace after it. -/
def scanItems : Nat → List Char → Except String (List PyVal × List Char)
  | 0, _ => .error "RecursionError"
  | _ + 1, ']' :: r => .ok ([], r)
  | n + 1, ',' :: r =>
    match scanValue n (skipWs r) with
    | .ok (v, r) =>
      match scanItems n (skipWs r) with
      | .ok (vs, r) => .ok (v :: vs, r)
      | .error e => .error e
    | .error e => .error e
  | _ + 1, _ => .error "Expecting ',' delimiter"

/-- The loop of `_parse_object_unicode` from a key's opening quote, with the dict so far. -/
def scanMembers : Nat → List (List (Fin 0x110000) × PyVal) → List Char →
    Except String (PyVal × List Char)
  | 0, _, _ => .error "RecursionError"
  | n + 1, acc, cs =>
    match scanString cs with
    | .error e => .error e
    | .ok (k, r) =>
      match skipWs r with
      | ':' :: r =>
        match scanValue n (skipWs r) with
        | .error e => .error e
        | .ok (v, r) =>
          match skipWs r with
          | '}' :: r => .ok (.dict (dictSet acc k v), r)
          | ',' :: r =>
            match skipWs r with
            | '"' :: r => scanMembers n (dictSet acc k v) r
            | _ => .error "Expecting property name enclosed in double quotes"
          | _ => .error "Expecting ',' delimiter"
      | _ => .error "Expecting ':' delimiter"
end

/-- `json.loads` (which `json.load` applies to the file's text) with a nesting budget: one
value between whitespace, and nothing after it. -/
def loadsWith (n : Nat) (s : List Char) : Except String PyVal :=
  if s.head? = some '﻿' then .error "Unexpected UTF-8 BOM (decode using utf-8-sig)" else
  match scanValue n (skipWs s) with
  | .ok (v, r) => if skipWs r = [] then .ok v else .error "Extra data"
  | .error e => .error e

/-- `json.load` of a file's text. -/
def load (s : List Char) : Except String PyVal := loadsWith (s.length + 1) s

example : dump (.list [.int 1, .str (pyStr "a\"")]) = "[\n  1,\n  \"a\\\"\"\n]".toList := by
  decide

end MiniDocker.Record
