import MiniDocker.Record.Json

/-! # json.load reads back what json.dump writes

`load (dump v) = .ok v` for every well-formed value: one whose dicts hold no key twice and whose
strings hold no surrogate pair of code points (a lone surrogate is fine).

The proof follows the scanner. Each lexical piece has its lemma: a `\u` escape, a surrogate
pair, a one-letter escape and a printable character for strings; digits, fraction, exponent and
the `repr` cases for numbers. The scanner's three functions are then handled by one induction
on the budget, as each of them calls the others with a smaller one.
-/

namespace MiniDocker.Record
set_option autoImplicit false

/-! ## Strings -/

theorem hexVal_hexDigit_fin : ∀ d : Fin 16, hexVal (hexDigit d) = some d.val := by decide

theorem hexVal_hexDigit {d : Nat} (h : d < 16) : hexVal (hexDigit d) = some d :=
  hexVal_hexDigit_fin ⟨d, h⟩

theorem hexVal4_hex4 {v : Nat} (h : v < 0x10000) :
    hexVal4 (hexDigit (v / 4096 % 16)) (hexDigit (v / 256 % 16)) (hexDigit (v / 16 % 16))
      (hexDigit (v % 16)) = some v := by
  simp only [hexVal4, hexVal_hexDigit (Nat.mod_lt _ (by omega : 16 > 0)), Option.bind_eq_bind,
    Option.some_bind, Option.pure_def, Option.some.injEq]
  omega

/-- What may follow the `\u` escape of a high surrogate for the scanner to read that escape
alone: no `\u` escape of a low surrogate with a character after it, and no invalid one. -/
def LowFree (t : List Char) : Prop :=
  ∀ a b c d x rest, t = '\\' :: 'u' :: a :: b :: c :: d :: x :: rest →
    ∃ w, hexVal4 a b c d = some w ∧ isLowSurrogate w = false

theorem scanString_hex4 {v : Nat} (hv : v < 0x10000) {x : Char} {t : List Char}
    (hlow : isHighSurrogate v = true → LowFree (x :: t)) :
    scanString ('\\' :: 'u' :: hex4 v ++ x :: t) =
      consCodePoint ⟨v, by omega⟩ (scanString (x :: t)) := by
  simp only [hex4, List.cons_append, List.nil_append]
  by_cases hshape : ∃ a b c d y rest, x :: t = '\\' :: 'u' :: a :: b :: c :: d :: y :: rest
  · obtain ⟨a, b, c, d, y, rest, he⟩ := hshape
    rw [he, scanString.eq_3]
    split
    · next h => simp [hexVal4_hex4 hv] at h
    · next v' h =>
      obtain rfl : v' = v := by simpa [hexVal4_hex4 hv] using h.symm
      split
      · next hh =>
        obtain ⟨w, hw, hlw⟩ := hlow (by simpa [isHighSurrogate] using hh) a b c d y rest he
        simp only [isLowSurrogate, Bool.and_eq_false_iff, decide_eq_false_iff_not] at hlw
        simp only [hw]
        rw [dif_neg (by omega)]
      · rfl
  · rw [scanString.eq_4 _ _ _ _ x t (fun a b c d y rest hx ht => hshape ⟨a, b, c, d, y, rest, by rw [hx, ht]⟩)]
    split
    · next h => simp [hexVal4_hex4 hv] at h
    · next v' h =>
      obtain rfl : v' = v := by simpa [hexVal4_hex4 hv] using h.symm
      rfl

theorem toNat_ofNat_of_lt {n : Nat} (h : n < 0xd800) : (Char.ofNat n).toNat = n := by
  have hv : n.isValidChar := Or.inl h
  simp [Char.ofNat, hv, Char.ofNatAux, Char.toNat]
  rfl

theorem scanString_printable {ch : Char} (h₁ : ch ≠ '"') (h₂ : ch ≠ '\\') (h₃ : 0x20 ≤ ch.toNat)
    (t : List Char) :
    scanString (ch :: t) = consCodePoint ⟨ch.toNat, Char.toNat_lt_codeSpace ch⟩ (scanString t) := by
  rw [scanString.eq_8 _ _ h₁ (fun _ _ _ _ _ _ _ _ _ _ h _ => h₂ h)
    (fun _ _ _ _ _ _ h _ => h₂ h) (fun _ h _ => h₂ h) (fun h _ => h₂ h) (fun _ _ h _ => h₂ h), if_neg (by omega)]

theorem scanString_pair {c : Nat} (h₁ : 0x10000 ≤ c) (h₂ : c < 0x110000) (x : Char)
    (t : List Char) :
    scanString ('\\' :: 'u' :: hex4 (0xd7c0 + c / 1024) ++
      '\\' :: 'u' :: hex4 (0xdc00 + c % 1024) ++ x :: t) =
      consCodePoint ⟨c, h₂⟩ (scanString (x :: t)) := by
  have hhi : 0xd7c0 + c / 1024 < 0x10000 := by omega
  have hlo : 0xdc00 + c % 1024 < 0x10000 := by omega
  simp only [hex4, List.cons_append, List.nil_append]
  rw [scanString.eq_3]
  split
  · next h => simp [hexVal4_hex4 hhi] at h
  · next v h =>
    obtain rfl : v = 0xd7c0 + c / 1024 := by simpa [hexVal4_hex4 hhi] using h.symm
    rw [dif_pos (by omega), hexVal4_hex4 hlo]
    dsimp only
    rw [dif_pos (by omega)]
    have hj : joinSurrogates (0xd7c0 + c / 1024) (0xdc00 + c % 1024) = c := by
      unfold joinSurrogates; omega
    exact congrArg (fun v => consCodePoint v (scanString (x :: t))) (Fin.ext hj)

theorem scanString_simpleEscape (e : Char) (c : Fin 0x110000) (he : e ≠ 'u')
    (hc : simpleEscape e = some c) (t : List Char) :
    scanString ('\\' :: e :: t) = consCodePoint c (scanString t) := by
  rw [scanString.eq_7 _ _ (fun _ _ _ _ _ _ _ _ _ _ h _ => he h) (fun _ _ _ _ _ _ h _ => he h) he,
    hc]

theorem escapeCodePoint_cases {c : Nat} (hc : c < 0x110000) :
    (∃ e, e ≠ 'u' ∧ simpleEscape e = some ⟨c, hc⟩ ∧ escapeCodePoint c = ['\\', e]) ∨
    (∃ ch : Char, ch ≠ '"' ∧ ch ≠ '\\' ∧ 0x20 ≤ ch.toNat ∧ ch.toNat = c ∧
      escapeCodePoint c = [ch]) ∨
    (0x10000 ≤ c ∧ escapeCodePoint c =
      '\\' :: 'u' :: hex4 (0xd7c0 + c / 1024) ++ '\\' :: 'u' :: hex4 (0xdc00 + c % 1024)) ∨
    (c < 0x10000 ∧ escapeCodePoint c = '\\' :: 'u' :: hex4 c) := by
  by_cases h₁ : c = 0x5c
  · subst h₁; exact Or.inl ⟨'\\', by decide, rfl, rfl⟩
  by_cases h₂ : c = 0x22
  · subst h₂; exact Or.inl ⟨'"', by decide, rfl, rfl⟩
  by_cases h₃ : 0x20 ≤ c ∧ c ≤ 0x7e
  · have hn := toNat_ofNat_of_lt (n := c) (by omega)
    refine Or.inr (Or.inl ⟨_, fun h => h₂ ?_, fun h => h₁ ?_, by omega, hn, ?_⟩)
    · rw [← hn, h]; rfl
    · rw [← hn, h]; rfl
    · rw [escapeCodePoint, if_neg h₁, if_neg h₂, if_pos h₃]
  have hnot : escapeCodePoint c = if c = 8 then ['\\', 'b'] else if c = 12 then ['\\', 'f']
      else if c = 10 then ['\\', 'n'] else if c = 13 then ['\\', 'r'] else if c = 9 then ['\\', 't']
      else if 0x10000 ≤ c then
        '\\' :: 'u' :: hex4 (0xd7c0 + c / 1024) ++ '\\' :: 'u' :: hex4 (0xdc00 + c % 1024)
      else '\\' :: 'u' :: hex4 c := by
    rw [escapeCodePoint, if_neg h₁, if_neg h₂, if_neg h₃]
  obtain rfl | rfl | rfl | rfl | rfl | ⟨h8, h12, h10, h13, h9⟩ :
      c = 8 ∨ c = 12 ∨ c = 10 ∨ c = 13 ∨ c = 9 ∨ (c ≠ 8 ∧ c ≠ 12 ∧ c ≠ 10 ∧ c ≠ 13 ∧ c ≠ 9) := by
    omega
  · exact Or.inl ⟨'b', by decide, rfl, rfl⟩
  · exact Or.inl ⟨'f', by decide, rfl, rfl⟩
  · exact Or.inl ⟨'n', by decide, rfl, rfl⟩
  · exact Or.inl ⟨'r', by decide, rfl, rfl⟩
  · exact Or.inl ⟨'t', by decide, rfl, rfl⟩
  rw [hnot, if_neg h8, if_neg h12, if_neg h10, if_neg h13, if_neg h9]
  by_cases hbig : 0x10000 ≤ c
  · exact Or.inr (Or.inr (Or.inl ⟨hbig, if_pos hbig⟩))
  · exact Or.inr (Or.inr (Or.inr ⟨by omega, if_neg hbig⟩))

theorem scanString_escapeCodePoint (c : Fin 0x110000) {x : Char} {t : List Char}
    (hlow : isHighSurrogate c = true → LowFree (x :: t)) :
    scanString (escapeCodePoint c ++ x :: t) = consCodePoint c (scanString (x :: t)) := by
  obtain ⟨c, hc⟩ := c
  rcases escapeCodePoint_cases hc with ⟨e, he, hs, heq⟩ | ⟨ch, h₁, h₂, h₃, rfl, heq⟩ |
    ⟨h, heq⟩ | ⟨h, heq⟩ <;> rw [heq]
  · exact scanString_simpleEscape e _ he hs _
  · exact scanString_printable h₁ h₂ h₃ _
  · simp only [List.append_assoc, List.cons_append]
    exact scanString_pair h hc x t
  · exact scanString_hex4 h hlow

theorem lowFree_quote (r : List Char) : LowFree ('"' :: r) := by
  intro _ _ _ _ _ _ h
  simp at h

theorem lowFree_escapeCodePoint (c : Fin 0x110000) (hc : isLowSurrogate c = false)
    (u : List Char) : LowFree (escapeCodePoint c ++ u) := by
  obtain ⟨c, hcb⟩ := c
  intro a b c' d x rest h
  rcases escapeCodePoint_cases hcb with ⟨e, he, -, heq⟩ | ⟨ch, -, h₂, -, -, heq⟩ |
    ⟨h₁, heq⟩ | ⟨h₁, heq⟩ <;> rw [heq] at h <;> simp at h
  · exact absurd h.1 he
  · exact absurd h.1 h₂
  · have hhi : 0xd7c0 + c / 1024 < 0x10000 := by omega
    obtain ⟨rfl, rfl, rfl, rfl, -⟩ := h
    exact ⟨_, hexVal4_hex4 hhi, by simp [isLowSurrogate]; omega⟩
  · obtain ⟨rfl, rfl, rfl, rfl, -⟩ := h
    exact ⟨_, hexVal4_hex4 h₁, hc⟩

theorem pairFree_tail {c : Fin 0x110000} {s : List (Fin 0x110000)} (h : pairFree (c :: s) = true) :
    pairFree s = true := by
  cases s with
  | nil => rfl
  | cons _ _ => simp only [pairFree, Bool.and_eq_true] at h; exact h.2

theorem scanString_escapeChars :
    ∀ (s : List (Fin 0x110000)), pairFree s = true →
      ∀ r, scanString (escapeChars s ++ '"' :: r) = .ok (s, r)
  | [], _, r => by simp [escapeChars, scanString]
  | c :: s, hs, r => by
    obtain ⟨x, t, hxt⟩ : ∃ x t, escapeChars s ++ '"' :: r = x :: t :=
      List.exists_cons_of_ne_nil (by simp)
    have hlow : isHighSurrogate c = true → LowFree (x :: t) := by
      intro hhigh
      rw [← hxt]
      cases s with
      | nil => exact lowFree_quote r
      | cons c₂ s =>
        simp only [pairFree, hhigh, Bool.true_and, Bool.and_eq_true, Bool.not_eq_true'] at hs
        simpa only [escapeChars, List.append_assoc] using lowFree_escapeCodePoint c₂ hs.1 _
    rw [escapeChars, List.append_assoc, hxt, scanString_escapeCodePoint c hlow, ← hxt,
      scanString_escapeChars s (pairFree_tail hs) r]
    rfl
/-! ## Numbers -/

theorem digitChar_fin : ∀ d : Fin 10, (Nat.digitChar d).isDigit = true ∧
    (Nat.digitChar d).toNat - 48 = d ∧ (Nat.digitChar d = '0' ↔ d.val = 0) := by decide

theorem digitChar_spec {d : Nat} (h : d < 10) : (Nat.digitChar d).isDigit = true ∧
    (Nat.digitChar d).toNat - 48 = d ∧ (Nat.digitChar d = '0' ↔ d = 0) :=
  digitChar_fin ⟨d, h⟩

theorem toDigitsCore_succ (fuel n : Nat) (ds : List Char) :
    Nat.toDigitsCore 10 (fuel + 1) n ds =
      if n / 10 = 0 then Nat.digitChar (n % 10) :: ds
      else Nat.toDigitsCore 10 fuel (n / 10) (Nat.digitChar (n % 10) :: ds) := rfl

theorem toDigitsCore_append : ∀ (fuel n : Nat) (ds : List Char),
    Nat.toDigitsCore 10 fuel n ds = Nat.toDigitsCore 10 fuel n [] ++ ds
  | 0, _, _ => rfl
  | fuel + 1, n, ds => by
    rw [toDigitsCore_succ, toDigitsCore_succ]
    split
    · rfl
    · rw [toDigitsCore_append fuel _ (_ :: ds), toDigitsCore_append fuel _ [_]]
      simp

theorem digitsValue_append (L M : List Char) :
    digitsValue (L ++ M) = digitsValue L * 10 ^ M.length + digitsValue M := by
  suffices h : ∀ a, M.foldl (fun acc c => acc * 10 + (c.toNat - 48)) a =
      a * 10 ^ M.length + digitsValue M by
    simp only [digitsValue, List.foldl_append]; exact h _
  induction M with
  | nil => simp [digitsValue]
  | cons c M ih =>
    intro a
    simp only [List.foldl_cons, digitsValue] at ih ⊢
    rw [ih, ih (0 * 10 + _), List.length_cons, Nat.pow_succ]
    simp only [Nat.add_mul, Nat.zero_mul, Nat.zero_add, Nat.mul_assoc, Nat.mul_comm 10,
      Nat.add_assoc]

theorem natDigits_spec : ∀ (fuel n : Nat), n < fuel →
    ∃ d ds, Nat.toDigitsCore 10 fuel n [] = d :: ds ∧ d.isDigit = true ∧
      (∀ c ∈ ds, c.isDigit = true) ∧ (d = '0' → n = 0) ∧
      digitsValue (Nat.toDigitsCore 10 fuel n []) = n
  | 0, _, h => absurd h (Nat.not_lt_zero _)
  | fuel + 1, n, h => by
    have hd := digitChar_spec (Nat.mod_lt n (by omega : 10 > 0))
    rw [toDigitsCore_succ]
    split
    · next h0 =>
      refine ⟨_, [], rfl, hd.1, by simp, fun h' => by have := hd.2.2.mp h'; omega, ?_⟩
      simp only [digitsValue, List.foldl_cons, List.foldl_nil, hd.2.1]
      omega
    · next h0 =>
      obtain ⟨d, ds, he, hd₀, hds, h₀, hv⟩ := natDigits_spec fuel (n / 10) (by omega)
      rw [toDigitsCore_append, he]
      refine ⟨d, ds ++ [Nat.digitChar (n % 10)], List.cons_append _ _ _, hd₀, ?_, fun h' => absurd (h₀ h') h0, ?_⟩
      · simp only [List.mem_append, List.mem_singleton]
        rintro c (hc | rfl)
        exacts [hds c hc, hd.1]
      · rw [← he, digitsValue_append, hv]
        simp only [digitsValue, List.foldl_cons, List.foldl_nil, List.length_singleton, hd.2.1]
        omega

theorem natDigits_eq (n : Nat) : ∃ d ds, natDigits n = d :: ds ∧ d.isDigit = true ∧
    (∀ c ∈ ds, c.isDigit = true) ∧ (d = '0' → n = 0) ∧ digitsValue (natDigits n) = n :=
  natDigits_spec (n + 1) n (by omega)

/-- What may follow a number for the scanner to end it there: no digit, dot or exponent. -/
def NumEnd (t : List Char) : Prop :=
  ∀ c ∈ t.head?, c.isDigit = false ∧ c ≠ '.' ∧ c ≠ 'e' ∧ c ≠ 'E'

theorem span_isDigit {ds t : List Char} (hds : ∀ c ∈ ds, c.isDigit = true)
    (ht : ∀ c ∈ t.head?, c.isDigit = false) : (ds ++ t).span Char.isDigit = (ds, t) := by
  rw [List.span_eq_take_drop, List.takeWhile_append_of_pos hds, List.dropWhile_append_of_pos hds]
  cases t with
  | nil => simp
  | cons c t => simp [ht c rfl]

theorem intPart_natDigits (n : Nat) {t : List Char} (ht : ∀ c ∈ t.head?, c.isDigit = false) :
    intPart (natDigits n ++ t) = some (natDigits n, t) := by
  obtain ⟨d, ds, he, hd, hds, h0, -⟩ := natDigits_eq n
  by_cases hd0 : d = '0'
  · obtain rfl := h0 hd0
    rfl
  · rw [he, List.cons_append, intPart.eq_2 _ _ hd0, if_pos hd, span_isDigit hds ht]

theorem fracPart_of_ne {t : List Char} (h : ∀ c ∈ t.head?, c ≠ '.') : fracPart t = ([], t) :=
  fracPart.eq_2 _ fun _ _ he => h '.' (by simp [he]) rfl

theorem fracPart_digits {d : Char} {ds t : List Char} (hd : d.isDigit = true)
    (hds : ∀ c ∈ ds, c.isDigit = true) (ht : ∀ c ∈ t.head?, c.isDigit = false) :
    fracPart ('.' :: d :: ds ++ t) = (d :: ds, t) := by
  simp only [fracPart, List.cons_append, hd, if_true, span_isDigit hds ht]

theorem expPart_none {t : List Char} (h : NumEnd t) : expPart t = none := by
  cases t with
  | nil => rfl
  | cons c t =>
    obtain ⟨-, -, he, hE⟩ := h c rfl
    simp [expPart, he, hE]

theorem digitsValue_zero_cons (L : List Char) : digitsValue ('0' :: L) = digitsValue L := by
  rw [← List.singleton_append, digitsValue_append, show digitsValue ['0'] = 0 from rfl,
    Nat.zero_mul, Nat.zero_add]

theorem expDigits_of_digits (neg : Bool) {ds t : List Char} (hne : ds ≠ [])
    (hds : ∀ c ∈ ds, c.isDigit = true) (ht : ∀ c ∈ t.head?, c.isDigit = false) :
    expDigits neg (ds ++ t) =
      some (if neg then -(digitsValue ds : Int) else digitsValue ds, t) := by
  obtain ⟨d, ds, rfl⟩ := List.exists_cons_of_ne_nil hne
  simp only [expDigits, span_isDigit hds ht]

theorem expPart_expRepr (x : Int) {t : List Char} (ht : ∀ c ∈ t.head?, c.isDigit = false) :
    expPart ('e' :: expRepr x ++ t) = some (x, t) := by
  obtain ⟨d, ds, he, hd, hds, -, hv⟩ := natDigits_eq x.natAbs
  have hn : ∀ c ∈ natDigits x.natAbs, c.isDigit = true := by
    rw [he]; exact List.forall_mem_cons.mpr ⟨hd, hds⟩
  have hz : ∀ c ∈ '0' :: natDigits x.natAbs, c.isDigit = true := List.forall_mem_cons.mpr ⟨rfl, hn⟩
  have hne : natDigits x.natAbs ≠ [] := by simp [he]
  have hsign : ∀ (neg : Bool) (r : List Char),
      expPart ('e' :: (if neg then '-' else '+') :: r) = expDigits neg r := by
    intro neg r; cases neg <;> rfl
  have hx : (if x < 0 then '-' else '+') = if decide (x < 0) then '-' else '+' := by
    simp only [decide_eq_true_eq]
  simp only [expRepr, List.cons_append, hx, hsign]
  split_ifs with hsmall
  · rw [expDigits_of_digits _ (by simp) hz ht, digitsValue_zero_cons, hv]
    split_ifs with hneg <;> simp at hneg <;> congr <;> omega
  · rw [expDigits_of_digits _ hne hn ht, hv]
    split_ifs with hneg <;> simp at hneg <;> congr <;> omega

theorem matchNumber_sign (neg : Bool) {body : List Char} (hb : ∀ c ∈ body.head?, c ≠ '-') :
    matchNumber (if neg then '-' :: body else body) = matchUnsigned neg body := by
  cases neg
  · exact matchNumber.eq_2 _ fun b h => hb '-' (by simp at h; simp [h]) rfl
  · rfl

theorem matchUnsigned_int (neg : Bool) (n : Nat) {t : List Char} (ht : NumEnd t) :
    matchUnsigned neg (natDigits n ++ t) =
      .ok (.int (if neg then -(n : Int) else n), t) := by
  have ht' : ∀ c ∈ t.head?, c.isDigit = false := fun c hc => (ht c hc).1
  obtain ⟨-, -, -, -, -, -, hv⟩ := natDigits_eq n
  simp only [matchUnsigned, intPart_natDigits n ht', fracPart_of_ne fun c hc => (ht c hc).2.1,
    expPart_none ht, if_true, hv]

theorem matchUnsigned_frac (neg : Bool) (ip fr : List Char) {t : List Char}
    (hip : intPart (ip ++ ('.' :: fr ++ t)) = some (ip, '.' :: fr ++ t)) (hne : fr ≠ [])
    (hfr : ∀ c ∈ fr, c.isDigit = true) (ht : NumEnd t) :
    matchUnsigned neg (ip ++ ('.' :: fr ++ t)) = .ok (.float (.finite
      (Decimal.ofParts neg (digitsValue (ip ++ fr)) (-(fr.length : Int)))), t) := by
  obtain ⟨d, ds, rfl⟩ := List.exists_cons_of_ne_nil hne
  obtain ⟨hd, hds⟩ := List.forall_mem_cons.mp hfr
  simp only [matchUnsigned, hip, fracPart_digits hd hds fun c hc => (ht c hc).1, expPart_none ht,
    if_neg (List.cons_ne_nil _ _)]

theorem matchUnsigned_exp (neg : Bool) {ip r fr t : List Char} {x : Int}
    (hip : intPart (ip ++ r) = some (ip, r)) (hfr : fracPart r = (fr, 'e' :: expRepr x ++ t))
    (ht : ∀ c ∈ t.head?, c.isDigit = false) :
    matchUnsigned neg (ip ++ r) = .ok (.float (.finite
      (Decimal.ofParts neg (digitsValue (ip ++ fr)) (x - fr.length))), t) := by
  simp only [matchUnsigned, hip, hfr, expPart_expRepr x ht]

theorem digitsValue_zeros (k : Nat) : digitsValue (List.replicate k '0') = 0 := by
  induction k with
  | zero => rfl
  | succ k ih => rw [List.replicate_succ, digitsValue_zero_cons, ih]

theorem intPart_lead {c : Char} (cs : List Char) {r : List Char} (hc : c.isDigit = true) (hc0 : c ≠ '0')
    (hcs : ∀ x ∈ cs, x.isDigit = true) (hr : ∀ x ∈ r.head?, x.isDigit = false) :
    intPart (c :: cs ++ r) = some (c :: cs, r) := by
  rw [List.cons_append, intPart.eq_2 _ _ hc0, if_pos hc, span_isDigit hcs hr]

theorem matchNumber_signed (b : Bool) {B t : List Char} (hb : ∀ c ∈ B.head?, c ≠ '-')
    (hB : B ≠ []) : matchNumber ((if b then '-' :: B else B) ++ t) = matchUnsigned b (B ++ t) := by
  obtain ⟨x, B, rfl⟩ := List.exists_cons_of_ne_nil hB
  rw [apply_ite (· ++ t)]
  exact matchNumber_sign b (by simpa using hb)

theorem reprDigits_cons {c : Char} (cs : List Char) (decpt : Int) (hc : c.isDigit = true) :
    ∃ x r, reprDigits (c :: cs) decpt = x :: r ∧ x.isDigit = true := by
  simp only [reprDigits]
  split_ifs with h₁ h₂ h₃ h₄
  · exact ⟨c, _, rfl, hc⟩
  · exact ⟨c, _, rfl, hc⟩
  · exact ⟨'0', _, rfl, rfl⟩
  · exact ⟨c, _, rfl, hc⟩
  · obtain ⟨q, hq⟩ : ∃ q, decpt.toNat = q + 1 := ⟨decpt.toNat - 1, by omega⟩
    exact ⟨c, _, by rw [hq, List.take_succ_cons, List.cons_append], hc⟩

theorem matchNumber_decimalRepr (d : Decimal) {t : List Char} (ht : NumEnd t) :
    matchNumber (decimalRepr d ++ t) = .ok (.float (.finite d), t) := by
  obtain ⟨neg, m, e, hcan⟩ := d
  obtain ⟨c, cs, he, hc, hcs, h0, hv⟩ := natDigits_eq m
  have ht' : ∀ x ∈ t.head?, x.isDigit = false := fun x hx => (ht x hx).1
  have hself : ∀ {X : Nat} {E : Int}, X = m → E = e →
      Except.ok (.float (.finite (Decimal.ofParts neg X E)), t) =
        (.ok (.float (.finite ⟨neg, m, e, hcan⟩), t) : Except String (PyVal × List Char)) := by
    rintro X E rfl rfl; rw [Decimal.ofParts_self ⟨neg, X, E, hcan⟩]
  have hm0 : m = 0 → c = '0' ∧ cs = [] ∧ e = 0 := by
    rintro rfl
    have h := List.cons.inj (he.symm.trans (rfl : natDigits 0 = ['0']))
    exact ⟨h.1, h.2, by simpa using hcan⟩
  have hdig : ∀ x ∈ c :: cs, x.isDigit = true := List.forall_mem_cons.mpr ⟨hc, hcs⟩
  have hzeros : ∀ k, ∀ x ∈ List.replicate k '0', x.isDigit = true := fun k x hx => by
    rw [(List.mem_replicate.mp hx).2]; rfl
  obtain ⟨x, r, hxr, hx⟩ := reprDigits_cons cs (((c :: cs).length : Int) + e) hc
  have hxm : x ≠ '-' := by rintro rfl; simp at hx
  rw [he] at hv
  simp only [decimalRepr, he]
  rw [matchNumber_signed _ (by rw [hxr]; simpa using hxm) (by rw [hxr]; simp), reprDigits]
  simp only [List.length_cons]
  split_ifs with h₁ h₂ h₃ h₄
  · -- scientific notation, one digit
    obtain rfl : cs = [] := List.length_eq_zero.mp (by simpa using h₂)
    have hc0 : c ≠ '0' := fun h => by have := hm0 (h0 h); simp_all
    rw [List.take_one, List.head?_cons, Option.toList_some, List.append_nil, List.append_assoc,
      matchUnsigned_exp neg (intPart_lead [] hc hc0 (by simp) (by simp))
        (fracPart_of_ne (by simp)) ht']
    exact hself hv (by simp only [List.length_nil]; omega)
  · -- scientific notation, a fraction
    obtain ⟨d, ds, rfl⟩ := List.exists_cons_of_ne_nil (show cs ≠ [] by rintro rfl; simp at h₂)
    have hc0 : c ≠ '0' := fun h => by have := hm0 (h0 h); simp_all
    obtain ⟨hd, hds⟩ := List.forall_mem_cons.mp hcs
    have htext : ∀ x : Int, List.take 1 (c :: d :: ds) ++ '.' :: List.drop 1 (c :: d :: ds) ++
        'e' :: expRepr x ++ t = [c] ++ ('.' :: d :: ds ++ ('e' :: expRepr x ++ t)) := by simp
    rw [htext, matchUnsigned_exp neg (intPart_lead [] hc hc0 (by simp) (by simp))
      (fracPart_digits hd hds (by simp)) ht']
    exact hself hv (by simp; omega)
  · -- no more than four zeros after the point
    generalize hk : (-(((cs.length + 1 : Nat) : Int) + e)).toNat = k
    have htext : '0' :: '.' :: List.replicate k '0' ++ c :: cs ++ t =
        ['0'] ++ ('.' :: (List.replicate k '0' ++ c :: cs) ++ t) := by simp
    rw [htext, matchUnsigned_frac neg ['0'] (List.replicate k '0' ++ c :: cs) rfl (by simp)
      (List.forall_mem_append.mpr ⟨hzeros k, hdig⟩) ht]
    refine hself ?_ (by simp; omega)
    rw [List.singleton_append, digitsValue_zero_cons, digitsValue_append, digitsValue_zeros, hv]
    simp
  · -- a whole number
    generalize hk : (((cs.length + 1 : Nat) : Int) + e).toNat - (cs.length + 1) = k
    by_cases hm : m = 0
    · obtain ⟨rfl, rfl, rfl⟩ := hm0 hm
      subst hm
      obtain rfl : k = 0 := by simp at hk; omega
      rw [show ['0'] ++ List.replicate 0 '0' ++ ['.', '0'] ++ t = ['0'] ++ ('.' :: ['0'] ++ t)
        from rfl, matchUnsigned_frac neg ['0'] ['0'] rfl (by simp) (by simp) ht]
      simp [Decimal.ofParts, Decimal.strip, show digitsValue ['0', '0'] = 0 from rfl]
    · have hc0 : c ≠ '0' := fun h => hm (h0 h)
      have hip : intPart (c :: (cs ++ List.replicate k '0') ++ ('.' :: ['0'] ++ t)) =
          some (c :: (cs ++ List.replicate k '0'), '.' :: ['0'] ++ t) :=
        intPart_lead _ hc hc0 (List.forall_mem_append.mpr ⟨hcs, hzeros k⟩) (by simp)
      rw [show c :: cs ++ List.replicate k '0' ++ ['.', '0'] ++ t =
        c :: (cs ++ List.replicate k '0') ++ ('.' :: ['0'] ++ t) by simp,
        matchUnsigned_frac neg _ ['0'] hip (by simp) (by simp) ht]
      rw [← List.cons_append, digitsValue_append, digitsValue_append, digitsValue_zeros, hv,
        show digitsValue ['0'] = 0 from rfl, Nat.add_zero, Nat.add_zero, List.length_singleton,
        Nat.pow_one, List.length_replicate, Nat.mul_assoc, ← Nat.pow_succ,
        Decimal.ofParts_mul_pow]
      exact hself rfl (by push_cast; omega)
  · -- a fraction
    generalize hp : (((cs.length + 1 : Nat) : Int) + e).toNat = p at h₄ ⊢
    have hm : m ≠ 0 := fun h => by obtain ⟨-, rfl, -⟩ := hm0 h; simp at h₄; omega
    have hc0 : c ≠ '0' := fun h => hm (h0 h)
    obtain ⟨q, rfl⟩ : ∃ q, p = q + 1 := ⟨p - 1, by omega⟩
    have hfr : cs.drop q ≠ [] := by simp; omega
    have hip : intPart (c :: cs.take q ++ ('.' :: cs.drop q ++ t)) =
        some (c :: cs.take q, '.' :: cs.drop q ++ t) :=
      intPart_lead _ hc hc0 (fun x hx => hcs x (List.mem_of_mem_take hx)) (by simp)
    rw [List.take_succ_cons, List.drop_succ_cons, List.append_assoc,
      matchUnsigned_frac neg _ _ hip hfr (fun x hx => hcs x (List.mem_of_mem_drop hx)) ht]
    refine hself (by rw [List.cons_append, List.take_append_drop, hv]) ?_
    simp only [List.length_drop]
    omega

theorem matchNumber_intRepr (i : Int) {t : List Char} (ht : NumEnd t) :
    matchNumber (intRepr i ++ t) = .ok (.int i, t) := by
  obtain ⟨c, cs, he, hc, -, -, -⟩ := natDigits_eq i.natAbs
  have hcm : c ≠ '-' := by rintro rfl; simp at hc
  have hif : (if i < 0 then '-' :: natDigits i.natAbs else natDigits i.natAbs) =
      if decide (i < 0) then '-' :: natDigits i.natAbs else natDigits i.natAbs := by simp
  rw [intRepr, hif, matchNumber_signed _ (by simp [he, hcm]) (by simp [he]),
    matchUnsigned_int _ _ ht]
  have habs : (if decide (i < 0) = true then -(i.natAbs : Int) else i.natAbs) = i := by
    split <;> rename_i h <;> simp only [decide_eq_true_eq] at h <;> omega
  rw [habs]

/-! ## Values -/

/-- A character a value's text can start with: from `"` (34) to `{` (123), `]` (93) aside. -/
def ValueStart (c : Char) : Prop := 34 ≤ c.toNat ∧ c.toNat ≤ 123 ∧ c.toNat ≠ 93

instance (c : Char) : Decidable (ValueStart c) :=
  inferInstanceAs (Decidable (34 ≤ c.toNat ∧ c.toNat ≤ 123 ∧ c.toNat ≠ 93))

theorem valueStart_of_isDigit {c : Char} (h : c.isDigit = true) : ValueStart c := by
  have h' : 48 ≤ c.toNat ∧ c.toNat ≤ 57 := by simpa [Char.isDigit] using h
  exact ⟨by omega, by omega, by omega⟩

theorem ValueStart.not_ws {c : Char} (h : ValueStart c) : isJsonWs c = false := by
  simp only [isJsonWs, Bool.or_eq_false_iff, decide_eq_false_iff_not]
  refine ⟨⟨⟨?_, ?_⟩, ?_⟩, ?_⟩ <;> rintro rfl <;> simp [ValueStart] at h

theorem ValueStart.ne_close {c : Char} (h : ValueStart c) : c ≠ ']' := by
  rintro rfl; simp [ValueStart] at h

theorem ValueStart.ne_bom {c : Char} (h : ValueStart c) : c ≠ '\ufeff' := by
  rintro rfl; simp [ValueStart] at h

theorem decimalRepr_cons (d : Decimal) : ∃ c r, decimalRepr d = c :: r ∧ ValueStart c := by
  obtain ⟨c, cs, he, hc, -⟩ := natDigits_eq d.digits
  obtain ⟨x, r, hxr, hx⟩ := reprDigits_cons cs (((c :: cs).length : Int) + d.exp) hc
  simp only [decimalRepr, he, hxr]
  split
  · exact ⟨'-', _, rfl, by decide⟩
  · exact ⟨x, r, rfl, valueStart_of_isDigit hx⟩

theorem intRepr_cons (i : Int) : ∃ c r, intRepr i = c :: r ∧ ValueStart c := by
  obtain ⟨c, cs, he, hc, -⟩ := natDigits_eq i.natAbs
  simp only [intRepr, he]
  split
  · exact ⟨'-', _, rfl, by decide⟩
  · exact ⟨c, cs, rfl, valueStart_of_isDigit hc⟩

theorem encode_cons (l : Nat) (v : PyVal) : ∃ c r, encode l v = c :: r ∧ ValueStart c := by
  cases v with
  | int i => exact intRepr_cons i
  | float x =>
    cases x with
    | finite d => exact decimalRepr_cons d
    | inf b => cases b <;> exact ⟨_, _, rfl, by decide⟩
    | nan => exact ⟨_, _, rfl, by decide⟩
  | bool b => cases b <;> exact ⟨_, _, rfl, by decide⟩
  | list xs => cases xs <;> exact ⟨_, _, rfl, by decide⟩
  | dict kvs => cases kvs <;> exact ⟨_, _, rfl, by decide⟩
  | none => exact ⟨_, _, rfl, by decide⟩
  | str s => exact ⟨_, _, rfl, by decide⟩

theorem skipWs_cons (c : Char) (h : isJsonWs c = false) (r : List Char) :
    skipWs (c :: r) = c :: r :=
  List.dropWhile_cons_of_neg (by simp [h])

theorem skipWs_newlineIndent (k : Nat) (r : List Char) :
    skipWs (newlineIndent k ++ r) = skipWs r := by
  refine List.dropWhile_append_of_pos fun c hc => ?_
  simp only [newlineIndent, List.mem_cons, List.mem_replicate] at hc
  rcases hc with rfl | ⟨-, rfl⟩ <;> rfl

theorem skipWs_encode (k l : Nat) (v : PyVal) (r : List Char) :
    skipWs (newlineIndent k ++ (encode l v ++ r)) = encode l v ++ r := by
  obtain ⟨c, r', he, hc⟩ := encode_cons l v
  rw [skipWs_newlineIndent, he, List.cons_append, skipWs_cons _ hc.not_ws]

theorem scanValue_other (n : Nat) {c : Char} (r : List Char) (h₁ : c ≠ '"') (h₂ : c ≠ '{')
    (h₃ : c ≠ '[') : scanValue (n + 1) (c :: r) =
      match scanConstant (c :: r) with
      | some (v, r) => .ok (v, r)
      | none => matchNumber (c :: r) :=
  scanValue.eq_5 _ _ (fun _ h => h₁ (List.cons.inj h).1) (fun _ h => h₂ (List.cons.inj h).1)
    (fun _ h => h₃ (List.cons.inj h).1)

theorem scanValue_number (n : Nat) (b : Bool) {x : Char} (r : List Char)
    (hx : x.isDigit = true) :
    scanValue (n + 1) (if b then '-' :: x :: r else x :: r) =
      matchNumber (if b then '-' :: x :: r else x :: r) := by
  have h : ∀ d : Char, d.isDigit = false → d ≠ x := fun d hd e => by subst e; simp_all
  cases b
  · rw [if_neg (by decide), scanValue_other n r (h '"' rfl).symm (h '{' rfl).symm (h '[' rfl).symm]
    simp [scanConstant, constants, List.isPrefixOf, h 'n' rfl, h 't' rfl, h 'f' rfl, h 'N' rfl,
      h 'I' rfl, h '-' rfl]
  · rw [if_pos rfl, scanValue_other n _ (by decide) (by decide) (by decide)]
    simp [scanConstant, constants, List.isPrefixOf, h 'I' rfl]

/-- The values the scanner reads from `n` and less, from their text and what follows. -/
def ValueRT (n : Nat) : Prop :=
  ∀ (v : PyVal) (l : Nat) (t : List Char), v.wellFormed = true → (encode l v).length ≤ n →
    NumEnd t → scanValue n (encode l v ++ t) = .ok (v, t)

/-- The rest of a list after its first item, from `n` and less. -/
def ItemsRT (n : Nat) : Prop :=
  ∀ (xs : List PyVal) (l k : Nat) (t : List Char), PyVal.wellFormedList xs = true →
    (encodeItems l xs).length < n →
      scanItems n (skipWs (encodeItems l xs ++ (newlineIndent k ++ ']' :: t))) = .ok (xs, t)

/-- The members of a dict from a key's opening quote on, from `n` and less, with the members
read before. -/
def MembersRT (n : Nat) : Prop :=
  ∀ (kv : List (Fin 0x110000) × PyVal) (kvs acc : List (List (Fin 0x110000) × PyVal))
    (l k : Nat) (t : List Char),
    ((acc ++ kv :: kvs).map Prod.fst).Nodup → pairFree kv.1 = true → kv.2.wellFormed = true →
    PyVal.wellFormedDict kvs = true → (encode l kv.2 ++ encodeMembers l kvs).length < n →
      scanMembers n acc (escapeChars kv.1 ++ '"' :: ':' :: ' ' ::
        (encode l kv.2 ++ (encodeMembers l kvs ++ (newlineIndent k ++ '}' :: t)))) =
        .ok (.dict (acc ++ kv :: kvs), t)

theorem numEnd_items (l k : Nat) (xs : List PyVal) (c : Char) (t : List Char) :
    NumEnd (encodeItems l xs ++ (newlineIndent k ++ c :: t)) := by
  cases xs <;> simp [NumEnd, encodeItems, newlineIndent]

theorem numEnd_members (l k : Nat) (kvs : List (List (Fin 0x110000) × PyVal)) (c : Char)
    (t : List Char) : NumEnd (encodeMembers l kvs ++ (newlineIndent k ++ c :: t)) := by
  cases kvs <;> simp [NumEnd, encodeMembers, newlineIndent]

theorem itemsRT_succ {n : Nat} (hv : ValueRT n) (hi : ItemsRT n) : ItemsRT (n + 1) := by
  intro xs l k t hwf hlen
  cases xs with
  | nil =>
    rw [encodeItems, List.nil_append, skipWs_newlineIndent, skipWs_cons ']' rfl]
    rfl
  | cons x xs =>
    simp only [PyVal.wellFormedList, Bool.and_eq_true] at hwf
    simp only [encodeItems, List.length_cons, List.length_append] at hlen
    simp only [encodeItems, List.cons_append, List.append_assoc]
    rw [skipWs_cons ',' rfl, scanItems.eq_3, skipWs_encode,
      hv x l _ hwf.1 (by omega) (numEnd_items l k xs ']' t)]
    simp only
    rw [hi xs l k t hwf.2 (by omega)]

theorem dictSet_fresh {kvs : List (List (Fin 0x110000) × PyVal)} {k : List (Fin 0x110000)}
    (h : k ∉ kvs.map Prod.fst) (v : PyVal) : dictSet kvs k v = kvs ++ [(k, v)] := by
  rw [dictSet, if_neg]
  simpa [List.any_eq_true] using h

theorem membersRT_succ {n : Nat} (hv : ValueRT n) (hm : MembersRT n) : MembersRT (n + 1) := by
  intro kv kvs acc l k t hnd hk hwf hwfs hlen
  have hfresh : kv.1 ∉ acc.map Prod.fst := by
    rw [List.map_append, List.nodup_append] at hnd
    exact fun h => hnd.2.2 h (List.mem_cons_self _ _)
  rw [scanMembers.eq_2, scanString_escapeChars _ hk]
  simp only
  rw [skipWs_cons ':' rfl]
  simp only
  obtain ⟨c, r, he, hc⟩ := encode_cons l kv.2
  rw [show skipWs (' ' :: (encode l kv.2 ++ _)) = encode l kv.2 ++ _ by
      rw [skipWs, List.dropWhile_cons_of_pos rfl, ← skipWs, he, List.cons_append,
        skipWs_cons _ hc.not_ws],
    hv kv.2 l _ hwf (by simp only [List.length_append] at hlen; omega) (numEnd_members l k kvs '}' t)]
  simp only
  cases kvs with
  | nil =>
    rw [encodeMembers, List.nil_append, skipWs_newlineIndent, skipWs_cons '}' rfl]
    simp only
    rw [dictSet_fresh hfresh]
  | cons kv' kvs =>
    simp only [PyVal.wellFormedDict, Bool.and_eq_true] at hwfs
    simp only [encodeMembers, encodeString, List.cons_append, List.append_assoc, List.nil_append]
    rw [skipWs_cons ',' rfl]
    simp only
    rw [skipWs_newlineIndent, skipWs_cons '"' rfl]
    simp only
    rw [dictSet_fresh hfresh, hm kv' kvs (acc ++ [(kv.1, kv.2)]) l k t (by simpa using hnd) hwfs.1.1
      hwfs.1.2 hwfs.2 (by simp only [encodeMembers, List.length_append, List.length_cons] at hlen ⊢; omega)]
    simp

theorem scanValue_constant (n : Nat) {c : Char} (r t : List Char) (v : PyVal)
    (hc : c ≠ '"' ∧ c ≠ '{' ∧ c ≠ '[') (h : scanConstant (c :: r ++ t) = some (v, t)) :
    scanValue (n + 1) (c :: r ++ t) = .ok (v, t) := by
  rw [List.cons_append, scanValue_other n _ hc.1 hc.2.1 hc.2.2, ← List.cons_append, h]

theorem valueRT_succ {n : Nat} (hv : ValueRT n) (hi : ItemsRT n) (hm : MembersRT n) :
    ValueRT (n + 1) := by
  intro v l t hwf hlen ht
  cases v with
  | none => exact scanValue_constant n _ t _ (by decide) (by simp [scanConstant, constants])
  | bool b =>
    cases b
    · exact scanValue_constant n _ t _ (by decide) (by simp [scanConstant, constants])
    · exact scanValue_constant n _ t _ (by decide) (by simp [scanConstant, constants])
  | int i =>
    obtain ⟨c, cs, he, hc, -⟩ := natDigits_eq i.natAbs
    have htext : intRepr i ++ t =
        if decide (i < 0) then '-' :: c :: (cs ++ t) else c :: (cs ++ t) := by
      by_cases hi : i < 0 <;> simp [intRepr, he, hi]
    show scanValue (n + 1) (intRepr i ++ t) = _
    rw [htext, scanValue_number n _ _ hc, ← htext, matchNumber_intRepr i ht]
  | float x =>
    cases x with
    | finite d =>
      obtain ⟨c, cs, he, hc, -⟩ := natDigits_eq d.digits
      obtain ⟨x, r, hxr, hx⟩ := reprDigits_cons cs (((c :: cs).length : Int) + d.exp) hc
      have htext : decimalRepr d ++ t =
          if d.neg then '-' :: x :: (r ++ t) else x :: (r ++ t) := by
        simp only [decimalRepr, he, hxr]
        split <;> rfl
      show scanValue (n + 1) (decimalRepr d ++ t) = _
      rw [htext, scanValue_number n _ _ hx, ← htext, matchNumber_decimalRepr d ht]
    | inf b =>
      cases b
      · exact scanValue_constant n _ t _ (by decide) (by simp [scanConstant, constants])
      · exact scanValue_constant n _ t _ (by decide) (by simp [scanConstant, constants])
    | nan => exact scanValue_constant n _ t _ (by decide) (by simp [scanConstant, constants])
  | str s =>
    show scanValue (n + 1) (encodeString s ++ t) = _
    simp only [encodeString, List.cons_append, List.append_assoc, List.nil_append]
    rw [scanValue.eq_2, scanString_escapeChars s hwf t]
  | list xs =>
    cases xs with
    | nil =>
      show scanValue (n + 1) ('[' :: ']' :: t) = _
      rw [scanValue.eq_4, skipWs_cons ']' rfl]
      rfl
    | cons x xs =>
      simp only [PyVal.wellFormed, PyVal.wellFormedList, Bool.and_eq_true] at hwf
      simp only [encode, List.length_cons, List.length_append] at hlen
      simp only [encode, List.cons_append, List.append_assoc, List.nil_append]
      rw [scanValue.eq_4, skipWs_encode]
      obtain ⟨c, r, he, hc⟩ := encode_cons (l + 1) x
      split
      · next heq => rw [he, List.cons_append] at heq; exact absurd (List.cons.inj heq).1 hc.ne_close
      · rw [hv x (l + 1) _ hwf.1 (by omega) (numEnd_items _ _ xs ']' t)]
        simp only
        rw [hi xs (l + 1) l t hwf.2 (by omega)]
  | dict kvs =>
    cases kvs with
    | nil =>
      show scanValue (n + 1) ('{' :: '}' :: t) = _
      rw [scanValue.eq_3, skipWs_cons '}' rfl]
      rfl
    | cons kv kvs =>
      simp only [PyVal.wellFormed, PyVal.wellFormedDict, Bool.and_eq_true, decide_eq_true_eq] at hwf
      simp only [encode, encodeString, List.length_cons, List.length_append] at hlen
      simp only [encode, encodeString, List.cons_append, List.append_assoc, List.nil_append]
      rw [scanValue.eq_3, skipWs_newlineIndent, skipWs_cons '"' rfl]
      simp only
      rw [hm kv kvs [] (l + 1) l t (by simpa using hwf.1) hwf.2.1.1 hwf.2.1.2 hwf.2.2
        (by simp only [List.length_append]; omega)]
      rfl

/-- The three scanner functions read back what the encoder writes, at every budget. -/
theorem scan_encode : ∀ n, ValueRT n ∧ ItemsRT n ∧ MembersRT n
  | 0 => by
    refine ⟨fun v l t _ h _ => ?_, fun _ _ _ _ _ h => absurd h (Nat.not_lt_zero _),
      fun _ _ _ _ _ _ _ _ _ _ h => absurd h (Nat.not_lt_zero _)⟩
    obtain ⟨c, r, he, -⟩ := encode_cons l v
    simp [he] at h
  | n + 1 =>
    have ⟨hv, hi, hm⟩ := scan_encode n
    ⟨valueRT_succ hv hi hm, itemsRT_succ hv hi, membersRT_succ hv hm⟩

/-- `json.load` reads back every well-formed value `json.dump` writes. -/
theorem load_dump (v : PyVal) (h : v.wellFormed = true) : load (dump v) = .ok v := by
  obtain ⟨c, r, he, hc⟩ := encode_cons 0 v
  have hscan := (scan_encode ((dump v).length + 1)).1 v 0 [] h (by simp [dump]) (by simp [NumEnd])
  rw [List.append_nil] at hscan
  simp only [load, loadsWith, dump] at hscan ⊢
  rw [he, List.head?_cons, if_neg (by simpa using hc.ne_bom), skipWs_cons _ hc.not_ws, ← he,
    hscan]
  rfl

end MiniDocker.Record
