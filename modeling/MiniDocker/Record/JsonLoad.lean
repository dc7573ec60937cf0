import MiniDocker.Record.JsonRoundTrip

/-! # What json.load returns is well formed

The scanner builds dicts with `dictSet`, which keeps one place per key, and joins the `\u`
escape of a high surrogate with the `\u` escape of a low surrogate right after it. A character
of the text is never a surrogate and no one-letter escape gives one, so a low surrogate in a
decoded string comes from a `\u` escape; when a high surrogate stands right before it, the two
escapes stood side by side and were joined. Every value `load` returns is therefore well formed
(`load_wellFormed`), which is what `load_dump` asks of the values it reads back.
-/

namespace MiniDocker.Record

set_option autoImplicit false

/-! ## Strings -/

/-- What `scanString` reads from `t`: no surrogate pair, and a low surrogate first only when
`t` starts with the `\u` escape of one. -/
def StringWF (t : List Char) (s : List (Fin 0x110000)) : Prop :=
  pairFree s = true ∧ (LowFree t → ∀ c ∈ s.head?, isLowSurrogate c = false)

theorem consCodePoint_eq_ok {c : Fin 0x110000}
    {x : Except String (List (Fin 0x110000) × List Char)} {s : List (Fin 0x110000)}
    {r : List Char} (h : consCodePoint c x = .ok (s, r)) :
    ∃ s', x = .ok (s', r) ∧ s = c :: s' := by
  match x, h with
  | .ok (s', _), h => cases h; exact ⟨s', rfl, rfl⟩

theorem StringWF.cons {t t' : List Char} {c : Fin 0x110000} {s : List (Fin 0x110000)}
    (h : StringWF t' s) (hhigh : isHighSurrogate c = true → LowFree t')
    (hlow : LowFree t → isLowSurrogate c = false) : StringWF t (c :: s) := by
  refine ⟨?_, fun ht d hd => by cases hd; exact hlow ht⟩
  cases s with
  | nil => rfl
  | cons d s =>
    rw [pairFree, h.1, Bool.and_true]
    cases hc : isHighSurrogate c
    · rfl
    · rw [h.2 (hhigh hc) d rfl]; rfl

theorem StringWF.cons_of_not_surrogate {t t' : List Char} {c : Fin 0x110000}
    {s : List (Fin 0x110000)} (h : StringWF t' s)
    (hc : isHighSurrogate c = false ∧ isLowSurrogate c = false) : StringWF t (c :: s) :=
  h.cons (fun h' => absurd h' (by rw [hc.1]; decide)) fun _ => hc.2

theorem isHighSurrogate_eq_true {c : Nat} : isHighSurrogate c = true ↔ 0xd800 ≤ c ∧ c ≤ 0xdbff := by
  simp [isHighSurrogate]

theorem isLowSurrogate_eq_true {c : Nat} : isLowSurrogate c = true ↔ 0xdc00 ≤ c ∧ c ≤ 0xdfff := by
  simp [isLowSurrogate]

theorem joinSurrogates_not_surrogate (hi lo : Nat) :
    isHighSurrogate (joinSurrogates hi lo) = false ∧
      isLowSurrogate (joinSurrogates hi lo) = false := by
  simp only [isHighSurrogate, isLowSurrogate, joinSurrogates, Bool.and_eq_false_iff,
    decide_eq_false_iff_not]
  omega

theorem simpleEscape_not_surrogate {e : Char} {c : Fin 0x110000} (h : simpleEscape e = some c) :
    isHighSurrogate c = false ∧ isLowSurrogate c = false := by
  simp only [simpleEscape, ite_eq_iff, Option.some.injEq, reduceCtorEq, and_false, or_false] at h
  rcases h with ⟨-, rfl⟩ | ⟨-, ⟨-, rfl⟩ | ⟨-, ⟨-, rfl⟩ | ⟨-, ⟨-, rfl⟩ | ⟨-, ⟨-, rfl⟩ |
    ⟨-, ⟨-, rfl⟩ | ⟨-, ⟨-, rfl⟩ | ⟨-, -, rfl⟩⟩⟩⟩⟩⟩⟩ <;> decide

theorem LowFree.head {a b c d x : Char} {r : List Char} {v : Nat}
    (h : LowFree ('\\' :: 'u' :: a :: b :: c :: d :: x :: r)) (hv : hexVal4 a b c d = some v) :
    isLowSurrogate v = false := by
  obtain ⟨w, hw, hlw⟩ := h a b c d x r rfl
  rw [hv, Option.some.injEq] at hw
  rwa [hw]

theorem lowFree_of_hexVal4 {a b c d x : Char} {r : List Char} {w : Nat}
    (hw : hexVal4 a b c d = some w) (hlw : isLowSurrogate w = false) :
    LowFree ('\\' :: 'u' :: a :: b :: c :: d :: x :: r) := by
  intro a' b' c' d' x' r' h
  simp only [List.cons.injEq] at h
  obtain ⟨-, -, rfl, rfl, rfl, rfl, -⟩ := h
  exact ⟨w, hw, hlw⟩

theorem scanString_wf {t : List Char} {s : List (Fin 0x110000)} {r : List Char}
    (h : scanString t = .ok (s, r)) : StringWF t s := by
  induction t using scanString.induct generalizing s r with
  | case1 => cases h
  | case2 => cases h; exact ⟨rfl, fun _ _ h => by cases h⟩
  | case3 a b c d a' b' c' d' x rest hn =>
    rw [scanString.eq_3] at h
    split at h <;> simp_all
  | case4 a b c d a' b' c' d' x rest v hv hhigh hn =>
    rw [scanString.eq_3] at h
    split at h <;> simp_all
  | case5 a b c d a' b' c' d' x rest v hv hhigh w hw hlow ih =>
    -- a high and a low surrogate, joined
    rw [scanString.eq_3] at h
    split at h
    · simp_all
    · next v' hv' =>
      obtain rfl : v = v' := Option.some.inj (hv.symm.trans hv')
      simp only [dif_pos hhigh, hw, dif_pos hlow] at h
      obtain ⟨s', hs', rfl⟩ := consCodePoint_eq_ok h
      exact (ih hs').cons_of_not_surrogate (joinSurrogates_not_surrogate v w)
  | case6 a b c d a' b' c' d' x rest v hv hhigh w hw hlow ih =>
    -- a high surrogate before the escape of something else
    rw [scanString.eq_3] at h
    split at h
    · simp_all
    · next v' hv' =>
      obtain rfl : v = v' := Option.some.inj (hv.symm.trans hv')
      simp only [dif_pos hhigh, hw, dif_neg hlow] at h
      obtain ⟨s', hs', rfl⟩ := consCodePoint_eq_ok h
      exact (ih hs').cons
        (fun _ => lowFree_of_hexVal4 hw (Bool.eq_false_iff.2 (mt isLowSurrogate_eq_true.1 hlow)))
        fun ht => ht.head hv
  | case7 a b c d a' b' c' d' x rest v hv hhigh ih =>
    rw [scanString.eq_3] at h
    split at h
    · simp_all
    · next v' hv' =>
      obtain rfl : v = v' := Option.some.inj (hv.symm.trans hv')
      simp only [dif_neg hhigh] at h
      obtain ⟨s', hs', rfl⟩ := consCodePoint_eq_ok h
      exact (ih hs').cons (fun h' => absurd (isHighSurrogate_eq_true.1 h') hhigh)
        fun ht => ht.head hv
  | case8 a b c d x r' hno hn =>
    rw [scanString.eq_4 _ _ _ _ _ _ hno] at h
    split at h <;> simp_all
  | case9 a b c d x r' hno v hv ih =>
    -- a single escape, with no `\u` escape and a character after it next
    rw [scanString.eq_4 _ _ _ _ _ _ hno] at h
    split at h
    · simp_all
    · next v' hv' =>
      obtain rfl : v = v' := Option.some.inj (hv.symm.trans hv')
      obtain ⟨s', hs', rfl⟩ := consCodePoint_eq_ok h
      exact (ih hs').cons (fun _ a' b' c' d' x' rest he =>
        (hno a' b' c' d' x' rest (List.cons.inj he).1 (List.cons.inj he).2).elim)
        fun ht => ht.head hv
  | case10 tail h1 h2 => rw [scanString.eq_5 _ h1 h2] at h; cases h
  | case11 => rw [scanString.eq_6] at h; cases h
  | case12 e r' h1 h2 h3 c hc ih =>
    rw [scanString.eq_7 _ _ h1 h2 h3, hc] at h
    obtain ⟨s', hs', rfl⟩ := consCodePoint_eq_ok h
    exact (ih hs').cons_of_not_surrogate (simpleEscape_not_surrogate hc)
  | case13 e r' h1 h2 h3 hc => rw [scanString.eq_7 _ _ h1 h2 h3, hc] at h; cases h
  | case14 c r' h1 h2 h3 h4 h5 h6 hc =>
    rw [scanString.eq_8 _ _ h1 h2 h3 h4 h5 h6, if_pos hc] at h; cases h
  | case15 c r' h1 h2 h3 h4 h5 h6 hc ih =>
    rw [scanString.eq_8 _ _ h1 h2 h3 h4 h5 h6, if_neg hc] at h
    obtain ⟨s', hs', rfl⟩ := consCodePoint_eq_ok h
    exact (ih hs').cons_of_not_surrogate (Char.not_surrogate c)

/-! ## Dicts -/

theorem wellFormedDict_iff {kvs : List (List (Fin 0x110000) × PyVal)} :
    PyVal.wellFormedDict kvs = true ↔ ∀ kv ∈ kvs, pairFree kv.1 = true ∧ kv.2.wellFormed = true := by
  induction kvs with
  | nil => simp [PyVal.wellFormedDict]
  | cons kv kvs ih => simp [PyVal.wellFormedDict, ih, and_assoc]

theorem wellFormed_dict_iff {kvs : List (List (Fin 0x110000) × PyVal)} :
    (PyVal.dict kvs).wellFormed = true ↔
      (kvs.map Prod.fst).Nodup ∧ PyVal.wellFormedDict kvs = true := by
  simp [PyVal.wellFormed]

theorem wellFormed_dictSet {kvs : List (List (Fin 0x110000) × PyVal)} {k : List (Fin 0x110000)}
    {v : PyVal} (h : (PyVal.dict kvs).wellFormed = true) (hk : pairFree k = true)
    (hv : v.wellFormed = true) : (PyVal.dict (dictSet kvs k v)).wellFormed = true := by
  rw [wellFormed_dict_iff, wellFormedDict_iff] at h ⊢
  obtain ⟨hnd, hall⟩ := h
  unfold dictSet
  split
  · -- a present key keeps its place
    have hkeys : (kvs.map fun kv => if kv.1 = k then (k, v) else kv).map Prod.fst =
        kvs.map Prod.fst := by
      rw [List.map_map]
      exact List.map_congr_left fun kv _ => by by_cases e : kv.1 = k <;> simp [e]
    refine ⟨hkeys ▸ hnd, ?_⟩
    simp only [List.mem_map]
    rintro _ ⟨kv, hkv, rfl⟩
    split
    · exact ⟨hk, hv⟩
    · exact hall kv hkv
  · -- a new key goes last
    next hnew =>
    simp only [List.any_eq_true, beq_iff_eq, not_exists, not_and] at hnew
    refine ⟨?_, ?_⟩
    · rw [List.map_append, List.nodup_append]
      refine ⟨hnd, List.nodup_singleton _, ?_⟩
      simp only [List.map_cons, List.map_nil, List.disjoint_singleton, List.mem_map, not_exists,
        not_and]
      exact fun kv hkv e => hnew kv hkv e
    · simp only [List.mem_append, List.mem_singleton]
      rintro kv (hkv | rfl)
      · exact hall kv hkv
      · exact ⟨hk, hv⟩

/-! ## Values -/

theorem scanConstant_wf {t : List Char} {v : PyVal} {r : List Char}
    (h : scanConstant t = some (v, r)) : v.wellFormed = true := by
  obtain ⟨c, hc, hcv⟩ := List.exists_of_findSome?_eq_some h
  have hall : ∀ c ∈ constants, c.2.wellFormed = true := by decide
  split at hcv
  · cases hcv; exact hall c hc
  · cases hcv

theorem matchNumber_wf {t : List Char} {v : PyVal} {r : List Char}
    (h : matchNumber t = .ok (v, r)) : v.wellFormed = true := by
  have hu : ∀ neg body, matchUnsigned neg body = .ok (v, r) → v.wellFormed = true := by
    intro neg body hb
    simp only [matchUnsigned] at hb
    repeat' split at hb
    all_goals (cases hb <;> rfl)
  unfold matchNumber at h
  split at h <;> exact hu _ _ h

/-- What the scanner reads from `n` and less is well formed. -/
def ValueWF (n : Nat) : Prop :=
  ∀ {t : List Char} {v : PyVal} {r : List Char}, scanValue n t = .ok (v, r) → v.wellFormed = true

/-- The items after a list's first one, read from `n` and less. -/
def ItemsWF (n : Nat) : Prop :=
  ∀ {t : List Char} {vs : List PyVal} {r : List Char}, scanItems n t = .ok (vs, r) →
    PyVal.wellFormedList vs = true

/-- The members of a dict, read from `n` and less after a well-formed dict of those before. -/
def MembersWF (n : Nat) : Prop :=
  ∀ {acc : List (List (Fin 0x110000) × PyVal)} {t : List Char} {v : PyVal} {r : List Char},
    (PyVal.dict acc).wellFormed = true → scanMembers n acc t = .ok (v, r) → v.wellFormed = true

theorem valueWF_succ {n : Nat} (hv : ValueWF n) (hi : ItemsWF n) (hm : MembersWF n) :
    ValueWF (n + 1) := by
  intro t v r h
  rw [scanValue.eq_def] at h
  dsimp only at h
  split at h
  · -- a string
    split at h
    · next s r' hs => cases h; exact (scanString_wf hs).1
    · cases h
  · -- a dict
    split at h
    · cases h; rfl
    · exact hm (show (PyVal.dict []).wellFormed = true from rfl) h
    · cases h
  · -- a list
    split at h
    · cases h; rfl
    · split at h
      · next v₁ r₁ h₁ =>
        split at h
        · next vs r₂ h₂ =>
          cases h
          show (v₁.wellFormed && PyVal.wellFormedList vs) = true
          rw [hv h₁, hi h₂]; rfl
        · cases h
      · cases h
  · -- a named constant or a number
    split at h
    · next hc => cases h; exact scanConstant_wf hc
    · exact matchNumber_wf h

theorem itemsWF_succ {n : Nat} (hv : ValueWF n) (hi : ItemsWF n) : ItemsWF (n + 1) := by
  intro t vs r h
  rw [scanItems.eq_def] at h
  split at h
  · cases h
  · cases h; rfl
  · next _ _ m r' heq =>
    obtain rfl : n = m := Nat.succ.inj heq
    split at h
    · next v₁ r₁ h₁ =>
      split at h
      · next vs' r₂ h₂ =>
        cases h
        show (v₁.wellFormed && PyVal.wellFormedList vs') = true
        rw [hv h₁, hi h₂]; rfl
      · cases h
    · cases h
  · cases h

theorem membersWF_succ {n : Nat} (hv : ValueWF n) (hm : MembersWF n) : MembersWF (n + 1) := by
  intro acc t v r hacc h
  rw [scanMembers.eq_2] at h
  split at h
  · cases h
  · next k r₁ hk =>
    split at h
    · split at h
      · cases h
      · next v₁ r₂ h₁ =>
        have hset := wellFormed_dictSet hacc (scanString_wf hk).1 (hv h₁)
        split at h
        · cases h; exact hset
        · split at h
          · exact hm hset h
          · cases h
        · cases h
    · cases h

theorem scan_wf : ∀ n, ValueWF n ∧ ItemsWF n ∧ MembersWF n
  | 0 => by
    refine ⟨fun h => ?_, fun h => ?_, fun _ h => ?_⟩
    · rw [scanValue.eq_1] at h; cases h
    · rw [scanItems.eq_1] at h; cases h
    · rw [scanMembers.eq_1] at h; cases h
  | n + 1 =>
    have ⟨hv, hi, hm⟩ := scan_wf n
    ⟨valueWF_succ hv hi hm, itemsWF_succ hv hi, membersWF_succ hv hm⟩

/-- Every value `json.load` returns is well formed. -/
theorem load_wellFormed {s : List Char} {v : PyVal} (h : load s = .ok v) : v.wellFormed = true := by
  simp only [load, loadsWith] at h
  split_ifs at h
  split at h
  · next v' r hv =>
    split_ifs at h
    cases h
    exact (scan_wf _).1 hv
  · cases h

end MiniDocker.Record
