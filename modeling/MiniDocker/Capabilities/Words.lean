import MiniDocker.Launch.Isolation

/-! # The capability words `capset` is given

`set_capabilities` fills the two `CapData` words of a `_LINUX_CAPABILITY_VERSION_3` call: bit
`cap & 31` of word `cap >> 5` of a set, for every capability of the set up to `CAP_LAST_CAP`.
`get_capabilities` reads the words back with the same masks. So the words of
`drop_capabilities_except(S)` read back as `S` without the capabilities past `CAP_LAST_CAP` in
the effective and permitted sets, and as nothing in the inheritable set
(`dropCapabilitiesExcept_words`).
-/

namespace MiniDocker.Capabilities
set_option autoImplicit false

/-- `CAP_LAST_CAP`, which is `CAP_CHECKPOINT_RESTORE`. -/
def capLastCap : Nat := 40

/-- `cap_to_mask(cap)`: the index of the word and the mask of the bit. -/
def capToMask (cap : Nat) : Nat × Nat := (cap >>> 5, 1 <<< (cap &&& 31))

theorem capToMask_eq (cap : Nat) : capToMask cap = (cap / 32, 2 ^ (cap % 32)) := by
  have h : cap &&& 31 = cap % 2 ^ 5 := Nat.and_pow_two_sub_one_eq_mod cap 5
  simp only [capToMask, Nat.shiftRight_eq_div_pow, Nat.shiftLeft_eq, Nat.one_mul, h]
  rfl

/-- The three sets of a `CapData` structure. -/
inductive CapSet
  | effective
  | permitted
  | inheritable
  deriving DecidableEq, Repr

/-- One `CapData` structure; its fields are `ctypes.c_uint32`. -/
structure CapData where
  effective : Nat := 0
  permitted : Nat := 0
  inheritable : Nat := 0
  deriving DecidableEq, Repr

namespace CapData

/-- The field of a set. -/
def get (d : CapData) : CapSet → Nat
  | .effective => d.effective
  | .permitted => d.permitted
  | .inheritable => d.inheritable

/-- `d.<set> |= mask`: the value is stored in a `c_uint32`. -/
def orMask (d : CapData) (s : CapSet) (mask : Nat) : CapData :=
  let v := (d.get s ||| mask) % 2 ^ 32
  match s with
  | .effective => { d with effective := v }
  | .permitted => { d with permitted := v }
  | .inheritable => { d with inheritable := v }

@[simp] theorem get_default (s : CapSet) : (({} : CapData)).get s = 0 := by
  cases s <;> rfl

theorem get_orMask (d : CapData) (s s' : CapSet) (mask : Nat) :
    (d.orMask s mask).get s' = if s' = s then (d.get s ||| mask) % 2 ^ 32 else d.get s' := by
  cases s <;> cases s' <;> rfl

end CapData

/-- The body of the loop over one set in `set_capabilities`, for a capability up to
`CAP_LAST_CAP`. -/
def orCap (s : CapSet) (data : List CapData) (cap : Nat) : List CapData :=
  let (idx, mask) := capToMask cap
  data.modify (·.orMask s mask) idx

/-- The loop over one set in `set_capabilities`: capabilities past `CAP_LAST_CAP` are
skipped. -/
def addCaps (s : CapSet) : List CapData → List Nat → List CapData
  | data, [] => data
  | data, cap :: caps => addCaps s (if cap ≤ capLastCap then orCap s data cap else data) caps

/-- `set_capabilities(effective, permitted, inheritable)`: the words passed to `capset`. A set
that is `None` or empty is skipped. -/
def setCapabilities (effective permitted inheritable : Option (List Nat)) : List CapData :=
  let data := List.replicate 2 {}
  let data := addCaps .effective data (effective.getD [])
  let data := addCaps .permitted data (permitted.getD [])
  addCaps .inheritable data (inheritable.getD [])

/-- `drop_capabilities_except(keep)`. -/
def dropCapabilitiesExcept (keep : List Nat) : List CapData :=
  setCapabilities (some keep) (some keep) (some [])

/-- The decoding loop of `get_capabilities` for one set: the capabilities up to
`CAP_LAST_CAP` whose bit is set, in increasing order. -/
def getCapabilities (data : List CapData) (s : CapSet) : List Nat :=
  (List.range (capLastCap + 1)).filter fun cap =>
    let (idx, mask) := capToMask cap
    ((data.getD idx {}).get s &&& mask) != 0

/-! ## The bits of the words -/

/-- Bit `c mod 32` of word `c div 32` of a set; a word past the array reads as zero. -/
def bit (data : List CapData) (s : CapSet) (c : Nat) : Bool :=
  ((data.getD (c / 32) {}).get s).testBit (c % 32)

theorem length_orCap (s : CapSet) (data : List CapData) (cap : Nat) :
    (orCap s data cap).length = data.length := by
  simp [orCap]

theorem length_addCaps (s : CapSet) :
    ∀ (data : List CapData) (caps : List Nat), (addCaps s data caps).length = data.length
  | _, [] => rfl
  | data, cap :: caps => by
    rw [addCaps, length_addCaps]
    split <;> simp [length_orCap]

theorem testBit_or_two_pow_mod {x k i : Nat} (hi : i < 32) :
    ((x ||| 2 ^ k) % 2 ^ 32).testBit i = (x.testBit i || decide (k = i)) := by
  rw [Nat.testBit_mod_two_pow, Nat.testBit_or, Nat.testBit_two_pow]
  simp [hi]

theorem bit_orCap {data : List CapData} (hl : data.length = 2) {cap : Nat}
    (hcap : cap ≤ capLastCap) (s s' : CapSet) (c : Nat) :
    bit (orCap s data cap) s' c = (bit data s' c || decide (s' = s ∧ c = cap)) := by
  have hcap' : cap / 32 < data.length := by
    have : cap ≤ 40 := hcap
    omega
  by_cases hw : cap / 32 = c / 32
  · obtain ⟨d, hd⟩ : ∃ d, data[c / 32]? = some d := by
      rw [← hw]; exact ⟨_, List.getElem?_eq_getElem hcap'⟩
    have hc : c = cap ↔ cap % 32 = c % 32 := by omega
    simp only [bit, orCap, capToMask_eq, List.getD_eq_getElem?_getD, hw,
      List.getElem?_modify_eq, hd, Option.map_eq_map, Option.map_some', Option.getD_some,
      CapData.get_orMask]
    by_cases hs : s' = s
    · subst hs
      rw [if_pos rfl, testBit_or_two_pow_mod (Nat.mod_lt c (by decide))]
      simp [← hc]
    · simp [hs]
  · have hne : ¬ c = cap := fun h => hw (h ▸ rfl)
    simp [bit, orCap, capToMask_eq, List.getD_eq_getElem?_getD,
      List.getElem?_modify_ne _ _ hw, hne]

theorem bit_addCaps (s s' : CapSet) (c : Nat) :
    ∀ {data : List CapData} (caps : List Nat), data.length = 2 →
      bit (addCaps s data caps) s' c =
        (bit data s' c || decide (s' = s ∧ c ∈ caps ∧ c ≤ capLastCap))
  | data, [], _ => by simp [addCaps]
  | data, cap :: caps, hl => by
    have hl' : (if cap ≤ capLastCap then orCap s data cap else data).length = 2 := by
      split <;> simp [length_orCap, hl]
    rw [addCaps, bit_addCaps s s' c caps hl']
    by_cases hcap : cap ≤ capLastCap
    · rw [if_pos hcap, bit_orCap hl hcap]
      by_cases hc : c = cap
      · subst hc; by_cases hs : s' = s <;> simp [hs, hcap]
      · simp [hc]
    · rw [if_neg hcap]
      by_cases hc : c = cap
      · subst hc; simp [hcap]
      · simp [hc]

theorem get_orCap_lt {data : List CapData} (h : ∀ w s', (data.getD w {}).get s' < 2 ^ 32)
    (s : CapSet) (cap w : Nat) (s' : CapSet) : ((orCap s data cap).getD w {}).get s' < 2 ^ 32 := by
  have hw := h w s'
  simp only [orCap, capToMask_eq, List.getD_eq_getElem?_getD, List.getElem?_modify] at hw ⊢
  cases hd : data[w]? with
  | none => simp
  | some d =>
    simp only [hd, Option.map_eq_map, Option.map_some', Option.getD_some] at hw ⊢
    split
    · rw [CapData.get_orMask]
      split
      · exact Nat.mod_lt _ (by omega)
      · exact hw
    · exact hw

theorem get_addCaps_lt (s : CapSet) :
    ∀ {data : List CapData} (caps : List Nat), (∀ w s', (data.getD w {}).get s' < 2 ^ 32) →
      ∀ w s', ((addCaps s data caps).getD w {}).get s' < 2 ^ 32
  | _, [], h => h
  | data, cap :: caps, h => by
    rw [addCaps]
    refine get_addCaps_lt s caps ?_
    split
    · exact get_orCap_lt h s cap
    · exact h

theorem get_addCaps_of_ne {s s' : CapSet} (hs : s' ≠ s) (w : Nat) :
    ∀ (data : List CapData) (caps : List Nat),
      ((addCaps s data caps).getD w {}).get s' = (data.getD w {}).get s'
  | _, [] => rfl
  | data, cap :: caps => by
    rw [addCaps, get_addCaps_of_ne hs w]
    split
    · simp only [orCap, capToMask_eq, List.getD_eq_getElem?_getD, List.getElem?_modify]
      cases data[w]? with
      | none => rfl
      | some d => split <;> simp [CapData.get_orMask, hs]
    · rfl

theorem mem_getCapabilities (data : List CapData) (s : CapSet) (c : Nat) :
    c ∈ getCapabilities data s ↔ c ≤ capLastCap ∧ bit data s c = true := by
  have hmask : ∀ x b : Nat, (x &&& 2 ^ b != 0) = x.testBit b := by
    intro x b
    by_cases hb : x.testBit b
    · have : x &&& 2 ^ b ≠ 0 := fun h0 => by
        simpa [hb, Nat.testBit_two_pow] using congrArg (Nat.testBit · b) h0
      simp [hb, this]
    · have : x &&& 2 ^ b = 0 := Nat.eq_of_testBit_eq fun i => by
        by_cases hi : b = i <;> simp_all [Nat.testBit_two_pow]
      simp [hb, this]
  simp only [getCapabilities, capToMask_eq, List.mem_filter, List.mem_range, hmask, bit,
    Nat.lt_succ_iff]

/-! ## drop_capabilities_except -/

theorem get_replicate (w : Nat) (s : CapSet) :
    ((List.replicate 2 ({} : CapData)).getD w {}).get s = 0 := by
  simp only [List.getD_eq_getElem?_getD, List.getElem?_replicate]
  split <;> simp

theorem bit_dropCapabilitiesExcept (S : List Nat) (s : CapSet) (c : Nat) :
    bit (dropCapabilitiesExcept S) s c = decide (s ≠ .inheritable ∧ c ∈ S ∧ c ≤ capLastCap) := by
  have hl₁ : (addCaps .effective (List.replicate 2 {}) S).length = 2 := by simp [length_addCaps]
  have hl₂ : (addCaps .permitted (addCaps .effective (List.replicate 2 {}) S) S).length = 2 := by
    simp [length_addCaps]
  have h0 : bit (List.replicate 2 ({} : CapData)) s c = false := by
    simp only [bit, get_replicate, Nat.zero_testBit]
  simp only [dropCapabilitiesExcept, setCapabilities, Option.getD_some,
    bit_addCaps _ _ _ _ hl₂, bit_addCaps _ _ _ _ hl₁,
    bit_addCaps _ _ _ _ (List.length_replicate 2 {}), h0]
  cases s <;> simp

theorem inheritable_dropCapabilitiesExcept (S : List Nat) (w : Nat) :
    ((dropCapabilitiesExcept S).getD w {}).inheritable = 0 := by
  show ((dropCapabilitiesExcept S).getD w {}).get .inheritable = 0
  simp only [dropCapabilitiesExcept, setCapabilities, Option.getD_some]
  rw [addCaps, get_addCaps_of_ne (by decide), get_addCaps_of_ne (by decide), get_replicate]

theorem get_dropCapabilitiesExcept_lt (S : List Nat) (w : Nat) (s : CapSet) :
    ((dropCapabilitiesExcept S).getD w {}).get s < 2 ^ 32 :=
  get_addCaps_lt _ _ (get_addCaps_lt _ _ (get_addCaps_lt _ _ fun w s => by
    rw [get_replicate]; decide)) w s

theorem mem_getCapabilities_drop (S : List Nat) (s : CapSet) (c : Nat) :
    c ∈ getCapabilities (dropCapabilitiesExcept S) s ↔
      s ≠ .inheritable ∧ c ∈ S ∧ c ≤ capLastCap := by
  rw [mem_getCapabilities, bit_dropCapabilitiesExcept, decide_eq_true_iff]
  tauto

/-- The words of `drop_capabilities_except(S)`: bit `c mod 32` of word `c div 32` is set in
the effective and in the permitted set exactly when `c` is in `S` and at most `CAP_LAST_CAP`,
the inheritable words are zero, and every word fits in 32 bits. `get_capabilities` reads them
back as `S` less the capabilities past `CAP_LAST_CAP`, and the inheritable set as empty. -/
theorem dropCapabilitiesExcept_words (S : List Nat) :
    (∀ c, bit (dropCapabilitiesExcept S) .effective c = decide (c ∈ S ∧ c ≤ capLastCap) ∧
      bit (dropCapabilitiesExcept S) .permitted c = decide (c ∈ S ∧ c ≤ capLastCap)) ∧
    (∀ w, ((dropCapabilitiesExcept S).getD w {}).inheritable = 0) ∧
    (∀ w s, ((dropCapabilitiesExcept S).getD w {}).get s < 2 ^ 32) ∧
    (∀ c, c ∈ getCapabilities (dropCapabilitiesExcept S) .effective ↔ c ∈ S ∧ c ≤ capLastCap) ∧
    (∀ c, c ∈ getCapabilities (dropCapabilitiesExcept S) .permitted ↔ c ∈ S ∧ c ≤ capLastCap) ∧
    getCapabilities (dropCapabilitiesExcept S) .inheritable = [] :=
  ⟨fun c => ⟨by simp [bit_dropCapabilitiesExcept], by simp [bit_dropCapabilitiesExcept]⟩,
    inheritable_dropCapabilitiesExcept S, get_dropCapabilitiesExcept_lt S,
    fun c => by simp [mem_getCapabilities_drop], fun c => by simp [mem_getCapabilities_drop],
    List.eq_nil_iff_forall_not_mem.2 fun c => by simp [mem_getCapabilities_drop]⟩

end MiniDocker.Capabilities
