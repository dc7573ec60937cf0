import MiniDocker.Seccomp.Table

/-!
# Classic-BPF instructions as seccomp reads them

`struct sock_filter` with its fixed-width fields, the bytes `struct.pack("HBBI", ...)`
writes for one instruction on x86-64 (native order, little-endian, no padding), the
decoding the kernel applies to the buffer `install_seccomp_filter` passes, and the
classic-BPF evaluator restricted to the three opcodes the compiler emits.

The evaluator is a model of the kernel, not of the repository: `exec` follows
`__bpf_prog_run` for `LD|W|ABS`, `JMP|JEQ|K` and `RET|K`, and gives `none` for any
other opcode or for a load outside the two words of `seccomp_data` it models. Jumps
only move forward, so the program's length is enough fuel for every run, and every run of a
`ValidProgram` ends in one of its `RET` instructions (`ValidProgram.run_returns`). Decoding the
bytes gives back the instructions written (`decodeFilter_encodeProgram`).
-/

namespace MiniDocker.Seccomp

set_option autoImplicit false

/-- `struct sock_filter { __u16 code; __u8 jt; __u8 jf; __u32 k; }`. -/
structure SockFilter where
  code : UInt16
  jt : UInt8
  jf : UInt8
  k : UInt32
  deriving DecidableEq, Repr

/-- The `struct.error` raised for an argument outside its format code's range. -/
inductive StructError where
  | ushortOutOfRange
  | ubyteOutOfRange
  | uintOutOfRange
  deriving DecidableEq, Repr

/-! ### Little-endian bytes -/

/-- The `width` low bytes of `n`, least significant first. -/
def leBytes : Nat → Nat → List UInt8
  | 0, _ => []
  | width + 1, n => UInt8.ofNat (n % 256) :: leBytes width (n / 256)

/-- The number that little-endian bytes spell. -/
def leValue : List UInt8 → Nat
  | [] => 0
  | b :: bs => b.toNat + 256 * leValue bs

@[simp] theorem leBytes_length (width n : Nat) : (leBytes width n).length = width := by
  induction width generalizing n with
  | zero => rfl
  | succ width ih => simp [leBytes, ih]

theorem leValue_leBytes (width n : Nat) (h : n < 256 ^ width) :
    leValue (leBytes width n) = n := by
  induction width generalizing n with
  | zero => simp at h; simp [leBytes, leValue, h]
  | succ width ih =>
    have hq : n / 256 < 256 ^ width := by
      rw [Nat.div_lt_iff_lt_mul (by decide)]; rwa [← Nat.pow_succ]
    have hb : (UInt8.ofNat (n % 256)).toNat = n % 256 :=
      UInt8.toNat_ofNat_of_lt (Nat.mod_lt _ (by decide))
    simp only [leBytes, leValue, hb, ih _ hq]
    omega

/-! ### One instruction on the wire -/

/-- The eight bytes of one instruction: `u16 code | u8 jt | u8 jf | u32 k`. -/
def SockFilter.toBytes (f : SockFilter) : List UInt8 :=
  leBytes 2 f.code.toNat ++ [f.jt, f.jf] ++ leBytes 4 f.k.toNat

@[simp] theorem SockFilter.toBytes_length (f : SockFilter) : f.toBytes.length = 8 := by
  simp [SockFilter.toBytes]

/-- `struct.pack("HBBI", code, jt, jf, k)`: each argument is range-checked in order. -/
def structPackHBBI (code jt jf k : Nat) : Except StructError (List UInt8) :=
  if 2 ^ 16 ≤ code then .error .ushortOutOfRange
  else if 2 ^ 8 ≤ jt then .error .ubyteOutOfRange
  else if 2 ^ 8 ≤ jf then .error .ubyteOutOfRange
  else if 2 ^ 32 ≤ k then .error .uintOutOfRange
  else .ok (SockFilter.toBytes ⟨UInt16.ofNat code, UInt8.ofNat jt, UInt8.ofNat jf, UInt32.ofNat k⟩)

/-- `bpf_stmt(code, k)`. -/
def bpfStmt (code k : Nat) : Except StructError (List UInt8) :=
  structPackHBBI code 0 0 k

/-- `bpf_jump(code, k, jt, jf)`. -/
def bpfJump (code k jt jf : Nat) : Except StructError (List UInt8) :=
  structPackHBBI code jt jf k

/-- The instruction that `struct.pack` encodes when every argument is in range. -/
def SockFilter.ofNats (code jt jf k : Nat) : SockFilter :=
  ⟨UInt16.ofNat code, UInt8.ofNat jt, UInt8.ofNat jf, UInt32.ofNat k⟩

theorem structPackHBBI_ok {code jt jf k : Nat} (hc : code < 2 ^ 16) (ht : jt < 2 ^ 8)
    (hf : jf < 2 ^ 8) (hk : k < 2 ^ 32) :
    structPackHBBI code jt jf k = .ok (SockFilter.ofNats code jt jf k).toBytes := by
  simp only [structPackHBBI, SockFilter.ofNats, Nat.not_le.mpr hc, Nat.not_le.mpr ht,
    Nat.not_le.mpr hf, Nat.not_le.mpr hk, if_false]

theorem bpfStmt_ok {code k : Nat} (hc : code < 2 ^ 16) (hk : k < 2 ^ 32) :
    bpfStmt code k = .ok (SockFilter.ofNats code 0 0 k).toBytes :=
  structPackHBBI_ok hc (by decide) (by decide) hk

theorem bpfJump_ok {code k jt jf : Nat} (hc : code < 2 ^ 16) (hk : k < 2 ^ 32)
    (ht : jt < 2 ^ 8) (hf : jf < 2 ^ 8) :
    bpfJump code k jt jf = .ok (SockFilter.ofNats code jt jf k).toBytes :=
  structPackHBBI_ok hc ht hf hk

@[simp] theorem SockFilter.ofNats_code {code jt jf k : Nat} (h : code < 2 ^ 16) :
    (SockFilter.ofNats code jt jf k).code.toNat = code := UInt16.toNat_ofNat_of_lt h

@[simp] theorem SockFilter.ofNats_jt {code jt jf k : Nat} (h : jt < 2 ^ 8) :
    (SockFilter.ofNats code jt jf k).jt.toNat = jt := UInt8.toNat_ofNat_of_lt h

@[simp] theorem SockFilter.ofNats_jf {code jt jf k : Nat} (h : jf < 2 ^ 8) :
    (SockFilter.ofNats code jt jf k).jf.toNat = jf := UInt8.toNat_ofNat_of_lt h

@[simp] theorem SockFilter.ofNats_k {code jt jf k : Nat} (h : k < 2 ^ 32) :
    (SockFilter.ofNats code jt jf k).k.toNat = k := UInt32.toNat_ofNat_of_lt h

/-! ### The buffer the kernel reads -/

/-- Eight bytes at a time, as `sock_fprog.len = len(filter_prog) // 8` instructions. -/
def decodeFilter : List UInt8 → List SockFilter
  | c0 :: c1 :: jt :: jf :: k0 :: k1 :: k2 :: k3 :: rest =>
    ⟨UInt16.ofNat (leValue [c0, c1]), jt, jf, UInt32.ofNat (leValue [k0, k1, k2, k3])⟩ ::
      decodeFilter rest
  | _ => []

/-- The bytes of a whole program. -/
def encodeProgram (prog : List SockFilter) : List UInt8 :=
  (prog.map SockFilter.toBytes).flatten

@[simp] theorem encodeProgram_length (prog : List SockFilter) :
    (encodeProgram prog).length = 8 * prog.length := by
  induction prog with
  | nil => rfl
  | cons f prog ih =>
    simp only [encodeProgram, List.map_cons, List.flatten_cons, List.length_append,
      SockFilter.toBytes_length, List.length_cons] at ih ⊢
    omega

theorem decodeFilter_toBytes (f : SockFilter) (rest : List UInt8) :
    decodeFilter (f.toBytes ++ rest) = f :: decodeFilter rest := by
  obtain ⟨code, jt, jf, k⟩ := f
  have hc := leValue_leBytes 2 code.toNat code.toNat_lt_size
  have hk := leValue_leBytes 4 k.toNat k.toNat_lt_size
  simp only [SockFilter.toBytes, leBytes, List.append_assoc, List.cons_append,
    List.singleton_append, List.nil_append, decodeFilter] at hc hk ⊢
  rw [hc, hk]
  congr
  · exact UInt16.toNat.inj (UInt16.toNat_ofNat_of_lt code.toNat_lt_size)
  · exact UInt32.toNat.inj (UInt32.toNat_ofNat_of_lt k.toNat_lt_size)

/-- Decoding inverts encoding: the kernel sees exactly the instructions written. -/
theorem decodeFilter_encodeProgram (prog : List SockFilter) :
    decodeFilter (encodeProgram prog) = prog := by
  induction prog with
  | nil => rfl
  | cons f prog ih =>
    simpa [encodeProgram, List.flatten_cons, decodeFilter_toBytes] using ih

/-! ### Evaluation -/

/-- `struct seccomp_data`, reduced to the two words the compiler's program loads. -/
structure SeccompData where
  nr : UInt32
  arch : UInt32
  deriving DecidableEq, Repr

/-- The 32-bit word of `seccomp_data` at a byte offset. -/
def SeccompData.loadWord (d : SeccompData) (offset : Nat) : Option UInt32 :=
  if offset = seccompDataNrOffset then some d.nr
  else if offset = seccompDataArchOffset then some d.arch
  else none

@[simp] theorem SeccompData.loadWord_nr (d : SeccompData) :
    d.loadWord seccompDataNrOffset = some d.nr := rfl

@[simp] theorem SeccompData.loadWord_arch (d : SeccompData) :
    d.loadWord seccompDataArchOffset = some d.arch := rfl

/-- Run from `pc` with accumulator `acc`; each instruction spends one unit of fuel. -/
def exec (prog : List SockFilter) (d : SeccompData) : Nat → Nat → UInt32 → Option UInt32
  | 0, _, _ => none
  | fuel + 1, pc, acc =>
    match prog[pc]? with
    | none => none
    | some f =>
      if f.code.toNat = bpfLd ||| bpfW ||| bpfAbs then
        (d.loadWord f.k.toNat).bind (exec prog d fuel (pc + 1))
      else if f.code.toNat = bpfJmp ||| bpfJeq ||| bpfK then
        exec prog d fuel (pc + 1 + if acc = f.k then f.jt.toNat else f.jf.toNat) acc
      else if f.code.toNat = bpfRet ||| bpfK then some f.k
      else none

/-- The seccomp verdict of `prog` on `d`: the accumulator starts at zero. -/
def run (prog : List SockFilter) (d : SeccompData) : Option UInt32 :=
  exec prog d prog.length 0 0

@[simp] theorem opLdWAbs : bpfLd ||| bpfW ||| bpfAbs = 0x20 := rfl
@[simp] theorem opJmpJeqK : bpfJmp ||| bpfJeq ||| bpfK = 0x15 := rfl
@[simp] theorem opRetK : bpfRet ||| bpfK = 0x06 := rfl

section Steps
variable {prog : List SockFilter} {d : SeccompData} {fuel pc : Nat} {acc : UInt32}
  {f : SockFilter}

theorem exec_ld (h : prog[pc]? = some f) (hc : f.code.toNat = 0x20) :
    exec prog d (fuel + 1) pc acc = (d.loadWord f.k.toNat).bind (exec prog d fuel (pc + 1)) := by
  simp [exec, h, hc]

theorem exec_jeq (h : prog[pc]? = some f) (hc : f.code.toNat = 0x15) :
    exec prog d (fuel + 1) pc acc =
      exec prog d fuel (pc + 1 + if acc = f.k then f.jt.toNat else f.jf.toNat) acc := by
  simp [exec, h, hc]

theorem exec_ret (h : prog[pc]? = some f) (hc : f.code.toNat = 0x06) :
    exec prog d (fuel + 1) pc acc = some f.k := by
  simp [exec, h, hc]

end Steps

/-! ### Programs the kernel accepts -/

/-- What the checker demands of the instruction at `pc` of a program of length `len`:
a load of `nr` or `arch`, an equality test whose two targets lie inside the program,
or a return. -/
def SockFilter.WellFormedAt (f : SockFilter) (len pc : Nat) : Prop :=
  (f.code.toNat = 0x20 ∧ (f.k.toNat = seccompDataNrOffset ∨ f.k.toNat = seccompDataArchOffset)) ∨
  (f.code.toNat = 0x15 ∧ pc + 1 + f.jt.toNat < len ∧ pc + 1 + f.jf.toNat < len) ∨
  f.code.toNat = 0x06

/-- Every jump lands inside the program, and the last instruction returns. -/
structure ValidProgram (prog : List SockFilter) : Prop where
  wellFormed : ∀ (pc : Nat) (f : SockFilter), prog[pc]? = some f → f.WellFormedAt prog.length pc
  endsInRet : ∃ f, prog.getLast? = some f ∧ f.code.toNat = 0x06

theorem SeccompData.loadWord_isSome (d : SeccompData) {offset : Nat}
    (h : offset = seccompDataNrOffset ∨ offset = seccompDataArchOffset) :
    ∃ w, d.loadWord offset = some w := by
  rcases h with rfl | rfl <;> simp [SeccompData.loadWord, seccompDataNrOffset,
    seccompDataArchOffset]

theorem ValidProgram.exec_returns {prog : List SockFilter} (hv : ValidProgram prog)
    (d : SeccompData) : ∀ (left pc fuel : Nat) (acc : UInt32), pc + left = prog.length →
      0 < left → left ≤ fuel →
      ∃ f ∈ prog, f.code.toNat = 0x06 ∧ exec prog d fuel pc acc = some f.k := by
  intro left
  induction left using Nat.strong_induction_on with
  | _ left ih =>
    intro pc fuel acc hlen hpos hfuel
    obtain ⟨fuel, rfl⟩ : ∃ n, fuel = n + 1 := ⟨fuel - 1, by omega⟩
    obtain ⟨f, hf⟩ : ∃ f, prog[pc]? = some f :=
      ⟨prog[pc], List.getElem?_eq_getElem (by omega)⟩
    have hmem : f ∈ prog := List.getElem?_mem hf
    have hlast : left = 1 → f.code.toNat = 0x06 := by
      intro h1
      obtain ⟨g, hg, hret⟩ := hv.endsInRet
      rw [List.getLast?_eq_getElem?, show prog.length - 1 = pc by omega, hf] at hg
      exact (Option.some.inj hg) ▸ hret
    rcases hv.wellFormed pc f hf with ⟨hc, hk⟩ | ⟨hc, hjt, hjf⟩ | hc
    · obtain ⟨w, hw⟩ := d.loadWord_isSome hk
      have h1 : left ≠ 1 := fun h1 => by have := hlast h1; omega
      rw [exec_ld hf hc, hw, Option.some_bind]
      exact ih (left - 1) (by omega) (pc + 1) fuel w (by omega) (by omega) (by omega)
    · rw [exec_jeq hf hc]
      split
      · exact ih (prog.length - (pc + 1 + f.jt.toNat)) (by omega) _ fuel acc
          (by omega) (by omega) (by omega)
      · exact ih (prog.length - (pc + 1 + f.jf.toNat)) (by omega) _ fuel acc
          (by omega) (by omega) (by omega)
    · exact ⟨f, hmem, hc, exec_ret hf hc⟩

/-- Every run of a valid program ends in one of its `RET` instructions. -/
theorem ValidProgram.run_returns {prog : List SockFilter} (hv : ValidProgram prog)
    (d : SeccompData) : ∃ f ∈ prog, f.code.toNat = 0x06 ∧ run prog d = some f.k := by
  have hne : prog ≠ [] := by
    obtain ⟨f, hf, -⟩ := hv.endsInRet
    rintro rfl; simp at hf
  exact hv.exec_returns d prog.length 0 prog.length 0 (by omega)
    (List.length_pos.mpr hne) le_rfl

end MiniDocker.Seccomp
