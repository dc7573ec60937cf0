import MiniDocker.Seccomp.Bpf
import Mathlib.Data.Finset.Sort
import Mathlib.Data.List.Enum

/-!
# The whitelist filter

`build_whitelist_filter` of `seccomp.py` and what the kernel does with its output.
The names asked for become a set of numbers (forbidden and unknown names dropped),
sorted; one `JEQ` per number jumps over the rest of the chain and the default `KILL`
to the final `ALLOW`.

`whitelistProgram` is the instruction list the bytes spell. The main theorem says the
bytes are produced without a `struct.error`, decode to that list, form a valid program,
and that the program allows exactly the permitted numbers on x86-64.
-/

namespace MiniDocker.Seccomp

set_option autoImplicit false

/-- The body of the names-to-numbers loop: forbidden and unknown names add nothing. -/
def addAllowed (acc : Finset Nat) (name : String) : Finset Nat :=
  if name ∈ absolutelyForbiddenSyscalls then acc
  else match syscalls.lookup name with
    | some nr => insert nr acc
    | none => acc

/-- `allowed_numbers` after the loop, over the set of names in any order. -/
def allowedNumbers (allowedSyscalls : List String) : Finset Nat :=
  allowedSyscalls.foldl addAllowed ∅

/-- `build_whitelist_filter(allowed_syscalls)`. -/
def buildWhitelistFilter (allowedSyscalls : List String) : Except StructError (List UInt8) := do
  let loadArch ← bpfStmt (bpfLd ||| bpfW ||| bpfAbs) seccompDataArchOffset
  let checkArch ← bpfJump (bpfJmp ||| bpfJeq ||| bpfK) auditArchX86_64 1 0
  let killArch ← bpfStmt (bpfRet ||| bpfK) seccompRetKillProcess
  let loadNr ← bpfStmt (bpfLd ||| bpfW ||| bpfAbs) seccompDataNrOffset
  let sortedNumbers := (allowedNumbers allowedSyscalls).sort (· ≤ ·)
  let numSyscalls := sortedNumbers.length
  let jumps ← sortedNumbers.enum.mapM fun (i, syscallNr) =>
    let remaining := numSyscalls - i - 1
    bpfJump (bpfJmp ||| bpfJeq ||| bpfK) syscallNr (remaining + 1) 0
  let kill ← bpfStmt (bpfRet ||| bpfK) seccompRetKillProcess
  let allow ← bpfStmt (bpfRet ||| bpfK) seccompRetAllow
  return loadArch ++ checkArch ++ killArch ++ loadNr ++ jumps.flatten ++ kill ++ allow

/-- The four instructions before the chain: check the architecture, load `nr`. -/
def filterHeader : List SockFilter :=
  [.ofNats (bpfLd ||| bpfW ||| bpfAbs) 0 0 seccompDataArchOffset,
   .ofNats (bpfJmp ||| bpfJeq ||| bpfK) 1 0 auditArchX86_64,
   .ofNats (bpfRet ||| bpfK) 0 0 seccompRetKillProcess,
   .ofNats (bpfLd ||| bpfW ||| bpfAbs) 0 0 seccompDataNrOffset]

/-- One `JEQ` per number; the `i`-th jumps `n - i` ahead, onto the final `ALLOW`. -/
def jeqChain (sortedNumbers : List Nat) : List SockFilter :=
  sortedNumbers.enum.map fun (i, nr) =>
    .ofNats (bpfJmp ||| bpfJeq ||| bpfK) (sortedNumbers.length - i - 1 + 1) 0 nr

/-- The default `KILL` and the `ALLOW` the chain jumps to. -/
def filterFooter : List SockFilter :=
  [.ofNats (bpfRet ||| bpfK) 0 0 seccompRetKillProcess,
   .ofNats (bpfRet ||| bpfK) 0 0 seccompRetAllow]

/-- The numbers the chain tests, in increasing order. -/
def sortedNumbers (allowedSyscalls : List String) : List Nat :=
  (allowedNumbers allowedSyscalls).sort (· ≤ ·)

/-- The instructions `build_whitelist_filter` encodes. -/
def whitelistProgram (allowedSyscalls : List String) : List SockFilter :=
  filterHeader ++ jeqChain (sortedNumbers allowedSyscalls) ++ filterFooter

/-! ### The set of numbers -/

theorem mem_addAllowed {acc : Finset Nat} {name : String} {nr : Nat} :
    nr ∈ addAllowed acc name ↔
      nr ∈ acc ∨ (name ∉ absolutelyForbiddenSyscalls ∧ syscalls.lookup name = some nr) := by
  unfold addAllowed
  split_ifs with hf
  · simp [hf]
  · cases syscalls.lookup name <;> simp [hf, eq_comm, or_comm]

theorem mem_foldl_addAllowed (names : List String) (acc : Finset Nat) (nr : Nat) :
    nr ∈ names.foldl addAllowed acc ↔
      nr ∈ acc ∨ ∃ s ∈ names, s ∉ absolutelyForbiddenSyscalls ∧ syscalls.lookup s = some nr := by
  induction names generalizing acc with
  | nil => simp
  | cons name names ih => simp [ih, mem_addAllowed, or_assoc]

theorem mem_allowedNumbers {allowedSyscalls : List String} {nr : Nat} :
    nr ∈ allowedNumbers allowedSyscalls ↔
      ∃ s ∈ allowedSyscalls, s ∉ absolutelyForbiddenSyscalls ∧ syscalls.lookup s = some nr := by
  simp [allowedNumbers, mem_foldl_addAllowed]

theorem allowedNumbers_subset (allowedSyscalls : List String) :
    allowedNumbers allowedSyscalls ⊆
      ((syscalls.filter fun p => p.1 ∉ absolutelyForbiddenSyscalls).map Prod.snd).toFinset := by
  intro nr h
  obtain ⟨s, -, hs, hl⟩ := mem_allowedNumbers.mp h
  simp only [List.mem_toFinset, List.mem_map, List.mem_filter]
  exact ⟨(s, nr), ⟨mem_of_lookup hl, by simpa using hs⟩, rfl⟩

theorem allowedNumbers_card_le (allowedSyscalls : List String) :
    (allowedNumbers allowedSyscalls).card ≤ 249 :=
  (Finset.card_le_card (allowedNumbers_subset allowedSyscalls)).trans
    ((List.toFinset_card_le _).trans (by rw [List.length_map, syscalls_not_forbidden_length]))

theorem allowedNumbers_lt {allowedSyscalls : List String} {nr : Nat}
    (h : nr ∈ allowedNumbers allowedSyscalls) : nr < 2 ^ 32 := by
  obtain ⟨s, -, -, hl⟩ := mem_allowedNumbers.mp h
  exact syscalls_number_lt (mem_of_lookup hl)

/-! ### Layout of the program -/

section Layout
variable (allowedSyscalls : List String)

@[simp] theorem sortedNumbers_length :
    (sortedNumbers allowedSyscalls).length = (allowedNumbers allowedSyscalls).card :=
  Finset.length_sort _

theorem mem_sortedNumbers {nr : Nat} :
    nr ∈ sortedNumbers allowedSyscalls ↔ nr ∈ allowedNumbers allowedSyscalls :=
  Finset.mem_sort _

@[simp] theorem jeqChain_length (ns : List Nat) : (jeqChain ns).length = ns.length := by
  simp [jeqChain]

theorem jeqChain_getElem? {ns : List Nat} {i : Nat} (h : i < ns.length) :
    (jeqChain ns)[i]? = some (.ofNats 0x15 (ns.length - i) 0 ns[i]) := by
  simp only [jeqChain, List.getElem?_map, List.enum_eq_enumFrom, List.getElem?_enumFrom,
    List.getElem?_eq_getElem h, Option.map_some', Nat.zero_add, opJmpJeqK]
  congr 3
  omega

theorem whitelistProgram_length :
    (whitelistProgram allowedSyscalls).length = (sortedNumbers allowedSyscalls).length + 6 := by
  simp [whitelistProgram, filterHeader, filterFooter]

theorem whitelistProgram_header {pc : Nat} (h : pc < 4) :
    (whitelistProgram allowedSyscalls)[pc]? = filterHeader[pc]? := by
  rw [whitelistProgram, List.append_assoc, List.getElem?_append_left (by simpa [filterHeader])]

theorem whitelistProgram_chain {i : Nat} (h : i < (sortedNumbers allowedSyscalls).length) :
    (whitelistProgram allowedSyscalls)[4 + i]? =
      some (.ofNats 0x15 ((sortedNumbers allowedSyscalls).length - i) 0
        (sortedNumbers allowedSyscalls)[i]) := by
  rw [whitelistProgram, List.append_assoc, List.getElem?_append_right (by simp [filterHeader]),
    List.getElem?_append_left (by
      simp only [filterHeader, List.length_cons, List.length_nil, List.length_append,
        jeqChain_length]
      omega)]
  simpa [filterHeader] using jeqChain_getElem? h

theorem whitelistProgram_footer (j : Nat) :
    (whitelistProgram allowedSyscalls)[4 + (sortedNumbers allowedSyscalls).length + j]? =
      filterFooter[j]? := by
  rw [whitelistProgram, List.getElem?_append_right (by simp [filterHeader]; omega)]
  congr 1
  simp [filterHeader]
  omega

end Layout

/-! ### Evaluation of the chain -/

/-- The verdict the filter should give: `ALLOW` when `allowed` holds, `KILL` otherwise. -/
def verdict (allowed : Prop) [Decidable allowed] : UInt32 :=
  UInt32.ofNat (if allowed then seccompRetAllow else seccompRetKillProcess)

section Chain
variable {prog : List SockFilter} {ns : List Nat} (d : SeccompData)
variable (hnr : ∀ nr ∈ ns, nr < 2 ^ 32) (hlen : ns.length < 2 ^ 8)
  (hchain : ∀ i (h : i < ns.length), prog[4 + i]? = some (.ofNats 0x15 (ns.length - i) 0 ns[i]))
  (hkill : prog[4 + ns.length]? = some (.ofNats 0x06 0 0 seccompRetKillProcess))
  (hallow : prog[4 + ns.length + 1]? = some (.ofNats 0x06 0 0 seccompRetAllow))
include hnr hlen hchain hkill hallow

theorem exec_chain (acc : UInt32) : ∀ (left i fuel : Nat), i + left = ns.length →
    left < fuel → exec prog d fuel (4 + i) acc = some (verdict (acc.toNat ∈ ns.drop i)) := by
  intro left
  induction left with
  | zero =>
    intro i fuel hi hf
    obtain ⟨fuel, rfl⟩ : ∃ n, fuel = n + 1 := ⟨fuel - 1, by omega⟩
    rw [Nat.add_zero] at hi
    rw [hi, exec_ret hkill rfl, List.drop_of_length_le le_rfl]
    simp [verdict, SockFilter.ofNats]
  | succ left ih =>
    intro i fuel hi hf
    obtain ⟨fuel, rfl⟩ : ∃ n, fuel = n + 1 := ⟨fuel - 1, by omega⟩
    have hlt : i < ns.length := by omega
    have hk : (SockFilter.ofNats 0x15 (ns.length - i) 0 ns[i]).k.toNat = ns[i] :=
      SockFilter.ofNats_k (hnr _ (List.getElem_mem hlt))
    have hmem : acc.toNat ∈ ns.drop i ↔ acc.toNat = ns[i] ∨ acc.toNat ∈ ns.drop (i + 1) := by
      rw [List.drop_eq_getElem_cons hlt, List.mem_cons]
    rw [exec_jeq (hchain i hlt) (by simp)]
    by_cases hacc : acc.toNat = ns[i]
    · obtain ⟨fuel, rfl⟩ : ∃ n, fuel = n + 1 := ⟨fuel - 1, by omega⟩
      rw [if_pos (UInt32.toNat.inj (hk.trans hacc.symm)).symm,
        SockFilter.ofNats_jt (by omega), show 4 + i + 1 + (ns.length - i) = 4 + ns.length + 1 by omega,
        exec_ret hallow rfl, verdict, if_pos (hmem.mpr (.inl hacc))]
      rfl
    · have hne : acc ≠ (SockFilter.ofNats 0x15 (ns.length - i) 0 ns[i]).k :=
        fun he => hacc (by rw [he, hk])
      rw [if_neg hne, SockFilter.ofNats_jf (by decide), Nat.add_zero,
        show 4 + i + 1 = 4 + (i + 1) by omega, ih (i + 1) fuel (by omega) (by omega), verdict,
        verdict, if_congr (hmem.trans (or_iff_right hacc)).symm rfl rfl]

end Chain

section Program
variable (allowedSyscalls : List String)

theorem sortedNumbers_length_lt : (sortedNumbers allowedSyscalls).length < 2 ^ 8 := by
  have := allowedNumbers_card_le allowedSyscalls
  rw [sortedNumbers_length]; omega

theorem sortedNumbers_lt : ∀ nr ∈ sortedNumbers allowedSyscalls, nr < 2 ^ 32 :=
  fun _ h => allowedNumbers_lt ((mem_sortedNumbers allowedSyscalls).mp h)

theorem whitelistProgram_kill :
    (whitelistProgram allowedSyscalls)[4 + (sortedNumbers allowedSyscalls).length]? =
      some (.ofNats 0x06 0 0 seccompRetKillProcess) := by
  simpa [filterFooter] using whitelistProgram_footer allowedSyscalls 0

theorem whitelistProgram_allow :
    (whitelistProgram allowedSyscalls)[4 + (sortedNumbers allowedSyscalls).length + 1]? =
      some (.ofNats 0x06 0 0 seccompRetAllow) := by
  simpa [filterFooter] using whitelistProgram_footer allowedSyscalls 1

/-- The program kills off x86-64 and, on x86-64, allows exactly the numbers in the set. -/
theorem run_whitelistProgram (d : SeccompData) :
    run (whitelistProgram allowedSyscalls) d =
      some (verdict (d.arch.toNat = auditArchX86_64 ∧
        d.nr.toNat ∈ allowedNumbers allowedSyscalls)) := by
  have h0 : (whitelistProgram allowedSyscalls)[0]? =
      some (.ofNats 0x20 0 0 seccompDataArchOffset) := whitelistProgram_header _ (by decide)
  have h1 : (whitelistProgram allowedSyscalls)[1]? =
      some (.ofNats 0x15 1 0 auditArchX86_64) := whitelistProgram_header _ (by decide)
  have h2 : (whitelistProgram allowedSyscalls)[2]? =
      some (.ofNats 0x06 0 0 seccompRetKillProcess) := whitelistProgram_header _ (by decide)
  have h3 : (whitelistProgram allowedSyscalls)[3]? =
      some (.ofNats 0x20 0 0 seccompDataNrOffset) := whitelistProgram_header _ (by decide)
  have harch : ∀ {w : UInt32}, w = (SockFilter.ofNats 0x15 1 0 auditArchX86_64).k ↔
      w.toNat = auditArchX86_64 := fun {w} =>
    ⟨fun h => h ▸ SockFilter.ofNats_k (by decide),
     fun h => UInt32.toNat.inj (h.trans (SockFilter.ofNats_k (by decide)).symm)⟩
  rw [run, whitelistProgram_length, exec_ld h0 rfl]
  erw [SeccompData.loadWord_arch, Option.some_bind, exec_jeq h1 rfl]
  by_cases ha : d.arch.toNat = auditArchX86_64
  · rw [if_pos (harch.mpr ha)]
    erw [exec_ld h3 rfl, SeccompData.loadWord_nr, Option.some_bind,
      exec_chain d (sortedNumbers_lt allowedSyscalls) (sortedNumbers_length_lt allowedSyscalls)
        (fun _ h => whitelistProgram_chain allowedSyscalls h) (whitelistProgram_kill allowedSyscalls)
        (whitelistProgram_allow allowedSyscalls) d.nr _ 0 _ (Nat.zero_add _) (by omega)]
    simp only [verdict, List.drop_zero, mem_sortedNumbers, ha, true_and]
  · rw [if_neg (mt harch.mp ha)]
    erw [exec_ret h2 rfl]
    simp only [verdict, ha, false_and, if_false]
    rfl

theorem whitelistProgram_valid : ValidProgram (whitelistProgram allowedSyscalls) where
  wellFormed pc f hf := by
    have hlen := sortedNumbers_length_lt allowedSyscalls
    rw [whitelistProgram_length]
    by_cases h4 : pc < 4
    · rw [whitelistProgram_header allowedSyscalls h4] at hf
      rcases (by omega : pc = 0 ∨ pc = 1 ∨ pc = 2 ∨ pc = 3) with rfl | rfl | rfl | rfl <;>
        cases Option.some.inj hf
      · exact .inl ⟨rfl, .inr rfl⟩
      · exact .inr (.inl ⟨rfl, by erw [SockFilter.ofNats_jt (by decide)]; omega,
          by erw [SockFilter.ofNats_jf (by decide)]; omega⟩)
      · exact .inr (.inr rfl)
      · exact .inl ⟨rfl, .inl rfl⟩
    obtain ⟨i, rfl⟩ : ∃ i, pc = 4 + i := ⟨pc - 4, by omega⟩
    by_cases hi : i < (sortedNumbers allowedSyscalls).length
    · rw [whitelistProgram_chain allowedSyscalls hi] at hf
      cases Option.some.inj hf
      exact .inr (.inl ⟨by simp, by rw [SockFilter.ofNats_jt (by omega)]; omega,
        by rw [SockFilter.ofNats_jf (by decide)]; omega⟩)
    · obtain ⟨j, rfl⟩ : ∃ j, i = (sortedNumbers allowedSyscalls).length + j := ⟨i - (sortedNumbers allowedSyscalls).length, by omega⟩
      rw [← Nat.add_assoc, whitelistProgram_footer] at hf
      rcases j with _ | _ | j <;> simp [filterFooter] at hf <;> subst hf <;> exact .inr (.inr rfl)
  endsInRet := ⟨.ofNats 0x06 0 0 seccompRetAllow,
    by simp [whitelistProgram, filterFooter, List.getLast?_append], rfl⟩

end Program

/-! ### The bytes -/

theorem mapM_eq_ok {ε α β : Type} {f : α → Except ε β} {g : α → β} :
    ∀ {l : List α}, (∀ x ∈ l, f x = .ok (g x)) → l.mapM f = .ok (l.map g)
  | [], _ => rfl
  | x :: l, h => by
    rw [List.mapM_cons, h x (List.mem_cons_self _ _),
      mapM_eq_ok fun y hy => h y (List.mem_cons_of_mem _ hy)]
    rfl

/-- `build_whitelist_filter` never raises, and writes the bytes of `whitelistProgram`. -/
theorem buildWhitelistFilter_eq (allowedSyscalls : List String) :
    buildWhitelistFilter allowedSyscalls = .ok (encodeProgram (whitelistProgram allowedSyscalls)) := by
  have hlen := sortedNumbers_length_lt allowedSyscalls
  have hjumps : ((sortedNumbers allowedSyscalls).enum.mapM fun (i, syscallNr) =>
      bpfJump (bpfJmp ||| bpfJeq ||| bpfK) syscallNr
        ((sortedNumbers allowedSyscalls).length - i - 1 + 1) 0) =
      .ok ((jeqChain (sortedNumbers allowedSyscalls)).map SockFilter.toBytes) := by
    rw [jeqChain, List.map_map]
    refine mapM_eq_ok (List.forall_mem_enum.mpr fun i hi => ?_)
    exact bpfJump_ok (by decide) (sortedNumbers_lt allowedSyscalls _ (List.getElem_mem hi))
      (by omega) (by decide)
  simp only [buildWhitelistFilter,
    show (allowedNumbers allowedSyscalls).sort (· ≤ ·) = sortedNumbers allowedSyscalls from rfl,
    hjumps, bpfStmt_ok (by decide : bpfLd ||| bpfW ||| bpfAbs < 2 ^ 16)
      (by decide : seccompDataArchOffset < 2 ^ 32),
    bpfJump_ok (by decide : bpfJmp ||| bpfJeq ||| bpfK < 2 ^ 16)
      (by decide : auditArchX86_64 < 2 ^ 32) (by decide : 1 < 2 ^ 8) (by decide : 0 < 2 ^ 8),
    bpfStmt_ok (by decide : bpfRet ||| bpfK < 2 ^ 16)
      (by decide : seccompRetKillProcess < 2 ^ 32),
    bpfStmt_ok (by decide : bpfLd ||| bpfW ||| bpfAbs < 2 ^ 16)
      (by decide : seccompDataNrOffset < 2 ^ 32),
    bpfStmt_ok (by decide : bpfRet ||| bpfK < 2 ^ 16) (by decide : seccompRetAllow < 2 ^ 32)]
  simp [encodeProgram, whitelistProgram, filterHeader, filterFooter, List.flatten_append]
  rfl


/-! ### The compiler's contract -/

theorem forbidden_number_not_allowed {allowedSyscalls : List String} {s : String} {nr : Nat}
    (hs : s ∈ absolutelyForbiddenSyscalls) (hl : syscalls.lookup s = some nr) :
    nr ∉ allowedNumbers allowedSyscalls := by
  rw [mem_allowedNumbers]
  rintro ⟨t, -, ht, htl⟩
  exact ht (lookup_injective hl htl ▸ hs)

/-- For every allow-set, `build_whitelist_filter` returns the bytes of a valid program
without raising; on any `seccomp_data` that program allows exactly the x86-64 calls whose
number some permitted, known name in the set carries, and kills every other call
(forbidden names included); its tests are strictly increasing and at most 249. -/
theorem buildWhitelistFilter_correct (allowedSyscalls : List String) :
    ∃ prog : List SockFilter,
      buildWhitelistFilter allowedSyscalls = .ok (encodeProgram prog) ∧
      (encodeProgram prog).length = 8 * prog.length ∧
      decodeFilter (encodeProgram prog) = prog ∧
      ValidProgram prog ∧
      (∀ d : SeccompData, run prog d = some (UInt32.ofNat
        (if d.arch.toNat = auditArchX86_64 ∧
            ∃ s ∈ allowedSyscalls, s ∉ absolutelyForbiddenSyscalls ∧
              syscalls.lookup s = some d.nr.toNat
          then seccompRetAllow else seccompRetKillProcess))) ∧
      (∀ s ∈ absolutelyForbiddenSyscalls, ∀ d : SeccompData,
        syscalls.lookup s = some d.nr.toNat →
          run prog d = some (UInt32.ofNat seccompRetKillProcess)) ∧
      (∃ ns : List Nat, ns.Sorted (· < ·) ∧ ns.length ≤ 249 ∧
        prog = filterHeader ++ jeqChain ns ++ filterFooter) := by
  refine ⟨whitelistProgram allowedSyscalls, buildWhitelistFilter_eq allowedSyscalls,
    encodeProgram_length _, decodeFilter_encodeProgram _, whitelistProgram_valid allowedSyscalls,
    fun d => ?_, fun s hs d hl => ?_, sortedNumbers allowedSyscalls,
    Finset.sort_sorted_lt _, ?_, rfl⟩
  · rw [run_whitelistProgram, verdict]
    simp only [mem_allowedNumbers]
  · rw [run_whitelistProgram, verdict, if_neg fun h => forbidden_number_not_allowed hs hl h.2]
  · have := allowedNumbers_card_le allowedSyscalls
    rwa [sortedNumbers_length]

end MiniDocker.Seccomp
