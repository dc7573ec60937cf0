import Mathlib.Data.List.Nodup

/-!
# Address allocation across controllers

`get_available_ip` of `utils.py` scans every stored record for a truthy `network.ip`
and hands out the lowest free address of 10.0.0.2 .. 10.0.0.254. `Container.start`
calls it (through `Network.setup`) and later loads the record, sets `network.ip`, and
saves it back. The store is last-writer-wins and has no lock.

`Step` lets any number of controllers interleave: each one scans, then saves the
address it got into the record its load resolved to. `SerialStep` is the same
program when no other step falls between one start's scan and its save; each of
its starts is a scan followed by a save of `Step`.
-/

namespace MiniDocker.Network

set_option autoImplicit false

/-- `f"10.0.0.{i}"`. -/
def hostAddress (i : Nat) : String := "10.0.0." ++ toString i

/-- A stored container record as the allocation reads and writes it. -/
structure IpRecord where
  id : String
  ip : Option String
  deriving DecidableEq, Repr

/-- The record's `network.ip` if the scan adds it, that is if it is truthy. -/
def IpRecord.usedIp (r : IpRecord) : List String :=
  match r.ip with
  | some ip => if ip = "" then [] else [ip]
  | none => []

/-- The addresses the scan collects. -/
def usedIps (store : List IpRecord) : List String :=
  store.flatMap IpRecord.usedIp

/-- `get_available_ip()`. -/
def getAvailableIp (store : List IpRecord) : Except String String :=
  match (List.range' 2 253).find? (fun i => hostAddress i ∉ usedIps store) with
  | some i => .ok (hostAddress i)
  | none => .error "No available IP addresses in 10.0.0.0/24 range"

/-- `get_available_ip` hands out the lowest of 10.0.0.2 .. 10.0.0.254 that no record holds. -/
theorem getAvailableIp_eq_ok {store : List IpRecord} {ip : String} :
    getAvailableIp store = .ok ip ↔ ∃ i, 2 ≤ i ∧ i ≤ 254 ∧ ip = hostAddress i ∧
      hostAddress i ∉ usedIps store ∧ ∀ j, 2 ≤ j → j < i → hostAddress j ∈ usedIps store := by
  unfold getAvailableIp
  split
  · rename_i i hi
    simp only [List.find?_range'_eq_some, List.mem_range'_1, decide_eq_true_eq,
      Bool.not_eq_true', decide_eq_false_iff_not, not_not] at hi
    simp only [Except.ok.injEq]
    constructor
    · rintro rfl
      exact ⟨i, hi.2.1.1, by omega, rfl, hi.1, hi.2.2⟩
    · rintro ⟨k, hk2, hk, rfl, hfree, hlow⟩
      have : i = k := by
        by_contra hne
        rcases Nat.lt_or_gt_of_ne hne with hlt | hlt
        · exact hi.1 (hlow i hi.2.1.1 hlt)
        · exact hfree (hi.2.2 k hk2 hlt)
      rw [this]
  · rename_i hnone
    simp only [List.find?_range'_eq_none, decide_eq_true_eq, Bool.not_eq_true',
      decide_eq_false_iff_not, not_not] at hnone
    simp only [reduceCtorEq, false_iff, not_exists, not_and]
    intro i hi2 hi _ hfree _
    exact hfree (hnone i hi2 (by omega))

theorem getAvailableIp_spec {store : List IpRecord} {ip : String}
    (h : getAvailableIp store = .ok ip) :
    ∃ i, 2 ≤ i ∧ i ≤ 254 ∧ ip = hostAddress i ∧ ip ∉ usedIps store := by
  obtain ⟨i, h2, h254, rfl, hfree, -⟩ := getAvailableIp_eq_ok.mp h
  exact ⟨i, h2, h254, rfl, hfree⟩

/-- The scan fails exactly when all 253 addresses are held. -/
theorem getAvailableIp_error_iff {store : List IpRecord} :
    (∃ e, getAvailableIp store = .error e) ↔
      ∀ i, 2 ≤ i → i ≤ 254 → hostAddress i ∈ usedIps store := by
  unfold getAvailableIp
  split
  · rename_i i hi
    simp only [List.find?_range'_eq_some, List.mem_range'_1, decide_eq_true_eq] at hi
    simp only [reduceCtorEq, exists_false, false_iff, not_forall]
    exact ⟨i, hi.2.1.1, by omega, hi.1⟩
  · rename_i hnone
    simp only [List.find?_range'_eq_none, decide_eq_true_eq, Bool.not_eq_true',
      decide_eq_false_iff_not, not_not] at hnone
    exact iff_of_true ⟨_, rfl⟩ fun i hi2 hi => hnone i hi2 (by omega)

@[simp] theorem usedIps_append (l₁ l₂ : List IpRecord) :
    usedIps (l₁ ++ l₂) = usedIps l₁ ++ usedIps l₂ := List.flatMap_append _ _ _

@[simp] theorem usedIps_cons (r : IpRecord) (l : List IpRecord) :
    usedIps (r :: l) = r.usedIp ++ usedIps l := List.flatMap_cons _ _ _

@[simp] theorem usedIps_nil : usedIps [] = [] := rfl

/-! ### Controllers -/

/-- Where one controller's `Container.start` is: not yet scanned, holding the address
its scan gave, or past its save. -/
inductive Phase where
  | idle
  | scanned (ip : String)
  | done
  deriving DecidableEq, Repr

structure Sys where
  store : List IpRecord
  phase : Nat → Phase

/-- One step of one controller, or a create or remove by anyone. A save writes into
whichever record the load resolved to. -/
inductive Step : Sys → Sys → Prop where
  | scan {s : Sys} {c : Nat} {ip : String} : s.phase c = .idle →
      getAvailableIp s.store = .ok ip →
      Step s { s with phase := Function.update s.phase c (.scanned ip) }
  | scanFail {s : Sys} {c : Nat} {e : String} : s.phase c = .idle →
      getAvailableIp s.store = .error e →
      Step s { s with phase := Function.update s.phase c .done }
  | save {s : Sys} {c : Nat} {ip : String} {l₁ l₂ : List IpRecord} {r : IpRecord} :
      s.phase c = .scanned ip → s.store = l₁ ++ r :: l₂ →
      Step s ⟨l₁ ++ { r with ip := some ip } :: l₂, Function.update s.phase c .done⟩
  | saveLost {s : Sys} {c : Nat} {ip : String} : s.phase c = .scanned ip →
      Step s { s with phase := Function.update s.phase c .done }
  | create {s : Sys} {r : IpRecord} : r.ip = none → Step s { s with store := s.store ++ [r] }
  | remove {s : Sys} {l₁ l₂ : List IpRecord} {r : IpRecord} : s.store = l₁ ++ r :: l₂ →
      Step s { s with store := l₁ ++ l₂ }

/-- A start with nothing between its scan and its save, or a create or remove. -/
inductive SerialStep : List IpRecord → List IpRecord → Prop where
  | start {st l₁ l₂ : List IpRecord} {r : IpRecord} {ip : String} :
      getAvailableIp st = .ok ip → st = l₁ ++ r :: l₂ →
      SerialStep st (l₁ ++ { r with ip := some ip } :: l₂)
  | unchanged {st : List IpRecord} : SerialStep st st
  | create {st : List IpRecord} {r : IpRecord} : r.ip = none → SerialStep st (st ++ [r])
  | remove {st l₁ l₂ : List IpRecord} {r : IpRecord} : st = l₁ ++ r :: l₂ →
      SerialStep st (l₁ ++ l₂)

theorem SerialStep.start_eq_scan_save {st l₁ l₂ : List IpRecord} {r : IpRecord} {ip : String}
    {phase : Nat → Phase} {c : Nat} (hidle : phase c = .idle)
    (hip : getAvailableIp st = .ok ip) (hst : st = l₁ ++ r :: l₂) :
    ∃ mid, Step ⟨st, phase⟩ mid ∧
      Step mid ⟨l₁ ++ { r with ip := some ip } :: l₂,
        Function.update (Function.update phase c (.scanned ip)) c .done⟩ :=
  ⟨_, .scan hidle hip, .save (by simp) hst⟩

/-! ### Distinct addresses -/

/-- No two records hold the same truthy address. -/
def DistinctIps (st : List IpRecord) : Prop := (usedIps st).Nodup

theorem distinctIps_save {l₁ l₂ : List IpRecord} {r : IpRecord} {ip : String}
    (hd : DistinctIps (l₁ ++ r :: l₂)) (hfresh : ip ∉ usedIps (l₁ ++ r :: l₂)) :
    DistinctIps (l₁ ++ { r with ip := some ip } :: l₂) := by
  have hsub : List.Sublist (usedIps l₁ ++ usedIps l₂) (usedIps (l₁ ++ r :: l₂)) := by simp
  have hrest : (usedIps l₁ ++ usedIps l₂).Nodup := hd.sublist hsub
  unfold DistinctIps
  rw [usedIps_append, usedIps_cons, ← List.append_assoc,
    (List.perm_append_comm.append_right _).nodup_iff, List.append_assoc]
  by_cases hne : ip = ""
  · simpa [IpRecord.usedIp, hne] using hrest
  · simp only [IpRecord.usedIp, hne, if_false, List.singleton_append, List.nodup_cons]
    exact ⟨fun h => hfresh (hsub.subset h), hrest⟩

theorem distinctIps_remove {l₁ l₂ : List IpRecord} {r : IpRecord}
    (hd : DistinctIps (l₁ ++ r :: l₂)) : DistinctIps (l₁ ++ l₂) :=
  hd.sublist (by simp)

theorem distinctIps_create {st : List IpRecord} {r : IpRecord} (hr : r.ip = none)
    (hd : DistinctIps st) : DistinctIps (st ++ [r]) := by
  simpa [DistinctIps, IpRecord.usedIp, hr] using hd

/-- Serial starts, creates and removes keep the recorded addresses distinct. -/
theorem SerialStep.distinctIps {st st' : List IpRecord} (h : SerialStep st st')
    (hd : DistinctIps st) : DistinctIps st' := by
  cases h with
  | start hip hst =>
    subst hst
    obtain ⟨_, _, _, _, hfresh⟩ := getAvailableIp_spec hip
    exact distinctIps_save hd hfresh
  | unchanged => exact hd
  | create hr => exact distinctIps_create hr hd
  | remove hst => subst hst; exact distinctIps_remove hd

theorem serial_run_distinctIps {st st' : List IpRecord}
    (h : Relation.ReflTransGen SerialStep st st') (hd : DistinctIps st) : DistinctIps st' := by
  induction h with
  | refl => exact hd
  | tail _ hstep ih => exact hstep.distinctIps ih

/-- The allocation contract that does hold: `get_available_ip` hands out the lowest address of
10.0.0.2 .. 10.0.0.254 that no record holds at the time of its scan, and fails exactly when
every one is held; a serial start is an interleaved one with nothing between its scan and its
save, and as long as starts do not overlap that way, no two records ever hold the same
address. -/
theorem getAvailableIp_fresh_serial_distinct :
    (∀ (store : List IpRecord) (ip : String), getAvailableIp store = .ok ip ↔
      ∃ i, 2 ≤ i ∧ i ≤ 254 ∧ ip = hostAddress i ∧ hostAddress i ∉ usedIps store ∧
        ∀ j, 2 ≤ j → j < i → hostAddress j ∈ usedIps store) ∧
    (∀ store : List IpRecord, (∃ e, getAvailableIp store = .error e) ↔
      ∀ i, 2 ≤ i → i ≤ 254 → hostAddress i ∈ usedIps store) ∧
    (∀ (st l₁ l₂ : List IpRecord) (r : IpRecord) (ip : String) (phase : Nat → Phase) (c : Nat),
      phase c = .idle → getAvailableIp st = .ok ip → st = l₁ ++ r :: l₂ →
      ∃ mid, Step ⟨st, phase⟩ mid ∧
        Step mid ⟨l₁ ++ { r with ip := some ip } :: l₂,
          Function.update (Function.update phase c (.scanned ip)) c .done⟩) ∧
    (∀ st : List IpRecord, Relation.ReflTransGen SerialStep [] st → DistinctIps st) :=
  ⟨fun _ _ => getAvailableIp_eq_ok, fun _ => getAvailableIp_error_iff,
   fun _ _ _ _ _ _ _ hidle hip hst => SerialStep.start_eq_scan_save hidle hip hst,
   fun _ h => serial_run_distinctIps h List.nodup_nil⟩

/-- Two controllers whose scans both come before either save give two records the
same address. -/
theorem interleaved_starts_same_ip :
    ∃ s : Sys, Relation.ReflTransGen Step
        ⟨[⟨"a1b2c3d4e5f6", none⟩, ⟨"0123456789ab", none⟩], fun _ => .idle⟩ s ∧
      s.store = [⟨"a1b2c3d4e5f6", some "10.0.0.2"⟩, ⟨"0123456789ab", some "10.0.0.2"⟩] := by
  have hip : getAvailableIp [⟨"a1b2c3d4e5f6", none⟩, ⟨"0123456789ab", none⟩] = .ok "10.0.0.2" :=
    rfl
  refine ⟨_, .tail (.tail (.tail (.single (@Step.scan _ 0 _ rfl hip)) (@Step.scan _ 1 _ rfl hip))
    (@Step.save _ 0 _ [] _ _ rfl rfl)) (@Step.save _ 1 _ [_] _ _ rfl rfl), rfl⟩

end MiniDocker.Network
