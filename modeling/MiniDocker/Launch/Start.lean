import MiniDocker.Launch.Barrier
import MiniDocker.Network.Allocation

/-!
# Networking and status around the fork

Outside rootless mode the two processes of `Container.start` do not wait for each
other: the child never reads `X` and the parent never reads `U`. The parent moves the
container end of the veth pair into `/proc/<pid>/ns/net` whenever it gets there, and
the child configures `eth0` with the address of the record it loaded before the fork,
while the parent saves the address `get_available_ip` gave it. The parent writes
`status=running` right after `X` and returns; nothing in `start` looks at the child
again.
-/

namespace MiniDocker.Launch

set_option autoImplicit false

open MiniDocker.Network

theorem Reachable.init (cfg : LaunchConfig) : Reachable cfg St.init := .refl

theorem Reachable.exit {cfg : LaunchConfig} {s : St} (h : Reachable cfg s) (p : Proc)
    (hp : s.alive p = true) (hpc : s.pc p < (program cfg p).length) : Reachable cfg (s.kill p) :=
  .tail h (.exit hp hpc)

theorem Reachable.move {cfg : LaunchConfig} {s : St} (h : Reachable cfg s) (p : Proc) (o : Op)
    (ok : Bool) (hp : s.alive p = true) (ho : s.op cfg p = some o) (ha : s.Allows o ok) :
    Reachable cfg (s.apply p o ok) :=
  .tail h (.move hp ho ha)

/-- The record `run` creates, started as root for the first time: it has no address yet. -/
def firstStart : LaunchConfig where
  rootless := false
  namespaces := ["pid", "uts", "mnt", "ipc", "net"]
  podShared := []
  seccompEnabled := true
  recordedIp := none
  allocated := getAvailableIp [⟨"a1b2c3d4e5f6", none⟩]

/-- The same record started again after `stop`, which keeps `network.ip`. -/
def restart : LaunchConfig :=
  { firstStart with
    recordedIp := some "10.0.0.2"
    allocated := getAvailableIp [⟨"a1b2c3d4e5f6", some "10.0.0.2"⟩] }

/-- On a first start the parent can run all of its network setup, the move of the veth
included, before the child unshares its network namespace. -/
theorem firstStart_moves_veth_before_unshare : ∃ s, Reachable firstStart s ∧
    s.trace = [.wrote .parent .p2c true, .ran .parent .statusRunning true,
      .ran .parent .createBridge true, .ran .parent (.allocateIp "10.0.0.2") true,
      .ran .parent .createVeth true, .ran .parent .attachVeth true,
      .ran .parent .moveVeth true, .ran .child .cgroupSetup true,
      .ran .child (.unshare false true) true] := by
  have h := Reachable.init firstStart
  replace h := h.move .parent (.close (.read .p2c)) true rfl rfl rfl
  replace h := h.move .parent (.close (.write .c2p)) true rfl rfl rfl
  replace h := h.move .parent (.write .p2c) true rfl rfl (iff_of_true rfl ⟨.child, rfl⟩)
  replace h := h.move .parent (.close (.write .p2c)) true rfl rfl rfl
  replace h := h.move .parent (.close (.read .c2p)) true rfl rfl rfl
  replace h := h.move .parent (.run .statusRunning) true rfl rfl rfl
  replace h := h.move .parent (.attempt .createBridge 6) true rfl rfl trivial
  replace h := h.move .parent (.run (.allocateIp "10.0.0.2")) true rfl rfl rfl
  replace h := h.move .parent (.attempt .createVeth 4) true rfl rfl trivial
  replace h := h.move .parent (.attempt .attachVeth 3) true rfl rfl trivial
  replace h := h.move .parent (.attempt .moveVeth 2) true rfl rfl trivial
  replace h := h.move .child (.close (.write .p2c)) true rfl rfl rfl
  replace h := h.move .child (.close (.read .c2p)) true rfl rfl rfl
  replace h := h.move .child (.attempt .cgroupSetup 0) true rfl rfl trivial
  replace h := h.move .child (.run (.unshare false true)) true rfl rfl rfl
  exact ⟨_, h, rfl⟩

/-- On a restart the child configures the address of its old record while the parent
allocates and saves another one. -/
theorem restart_configures_stale_address : ∃ s, Reachable restart s ∧
    s.trace = [.wrote .parent .p2c true, .ran .parent .statusRunning true,
      .ran .parent .createBridge true, .ran .parent (.allocateIp "10.0.0.3") true,
      .ran .parent .createVeth true, .ran .parent .attachVeth true,
      .ran .parent .moveVeth true, .ran .parent .setupNat true,
      .ran .parent (.saveIp "10.0.0.3") true, .ran .child .cgroupSetup true,
      .ran .child (.unshare false true) true, .ran .child .fsSetup true,
      .ran .child (.configureNet "10.0.0.2") true] := by
  have h := Reachable.init restart
  replace h := h.move .parent (.close (.read .p2c)) true rfl rfl rfl
  replace h := h.move .parent (.close (.write .c2p)) true rfl rfl rfl
  replace h := h.move .parent (.write .p2c) true rfl rfl (iff_of_true rfl ⟨.child, rfl⟩)
  replace h := h.move .parent (.close (.write .p2c)) true rfl rfl rfl
  replace h := h.move .parent (.close (.read .c2p)) true rfl rfl rfl
  replace h := h.move .parent (.run .statusRunning) true rfl rfl rfl
  replace h := h.move .parent (.attempt .createBridge 6) true rfl rfl trivial
  replace h := h.move .parent (.run (.allocateIp "10.0.0.3")) true rfl rfl rfl
  replace h := h.move .parent (.attempt .createVeth 4) true rfl rfl trivial
  replace h := h.move .parent (.attempt .attachVeth 3) true rfl rfl trivial
  replace h := h.move .parent (.attempt .moveVeth 2) true rfl rfl trivial
  replace h := h.move .parent (.run .setupNat) true rfl rfl rfl
  replace h := h.move .parent (.attempt (.saveIp "10.0.0.3") 0) true rfl rfl trivial
  replace h := h.move .child (.close (.write .p2c)) true rfl rfl rfl
  replace h := h.move .child (.close (.read .c2p)) true rfl rfl rfl
  replace h := h.move .child (.attempt .cgroupSetup 0) true rfl rfl trivial
  replace h := h.move .child (.run (.unshare false true)) true rfl rfl rfl
  replace h := h.move .child (.close (.read .p2c)) true rfl rfl rfl
  replace h := h.move .child (.close (.write .c2p)) true rfl rfl rfl
  replace h := h.move .child (.run .fsSetup) true rfl rfl rfl
  replace h := h.move .child (.attempt (.configureNet "10.0.0.2") 0) true rfl rfl trivial
  exact ⟨_, h, rfl⟩

/-! ## The addresses of a restart -/

section Addresses
variable {cfg : LaunchConfig}

theorem childProgram_configureNet {ip : String} {o : Op} (ho : o ∈ childProgram cfg)
    (he : o = .run (.configureNet ip) ∨ ∃ k, o = .attempt (.configureNet ip) k) :
    cfg.recordedIp = some ip ∧ ip ≠ "" := by
  rcases he with rfl | ⟨k, rfl⟩ <;>
    simp [childProgram, LaunchConfig.isolationOps, LaunchConfig.unshareOps] at ho <;>
    obtain ⟨ip', h₁, h₂, h₃⟩ := mem_configureOps ho <;> cases h₃
  exact ⟨h₁, h₂⟩

theorem parentProgram_saveIp {ip : String} {o : Op} (ho : o ∈ parentProgram cfg)
    (he : o = .run (.saveIp ip) ∨ ∃ k, o = .attempt (.saveIp ip) k) :
    cfg.allocated = .ok ip := by
  have hnet : o ∈ networkOps cfg.allocated := by
    rcases he with rfl | ⟨k, rfl⟩ <;> simp [parentProgram] at ho <;> exact ho.2
  unfold networkOps at hnet
  split at hnet <;> rcases he with rfl | ⟨k, rfl⟩ <;> simp_all

/-- However the two processes interleave, when `start` runs on a record that already holds
an address, the address the child gives `eth0` is not the one the parent saves: the
parent's `get_available_ip` skips every address a record holds, this one's included. -/
theorem restart_addresses_differ {store : List IpRecord} {r : IpRecord} (hr : r ∈ store)
    (hip : r.ip = cfg.recordedIp) (halloc : cfg.allocated = getAvailableIp store) {s : St}
    (h : Reachable cfg s) {ip₁ ip₂ : String} {b₁ b₂ : Bool}
    (h₁ : .ran .child (.configureNet ip₁) b₁ ∈ s.trace)
    (h₂ : .ran .parent (.saveIp ip₂) b₂ ∈ s.trace) : ip₁ ≠ ip₂ := by
  obtain ⟨hrec, hne⟩ : cfg.recordedIp = some ip₁ ∧ ip₁ ≠ "" := by
    rcases h.mem_trace _ h₁ with ⟨_, hx⟩ | ⟨p, o, ok, ho, hx⟩
    · cases hx
    · obtain ⟨rfl, he⟩ := Op.ran_mem_entry hx
      exact childProgram_configureNet ho he
  have hsave : getAvailableIp store = .ok ip₂ := by
    rcases h.mem_trace _ h₂ with ⟨_, hx⟩ | ⟨p, o, ok, ho, hx⟩
    · cases hx
    · obtain ⟨rfl, he⟩ := Op.ran_mem_entry hx
      exact halloc ▸ parentProgram_saveIp ho he
  obtain ⟨-, -, -, -, hfree⟩ := getAvailableIp_spec hsave
  have hused : ip₁ ∈ usedIps store :=
    List.mem_flatMap.mpr ⟨r, hr, by simp [IpRecord.usedIp, hip, hrec, hne]⟩
  rintro rfl
  exact hfree hused

theorem restart_addresses_differ_at : ∃ s, Reachable restart s ∧
    Entry.ran .child (.configureNet "10.0.0.2") true ∈ s.trace ∧
    Entry.ran .parent (.saveIp "10.0.0.3") true ∈ s.trace ∧ "10.0.0.2" ≠ "10.0.0.3" := by
  obtain ⟨s, hs, htr⟩ := restart_configures_stale_address
  have h₁ : Entry.ran .child (.configureNet "10.0.0.2") true ∈ s.trace := by simp [htr]
  have h₂ : Entry.ran .parent (.saveIp "10.0.0.3") true ∈ s.trace := by simp [htr]
  exact ⟨s, hs, h₁, h₂, restart_addresses_differ
    (List.mem_singleton_self ⟨"a1b2c3d4e5f6", some "10.0.0.2"⟩) rfl rfl hs h₁ h₂⟩

end Addresses

/-! ## `status=running` -/

section Status
variable {cfg : LaunchConfig}

/-- Where the parent's program calls `update_container_status(..., "running", pid)`. -/
def statusPos (cfg : LaunchConfig) : Nat := if cfg.rootless then 9 else 5

theorem parentProgram_status : (parentProgram cfg)[statusPos cfg]? = some (.run .statusRunning) := by
  unfold statusPos parentProgram
  cases cfg.rootless <;> simp

theorem parentOp_before_status {n : Nat} {o : Op} (ok : Bool)
    (h : (parentProgram cfg)[n]? = some o) (hn : n < statusPos cfg) :
    n + o.advance ok ≤ statusPos cfg := by
  cases hr : cfg.rootless
  · simp only [statusPos, hr, Bool.false_eq_true, if_false] at hn ⊢
    simp only [parentProgram, hr] at h
    rcases n with _ | _ | _ | _ | _ | n
    all_goals first | omega | (simp at h; subst h; simp [Op.advance])
  · simp only [statusPos, hr, if_true] at hn ⊢
    rcases parentOp_rootless hr h with ⟨rfl, rfl⟩ | ⟨rfl, rfl⟩ | ⟨rfl, rfl⟩ |
      ⟨h3, e, j, -, hj, rfl⟩ | ⟨rfl, rfl⟩ | ⟨rfl, rfl⟩ | ⟨rfl, rfl⟩ | ⟨rfl, rfl⟩ <;>
      simp only [Op.advance] <;> (try split) <;> omega

theorem Reachable.statusRunning {s : St} (h : Reachable cfg s) :
    statusPos cfg < s.pc .parent → Occurs (· = .ran .parent .statusRunning true) s.trace := by
  induction h with
  | refl => intro h; exact absurd h (Nat.not_lt_zero _)
  | tail _ hst ih =>
    rename_i t _ _
    refine hst.keep_milestone ih fun o ok _ ho _ h1 h2 => ?_
    rcases Nat.lt_or_ge (t.pc .parent) (statusPos cfg) with hlt | hge
    · exact absurd h2 (Nat.not_lt.mpr (parentOp_before_status ok ho hlt))
    · have hn : t.pc .parent = statusPos cfg := by omega
      simp only [St.op, program, hn, parentProgram_status, Option.some.injEq] at ho
      subst ho
      simp [Op.entry]

theorem Reachable.parent_finishes {s : St} (h : Reachable cfg s) (hc : s.alive .child = false)
    (hp : s.alive .parent = true) :
    ∃ s', Relation.ReflTransGen (Step cfg) s s' ∧ s'.alive .parent = true ∧
      (program cfg .parent).length ≤ s'.pc .parent := by
  generalize hn : (program cfg .parent).length - s.pc .parent = n
  induction n using Nat.strong_induction_on generalizing s with
  | _ n ih =>
    by_cases hend : (program cfg .parent).length ≤ s.pc .parent
    · exact ⟨s, .refl, hp, hend⟩
    obtain ⟨o, ho⟩ : ∃ o, s.op cfg .parent = some o :=
      ⟨_, List.getElem?_eq_getElem (by omega)⟩
    obtain ⟨ok, hok⟩ : ∃ ok, s.Allows o ok := by
      by_cases hread : ∃ q, o = .read q
      · obtain ⟨q, rfl⟩ := hread
        cases hr : cfg.rootless
        · exact absurd (List.getElem?_mem ho) (program_no_read hr _ q)
        · have hi := BarrierInv.reachable hr h
          obtain ⟨hn2, rfl⟩ : s.pc .parent = 2 ∧ q = .c2p := by
            rcases parentOp_rootless hr ho with h | h | h | ⟨_, _, _, _, _, h⟩ | h | h | h | h <;>
              simp_all
          refine s.allows_read fun _ ⟨r, hheld⟩ => ?_
          rw [hi.holds] at hheld
          cases r <;> simp [closePos, hn2, hc] at hheld
      · exact s.allows_of_not_read fun q h => hread ⟨q, h⟩
    have hstep : Step cfg s (s.apply .parent o ok) := .move hp ho hok
    obtain ⟨s', hs', hp', hend'⟩ := ih _ (by have := o.advance_pos ok; simp; omega)
      (h.tail hstep) hc hp rfl
    exact ⟨s', .head hstep hs', hp', hend'⟩

/-- `start` writes `status=running` on every path that gets past the write of `X`, and
once the child is dead the parent still runs the rest of `start` to its end: nothing in
`start` notices a child that died before `os.execvp`. -/
theorem start_records_running (cfg : LaunchConfig) :
    (∀ s, Reachable cfg s → (program cfg .parent).length ≤ s.pc .parent →
      Entry.ran .parent .statusRunning true ∈ s.trace) ∧
    (∀ s, Reachable cfg s → s.alive .child = false → s.alive .parent = true →
      ∃ s', Relation.ReflTransGen (Step cfg) s s' ∧ s'.alive .parent = true ∧
        (program cfg .parent).length ≤ s'.pc .parent ∧
        Entry.ran .parent .statusRunning true ∈ s'.trace) := by
  have hlt : statusPos cfg < (program cfg .parent).length :=
    (List.getElem?_eq_some_iff.mp parentProgram_status).1
  have hfin : ∀ s, Reachable cfg s → (program cfg .parent).length ≤ s.pc .parent →
      Entry.ran .parent .statusRunning true ∈ s.trace := fun s h hend => by
    obtain ⟨x, hx, rfl⟩ := h.statusRunning (by omega)
    exact hx
  refine ⟨hfin, fun s h hc hp => ?_⟩
  obtain ⟨s', hs', hp', hend⟩ := h.parent_finishes hc hp
  exact ⟨s', hs', hp', hend, hfin s' (h.trans hs') hend⟩

end Status

/-- On a first start the child can join its cgroup and die before `os.execvp` while the
parent still records `status=running` and sets up the network. -/
theorem firstStart_child_dies_running : ∃ s, Reachable firstStart s ∧
    s.alive .child = false ∧ s.pc .child < (program firstStart .child).length ∧
    (program firstStart .parent).length ≤ s.pc .parent ∧
    s.trace = [.ran .child .cgroupSetup true, .exited .child, .wrote .parent .p2c false,
      .ran .parent .statusRunning true, .ran .parent .createBridge true,
      .ran .parent (.allocateIp "10.0.0.2") true, .ran .parent .createVeth true,
      .ran .parent .attachVeth true, .ran .parent .moveVeth true, .ran .parent .setupNat true,
      .ran .parent (.saveIp "10.0.0.2") true] := by
  have h := Reachable.init firstStart
  replace h := h.move .child (.close (.write .p2c)) true rfl rfl rfl
  replace h := h.move .child (.close (.read .c2p)) true rfl rfl rfl
  replace h := h.move .child (.attempt .cgroupSetup 0) true rfl rfl trivial
  replace h := h.exit .child rfl (by decide)
  replace h := h.move .parent (.close (.read .p2c)) true rfl rfl rfl
  replace h := h.move .parent (.close (.write .c2p)) true rfl rfl rfl
  replace h := h.move .parent (.write .p2c) false rfl rfl
    (iff_of_false (by decide) fun ⟨r, hr⟩ => by cases r <;> exact absurd hr (by decide))
  replace h := h.move .parent (.close (.write .p2c)) true rfl rfl rfl
  replace h := h.move .parent (.close (.read .c2p)) true rfl rfl rfl
  replace h := h.move .parent (.run .statusRunning) true rfl rfl rfl
  replace h := h.move .parent (.attempt .createBridge 6) true rfl rfl trivial
  replace h := h.move .parent (.run (.allocateIp "10.0.0.2")) true rfl rfl rfl
  replace h := h.move .parent (.attempt .createVeth 4) true rfl rfl trivial
  replace h := h.move .parent (.attempt .attachVeth 3) true rfl rfl trivial
  replace h := h.move .parent (.attempt .moveVeth 2) true rfl rfl trivial
  replace h := h.move .parent (.run .setupNat) true rfl rfl rfl
  replace h := h.move .parent (.attempt (.saveIp "10.0.0.2") 0) true rfl rfl trivial
  exact ⟨_, h, rfl, by decide, by decide, rfl⟩



end MiniDocker.Launch
