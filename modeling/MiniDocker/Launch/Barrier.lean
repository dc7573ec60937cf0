import MiniDocker.Launch.Protocol

/-!
# The rootless barrier of `Container.start`

In rootless mode the two processes meet at the pipes: the child writes `U` once it
has unshared, the parent waits for it, writes the id maps of `/proc/<pid>`, then
writes `X`, and the child waits for `X` before it sets up anything else.
`BarrierInv` ties the positions of both programs to the bytes in the pipes, the
descriptors each process still holds and the trace. The two orderings of the barrier
and the absence of a stuck state follow from it; with the measure of `Protocol`, every
run ends with both processes done.

In the other modes neither program reads a pipe, so no process can block at all.
-/

namespace MiniDocker.Launch

set_option autoImplicit false

/-! ## The entries the orderings are about -/

/-- The writes of `setup_user_namespace`. -/
def Event.idMap : Event → Bool
  | .setgroups | .uidMap | .gidMap => true
  | _ => false

/-- The steps of `_run_container` after the sync pipes are closed. -/
def Event.afterBarrier : Event → Bool
  | .fsSetup | .configureNet _ | .chdirEnv | .dropCaps | .seccomp | .exec => true
  | _ => false

def Entry.idMapWrite : Entry → Prop
  | .ran .parent e _ => e.idMap
  | _ => False

def Entry.pastBarrier : Entry → Prop
  | .ran .child e _ => e.afterBarrier
  | _ => False

/-- The child has completed `unshare(CLONE_NEWUSER | ...)`, or it is dead. -/
def Entry.childUnshared : Entry → Prop
  | .ran .child (.unshare user _) true => user = true
  | .exited .child => True
  | _ => False

/-- The parent has tried to write `X`, after the id maps or after giving up on them,
or it is dead. -/
def Entry.parentSignalled : Entry → Prop
  | .wrote .parent .p2c _ => True
  | .exited .parent => True
  | _ => False

theorem mem_configureOps {cfg : LaunchConfig} {o : Op} (h : o ∈ cfg.configureOps) :
    ∃ ip, cfg.recordedIp = some ip ∧ ip ≠ "" ∧ o = .attempt (.configureNet ip) 0 := by
  unfold LaunchConfig.configureOps at h
  split at h
  · rename_i ip hip
    simp only [List.mem_ite_nil_right, List.mem_singleton] at h
    exact ⟨ip, hip, h.1.2, h.2⟩
  · simp at h

theorem isolationOps_afterBarrier {cfg : LaunchConfig} {o : Op} (h : o ∈ cfg.isolationOps) :
    ∃ e, e.afterBarrier ∧ (o = .run e ∨ o = .attempt e 0) := by
  simp only [LaunchConfig.isolationOps, List.mem_append, List.mem_singleton,
    List.mem_ite_nil_left, List.mem_ite_nil_right] at h
  rcases h with ((((rfl | h) | rfl) | ⟨-, rfl⟩) | ⟨-, rfl⟩) | rfl
  · simp [Event.afterBarrier]
  · obtain ⟨ip, -, -, rfl⟩ := mem_configureOps h
    exact ⟨.configureNet ip, rfl, .inr rfl⟩
  all_goals simp [Event.afterBarrier]

/-! ## The two programs in rootless mode -/

section Rootless
variable {cfg : LaunchConfig} (hr : cfg.rootless = true)
include hr

theorem parentProgram_rootless : parentProgram cfg =
    [.close (.read .p2c), .close (.write .c2p), .read .c2p, .attempt .setgroups 0,
      .attempt .uidMap 1, .attempt .gidMap 0, .write .p2c, .close (.write .p2c),
      .close (.read .c2p), .run .statusRunning] := by
  simp [parentProgram, hr]

theorem childProgram_rootless : childProgram cfg =
    [.close (.write .p2c), .close (.read .c2p)] ++
      cfg.podShared.map (fun _ => .attempt .podSetns 0) ++
      [.run (.unshare true ("net" ∈ cfg.namespacesToCreate)), .write .c2p, .read .p2c,
        .close (.read .p2c), .close (.write .c2p)] ++ cfg.isolationOps := by
  have hne : cfg.namespacesToCreate ≠ [] := by
    simp only [LaunchConfig.namespacesToCreate, hr, if_true]
    split <;> simp
  simp [childProgram, LaunchConfig.unshareOps, hr, hne]

theorem parentOp_rootless {n : Nat} {o : Op} (h : (parentProgram cfg)[n]? = some o) :
    n = 0 ∧ o = .close (.read .p2c) ∨ n = 1 ∧ o = .close (.write .c2p) ∨
      n = 2 ∧ o = .read .c2p ∨ (3 ≤ n ∧ ∃ e k, e.idMap ∧ n + k ≤ 5 ∧ o = .attempt e k) ∨
      n = 6 ∧ o = .write .p2c ∨ n = 7 ∧ o = .close (.write .p2c) ∨
      n = 8 ∧ o = .close (.read .c2p) ∨ n = 9 ∧ o = .run .statusRunning := by
  rw [parentProgram_rootless hr] at h
  rcases n with _ | _ | _ | _ | _ | _ | _ | _ | _ | _ | n <;> simp at h <;> subst h <;>
    simp [Event.idMap]

theorem childOp_rootless {n : Nat} {o : Op} (h : (childProgram cfg)[n]? = some o) :
    n = 0 ∧ o = .close (.write .p2c) ∨ n = 1 ∧ o = .close (.read .c2p) ∨
      (2 ≤ n ∧ n < cfg.podShared.length + 2 ∧ o = .attempt .podSetns 0) ∨
      (n = cfg.podShared.length + 2 ∧ ∃ net, o = .run (.unshare true net)) ∨
      n = cfg.podShared.length + 3 ∧ o = .write .c2p ∨
      n = cfg.podShared.length + 4 ∧ o = .read .p2c ∨
      n = cfg.podShared.length + 5 ∧ o = .close (.read .p2c) ∨
      n = cfg.podShared.length + 6 ∧ o = .close (.write .c2p) ∨
      (cfg.podShared.length + 6 < n ∧ ∃ e, e.afterBarrier ∧ (o = .run e ∨ o = .attempt e 0)) := by
  rw [childProgram_rootless hr] at h
  simp only [List.cons_append, List.nil_append, List.append_assoc] at h
  rcases n with _ | _ | m
  · simp at h; simp [← h]
  · simp at h; simp [← h]
  simp only [List.getElem?_cons_succ] at h
  rcases Nat.lt_or_ge m cfg.podShared.length with hm | hm
  · rw [List.getElem?_append_left (by simpa using hm)] at h
    simp only [List.getElem?_map, Option.map_eq_some'] at h
    obtain ⟨_, -, rfl⟩ := h
    exact .inr (.inr (.inl ⟨by omega, by omega, rfl⟩))
  · obtain ⟨j, rfl⟩ := Nat.exists_eq_add_of_le hm
    rw [List.getElem?_append_right (by simp), List.length_map, Nat.add_sub_cancel_left] at h
    rcases j with _ | _ | _ | _ | _ | j
    iterate 5 (simp only [List.getElem?_cons_succ, List.getElem?_cons_zero, Option.some.injEq] at h
               subst h; simp)
    simp only [List.getElem?_cons_succ] at h
    exact .inr (.inr (.inr (.inr (.inr (.inr (.inr (.inr
      ⟨by omega, isolationOps_afterBarrier (List.getElem?_mem h)⟩)))))))

theorem childProgram_at :
    (childProgram cfg)[cfg.podShared.length + 2]? =
        some (.run (.unshare true ("net" ∈ cfg.namespacesToCreate))) ∧
      (childProgram cfg)[cfg.podShared.length + 3]? = some (.write .c2p) ∧
      (childProgram cfg)[cfg.podShared.length + 4]? = some (.read .p2c) ∧
      cfg.podShared.length + 6 < (childProgram cfg).length := by
  rw [childProgram_rootless hr]
  refine ⟨?_, ?_, ?_, by simp; omega⟩ <;>
    rw [List.getElem?_append_left (by simp), List.getElem?_append_right (by simp)] <;>
    simp [Nat.add_sub_cancel_left]

theorem childOp_advance {n : Nat} {o : Op} (h : (childProgram cfg)[n]? = some o) (ok : Bool) :
    o.advance ok = 1 := by
  rcases childOp_rootless hr h with ⟨-, rfl⟩ | ⟨-, rfl⟩ | ⟨-, -, rfl⟩ | ⟨-, _, rfl⟩ | ⟨-, rfl⟩ |
    ⟨-, rfl⟩ | ⟨-, rfl⟩ | ⟨-, rfl⟩ | ⟨-, _, -, rfl | rfl⟩ <;> cases ok <;> rfl

end Rootless

/-! ## The invariant -/

/-- Where each program of a rootless start closes each descriptor; `k` is the number of
pod namespaces the child joins before it unshares. -/
def closePos (k : Nat) : Proc → End → Nat
  | .parent, .read .p2c => 0
  | .parent, .write .c2p => 1
  | .parent, .write .p2c => 7
  | .parent, .read .c2p => 8
  | .child, .write .p2c => 0
  | .child, .read .c2p => 1
  | .child, .read .p2c => k + 5
  | .child, .write .c2p => k + 6

/-- What holds of every reachable state of a rootless start. -/
structure BarrierInv (k : Nat) (s : St) : Prop where
  /-- A process holds a descriptor until it dies or closes it. -/
  holds : ∀ p e, s.holds p e = (s.alive p && decide (s.pc p ≤ closePos k p e))
  /-- `U` stays in its pipe from the child's write until the parent reads it. -/
  unsharePending : k + 3 < s.pc .child → s.pc .parent ≤ 2 → s.alive .parent = true →
    0 < s.buf .c2p
  c2pData : 0 < s.buf .c2p → Occurs Entry.childUnshared s.trace
  childPastUnshare : k + 2 < s.pc .child → Occurs Entry.childUnshared s.trace
  parentPastRead : 2 < s.pc .parent → Occurs Entry.childUnshared s.trace
  childDead : s.alive .child = false → Occurs Entry.childUnshared s.trace
  p2cData : 0 < s.buf .p2c → Occurs Entry.parentSignalled s.trace
  parentPastSignal : 6 < s.pc .parent → Occurs Entry.parentSignalled s.trace
  childPastRead : k + 4 < s.pc .child → Occurs Entry.parentSignalled s.trace
  parentDead : s.alive .parent = false → Occurs Entry.parentSignalled s.trace
  mapsOrdered : PrecededBy Entry.childUnshared Entry.idMapWrite s.trace
  isolationOrdered : PrecededBy Entry.parentSignalled Entry.pastBarrier s.trace

theorem BarrierInv.init (k : Nat) : BarrierInv k St.init where
  holds p e := by cases p <;> cases e <;> rename_i q <;> cases q <;> rfl
  unsharePending h := absurd h (Nat.not_lt_zero _)
  c2pData h := absurd h (Nat.lt_irrefl 0)
  childPastUnshare h := absurd h (Nat.not_lt_zero _)
  parentPastRead h := absurd h (Nat.not_lt_zero _)
  childDead h := absurd h (by decide)
  p2cData h := absurd h (Nat.lt_irrefl 0)
  parentPastSignal h := absurd h (Nat.not_lt_zero _)
  childPastRead h := absurd h (Nat.not_lt_zero _)
  parentDead h := absurd h (by decide)
  mapsOrdered := .nil
  isolationOrdered := .nil

namespace BarrierInv
variable {k : Nat} {s : St} (hi : BarrierInv k s)
include hi

theorem unshared_of_eof (h : ¬s.held (.write .c2p)) : Occurs Entry.childUnshared s.trace := by
  have hc := hi.holds .child (.write .c2p)
  rw [show s.holds .child (.write .c2p) = false from
    Bool.eq_false_iff.mpr fun ht => h ⟨_, ht⟩] at hc
  cases ha : s.alive .child
  · exact hi.childDead ha
  · simp only [ha, Bool.true_and, closePos, Bool.false_eq, decide_eq_false_iff_not] at hc
    exact hi.childPastUnshare (by omega)

theorem signalled_of_eof (h : ¬s.held (.write .p2c)) : Occurs Entry.parentSignalled s.trace := by
  have hc := hi.holds .parent (.write .p2c)
  rw [show s.holds .parent (.write .p2c) = false from
    Bool.eq_false_iff.mpr fun ht => h ⟨_, ht⟩] at hc
  cases ha : s.alive .parent
  · exact hi.parentDead ha
  · simp only [ha, Bool.true_and, closePos, Bool.false_eq, decide_eq_false_iff_not] at hc
    exact hi.parentPastSignal (by omega)

end BarrierInv

/-! ## Each step keeps the invariant -/

section Step
variable {cfg : LaunchConfig} (hr : cfg.rootless = true) {s s' : St}
include hr

theorem parent_covers_closePos (k : Nat) {n : Nat} {o : Op} (ok : Bool) (e : End)
    (h : (parentProgram cfg)[n]? = some o) :
    (n ≤ closePos k .parent e ∧ closePos k .parent e < n + o.advance ok) ↔ o = .close e := by
  rcases parentOp_rootless hr h with ⟨rfl, rfl⟩ | ⟨rfl, rfl⟩ | ⟨rfl, rfl⟩ |
    ⟨h3, e', j, -, hj, rfl⟩ | ⟨rfl, rfl⟩ | ⟨rfl, rfl⟩ | ⟨rfl, rfl⟩ | ⟨rfl, rfl⟩ <;>
    rcases e with (_ | _) | (_ | _) <;> simp only [closePos, Op.advance, reduceCtorEq, iff_false,
      Op.close.injEq, End.read.injEq, End.write.injEq, iff_true] <;> (try split) <;> omega

theorem child_covers_closePos {n : Nat} {o : Op} (ok : Bool) (e : End)
    (h : (childProgram cfg)[n]? = some o) :
    (n ≤ closePos cfg.podShared.length .child e ∧
      closePos cfg.podShared.length .child e < n + o.advance ok) ↔ o = .close e := by
  rw [childOp_advance hr h]
  rcases childOp_rootless hr h with ⟨rfl, rfl⟩ | ⟨rfl, rfl⟩ | ⟨h2, h2', rfl⟩ | ⟨rfl, _, rfl⟩ |
    ⟨rfl, rfl⟩ | ⟨rfl, rfl⟩ | ⟨rfl, rfl⟩ | ⟨rfl, rfl⟩ | ⟨h6, _, -, rfl | rfl⟩ <;>
    rcases e with (_ | _) | (_ | _) <;> simp [closePos] <;> omega

theorem childOp_ne_read_c2p {n : Nat} {o : Op} (h : (childProgram cfg)[n]? = some o) :
    o ≠ .read .c2p := by
  rcases childOp_rootless hr h with ⟨-, rfl⟩ | ⟨-, rfl⟩ | ⟨-, -, rfl⟩ | ⟨-, _, rfl⟩ | ⟨-, rfl⟩ |
    ⟨-, rfl⟩ | ⟨-, rfl⟩ | ⟨-, rfl⟩ | ⟨-, _, -, rfl | rfl⟩ <;> simp

theorem BarrierInv.unsharePending_step (hi : BarrierInv cfg.podShared.length s)
    (h : Step cfg s s') : cfg.podShared.length + 3 < s'.pc .child → s'.pc .parent ≤ 2 →
      s'.alive .parent = true → 0 < s'.buf .c2p := by
  intro hc hp ha
  cases h with
  | move hal ho hA =>
    rename_i r o ok
    cases r with
    | parent =>
      rw [St.apply_pc_other _ _ _ _ _ (by decide)] at hc
      rw [St.apply_pc_self] at hp
      have := o.advance_pos ok
      rcases parentOp_rootless hr ho with ⟨h0, rfl⟩ | ⟨h1, rfl⟩ | ⟨h2, -⟩ | ⟨h3, -⟩ | ⟨h6, -⟩ |
        ⟨h7, -⟩ | ⟨h8, -⟩ | ⟨h9, -⟩
      iterate 2 exact hi.unsharePending hc (by omega) ha
      all_goals omega
    | child =>
      rw [St.apply_pc_other _ _ _ _ _ (by decide)] at hp
      rw [St.apply_pc_self, childOp_advance hr ho] at hc
      rw [St.apply_alive] at ha
      by_cases hn : s.pc .child = cfg.podShared.length + 3
      · have hw : o = .write .c2p := by
          simpa [St.op, program, hn, (childProgram_at hr).2.1] using ho.symm
        subst hw
        rw [St.apply_buf_write]
        cases ok
        · have hheld : s.held (.read .c2p) := ⟨.parent, by simp [hi.holds, ha, closePos]; omega⟩
          exact absurd hheld (by simpa [St.Allows] using hA)
        · simp
      · have hw : o ≠ .write .c2p := by
          rintro rfl
          rcases childOp_rootless hr ho with h | h | h | h | h | h | h | h | h <;> simp_all
        rw [St.apply_buf_of_ne _ _ _ _ (childOp_ne_read_c2p hr ho) hw]
        exact hi.unsharePending (by omega) hp ha
  | exit =>
    rename_i r _ _
    cases r
    · simp at ha
    · rw [St.kill_alive_other _ _ _ (by decide)] at ha
      exact hi.unsharePending hc hp ha

theorem BarrierInv.step (hi : BarrierInv cfg.podShared.length s) (h : Step cfg s s') :
    BarrierInv cfg.podShared.length s' where
  holds := h.keep_holds hi.holds fun p o ok e ho => by
    cases p
    · exact parent_covers_closePos hr _ ok e ho
    · exact child_covers_closePos hr ok e ho
  unsharePending := hi.unsharePending_step hr h
  c2pData := h.keep_buffer hi.c2pData fun r _ ho _ => by
    cases r
    · rcases parentOp_rootless hr ho with h | h | h | ⟨-, _, _, -, -, h⟩ | h | h | h | h <;>
        simp at h
    · have hn : s.pc .child = cfg.podShared.length + 3 := by
        rcases childOp_rootless hr ho with h | h | h | h | h | h | h | h | h <;> simp_all
      exact (hi.childPastUnshare (by omega)).mono (by simp)
  childPastUnshare := h.keep_milestone hi.childPastUnshare fun o ok _ ho _ h1 h2 => by
    rw [childOp_advance hr ho] at h2
    have hn : s.pc .child = cfg.podShared.length + 2 := by omega
    simp only [St.op, program, hn, (childProgram_at hr).1, Option.some.injEq] at ho
    subst ho
    simp [Op.entry, Entry.childUnshared]
  parentPastRead := h.keep_milestone hi.parentPastRead fun o ok _ ho hA h1 h2 => by
    rcases parentOp_rootless hr ho with ⟨h0, rfl⟩ | ⟨h0, rfl⟩ | ⟨-, rfl⟩ | ⟨h0, -⟩ | ⟨h0, -⟩ |
      ⟨h0, -⟩ | ⟨h0, -⟩ | ⟨h0, -⟩
    · simp only [Op.advance] at h2; omega
    · simp only [Op.advance] at h2; omega
    · cases ok
      · exact (hi.unshared_of_eof hA.2).mono (by simp)
      · exact (hi.c2pData hA).mono (by simp)
    all_goals omega
  childDead := h.keep_death hi.childDead trivial
  p2cData := h.keep_buffer hi.p2cData fun r _ ho _ => by
    cases r
    · simp [Entry.parentSignalled]
    · rcases childOp_rootless hr ho with h | h | h | ⟨-, _, h⟩ | h | h | h | h | ⟨-, _, -, h | h⟩ <;>
        simp at h
  parentPastSignal := h.keep_milestone hi.parentPastSignal fun o ok _ ho _ h1 h2 => by
    rcases parentOp_rootless hr ho with ⟨h0, rfl⟩ | ⟨h0, rfl⟩ | ⟨h0, rfl⟩ | ⟨h0, e, j, -, hj, rfl⟩ |
      ⟨-, rfl⟩ | ⟨h0, rfl⟩ | ⟨h0, rfl⟩ | ⟨h0, rfl⟩
    all_goals first
      | (simp only [Op.advance] at h2; omega)
      | (simp only [Op.advance] at h2; split at h2 <;> omega)
      | simp [Op.entry, Entry.parentSignalled]
  childPastRead := h.keep_milestone hi.childPastRead fun o ok _ ho hA h1 h2 => by
    rw [childOp_advance hr ho] at h2
    have hn : s.pc .child = cfg.podShared.length + 4 := by omega
    simp only [St.op, program, hn, (childProgram_at hr).2.2.1, Option.some.injEq] at ho
    subst ho
    cases ok
    · exact (hi.signalled_of_eof hA.2).mono (by simp)
    · exact (hi.p2cData hA).mono (by simp)
  parentDead := h.keep_death hi.parentDead trivial
  mapsOrdered := h.keep_order hi.mapsOrdered (fun r o ok _ ho _ x hx heff => by
      cases r
      · rcases parentOp_rootless hr ho with ⟨-, rfl⟩ | ⟨-, rfl⟩ | ⟨-, rfl⟩ | ⟨h3, _, _, _, _, rfl⟩ |
          ⟨-, rfl⟩ | ⟨-, rfl⟩ | ⟨-, rfl⟩ | ⟨-, rfl⟩ <;>
          simp only [Op.entry, Option.mem_def, Option.some.injEq, reduceCtorEq] at hx <;>
          subst hx <;> simp [Entry.idMapWrite, Event.idMap] at heff
        exact hi.parentPastRead (by omega)
      · cases o <;> simp only [Op.entry, Option.mem_def, Option.some.injEq, reduceCtorEq] at hx <;>
          subst hx <;> simp [Entry.idMapWrite] at heff)
    (fun _ => id)
  isolationOrdered := h.keep_order hi.isolationOrdered (fun r o ok _ ho _ x hx heff => by
      cases r
      · cases o <;> simp only [Op.entry, Option.mem_def, Option.some.injEq, reduceCtorEq] at hx <;>
          subst hx <;> simp [Entry.pastBarrier] at heff
      · rcases childOp_rootless hr ho with ⟨-, rfl⟩ | ⟨-, rfl⟩ | ⟨-, -, rfl⟩ | ⟨-, _, rfl⟩ |
          ⟨-, rfl⟩ | ⟨-, rfl⟩ | ⟨-, rfl⟩ | ⟨-, rfl⟩ | ⟨h6, e, he, rfl | rfl⟩ <;>
          simp only [Op.entry, Option.mem_def, Option.some.injEq, reduceCtorEq] at hx <;>
          subst hx <;> simp [Entry.pastBarrier, Event.afterBarrier] at heff
        all_goals exact hi.childPastRead (by omega))
    (fun _ => id)

theorem BarrierInv.reachable {s : St} (h : Reachable cfg s) :
    BarrierInv cfg.podShared.length s := by
  induction h with
  | refl => exact BarrierInv.init _
  | tail _ hst ih => exact ih.step hr hst

theorem BarrierInv.done_of_stuck {s : St} (hi : BarrierInv cfg.podShared.length s)
    (hstuck : ¬s.CanMove cfg) : ∀ p, s.Done cfg p := by
  have hlen := (childProgram_at hr).2.2.2
  have hparent : s.Done cfg .parent := by
    by_contra hd
    simp only [St.Done, not_or, Bool.not_eq_false, Nat.not_le] at hd
    obtain ⟨q, ho, hb, r, hheld⟩ := St.blocked_of_stuck hstuck hd.1 hd.2
    obtain ⟨hn, rfl⟩ : s.pc .parent = 2 ∧ q = .c2p := by
      rcases parentOp_rootless hr ho with h | h | h | ⟨_, _, _, _, _, h⟩ | h | h | h | h <;>
        simp_all
    rw [hi.holds] at hheld
    cases r
    · simp [closePos, hn] at hheld
    · simp only [Bool.and_eq_true, decide_eq_true_eq, closePos] at hheld
      obtain ⟨q', hoc, -, -⟩ := St.blocked_of_stuck hstuck hheld.1 (by simp [program]; omega)
      have hc : s.pc .child = cfg.podShared.length + 4 := by
        rcases childOp_rootless hr hoc with h | h | h | ⟨_, _, h⟩ | h | h | h | h |
          ⟨_, _, _, h | h⟩ <;> simp_all
      have := hi.unsharePending (by omega) (by omega) hd.1
      omega
  refine fun p => p.casesOn hparent ?_
  by_contra hd
  simp only [St.Done, not_or, Bool.not_eq_false, Nat.not_le] at hd
  obtain ⟨q, ho, -, r, hheld⟩ := St.blocked_of_stuck hstuck hd.1 hd.2
  obtain ⟨hn, rfl⟩ : s.pc .child = cfg.podShared.length + 4 ∧ q = .p2c := by
    rcases childOp_rootless hr ho with h | h | h | ⟨_, _, h⟩ | h | h | h | h | ⟨_, _, _, h | h⟩ <;>
      simp_all
  rw [hi.holds] at hheld
  cases r
  · simp only [Bool.and_eq_true, decide_eq_true_eq, closePos] at hheld
    rcases hparent with h | h
    · simp [h] at hheld
    · simp [program, parentProgram_rootless hr] at h; omega
  · simp [closePos, hn] at hheld

end Step

/-! ## Without the barrier

In the other modes neither program reads a pipe, so a process that has an op left can
always run it. -/

section NoBarrier
variable {cfg : LaunchConfig} (hr : cfg.rootless = false)
include hr

theorem program_no_read (p : Proc) (q : PipeId) : Op.read q ∉ program cfg p := by
  have hnet : ∀ a, Op.read q ∉ networkOps a := by intro a; cases a <;> simp [networkOps]
  have huns : Op.read q ∉ cfg.unshareOps := by
    simp only [LaunchConfig.unshareOps]; split <;> simp
  have hiso : Op.read q ∉ cfg.isolationOps := fun h => by
    simpa using isolationOps_afterBarrier h
  cases p <;> simp [program, parentProgram, childProgram, hr, hnet, huns, hiso]

theorem done_of_stuck_of_not_rootless {s : St} (hstuck : ¬s.CanMove cfg) : ∀ p, s.Done cfg p := by
  intro p
  by_contra hd
  simp only [St.Done, not_or, Bool.not_eq_false, Nat.not_le] at hd
  obtain ⟨q, ho, -⟩ := St.blocked_of_stuck hstuck hd.1 hd.2
  exact program_no_read hr p q (List.getElem?_mem ho)

theorem parentProgram_no_idMap :
    ∀ o ∈ parentProgram cfg, ∀ ok, ∀ x ∈ o.entry .parent ok, ¬x.idMapWrite := by
  have hnet : ∀ a, ∀ o ∈ networkOps a, ∀ ok, ∀ x ∈ o.entry .parent ok, ¬x.idMapWrite := by
    intro a; cases a <;> simp [networkOps, Op.entry, Entry.idMapWrite, Event.idMap]
  simp only [parentProgram, hr, Bool.false_eq_true, if_false, List.nil_append,
    List.forall_mem_append, List.mem_ite_nil_right]
  refine ⟨by simp [Op.entry, Entry.idMapWrite, Event.idMap], fun o ho => hnet _ o ho.2⟩

theorem no_idMapWrite {s : St} (h : Reachable cfg s) : ¬Occurs Entry.idMapWrite s.trace := by
  rintro ⟨x, hx, hmap⟩
  rcases h.mem_trace x hx with ⟨p, rfl⟩ | ⟨p, o, ok, ho, hxo⟩
  · exact hmap
  · cases p
    · exact parentProgram_no_idMap hr o ho ok x hxo hmap
    · cases o <;> simp [Op.entry] at hxo <;> subst hxo <;> exact hmap

end NoBarrier

/-! ## The barrier of `start` -/

/-- Every run of `start` ends; a state where no live process can run its next op has
both processes finished or dead, so neither waits forever at a pipe. In rootless mode
the parent's id-map writes come after the child's `unshare(CLONE_NEWUSER)` or death,
and the child's isolation steps after the parent's `X` (sent or failed) or death; in the
other modes the id maps are never written. -/
theorem start_sync_barrier (cfg : LaunchConfig) :
    (∀ s s', Step cfg s s' → s'.measure cfg < s.measure cfg) ∧
    (∀ s, Reachable cfg s → ¬s.CanMove cfg → ∀ p, s.Done cfg p) ∧
    (cfg.rootless = true → ∀ s, Reachable cfg s →
      PrecededBy Entry.childUnshared Entry.idMapWrite s.trace ∧
      PrecededBy Entry.parentSignalled Entry.pastBarrier s.trace) ∧
    (cfg.rootless = false → ∀ s, Reachable cfg s → ¬Occurs Entry.idMapWrite s.trace) := by
  refine ⟨fun _ _ h => h.measure_lt, fun s h hstuck => ?_, fun hr s h => ?_,
    fun hr _ h => no_idMapWrite hr h⟩
  · cases hr : cfg.rootless
    · exact done_of_stuck_of_not_rootless hr hstuck
    · exact (BarrierInv.reachable hr h).done_of_stuck hr hstuck
  · have hi := BarrierInv.reachable hr h
    exact ⟨hi.mapsOrdered, hi.isolationOrdered⟩

end MiniDocker.Launch
