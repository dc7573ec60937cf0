import MiniDocker.Pods.Files
import MiniDocker.Store.Cleanup
import MiniDocker.Oci.Refine

/-! # The life of a container record

`Container.create` and `cmd_run_oci` save a record as `created`. `Container.start` marks the
record it starts `running`, with the PID of the forked child, and `Container.stop`, and `cmd_run`
once the child it waited for has exited, mark it `stopped`. `CmdStep` adds to the commands of
`Step` these two writes, the save of `cmd_run_oci`, and the container loop of `cmd_cleanup`,
which is a run of `Container.remove` steps (`cmdCleanupContainers_steps`).

The commands write the container store in three ways only (`Writes`): they save a record that
`Container.create` or `cmd_run_oci` made, rewrite the record a token resolves to with a status
or network update, or delete the directory a token resolves to. Every store a run reaches is
written from the empty one in these ways (`CmdReachable.writes`), and each invariant of the
store follows from that. Every directory holds a record and is named by the record's
twelve-character id (`cmdReachable_store_saved`): the store is one that saves and deletes build
(`Writes.saved`), as the cleanup theorems of `MiniDocker.Store` assume. The fields of each record
agree with its status (`cmdReachable_lifecycle`): a created record has never run, a running one
has a PID and a start time, and a stopped one a finish time. The invariants of `Step` hold on
these runs too: no pod lists a container and `PodManager.delete` without `force` never refuses
(`reachable_pods_unlisted`), and every stored record reads back from its file as itself
(`reachable_records_reload`).
-/

namespace MiniDocker.Pods
open MiniDocker.Record MiniDocker.Store
set_option autoImplicit false

/-- `update_container_status(config.id, "stopped", exit_code=exit_code)`: what `cmd_run` writes
once the child it waited for has exited. -/
def runExited (dirs : List (Dir ContainerConfig)) (id : String) (now : Decimal) (exitCode : Int) :
    List (Dir ContainerConfig) :=
  updateContainer dirs id fun c => updateContainerStatus now c "stopped" none (some exitCode)

/-- The commands of `Step`, `Container.stop(token)` as `cmd_stop` calls it, the exit update
of `cmd_run`, `save_container_config(config)` of `cmd_run_oci` (which then starts the record
with `Container.start`, a `Step`), and the container loop of `cmd_cleanup`. -/
inductive CmdStep : State → State → Prop
  | step {s s' : State} : Step s s' → CmdStep s s'
  | stop (s : State) (t : String) (now : Decimal) (exitCode : Option Int) :
      CmdStep s ⟨containerStop s.containers t now exitCode, s.pods⟩
  | exited (s : State) (id : String) (now : Decimal) (exitCode : Int) :
      CmdStep s ⟨runExited s.containers id now exitCode, s.pods⟩
  | runOci (s : State) {c : ContainerConfig} (g : Generated) (now : Decimal)
      (abspath : List Char → List Char) (b : Oci.Bundle) (rootless : Bool) (name : Option String)
      (pos : Nat) : Oci.cmdRunOci g now abspath b rootless name = .ok (.inr c) →
      CmdStep s ⟨save s.containers c.id c pos, s.pods⟩
  | cleanup (s : State) (now : Decimal) : CmdStep s (cmdCleanupContainers s now)

/-- The states some run of these commands reaches from the empty stores. -/
def CmdReachable (s : State) : Prop := Relation.ReflTransGen CmdStep State.init s

/-! ## The cleanup loop is a run of `Step` -/

theorem Step.preserves {I : State → Prop} (hI : ∀ {s s'}, Step s s' → I s → I s') {s s' : State}
    (h : Relation.ReflTransGen Step s s') (hs : I s) : I s' := by
  induction h with
  | refl => exact hs
  | tail _ hstep ih => exact hI hstep ih

theorem foldl_cleanupStep_steps (now : Decimal) :
    ∀ (cs : List ContainerConfig) (s : State),
      Relation.ReflTransGen Step s (cs.foldl (cleanupStep now) s)
  | [], _ => .refl
  | c :: cs, s => by
    refine .trans ?_ (foldl_cleanupStep_steps now cs _)
    unfold cleanupStep
    split
    · split
      · next s' b h => exact .single (.remove c.id false now none b h)
      · exact .refl
    · exact .refl

/-- Each turn of the loop of `cmd_cleanup` removes a record with `Container.remove` or changes
nothing, so the whole loop is a run of `Step`. -/
theorem cmdCleanupContainers_steps (s : State) (now : Decimal) :
    Relation.ReflTransGen Step s (cmdCleanupContainers s now) :=
  foldl_cleanupStep_steps now _ s

/-! ## What a command writes -/

/-- The updates the commands make to a stored record: `update_container_status` to `running`
with the child's PID or to `stopped`, and the network fields `Container.start` writes. -/
inductive Update : (ContainerConfig → ContainerConfig) → Prop
  | running (now : Decimal) (pid : Int) :
      Update fun c => updateContainerStatus now c "running" (some pid) none
  | stopped (now : Decimal) (exitCode : Option Int) :
      Update fun c => updateContainerStatus now c "stopped" none exitCode
  | network (ip vethHost vethContainer : String) :
      Update fun c => setNetwork c ip vethHost vethContainer

/-- The writes of the commands to the container store, one after another: a save of a record
`Container.create` or `cmd_run_oci` made, an update of the record a token resolves to, a delete of
the directory a token resolves to. -/
inductive Writes : List (Dir ContainerConfig) → List (Dir ContainerConfig) → Prop
  | refl (dirs : List (Dir ContainerConfig)) : Writes dirs dirs
  | create {dirs : List (Dir ContainerConfig)} {overlayPath : String} {g : Generated}
      {now : Decimal} {a : CreateArgs} {c : ContainerConfig} (pos : Nat) :
      Container.create overlayPath g now a = .ok c → Writes dirs (save dirs c.id c pos)
  | update {dirs : List (Dir ContainerConfig)} {f : ContainerConfig → ContainerConfig}
      (t : String) : Update f → Writes dirs (updateContainer dirs t f)
  | delete {dirs dirs' : List (Dir ContainerConfig)} (t : String) :
      deleteConfig ContainerConfig.name dirs t = some dirs' → Writes dirs dirs'
  | trans {dirs dirs' dirs'' : List (Dir ContainerConfig)} :
      Writes dirs dirs' → Writes dirs' dirs'' → Writes dirs dirs''
  | runOci {dirs : List (Dir ContainerConfig)} {g : Generated} {now : Decimal}
      {abspath : List Char → List Char} {b : Oci.Bundle} {rootless : Bool} {name : Option String}
      {c : ContainerConfig} (pos : Nat) :
      Oci.cmdRunOci g now abspath b rootless name = .ok (.inr c) →
      Writes dirs (save dirs c.id c pos)

theorem Writes.containerStop (dirs : List (Dir ContainerConfig)) (t : String) (now : Decimal)
    (exitCode : Option Int) : Writes dirs (containerStop dirs t now exitCode) := by
  unfold Pods.containerStop
  split
  · split
    · exact .update t (.stopped now exitCode)
    · exact .refl _
  · exact .refl _

/-- What each command of `Step` writes to the container store. -/
theorem Step.writes {s s' : State} (h : Step s s') : Writes s.containers s'.containers := by
  cases h with
  | podCreate => exact .refl _
  | podDelete t force b h =>
    simp only [Pods.podDelete] at h
    split at h
    · cases h; exact .refl _
    · split at h
      · cases h
      · split at h <;> cases h <;> exact .refl _
  | create _ _ _ _ pos h =>
    simp only [containerCreate, bind, Except.bind, pure, Except.pure] at h
    split at h
    · cases h
    · next c hc => cases h; exact .create pos hc
  | start t _ pid now _ net h =>
    simp only [containerStart] at h
    split at h
    · cases h
    · split at h
      · cases h
      · split at h
        · cases h
        · cases h
          have hrun : Writes s.containers _ := .update t (.running now pid)
          show Writes s.containers (match net with
            | some (ip, vethHost, vethContainer) => _
            | none => _)
          split
          · split
            · exact hrun.trans (.update t (.network _ _ _))
            · exact hrun
          · exact hrun
  | remove t _ now exitCode _ h =>
    simp only [containerRemove] at h
    split at h
    · cases h
    · next c _ =>
      have hstop : Writes s.containers (if c.status = "running" then
          containerStop s.containers t now exitCode else s.containers) := by
        split
        · exact .containerStop _ t now exitCode
        · exact .refl _
      split at h
      · cases h
      · split at h
        · next hdel => cases h; exact hstop.trans (.delete t hdel)
        · cases h; exact hstop

theorem CmdStep.writes {s s' : State} (h : CmdStep s s') : Writes s.containers s'.containers := by
  cases h with
  | step h => exact h.writes
  | stop t now exitCode => exact .containerStop _ t now exitCode
  | exited id now exitCode => exact .update id (.stopped now (some exitCode))
  | runOci g now abspath b rootless name pos h => exact .runOci pos h
  | cleanup now =>
    exact @Step.preserves (fun s' => Writes s.containers s'.containers) (fun h w => w.trans h.writes)
      _ _ (cmdCleanupContainers_steps s now) (.refl _)

/-- Every container store a run reaches is written from the empty one. -/
theorem CmdReachable.writes {s : State} (h : CmdReachable s) : Writes [] s.containers := by
  induction h with
  | refl => exact .refl _
  | tail _ hstep ih => exact ih.trans hstep.writes

/-! ## Properties of every stored record -/

/-- Every stored container record has `P`. -/
def AllRecords (P : ContainerConfig → Prop) (dirs : List (Dir ContainerConfig)) : Prop :=
  ∀ d ∈ dirs, ∀ c, d.record = some c → P c

/-- A property of records that `Container.create` and `cmd_run_oci` give and that every update
keeps. -/
structure RecordInv (P : ContainerConfig → Prop) : Prop where
  create : ∀ {overlayPath : String} {g : Generated} {now : Decimal} {a : CreateArgs}
    {c : ContainerConfig}, Container.create overlayPath g now a = .ok c → P c
  runOci : ∀ {g : Generated} {now : Decimal} {abspath : List Char → List Char} {b : Oci.Bundle}
    {rootless : Bool} {name : Option String} {c : ContainerConfig},
    Oci.cmdRunOci g now abspath b rootless name = .ok (.inr c) → P c
  update : ∀ {f : ContainerConfig → ContainerConfig}, Update f → ∀ c, P c → P (f c)

section Keep
variable {P : ContainerConfig → Prop}

theorem AllRecords.updateContainer {dirs : List (Dir ContainerConfig)} (h : AllRecords P dirs)
    (t : String) {f : ContainerConfig → ContainerConfig} (hf : ∀ c, P c → P (f c)) :
    AllRecords P (updateContainer dirs t f) := by
  unfold Pods.updateContainer
  split
  · next c hc => exact forall_save h _ _ (hf c (forall_load h hc)) 0
  · exact h

theorem Writes.allRecords (hP : RecordInv P) {dirs dirs' : List (Dir ContainerConfig)}
    (h : Writes dirs dirs') : AllRecords P dirs → AllRecords P dirs' := by
  induction h with
  | refl => exact id
  | create pos hc => exact fun hs => forall_save hs _ _ (hP.create hc) pos
  | runOci pos hc => exact fun hs => forall_save hs _ _ (hP.runOci hc) pos
  | update t hf => exact fun hs => hs.updateContainer t (hP.update hf)
  | delete t hdel => exact fun hs => forall_deleteConfig hs hdel
  | trans _ _ ih₁ ih₂ => exact fun hs => ih₂ (ih₁ hs)

/-- Along every run, every stored record has each property that `Container.create` and
`cmd_run_oci` give and the updates keep. -/
theorem CmdReachable.allRecords (hP : RecordInv P) {s : State} (h : CmdReachable s) :
    AllRecords P s.containers :=
  h.writes.allRecords hP fun _ h => nomatch h

end Keep

/-! ## The store stays well formed -/

theorem Update.id_eq {f : ContainerConfig → ContainerConfig} (hf : Update f)
    (c : ContainerConfig) : (f c).id = c.id := by
  cases hf with
  | running => exact (updateContainerStatus_keeps _ c _ _ _).1
  | stopped => exact (updateContainerStatus_keeps _ c _ _ _).1
  | network => rfl

theorem Container.create_id {overlayPath : String} {g : Generated} {now : Decimal}
    {a : CreateArgs} {c : ContainerConfig} (h : Container.create overlayPath g now a = .ok c) :
    c.id = g.id := by
  simp only [Container.create] at h
  split at h
  · cases h
  · split at h <;> cases h <;> simp [ContainerConfig.postInit_eq]

theorem Writes.saved {dirs dirs' : List (Dir ContainerConfig)} (h : Writes dirs dirs') :
    Saved ContainerConfig.id dirs → Saved ContainerConfig.id dirs' := by
  induction h with
  | refl => exact id
  | @create _ _ g _ _ c pos hc =>
    exact fun hs => hs.save c (by rw [Container.create_id hc]; exact g.id_length) pos
  | @runOci _ g _ _ _ _ _ c pos hc =>
    exact fun hs => hs.save c (by rw [(Oci.cmdRunOci_fresh hc).1]; exact g.id_length) pos
  | @update _ f t hf =>
    intro hs
    unfold Pods.updateContainer
    split
    · next c hc =>
      obtain ⟨d, hd, hdc⟩ := load_mem hc
      obtain ⟨r, rfl⟩ := hs.mem_eq d hd
      cases hdc
      exact hs.save (f c) (by rw [hf.id_eq]; exact hs.name_length _ hd) 0
    · exact hs
  | delete t hdel =>
    intro hs
    obtain ⟨n, -, rfl⟩ := Option.map_eq_some'.1 hdel
    exact hs.remove n
  | trans _ _ ih₁ ih₂ => exact fun hs => ih₂ (ih₁ hs)

/-- Along every run, every directory of the container store holds a record and is named by the
record's id, and the names are distinct and twelve characters long. -/
theorem cmdReachable_store_saved {s : State} (h : CmdReachable s) :
    (∀ d ∈ s.containers, ∃ c, d = ⟨c.id, some c⟩) ∧ (s.containers.map (·.name)).Nodup ∧
      ∀ d ∈ s.containers, d.name.length = 12 :=
  have hs := h.writes.saved .empty
  ⟨hs.mem_eq, hs.names_nodup, hs.name_length⟩

/-! ## The invariants of `Step` on these runs -/

theorem CmdReachable.podsEmpty {s : State} (h : CmdReachable s) : PodsEmpty s.pods := by
  induction h with
  | refl => simp [PodsEmpty, State.init]
  | tail _ hstep ih =>
    cases hstep with
    | step h => exact h.podsEmpty ih
    | stop => exact ih
    | exited => exact ih
    | runOci => exact ih
    | cleanup now => exact Step.preserves Step.podsEmpty (cmdCleanupContainers_steps _ now) ih

theorem CmdReachable.allProduced {s : State} (h : CmdReachable s) : AllProduced s := by
  induction h with
  | refl => exact ⟨(fun _ h => nomatch h), (fun _ h => nomatch h)⟩
  | tail _ hstep ih =>
    cases hstep with
    | step h => exact h.allProduced ih
    | stop t now exitCode => exact ⟨produced_containerStop ih.containers t now exitCode, ih.pods⟩
    | exited id now exitCode =>
      exact ⟨produced_updateContainer ih.containers fun c hc => hc.status _ _ _ _, ih.pods⟩
    | runOci g now abspath b rootless name pos h =>
      exact ⟨forall_save ih.containers _ _ (Oci.cmdRunOci_produced h) pos, ih.pods⟩
    | cleanup now => exact Step.preserves Step.allProduced (cmdCleanupContainers_steps _ now) ih

/-- Along every run of the commands no stored pod lists a container, and `PodManager.delete`
without `force` returns instead of raising. -/
theorem reachable_pods_unlisted {s : State} (h : CmdReachable s) :
    PodsEmpty s.pods ∧ ∀ t, ∃ s' b, podDelete s t false = .ok (s', b) :=
  ⟨h.podsEmpty, podDelete_ok_of_podsEmpty h.podsEmpty⟩

theorem reachable_pods_unlisted_init :
    CmdReachable State.init ∧ (PodsEmpty State.init.pods ∧
      ∀ t, ∃ s' b, podDelete State.init t false = .ok (s', b)) :=
  ⟨.refl, reachable_pods_unlisted .refl⟩

/-- Along every run of the commands, every stored container record and every stored pod record
reads back from the file written for it as the same record. -/
theorem reachable_records_reload {s : State} (h : CmdReachable s) :
    (∀ d ∈ s.containers, ∀ c, d.record = some c → ∀ g now,
      loadContainerConfigText g now (saveContainerConfigText c) = some c) ∧
    (∀ d ∈ s.pods, ∀ p, d.record = some p → ∀ g now,
      loadPodConfigText g now (savePodConfigText p) = some p) :=
  ⟨fun d hd c hc => (h.allProduced.containers d hd c hc).reload,
    fun d hd p hp => (h.allProduced.pods d hd p hp).reload⟩

/-- The stores after `PodManager.create("web")`: the pod record, saved twice, reads back. -/
theorem reachable_records_reload_podCreate :
    ∃ s, CmdReachable s ∧ s.pods.map (·.name) = ["pppppppppppp"] ∧
      (∀ d ∈ s.containers, ∀ c, d.record = some c → ∀ g now,
        loadContainerConfigText g now (saveContainerConfigText c) = some c) ∧
      (∀ d ∈ s.pods, ∀ p, d.record = some p → ∀ g now,
        loadPodConfigText g now (savePodConfigText p) = some p) :=
  have h : CmdReachable _ := .tail .refl (.step (.podCreate State.init
    ⟨"pppppppppppp", "web", rfl, by decide⟩ ⟨false, 17, 8, by decide⟩ 4242 (some "web") none 0))
  ⟨_, h, by decide, reachable_records_reload h⟩

/-! ## The status of a record -/

/-- The fields of a record agree with its status: a `created` record has never run, a `running`
one has the PID of its process and a start time, and a `stopped` one a finish time. -/
def Lifecycle (c : ContainerConfig) : Prop :=
  (c.status = "created" ∧ c.pid = none ∧ c.startedAt = none ∧ c.finishedAt = none ∧
      c.exitCode = none) ∨
    (c.status = "running" ∧ c.pid.isSome ∧ c.startedAt.isSome) ∨
    (c.status = "stopped" ∧ c.finishedAt.isSome)

theorem lifecycle_create {overlayPath : String} {g : Generated} {now : Decimal} {a : CreateArgs}
    {c : ContainerConfig} (h : Container.create overlayPath g now a = .ok c) : Lifecycle c := by
  simp only [Container.create] at h
  split at h
  · cases h
  · split at h <;> cases h <;> simp [Lifecycle, ContainerConfig.postInit_eq]

theorem lifecycle_runOci {g : Generated} {now : Decimal} {abspath : List Char → List Char}
    {b : Oci.Bundle} {rootless : Bool} {name : Option String} {c : ContainerConfig}
    (h : Oci.cmdRunOci g now abspath b rootless name = .ok (.inr c)) : Lifecycle c :=
  have ⟨_, hs, hp, hst, hf, he⟩ := Oci.cmdRunOci_fresh h
  .inl ⟨hs, hp, hst, hf, he⟩

theorem lifecycle_update {f : ContainerConfig → ContainerConfig} (hf : Update f)
    (c : ContainerConfig) (hc : Lifecycle c) : Lifecycle (f c) := by
  cases hf with
  | running now pid =>
    dsimp only
    rw [updateContainerStatus_eq]
    cases hs : c.startedAt <;> simp [Lifecycle, statusUpdated, hs]
  | stopped now exitCode =>
    dsimp only
    rw [updateContainerStatus_eq]
    cases exitCode <;> simp [Lifecycle, statusUpdated]
  | network => exact hc

/-- Along every run of the commands, every stored record is `created` and has never run,
`running` with a PID and a start time, or `stopped` with a finish time. -/
theorem cmdReachable_lifecycle {s : State} (h : CmdReachable s) :
    ∀ d ∈ s.containers, ∀ c, d.record = some c → Lifecycle c :=
  h.allRecords ⟨lifecycle_create, lifecycle_runOci, lifecycle_update⟩

/-- `run --name app` (create and start), then `stop`. -/
theorem cmdReachable_runStop :
    ∃ s, CmdReachable s ∧ s.containers.map (·.name) = ["cccccccccccc"] ∧
      (loadContainerConfig s.containers "cccccccccccc").map (·.status) = some "stopped" :=
  have h : CmdReachable _ :=
    .tail (.tail (.tail .refl (.step (.create "/var/lib/mini-docker/overlay"
        ⟨"cccccccccccc", "brave-lynx", rfl, by decide⟩ ⟨false, 17, 8, by decide⟩
        { rootfs := "/srv/rootfs", rootfsIsDir := true, command := ["/bin/sh"],
          name := some "app" } 0 rfl)))
      (.step (.start "cccccccccccc" true 4343 ⟨false, 17, 8, by decide⟩ true none rfl)))
      (.stop _ "cccccccccccc" ⟨false, 17, 8, by decide⟩ (some 0))
  ⟨_, h, by decide, by decide⟩

theorem cmdReachable_lifecycle_runStop :
    ∃ s, CmdReachable s ∧
      (loadContainerConfig s.containers "cccccccccccc").map (·.status) = some "stopped" ∧
      ∀ d ∈ s.containers, ∀ c, d.record = some c → Lifecycle c :=
  have ⟨s, h, _, hst⟩ := cmdReachable_runStop
  ⟨s, h, hst, cmdReachable_lifecycle h⟩

theorem cmdReachable_store_saved_runStop :
    ∃ s, CmdReachable s ∧ s.containers.map (·.name) = ["cccccccccccc"] ∧
      ((∀ d ∈ s.containers, ∃ c, d = ⟨c.id, some c⟩) ∧ (s.containers.map (·.name)).Nodup ∧
        ∀ d ∈ s.containers, d.name.length = 12) :=
  have ⟨s, h, hn, _⟩ := cmdReachable_runStop
  ⟨s, h, hn, cmdReachable_store_saved h⟩

end MiniDocker.Pods
