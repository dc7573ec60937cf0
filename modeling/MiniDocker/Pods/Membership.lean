import MiniDocker.Store.Resolve

/-! # Pod membership across the container and pod stores

The commands that touch both stores: `PodManager.create` and `PodManager.delete`, and
`Container.create` (what `run --pod` and `pod add` do first), `Container.start` and
`Container.remove`. A container record keeps the `--pod` token as it was typed.
`remove_container_from_pod` takes ids out of a pod's list, and nothing in the program calls
`add_container_to_pod`. So no command adds a container to a pod's list (`Step.podsEmpty`), and
while no pod lists one, `PodManager.delete` without `force` never refuses
(`podDelete_ok_of_podsEmpty`); `MiniDocker.Pods.Lifecycle` carries both along every run.

`cmd_pod create` passes a `network` keyword that `PodConfig` does not have, so from the command
line a pod is never created (`cmdPodCreate_raises`); the steps below create pods as
`PodManager.create` does when called with a name and a hostname.
-/

namespace MiniDocker.Pods
open MiniDocker.Record MiniDocker.Store
set_option autoImplicit false

/-- The two stores, each in listing order. -/
structure State where
  containers : List (Dir ContainerConfig)
  pods : List (Dir PodConfig)

/-- Both stores empty. -/
def State.init : State := ⟨[], []⟩

/-! ## The commands -/

/-- `PodManager.create(name, hostname=...)`: the pod is saved once as created, into a new
directory at place `pos`, and once more after `_start_infra_container` forked its infra
process. -/
def podCreate (s : State) (g : Generated) (now : Decimal) (infraPid : Int)
    (name hostname : Option String) (pos : Nat) : State :=
  let p := PodManager.newPod g now name hostname
  let pods := save s.pods p.id p pos
  let p := p.infraStarted infraPid
  { s with pods := save pods p.id p pos }

/-- `cmd_pod create`: `PodManager.create(name=..., hostname=..., network=...)`. -/
def cmdPodCreate (s : State) (g : Generated) (now : Decimal) (infraPid : Int)
    (name hostname : Option String) (pos : Nat) : Except String State := do
  PodConfig.checkKwargs ["name", "hostname", "network"]
  return podCreate s g now infraPid name hostname pos

/-- `pod create` on the command line always raises, whatever the store. -/
theorem cmdPodCreate_raises (s : State) (g : Generated) (now : Decimal) (infraPid : Int)
    (name hostname : Option String) (pos : Nat) :
    cmdPodCreate s g now infraPid name hostname pos =
      .error "TypeError: PodConfig.__init__() got an unexpected keyword argument 'network'" :=
  rfl

/-- `PodManager.delete(token, force)`: the pod's record is loaded, a non-empty container list
refuses without `force`, and `delete_pod_config` resolves the token again and removes its
directory. The Boolean is what the method returns. -/
def podDelete (s : State) (t : String) (force : Bool) : Except String (State × Bool) :=
  match loadPodConfig s.pods t with
  | none => .ok (s, false)
  | some p =>
    if !p.containers.isEmpty && !force then
      .error ("Pod has " ++ toString p.containers.length ++ " containers. Use --force to remove.")
    else match deleteConfig PodConfig.name s.pods t with
      | some pods => .ok ({ s with pods }, true)
      | none => .ok (s, false)

/-- `Container.create` followed by `save_container_config`, into a new directory at `pos`. -/
def containerCreate (s : State) (overlayPath : String) (g : Generated) (now : Decimal)
    (a : CreateArgs) (pos : Nat) : Except String State := do
  let c ← Container.create overlayPath g now a
  return { s with containers := save s.containers c.id c pos }

/-- The pod side of `Container.start`: the child loads the pod named by the record's token,
and `get_shared_ns_paths` marks it stopped when its infra process is dead. -/
def startPods (pods : List (Dir PodConfig)) (c : ContainerConfig) (infraAlive : Bool) :
    List (Dir PodConfig) :=
  match c.podId with
  | none => pods
  | some t =>
    match loadPodConfig pods t with
    | none => pods
    | some p =>
      if p.infraPid.isSome && !infraAlive then save pods p.id p.infraStopped 0 else pods

/-- Load a record by token and save it back updated; nothing when the token resolves to none. -/
def updateContainer (dirs : List (Dir ContainerConfig)) (t : String)
    (f : ContainerConfig → ContainerConfig) : List (Dir ContainerConfig) :=
  match loadContainerConfig dirs t with
  | some c => save dirs (f c).id (f c) 0
  | none => dirs

/-- `Container.start(token)`: the checks, the pod the child joins, then the parent's status
update and, for a root container with a network namespace, the network fields (`net` is what
`Network.setup` returned, `none` when it raised). -/
def containerStart (s : State) (t : String) (isRoot : Bool) (pid : Int) (now : Decimal)
    (infraAlive : Bool) (net : Option (String × String × String)) : Except String State :=
  match loadContainerConfig s.containers t with
  | none => .error ("Container not found: " ++ t)
  | some c =>
    if c.status = "running" then .error ("Container already running: " ++ t)
    else if !c.rootless && !isRoot then
      .error "Root privileges required (use --rootless for unprivileged mode)"
    else
      let containers := updateContainer s.containers t
        fun c => updateContainerStatus now c "running" (some pid) none
      let containers := match net with
        | some (ip, vethHost, vethContainer) =>
          if "net" ∈ c.namespaces ∧ !c.rootless then
            updateContainer containers t fun c => setNetwork c ip vethHost vethContainer
          else containers
        | none => containers
      .ok ⟨containers, startPods s.pods c infraAlive⟩

/-- `remove_container_from_pod(token, id)`. -/
def removeContainerFromPod (pods : List (Dir PodConfig)) (t cid : String) :
    List (Dir PodConfig) :=
  match loadPodConfig pods t with
  | some p => if cid ∈ p.containers then save pods p.id (p.removeContainer cid) 0 else pods
  | none => pods

/-- The pod side of `Container.remove`: the record's id leaves the pod its token names. -/
def removePods (pods : List (Dir PodConfig)) (c : ContainerConfig) : List (Dir PodConfig) :=
  match c.podId with
  | some t => removeContainerFromPod pods t c.id
  | none => pods

/-- `Container.stop(token)` as `remove(force=True)` calls it: a running record is marked
stopped, with the exit code the reaping found. -/
def containerStop (dirs : List (Dir ContainerConfig)) (t : String) (now : Decimal)
    (exitCode : Option Int) : List (Dir ContainerConfig) :=
  match loadContainerConfig dirs t with
  | some c =>
    if c.status = "running" then
      updateContainer dirs t fun c => updateContainerStatus now c "stopped" none exitCode
    else dirs
  | none => dirs

/-- `Container.remove(token, force)`: a running record refuses without `force` and is stopped
with it; the record's id leaves its pod's list; `delete_container_config` resolves the token
again and removes its directory. -/
def containerRemove (s : State) (t : String) (force : Bool) (now : Decimal)
    (exitCode : Option Int) : Except String (State × Bool) :=
  match loadContainerConfig s.containers t with
  | none => .error ("Container not found: " ++ t)
  | some c =>
    if c.status = "running" ∧ !force then
      .error "Container is running. Stop first or use force=True"
    else
      let containers := if c.status = "running" then containerStop s.containers t now exitCode
        else s.containers
      match deleteConfig ContainerConfig.name containers t with
      | some containers => .ok (⟨containers, removePods s.pods c⟩, true)
      | none => .ok (⟨containers, removePods s.pods c⟩, false)

/-! ## Runs -/

/-- One command, with what the environment chooses: generated ids, the clock, PIDs, where a
new directory is listed, whether the infra process is alive, and what the network gave. -/
inductive Step : State → State → Prop
  | podCreate (s : State) (g : Generated) (now : Decimal) (infraPid : Int)
      (name hostname : Option String) (pos : Nat) :
      Step s (podCreate s g now infraPid name hostname pos)
  | podDelete {s s' : State} (t : String) (force b : Bool) :
      podDelete s t force = .ok (s', b) → Step s s'
  | create {s s' : State} (overlayPath : String) (g : Generated) (now : Decimal)
      (a : CreateArgs) (pos : Nat) :
      containerCreate s overlayPath g now a pos = .ok s' → Step s s'
  | start {s s' : State} (t : String) (isRoot : Bool) (pid : Int) (now : Decimal)
      (infraAlive : Bool) (net : Option (String × String × String)) :
      containerStart s t isRoot pid now infraAlive net = .ok s' → Step s s'
  | remove {s s' : State} (t : String) (force : Bool) (now : Decimal) (exitCode : Option Int)
      (b : Bool) : containerRemove s t force now exitCode = .ok (s', b) → Step s s'

/-! ## No pod lists a container -/

/-- Every stored pod has an empty container list. -/
def PodsEmpty (pods : List (Dir PodConfig)) : Prop :=
  ∀ d ∈ pods, ∀ p, d.record = some p → p.containers = []

theorem podsEmpty_loadPodConfig {pods : List (Dir PodConfig)} (h : PodsEmpty pods)
    {t : String} {p : PodConfig} (hp : loadPodConfig pods t = some p) : p.containers = [] := by
  obtain ⟨d, hd, hr⟩ := load_mem hp
  exact h d hd p hr

theorem podsEmpty_podCreate {s : State} (h : PodsEmpty s.pods) (g : Generated) (now : Decimal)
    (infraPid : Int) (name hostname : Option String) (pos : Nat) :
    PodsEmpty (podCreate s g now infraPid name hostname pos).pods := by
  have hnew : (PodManager.newPod g now name hostname).containers = [] := by
    simp only [PodManager.newPod, PodConfig.postInit]
    split_ifs <;> rfl
  exact forall_save (forall_save h _ _ hnew pos) _
    ((PodManager.newPod g now name hostname).infraStarted infraPid) hnew pos

theorem podsEmpty_podDelete {s s' : State} {t : String} {force b : Bool}
    (hs : PodsEmpty s.pods) (h : podDelete s t force = .ok (s', b)) : PodsEmpty s'.pods := by
  simp only [podDelete] at h
  split at h
  · cases h; exact hs
  · split at h
    · cases h
    · split at h
      · rename_i pods hdel
        cases h
        simp only [deleteConfig, Option.map_eq_some'] at hdel
        obtain ⟨n, -, rfl⟩ := hdel
        exact forall_remove hs n
      · cases h; exact hs

theorem podsEmpty_startPods {pods : List (Dir PodConfig)} (h : PodsEmpty pods)
    (c : ContainerConfig) (infraAlive : Bool) : PodsEmpty (startPods pods c infraAlive) := by
  simp only [startPods]
  split
  · exact h
  · split
    · exact h
    · rename_i p hp
      split
      · have hc := podsEmpty_loadPodConfig h hp
        exact forall_save h _ p.infraStopped hc 0
      · exact h

theorem removePods_eq {pods : List (Dir PodConfig)} (h : PodsEmpty pods)
    (c : ContainerConfig) : removePods pods c = pods := by
  simp only [removePods, removeContainerFromPod]
  split
  · split
    · rename_i hp
      simp [podsEmpty_loadPodConfig h hp]
    · rfl
  · rfl

/-- No command adds an id to a pod's container list. -/
theorem Step.podsEmpty {s s' : State} (h : Step s s') (hs : PodsEmpty s.pods) :
    PodsEmpty s'.pods := by
  cases h with
  | podCreate g now pid name hostname pos => exact podsEmpty_podCreate hs g now pid name hostname pos
  | podDelete t force b h => exact podsEmpty_podDelete hs h
  | create _ _ _ _ _ h =>
    simp only [containerCreate, bind, Except.bind, pure, Except.pure] at h
    split at h
    · cases h
    · cases h; exact hs
  | start _ _ _ _ infraAlive _ h =>
    simp only [containerStart] at h
    split at h
    · cases h
    · split at h
      · cases h
      · split at h
        · cases h
        · cases h; exact podsEmpty_startPods hs _ infraAlive
  | remove _ _ _ _ _ h =>
    simp only [containerRemove] at h
    split at h
    · cases h
    · split at h
      · cases h
      · split at h <;> cases h <;> simpa only [removePods_eq hs] using hs

theorem podDelete_ok_of_podsEmpty {s : State} (h : PodsEmpty s.pods) (t : String) :
    ∃ s' b, podDelete s t false = .ok (s', b) := by
  simp only [podDelete]
  split
  · exact ⟨_, _, rfl⟩
  · rename_i p hp
    simp only [podsEmpty_loadPodConfig h hp, List.isEmpty_nil, Bool.not_true,
      Bool.false_and, Bool.false_eq_true, ↓reduceIte]
    split <;> exact ⟨_, _, rfl⟩

/-- `pod create` on the command line raises in every store. `PodManager.create("web")`, then
`pod add pppppppppppp /srv/rootfs /bin/sh --name app` (create and start), then
`pod rm pppppppppppp` without `--force`: while the member runs, its pod lists no container; the
removal goes through, and the running record keeps naming a pod that is gone. -/
theorem pod_add_then_rm :
    (∀ s g now infraPid name hostname pos, cmdPodCreate s g now infraPid name hostname pos =
      .error "TypeError: PodConfig.__init__() got an unexpected keyword argument 'network'") ∧
    ∃ s₁ s₂ s₃ s₄ : State, Step State.init s₁ ∧ Step s₁ s₂ ∧ Step s₂ s₃ ∧ Step s₃ s₄ ∧
      (loadContainerConfig s₃.containers "cccccccccccc").map (·.podId) =
        some (some "pppppppppppp") ∧
      (loadContainerConfig s₃.containers "cccccccccccc").map (·.status) = some "running" ∧
      (loadPodConfig s₃.pods "pppppppppppp").map (·.containers) = some [] ∧
      podDelete s₃ "pppppppppppp" false = .ok (s₄, true) ∧
      findPodId s₄.pods "pppppppppppp" = none ∧
      (loadContainerConfig s₄.containers "cccccccccccc").map (·.podId) =
        some (some "pppppppppppp") := by
  refine ⟨cmdPodCreate_raises, _, _, _, _,
    .podCreate State.init ⟨"pppppppppppp", "web", rfl, by decide⟩ ⟨false, 17, 8, by decide⟩ 4242
      (some "web") none 0,
    .create "/var/lib/mini-docker/overlay" ⟨"cccccccccccc", "brave-lynx", rfl, by decide⟩
      ⟨false, 17, 8, by decide⟩
      { rootfs := "/srv/rootfs", rootfsIsDir := true, command := ["/bin/sh"],
        name := some "app", podId := some "pppppppppppp" } 0 rfl,
    .start "cccccccccccc" true 4343 ⟨false, 17, 8, by decide⟩ true none rfl,
    .podDelete "pppppppppppp" false true rfl, by decide, by decide, by decide, rfl, by decide,
    by decide⟩

end MiniDocker.Pods
