import MiniDocker.Record.Value

/-! # Container and pod records

The dataclasses of metadata.py and pod.py, and the code that builds them: `Container.create`,
`oci_to_container_config` with the name and mode `cmd_run_oci` sets, the status and network
updates a started container goes through, and `PodManager.create` with the pod updates.

Every record passes `__post_init__`, which fills an empty id, name or hostname from the random
generators; what the generators draw is an argument (`Generated`). The clock is an argument too.
-/

namespace MiniDocker.Record
set_option autoImplicit false

/-- What the generators of `__post_init__` draw: `generate_container_id` gives twelve hex
digits and `generate_container_name` an adjective-animal pair, neither of them empty. -/
structure Generated where
  id : String
  name : String
  id_length : id.length = 12
  name_ne : name ≠ ""

theorem Generated.id_ne (g : Generated) : g.id ≠ "" := by
  intro h
  simpa [h] using g.id_length

/-- NetworkConfig (metadata.py). -/
structure NetworkConfig where
  ip : Option String := none
  mac : Option String := none
  gateway : String := "10.0.0.1"
  vethHost : Option String := none
  vethContainer : Option String := none
  bridge : String := "mini-docker0"

/-- ResourceLimits. The command line stores Python ints here, run-oci whatever the bundle's
JSON holds (`memory_mb` after a floor division), so each field is a value. -/
structure ResourceLimits where
  cpuQuota : PyVal := .none
  cpuPeriod : PyVal := .int 100000
  memoryMb : PyVal := .none
  maxPids : PyVal := .none

/-- ContainerConfig. `command`, `hostname`, `workdir` and `capabilities` hold whatever an OCI
bundle gives; the other fields hold the types the dataclass declares. -/
structure ContainerConfig where
  id : String := ""
  name : String := ""
  rootfs : String := ""
  command : PyVal := .list []
  overlayLower : String := ""
  overlayUpper : String := ""
  overlayWork : String := ""
  overlayMerged : String := ""
  useOverlay : Bool := true
  resources : ResourceLimits := {}
  network : NetworkConfig := {}
  namespaces : List String := ["pid", "uts", "mnt", "ipc", "net"]
  hostname : PyVal := .ofString ""
  env : StrDict := .empty
  workdir : PyVal := .ofString "/"
  user : String := "root"
  rootless : Bool := false
  podId : Option String := none
  capabilities : PyVal := .list []
  seccompEnabled : Bool := true
  status : String := "created"
  pid : Option Int := none
  createdAt : PyFloat
  startedAt : Option PyFloat := none
  finishedAt : Option PyFloat := none
  exitCode : Option Int := none

namespace ContainerConfig

/-- `__post_init__`: an empty id or name is drawn, and a false hostname becomes the name. -/
def postInit (g : Generated) (c : ContainerConfig) : ContainerConfig :=
  let c := if c.id = "" then { c with id := g.id } else c
  let c := if c.name = "" then { c with name := g.name } else c
  if c.hostname.truthy then c else { c with hostname := .ofString c.name }

@[simp] theorem postInit_resources (g : Generated) (c : ContainerConfig) :
    (c.postInit g).resources = c.resources := by
  simp only [postInit]
  split_ifs <;> rfl

@[simp] theorem postInit_podId (g : Generated) (c : ContainerConfig) :
    (c.postInit g).podId = c.podId := by
  simp only [postInit]
  split_ifs <;> rfl

theorem postInit_eq (g : Generated) (c : ContainerConfig) :
    c.postInit g =
      { c with id := if c.id = "" then g.id else c.id,
               name := if c.name = "" then g.name else c.name,
               hostname := if c.hostname.truthy then c.hostname
                 else .ofString (if c.name = "" then g.name else c.name) } := by
  simp only [postInit]
  split_ifs <;> rfl

/-- A record `__post_init__` leaves as it is. -/
def PostInit (c : ContainerConfig) : Prop :=
  c.id ≠ "" ∧ c.name ≠ "" ∧ c.hostname.truthy = true

theorem postInit_postInit (g : Generated) (c : ContainerConfig) : (c.postInit g).PostInit := by
  have := g.id_ne
  have := g.name_ne
  simp only [postInit, PostInit]
  split_ifs <;> simp_all

theorem postInit_eq_self {c : ContainerConfig} (h : c.PostInit) (g : Generated) :
    c.postInit g = c := by
  obtain ⟨hi, hn, hh⟩ := h
  simp [postInit, hi, hn, hh]

end ContainerConfig

/-- The arguments of `Container.create`. `rootfs` is the argument after `os.path.abspath`,
and `rootfsIsDir` what `os.path.isdir` says of it. -/
structure CreateArgs where
  rootfs : String
  rootfsIsDir : Bool
  command : List String
  name : Option String := none
  hostname : Option String := none
  useOverlay : Bool := true
  cpuQuota : Option Int := none
  memoryMb : Option Int := none
  maxPids : Option Int := none
  env : StrDict := .empty
  workdir : String := "/"
  podId : Option String := none
  rootless : Bool := false

/-- `get_overlay_paths`: lower, upper, work and merged under `OVERLAY_PATH/<id>`. -/
def getOverlayPaths (overlayPath id : String) : String × String × String × String :=
  let base := overlayPath ++ "/" ++ id
  (base ++ "/lower", base ++ "/upper", base ++ "/work", base ++ "/merged")

/-- An optional int argument as the value the record stores. -/
def optInt : Option Int → PyVal := PyVal.ofOption PyVal.int

/-- `Container.create`: the record it saves, or the error it raises. -/
def Container.create (overlayPath : String) (g : Generated) (now : Decimal) (a : CreateArgs) :
    Except String ContainerConfig :=
  if !a.rootfsIsDir then .error ("Rootfs not found: " ++ a.rootfs) else
  let c := ContainerConfig.postInit g
    { name := a.name.getD "", hostname := .ofString (a.hostname.getD ""), rootfs := a.rootfs,
      command := .list (a.command.map PyVal.ofString), useOverlay := a.useOverlay,
      resources := { cpuQuota := optInt a.cpuQuota, memoryMb := optInt a.memoryMb,
                     maxPids := optInt a.maxPids },
      env := a.env, workdir := .ofString a.workdir, podId := a.podId,
      rootless := a.rootless, createdAt := .finite now }
  if a.useOverlay then
    let (lower, upper, work, merged) := getOverlayPaths overlayPath c.id
    .ok { c with overlayLower := lower, overlayUpper := upper, overlayWork := work,
                 overlayMerged := merged }
  else .ok c

/-! ## run-oci -/

/-- The parts of an OCI bundle's config.json that `oci_to_container_config` reads: the
hostname, `process.args`, `process.env`, `process.cwd`, `process.capabilities`, the
`linux.resources` dicts, the `linux.namespaces` types and `linux.seccomp`. -/
structure OciConfig where
  hostname : PyVal := .ofString ""
  args : PyVal := .list []
  env : List String := []
  cwd : PyVal := .ofString "/"
  capabilities : List (List (Fin 0x110000) × PyVal) := []
  memory : List (List (Fin 0x110000) × PyVal) := []
  cpu : List (List (Fin 0x110000) × PyVal) := []
  pids : List (List (Fin 0x110000) × PyVal) := []
  namespaceTypes : List String := []
  seccomp : PyVal := .dict []

/-- The bundle's values came from `json.load`, so they are well formed. -/
def OciConfig.WellFormed (o : OciConfig) : Prop :=
  o.hostname.wellFormed ∧ o.args.wellFormed ∧ o.cwd.wellFormed ∧
    (PyVal.dict o.capabilities).wellFormed ∧ (PyVal.dict o.memory).wellFormed ∧
    (PyVal.dict o.cpu).wellFormed ∧ (PyVal.dict o.pids).wellFormed

/-- The value of a key in a dict that `json.load` built, if present. -/
def dictGet (d : List (List (Fin 0x110000) × PyVal)) (k : String) : Option PyVal :=
  d.lookup (pyStr k)

/-- The `env` loop of `cmd_run` and `oci_to_container_config`: every entry holding `=` is
split at its first `=`, and a later key overwrites an earlier one. -/
def parseEnv (entries : List String) : StrDict :=
  entries.foldl (fun d e =>
    if '=' ∈ e.toList then
      let kv := e.toList.span (· ≠ '=')
      d.set (String.mk kv.1) (String.mk (kv.2.drop 1))
    else d) .empty

/-- `1024 * 1024`. -/
def mib : Nat := 1024 * 1024

/-- Python's `v // n` for a positive int `n`: floor division of an int or a bool gives an int,
of a float gives a float (an infinity or `nan` gives `nan`, a zero keeps the sign of `v`), and
any other value raises. -/
def PyVal.floorDiv (v : PyVal) (n : Nat) : Except String PyVal :=
  match v with
  | .int i => .ok (.int (i / n))
  | .bool b => .ok (.int ((if b then 1 else 0) / n))
  | .float (.finite d) =>
    let m : Int := if d.neg then -(d.digits : Int) else d.digits
    let q : Int := if 0 ≤ d.exp then m * 10 ^ d.exp.toNat / n else m / (10 ^ (-d.exp).toNat * n)
    .ok (.float (.finite (Decimal.ofParts (if q = 0 then d.neg else decide (q < 0)) q.natAbs 0)))
  | .float _ => .ok (.float .nan)
  | _ => .error "TypeError: unsupported operand type(s) for //"

/-- The OCI namespace types and the names the record keeps for them. -/
def nsTypeMap : List (String × String) :=
  [("pid", "pid"), ("network", "net"), ("mount", "mnt"), ("ipc", "ipc"), ("uts", "uts"),
   ("user", "user"), ("cgroup", "cgroup")]

/-- Python's `a.get(k) or b.get(k) or []` over the capability sets. -/
def capSet (caps : List (List (Fin 0x110000) × PyVal)) : PyVal :=
  let bounding := (dictGet caps "bounding").getD .none
  let permitted := (dictGet caps "permitted").getD .none
  if bounding.truthy then bounding else if permitted.truthy then permitted else .list []

/-- One resource of `oci_to_container_config`: the value under `key` of a non-empty dict,
passed through `f`, or the default. -/
def ociLimit (d : List (List (Fin 0x110000) × PyVal)) (key : String) (dflt : PyVal)
    (f : PyVal → Except String PyVal) : Except String PyVal :=
  if d.isEmpty then .ok dflt else
  match dictGet d key with
  | some v => f v
  | none => .ok dflt

/-- `oci_to_container_config`, with `rootfs` the joined absolute path. -/
def ociToContainerConfig (g : Generated) (now : Decimal) (rootfs : String) (o : OciConfig) :
    Except String ContainerConfig := do
  let memoryMb ← ociLimit o.memory "limit" .none (fun v => v.floorDiv mib)
  let cpuQuota ← ociLimit o.cpu "quota" .none .ok
  let cpuPeriod ← ociLimit o.cpu "period" (.int 100000) .ok
  let maxPids ← ociLimit o.pids "limit" .none .ok
  return ContainerConfig.postInit g
    { rootfs, command := o.args, hostname := o.hostname, env := parseEnv o.env,
      workdir := o.cwd,
      resources := { cpuQuota, cpuPeriod, memoryMb, maxPids },
      namespaces := o.namespaceTypes.filterMap nsTypeMap.lookup,
      capabilities := if o.capabilities.isEmpty then .list [] else capSet o.capabilities,
      seccompEnabled := o.seccomp.truthy, createdAt := .finite now }

/-- `cmd_run_oci`: the converted record takes the mode and, when one is given, the name. -/
def runOciRecord (g : Generated) (now : Decimal) (rootfs : String) (o : OciConfig)
    (rootless : Bool) (name : Option String) : Except String ContainerConfig := do
  let c ← ociToContainerConfig g now rootfs o
  let c := { c with rootless }
  return match name with
    | some n => if n = "" then c else { c with name := n }
    | none => c

/-! ## Updates of a stored record -/

/-- `update_container_status` on the loaded record. -/
def updateContainerStatus (now : Decimal) (c : ContainerConfig) (status : String)
    (pid exitCode : Option Int) : ContainerConfig :=
  let c : ContainerConfig := { c with status }
  let c : ContainerConfig := match pid with | some p => { c with pid := some p } | none => c
  let c : ContainerConfig :=
    if status = "running" ∧ c.startedAt.isNone then { c with startedAt := some (.finite now) }
    else c
  if status = "stopped" then
    let c : ContainerConfig := { c with finishedAt := some (.finite now) }
    match exitCode with | some e => { c with exitCode := some e } | none => c
  else c

/-- The network fields `Container.start` writes after `Network.setup`. -/
def setNetwork (c : ContainerConfig) (ip vethHost vethContainer : String) : ContainerConfig :=
  { c with network := { c.network with ip := some ip, vethHost := some vethHost,
                                        vethContainer := some vethContainer } }

/-- The records the program writes: made by `Container.create` or by run-oci from a bundle
`json.load` read, then updated. -/
inductive Produced : ContainerConfig → Prop
  | create {overlayPath : String} {g : Generated} {now : Decimal} {a : CreateArgs}
      {c : ContainerConfig} : Container.create overlayPath g now a = .ok c → Produced c
  | runOci {g : Generated} {now : Decimal} {rootfs : String} {o : OciConfig} {rootless : Bool}
      {name : Option String} {c : ContainerConfig} : o.WellFormed →
      runOciRecord g now rootfs o rootless name = .ok c → Produced c
  | status {c : ContainerConfig} (now : Decimal) (status : String) (pid exitCode : Option Int) :
      Produced c → Produced (updateContainerStatus now c status pid exitCode)
  | network {c : ContainerConfig} (ip vethHost vethContainer : String) :
      Produced c → Produced (setNetwork c ip vethHost vethContainer)

theorem Container.create_postInit {overlayPath : String} {g : Generated} {now : Decimal}
    {a : CreateArgs} {c : ContainerConfig} (h : Container.create overlayPath g now a = .ok c) :
    c.PostInit := by
  have hp := ContainerConfig.postInit_postInit g
  simp only [Container.create] at h
  split at h
  · cases h
  · split at h <;> cases h <;> exact hp _

theorem ociToContainerConfig_postInit {g : Generated} {now : Decimal} {rootfs : String}
    {o : OciConfig} {c : ContainerConfig} (h : ociToContainerConfig g now rootfs o = .ok c) :
    c.PostInit := by
  simp only [ociToContainerConfig, bind, Except.bind, pure, Except.pure] at h
  repeat' split at h
  all_goals cases h
  all_goals exact ContainerConfig.postInit_postInit g _

theorem runOciRecord_postInit {g : Generated} {now : Decimal} {rootfs : String} {o : OciConfig}
    {rootless : Bool} {name : Option String} {c : ContainerConfig}
    (h : runOciRecord g now rootfs o rootless name = .ok c) : c.PostInit := by
  simp only [runOciRecord, bind, Except.bind, pure, Except.pure] at h
  split at h
  · cases h
  · rename_i c₀ h₀
    obtain ⟨hi, hn, hh⟩ := ociToContainerConfig_postInit h₀
    cases h
    split
    · split_ifs with hne
      · exact ⟨hi, hn, hh⟩
      · exact ⟨hi, hne, hh⟩
    · exact ⟨hi, hn, hh⟩

theorem updateContainerStatus_keeps (now : Decimal) (c : ContainerConfig) (status : String)
    (pid exitCode : Option Int) :
    (updateContainerStatus now c status pid exitCode).id = c.id ∧
    (updateContainerStatus now c status pid exitCode).name = c.name ∧
    (updateContainerStatus now c status pid exitCode).hostname = c.hostname := by
  simp only [updateContainerStatus]
  split_ifs <;> (try split) <;> (try split) <;> exact ⟨rfl, rfl, rfl⟩

theorem Produced.postInit {c : ContainerConfig} (h : Produced c) : c.PostInit := by
  induction h with
  | create h => exact Container.create_postInit h
  | runOci _ h => exact runOciRecord_postInit h
  | @status c now st pid e _ ih =>
    obtain ⟨hi, hn, hh⟩ := updateContainerStatus_keeps now c st pid e
    simp only [ContainerConfig.PostInit, hi, hn, hh]
    exact ih
  | network ip vh vc _ ih => exact ih

/-! ## Pods -/

/-- The keyword check of a dataclass's generated `__init__`: an unknown keyword raises. -/
def checkInitKwargs (cls : String) (fields : List String) : List String → Except String Unit
  | [] => .ok ()
  | k :: ks => if k ∈ fields then checkInitKwargs cls fields ks else
      .error ("TypeError: " ++ cls ++ ".__init__() got an unexpected keyword argument '" ++ k ++ "'")

theorem checkInitKwargs_ok (cls : String) {fields : List String} :
    ∀ {ks : List String}, (∀ k ∈ ks, k ∈ fields) → checkInitKwargs cls fields ks = .ok ()
  | [], _ => rfl
  | k :: ks, h => by
    rw [checkInitKwargs, if_pos (h k (List.mem_cons_self _ _))]
    exact checkInitKwargs_ok cls fun k' hk' => h k' (List.mem_cons_of_mem _ hk')

/-- PodConfig (pod.py). -/
structure PodConfig where
  id : String := ""
  name : String := ""
  containers : List String := []
  infraPid : Option Int := none
  ipAddress : Option String := none
  sharedNamespaces : List String := ["net", "ipc", "uts"]
  hostname : String := ""
  status : String := "created"
  createdAt : PyFloat

namespace PodConfig

/-- The keyword arguments the dataclass accepts. -/
def fields : List String :=
  ["id", "name", "containers", "infra_pid", "ip_address", "shared_namespaces", "hostname",
   "status", "created_at"]

/-- The keyword check of the generated `__init__`. -/
def checkKwargs : List String → Except String Unit := checkInitKwargs "PodConfig" fields

/-- `__post_init__` of a pod. -/
def postInit (g : Generated) (p : PodConfig) : PodConfig :=
  let p := if p.id = "" then { p with id := g.id } else p
  let p := if p.name = "" then { p with name := g.name } else p
  if p.hostname = "" then { p with hostname := p.name } else p

/-- A pod `__post_init__` leaves as it is. -/
def PostInit (p : PodConfig) : Prop := p.id ≠ "" ∧ p.name ≠ "" ∧ p.hostname ≠ ""

theorem postInit_postInit (g : Generated) (p : PodConfig) : (p.postInit g).PostInit := by
  have := g.id_ne
  have := g.name_ne
  simp only [postInit, PostInit]
  split_ifs <;> simp_all

theorem postInit_eq_self {p : PodConfig} (h : p.PostInit) (g : Generated) : p.postInit g = p := by
  obtain ⟨hi, hn, hh⟩ := h
  simp [postInit, hi, hn, hh]

end PodConfig

/-- The record `PodManager.create(name, hostname=...)` saves first. -/
def PodManager.newPod (g : Generated) (now : Decimal) (name hostname : Option String) :
    PodConfig :=
  PodConfig.postInit g
    { name := name.getD "", hostname := hostname.getD "", createdAt := .finite now }

/-- The parent side of `_start_infra_container`: the infra PID and the running status. -/
def PodConfig.infraStarted (p : PodConfig) (pid : Int) : PodConfig :=
  { p with infraPid := some pid, status := "running" }

/-- The update `add_container_to_pod` saves. -/
def PodConfig.addContainer (p : PodConfig) (cid : String) : PodConfig :=
  { p with containers := p.containers ++ [cid] }

/-- The update `remove_container_from_pod` saves. -/
def PodConfig.removeContainer (p : PodConfig) (cid : String) : PodConfig :=
  { p with containers := p.containers.erase cid }

/-- `get_shared_ns_paths` finding the infra process dead. -/
def PodConfig.infraStopped (p : PodConfig) : PodConfig :=
  { p with infraPid := none, status := "stopped" }

/-- The pod records the program writes: made by `PodManager.create`, then updated. -/
inductive PodProduced : PodConfig → Prop
  | newPod (g : Generated) (now : Decimal) (name hostname : Option String) :
      PodProduced (PodManager.newPod g now name hostname)
  | infraStarted {p : PodConfig} (pid : Int) : PodProduced p → PodProduced (p.infraStarted pid)
  | addContainer {p : PodConfig} (cid : String) : PodProduced p → PodProduced (p.addContainer cid)
  | removeContainer {p : PodConfig} (cid : String) :
      PodProduced p → PodProduced (p.removeContainer cid)
  | infraStopped {p : PodConfig} : PodProduced p → PodProduced p.infraStopped

theorem PodProduced.postInit {p : PodConfig} (h : PodProduced p) : p.PostInit := by
  induction h with
  | newPod g => exact PodConfig.postInit_postInit g _
  | infraStarted _ _ ih | addContainer _ _ ih | removeContainer _ _ ih | infraStopped _ ih =>
    exact ih

end MiniDocker.Record
