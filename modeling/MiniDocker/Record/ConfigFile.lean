import MiniDocker.Record.Config
import MiniDocker.Record.JsonRoundTrip

/-! # config.json of a container or a pod

`save_container_config` writes `json.dump(asdict(config), f, indent=2)`, and
`load_container_config` reads the file back: `json.load`, then `ResourceLimits(**...)` and
`NetworkConfig(**...)` for the nested dicts, then `ContainerConfig(**data)`, which runs
`__post_init__` again. `save_pod_config` and `load_pod_config` do the same for pods. Every record
the program writes reads back as itself.

The record's typed fields hold values of their type only, so a value of another type in the
file is an error here, where the program would store the value as it is; no file the program
writes has one. The text is the file's characters: a file that is not UTF-8 makes
`load_container_config` raise `UnicodeDecodeError`, which its handler does not catch, and the
program only writes ASCII.
-/

namespace MiniDocker.Record
set_option autoImplicit false

/-! ## Field values -/

/-- A code point string as a Lean string, when it holds no lone surrogate. -/
def strOf (s : List (Fin 0x110000)) : Option String :=
  if s.all fun c => decide c.val.isValidChar then some ⟨s.map fun c => Char.ofNat c.val⟩
  else none

theorem strOf_pyStr (s : String) : strOf (pyStr s) = some s := by
  have hv : ((pyStr s).all fun c => decide c.val.isValidChar) = true :=
    List.all_eq_true.2 fun c hc => by
      obtain ⟨ch, -, rfl⟩ := List.mem_map.1 hc
      exact decide_eq_true ch.valid
  have hs : (pyStr s).map (fun c => Char.ofNat c.val) = s.toList := by
    simp only [pyStr, List.map_map, Function.comp_def, Char.ofNat_toNat, List.map_id']
  rw [strOf, if_pos hv, hs]
  rfl

/-- A key as text, for the keyword check; a lone surrogate matches no field name anyway. -/
def textOf (s : List (Fin 0x110000)) : String := ⟨s.map fun c => Char.ofNat c.val⟩

@[simp] theorem textOf_pyStr (s : String) : textOf (pyStr s) = s := by
  simp [textOf, pyStr, Function.comp_def]

/-- How `asdict` writes a field of a type, and how the generated `__init__` takes the value
back: decoding what was encoded gives the field. -/
structure Codec (α : Type) where
  enc : α → PyVal
  dec : PyVal → Option α
  dec_enc : ∀ a, dec (enc a) = some a

attribute [simp] Codec.dec_enc

namespace Codec

/-- A `str` field. -/
def str : Codec String where
  enc := PyVal.ofString
  dec | .str s => strOf s | _ => none
  dec_enc := strOf_pyStr

/-- A `bool` field. -/
def bool : Codec Bool where
  enc := PyVal.bool
  dec | .bool b => some b | _ => none
  dec_enc _ := rfl

/-- An `int` field. -/
def int : Codec Int where
  enc := PyVal.int
  dec | .int i => some i | _ => none
  dec_enc _ := rfl

/-- A `float` field. -/
def float : Codec PyFloat where
  enc := PyVal.float
  dec | .float x => some x | _ => none
  dec_enc _ := rfl

/-- A field that holds whatever value it is given. -/
def value : Codec PyVal where
  enc := id
  dec := some
  dec_enc _ := rfl

@[simp] theorem value_dec (v : PyVal) : value.dec v = some v := rfl

/-- An `Optional` field, over a type none of whose values is `None`. -/
def option {α : Type} (c : Codec α) (h : ∀ a, c.enc a ≠ .none) : Codec (Option α) where
  enc := PyVal.ofOption c.enc
  dec | .none => some none | v => (c.dec v).map some
  dec_enc
    | none => rfl
    | some a => by
      cases he : c.enc a <;> simp only [PyVal.ofOption, he] <;>
        first | exact absurd he (h a) | simp [← he]

/-- An `Optional[str]` field. -/
def optStr : Codec (Option String) := str.option fun _ h => PyVal.noConfusion h

/-- An `Optional[int]` field. -/
def optInt : Codec (Option Int) := int.option fun _ h => PyVal.noConfusion h

/-- An `Optional[float]` field. -/
def optFloat : Codec (Option PyFloat) := float.option fun _ h => PyVal.noConfusion h

theorem mapM_dec_map {α : Type} (c : Codec α) (xs : List α) :
    (xs.map c.enc).mapM c.dec = some xs := by
  induction xs with
  | nil => rfl
  | cons x xs ih => simp only [List.map_cons, List.mapM_cons, ih, Codec.dec_enc]; rfl

/-- A `List[str]` field. -/
def strList : Codec (List String) where
  enc xs := .list (xs.map PyVal.ofString)
  dec | .list vs => vs.mapM str.dec | _ => none
  dec_enc xs := mapM_dec_map str xs

/-- The items of a `Dict[str, str]` as `asdict` writes them. -/
def dictItems (items : List (String × String)) : List (List (Fin 0x110000) × PyVal) :=
  items.map fun kv => (pyStr kv.1, .ofString kv.2)

/-- The items back as Lean strings. -/
def strItems (kvs : List (List (Fin 0x110000) × PyVal)) : Option (List (String × String)) :=
  kvs.mapM fun kv => do return (← strOf kv.1, ← str.dec kv.2)

theorem strItems_dictItems (items : List (String × String)) :
    strItems (dictItems items) = some items := by
  induction items with
  | nil => rfl
  | cons kv items ih =>
    simp only [strItems, dictItems, List.map_cons, List.mapM_cons] at ih ⊢
    simp only [strOf_pyStr, ih, show str.dec (.ofString kv.2) = some kv.2 from str.dec_enc _]
    rfl

/-- A `Dict[str, str]` field. -/
def strDict : Codec StrDict where
  enc d := .dict (dictItems d.items)
  dec
    | .dict kvs => do
      let items ← strItems kvs
      if h : (items.map Prod.fst).Nodup then some ⟨items, h⟩ else none
    | _ => none
  dec_enc d := by simp [strItems_dictItems, d.nodup]

end Codec

/-- One keyword argument of a generated `__init__`: the value passed, or the field's default. -/
def kwarg {α : Type} (kvs : List (List (Fin 0x110000) × PyVal)) (k : String) (dflt : α)
    (c : Codec α) : Except String α :=
  match dictGet kvs k with
  | none => .ok dflt
  | some v =>
    match c.dec v with
    | some a => .ok a
    | none => .error ("value of " ++ k ++ " outside the field's type")

/-- A nested dataclass: `load_container_config` rebuilds it when the value is a dict. -/
def nested {α : Type} (kvs : List (List (Fin 0x110000) × PyVal)) (k : String) (dflt : α)
    (build : List (List (Fin 0x110000) × PyVal) → Except String α) : Except String α :=
  match dictGet kvs k with
  | none => .ok dflt
  | some (.dict d) => build d
  | some _ => .error ("value of " ++ k ++ " outside the field's type")

/-- The keys of a dict, as the keyword names of a call. -/
def keyNames (kvs : List (List (Fin 0x110000) × PyVal)) : List String :=
  kvs.map fun kv => textOf kv.1

/-! ## The records -/

namespace NetworkConfig

/-- The dataclass fields, in order. -/
def fields : List String := ["ip", "mac", "gateway", "veth_host", "veth_container", "bridge"]

/-- `asdict`. -/
def asdict (n : NetworkConfig) : List (List (Fin 0x110000) × PyVal) :=
  [(pyStr "ip", Codec.optStr.enc n.ip), (pyStr "mac", Codec.optStr.enc n.mac),
   (pyStr "gateway", Codec.str.enc n.gateway),
   (pyStr "veth_host", Codec.optStr.enc n.vethHost),
   (pyStr "veth_container", Codec.optStr.enc n.vethContainer),
   (pyStr "bridge", Codec.str.enc n.bridge)]

/-- `NetworkConfig(**d)`. -/
def ofKwargs (kvs : List (List (Fin 0x110000) × PyVal)) : Except String NetworkConfig := do
  checkInitKwargs "NetworkConfig" fields (keyNames kvs)
  let ip ← kwarg kvs "ip" none Codec.optStr
  let mac ← kwarg kvs "mac" none Codec.optStr
  let gateway ← kwarg kvs "gateway" "10.0.0.1" Codec.str
  let vethHost ← kwarg kvs "veth_host" none Codec.optStr
  let vethContainer ← kwarg kvs "veth_container" none Codec.optStr
  let bridge ← kwarg kvs "bridge" "mini-docker0" Codec.str
  return { ip, mac, gateway, vethHost, vethContainer, bridge }

end NetworkConfig

namespace ResourceLimits

/-- The dataclass fields, in order. -/
def fields : List String := ["cpu_quota", "cpu_period", "memory_mb", "max_pids"]

/-- `asdict`. -/
def asdict (r : ResourceLimits) : List (List (Fin 0x110000) × PyVal) :=
  [(pyStr "cpu_quota", r.cpuQuota), (pyStr "cpu_period", r.cpuPeriod),
   (pyStr "memory_mb", r.memoryMb), (pyStr "max_pids", r.maxPids)]

/-- `ResourceLimits(**d)`. -/
def ofKwargs (kvs : List (List (Fin 0x110000) × PyVal)) : Except String ResourceLimits := do
  checkInitKwargs "ResourceLimits" fields (keyNames kvs)
  let cpuQuota ← kwarg kvs "cpu_quota" .none Codec.value
  let cpuPeriod ← kwarg kvs "cpu_period" (.int 100000) Codec.value
  let memoryMb ← kwarg kvs "memory_mb" .none Codec.value
  let maxPids ← kwarg kvs "max_pids" .none Codec.value
  return { cpuQuota, cpuPeriod, memoryMb, maxPids }

end ResourceLimits

namespace ContainerConfig

/-- The dataclass fields, in order. -/
def fields : List String :=
  ["id", "name", "rootfs", "command", "overlay_lower", "overlay_upper", "overlay_work",
   "overlay_merged", "use_overlay", "resources", "network", "namespaces", "hostname", "env",
   "workdir", "user", "rootless", "pod_id", "capabilities", "seccomp_enabled", "status", "pid",
   "created_at", "started_at", "finished_at", "exit_code"]

/-- `asdict`, which turns the nested dataclasses into dicts. -/
def asdict (c : ContainerConfig) : List (List (Fin 0x110000) × PyVal) :=
  [(pyStr "id", Codec.str.enc c.id), (pyStr "name", Codec.str.enc c.name),
   (pyStr "rootfs", Codec.str.enc c.rootfs), (pyStr "command", c.command),
   (pyStr "overlay_lower", Codec.str.enc c.overlayLower),
   (pyStr "overlay_upper", Codec.str.enc c.overlayUpper),
   (pyStr "overlay_work", Codec.str.enc c.overlayWork),
   (pyStr "overlay_merged", Codec.str.enc c.overlayMerged),
   (pyStr "use_overlay", Codec.bool.enc c.useOverlay),
   (pyStr "resources", .dict c.resources.asdict), (pyStr "network", .dict c.network.asdict),
   (pyStr "namespaces", Codec.strList.enc c.namespaces), (pyStr "hostname", c.hostname),
   (pyStr "env", Codec.strDict.enc c.env), (pyStr "workdir", c.workdir),
   (pyStr "user", Codec.str.enc c.user), (pyStr "rootless", Codec.bool.enc c.rootless),
   (pyStr "pod_id", Codec.optStr.enc c.podId), (pyStr "capabilities", c.capabilities),
   (pyStr "seccomp_enabled", Codec.bool.enc c.seccompEnabled),
   (pyStr "status", Codec.str.enc c.status), (pyStr "pid", Codec.optInt.enc c.pid),
   (pyStr "created_at", Codec.float.enc c.createdAt),
   (pyStr "started_at", Codec.optFloat.enc c.startedAt),
   (pyStr "finished_at", Codec.optFloat.enc c.finishedAt),
   (pyStr "exit_code", Codec.optInt.enc c.exitCode)]

/-- What `load_container_config` does with the loaded dict: the nested dataclasses, then
`ContainerConfig(**data)`, whose `created_at` defaults to the clock. -/
def ofKwargs (g : Generated) (now : Decimal) (kvs : List (List (Fin 0x110000) × PyVal)) :
    Except String ContainerConfig := do
  let resources ← nested kvs "resources" {} ResourceLimits.ofKwargs
  let network ← nested kvs "network" {} NetworkConfig.ofKwargs
  checkInitKwargs "ContainerConfig" fields (keyNames kvs)
  let id ← kwarg kvs "id" "" Codec.str
  let name ← kwarg kvs "name" "" Codec.str
  let rootfs ← kwarg kvs "rootfs" "" Codec.str
  let command ← kwarg kvs "command" (.list []) Codec.value
  let overlayLower ← kwarg kvs "overlay_lower" "" Codec.str
  let overlayUpper ← kwarg kvs "overlay_upper" "" Codec.str
  let overlayWork ← kwarg kvs "overlay_work" "" Codec.str
  let overlayMerged ← kwarg kvs "overlay_merged" "" Codec.str
  let useOverlay ← kwarg kvs "use_overlay" true Codec.bool
  let namespaces ← kwarg kvs "namespaces" ["pid", "uts", "mnt", "ipc", "net"] Codec.strList
  let hostname ← kwarg kvs "hostname" (.ofString "") Codec.value
  let env ← kwarg kvs "env" .empty Codec.strDict
  let workdir ← kwarg kvs "workdir" (.ofString "/") Codec.value
  let user ← kwarg kvs "user" "root" Codec.str
  let rootless ← kwarg kvs "rootless" false Codec.bool
  let podId ← kwarg kvs "pod_id" none Codec.optStr
  let capabilities ← kwarg kvs "capabilities" (.list []) Codec.value
  let seccompEnabled ← kwarg kvs "seccomp_enabled" true Codec.bool
  let status ← kwarg kvs "status" "created" Codec.str
  let pid ← kwarg kvs "pid" none Codec.optInt
  let createdAt ← kwarg kvs "created_at" (.finite now) Codec.float
  let startedAt ← kwarg kvs "started_at" none Codec.optFloat
  let finishedAt ← kwarg kvs "finished_at" none Codec.optFloat
  let exitCode ← kwarg kvs "exit_code" none Codec.optInt
  return postInit g
    { id, name, rootfs, command, overlayLower, overlayUpper, overlayWork, overlayMerged,
      useOverlay, resources, network, namespaces, hostname, env, workdir, user, rootless, podId,
      capabilities, seccompEnabled, status, pid, createdAt, startedAt, finishedAt, exitCode }

end ContainerConfig

/-- The text `save_container_config` writes. -/
def saveContainerConfigText (c : ContainerConfig) : List Char := dump (.dict c.asdict)

/-- `load_container_config` once the token is resolved: the record in the file's text, or
`None` when the text is no JSON or the rebuilding raises. -/
def loadContainerConfigText (g : Generated) (now : Decimal) (text : List Char) :
    Option ContainerConfig :=
  match load text with
  | .ok (.dict kvs) => (ContainerConfig.ofKwargs g now kvs).toOption
  | _ => none

namespace PodConfig

/-- `asdict`. -/
def asdict (p : PodConfig) : List (List (Fin 0x110000) × PyVal) :=
  [(pyStr "id", Codec.str.enc p.id), (pyStr "name", Codec.str.enc p.name),
   (pyStr "containers", Codec.strList.enc p.containers),
   (pyStr "infra_pid", Codec.optInt.enc p.infraPid),
   (pyStr "ip_address", Codec.optStr.enc p.ipAddress),
   (pyStr "shared_namespaces", Codec.strList.enc p.sharedNamespaces),
   (pyStr "hostname", Codec.str.enc p.hostname), (pyStr "status", Codec.str.enc p.status),
   (pyStr "created_at", Codec.float.enc p.createdAt)]

/-- `PodConfig(**data)`, whose `created_at` defaults to the clock. -/
def ofKwargs (g : Generated) (now : Decimal) (kvs : List (List (Fin 0x110000) × PyVal)) :
    Except String PodConfig := do
  checkKwargs (keyNames kvs)
  let id ← kwarg kvs "id" "" Codec.str
  let name ← kwarg kvs "name" "" Codec.str
  let containers ← kwarg kvs "containers" [] Codec.strList
  let infraPid ← kwarg kvs "infra_pid" none Codec.optInt
  let ipAddress ← kwarg kvs "ip_address" none Codec.optStr
  let sharedNamespaces ← kwarg kvs "shared_namespaces" ["net", "ipc", "uts"] Codec.strList
  let hostname ← kwarg kvs "hostname" "" Codec.str
  let status ← kwarg kvs "status" "created" Codec.str
  let createdAt ← kwarg kvs "created_at" (.finite now) Codec.float
  return postInit g
    { id, name, containers, infraPid, ipAddress, sharedNamespaces, hostname, status, createdAt }

end PodConfig

/-- The text `save_pod_config` writes. -/
def savePodConfigText (p : PodConfig) : List Char := dump (.dict p.asdict)

/-- `load_pod_config` once the token is resolved. -/
def loadPodConfigText (g : Generated) (now : Decimal) (text : List Char) : Option PodConfig :=
  match load text with
  | .ok (.dict kvs) => (PodConfig.ofKwargs g now kvs).toOption
  | _ => none


/-! ## Reading back what was written -/

theorem NetworkConfig.ofKwargs_asdict (n : NetworkConfig) :
    NetworkConfig.ofKwargs n.asdict = .ok n := by
  rw [ofKwargs, show keyNames n.asdict = fields from rfl,
    checkInitKwargs_ok _ fun _ h => h]
  simp [kwarg, dictGet, asdict, List.lookup_cons, bind, Except.bind, pure, Except.pure]

theorem ResourceLimits.ofKwargs_asdict (r : ResourceLimits) :
    ResourceLimits.ofKwargs r.asdict = .ok r := by
  rw [ofKwargs, show keyNames r.asdict = fields from rfl,
    checkInitKwargs_ok _ fun _ h => h]
  simp [kwarg, dictGet, asdict, List.lookup_cons, bind, Except.bind, pure, Except.pure]

theorem ContainerConfig.ofKwargs_asdict (g : Generated) (now : Decimal) {c : ContainerConfig}
    (h : c.PostInit) : ContainerConfig.ofKwargs g now c.asdict = .ok c := by
  rw [ofKwargs, show keyNames c.asdict = fields from rfl,
    checkInitKwargs_ok _ fun _ h => h]
  simp [nested, kwarg, dictGet, asdict, List.lookup_cons, ResourceLimits.ofKwargs_asdict,
    NetworkConfig.ofKwargs_asdict, bind, Except.bind, pure, Except.pure]
  exact postInit_eq_self h g

theorem PodConfig.ofKwargs_asdict (g : Generated) (now : Decimal) {p : PodConfig}
    (h : p.PostInit) : PodConfig.ofKwargs g now p.asdict = .ok p := by
  rw [ofKwargs, checkKwargs, show keyNames p.asdict = fields from rfl,
    checkInitKwargs_ok _ fun _ h => h]
  simp [kwarg, dictGet, asdict, List.lookup_cons, bind, Except.bind, pure, Except.pure]
  exact postInit_eq_self h g


/-! ## What `asdict` writes is well formed -/

section WellFormed

theorem PyVal.wellFormed_dict (kvs : List (List (Fin 0x110000) × PyVal)) :
    (PyVal.dict kvs).wellFormed = (decide (kvs.map Prod.fst).Nodup && PyVal.wellFormedDict kvs) :=
  rfl

@[simp] theorem wellFormed_ofString (s : String) : (PyVal.ofString s).wellFormed = true :=
  pairFree_pyStr s

@[simp] theorem wellFormed_str (s : String) : (Codec.str.enc s).wellFormed = true :=
  pairFree_pyStr s

@[simp] theorem wellFormed_bool (b : Bool) : (Codec.bool.enc b).wellFormed = true := rfl

@[simp] theorem wellFormed_float (x : PyFloat) : (Codec.float.enc x).wellFormed = true := rfl

theorem wellFormed_ofOption {α : Type} (f : α → PyVal) (hf : ∀ a, (f a).wellFormed = true) :
    ∀ o, (PyVal.ofOption f o).wellFormed = true
  | some a => hf a
  | none => rfl

@[simp] theorem wellFormed_optStr (o : Option String) : (Codec.optStr.enc o).wellFormed = true :=
  wellFormed_ofOption _ wellFormed_ofString o

@[simp] theorem wellFormed_optInt (o : Option Int) : (Codec.optInt.enc o).wellFormed = true :=
  wellFormed_ofOption PyVal.int (fun _ => rfl) o

@[simp] theorem wellFormed_optFloat (o : Option PyFloat) :
    (Codec.optFloat.enc o).wellFormed = true :=
  wellFormed_ofOption PyVal.float (fun _ => rfl) o

@[simp] theorem wellFormed_strList (xs : List String) : (Codec.strList.enc xs).wellFormed = true := by
  show PyVal.wellFormedList (xs.map PyVal.ofString) = true
  induction xs with
  | nil => rfl
  | cons x xs ih => simp only [List.map_cons, PyVal.wellFormedList, wellFormed_ofString, ih]; rfl

theorem wellFormedDict_dictItems (items : List (String × String)) :
    PyVal.wellFormedDict (Codec.dictItems items) = true := by
  induction items with
  | nil => rfl
  | cons kv items ih =>
    simp only [Codec.dictItems, List.map_cons, PyVal.wellFormedDict, pairFree_pyStr,
      wellFormed_ofString] at ih ⊢
    exact ih

theorem nodup_keys (kvs : List (List (Fin 0x110000) × PyVal)) (fields : List String)
    (hk : kvs.map Prod.fst = fields.map pyStr) (hn : fields.Nodup) :
    decide (kvs.map Prod.fst).Nodup = true := by
  rw [hk]
  exact decide_eq_true (hn.map pyStr_injective)

@[simp] theorem wellFormed_strDict (d : StrDict) : (Codec.strDict.enc d).wellFormed = true := by
  have hk : (Codec.dictItems d.items).map Prod.fst = (d.items.map Prod.fst).map pyStr := by
    simp [Codec.dictItems]
  simp only [Codec.strDict, PyVal.wellFormed_dict, nodup_keys _ _ hk d.nodup, wellFormedDict_dictItems]
  rfl

@[simp] theorem NetworkConfig.wellFormed_asdict (n : NetworkConfig) :
    (PyVal.dict n.asdict).wellFormed = true := by
  simp [asdict, PyVal.wellFormed_dict, PyVal.wellFormedDict, pairFree_pyStr]

/-- The four limits hold well-formed values. -/
def ResourceLimits.WellFormed (r : ResourceLimits) : Prop :=
  r.cpuQuota.wellFormed ∧ r.cpuPeriod.wellFormed ∧ r.memoryMb.wellFormed ∧ r.maxPids.wellFormed

theorem ResourceLimits.wellFormed_asdict {r : ResourceLimits} (h : r.WellFormed) :
    (PyVal.dict r.asdict).wellFormed = true := by
  obtain ⟨h₁, h₂, h₃, h₄⟩ := h
  simp [asdict, PyVal.wellFormed_dict, PyVal.wellFormedDict, pairFree_pyStr, h₁, h₂, h₃, h₄]

/-- The fields that hold whatever value they were given hold well-formed ones. -/
def ContainerConfig.WellFormed (c : ContainerConfig) : Prop :=
  c.command.wellFormed ∧ c.hostname.wellFormed ∧ c.workdir.wellFormed ∧
    c.capabilities.wellFormed ∧ c.resources.WellFormed

theorem ContainerConfig.wellFormed_asdict {c : ContainerConfig} (h : c.WellFormed) :
    (PyVal.dict c.asdict).wellFormed = true := by
  obtain ⟨h₁, h₂, h₃, h₄, hr⟩ := h
  rw [PyVal.wellFormed_dict, nodup_keys c.asdict fields rfl (by decide)]
  simp [asdict, PyVal.wellFormedDict, pairFree_pyStr, h₁, h₂, h₃, h₄,
    ResourceLimits.wellFormed_asdict hr]

theorem PodConfig.wellFormed_asdict (p : PodConfig) : (PyVal.dict p.asdict).wellFormed = true := by
  rw [PyVal.wellFormed_dict, nodup_keys p.asdict fields rfl (by decide)]
  simp [asdict, PyVal.wellFormedDict, pairFree_pyStr]

end WellFormed


/-! ## Every record the program writes reads back as itself -/

section Produced

theorem PyVal.wellFormed_lookup : ∀ {kvs : List (List (Fin 0x110000) × PyVal)}
    {k : List (Fin 0x110000)} {v : PyVal},
    PyVal.wellFormedDict kvs = true → kvs.lookup k = some v → v.wellFormed = true
  | (k', v') :: kvs, k, v, hw, h => by
    simp only [PyVal.wellFormedDict, Bool.and_eq_true] at hw
    rw [List.lookup_cons] at h
    split at h
    · cases h
      exact hw.1.2
    · exact wellFormed_lookup hw.2 h

theorem dictGet_wellFormed {d : List (List (Fin 0x110000) × PyVal)} {k : String} {v : PyVal}
    (hd : (PyVal.dict d).wellFormed = true) (h : dictGet d k = some v) : v.wellFormed = true :=
  PyVal.wellFormed_lookup (by simp only [PyVal.wellFormed_dict, Bool.and_eq_true] at hd; exact hd.2)
    h

theorem getD_dictGet_wellFormed {d : List (List (Fin 0x110000) × PyVal)} (k : String)
    (hd : (PyVal.dict d).wellFormed = true) : ((dictGet d k).getD .none).wellFormed = true := by
  cases h : dictGet d k with
  | none => rfl
  | some v => exact dictGet_wellFormed hd h

theorem capSet_wellFormed {caps : List (List (Fin 0x110000) × PyVal)}
    (h : (PyVal.dict caps).wellFormed = true) : (capSet caps).wellFormed = true := by
  simp only [capSet]
  split_ifs
  · exact getD_dictGet_wellFormed "bounding" h
  · exact getD_dictGet_wellFormed "permitted" h
  · rfl

theorem PyVal.floorDiv_wellFormed {v w : PyVal} {n : Nat} (h : v.floorDiv n = .ok w) :
    w.wellFormed = true := by
  unfold PyVal.floorDiv at h
  split at h <;> cases h <;> rfl

theorem ociLimit_wellFormed {d : List (List (Fin 0x110000) × PyVal)} {key : String}
    {dflt w : PyVal} {f : PyVal → Except String PyVal} (hd : (PyVal.dict d).wellFormed = true)
    (hdflt : dflt.wellFormed = true)
    (hf : ∀ {v w}, v.wellFormed = true → f v = .ok w → w.wellFormed = true)
    (h : ociLimit d key dflt f = .ok w) : w.wellFormed = true := by
  unfold ociLimit at h
  split at h
  · cases h
    exact hdflt
  · split at h
    · exact hf (dictGet_wellFormed hd ‹_›) h
    · cases h
      exact hdflt

theorem ContainerConfig.postInit_wellFormed {c : ContainerConfig} (h : c.WellFormed)
    (g : Generated) : (c.postInit g).WellFormed := by
  obtain ⟨h₁, h₂, h₃, h₄, h₅⟩ := h
  simp only [postInit]
  split_ifs <;> first | exact ⟨h₁, h₂, h₃, h₄, h₅⟩ | exact ⟨h₁, wellFormed_ofString _, h₃, h₄, h₅⟩

theorem Container.create_wellFormed {overlayPath : String} {g : Generated} {now : Decimal}
    {a : CreateArgs} {c : ContainerConfig} (h : Container.create overlayPath g now a = .ok c) :
    c.WellFormed := by
  simp only [Container.create] at h
  split at h
  · cases h
  · split at h <;> cases h <;> refine ContainerConfig.postInit_wellFormed ?_ g <;>
      exact ⟨wellFormed_strList a.command, wellFormed_ofString _, wellFormed_ofString _, rfl,
        wellFormed_optInt _, rfl, wellFormed_optInt _, wellFormed_optInt _⟩

theorem ociToContainerConfig_wellFormed {g : Generated} {now : Decimal} {rootfs : String}
    {o : OciConfig} {c : ContainerConfig} (hw : o.WellFormed)
    (h : ociToContainerConfig g now rootfs o = .ok c) : c.WellFormed := by
  obtain ⟨hh, ha, hcwd, hcap, hmem, hcpu, hpids⟩ := hw
  have hcaps : (if o.capabilities.isEmpty then PyVal.list [] else capSet o.capabilities).wellFormed
      = true := by
    split
    · rfl
    · exact capSet_wellFormed hcap
  simp only [ociToContainerConfig, bind, Except.bind, pure, Except.pure] at h
  split at h
  · cases h
  next hm =>
  split at h
  · cases h
  next hq =>
  split at h
  · cases h
  next hp =>
  split at h
  · cases h
  next hx =>
  cases h
  exact ContainerConfig.postInit_wellFormed ⟨ha, hh, hcwd, hcaps,
    ociLimit_wellFormed hcpu (by rfl) (fun hv h => by cases h; exact hv) hq,
    ociLimit_wellFormed hcpu (by rfl) (fun hv h => by cases h; exact hv) hp,
    ociLimit_wellFormed hmem (by rfl) (fun _ => PyVal.floorDiv_wellFormed) hm,
    ociLimit_wellFormed hpids (by rfl) (fun hv h => by cases h; exact hv) hx⟩ g

theorem runOciRecord_wellFormed {g : Generated} {now : Decimal} {rootfs : String}
    {o : OciConfig} {rootless : Bool} {name : Option String} {c : ContainerConfig}
    (hw : o.WellFormed) (h : runOciRecord g now rootfs o rootless name = .ok c) :
    c.WellFormed := by
  simp only [runOciRecord, bind, Except.bind, pure, Except.pure] at h
  split at h
  · cases h
  next h₀ =>
  cases h
  have := ociToContainerConfig_wellFormed hw h₀
  split
  · split_ifs <;> exact this
  · exact this

theorem Produced.wellFormed {c : ContainerConfig} (h : Produced c) : c.WellFormed := by
  induction h with
  | create h => exact Container.create_wellFormed h
  | runOci hw h => exact runOciRecord_wellFormed hw h
  | status now st pid e _ ih =>
    simp only [updateContainerStatus]
    split_ifs <;> (try split) <;> (try split) <;> exact ih
  | network _ _ _ _ ih => exact ih

/-- A record that `__post_init__` leaves as it is, with well-formed values, reads back from
the file `save_container_config` writes. -/
theorem loadContainerConfigText_save (g : Generated) (now : Decimal) {c : ContainerConfig}
    (hp : c.PostInit) (hw : c.WellFormed) :
    loadContainerConfigText g now (saveContainerConfigText c) = some c := by
  rw [loadContainerConfigText, saveContainerConfigText,
    load_dump _ (ContainerConfig.wellFormed_asdict hw)]
  simp only [ContainerConfig.ofKwargs_asdict g now hp]
  rfl

theorem loadPodConfigText_save (g : Generated) (now : Decimal) {p : PodConfig}
    (hp : p.PostInit) : loadPodConfigText g now (savePodConfigText p) = some p := by
  rw [loadPodConfigText, savePodConfigText, load_dump _ (PodConfig.wellFormed_asdict p)]
  simp only [PodConfig.ofKwargs_asdict g now hp]
  rfl

theorem Produced.reload {c : ContainerConfig} (h : Produced c) (g : Generated) (now : Decimal) :
    loadContainerConfigText g now (saveContainerConfigText c) = some c :=
  loadContainerConfigText_save g now h.postInit h.wellFormed

theorem PodProduced.reload {p : PodConfig} (h : PodProduced p) (g : Generated) (now : Decimal) :
    loadPodConfigText g now (savePodConfigText p) = some p :=
  loadPodConfigText_save g now h.postInit

end Produced

/-! ## Python's `==` on records -/

/-- `==` on two `Optional[float]` values. -/
def optFloatEq : Option PyFloat → Option PyFloat → Bool
  | some x, some y => x.pyEq y
  | none, none => true
  | _, _ => false

/-- `==` on two dicts from `str` to `str`: the same size, and every key of the first maps to
the same value in the second. -/
def StrDict.pyEq (a b : StrDict) : Bool :=
  a.items.length == b.items.length && a.items.all fun kv => b.items.lookup kv.1 == some kv.2

/-- The generated `NetworkConfig.__eq__`. -/
def NetworkConfig.pyEq (a b : NetworkConfig) : Bool :=
  a.ip == b.ip && a.mac == b.mac && a.gateway == b.gateway && a.vethHost == b.vethHost &&
    a.vethContainer == b.vethContainer && a.bridge == b.bridge

/-- The generated `ResourceLimits.__eq__`: the fields compared in order with `==`. -/
def ResourceLimits.pyEq (a b : ResourceLimits) : Bool :=
  a.cpuQuota.pyEq b.cpuQuota && a.cpuPeriod.pyEq b.cpuPeriod && a.memoryMb.pyEq b.memoryMb &&
    a.maxPids.pyEq b.maxPids

/-- The generated `ContainerConfig.__eq__`: the fields compared in order with `==`, the nested
records with their own `__eq__`. -/
def ContainerConfig.pyEq (a b : ContainerConfig) : Bool :=
  a.id == b.id && a.name == b.name && a.rootfs == b.rootfs && a.command.pyEq b.command &&
    a.overlayLower == b.overlayLower && a.overlayUpper == b.overlayUpper &&
    a.overlayWork == b.overlayWork && a.overlayMerged == b.overlayMerged &&
    a.useOverlay == b.useOverlay && a.resources.pyEq b.resources && a.network.pyEq b.network &&
    a.namespaces == b.namespaces && a.hostname.pyEq b.hostname && a.env.pyEq b.env &&
    a.workdir.pyEq b.workdir && a.user == b.user && a.rootless == b.rootless &&
    a.podId == b.podId && a.capabilities.pyEq b.capabilities &&
    a.seccompEnabled == b.seccompEnabled && a.status == b.status && a.pid == b.pid &&
    a.createdAt.pyEq b.createdAt && optFloatEq a.startedAt b.startedAt &&
    optFloatEq a.finishedAt b.finishedAt && a.exitCode == b.exitCode

/-- The generated `PodConfig.__eq__`. -/
def PodConfig.pyEq (a b : PodConfig) : Bool :=
  a.id == b.id && a.name == b.name && a.containers == b.containers && a.infraPid == b.infraPid &&
    a.ipAddress == b.ipAddress && a.sharedNamespaces == b.sharedNamespaces &&
    a.hostname == b.hostname && a.status == b.status && a.createdAt.pyEq b.createdAt

/-- No field of the record holds `nan`. -/
def ContainerConfig.nanFree (c : ContainerConfig) : Bool :=
  c.command.nanFree && c.hostname.nanFree && c.workdir.nanFree && c.capabilities.nanFree &&
    c.resources.cpuQuota.nanFree && c.resources.cpuPeriod.nanFree &&
    c.resources.memoryMb.nanFree && c.resources.maxPids.nanFree && c.createdAt != .nan &&
    c.startedAt != some .nan && c.finishedAt != some .nan

theorem optFloatEq_self {x : Option PyFloat} (h : x ≠ some .nan) : optFloatEq x x = true := by
  cases x with
  | none => rfl
  | some x => exact PyFloat.pyEq_self fun he => h (he ▸ rfl)

theorem StrDict.pyEq_self (d : StrDict) : d.pyEq d = true := by
  simp only [pyEq, beq_self_eq_true, Bool.true_and, List.all_eq_true, beq_iff_eq]
  exact PyVal.lookup_of_nodup d.nodup

theorem ContainerConfig.pyEq_self {c : ContainerConfig} (hw : c.WellFormed) (hn : c.nanFree) :
    c.pyEq c = true := by
  obtain ⟨h₁, h₂, h₃, h₄, h₅, h₆, h₇, h₈⟩ := hw
  simp only [nanFree, Bool.and_eq_true, bne_iff_ne, ne_eq] at hn
  simp [pyEq, ResourceLimits.pyEq, NetworkConfig.pyEq, StrDict.pyEq_self, PyVal.pyEq_self, *,
    PyFloat.pyEq_self, optFloatEq_self]

theorem PodProduced.createdAt_ne_nan {p : PodConfig} (h : PodProduced p) : p.createdAt ≠ .nan := by
  induction h with
  | newPod g now name hostname => simp [PodManager.newPod, PodConfig.postInit]; split_ifs <;> simp
  | infraStarted _ _ ih | addContainer _ _ ih | removeContainer _ _ ih | infraStopped _ ih =>
    exact ih

theorem PodConfig.pyEq_self {p : PodConfig} (h : p.createdAt ≠ .nan) : p.pyEq p = true := by
  simp [pyEq, PyFloat.pyEq_self h]

theorem checkInitKwargs_unknown (cls : String) {fields : List String} :
    ∀ {ks : List String} {k : String}, k ∈ ks → k ∉ fields →
      ∃ k' ∈ ks, k' ∉ fields ∧ checkInitKwargs cls fields ks =
        .error ("TypeError: " ++ cls ++ ".__init__() got an unexpected keyword argument '" ++ k' ++
          "'")
  | k₀ :: ks, k, hk, hkf => by
    rw [checkInitKwargs]
    split
    · next h0 =>
      have hk' : k ∈ ks := (List.mem_cons.1 hk).resolve_left fun he => hkf (he ▸ h0)
      obtain ⟨k', hm, hf, he⟩ := checkInitKwargs_unknown cls hk' hkf
      exact ⟨k', List.mem_cons_of_mem _ hm, hf, he⟩
    · next h0 => exact ⟨k₀, List.mem_cons_self _ _, h0, rfl⟩

theorem ContainerConfig.ofKwargs_unknown (g : Generated) (now : Decimal)
    {kvs : List (List (Fin 0x110000) × PyVal)}
    (h : ∃ kv ∈ kvs, textOf kv.1 ∉ ContainerConfig.fields) :
    (ContainerConfig.ofKwargs g now kvs).toOption = none := by
  obtain ⟨kv, hkv, hk⟩ := h
  obtain ⟨k', -, -, he⟩ := checkInitKwargs_unknown "ContainerConfig"
    (List.mem_map_of_mem (fun kv => textOf kv.1) hkv) hk
  simp only [ContainerConfig.ofKwargs, bind, Except.bind]
  split
  · rfl
  · split
    · rfl
    · rw [keyNames, he]
      rfl

/-- `update_container_status(id, status, pid, exit_code)` on the text of the directory the id
resolves to: `None` when `load_container_config` gives nothing, where the call returns `False`
and writes nothing; else the id of the directory `save_container_config` writes to and the
text it writes. -/
def updateContainerStatusText (g : Generated) (loadNow now : Decimal) (text : List Char)
    (status : String) (pid exitCode : Option Int) : Option (String × List Char) :=
  (loadContainerConfigText g loadNow text).map fun c =>
    (c.id, saveContainerConfigText (updateContainerStatus now c status pid exitCode))

/-- The record with the fields a status update writes changed, and no other. -/
def statusUpdated (now : Decimal) (c : ContainerConfig) (status : String)
    (pid exitCode : Option Int) : ContainerConfig :=
  { c with
    status := status
    pid := pid.or c.pid
    startedAt := if status = "running" ∧ c.startedAt.isNone then some (.finite now)
      else c.startedAt
    finishedAt := if status = "stopped" then some (.finite now) else c.finishedAt
    exitCode := if status = "stopped" then exitCode.or c.exitCode else c.exitCode }

theorem updateContainerStatus_eq (now : Decimal) (c : ContainerConfig) (status : String)
    (pid exitCode : Option Int) :
    updateContainerStatus now c status pid exitCode = statusUpdated now c status pid exitCode := by
  by_cases hs : status = "stopped"
  · subst hs
    cases pid <;> cases exitCode <;> simp [updateContainerStatus, statusUpdated]
  · by_cases hr : status = "running" ∧ c.startedAt = none <;> cases pid <;>
      simp [updateContainerStatus, statusUpdated, hr, hs]

/-- `update_container_status` fails on every file holding a key that names no field of
`ContainerConfig`: `load_container_config` gives `None`, so the call returns `False` and nothing
is written. On the file of every record the program writes, it writes the record with only the
status, the pid when given, `started_at` on a first start, and on a stop `finished_at` and the
exit code when given, changed. -/
theorem updateContainerStatusText_frame (g : Generated) (loadNow now : Decimal) (status : String)
    (pid exitCode : Option Int) :
    (∀ text kvs, load text = .ok (.dict kvs) →
      (∃ kv ∈ kvs, textOf kv.1 ∉ ContainerConfig.fields) →
      updateContainerStatusText g loadNow now text status pid exitCode = none) ∧
    (∀ c, Produced c →
      updateContainerStatusText g loadNow now (saveContainerConfigText c) status pid exitCode =
        some (c.id, saveContainerConfigText (statusUpdated now c status pid exitCode))) :=
  ⟨fun text kvs hl hk => by
    simp [updateContainerStatusText, loadContainerConfigText, hl,
      ContainerConfig.ofKwargs_unknown g loadNow hk],
   fun c hc => by
    simp [updateContainerStatusText, hc.reload, updateContainerStatus_eq]⟩

/-- `run --name app /srv/rootfs /bin/sh` saves a record; its file, with one more top-level key
`labels` as a later version of the tool writes it, makes the update return `False` and write
nothing. -/
theorem updateContainerStatusText_labels :
    ∃ c, Container.create "/var/lib/mini-docker/overlay"
        ⟨"cccccccccccc", "brave-lynx", rfl, by decide⟩ ⟨false, 17, 8, by decide⟩
        { rootfs := "/srv/rootfs", rootfsIsDir := true, command := ["/bin/sh"],
          name := some "app" } = .ok c ∧
      updateContainerStatusText ⟨"cccccccccccc", "brave-lynx", rfl, by decide⟩
        ⟨false, 17, 8, by decide⟩ ⟨false, 18, 8, by decide⟩
        (dump (.dict (c.asdict ++ [(pyStr "labels", .dict [])]))) "running" (some 4242) none =
        none := by
  refine ⟨_, rfl, ?_⟩
  rw [updateContainerStatusText, loadContainerConfigText, load_dump]
  · dsimp only
    rw [ContainerConfig.ofKwargs_unknown]
    · rfl
    · exact ⟨_, List.mem_append_right _ (List.mem_singleton_self _), by decide⟩
  · decide

end MiniDocker.Record
