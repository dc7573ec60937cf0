import MiniDocker.Oci.Load

/-! # Exporting a record as an OCI config

`generate_oci_config` writes a record's command, environment, working directory, hostname,
namespaces, limits and capabilities into an OCI config dict. Read back with `parse_oci_config`
and `oci_to_container_config`, each of them comes back when the environment is non-empty with
no `=` in a key, the namespaces are among those both maps know, the limits are positive or
unset and the CPU period is the default. The dict has no `linux.seccomp`, so the record always
comes back with `seccomp_enabled` false (`generateOciConfig_roundTrip`).
-/

namespace MiniDocker.Record.PyVal
set_option autoImplicit false

/-- Python's `v * n` for an int `n`: numbers multiply (a float's overflow to infinity is not
modelled), a str or a list repeats, and any other value raises. -/
def mulNat (v : PyVal) (n : Nat) : Except String PyVal :=
  match v with
  | .int i => .ok (.int (i * n))
  | .bool b => .ok (.int ((if b then 1 else 0) * n))
  | .float (.finite d) => .ok (.float (.finite (Decimal.ofParts d.neg (d.digits * n) d.exp)))
  | .float x => .ok (.float x)
  | .str s => .ok (.str (List.replicate n s).flatten)
  | .list xs => .ok (.list (List.replicate n xs).flatten)
  | _ => .error ("TypeError: unsupported operand type(s) for *: '" ++ v.typeName ++ "' and 'int'")

end MiniDocker.Record.PyVal

namespace MiniDocker.Oci
open MiniDocker.Record MiniDocker.Limits
set_option autoImplicit false

/-- The items of a dict literal with str keys. -/
def pyItems (kvs : List (String × PyVal)) : List (List (Fin 0x110000) × PyVal) :=
  kvs.map fun kv => (pyStr kv.1, kv.2)

/-- A dict literal with str keys. -/
def pyDict (kvs : List (String × PyVal)) : PyVal := .dict (pyItems kvs)

/-- The record's namespace names and the OCI types `generate_oci_config` writes for them; any
other name is written as it is. -/
def nsMap : List (String × String) :=
  [("pid", "pid"), ("net", "network"), ("mnt", "mount"), ("ipc", "ipc"), ("uts", "uts"),
   ("user", "user")]

/-- The `env` list: `KEY=VALUE` for every item, or the default `PATH` when there is none. -/
def envList (env : StrDict) : List PyVal :=
  if env.items = [] then [.ofString defaultPath]
  else env.items.map fun kv => .ofString (kv.1 ++ "=" ++ kv.2)

/-- The capability sets, each the record's capabilities. -/
def capsDict (caps : PyVal) : PyVal :=
  pyDict [("bounding", caps), ("effective", caps), ("inheritable", caps), ("permitted", caps)]

/-- `resources["memory"]`: the limit in bytes, when `memory_mb` is truthy. -/
def memoryEntry (v : PyVal) : Except String (List (String × PyVal)) :=
  if v.truthy then (fun l => [("memory", pyDict [("limit", l)])]) <$> (v.mulNat 1024 >>= (·.mulNat 1024))
  else .ok []

/-- `resources["cpu"]`: the quota and the period, when `cpu_quota` is truthy. -/
def cpuEntry (quota period : PyVal) : List (String × PyVal) :=
  if quota.truthy then [("cpu", pyDict [("quota", quota), ("period", period)])] else []

/-- `resources["pids"]`: the limit, when `max_pids` is truthy. -/
def pidsEntry (v : PyVal) : List (String × PyVal) :=
  if v.truthy then [("pids", pyDict [("limit", v)])] else []

/-- The `resources` dict, its items in the order `generate_oci_config` sets them. -/
def ociResources (r : ResourceLimits) : Except String (List (String × PyVal)) :=
  (· ++ cpuEntry r.cpuQuota r.cpuPeriod ++ pidsEntry r.maxPids) <$> memoryEntry r.memoryMb

/-- The `mounts` list: `/proc`, `/dev` and `/sys`. -/
def ociMounts : List PyVal :=
  [pyDict [("destination", .ofString "/proc"), ("type", .ofString "proc"),
     ("source", .ofString "proc")],
   pyDict [("destination", .ofString "/dev"), ("type", .ofString "tmpfs"),
     ("source", .ofString "tmpfs"),
     ("options", .list (["nosuid", "strictatime", "mode=755", "size=65536k"].map .ofString))],
   pyDict [("destination", .ofString "/sys"), ("type", .ofString "sysfs"),
     ("source", .ofString "sysfs"),
     ("options", .list (["nosuid", "noexec", "nodev", "ro"].map .ofString))]]

/-- The config dict of `generate_oci_config` with the resources `res`. -/
def ociDict (c : ContainerConfig) (res : List (String × PyVal)) : PyVal :=
  pyDict [
    ("ociVersion", .ofString "1.0.0"),
    ("process", pyDict [
      ("terminal", .bool true),
      ("user", pyDict [("uid", .int 0), ("gid", .int 0)]),
      ("args", c.command),
      ("env", .list (envList c.env)),
      ("cwd", c.workdir),
      ("capabilities", capsDict c.capabilities),
      ("noNewPrivileges", .bool true)]),
    ("root", pyDict [("path", .ofString "rootfs"), ("readonly", .bool false)]),
    ("hostname", c.hostname),
    ("mounts", .list ociMounts),
    ("linux", pyDict [
      ("namespaces", .list (c.namespaces.map fun ns =>
        pyDict [("type", .ofString ((nsMap.lookup ns).getD ns))])),
      ("resources", pyDict res)])]

/-- `generate_oci_config(config)`: the dict, or the exception the memory limit's product
raises. -/
def generateOciConfig (c : ContainerConfig) : Except String PyVal :=
  (ociDict c ·) <$> ociResources c.resources

/-! ## Reading the dict back -/

@[simp] theorem dictGet_pyItems (kvs : List (String × PyVal)) (k : String) :
    dictGet (pyItems kvs) k = kvs.lookup k := by
  induction kvs with
  | nil => rfl
  | cons kv kvs ih =>
    obtain ⟨k', v⟩ := kv
    by_cases h : k = k'
    · subst h
      simp [dictGet, pyItems, List.lookup_cons]
    · have hne : (k == k') = false := by simp [h]
      simpa [dictGet, pyItems, List.lookup_cons, hne, pyStr_inj] using ih

@[simp] theorem get_pyDict (kvs : List (String × PyVal)) (k : String) (d : PyVal) :
    (pyDict kvs).get k d = .ok ((kvs.lookup k).getD d) := by
  simp [pyDict]

@[simp] theorem sectionOf_pyDict {α : Type} (kvs : List (String × PyVal)) (k : String)
    (parse : PyVal → Except String α) (dflt : α) :
    sectionOf (pyDict kvs) k parse dflt = ((kvs.lookup k).map parse).getD (.ok dflt) := by
  simp [pyDict, sectionOf_dict]

/-- What `parse_oci_config` reads from the dict `generate_oci_config` writes, whatever the
record and the resources. -/
theorem parseOciConfig_ociDict (c : ContainerConfig) (res : List (String × PyVal)) :
    parseOciConfig (ociDict c res) = .ok
      { hostname := c.hostname,
        process := { args := c.command, env := .list (envList c.env), cwd := c.workdir,
                     capabilities := capsDict c.capabilities },
        linux := { namespaceTypes := c.namespaces.map fun ns =>
                     .ofString ((nsMap.lookup ns).getD ns),
                   resources := { memory := (res.lookup "memory").getD (.dict []),
                                  cpu := (res.lookup "cpu").getD (.dict []),
                                  pids := (res.lookup "pids").getD (.dict []) } } } := by
  have hns : ∀ nss : List String,
      (nss.map fun ns => pyDict [("type", .ofString ((nsMap.lookup ns).getD ns))]).mapM
        (fun x => x.get "type" (.ofString "")) =
          .ok (nss.map fun ns => .ofString ((nsMap.lookup ns).getD ns)) := by
    intro nss
    induction nss with
    | nil => rfl
    | cons ns nss ih =>
      rw [List.map_cons, List.mapM_cons, ih]
      rfl
  have hmounts : checkMounts (.list ociMounts) = .ok () := rfl
  simp only [parseOciConfig, ociDict, get_pyDict, sectionOf_pyDict, List.lookup_cons,
    parseProcess, parseRoot, hmounts, parseLinux, parseResources, PyVal.iter, hns, bind,
    Except.bind, pure, Except.pure, Option.map_some', Option.getD_some, Option.map_none',
    Option.getD_none, String.reduceBEq, List.lookup_nil]

/-! ## Converting it back -/

theorem pyStr_append (a b : String) : pyStr (a ++ b) = pyStr a ++ pyStr b := by
  simp [pyStr, String.data_append]

theorem set_items_of_not_mem {d : StrDict} {k : String} (v : String)
    (h : k ∉ d.items.map Prod.fst) : (d.set k v).items = d.items ++ [(k, v)] := by
  simp [StrDict.set, h]

theorem StrDict.eq_of_items {d d' : StrDict} (h : d.items = d'.items) : d = d' := by
  cases d
  cases d'
  cases h
  rfl

theorem envEntry_ofString (d : StrDict) {k : String} (v : String) (hk : '=' ∉ k.toList) :
    envEntry d (.ofString (k ++ "=" ++ v)) = .ok (d.set k v) := by
  have hin : PyVal.occursIn (pyStr "=") (pyStr (k ++ "=" ++ v)) = true := by
    rw [PyVal.occursIn_iff, pyStr_append, pyStr_append]
    exact ⟨pyStr k, pyStr v, rfl⟩
  have hspan : (k ++ "=" ++ v).toList.span (· ≠ '=') = (k.toList, '=' :: v.toList) := by
    have hall : ∀ a ∈ k.toList, decide (a ≠ '=') = true := fun a ha =>
      decide_eq_true fun he => hk (he ▸ ha)
    rw [List.span_eq_take_drop, show (k ++ "=" ++ v).toList = k.toList ++ '=' :: v.toList by
      simp [String.data_append], List.takeWhile_append_of_pos hall,
      List.dropWhile_append_of_pos hall]
    simp
  simp only [envEntry, PyVal.ofString, PyVal.contains, hin, bind, Except.bind, if_true,
    textOf_pyStr, hspan, pure, Except.pure]
  rfl

theorem foldlM_envEntry_items :
    ∀ (items : List (String × String)) (d : StrDict), (∀ kv ∈ items, '=' ∉ kv.1.toList) →
      ((d.items ++ items).map Prod.fst).Nodup →
      ∃ d', (items.map fun kv => PyVal.ofString (kv.1 ++ "=" ++ kv.2)).foldlM envEntry d = .ok d' ∧
        d'.items = d.items ++ items
  | [], d, _, _ => ⟨d, rfl, by simp⟩
  | kv :: items, d, hk, hnd => by
    have hnew : kv.1 ∉ d.items.map Prod.fst := by
      simp only [List.map_append, List.map_cons, List.nodup_append, List.nodup_cons] at hnd
      exact fun h => hnd.2.2 h (List.mem_cons_self _ _)
    have hset := set_items_of_not_mem kv.2 hnew
    obtain ⟨d', hd', hitems⟩ := foldlM_envEntry_items items (d.set kv.1 kv.2)
      (fun kv' h => hk kv' (List.mem_cons_of_mem _ h)) (by rw [hset]; simpa using hnd)
    refine ⟨d', ?_, by rw [hitems, hset]; simp⟩
    rw [List.map_cons, List.foldlM_cons, envEntry_ofString d kv.2 (hk kv (List.mem_cons_self _ _))]
    exact hd'

theorem envOf_envList {env : StrDict} (hne : env.items ≠ [])
    (hk : ∀ kv ∈ env.items, '=' ∉ kv.1.toList) : envOf (.list (envList env)) = .ok env := by
  obtain ⟨d', hd', hitems⟩ := foldlM_envEntry_items env.items .empty hk env.nodup
  rw [envList, if_neg hne, envOf]
  simp only [PyVal.iter, bind, Except.bind, hd']
  exact congrArg Except.ok (StrDict.eq_of_items hitems)

@[simp] theorem truthy_pyDict (kvs : List (String × PyVal)) :
    (pyDict kvs).truthy = !kvs.isEmpty := by
  cases kvs <;> rfl

theorem resourceLimit_pyDict (kvs : List (String × PyVal)) (key : String) (dflt : PyVal)
    (f : PyVal → Except String PyVal) :
    resourceLimit (pyDict kvs) key dflt f =
      if kvs.isEmpty then .ok dflt else ((kvs.lookup key).map f).getD (.ok dflt) := by
  cases kvs with
  | nil => rfl
  | cons kv kvs =>
    have hc : (pyDict (kv :: kvs)).contains key = .ok ((kv :: kvs).lookup key).isSome := by
      simp [pyDict]
    cases h : (kv :: kvs).lookup key with
    | none => simp [resourceLimit, hc, h, bind, Except.bind, pure, Except.pure]
    | some w =>
      have hg : (pyDict (kv :: kvs)).getItem key = .ok w := PyVal.getItem_dict (by simpa using h)
      simp [resourceLimit, hc, h, hg, bind, Except.bind]

theorem int_mib (m : Int) : m * 1024 * 1024 / ((mib : Nat) : Int) = m := by
  rw [show ((mib : Nat) : Int) = 1048576 from rfl]
  omega

theorem lookup_append_left {l l' : List (String × PyVal)} {k : String}
    (h : ∀ kv ∈ l, kv.1 ≠ k) : (l ++ l').lookup k = l'.lookup k := by
  induction l with
  | nil => rfl
  | cons kv l ih =>
    obtain ⟨k', v⟩ := kv
    have hne : (k == k') = false :=
      beq_false_of_ne fun he => h (k', v) (List.mem_cons_self _ _) he.symm
    simp only [List.cons_append, List.lookup_cons, hne, ih fun kv hkv => h kv (.tail _ hkv)]

theorem lookup_append_right {l l' : List (String × PyVal)} {k : String}
    (h : ∀ kv ∈ l', kv.1 ≠ k) : (l ++ l').lookup k = l.lookup k := by
  induction l with
  | nil => simpa using @lookup_append_left l' [] k h
  | cons kv l ih =>
    obtain ⟨k', v⟩ := kv
    simp only [List.cons_append, List.lookup_cons, ih]

theorem keys_ne {l : List (String × PyVal)} {k k' : String} (h : ∀ kv ∈ l, kv.1 = k)
    (hne : k ≠ k') : ∀ kv ∈ l, kv.1 ≠ k' :=
  fun kv hkv => (h kv hkv).symm ▸ hne

theorem keys_cpuEntry (q period : PyVal) : ∀ kv ∈ cpuEntry q period, kv.1 = "cpu" := by
  unfold cpuEntry
  split <;> simp

theorem keys_pidsEntry (v : PyVal) : ∀ kv ∈ pidsEntry v, kv.1 = "pids" := by
  unfold pidsEntry
  split <;> simp

theorem memoryEntry_readBack {v : PyVal} (h : PositiveOrNone v) :
    ∃ e, memoryEntry v = .ok e ∧ (∀ kv ∈ e, kv.1 = "memory") ∧
      resourceLimit ((e.lookup "memory").getD (.dict [])) "limit" .none (·.floorDiv mib) = .ok v := by
  rcases h with rfl | ⟨m, hm, rfl⟩
  · exact ⟨[], rfl, by simp, rfl⟩
  · refine ⟨[("memory", pyDict [("limit", .int (m * 1024 * 1024))])], ?_, by simp, ?_⟩
    · simp only [memoryEntry, PyVal.truthy, bne_iff_ne, ne_eq, hm.ne', not_false_eq_true,
        if_true, PyVal.mulNat, bind, Except.bind, Nat.cast_ofNat]
      rfl
    · simp [resourceLimit_pyDict, PyVal.floorDiv, int_mib]

theorem cpuEntry_readBack {q : PyVal} (h : PositiveOrNone q) :
    resourceLimit (((cpuEntry q (.int 100000)).lookup "cpu").getD (.dict [])) "quota" .none .ok =
        .ok q ∧
      resourceLimit (((cpuEntry q (.int 100000)).lookup "cpu").getD (.dict [])) "period"
        (.int 100000) .ok = .ok (.int 100000) := by
  rcases h with rfl | ⟨q, hq, rfl⟩
  · exact ⟨rfl, rfl⟩
  · simp [cpuEntry, PyVal.truthy, hq.ne', resourceLimit_pyDict, List.lookup_cons]

theorem pidsEntry_readBack {p : PyVal} (h : PositiveOrNone p) :
    resourceLimit (((pidsEntry p).lookup "pids").getD (.dict [])) "limit" .none .ok = .ok p := by
  rcases h with rfl | ⟨p, hp, rfl⟩
  · rfl
  · simp [pidsEntry, PyVal.truthy, hp.ne', resourceLimit_pyDict]

theorem ociResources_readBack {r : ResourceLimits} (hq : PositiveOrNone r.cpuQuota)
    (hm : PositiveOrNone r.memoryMb) (hp : PositiveOrNone r.maxPids)
    (hperiod : r.cpuPeriod = .int 100000) :
    ∃ res, ociResources r = .ok res ∧
      resourceLimit ((res.lookup "memory").getD (.dict [])) "limit" .none (·.floorDiv mib) =
        .ok r.memoryMb ∧
      resourceLimit ((res.lookup "cpu").getD (.dict [])) "quota" .none .ok = .ok r.cpuQuota ∧
      resourceLimit ((res.lookup "cpu").getD (.dict [])) "period" (.int 100000) .ok =
        .ok r.cpuPeriod ∧
      resourceLimit ((res.lookup "pids").getD (.dict [])) "limit" .none .ok = .ok r.maxPids := by
  obtain ⟨e, he, hkeys, hmem⟩ := memoryEntry_readBack hm
  have hc := keys_cpuEntry r.cpuQuota r.cpuPeriod
  have hpk := keys_pidsEntry r.maxPids
  have hmemo : ((e ++ cpuEntry r.cpuQuota r.cpuPeriod) ++ pidsEntry r.maxPids).lookup "memory" =
      e.lookup "memory" := by
    rw [lookup_append_right (keys_ne hpk (by decide)), lookup_append_right (keys_ne hc (by decide))]
  have hcpu : ((e ++ cpuEntry r.cpuQuota r.cpuPeriod) ++ pidsEntry r.maxPids).lookup "cpu" =
      (cpuEntry r.cpuQuota r.cpuPeriod).lookup "cpu" := by
    rw [lookup_append_right (keys_ne hpk (by decide)), lookup_append_left (keys_ne hkeys (by decide))]
  have hpids : ((e ++ cpuEntry r.cpuQuota r.cpuPeriod) ++ pidsEntry r.maxPids).lookup "pids" =
      (pidsEntry r.maxPids).lookup "pids" := by
    refine lookup_append_left fun kv hkv => ?_
    rcases List.mem_append.1 hkv with h | h
    · exact keys_ne hkeys (by decide) kv h
    · exact keys_ne hc (by decide) kv h
  refine ⟨e ++ cpuEntry r.cpuQuota r.cpuPeriod ++ pidsEntry r.maxPids,
    by rw [ociResources, he]; rfl, by rw [hmemo]; exact hmem, ?_⟩
  rw [hcpu, hpids, hperiod]
  exact ⟨(cpuEntry_readBack hq).1, (cpuEntry_readBack hq).2, pidsEntry_readBack hp⟩

/-- The namespace names both maps know. -/
def knownNamespaces : List String := ["pid", "uts", "mnt", "ipc", "net", "user", "cgroup"]

theorem nsTypeOf_nsMap {ns : String} (h : ns ∈ knownNamespaces) :
    nsTypeOf (.ofString ((nsMap.lookup ns).getD ns)) = .ok (some ns) := by
  simp only [knownNamespaces, List.mem_cons, List.mem_singleton, List.not_mem_nil, or_false] at h
  rcases h with rfl | rfl | rfl | rfl | rfl | rfl | rfl <;> rfl

theorem namespaces_readBack :
    ∀ {nss : List String}, (∀ ns ∈ nss, ns ∈ knownNamespaces) →
      (nss.map fun ns => PyVal.ofString ((nsMap.lookup ns).getD ns)).mapM nsTypeOf =
        .ok (nss.map some)
  | [], _ => rfl
  | ns :: nss, h => by
    rw [List.map_cons, List.mapM_cons, nsTypeOf_nsMap (h ns (List.mem_cons_self _ _)),
      namespaces_readBack fun ns' h' => h ns' (List.mem_cons_of_mem _ h')]
    rfl

theorem joinPath_ofString (a : List Char) (s : String) :
    joinPath a (.ofString s) = .ok (Image.posixJoin a s.toList) := by
  simp [joinPath, PyVal.ofString]

theorem capsOf_capsDict (caps : PyVal) :
    capsOf (capsDict caps) = .ok (if caps.truthy then caps else .list []) := by
  have hd : capsOf (capsDict caps) = .ok (capSet (pyItems [("bounding", caps), ("effective", caps),
      ("inheritable", caps), ("permitted", caps)])) := rfl
  rw [hd]
  cases h : caps.truthy <;> simp [capSet, h, List.lookup_cons, String.reduceBEq]

/-- For every record whose environment is non-empty with no `=` in a key, whose namespaces are
among those both maps know, whose limits are positive or unset, and whose CPU period is the
default: `oci_to_container_config(parse_oci_config(generate_oci_config(c)), bundle)` gives a
record with `c`'s command, environment, working directory, namespaces and limits, its hostname
when that is truthy, and its capabilities when they are truthy (`[]` otherwise). It always has
`seccomp_enabled` false, since the dict has no `linux.seccomp`. -/
theorem generateOciConfig_roundTrip (g : Generated) (now : Decimal)
    (abspath : List Char → List Char) (bundle : List Char) (c : ContainerConfig)
    (henv : c.env.items ≠ []) (hkeys : ∀ kv ∈ c.env.items, '=' ∉ kv.1.toList)
    (hns : ∀ ns ∈ c.namespaces, ns ∈ knownNamespaces)
    (hq : PositiveOrNone c.resources.cpuQuota) (hm : PositiveOrNone c.resources.memoryMb)
    (hp : PositiveOrNone c.resources.maxPids) (hperiod : c.resources.cpuPeriod = .int 100000) :
    ∃ d o r, generateOciConfig c = .ok d ∧ parseOciConfig d = .ok o ∧
      toContainerConfig g now abspath bundle o = .ok r ∧
      r.command = c.command ∧ r.env = c.env ∧ r.workdir = c.workdir ∧
      r.hostname = (if c.hostname.truthy then c.hostname else .ofString g.name) ∧
      r.namespaces = c.namespaces ∧ r.resources = c.resources ∧
      r.capabilities = (if c.capabilities.truthy then c.capabilities else .list []) ∧
      r.seccompEnabled = false := by
  obtain ⟨res, hres, hmem, hquota, hper, hpids⟩ := ociResources_readBack hq hm hp hperiod
  refine ⟨ociDict c res, ?_⟩
  apply Exists.intro
  apply Exists.intro
  refine ⟨by rw [generateOciConfig, hres]; rfl, parseOciConfig_ociDict c res, ?_, ?_⟩
  · simp only [toContainerConfig, joinPath_ofString, envOf_envList henv hkeys, hmem,
      hquota, hper, hpids, namespaces_readBack hns, capsOf_capsDict, bind, Except.bind, pure,
      Except.pure]
    rfl
  · simp [ContainerConfig.postInit_eq, List.filterMap_map, Function.comp_def, PyVal.truthy]

/-- A record with the default namespaces and `seccomp_enabled`, the environment `A=1` and a
memory limit of 512 MiB. -/
def webRecord : ContainerConfig :=
  { id := "aaaaaaaaaaaa", name := "brave-lynx", hostname := .ofString "brave-lynx",
    command := .list [.ofString "/bin/sh"], env := ⟨[("A", "1")], by decide⟩,
    resources := { memoryMb := .int 512 }, createdAt := .finite ⟨false, 17, 8, by decide⟩ }

/-- `webRecord` has seccomp on; its OCI export reads back with the same environment and limits,
and with seccomp off. -/
theorem generateOciConfig_roundTrip_webRecord :
    webRecord.seccompEnabled = true ∧
    ∃ d o r, generateOciConfig webRecord = .ok d ∧ parseOciConfig d = .ok o ∧
      toContainerConfig ⟨"bbbbbbbbbbbb", "calm-otter", rfl, by decide⟩ ⟨false, 18, 8, by decide⟩ id
        "/b".toList o = .ok r ∧
      r.env = webRecord.env ∧ r.resources = webRecord.resources ∧ r.seccompEnabled = false := by
  obtain ⟨d, o, r, hd, ho, hr, -, he, -, -, -, hres, -, hs⟩ :=
    generateOciConfig_roundTrip ⟨"bbbbbbbbbbbb", "calm-otter", rfl, by decide⟩
      ⟨false, 18, 8, by decide⟩ id "/b".toList webRecord (by decide) (by decide) (by decide)
      (.inl rfl) (.inr ⟨512, by decide, rfl⟩) (.inl rfl) rfl
  exact ⟨rfl, d, o, r, hd, ho, hr, he, hres, hs⟩

end MiniDocker.Oci
