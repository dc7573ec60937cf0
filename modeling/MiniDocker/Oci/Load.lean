import MiniDocker.Image.Copy
import MiniDocker.Record.ConfigFile

/-! # Loading an OCI bundle

`parse_oci_config` reads the value `json.load` gives with `.get`, `in`, subscripts and `for`
loops, and keeps what each call returns; `validate_bundle` loads a bundle and checks its root
filesystem and `process.args`, and `cmd_run_oci` then loads it again and converts it with
`oci_to_container_config`. Each of these Python operations raises on a value of a type it does
not take (`AttributeError`, `TypeError`), and only `OCIError` is caught. So `validate_bundle`
raises on every JSON value that is not shaped as the loader expects, and a bundle it accepts
can still fail in the conversion, or give a command that is not a list of strings
(`cmdRunOci_validated`).
-/

namespace MiniDocker.Record.PyVal
set_option autoImplicit false

/-- `type(v).__name__`. -/
def typeName : PyVal → String
  | .none => "NoneType"
  | .bool _ => "bool"
  | .int _ => "int"
  | .float _ => "float"
  | .str _ => "str"
  | .list _ => "list"
  | .dict _ => "dict"

/-- `v.get(k, d)`: only a dict has the method. -/
def get (v : PyVal) (k : String) (d : PyVal) : Except String PyVal :=
  match v with
  | .dict kvs => .ok ((dictGet kvs k).getD d)
  | _ => .error ("AttributeError: '" ++ v.typeName ++ "' object has no attribute 'get'")

/-- `k` occurs in `s` at some place. -/
def occursIn (k : List (Fin 0x110000)) : List (Fin 0x110000) → Bool
  | [] => k.isEmpty
  | c :: s => k.isPrefixOf (c :: s) || occursIn k s

/-- `k in v` for a str `k`: a key of a dict, an item of a list, a substring of a str. -/
def contains (v : PyVal) (k : String) : Except String Bool :=
  match v with
  | .dict kvs => .ok (dictGet kvs k).isSome
  | .list xs => .ok (xs.any (pyEq (.ofString k)))
  | .str s => .ok (occursIn (pyStr k) s)
  | _ => .error ("TypeError: argument of type '" ++ v.typeName ++ "' is not iterable")

/-- `v[k]` for a str `k`. -/
def getItem (v : PyVal) (k : String) : Except String PyVal :=
  match v with
  | .dict kvs =>
    match dictGet kvs k with
    | .some x => .ok x
    | .none => .error ("KeyError: '" ++ k ++ "'")
  | .str _ => .error "TypeError: string indices must be integers, not 'str'"
  | .list _ => .error "TypeError: list indices must be integers or slices, not str"
  | _ => .error ("TypeError: '" ++ v.typeName ++ "' object is not subscriptable")

/-- The items `for x in v` visits: a list's items, a dict's keys, a str's characters. -/
def iter (v : PyVal) : Except String (List PyVal) :=
  match v with
  | .list xs => .ok xs
  | .dict kvs => .ok (kvs.map fun kv => .str kv.1)
  | .str s => .ok (s.map fun c => .str [c])
  | _ => .error ("TypeError: '" ++ v.typeName ++ "' object is not iterable")

@[simp] theorem get_dict (kvs : List (List (Fin 0x110000) × PyVal)) (k : String) (d : PyVal) :
    (PyVal.dict kvs).get k d = .ok ((dictGet kvs k).getD d) := rfl

@[simp] theorem contains_dict (kvs : List (List (Fin 0x110000) × PyVal)) (k : String) :
    (PyVal.dict kvs).contains k = .ok (dictGet kvs k).isSome := rfl

theorem getItem_dict {kvs : List (List (Fin 0x110000) × PyVal)} {k : String} {x : PyVal}
    (h : dictGet kvs k = some x) : (PyVal.dict kvs).getItem k = .ok x := by
  simp [getItem, h]

theorem occursIn_iff (k : List (Fin 0x110000)) : ∀ s, occursIn k s = true ↔ k <:+: s
  | [] => by simp [occursIn, List.isEmpty_iff]
  | c :: s => by
    rw [occursIn, Bool.or_eq_true, List.isPrefixOf_iff_prefix, occursIn_iff k s,
      List.infix_cons_iff]

end MiniDocker.Record.PyVal

namespace MiniDocker.Oci
open MiniDocker.Record MiniDocker.Image
set_option autoImplicit false

/-! ## The values the loader takes -/

/-- A dict. -/
def IsDict : PyVal → Prop
  | .dict _ => True
  | _ => False

/-- A str. -/
def IsStr : PyVal → Prop
  | .str _ => True
  | _ => False

/-- What a `for` loop calling `.get` on each item gets through: a list of dicts, or an empty
dict or str, which have no item. -/
def IsDictSeq : PyVal → Prop
  | .list xs => ∀ x ∈ xs, IsDict x
  | .dict kvs => kvs = []
  | .str s => s = []
  | _ => False

/-- The JSON values `parse_oci_config` takes: a dict whose `process` and `root` are dicts,
whose `mounts` is a sequence of dicts, and whose `linux` is a dict with a sequence of dicts
under `namespaces` and a dict under `resources`, each where present. -/
def Shaped (data : PyVal) : Prop :=
  ∃ kvs, data = .dict kvs ∧
    (∀ v, dictGet kvs "process" = some v → IsDict v) ∧
    (∀ v, dictGet kvs "root" = some v → IsDict v) ∧
    (∀ v, dictGet kvs "mounts" = some v → IsDictSeq v) ∧
    (∀ v, dictGet kvs "linux" = some v → ∃ lkvs, v = .dict lkvs ∧
      IsDictSeq ((dictGet lkvs "namespaces").getD (.list [])) ∧
      ∀ r, dictGet lkvs "resources" = some r → IsDict r)

/-- The root path the loader reads is a str: the default `rootfs`, or the `path` of the `root`
dict. -/
def RootPathStr (data : PyVal) : Prop :=
  ∀ kvs, data = .dict kvs → ∀ rkvs, dictGet kvs "root" = some (.dict rkvs) →
    IsStr ((dictGet rkvs "path").getD (.ofString "rootfs"))

/-! ## parse_oci_config -/

/-- The `PATH` entry of `OCIProcess`'s default environment. -/
def defaultPath : String := "PATH=/usr/local/sbin:/usr/local/bin:/usr/sbin:/usr/bin:/sbin:/bin"

/-- The fields of `OCIProcess` that `oci_to_container_config` reads, each the value the JSON
gave. -/
structure OCIProcess where
  args : PyVal := .list []
  env : PyVal := .list [.ofString defaultPath]
  cwd : PyVal := .ofString "/"
  capabilities : PyVal := .dict []

/-- `OCILinuxResources`. -/
structure OCILinuxResources where
  memory : PyVal := .dict []
  cpu : PyVal := .dict []
  pids : PyVal := .dict []

/-- The fields of `OCILinux` that are read: the `type` of each namespace, the resources and
`seccomp`. -/
structure OCILinux where
  namespaceTypes : List PyVal := []
  resources : OCILinuxResources := {}
  seccomp : PyVal := .dict []

/-- The fields of `OCIConfig` that are read. -/
structure OCIConfig where
  hostname : PyVal := .ofString ""
  process : OCIProcess := {}
  rootPath : PyVal := .ofString "rootfs"
  linux : OCILinux := {}

/-- `parse(data[k]) if k in data else dflt`: how `parse_oci_config` reads each section. -/
def sectionOf {α : Type} (data : PyVal) (k : String) (parse : PyVal → Except String α)
    (dflt : α) : Except String α := do
  if ← data.contains k then parse (← data.getItem k) else pure dflt

/-- The `OCIProcess(...)` call on `data["process"]`; the `.get` calls of the fields nobody
reads raise exactly when these do. -/
def parseProcess (proc : PyVal) : Except String OCIProcess := do
  let args ← proc.get "args" (.list [])
  let env ← proc.get "env" (.list [])
  let cwd ← proc.get "cwd" (.ofString "/")
  let capabilities ← proc.get "capabilities" (.dict [])
  return { args, env, cwd, capabilities }

/-- The `OCIRoot(...)` call on `data["root"]`: its path. -/
def parseRoot (root : PyVal) : Except String PyVal := root.get "path" (.ofString "rootfs")

/-- The `OCIMount(...)` list: every item of `data["mounts"]` must have `.get`. -/
def checkMounts (mounts : PyVal) : Except String Unit := do
  let _ ← (← mounts.iter).mapM fun m => m.get "destination" (.ofString "")

/-- The resources of `linux["resources"]`. -/
def parseResources (res : PyVal) : Except String OCILinuxResources := do
  let memory ← res.get "memory" (.dict [])
  let cpu ← res.get "cpu" (.dict [])
  let pids ← res.get "pids" (.dict [])
  return { memory, cpu, pids }

/-- The `OCILinux(...)` call on `data["linux"]`. -/
def parseLinux (linux : PyVal) : Except String OCILinux := do
  let namespaceTypes ← (← (← linux.get "namespaces" (.list [])).iter).mapM fun ns =>
    ns.get "type" (.ofString "")
  let resources ← sectionOf linux "resources" parseResources {}
  let seccomp ← linux.get "seccomp" (.dict [])
  return { namespaceTypes, resources, seccomp }

/-- `parse_oci_config(data)`: the config it builds, or the exception it raises. The `.get` of
`ociVersion` raises exactly when that of `hostname` does. -/
def parseOciConfig (data : PyVal) : Except String OCIConfig := do
  let hostname ← data.get "hostname" (.ofString "")
  let process ← sectionOf data "process" parseProcess {}
  let rootPath ← sectionOf data "root" parseRoot (.ofString "rootfs")
  sectionOf data "mounts" checkMounts ()
  let linux ← sectionOf data "linux" parseLinux {}
  return { hostname, process, rootPath, linux }

/-! ## What parse_oci_config accepts -/

theorem bind_ok_iff {ε α β : Type} {x : Except ε α} {f : α → Except ε β} :
    (∃ b, (x >>= f) = .ok b) ↔ ∃ a, x = .ok a ∧ ∃ b, f a = .ok b := by
  cases x <;> simp [bind, Except.bind]

@[simp] theorem exists_pure_ok {ε β : Type} (b : β) : ∃ b', (pure b : Except ε β) = .ok b' :=
  ⟨b, rfl⟩

theorem mapM_ok_iff {α β : Type} {f : α → Except String β} :
    ∀ {xs : List α}, (∃ ys, xs.mapM f = .ok ys) ↔ ∀ x ∈ xs, ∃ y, f x = .ok y
  | [] => by rw [List.mapM_nil]; simp [pure, Except.pure]
  | x :: xs => by
    rw [List.mapM_cons, List.forall_mem_cons, ← mapM_ok_iff]
    cases f x <;> cases xs.mapM f <;> simp [bind, Except.bind, pure, Except.pure]

theorem get_ok_iff {v : PyVal} {k : String} {d : PyVal} : (∃ x, v.get k d = .ok x) ↔ IsDict v := by
  cases v <;> simp [PyVal.get, IsDict]

theorem sectionOf_dict {α : Type} (kvs : List (List (Fin 0x110000) × PyVal)) (k : String)
    (parse : PyVal → Except String α) (dflt : α) :
    sectionOf (.dict kvs) k parse dflt = ((dictGet kvs k).map parse).getD (.ok dflt) := by
  cases h : dictGet kvs k with
  | none => simp [sectionOf, h, bind, Except.bind, pure, Except.pure]
  | some x => simp [sectionOf, h, PyVal.getItem_dict h, bind, Except.bind]

theorem sectionOf_ok_iff {α : Type} (kvs : List (List (Fin 0x110000) × PyVal)) (k : String)
    (parse : PyVal → Except String α) (dflt : α) :
    (∃ a, sectionOf (.dict kvs) k parse dflt = .ok a) ↔
      ∀ v, dictGet kvs k = some v → ∃ a, parse v = .ok a := by
  rw [sectionOf_dict]
  cases dictGet kvs k <;> simp

theorem parseProcess_ok_iff (v : PyVal) : (∃ p, parseProcess v = .ok p) ↔ IsDict v := by
  cases v <;> simp [parseProcess, PyVal.get, IsDict, bind, Except.bind, pure, Except.pure]

theorem parseResources_ok_iff (v : PyVal) : (∃ r, parseResources v = .ok r) ↔ IsDict v := by
  cases v <;> simp [parseResources, PyVal.get, IsDict, bind, Except.bind, pure, Except.pure]

theorem iter_mapM_get_ok_iff (v : PyVal) (k : String) (d : PyVal) :
    (∃ xs, v.iter = .ok xs ∧ ∃ ys, xs.mapM (fun x => x.get k d) = .ok ys) ↔ IsDictSeq v := by
  simp only [mapM_ok_iff, get_ok_iff]
  cases v with
  | list xs => simp [PyVal.iter, IsDictSeq]
  | dict kvs => cases kvs <;> simp [PyVal.iter, IsDictSeq, IsDict]
  | str s => cases s <;> simp [PyVal.iter, IsDictSeq, IsDict]
  | _ => simp [PyVal.iter, IsDictSeq]

theorem checkMounts_ok_iff (v : PyVal) : (∃ u, checkMounts v = .ok u) ↔ IsDictSeq v := by
  rw [← iter_mapM_get_ok_iff v "destination" (.ofString "")]
  simp only [checkMounts, bind_ok_iff, exists_pure_ok, and_true]

theorem parseLinux_ok_iff (v : PyVal) : (∃ l, parseLinux v = .ok l) ↔
    ∃ lkvs, v = .dict lkvs ∧ IsDictSeq ((dictGet lkvs "namespaces").getD (.list [])) ∧
      ∀ r, dictGet lkvs "resources" = some r → IsDict r := by
  cases v with
  | dict lkvs =>
    simp only [PyVal.dict.injEq, exists_eq_left']
    rw [← iter_mapM_get_ok_iff _ "type" (.ofString "")]
    simp only [← parseResources_ok_iff, parseLinux, bind_ok_iff, PyVal.get_dict, Except.ok.injEq,
      exists_eq_left', exists_pure_ok, exists_eq', and_true, sectionOf_ok_iff, ← and_assoc,
      exists_and_right, PyVal.dict.injEq]
  | _ => simp [parseLinux, PyVal.get, bind, Except.bind]

/-- `parse_oci_config` returns a config exactly on the shaped values; on every other value it
raises `AttributeError` or `TypeError`. -/
theorem parseOciConfig_ok_iff (data : PyVal) : (∃ o, parseOciConfig data = .ok o) ↔ Shaped data := by
  cases data with
  | dict kvs =>
    simp only [parseOciConfig, Shaped, bind_ok_iff, PyVal.get_dict, Except.ok.injEq,
      exists_eq_left', exists_pure_ok, and_true, exists_and_right, sectionOf_ok_iff,
      parseProcess_ok_iff, parseRoot, get_ok_iff, checkMounts_ok_iff, parseLinux_ok_iff,
      PyVal.dict.injEq]
  | _ => simp [parseOciConfig, Shaped, PyVal.get, bind, Except.bind]

/-! ## load_oci_config and validate_bundle -/

/-- An exception of the OCI code: an `OCIError`, which `validate_bundle` and `cmd_run_oci`
catch, or one of Python's own, which nothing there catches. -/
inductive Raised where
  | ociError (msg : String)
  | other (msg : String)

/-- A bundle as the OCI code sees it: its path, which paths are directories, and the text of
its `config.json` when that exists. -/
structure Bundle where
  path : String
  isDir : List Char → Bool
  configText : Option (List Char)

/-- `load_oci_config(bundle_path)`. -/
def loadOciConfig (b : Bundle) : Except Raised OCIConfig :=
  match b.configText with
  | none => .error (.ociError ("config.json not found in bundle: " ++ b.path))
  | some text =>
    match load text with
    | .error e => .error (.ociError ("Invalid JSON in config.json: " ++ e))
    | .ok data => (parseOciConfig data).mapError .other

/-- `os.path.join(a, p)` for a value `p` of the JSON: only a str joins. -/
def joinPath (a : List Char) (p : PyVal) : Except String (List Char) :=
  match p with
  | .str s => .ok (posixJoin a (textOf s).toList)
  | _ => .error ("TypeError: join() argument must be str, bytes, or os.PathLike object, not '" ++
      p.typeName ++ "'")

/-- `validate_bundle(bundle_path)`: the errors it returns, or the exception it lets through. -/
def validateBundle (b : Bundle) : Except String (List String) :=
  if !b.isDir b.path.toList then .ok ["Bundle path is not a directory: " ++ b.path] else
  if b.configText.isNone then .ok ["config.json not found in bundle"] else
  match loadOciConfig b with
  | .error (.ociError e) => .ok [e]
  | .error (.other e) => .error e
  | .ok o => do
    let rootfsPath ← joinPath b.path.toList o.rootPath
    return (if b.isDir rootfsPath then [] else ["Root filesystem not found: " ++ String.mk rootfsPath]) ++
      (if o.process.args.truthy then [] else ["Process args not specified"])

/-! ## oci_to_container_config -/

/-- One pass of the `env` loop: an entry holding `=` is split at its first `=`, and only a str
has `split`. -/
def envEntry (d : StrDict) (e : PyVal) : Except String StrDict := do
  if ← e.contains "=" then
    match e with
    | .str s =>
      let kv := (textOf s).toList.span (· ≠ '=')
      pure (d.set (String.mk kv.1) (String.mk (kv.2.drop 1)))
    | _ => .error ("AttributeError: '" ++ e.typeName ++ "' object has no attribute 'split'")
  else pure d

/-- The `env` dict built from `process.env`. -/
def envOf (env : PyVal) : Except String StrDict := do
  (← env.iter).foldlM envEntry .empty

/-- One limit of `oci_to_container_config`: when the resource value is truthy and holds `key`,
its item passed through `f`, else the default. -/
def resourceLimit (v : PyVal) (key : String) (dflt : PyVal) (f : PyVal → Except String PyVal) :
    Except String PyVal :=
  if !v.truthy then .ok dflt else do
  if ← v.contains key then f (← v.getItem key) else pure dflt

/-- `ns_type_map[ns.type]` when `ns.type in ns_type_map`: a list or a dict is unhashable. -/
def nsTypeOf (t : PyVal) : Except String (Option String) :=
  match t with
  | .str s => .ok (nsTypeMap.lookup (textOf s))
  | .list _ | .dict _ => .error ("TypeError: unhashable type: '" ++ t.typeName ++ "'")
  | _ => .ok none

/-- The capability list: `get("bounding") or get("permitted") or []` of a truthy value, which
must be a dict. -/
def capsOf (caps : PyVal) : Except String PyVal :=
  if !caps.truthy then .ok (.list []) else
  match caps with
  | .dict kvs => .ok (capSet kvs)
  | _ => .error ("AttributeError: '" ++ caps.typeName ++ "' object has no attribute 'get'")

/-- `oci_to_container_config(oci_config, bundle_path)`, which `OCIRuntime.to_container_config`
calls; `abspath` is `os.path.abspath` in the working directory of the process. -/
def toContainerConfig (g : Generated) (now : Decimal) (abspath : List Char → List Char)
    (bundle : List Char) (o : OCIConfig) : Except String ContainerConfig := do
  let joined ← joinPath bundle o.rootPath
  let rootfs := if joined.head? = some '/' then joined else abspath joined
  let env ← envOf o.process.env
  let memoryMb ← resourceLimit o.linux.resources.memory "limit" .none (·.floorDiv mib)
  let cpuQuota ← resourceLimit o.linux.resources.cpu "quota" .none .ok
  let cpuPeriod ← resourceLimit o.linux.resources.cpu "period" (.int 100000) .ok
  let maxPids ← resourceLimit o.linux.resources.pids "limit" .none .ok
  let namespaces ← o.linux.namespaceTypes.mapM nsTypeOf
  let capabilities ← capsOf o.process.capabilities
  return ContainerConfig.postInit g
    { rootfs := String.mk rootfs, command := o.process.args, hostname := o.hostname, env,
      workdir := o.process.cwd, resources := { cpuQuota, cpuPeriod, memoryMb, maxPids },
      namespaces := namespaces.filterMap id, capabilities,
      seccompEnabled := o.linux.seccomp.truthy, createdAt := .finite now }

/-- `cmd_run_oci` up to saving the record: the errors it prints (`.inl`), the record it saves
(`.inr`), or the exception that escapes. An `OCIError` of the second load is printed like the
errors of `validate`. -/
def cmdRunOci (g : Generated) (now : Decimal) (abspath : List Char → List Char) (b : Bundle)
    (rootless : Bool) (name : Option String) : Except String (List String ⊕ ContainerConfig) := do
  let errs ← validateBundle b
  if errs ≠ [] then pure (.inl errs) else
  match loadOciConfig b with
  | .error (.ociError e) => pure (.inl [e])
  | .error (.other e) => throw e
  | .ok o =>
    let c ← toContainerConfig g now abspath b.path.toList o
    let c := { c with rootless }
    pure (.inr (match name with
      | some n => if n = "" then c else { c with name := n }
      | none => c))

/-! ## What the conversion takes -/

/-- An item of `process.env` the loop gets through: a str, or a list or a dict that does not
hold `=`. -/
def EnvItemOk : PyVal → Prop
  | .str _ => True
  | .list xs => PyVal.ofString "=" ∉ xs
  | .dict kvs => dictGet kvs "=" = none
  | _ => False

/-- The values of `process.env` the loop gets through: a dict or a str, whose items are strs,
or a list of such items. -/
def EnvOk : PyVal → Prop
  | .list xs => ∀ x ∈ xs, EnvItemOk x
  | .dict _ => True
  | .str _ => True
  | _ => False

/-- A resource value whose `key` is read without an exception: a dict whose item under `key`
passes `ok`, a list or a str that does not hold `key`, or a falsy value of another type. -/
def LimitOk (key : String) (ok : PyVal → Prop) : PyVal → Prop
  | .dict kvs => ∀ x, dictGet kvs key = some x → ok x
  | .list xs => PyVal.ofString key ∉ xs
  | .str s => ¬ pyStr key <:+: s
  | v => v.truthy = false

/-- A number, which `// (1024 * 1024)` takes. -/
def IsNumber : PyVal → Prop
  | .bool _ => True
  | .int _ => True
  | .float _ => True
  | _ => False

/-- A value `in` can look up in a dict: not a list or a dict. -/
def Hashable : PyVal → Prop
  | .list _ => False
  | .dict _ => False
  | _ => True

/-- The configs `oci_to_container_config` converts without an exception. -/
def Convertible (o : OCIConfig) : Prop :=
  IsStr o.rootPath ∧ EnvOk o.process.env ∧
    LimitOk "limit" IsNumber o.linux.resources.memory ∧
    LimitOk "quota" (fun _ => True) o.linux.resources.cpu ∧
    LimitOk "period" (fun _ => True) o.linux.resources.cpu ∧
    LimitOk "limit" (fun _ => True) o.linux.resources.pids ∧
    (∀ t ∈ o.linux.namespaceTypes, Hashable t) ∧
    (o.process.capabilities.truthy = false ∨ IsDict o.process.capabilities)

theorem bind_eq_ok {ε α β : Type} {x : Except ε α} {f : α → Except ε β} {b : β} :
    (x >>= f) = .ok b ↔ ∃ a, x = .ok a ∧ f a = .ok b := by
  cases x <;> simp [bind, Except.bind]

theorem pyEq_ofString_iff (k : String) (x : PyVal) :
    PyVal.pyEq (.ofString k) x = true ↔ x = .ofString k := by
  cases x with
  | str s =>
    show (pyStr k == s) = true ↔ PyVal.str s = PyVal.str (pyStr k)
    rw [beq_iff_eq, PyVal.str.injEq, eq_comm]
  | _ => exact ⟨fun h => absurd h Bool.false_ne_true, fun h => nomatch h⟩

theorem any_pyEq_ofString (k : String) (xs : List PyVal) :
    xs.any (PyVal.pyEq (.ofString k)) = true ↔ PyVal.ofString k ∈ xs := by
  simp [List.any_eq_true, pyEq_ofString_iff]

theorem joinPath_ok_iff (a : List Char) (v : PyVal) : (∃ p, joinPath a v = .ok p) ↔ IsStr v := by
  cases v <;> simp [joinPath, IsStr]

theorem envEntry_ok_iff (d : StrDict) (e : PyVal) : (∃ d', envEntry d e = .ok d') ↔ EnvItemOk e := by
  cases e with
  | str s =>
    simp only [envEntry, PyVal.contains, EnvItemOk, iff_true, bind, Except.bind]
    split <;> exact ⟨_, rfl⟩
  | list xs =>
    simp only [envEntry, PyVal.contains, EnvItemOk, bind, Except.bind, ← any_pyEq_ofString]
    cases xs.any (PyVal.pyEq (.ofString "=")) <;> simp [pure, Except.pure]
  | dict kvs =>
    simp only [envEntry, PyVal.contains, EnvItemOk, bind, Except.bind]
    cases dictGet kvs "=" <;> simp [pure, Except.pure]
  | _ => simp [envEntry, PyVal.contains, EnvItemOk, bind, Except.bind]

theorem foldlM_envEntry_ok_iff :
    ∀ (xs : List PyVal) (d : StrDict), (∃ d', xs.foldlM envEntry d = .ok d') ↔ ∀ x ∈ xs, EnvItemOk x
  | [], d => by simp [pure, Except.pure]
  | x :: xs, d => by
    simp only [List.foldlM_cons, bind_ok_iff, foldlM_envEntry_ok_iff xs, exists_and_right,
      envEntry_ok_iff, List.forall_mem_cons]

theorem envOf_ok_iff (env : PyVal) : (∃ d, envOf env = .ok d) ↔ EnvOk env := by
  cases env with
  | list xs => simp [envOf, PyVal.iter, EnvOk, bind_ok_iff, foldlM_envEntry_ok_iff]
  | dict kvs =>
    simp [envOf, PyVal.iter, EnvOk, bind_ok_iff, foldlM_envEntry_ok_iff]
    rintro _ _ _ _ rfl
    trivial
  | str s => simp [envOf, PyVal.iter, EnvOk, bind_ok_iff, foldlM_envEntry_ok_iff, EnvItemOk]
  | _ => simp [envOf, PyVal.iter, EnvOk, bind, Except.bind]

theorem floorDiv_ok_iff (v : PyVal) : (∃ y, v.floorDiv mib = .ok y) ↔ IsNumber v := by
  cases v with
  | float x => cases x <;> simp [PyVal.floorDiv, IsNumber]
  | _ => simp [PyVal.floorDiv, IsNumber]

section resourceLimit

variable {key : String} (hk : key ≠ "") (dflt : PyVal) {f : PyVal → Except String PyVal}
  {ok : PyVal → Prop} (hf : ∀ x, (∃ y, f x = .ok y) ↔ ok x)
include hk hf

theorem resourceLimit_ok_iff (v : PyVal) :
    (∃ r, resourceLimit v key dflt f = .ok r) ↔ LimitOk key ok v := by
  have hne : pyStr key ≠ [] := fun h => hk (String.ext (by simpa [pyStr] using h))
  cases v with
  | dict kvs =>
    cases kvs with
    | nil => simp [resourceLimit, LimitOk, PyVal.truthy, dictGet]
    | cons kv kvs =>
      simp only [resourceLimit, PyVal.truthy, LimitOk, PyVal.contains, bind, Except.bind]
      cases h : dictGet (kv :: kvs) key <;> simp [PyVal.getItem, h, hf, pure, Except.pure]
  | list xs =>
    cases xs with
    | nil => simp [resourceLimit, LimitOk, PyVal.truthy]
    | cons x xs =>
      simp only [resourceLimit, PyVal.truthy, LimitOk, PyVal.contains, bind, Except.bind,
        ← any_pyEq_ofString]
      cases (x :: xs).any (PyVal.pyEq (.ofString key)) <;> simp [PyVal.getItem, pure, Except.pure]
  | str s =>
    cases s with
    | nil => simp [resourceLimit, LimitOk, PyVal.truthy, List.infix_nil, hne]
    | cons c s =>
      simp only [resourceLimit, PyVal.truthy, LimitOk, PyVal.contains, bind, Except.bind,
        ← PyVal.occursIn_iff]
      cases PyVal.occursIn (pyStr key) (c :: s) <;> simp [PyVal.getItem, pure, Except.pure]
  | _ =>
    simp only [resourceLimit, LimitOk]
    split <;> simp_all [PyVal.contains, bind, Except.bind]

end resourceLimit

theorem nsTypeOf_ok_iff (t : PyVal) : (∃ r, nsTypeOf t = .ok r) ↔ Hashable t := by
  cases t <;> simp [nsTypeOf, Hashable]

theorem capsOf_ok_iff (c : PyVal) : (∃ r, capsOf c = .ok r) ↔ c.truthy = false ∨ IsDict c := by
  cases c <;> simp only [capsOf, IsDict, or_false, or_true] <;> split <;> simp_all

/-- `oci_to_container_config` returns a record exactly on the convertible configs. -/
theorem toContainerConfig_ok_iff (g : Generated) (now : Decimal) (abspath : List Char → List Char)
    (bundle : List Char) (o : OCIConfig) :
    (∃ c, toContainerConfig g now abspath bundle o = .ok c) ↔ Convertible o := by
  have hid : ∀ x : PyVal, (∃ y, (Except.ok x : Except String PyVal) = .ok y) ↔ True :=
    fun x => ⟨fun _ => trivial, fun _ => ⟨x, rfl⟩⟩
  simp only [toContainerConfig, bind_ok_iff, exists_pure_ok, and_true, exists_and_right,
    joinPath_ok_iff, envOf_ok_iff, mapM_ok_iff, nsTypeOf_ok_iff, capsOf_ok_iff, Convertible,
    resourceLimit_ok_iff (show "limit" ≠ "" by decide) _ floorDiv_ok_iff,
    resourceLimit_ok_iff (show "limit" ≠ "" by decide) _ hid,
    resourceLimit_ok_iff (show "quota" ≠ "" by decide) _ hid,
    resourceLimit_ok_iff (show "period" ≠ "" by decide) _ hid]

theorem toContainerConfig_command {g : Generated} {now : Decimal} {abspath : List Char → List Char}
    {bundle : List Char} {o : OCIConfig} {c : ContainerConfig}
    (h : toContainerConfig g now abspath bundle o = .ok c) : c.command = o.process.args := by
  simp only [toContainerConfig, bind_eq_ok] at h
  obtain ⟨_, -, _, -, _, -, _, -, _, -, _, -, _, -, _, -, h⟩ := h
  cases h
  rw [ContainerConfig.postInit_eq]

/-! ## validate_bundle and cmd_run_oci -/

theorem parseOciConfig_root {data : PyVal} {o : OCIConfig} (h : parseOciConfig data = .ok o) :
    sectionOf data "root" parseRoot (.ofString "rootfs") = .ok o.rootPath := by
  simp only [parseOciConfig, bind_eq_ok, pure, Except.pure, Except.ok.injEq] at h
  obtain ⟨_, -, _, -, _, hr, _, -, _, -, rfl⟩ := h
  exact hr

theorem rootPath_isStr_iff {data : PyVal} {o : OCIConfig} (h : parseOciConfig data = .ok o) :
    IsStr o.rootPath ↔ RootPathStr data := by
  obtain ⟨kvs, rfl, -⟩ := (parseOciConfig_ok_iff data).1 ⟨o, h⟩
  have hr := parseOciConfig_root h
  rw [sectionOf_dict] at hr
  simp only [RootPathStr, PyVal.dict.injEq, forall_eq']
  cases hk : dictGet kvs "root" with
  | none =>
    simp only [hk, Option.map_none', Option.getD_none, Except.ok.injEq] at hr
    simp [← hr, IsStr, PyVal.ofString]
  | some v =>
    simp only [hk, Option.map_some', Option.getD_some] at hr
    cases v with
    | dict rkvs =>
      simp only [parseRoot, PyVal.get_dict, Except.ok.injEq] at hr
      simp [hr]
    | _ => simp [parseRoot, PyVal.get] at hr

theorem loadOciConfig_eq {b : Bundle} {text : List Char} {data : PyVal}
    (htext : b.configText = some text) (hdata : load text = .ok data) :
    loadOciConfig b = (parseOciConfig data).mapError .other := by
  simp [loadOciConfig, htext, hdata]

/-- `validate_bundle` returns a list exactly when the bundle is no directory, or its JSON value
is shaped as the loader expects with a str as root path; on every other value it raises. -/
theorem validateBundle_ok_iff {b : Bundle} {text : List Char} {data : PyVal}
    (htext : b.configText = some text) (hdata : load text = .ok data) :
    (∃ errs, validateBundle b = .ok errs) ↔
      b.isDir b.path.toList = false ∨ Shaped data ∧ RootPathStr data := by
  cases hd : b.isDir b.path.toList
  · simp only [validateBundle, hd]
    simp
  simp only [validateBundle, hd, htext, loadOciConfig_eq htext hdata, Bool.not_true,
    Option.isNone_some, Bool.false_eq_true, if_false, Bool.true_eq_false, false_or,
    ← parseOciConfig_ok_iff]
  cases hp : parseOciConfig data with
  | error e => simp [Except.mapError]
  | ok o =>
    simp only [Except.mapError, bind_ok_iff, exists_pure_ok, and_true, joinPath_ok_iff,
      rootPath_isStr_iff hp, Except.ok.injEq, exists_eq', true_and]

theorem validateBundle_nil {b : Bundle} {text : List Char} {data : PyVal}
    (htext : b.configText = some text) (hdata : load text = .ok data)
    (hv : validateBundle b = .ok []) :
    ∃ o, parseOciConfig data = .ok o ∧ o.process.args.truthy = true := by
  cases hd : b.isDir b.path.toList
  · simp only [validateBundle, hd] at hv
    simp at hv
  simp only [validateBundle, hd, htext, loadOciConfig_eq htext hdata, Bool.not_true,
    Option.isNone_some, Bool.false_eq_true, if_false] at hv
  cases hp : parseOciConfig data with
  | error e =>
    rw [hp] at hv
    simp [Except.mapError] at hv
  | ok o =>
    rw [hp] at hv
    simp only [Except.mapError, bind_eq_ok, pure, Except.pure, Except.ok.injEq,
      List.append_eq_nil] at hv
    obtain ⟨_, -, -, h⟩ := hv
    refine ⟨o, rfl, ?_⟩
    cases ha : o.process.args.truthy
    · simp [ha] at h
    · rfl

/-- For every bundle whose `config.json` holds a JSON value: `validate_bundle` returns a list
exactly on the bundles that are no directory and on the values shaped as the loader expects,
with a str as root path, and raises on every other value. When the list is empty, `cmd_run_oci`
loads the value `validate` parsed, whose `process.args` is truthy; it saves a record exactly
when the config is convertible (an exception escapes otherwise), and the record's command is
`process.args` as the JSON gave it. -/
theorem cmdRunOci_validated (g : Generated) (now : Decimal) (abspath : List Char → List Char)
    (b : Bundle) (rootless : Bool) (name : Option String) {text : List Char} {data : PyVal}
    (htext : b.configText = some text) (hdata : load text = .ok data) :
    ((∃ errs, validateBundle b = .ok errs) ↔
      b.isDir b.path.toList = false ∨ Shaped data ∧ RootPathStr data) ∧
    (validateBundle b = .ok [] → ∃ o, loadOciConfig b = .ok o ∧ parseOciConfig data = .ok o ∧
      o.process.args.truthy = true ∧
      ((∃ c, cmdRunOci g now abspath b rootless name = .ok (.inr c)) ↔ Convertible o) ∧
      ∀ r, cmdRunOci g now abspath b rootless name = .ok r →
        ∃ c, r = .inr c ∧ c.command = o.process.args) := by
  refine ⟨validateBundle_ok_iff htext hdata, fun hv => ?_⟩
  obtain ⟨o, hp, ha⟩ := validateBundle_nil htext hdata hv
  have hl : loadOciConfig b = .ok o := by rw [loadOciConfig_eq htext hdata, hp]; rfl
  have hrun : cmdRunOci g now abspath b rootless name =
      (toContainerConfig g now abspath b.path.toList o).map fun c =>
        .inr (match name with
          | some n => if n = "" then { c with rootless } else { c with rootless, name := n }
          | none => { c with rootless }) := by
    simp only [cmdRunOci, hv, hl, bind, Except.bind, ne_eq, not_true_eq_false, if_false]
    cases toContainerConfig g now abspath b.path.toList o <;> rfl
  refine ⟨o, hl, hp, ha, ?_, fun r hr => ?_⟩
  · rw [← toContainerConfig_ok_iff g now abspath b.path.toList, hrun]
    cases toContainerConfig g now abspath b.path.toList o <;> simp [Except.map]
  · rw [hrun] at hr
    cases ht : toContainerConfig g now abspath b.path.toList o with
    | error e =>
      rw [ht] at hr
      simp [Except.map] at hr
    | ok c =>
      rw [ht] at hr
      simp only [Except.map, Except.ok.injEq] at hr
      refine ⟨_, hr.symm, ?_⟩
      rw [← toContainerConfig_command ht]
      split <;> (try split) <;> rfl

/-- A bundle at `/b` with its root filesystem at `/b/rootfs`, whose `config.json` holds
`text`. -/
def dirBundle (text : String) : Bundle where
  path := "/b"
  isDir := fun p => p == "/b".toList || p == "/b/rootfs".toList
  configText := some text.toList

/-- The configuration `{"process": {"args": "sh"}}`. -/
def shArgsConfig : String := "\x7b\"process\": \x7b\"args\": \"sh\"\x7d\x7d"

/-- `{"process": {"args": "sh"}}` in a bundle with a root filesystem: `validate` returns no
error, and `cmd_run_oci` saves a record whose command is the str `sh`. A bundle whose
`config.json` holds a list makes `validate` raise. -/
theorem cmdRunOci_validated_shArgs :
    validateBundle (dirBundle shArgsConfig) = .ok [] ∧
    (∃ c, cmdRunOci ⟨"aaaaaaaaaaaa", "brave-lynx", rfl, by decide⟩ ⟨false, 17, 8, by decide⟩ id
      (dirBundle shArgsConfig) false none = .ok (.inr c) ∧ c.command = .ofString "sh") ∧
    ¬ ∃ errs, validateBundle (dirBundle "[]") = .ok errs := by
  have hv : validateBundle (dirBundle shArgsConfig) = .ok [] := rfl
  obtain ⟨o, -, hp, -, hconv, hcmd⟩ := (cmdRunOci_validated ⟨"aaaaaaaaaaaa", "brave-lynx", rfl, by decide⟩
    ⟨false, 17, 8, by decide⟩ id (dirBundle shArgsConfig) false none rfl
    (show load shArgsConfig.toList =
      .ok (.dict [(pyStr "process", .dict [(pyStr "args", .ofString "sh")])]) from rfl)).2 hv
  have ho : parseOciConfig (.dict [(pyStr "process", .dict [(pyStr "args", .ofString "sh")])]) =
      .ok { process := { args := .ofString "sh", env := .list [] } } := rfl
  cases ho.symm.trans hp
  obtain ⟨c, hc⟩ := hconv.2 (by simp [Convertible, IsStr, EnvOk, LimitOk, IsDict, PyVal.ofString, dictGet])
  obtain ⟨c', he, hcom⟩ := hcmd _ hc
  cases he
  refine ⟨hv, ⟨c, hc, hcom⟩, fun h => ?_⟩
  rcases (cmdRunOci_validated ⟨"aaaaaaaaaaaa", "brave-lynx", rfl, by decide⟩ ⟨false, 17, 8, by decide⟩
    id (dirBundle "[]") false none rfl (show load "[]".toList = .ok (.list []) from rfl)).1.1 h
    with h | ⟨⟨_, h, -⟩, -⟩ <;> cases h

end MiniDocker.Oci
