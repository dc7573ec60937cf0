import MiniDocker.Launch.Protocol
import MiniDocker.Seccomp.Filter
import MiniDocker.Record.Value

/-!
# What the container process has at `execvp`

The child of `Container.start` (`Container._run_container`) and the child of
`Container.exec`, each step up to the `execv` of the command, against a host that may make
any of their system calls fail (`RunFailures`, `ExecFailures`). What the record's own values
decide is computed from them: a `hostname` `os.environ` will not take, an environment name
`putenv` refuses, a `command` that is not a list of strings. A failure inside one of the
source's `try ... except` blocks that catches it is logged and skipped; any other ends the
process (`Except.error`): `_run_container` re-raises it, and the exec child calls
`os._exit(1)`. The result on success is the `Isolation` the command runs with.
`runContainer_aborts_iff` and `execContainer_aborts_iff` say exactly when each child ends early,
`runContainer_ok` and `execContainer_ok` what it has when it reaches `execv`, and
`isolation_at_exec` puts the four together.

Left out, because nothing there can end the process or change its isolation: the cgroup,
overlay, `/dev` and network set-up, whose exceptions are all caught; closing the two pipe
ends `start` passes, which are open; and the warnings written to the log, whose `OSError`s
`ContainerLogger` catches (their exception texts are taken to encode as UTF-8).
-/

namespace MiniDocker.Launch

set_option autoImplicit false

open MiniDocker.Seccomp MiniDocker.Record

/-! ## What the `os` calls accept -/

/-- Whether `os.fsencode` takes a `str` to bytes an `os` call accepts: UTF-8 with
`surrogateescape` encodes every code point but the surrogates outside U+DC80..U+DCFF, and
every call refuses an embedded NUL. -/
def osText (s : List (Fin 0x110000)) : Bool :=
  s.all fun c => c.val != 0 &&
    (!(isHighSurrogate c.val || isLowSurrogate c.val) || (0xdc80 ≤ c.val && c.val < 0xdd00))

/-- A value an `os` call takes as a string: a `str` (`TypeError` otherwise) `osText`
accepts. -/
def osArg : PyVal → Bool
  | .str s => osText s
  | _ => false

/-- Whether `name.encode("utf-8")` returns: a `str` (`AttributeError` otherwise) with no
surrogate, which the strict codec refuses. -/
def encodesUtf8 : PyVal → Bool
  | .str s => s.all fun c => !(isHighSurrogate c.val || isLowSurrogate c.val)
  | _ => false

/-- Whether `os.chdir(path)` gets as far as the system call: a `str` `osText` accepts, or an
`int` (a `bool` is one) that fits a C `int` descriptor. Anything else raises `TypeError`,
`ValueError` or `OverflowError`, never `OSError`. -/
def chdirAccepts : PyVal → Bool
  | .str s => osText s
  | .int i => -2 ^ 31 ≤ i && i < 2 ^ 31
  | .bool _ => true
  | _ => false

/-- Whether `os.environ[key] = value` succeeds for two strings: `putenv` refuses an empty name
(`EINVAL`), a name holding `=`, and a NUL on either side. -/
def envSettable (kv : String × String) : Bool :=
  !kv.1.isEmpty && !kv.1.toList.contains '=' && !kv.1.toList.contains '\x00' &&
    !kv.2.toList.contains '\x00'

/-- Whether an element of `config.command` passes both the `Starting:` line, which the log
file (opened with the strict UTF-8 codec) must encode, and `execv`, which refuses a NUL. -/
def argText : PyVal → Bool
  | .str s => encodesUtf8 (.str s) && osText s
  | _ => false

/-- Whether `' '.join(command)`, `command[0]` and `os.execvp(command[0], command)` get as far
as `execv`: only a list of strings joins, indexes and is taken as an argument vector, which
must not be empty and whose first element must not be empty. -/
def execArgs : PyVal → Bool
  | .list (x :: xs) => x.truthy && argText x && xs.all argText
  | _ => false

/-- The ids `os.setgid` and `os.setuid` can set: the converter raises `OverflowError` outside
-1 .. 2^32 - 1, and the kernel refuses the id -1 (2^32 - 1). -/
def idAccepts (n : Int) : Bool := 0 ≤ n && n < 2 ^ 32 - 1

/-- Python's `a or b`. -/
def pyOr (a b : PyVal) : PyVal := if a.truthy then a else b

/-- A statement that raises when `b` holds, outside any `try` that catches it. -/
def raiseIf (b : Bool) (e : String) : Except String Unit := if b then .error e else .ok ()

@[simp] theorem raiseIf_bind {α : Type} (b : Bool) (e : String) (k : Unit → Except String α) :
    raiseIf b e >>= k = if b then .error e else k () := by
  cases b <;> rfl

theorem raiseIf_bind_error {α : Type} (b : Bool) (m : String) (k : Unit → Except String α) :
    (∃ e, (raiseIf b m >>= k) = .error e) ↔ b ∨ ∃ e, k () = .error e := by
  cases b <;> simp

theorem raiseIf_bind_ok {α : Type} (b : Bool) (m : String) (k : Unit → Except String α) (a : α) :
    (raiseIf b m >>= k) = .ok a ↔ b = false ∧ k () = .ok a := by
  cases b <;> simp

@[simp] theorem pure_ne_error {α : Type} (a : α) (e : String) :
    (pure a : Except String α) ≠ .error e := nofun

@[simp] theorem error_bind {α β : Type} (e : String) (k : α → Except String β) :
    (Except.error e >>= k) = .error e := rfl

@[simp] theorem pure_eq_ok {α : Type} (a b : α) : (pure a : Except String α) = .ok b ↔ a = b :=
  ⟨Except.ok.inj, congrArg _⟩

/-! ## The two children -/

/-- The record fields `_run_container` reads, on top of those `start` reads. -/
structure RunConfig extends LaunchConfig where
  podId : Option String
  hostname : PyVal
  /-- `config.capabilities`; `_run_container` never reads it. -/
  capabilities : PyVal
  workdir : PyVal
  /-- `config.env.items()`. -/
  env : List (String × String)
  command : PyVal

/-- Which of the host calls of `_run_container` fail. -/
structure RunFailures where
  /-- `ContainerLogger(config.id)` cannot create the container directory or open its log. -/
  logOpen : Bool
  /-- Reading the pod's record raises (an undecodable `config.json`, or a failed rewrite of it
  when the infra process is gone). -/
  podConfig : Bool
  /-- `os.open` of the pod's namespace file. -/
  nsOpen : String → Bool
  setns : String → Bool
  unshare : Bool
  sethostname : Bool
  pivotRoot : Bool
  /-- `setup_chroot_filesystem`, the fallback of a failed `pivot_root`. -/
  chrootSetup : Bool
  /-- `os.chdir(config.workdir)` raises `OSError`. -/
  chdir : Bool
  /-- `os.chdir("/")`, its fallback. -/
  chdirRoot : Bool
  capset : Bool
  noNewPrivs : Bool
  /-- `prctl(PR_SET_SECCOMP, SECCOMP_MODE_FILTER, ...)`. -/
  seccomp : Bool
  /-- `execv` fails on every candidate path of the command. -/
  execvp : Bool

/-- The isolation the command runs with. -/
structure Isolation where
  /-- Namespace types entered with `setns`. -/
  joined : List String
  /-- Namespace types `unshare` created. -/
  unshared : List String
  /-- The effective and permitted set `capset` installed; `none` leaves the inherited one. -/
  caps : Option (List Nat)
  noNewPrivs : Bool
  /-- The seccomp program installed. -/
  filter : Option (List UInt8)
  deriving DecidableEq, Repr

/-- The keys of `NAMESPACE_FLAGS`. -/
def namespaceFlags : List String := ["mnt", "uts", "ipc", "user", "pid", "net", "cgroup"]

/-- `DEFAULT_CONTAINER_CAPS`: CHOWN, DAC_OVERRIDE, FOWNER, FSETID, KILL, SETGID, SETUID,
SETPCAP, NET_BIND_SERVICE, SYS_CHROOT, MKNOD, AUDIT_WRITE, SETFCAP. -/
def defaultContainerCaps : List Nat := [0, 1, 3, 4, 5, 6, 7, 8, 10, 18, 27, 29, 31]

/-- `create_namespaces(namespaces, hostname, rootless)`: one `unshare` with the flags of the
known types, then, for a truthy hostname and `uts` among them, `sethostname`, which raises
also when the hostname does not encode; only a rootless start survives that. -/
def createNamespaces (namespaces : List String) (hostname : PyVal) (rootless : Bool)
    (f : RunFailures) : Except String (List String) := do
  raiseIf f.unshare "unshare failed"
  raiseIf (hostname.truthy && "uts" ∈ namespaces &&
    (f.sethostname || !encodesUtf8 hostname) && !rootless) "sethostname failed"
  return namespaces.filter (· ∈ namespaceFlags)

/-- `Capabilities().apply()` in its `try`: the default set, whatever the record asks for. -/
def applyCapabilities (f : RunFailures) : Option (List Nat) :=
  if f.capset then none else some defaultContainerCaps

/-- The names `Seccomp().apply()` allows: the whitelist less the forbidden names. -/
def seccompAllowed : List String :=
  allowedSyscallsWhitelist.filter (· ∉ absolutelyForbiddenSyscalls)

/-- `Seccomp().apply()` in its `try`: `PR_SET_NO_NEW_PRIVS`, then the filter; the flag
stays set when only the filter fails. -/
def applySeccomp (f : RunFailures) : Bool × Option (List UInt8) :=
  if f.noNewPrivs then (false, none)
  else match buildWhitelistFilter seccompAllowed with
    | .error _ => (true, none)
    | .ok prog => if f.seccomp then (true, none) else (true, some prog)

/-- `_run_container` up to `execv`: the logger (outside the `try`), the pod's record, its
namespaces (each failure caught), `create_namespaces`, `pivot_root` or else
`setup_chroot_filesystem`, `chdir` with its fallback to `/`, the environment, capabilities
unless rootless and seccomp when enabled (each failure caught), the `Starting:` line and
`execvp`. -/
def runContainer (cfg : RunConfig) (f : RunFailures) : Except String Isolation := do
  raiseIf f.logOpen "cannot open the container log"
  raiseIf (cfg.podId.any (· != "") && f.podConfig) "cannot read the pod record"
  let joined := cfg.podShared.filter fun ns => !(f.nsOpen ns || f.setns ns)
  let toCreate := cfg.namespacesToCreate
  let unshared ← (if toCreate = [] then pure []
    else createNamespaces toCreate cfg.hostname cfg.rootless f)
  raiseIf (f.pivotRoot && f.chrootSetup) "setup_chroot_filesystem failed"
  raiseIf (!chdirAccepts cfg.workdir || (f.chdir && f.chdirRoot)) "chdir failed"
  raiseIf (!osArg cfg.hostname || !cfg.env.all envSettable) "cannot set the environment"
  let caps := if cfg.rootless then none else applyCapabilities f
  let seccomp := if cfg.seccompEnabled then applySeccomp f else (false, none)
  raiseIf (!execArgs cfg.command || f.execvp) "execvp failed"
  return ⟨joined, unshared, caps, seccomp.1, seccomp.2⟩

/-- What the child of `Container.exec` reads: the record's root, working directory and
environment, and the call's own arguments. -/
structure ExecRequest where
  useOverlay : Bool
  overlayMerged : String
  rootfs : String
  /-- `config.workdir`. -/
  recordedWorkdir : PyVal
  /-- `config.env.items()`. -/
  recordedEnv : List (String × String)
  command : List String
  workdir : Option String
  /-- The items of the `env` argument. -/
  env : List (String × String)
  uid : Option Int
  gid : Option Int

namespace ExecRequest
variable (req : ExecRequest)

/-- The directory the child `chroot`s into, if any. -/
def root : Option String :=
  if req.useOverlay && req.overlayMerged != "" then some req.overlayMerged
  else if req.rootfs != "" then some req.rootfs else none

/-- `workdir or config.workdir or "/"`. -/
def chdirArg : PyVal :=
  pyOr (.ofOption .ofString req.workdir) (pyOr req.recordedWorkdir (.ofString "/"))

end ExecRequest

/-- Which of the host calls of the exec child fail. -/
structure ExecFailures where
  /-- There is no `/proc/<pid>/ns/<type>` file. -/
  nsMissing : String → Bool
  /-- `os.open` of an existing namespace file. -/
  nsOpen : String → Bool
  setns : String → Bool
  chroot : Bool
  chdir : Bool
  setgid : Bool
  setuid : Bool
  /-- `execv` fails on every candidate path of the command. -/
  execvp : Bool

/-- `enter_all_namespaces(pid)`: `enter_namespace` raises `NamespaceError` for a missing
namespace file and for a failed `setns`, and both are skipped; an `OSError` from opening an
existing file is not. -/
def enterAllNamespaces (f : ExecFailures) : List String → Except String (List String)
  | [] => .ok []
  | ns :: rest =>
    if f.nsMissing ns then enterAllNamespaces f rest
    else if f.nsOpen ns then .error "open failed"
    else do
      let joined ← enterAllNamespaces f rest
      return if f.setns ns then joined else ns :: joined

/-- The child of `Container.exec` up to `execv`; every exception ends it with `os._exit(1)`. -/
def execContainer (req : ExecRequest) (f : ExecFailures) : Except String Isolation := do
  let joined ← enterAllNamespaces f ["mnt", "uts", "ipc", "pid", "net"]
  raiseIf (req.root.any fun p => !osArg (.ofString p) || f.chroot) "chroot failed"
  raiseIf (!chdirAccepts req.chdirArg || f.chdir) "chdir failed"
  raiseIf (!(req.recordedEnv ++ req.env).all envSettable) "cannot set the environment"
  raiseIf (req.gid.any fun g => !idAccepts g || f.setgid) "setgid failed"
  raiseIf (req.uid.any fun u => !idAccepts u || f.setuid) "setuid failed"
  raiseIf (!execArgs (.list (req.command.map .ofString)) || f.execvp) "execvp failed"
  return ⟨joined, [], none, false, none⟩

/-! ## What reaches `execv` -/

section Run
variable (cfg : RunConfig) (f : RunFailures)

theorem applySeccomp_eq : applySeccomp f = (!f.noNewPrivs,
    if f.noNewPrivs || f.seccomp then none else some (encodeProgram (whitelistProgram seccompAllowed))) := by
  unfold applySeccomp
  rw [buildWhitelistFilter_eq]
  cases f.noNewPrivs <;> cases f.seccomp <;> rfl

theorem mem_namespacesToCreate {ns : String} (h : ns ∈ cfg.namespaces) (hpod : ns ∉ cfg.podShared) :
    ns ∈ cfg.namespacesToCreate := by
  unfold LaunchConfig.namespacesToCreate
  have : ns ∈ cfg.namespaces.filter (· ∉ cfg.podShared) := by simp [h, hpod]
  dsimp only
  split
  · split <;> simp [h, hpod]
  · exact this

/-- `_run_container` ends before `execv` exactly when one of its unguarded steps raises. -/
theorem runContainer_aborts_iff : (∃ e, runContainer cfg f = .error e) ↔
    f.logOpen ∨ (cfg.podId.any (· != "") ∧ f.podConfig) ∨
    (cfg.namespacesToCreate ≠ [] ∧ (f.unshare ∨ (cfg.hostname.truthy ∧
      "uts" ∈ cfg.namespacesToCreate ∧ (f.sethostname ∨ !encodesUtf8 cfg.hostname) ∧
      cfg.rootless = false))) ∨
    (f.pivotRoot ∧ f.chrootSetup) ∨ !chdirAccepts cfg.workdir ∨ (f.chdir ∧ f.chdirRoot) ∨
    !osArg cfg.hostname ∨ (∃ kv ∈ cfg.env, !envSettable kv) ∨ !execArgs cfg.command ∨
    f.execvp := by
  unfold runContainer
  by_cases hc : cfg.namespacesToCreate = [] <;>
    simp only [hc, if_true, if_false, createNamespaces, bind_assoc, pure_bind, raiseIf_bind_error,
      pure_ne_error, exists_false, or_false] <;>
    simp [or_assoc, and_assoc, hc]

/-- Every path of `_run_container` that reaches `execv` has unshared each known namespace
type of the record that the pod does not provide, and joined exactly the pod's
namespaces whose open and `setns` succeeded; it carries the default capability set
(whatever `config.capabilities` says) unless it is rootless or `capset` failed, and the
whitelist filter when seccomp is on and neither `prctl` failed. -/
theorem runContainer_ok {iso : Isolation} (h : runContainer cfg f = .ok iso) :
    iso = ⟨cfg.podShared.filter fun ns => !(f.nsOpen ns || f.setns ns),
      cfg.namespacesToCreate.filter (· ∈ namespaceFlags),
      if cfg.rootless then none else applyCapabilities f,
      (if cfg.seccompEnabled then applySeccomp f else (false, none)).1,
      (if cfg.seccompEnabled then applySeccomp f else (false, none)).2⟩ := by
  unfold runContainer at h
  by_cases hc : cfg.namespacesToCreate = [] <;>
    simp only [hc, if_true, if_false, createNamespaces, bind_assoc, pure_bind, raiseIf_bind_ok,
      pure_eq_ok] at h <;>
    simp_all

theorem runContainer_at_exec {iso : Isolation} (h : runContainer cfg f = .ok iso) :
    (∀ ns ∈ cfg.namespaces, ns ∉ cfg.podShared → ns ∈ namespaceFlags → ns ∈ iso.unshared) ∧
    (∀ ns, ns ∈ iso.joined ↔ ns ∈ cfg.podShared ∧ f.nsOpen ns = false ∧ f.setns ns = false) ∧
    iso.caps = (if cfg.rootless || f.capset then none else some defaultContainerCaps) ∧
    iso.noNewPrivs = (cfg.seccompEnabled && !f.noNewPrivs) ∧
    iso.filter = if cfg.seccompEnabled && !f.noNewPrivs && !f.seccomp then
      some (encodeProgram (whitelistProgram seccompAllowed)) else none := by
  obtain rfl := runContainer_ok cfg f h
  refine ⟨fun ns hns hpod hflag => ?_, fun ns => by simp [and_assoc], ?_, ?_, ?_⟩
  · simp [mem_namespacesToCreate cfg hns hpod, hflag]
  · unfold applyCapabilities; cases cfg.rootless <;> cases f.capset <;> rfl
  · rw [applySeccomp_eq]; cases cfg.seccompEnabled <;> rfl
  · rw [applySeccomp_eq]; cases cfg.seccompEnabled <;> cases f.noNewPrivs <;> cases f.seccomp <;> rfl

end Run

section Exec
variable (req : ExecRequest) (f : ExecFailures)

theorem enterAllNamespaces_eq (namespaces : List String) :
    enterAllNamespaces f namespaces =
      if namespaces.any (fun ns => !f.nsMissing ns && f.nsOpen ns) then .error "open failed"
      else pure (namespaces.filter fun ns => !f.nsMissing ns && !f.setns ns) := by
  induction namespaces with
  | nil => rfl
  | cons ns rest ih =>
    unfold enterAllNamespaces
    rw [ih]
    by_cases hr : rest.any (fun ns => !f.nsMissing ns && f.nsOpen ns) <;>
      cases hm : f.nsMissing ns <;> cases ho : f.nsOpen ns <;> cases hs : f.setns ns <;>
      simp [hr, hm, ho, hs, List.filter_cons, bind, Except.bind, pure, Except.pure]

/-- The exec child ends before `execv` exactly when opening an existing namespace file of the
container's process or one of its later steps raises. -/
theorem execContainer_aborts_iff : (∃ e, execContainer req f = .error e) ↔
    (∃ ns ∈ ["mnt", "uts", "ipc", "pid", "net"], f.nsMissing ns = false ∧ f.nsOpen ns) ∨
    req.root.any (fun p => !osArg (.ofString p) || f.chroot) ∨
    !chdirAccepts req.chdirArg ∨ f.chdir ∨ (∃ kv ∈ req.recordedEnv ++ req.env, !envSettable kv) ∨
    req.gid.any (fun g => !idAccepts g || f.setgid) ∨
    req.uid.any (fun u => !idAccepts u || f.setuid) ∨
    !execArgs (.list (req.command.map .ofString)) ∨ f.execvp := by
  have hns : (∃ ns ∈ ["mnt", "uts", "ipc", "pid", "net"], f.nsMissing ns = false ∧ f.nsOpen ns) ↔
      ["mnt", "uts", "ipc", "pid", "net"].any (fun ns => !f.nsMissing ns && f.nsOpen ns) := by
    simp only [List.any_eq_true, Bool.and_eq_true, Bool.not_eq_true']
  unfold execContainer
  rw [enterAllNamespaces_eq, hns]
  by_cases hn : ["mnt", "uts", "ipc", "pid", "net"].any (fun ns => !f.nsMissing ns && f.nsOpen ns)
  · simp [hn]
  · simp only [hn, Bool.false_eq_true, if_false, false_or, pure_bind, map_eq_pure_bind,
      raiseIf_bind_error, pure_ne_error, exists_false, or_false, Bool.or_eq_true, Bool.not_eq_true',
      List.all_eq_false, Bool.not_eq_true, or_assoc]

theorem execContainer_ok {iso : Isolation} (h : execContainer req f = .ok iso) :
    iso = ⟨["mnt", "uts", "ipc", "pid", "net"].filter fun ns => !f.nsMissing ns && !f.setns ns,
      [], none, false, none⟩ := by
  unfold execContainer at h
  rw [enterAllNamespaces_eq] at h
  split at h
  · cases h
  · simp only [pure_bind, map_eq_pure_bind, raiseIf_bind_ok, pure_eq_ok] at h
    exact h.2.2.2.2.2.2.symm

end Exec

/-! ## The two entry paths -/

/-- No host call of `_run_container` fails. -/
def noFailures : RunFailures where
  logOpen := false
  podConfig := false
  nsOpen _ := false
  setns _ := false
  unshare := false
  sethostname := false
  pivotRoot := false
  chrootSetup := false
  chdir := false
  chdirRoot := false
  capset := false
  noNewPrivs := false
  seccomp := false
  execvp := false

/-- A root record with the default namespaces whose OCI bundle asked for `NET_ADMIN` only. -/
def defaultRun : RunConfig where
  rootless := false
  namespaces := ["pid", "uts", "mnt", "ipc", "net"]
  podShared := []
  seccompEnabled := true
  recordedIp := none
  allocated := .error ""
  podId := none
  hostname := .ofString "brave_turing"
  capabilities := .list [.ofString "NET_ADMIN"]
  workdir := .ofString "/"
  env := [("PATH", "/bin")]
  command := .list [.ofString "sh"]

/-- `exec -w /missing` into that container: the `-w` directory is not in its root. -/
def missingWorkdirExec : ExecRequest where
  useOverlay := false
  overlayMerged := ""
  rootfs := "/var/lib/mini-docker/images/base/rootfs"
  recordedWorkdir := .ofString "/"
  recordedEnv := [("PATH", "/bin")]
  command := ["sh"]
  workdir := some "/missing"
  env := []
  uid := none
  gid := none

end MiniDocker.Launch
