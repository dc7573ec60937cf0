import Mathlib.Logic.Function.Basic
import Mathlib.Logic.Relation

/-!
# The fork barrier of `Container.start`

After `os.fork()` the parent (the rest of `Container.start`) and the child
(`Container._run_container`) run as two processes that share two pipes, `p2c` and `c2p`.
Each process runs its own program, a list of `Op`s taken from the source in order; the
two programs interleave in any order.

A read of one byte blocks while the pipe is empty and some process still holds its
write end, and returns end-of-file once no process does. A write fails with `EPIPE`
(caught by the source) once no process holds the read end. Any other step always
completes, or, for an `attempt`, may fail and be caught, skipping the ops the
source's `try` block would skip. A process may also die at any point before its
program ends (an uncaught exception, `os._exit`, a signal); its descriptors close.

Every step leaves an `Entry` at the end of `trace`, so that orderings between the two
processes can be stated on the trace.
-/

namespace MiniDocker.Launch

set_option autoImplicit false

inductive Proc where
  | parent
  | child
  deriving DecidableEq, Repr

inductive PipeId where
  | p2c
  | c2p
  deriving DecidableEq, Repr

/-- The four descriptors `os.pipe()` returned before the fork. -/
inductive End where
  | read (q : PipeId)
  | write (q : PipeId)
  deriving DecidableEq, Repr

/-- The steps other than pipe operations that the orderings are about. -/
inductive Event where
  | cgroupSetup
  | podSetns
  | unshare (user net : Bool)
  | setgroups
  | uidMap
  | gidMap
  | statusRunning
  | createBridge
  | allocateIp (ip : String)
  | createVeth
  | attachVeth
  | moveVeth
  | setupNat
  | saveIp (ip : String)
  | fsSetup
  | configureNet (ip : String)
  | chdirEnv
  | dropCaps
  | seccomp
  | exec
  deriving DecidableEq, Repr

inductive Op where
  | close (e : End)
  | read (q : PipeId)
  | write (q : PipeId)
  /-- A step that completes (or kills the process, which `Step.exit` covers). -/
  | run (e : Event)
  /-- A step whose failure is caught; the `skip` ops after it are then not run. -/
  | attempt (e : Event) (skip : Nat)
  deriving DecidableEq, Repr

inductive Entry where
  | ran (p : Proc) (e : Event) (ok : Bool)
  | wrote (p : Proc) (q : PipeId) (ok : Bool)
  | exited (p : Proc)
  deriving DecidableEq, Repr

/-- What `Container.start` reads from the record and the host before it forks. -/
structure LaunchConfig where
  rootless : Bool
  /-- `config.namespaces`. -/
  namespaces : List String
  /-- The namespace types of `pod_ns_paths`, those the pod's infra process shares. -/
  podShared : List String
  seccompEnabled : Bool
  /-- `config.network.ip` of the record loaded before the fork. -/
  recordedIp : Option String
  /-- What `get_available_ip()` returns to the parent's `Network.setup`. -/
  allocated : Except String String
  deriving Repr

namespace LaunchConfig
variable (cfg : LaunchConfig)

/-- `namespaces_to_create` of `_run_container`. -/
def namespacesToCreate : List String :=
  let base := cfg.namespaces.filter (· ∉ cfg.podShared)
  if cfg.rootless then
    let withUser := base ++ ["user"]
    if "mnt" ∈ withUser then withUser else withUser ++ ["mnt"]
  else base

/-- The `unshare` of `create_namespaces`, when there is anything to create. -/
def unshareOps : List Op :=
  if cfg.namespacesToCreate = [] then []
  else [.run (.unshare (cfg.rootless || "user" ∈ cfg.namespacesToCreate)
    ("net" ∈ cfg.namespacesToCreate))]

/-- `configure_container_network(config.network.ip)` when `net` is asked for and the
record loaded before the fork has a truthy address. -/
def configureOps : List Op :=
  match cfg.recordedIp with
  | some ip => if "net" ∈ cfg.namespaces ∧ ip ≠ "" then [.attempt (.configureNet ip) 0] else []
  | none => []

end LaunchConfig

/-- `Network(config.id).setup(pid)` and the save of `network.ip`: a failure anywhere
ends the whole `try` block. -/
def networkOps : Except String String → List Op
  | .ok ip => [.attempt .createBridge 6, .run (.allocateIp ip), .attempt .createVeth 4,
      .attempt .attachVeth 3, .attempt .moveVeth 2, .run .setupNat, .attempt (.saveIp ip) 0]
  | .error _ => [.attempt .createBridge 0]

/-- What `_run_container` does once the sync pipes are closed: overlay, `/dev` and
`pivot_root`, the network inside, working directory and environment, capabilities,
seccomp, and last `os.execvp`. -/
def LaunchConfig.isolationOps (cfg : LaunchConfig) : List Op :=
  [.run .fsSetup] ++ cfg.configureOps ++ [.run .chdirEnv] ++
  (if cfg.rootless then [] else [.attempt .dropCaps 0]) ++
  (if cfg.seccompEnabled then [.attempt .seccomp 0] else []) ++
  [.run .exec]

/-- The child: the closes after `fork`, then `_run_container` up to `os.execvp`. -/
def childProgram (cfg : LaunchConfig) : List Op :=
  [.close (.write .p2c), .close (.read .c2p)] ++
  (if cfg.rootless then [] else [.attempt .cgroupSetup 0]) ++
  cfg.podShared.map (fun _ => .attempt .podSetns 0) ++
  cfg.unshareOps ++
  (if cfg.rootless then [.write .c2p, .read .p2c] else []) ++
  [.close (.read .p2c), .close (.write .c2p)] ++
  cfg.isolationOps

/-- The parent: the rest of `Container.start` after `fork`. -/
def parentProgram (cfg : LaunchConfig) : List Op :=
  [.close (.read .p2c), .close (.write .c2p)] ++
  (if cfg.rootless then
    [.read .c2p, .attempt .setgroups 0, .attempt .uidMap 1, .attempt .gidMap 0] else []) ++
  [.write .p2c, .close (.write .p2c), .close (.read .c2p), .run .statusRunning] ++
  (if "net" ∈ cfg.namespaces ∧ ¬cfg.rootless then networkOps cfg.allocated else [])

def program (cfg : LaunchConfig) : Proc → List Op
  | .parent => parentProgram cfg
  | .child => childProgram cfg

/-- How far an op moves the `pc`: a failed attempt also skips the ops that its `try`
block would have run after it. -/
def Op.advance (o : Op) (ok : Bool) : Nat :=
  match o with
  | .attempt _ k => if ok then 1 else k + 1
  | _ => 1

/-- The entry an op leaves; `ok` is its outcome (a caught failure, `EPIPE`, end-of-file). -/
def Op.entry (p : Proc) : Op → Bool → Option Entry
  | .write q, ok => some (.wrote p q ok)
  | .run e, _ => some (.ran p e true)
  | .attempt e _, ok => some (.ran p e ok)
  | _, _ => none

structure St where
  pc : Proc → Nat
  alive : Proc → Bool
  holds : Proc → End → Bool
  buf : PipeId → Nat
  trace : List Entry

/-- Right after `fork`: both processes hold all four descriptors. -/
def St.init : St := ⟨fun _ => 0, fun _ => true, fun _ _ => true, fun _ => 0, []⟩

namespace St
variable (s : St)

def op (cfg : LaunchConfig) (p : Proc) : Option Op := (program cfg p)[s.pc p]?

def held (e : End) : Prop := ∃ p, s.holds p e = true

/-- Whether an op may run now with outcome `ok`. A read gets a byte when the pipe has
one and end-of-file when it is empty and no process holds its write end; otherwise it
blocks. A write fails with `EPIPE` exactly when no process holds the read end. -/
def Allows : Op → Bool → Prop
  | .read q, true => 0 < s.buf q
  | .read q, false => s.buf q = 0 ∧ ¬s.held (.write q)
  | .write q, ok => (ok = true ↔ s.held (.read q))
  | .attempt _ _, _ => True
  | _, ok => ok = true

/-- The state after process `p` runs `o` with outcome `ok`. -/
def apply (p : Proc) (o : Op) (ok : Bool) : St where
  pc := Function.update s.pc p (s.pc p + o.advance ok)
  alive := s.alive
  holds := match o with
    | .close e => Function.update s.holds p (Function.update (s.holds p) e false)
    | _ => s.holds
  buf := match o, ok with
    | .read q, true => Function.update s.buf q (s.buf q - 1)
    | .write q, true => Function.update s.buf q (s.buf q + 1)
    | _, _ => s.buf
  trace := s.trace ++ (o.entry p ok).toList

/-- The process dies: its descriptors close with it. -/
def kill (p : Proc) : St :=
  { s with
    alive := Function.update s.alive p false
    holds := Function.update s.holds p fun _ => false
    trace := s.trace ++ [.exited p] }

end St

inductive Step (cfg : LaunchConfig) : St → St → Prop where
  /-- A live process runs the op at its `pc`, with an outcome the state allows. -/
  | move {s : St} {p : Proc} {o : Op} {ok : Bool} : s.alive p → s.op cfg p = some o →
      s.Allows o ok → Step cfg s (s.apply p o ok)
  /-- A live process that has not finished its program dies. -/
  | exit {s : St} {p : Proc} : s.alive p → s.pc p < (program cfg p).length →
      Step cfg s (s.kill p)

/-- The states a start can reach from the fork. -/
def Reachable (cfg : LaunchConfig) (s : St) : Prop := Relation.ReflTransGen (Step cfg) St.init s

/-- Some live process has an op it may run now. -/
def St.CanMove (cfg : LaunchConfig) (s : St) : Prop :=
  ∃ p o ok, s.alive p = true ∧ s.op cfg p = some o ∧ s.Allows o ok

/-- A process is done once it died or ran its whole program (`execvp` for the child,
`return pid` for the parent). -/
def St.Done (cfg : LaunchConfig) (s : St) (p : Proc) : Prop :=
  s.alive p = false ∨ (program cfg p).length ≤ s.pc p

/-! ## Orderings on the trace -/

/-- Some entry of the trace satisfies `P`. -/
def Occurs (P : Entry → Prop) (tr : List Entry) : Prop := ∃ x ∈ tr, P x

/-- Every entry satisfying `effect` has an entry satisfying `cause` before it. -/
def PrecededBy (cause effect : Entry → Prop) (tr : List Entry) : Prop :=
  ∀ pre x post, tr = pre ++ x :: post → effect x → Occurs cause pre

section Orderings
variable {P cause effect : Entry → Prop} {tr l : List Entry}

@[simp] theorem occurs_nil : ¬Occurs P [] := by simp [Occurs]

@[simp] theorem occurs_append : Occurs P (tr ++ l) ↔ Occurs P tr ∨ Occurs P l := by
  simp only [Occurs, List.mem_append, or_and_right, exists_or]

@[simp] theorem occurs_singleton {x : Entry} : Occurs P [x] ↔ P x := by simp [Occurs]

theorem PrecededBy.nil : PrecededBy cause effect [] := by
  intro pre x post h
  simp at h

theorem PrecededBy.append (h : PrecededBy cause effect tr)
    (hl : ∀ x ∈ l, effect x → Occurs cause tr) : PrecededBy cause effect (tr ++ l) := by
  intro pre x post heq hx
  rcases List.append_eq_append_iff.mp heq with ⟨a, hpre, hl'⟩ | ⟨c, htr, hpost⟩
  · obtain ⟨y, hy, hc⟩ := hl x (by simp [hl']) hx
    exact ⟨y, by simp [hpre, hy], hc⟩
  · cases c with
    | nil =>
      simp only [List.append_nil, List.nil_append] at htr hpost
      exact htr ▸ hl x (by simp [← hpost]) hx
    | cons y c =>
      simp only [List.cons_append, List.cons.injEq] at hpost
      exact h pre x c (by rw [htr, hpost.1]) hx

theorem PrecededBy.of_append (h : PrecededBy cause effect (tr ++ l)) :
    PrecededBy cause effect tr := by
  intro pre x post heq hx
  exact h pre x (post ++ l) (by simp [heq]) hx

@[simp] theorem precededBy_append_singleton {x : Entry} :
    PrecededBy cause effect (tr ++ [x]) ↔ PrecededBy cause effect tr ∧ (effect x → Occurs cause tr) :=
  ⟨fun h => ⟨h.of_append, h tr x [] rfl⟩, fun h => h.1.append (by simpa using h.2)⟩

end Orderings

/-! ## Frame lemmas -/

section Frame
variable (s : St) (p q : Proc) (o : Op) (ok : Bool)

@[simp] theorem St.apply_pc_self : (s.apply p o ok).pc p = s.pc p + o.advance ok := by
  simp [St.apply]
theorem St.apply_pc_other (h : q ≠ p) : (s.apply p o ok).pc q = s.pc q := by
  simp [St.apply, Function.update_noteq h]
@[simp] theorem St.apply_alive : (s.apply p o ok).alive = s.alive := rfl
@[simp] theorem St.apply_trace : (s.apply p o ok).trace = s.trace ++ (o.entry p ok).toList := rfl
theorem St.apply_holds_other (h : q ≠ p) : (s.apply p o ok).holds q = s.holds q := by
  simp only [St.apply]; split <;> simp [Function.update_noteq h]
theorem St.apply_buf_of_ne {q : PipeId} (hr : o ≠ .read q) (hw : o ≠ .write q) :
    (s.apply p o ok).buf q = s.buf q := by
  simp only [St.apply]
  split
  · exact Function.update_noteq (fun h => hr (by rw [h])) _ _
  · exact Function.update_noteq (fun h => hw (by rw [h])) _ _
  · rfl
theorem St.apply_buf_write {q : PipeId} :
    (s.apply p (.write q) ok).buf q = if ok then s.buf q + 1 else s.buf q := by
  cases ok <;> simp [St.apply]
@[simp] theorem St.kill_pc : (s.kill p).pc = s.pc := rfl
@[simp] theorem St.kill_alive_self : (s.kill p).alive p = false := by simp [St.kill]
theorem St.kill_alive_other (h : q ≠ p) : (s.kill p).alive q = s.alive q := by
  simp [St.kill, Function.update_noteq h]
@[simp] theorem St.kill_holds_self : (s.kill p).holds p = fun _ => false := by simp [St.kill]
theorem St.kill_holds_other (h : q ≠ p) : (s.kill p).holds q = s.holds q := by
  simp [St.kill, Function.update_noteq h]
@[simp] theorem St.kill_buf : (s.kill p).buf = s.buf := rfl
@[simp] theorem St.kill_trace : (s.kill p).trace = s.trace ++ [.exited p] := rfl

@[simp] theorem Op.advance_pos : 0 < o.advance ok := by
  cases o <;> cases ok <;> simp [Op.advance]

end Frame

theorem Op.ran_mem_entry {p r : Proc} {e : Event} {b ok : Bool} {o : Op}
    (h : Entry.ran p e b ∈ o.entry r ok) : p = r ∧ (o = .run e ∨ ∃ k, o = .attempt e k) := by
  cases o <;> simp only [Op.entry, Option.mem_def, Option.some.injEq, reduceCtorEq,
    Entry.ran.injEq] at h
  · obtain ⟨rfl, rfl, -⟩ := h
    exact ⟨rfl, .inl rfl⟩
  · obtain ⟨rfl, rfl, -⟩ := h
    exact ⟨rfl, .inr ⟨_, rfl⟩⟩

theorem St.op_lt {cfg : LaunchConfig} {s : St} {p : Proc} {o : Op} (h : s.op cfg p = some o) :
    s.pc p < (program cfg p).length :=
  (List.getElem?_eq_some_iff.mp h).1

theorem Occurs.mono {P : Entry → Prop} {tr tr' : List Entry} (h : Occurs P tr)
    (ht : tr <+: tr') : Occurs P tr' :=
  let ⟨x, hx, hp⟩ := h
  ⟨x, ht.subset hx, hp⟩

/-! ## Every run ends

Each step either moves the `pc` of a live process forward or kills it, so the number
of ops left to the live processes bounds the length of every run. -/

def St.remaining (cfg : LaunchConfig) (s : St) (p : Proc) : Nat :=
  if s.alive p then (program cfg p).length - s.pc p + 1 else 0

def St.measure (cfg : LaunchConfig) (s : St) : Nat :=
  s.remaining cfg .parent + s.remaining cfg .child

theorem Step.measure_lt {cfg : LaunchConfig} {s s' : St} (h : Step cfg s s') :
    s'.measure cfg < s.measure cfg := by
  cases h with
  | move hp ho =>
    rename_i p o ok _
    have := St.op_lt ho
    have := o.advance_pos ok
    cases p <;> simp [St.measure, St.remaining, St.apply_pc_other, hp] <;> omega
  | exit hp => rename_i p _; cases p <;> simp [St.measure, St.remaining, St.kill_alive_other, hp]

/-! ## Which moves are enabled

Only a read can block: every other op may run whatever the state. -/

theorem St.allows_of_not_read (s : St) {o : Op} (h : ∀ q, o ≠ .read q) : ∃ ok, s.Allows o ok := by
  cases o with
  | read q => exact absurd rfl (h q)
  | write q =>
    by_cases hh : s.held (.read q)
    · exact ⟨true, by simp [St.Allows, hh]⟩
    · exact ⟨false, by simp [St.Allows, hh]⟩
  | attempt => exact ⟨true, trivial⟩
  | close | run => exact ⟨true, rfl⟩

theorem St.allows_read (s : St) {q : PipeId} (h : s.buf q = 0 → s.held (.write q) → False) :
    ∃ ok, s.Allows (.read q) ok := by
  by_cases hb : 0 < s.buf q
  · exact ⟨true, hb⟩
  · exact ⟨false, by omega, h (by omega)⟩

theorem St.blocked_of_stuck {cfg : LaunchConfig} {s : St} (hstuck : ¬s.CanMove cfg) {p : Proc}
    (hp : s.alive p = true) (hpc : s.pc p < (program cfg p).length) :
    ∃ q, s.op cfg p = some (.read q) ∧ s.buf q = 0 ∧ s.held (.write q) := by
  obtain ⟨o, ho⟩ : ∃ o, s.op cfg p = some o := ⟨_, List.getElem?_eq_getElem hpc⟩
  by_cases hr : ∃ q, o = .read q
  · obtain ⟨q, rfl⟩ := hr
    by_contra hq
    obtain ⟨ok, hok⟩ := s.allows_read fun hb hh => hq ⟨q, ho, hb, hh⟩
    exact hstuck ⟨p, _, ok, hp, ho, hok⟩
  · obtain ⟨ok, hok⟩ := s.allows_of_not_read fun q h => hr ⟨q, h⟩
    exact absurd ⟨p, o, ok, hp, ho, hok⟩ hstuck

/-! ## Facts the trace keeps

Each lemma below says when a step keeps one kind of fact; the conditions are only about
the moves that could break it. -/

section Keep
variable {cfg : LaunchConfig} {s s' : St} {P : Entry → Prop}

theorem Step.keep_milestone (h : Step cfg s s') {p : Proc} {T : Nat}
    (hold : T < s.pc p → Occurs P s.trace)
    (hcross : ∀ o ok, s.alive p = true → s.op cfg p = some o → s.Allows o ok → s.pc p ≤ T →
      T < s.pc p + o.advance ok → Occurs P (s.trace ++ (o.entry p ok).toList)) :
    T < s'.pc p → Occurs P s'.trace := by
  intro hT
  cases h with
  | move hr ho ha =>
    rename_i r o ok
    by_cases hrp : p = r
    · subst hrp
      by_cases hlt : T < s.pc p
      · exact (hold hlt).mono (by simp)
      · exact hcross o ok hr ho ha (by omega) (by simpa using hT)
    · rw [St.apply_pc_other _ _ _ _ _ hrp] at hT
      exact (hold hT).mono (by simp)
  | exit => exact (hold hT).mono (by simp)

theorem Step.keep_death (h : Step cfg s s') {p : Proc}
    (hold : s.alive p = false → Occurs P s.trace) (hP : P (.exited p)) :
    s'.alive p = false → Occurs P s'.trace := by
  intro hd
  cases h with
  | move => exact (hold hd).mono (by simp)
  | exit =>
    rename_i r _ _
    by_cases hrp : p = r
    · subst hrp; exact occurs_append.2 (.inr (occurs_singleton.2 hP))
    · rw [St.kill_alive_other _ _ _ hrp] at hd
      exact (hold hd).mono (by simp)

theorem Step.keep_buffer (h : Step cfg s s') {q : PipeId}
    (hold : 0 < s.buf q → Occurs P s.trace)
    (hwrite : ∀ r, s.alive r = true → s.op cfg r = some (.write q) → s.held (.read q) →
      Occurs P (s.trace ++ [.wrote r q true])) :
    0 < s'.buf q → Occurs P s'.trace := by
  intro hb
  cases h with
  | move hr ho ha =>
    rename_i r o ok
    cases o <;> cases ok <;> simp only [St.apply] at hb
    all_goals first
      | exact (hold hb).mono (by simp)
      | skip
    · rename_i q'
      by_cases hq : q = q'
      · subst hq; exact (hold (by simp at hb; omega)).mono (by simp)
      · exact (hold (by simpa [Function.update_noteq hq] using hb)).mono (by simp)
    · rename_i q'
      by_cases hq : q = q'
      · subst hq; exact hwrite r hr ho ((by simpa [St.Allows] using ha))
      · exact (hold (by simpa [Function.update_noteq hq] using hb)).mono (by simp)
  | exit => exact (hold hb).mono (by simp)

theorem Step.keep_order (h : Step cfg s s') {cause effect : Entry → Prop}
    (hold : PrecededBy cause effect s.trace)
    (hnew : ∀ r o ok, s.alive r = true → s.op cfg r = some o → s.Allows o ok →
      ∀ x ∈ o.entry r ok, effect x → Occurs cause s.trace)
    (hexit : ∀ r, ¬effect (.exited r)) : PrecededBy cause effect s'.trace := by
  cases h with
  | move hr ho ha =>
    rename_i r o ok
    refine hold.append fun x hx => hnew r o ok hr ho ha x ?_
    simpa using hx
  | exit =>
    rename_i r _ _
    exact hold.append (by simpa using fun h => absurd h (hexit r))

theorem Step.keep_holds (h : Step cfg s s') {cp : Proc → End → Nat}
    (hold : ∀ p e, s.holds p e = (s.alive p && decide (s.pc p ≤ cp p e)))
    (hcover : ∀ p o ok e, s.op cfg p = some o →
      (s.pc p ≤ cp p e ∧ cp p e < s.pc p + o.advance ok ↔ o = .close e)) :
    ∀ p e, s'.holds p e = (s'.alive p && decide (s'.pc p ≤ cp p e)) := by
  intro p e
  cases h with
  | move hr ho ha =>
    rename_i r o ok
    by_cases hpr : p = r
    · subst hpr
      have hc := hcover p o ok e ho
      cases o with
      | close e' =>
        by_cases hee : e = e'
        · subst hee
          simp only [Op.advance, iff_true] at hc
          simp [St.apply, Op.advance]
          omega
        · simp only [Op.advance, Op.close.injEq, Ne.symm hee, iff_false] at hc
          simp only [St.apply, Function.update_same, Function.update_noteq hee, hold,
            St.apply_pc_self, Op.advance]
          congr 2
          exact propext (by omega)
      | _ =>
        simp only [reduceCtorEq, iff_false] at hc
        simp only [St.apply, Function.update_same, hold]
        congr 2
        exact propext (by omega)
    · rw [St.apply_holds_other _ _ _ _ _ hpr, St.apply_pc_other _ _ _ _ _ hpr, hold]
      rfl
  | exit =>
    rename_i r _ _
    by_cases hpr : p = r
    · subst hpr; simp
    · rw [St.kill_holds_other _ _ _ hpr, St.kill_alive_other _ _ _ hpr, hold]
      rfl

end Keep

theorem Reachable.mem_trace {cfg : LaunchConfig} {s : St} (h : Reachable cfg s) :
    ∀ x ∈ s.trace, (∃ p, x = .exited p) ∨
      ∃ p o ok, o ∈ program cfg p ∧ x ∈ o.entry p ok := by
  induction h with
  | refl => simp [St.init]
  | tail _ hst ih =>
    intro x hx
    cases hst with
    | move _ ho _ =>
      rename_i p o ok _ _
      simp only [St.apply_trace, List.mem_append, Option.mem_toList] at hx
      rcases hx with hx | hx
      · exact ih x hx
      · exact .inr ⟨p, o, ok, List.getElem?_mem ho, hx⟩
    | exit =>
      rename_i p _ _
      simp only [St.kill_trace, List.mem_append, List.mem_singleton] at hx
      rcases hx with hx | rfl
      · exact ih x hx
      · exact .inl ⟨p, rfl⟩

end MiniDocker.Launch
