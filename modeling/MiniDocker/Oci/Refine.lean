import MiniDocker.Oci.Load
import MiniDocker.Record.JsonLoad

/-! # run-oci refines the record model

`Record.Config` describes run-oci as `ociToContainerConfig` on an `OciConfig` with well-formed
values, and every record that makes reads back from its file (`Produced.reload`). `Oci.Load`
follows the code: `json.load`, `parse_oci_config` with its `.get` and `in` on values of any
type, and `oci_to_container_config`. Here the two meet. `parse_oci_config` keeps the
well-formed values `json.load` returns (`loadOciConfig_wellFormed`), and whenever
`oci_to_container_config` returns a record, `ociToContainerConfig` returns the same record on
the config's abstraction (`toContainerConfig_refines`). So every record `cmd_run_oci` saves is
one the record model produces (`cmdRunOci_produced`).
-/

namespace MiniDocker.Oci

open MiniDocker.Record MiniDocker.Image

set_option autoImplicit false

/-! ## The loaded values are well formed -/

/-- The values of a loaded config that the record takes are well formed. -/
def OCIConfig.WellFormed (o : OCIConfig) : Prop :=
  o.hostname.wellFormed ∧ o.process.args.wellFormed ∧ o.process.cwd.wellFormed ∧
    o.process.capabilities.wellFormed ∧ o.linux.resources.memory.wellFormed ∧
    o.linux.resources.cpu.wellFormed ∧ o.linux.resources.pids.wellFormed

theorem get_wellFormed {v d x : PyVal} {k : String} (hv : v.wellFormed = true)
    (h : v.get k d = .ok x) (hd : d.wellFormed = true) : x.wellFormed = true := by
  cases v with
  | dict kvs =>
    rw [PyVal.get_dict, Except.ok.injEq] at h
    subst h
    cases hk : dictGet kvs k with
    | none => exact hd
    | some y => exact dictGet_wellFormed hv hk
  | _ => cases h

theorem getItem_wellFormed {v x : PyVal} {k : String} (hv : v.wellFormed = true)
    (h : v.getItem k = .ok x) : x.wellFormed = true := by
  cases v with
  | dict kvs =>
    simp only [PyVal.getItem] at h
    split at h
    · next y hy => cases h; exact dictGet_wellFormed hv hy
    · cases h
  | _ => cases h

section Sections
variable {α : Type} {data : PyVal} {k : String} {parse : PyVal → Except String α} {dflt a : α}

theorem sectionOf_wellFormed (P : α → Prop) (hdata : data.wellFormed = true)
    (hparse : ∀ {v a}, v.wellFormed = true → parse v = .ok a → P a)
    (h : sectionOf data k parse dflt = .ok a) (hdflt : P dflt) : P a := by
  simp only [sectionOf, bind_eq_ok] at h
  obtain ⟨b, _, h⟩ := h
  cases b
  · cases h; exact hdflt
  · obtain ⟨v, hv, h⟩ := bind_eq_ok.1 h
    exact hparse (getItem_wellFormed hdata hv) h

end Sections

theorem parseProcess_wellFormed {v : PyVal} {p : OCIProcess} (hv : v.wellFormed = true)
    (h : parseProcess v = .ok p) :
    p.args.wellFormed ∧ p.cwd.wellFormed ∧ p.capabilities.wellFormed := by
  simp only [parseProcess, bind_eq_ok] at h
  obtain ⟨args, ha, _, _, cwd, hc, caps, hcaps, h⟩ := h
  cases h
  exact ⟨get_wellFormed hv ha rfl, get_wellFormed hv hc (wellFormed_ofString _),
    get_wellFormed hv hcaps rfl⟩

theorem parseResources_wellFormed {v : PyVal} {r : OCILinuxResources} (hv : v.wellFormed = true)
    (h : parseResources v = .ok r) :
    r.memory.wellFormed ∧ r.cpu.wellFormed ∧ r.pids.wellFormed := by
  simp only [parseResources, bind_eq_ok] at h
  obtain ⟨memory, hm, cpu, hc, pids, hp, h⟩ := h
  cases h
  exact ⟨get_wellFormed hv hm rfl, get_wellFormed hv hc rfl, get_wellFormed hv hp rfl⟩

theorem parseLinux_wellFormed {v : PyVal} {l : OCILinux} (hv : v.wellFormed = true)
    (h : parseLinux v = .ok l) :
    l.resources.memory.wellFormed ∧ l.resources.cpu.wellFormed ∧
      l.resources.pids.wellFormed := by
  simp only [parseLinux, bind_eq_ok] at h
  obtain ⟨_, _, _, _, _, _, res, hres, _, _, h⟩ := h
  cases h
  exact sectionOf_wellFormed (fun r : OCILinuxResources =>
    r.memory.wellFormed ∧ r.cpu.wellFormed ∧ r.pids.wellFormed) hv parseResources_wellFormed
    hres ⟨rfl, rfl, rfl⟩

theorem parseOciConfig_wellFormed {data : PyVal} {o : OCIConfig} (hdata : data.wellFormed = true)
    (h : parseOciConfig data = .ok o) : o.WellFormed := by
  simp only [parseOciConfig, bind_eq_ok] at h
  obtain ⟨hostname, hh, process, hp, _, _, _, _, linux, hl, h⟩ := h
  cases h
  obtain ⟨ha, hc, hcaps⟩ := sectionOf_wellFormed (fun p : OCIProcess =>
    p.args.wellFormed ∧ p.cwd.wellFormed ∧ p.capabilities.wellFormed) hdata
    parseProcess_wellFormed hp ⟨rfl, wellFormed_ofString _, rfl⟩
  obtain ⟨hm, hcpu, hpids⟩ := sectionOf_wellFormed (fun l : OCILinux =>
    l.resources.memory.wellFormed ∧ l.resources.cpu.wellFormed ∧ l.resources.pids.wellFormed)
    hdata parseLinux_wellFormed hl ⟨rfl, rfl, rfl⟩
  exact ⟨get_wellFormed hdata hh (wellFormed_ofString _), ha, hc, hcaps, hm, hcpu, hpids⟩

/-- A config the loader returns holds well-formed values, since `json.load` returns only
well-formed values. -/
theorem loadOciConfig_wellFormed {b : Bundle} {o : OCIConfig} (h : loadOciConfig b = .ok o) :
    o.WellFormed := by
  unfold loadOciConfig at h
  split at h
  · cases h
  · split at h
    · cases h
    · next data hdata =>
      cases hp : parseOciConfig data with
      | error e => rw [hp] at h; cases h
      | ok o' =>
        rw [hp] at h
        cases h
        exact parseOciConfig_wellFormed (load_wellFormed hdata) hp

/-! ## The abstraction of a loaded config -/

/-- The items of a dict; any other value has none. A resource or the capabilities count as
empty in the conversion unless they are non-empty dicts. -/
def itemsOf : PyVal → List (List (Fin 0x110000) × PyVal)
  | .dict kvs => kvs
  | _ => []

/-- The text of a str. -/
def strText : PyVal → Option String
  | .str s => some (textOf s)
  | _ => none

/-- The config as `ociToContainerConfig` reads it: the resources and the capabilities as
dict items, and the `env` entries and namespace types that are strs, as text. -/
def OCIConfig.abstract (o : OCIConfig) : OciConfig where
  hostname := o.hostname
  args := o.process.args
  env := match o.process.env.iter with
    | .ok xs => xs.filterMap strText
    | .error _ => []
  cwd := o.process.cwd
  capabilities := itemsOf o.process.capabilities
  memory := itemsOf o.linux.resources.memory
  cpu := itemsOf o.linux.resources.cpu
  pids := itemsOf o.linux.resources.pids
  namespaceTypes := o.linux.namespaceTypes.filterMap strText
  seccomp := o.linux.seccomp

theorem wellFormed_itemsOf {v : PyVal} (h : v.wellFormed = true) :
    (PyVal.dict (itemsOf v)).wellFormed = true := by
  cases v <;> first | exact h | rfl

theorem OCIConfig.WellFormed.abstract {o : OCIConfig} (h : o.WellFormed) :
    o.abstract.WellFormed := by
  obtain ⟨hh, ha, hc, hcaps, hm, hcpu, hp⟩ := h
  exact ⟨hh, ha, hc, wellFormed_itemsOf hcaps, wellFormed_itemsOf hm, wellFormed_itemsOf hcpu,
    wellFormed_itemsOf hp⟩

/-! ## The conversion, step by step -/

theorem singleton_infix_iff {α : Type} {a : α} {l : List α} : [a] <:+: l ↔ a ∈ l :=
  ⟨fun h => h.subset (List.mem_singleton_self a), fun h => by
    obtain ⟨s, t, rfl⟩ := List.append_of_mem h
    exact ⟨s, t, by simp⟩⟩

theorem ofNat_eq_equals (n : Nat) : Char.ofNat n = '=' ↔ n = 61 := by
  refine ⟨fun h => ?_, fun h => h ▸ rfl⟩
  have ht : (Char.ofNat n).toNat = 61 := by rw [h]; rfl
  by_cases hv : n.isValidChar
  · simpa [Char.ofNat, hv, Char.ofNatAux, Char.toNat] using ht
  · simp only [Char.ofNat, hv, dite_false] at ht
    exact absurd ht (by decide)

theorem occursIn_equals (s : List (Fin 0x110000)) :
    PyVal.occursIn (pyStr "=") s = decide ('=' ∈ (textOf s).toList) := by
  have hiff : PyVal.occursIn (pyStr "=") s = true ↔ '=' ∈ (textOf s).toList := by
    rw [PyVal.occursIn_iff, show pyStr "=" = [61] from rfl, singleton_infix_iff]
    simp only [textOf, String.toList, List.mem_map, ofNat_eq_equals]
    exact ⟨fun h => ⟨61, h, rfl⟩, fun ⟨c, hc, e⟩ => (Fin.ext (e.trans rfl) : c = 61) ▸ hc⟩
  by_cases h : '=' ∈ (textOf s).toList
  · rw [decide_eq_true h, hiff.2 h]
  · rw [decide_eq_false h, Bool.eq_false_iff.2 (mt hiff.1 h)]

theorem envEntry_str (d : StrDict) (s : List (Fin 0x110000)) :
    envEntry d (.str s) = .ok (if '=' ∈ (textOf s).toList then
      let kv := (textOf s).toList.span (· ≠ '=')
      d.set (String.mk kv.1) (String.mk (kv.2.drop 1)) else d) := by
  simp only [envEntry, PyVal.contains, occursIn_equals, bind, Except.bind]
  split <;> simp_all [pure, Except.pure]

theorem envEntry_other {d d' : StrDict} {e : PyVal} (he : strText e = none)
    (h : envEntry d e = .ok d') : d' = d := by
  cases e <;> simp_all [envEntry, PyVal.contains, strText, bind, Except.bind, pure, Except.pure]
  all_goals (split at h <;> simp_all)

theorem foldlM_envEntry_eq (f : StrDict → String → StrDict)
    (hf : ∀ d s, envEntry d (.str s) = .ok (f d (textOf s))) :
    ∀ {xs : List PyVal} {d d' : StrDict}, xs.foldlM envEntry d = .ok d' →
      d' = (xs.filterMap strText).foldl f d
  | [], _, _, h => by cases h; rfl
  | x :: xs, d, d', h => by
    rw [List.foldlM_cons, bind_eq_ok] at h
    obtain ⟨d₁, h₁, h⟩ := h
    cases hx : strText x with
    | none =>
      rw [List.filterMap_cons_none hx, ← envEntry_other hx h₁]
      exact foldlM_envEntry_eq f hf h
    | some e =>
      cases x <;> simp only [strText, reduceCtorEq, Option.some.injEq] at hx
      subst hx
      rw [hf] at h₁
      cases h₁
      have ih := foldlM_envEntry_eq f hf h
      exact ih

theorem envOf_eq {env : PyVal} {d : StrDict} (h : envOf env = .ok d) :
    d = parseEnv (match env.iter with
      | .ok xs => xs.filterMap strText
      | .error _ => []) := by
  obtain ⟨xs, hxs, h⟩ := bind_eq_ok.1 h
  rw [hxs]
  exact foldlM_envEntry_eq _ envEntry_str h

theorem resourceLimit_eq_ociLimit {v dflt x : PyVal} {key : String}
    {f : PyVal → Except String PyVal} (h : resourceLimit v key dflt f = .ok x) :
    ociLimit (itemsOf v) key dflt f = .ok x := by
  cases v with
  | dict kvs =>
    cases kvs with
    | nil => simpa [resourceLimit, ociLimit, itemsOf, PyVal.truthy] using h
    | cons kv kvs =>
      simp only [resourceLimit, ociLimit, itemsOf, PyVal.truthy, PyVal.contains, bind,
        Except.bind] at h ⊢
      cases hk : dictGet (kv :: kvs) key <;> simp_all [PyVal.getItem, pure, Except.pure]
  | _ =>
    -- any other value gets through only when its limit is the default
    simp only [resourceLimit, PyVal.contains, PyVal.getItem, bind, Except.bind, pure,
      Except.pure] at h
    repeat' split at h
    all_goals cases h
    all_goals rfl

theorem mapM_nsTypeOf_eq : ∀ {ts : List PyVal} {ns : List (Option String)},
    ts.mapM nsTypeOf = .ok ns →
      ns.filterMap id = (ts.filterMap strText).filterMap nsTypeMap.lookup
  | [], _, h => by rw [List.mapM_nil] at h; cases h; rfl
  | t :: ts, ns, h => by
    rw [List.mapM_cons, bind_eq_ok] at h
    obtain ⟨n, hn, h⟩ := h
    obtain ⟨ns', hns', h⟩ := bind_eq_ok.1 h
    cases h
    have ih := mapM_nsTypeOf_eq hns'
    cases t <;> simp_all [nsTypeOf, strText, List.filterMap_cons]

theorem capsOf_eq {caps x : PyVal} (h : capsOf caps = .ok x) :
    x = if (itemsOf caps).isEmpty then .list [] else capSet (itemsOf caps) := by
  cases caps with
  | dict kvs => cases kvs <;> simp_all [capsOf, itemsOf, PyVal.truthy]
  | _ =>
    simp only [capsOf] at h
    split at h
    · cases h; rfl
    · cases h

/-! ## run-oci refines the record model -/

/-- Whenever `oci_to_container_config` returns a record, `ociToContainerConfig` returns the
same record on the config's abstraction, with the root filesystem the code joined. -/
theorem toContainerConfig_refines {g : Generated} {now : Decimal}
    {abspath : List Char → List Char} {bundle : List Char} {o : OCIConfig} {c : ContainerConfig}
    (h : toContainerConfig g now abspath bundle o = .ok c) :
    ∃ rootfs, ociToContainerConfig g now rootfs o.abstract = .ok c := by
  simp only [toContainerConfig, bind_eq_ok] at h
  obtain ⟨joined, _, env, henv, mem, hmem, quota, hq, period, hp, pids, hpids, ns, hns, caps,
    hcaps, h⟩ := h
  refine ⟨String.mk (if joined.head? = some '/' then joined else abspath joined), ?_⟩
  simp only [ociToContainerConfig, OCIConfig.abstract, resourceLimit_eq_ociLimit hmem,
    resourceLimit_eq_ociLimit hq, resourceLimit_eq_ociLimit hp, resourceLimit_eq_ociLimit hpids,
    bind, Except.bind, ← envOf_eq henv, ← mapM_nsTypeOf_eq hns, ← capsOf_eq hcaps]
  exact h

theorem runOciRecord_of_ok {g : Generated} {now : Decimal} {rootfs : String} {o : OciConfig}
    {c : ContainerConfig} (h : ociToContainerConfig g now rootfs o = .ok c) (rootless : Bool)
    (name : Option String) : runOciRecord g now rootfs o rootless name =
      .ok { c with rootless, name := (name.filter (· != "")).getD c.name } := by
  rw [runOciRecord, h]
  rcases name with _ | n
  · rfl
  · by_cases hn : n = "" <;> simp [hn, Option.filter]

theorem cmdRunOci_inr {g : Generated} {now : Decimal} {abspath : List Char → List Char}
    {b : Bundle} {rootless : Bool} {name : Option String} {c : ContainerConfig}
    (h : cmdRunOci g now abspath b rootless name = .ok (.inr c)) :
    ∃ o c', loadOciConfig b = .ok o ∧ toContainerConfig g now abspath b.path.toList o = .ok c' ∧
      c = { c' with rootless, name := (name.filter (· != "")).getD c'.name } := by
  simp only [cmdRunOci, bind_eq_ok] at h
  obtain ⟨errs, _, h⟩ := h
  split_ifs at h
  · cases h
  split at h
  · cases h
  · cases h
  · next o ho =>
    obtain ⟨c', hc', h⟩ := bind_eq_ok.1 h
    cases h
    refine ⟨o, c', ho, hc', ?_⟩
    rcases name with _ | n
    · rfl
    · by_cases hn : n = "" <;> simp [hn, Option.filter]

/-- Every record `cmd_run_oci` saves is one the record model produces: `runOciRecord` on the
abstraction of the loaded config, whose values `json.load` made well formed. -/
theorem cmdRunOci_produced {g : Generated} {now : Decimal} {abspath : List Char → List Char}
    {b : Bundle} {rootless : Bool} {name : Option String} {c : ContainerConfig}
    (h : cmdRunOci g now abspath b rootless name = .ok (.inr c)) : Produced c := by
  obtain ⟨o, c', ho, hc', rfl⟩ := cmdRunOci_inr h
  obtain ⟨rootfs, hr⟩ := toContainerConfig_refines hc'
  exact .runOci (loadOciConfig_wellFormed ho).abstract (runOciRecord_of_ok hr rootless name)

theorem toContainerConfig_fresh {g : Generated} {now : Decimal}
    {abspath : List Char → List Char} {bundle : List Char} {o : OCIConfig} {c : ContainerConfig}
    (h : toContainerConfig g now abspath bundle o = .ok c) :
    c.id = g.id ∧ c.status = "created" ∧ c.pid = none ∧ c.startedAt = none ∧
      c.finishedAt = none ∧ c.exitCode = none := by
  simp only [toContainerConfig, bind_eq_ok] at h
  obtain ⟨_, _, _, _, _, _, _, _, _, _, _, _, _, _, _, _, h⟩ := h
  cases h
  simp [ContainerConfig.postInit_eq]

/-- The record `cmd_run_oci` saves is new: it has the id `__post_init__` draws, the status
`created`, and no process, start, finish or exit code. -/
theorem cmdRunOci_fresh {g : Generated} {now : Decimal} {abspath : List Char → List Char}
    {b : Bundle} {rootless : Bool} {name : Option String} {c : ContainerConfig}
    (h : cmdRunOci g now abspath b rootless name = .ok (.inr c)) :
    c.id = g.id ∧ c.status = "created" ∧ c.pid = none ∧ c.startedAt = none ∧
      c.finishedAt = none ∧ c.exitCode = none := by
  obtain ⟨_, c', _, hc', rfl⟩ := cmdRunOci_inr h
  have hf := toContainerConfig_fresh hc'
  exact hf

/-- Every record `cmd_run_oci` saves is one the program produces, so the file
`save_container_config` writes for it reads back as the same record, whatever the clock and
the generators give then. -/
theorem cmdRunOci_saved_reloads {g : Generated} {now : Decimal}
    {abspath : List Char → List Char} {b : Bundle} {rootless : Bool} {name : Option String}
    {c : ContainerConfig} (h : cmdRunOci g now abspath b rootless name = .ok (.inr c)) :
    Produced c ∧ ∀ g' now', loadContainerConfigText g' now' (saveContainerConfigText c) = some c :=
  ⟨cmdRunOci_produced h, (cmdRunOci_produced h).reload⟩

/-- The configuration `{"process": {"args": ["sh"]}}`. -/
def shListConfig : String := "\x7b\"process\": \x7b\"args\": [\"sh\"]\x7d\x7d"

/-- A bundle with a root filesystem whose `config.json` gives the command `["sh"]`: `cmd_run_oci`
saves a record, and that record reads back as itself. -/
theorem cmdRunOci_saved_reloads_shList :
    ∃ c, cmdRunOci ⟨"aaaaaaaaaaaa", "brave-lynx", rfl, by decide⟩ ⟨false, 17, 8, by decide⟩ id
      (dirBundle shListConfig) false none = .ok (.inr c) ∧ Produced c ∧
      ∀ g' now', loadContainerConfigText g' now' (saveContainerConfigText c) = some c := by
  have h : cmdRunOci ⟨"aaaaaaaaaaaa", "brave-lynx", rfl, by decide⟩ ⟨false, 17, 8, by decide⟩ id
      (dirBundle shListConfig) false none = .ok (.inr _) := rfl
  exact ⟨_, h, cmdRunOci_saved_reloads h⟩

end MiniDocker.Oci
