import MiniDocker.Record.Config

/-! # Resolving a token against a record store

`find_container_id` and `load_container_config` (metadata.py), and `find_pod_id` and
`load_pod_config` (pod.py), have one shape. There is a directory per record, listed by
`os.listdir`. A token resolves to the first directory whose name starts with it, or whose
record's name equals it. To read a directory's record, the name check calls the loader on the
directory's name, and the loader resolves that name as a token again.

The two functions call each other, and the recursion is modelled with a budget of one more
than the listing's length; `Store.Calls` shows that the recursion the code runs ends within it.
When no record is named after another directory, the code resolves as the spec says
(`resolve_eq_resolveSpec`). When one is, loading the other directory reads the named record.
-/

namespace MiniDocker.Store
open MiniDocker.Record
set_option autoImplicit false

/-- A directory of the store: its name, and what its config.json decodes to (`none` when the
file is missing or does not decode). -/
structure Dir (α : Type) where
  name : String
  record : Option α

/-- `str.startswith`. -/
def startswith (s pre : String) : Bool := pre.toList.isPrefixOf s.toList

theorem startswith_self (s : String) : startswith s s = true := by
  simp [startswith]

theorem eq_of_startswith {s pre : String} (h : startswith s pre = true)
    (hl : s.length = pre.length) : s = pre := by
  simp only [startswith, List.isPrefixOf_iff_prefix] at h
  exact (String.ext (h.eq_of_length hl.symm)).symm

section Resolve
variable {α : Type} (nameOf : α → String) (dirs : List (Dir α))

/-- The record in the first listed directory called `d`. -/
def readConfig (d : String) : Option α := (dirs.find? (·.name = d)).bind (·.record)

/-- `find_*_id` with a recursion budget. A directory matches when its name starts with the
token, or when loading its name as a token gives a record of that name. -/
def findId : Nat → String → Option String
  | 0, _ => none
  | n + 1, t => (dirs.find? fun d => startswith d.name t ||
      ((findId n d.name).bind (readConfig dirs)).any (nameOf · = t)).map (·.name)

/-- `find_*_id` with a budget that always suffices. -/
def resolve (t : String) : Option String := findId nameOf dirs (dirs.length + 1) t

/-- `load_*_config`: resolve the token, then read the directory it resolved to. -/
def load (t : String) : Option α := (resolve nameOf dirs t).bind (readConfig dirs)

/-- The loop of `list_containers` and `list_pods`: every listed directory, loaded as a token. -/
def loadAll : List α := dirs.filterMap fun d => load nameOf dirs d.name

/-- The resolution the spec describes: the first listed directory whose name starts with the
token or whose own record is named by it. -/
def resolveSpec (t : String) : Option String :=
  (dirs.find? fun d => startswith d.name t || d.record.any (nameOf · = t)).map (·.name)

/-- `save_*_config`: write the record into the directory named `n`, in place when it is
listed, and otherwise into a new directory that the listing shows at place `pos`. -/
def save (n : String) (r : α) (pos : Nat) : List (Dir α) :=
  if n ∈ dirs.map (·.name) then dirs.map fun d => if d.name = n then ⟨n, some r⟩ else d
  else dirs.take pos ++ ⟨n, some r⟩ :: dirs.drop pos

/-- `shutil.rmtree` of a directory. -/
def remove (n : String) : List (Dir α) := dirs.filter (·.name ≠ n)

/-- `delete_*_config`: resolve the token and remove what it resolves to; `none` when it
resolves to nothing, where the source returns `False`. -/
def deleteConfig (t : String) : Option (List (Dir α)) :=
  (resolve nameOf dirs t).map (remove dirs)

/-! ## The budget -/

theorem find?_congr {β : Type} {p q : β → Bool} :
    ∀ {l : List β}, (∀ x ∈ l, p x = q x) → l.find? p = l.find? q
  | [], _ => rfl
  | x :: l, h => by
    simp only [List.find?_cons, h x (.head l), find?_congr (fun y hy => h y (.tail x hy))]

theorem find?_eq_some_first {β : Type} {p : β → Bool} {l pre post : List β} {d : β}
    (hl : l = pre ++ d :: post) (h : ∀ x ∈ pre, p x = false) (hd : p d = true) :
    l.find? p = some d := by
  subst hl
  induction pre with
  | nil => simp [hd]
  | cons x pre ih =>
    simp only [List.cons_append, List.find?_cons, h x (.head pre),
      ih (fun y hy => h y (.tail x hy))]

/-! ## When the code meets the spec -/

/-- The listing names no directory twice, and all names have one length, as the twelve-digit
ids that `save_*_config` names directories after do. -/
structure WellFormed : Prop where
  nodup : (dirs.map (·.name)).Nodup
  sameLength : ∀ d ∈ dirs, ∀ d' ∈ dirs, d.name.length = d'.name.length

/-- No record is named after another listed directory. -/
def NoNameClash : Prop :=
  ∀ d ∈ dirs, ∀ r, d.record = some r → ∀ d' ∈ dirs, nameOf r = d'.name → d'.name = d.name

variable {nameOf dirs}

theorem name_ne_of_mem_pre (hw : (dirs.map (·.name)).Nodup) {pre post : List (Dir α)}
    {d x : Dir α} (hdirs : dirs = pre ++ d :: post) (hx : x ∈ pre) : x.name ≠ d.name := by
  intro he
  subst hdirs
  simp only [List.map_append, List.map_cons, List.nodup_append] at hw
  exact hw.2.2 (List.mem_map_of_mem _ hx) (by rw [he]; exact List.mem_cons_self _ _)

theorem readConfig_of_mem (hw : (dirs.map (·.name)).Nodup) {d : Dir α} (hd : d ∈ dirs) :
    readConfig dirs d.name = d.record := by
  obtain ⟨s, t, hst⟩ := List.append_of_mem hd
  have h : dirs.find? (·.name = d.name) = some d :=
    find?_eq_some_first hst (fun x hx => by simpa using name_ne_of_mem_pre hw hst hx) (by simp)
  simp [readConfig, h]

theorem findId_dir (hw : WellFormed dirs) (hc : NoNameClash nameOf dirs) :
    ∀ (i : Nat) (pre post : List (Dir α)) (d : Dir α), dirs = pre ++ d :: post →
      pre.length = i → ∀ (k : Nat), i < k → findId nameOf dirs k d.name = some d.name := by
  intro i
  induction i using Nat.strong_induction_on with
  | _ i ih =>
    intro pre post d hdirs hi k hk
    obtain ⟨k, rfl⟩ : ∃ j, k = j + 1 := ⟨k - 1, by omega⟩
    have hd : d ∈ dirs := by simp [hdirs]
    simp only [findId]
    rw [find?_eq_some_first hdirs (fun x hx => ?_) (by simp [startswith_self])]
    · rfl
    have hne := name_ne_of_mem_pre hw.nodup hdirs hx
    obtain ⟨s, t, rfl⟩ := List.append_of_mem hx
    have hxd : x ∈ dirs := by simp [hdirs]
    have hlt : s.length < i := by simp at hi; omega
    rw [ih s.length hlt s (t ++ d :: post) x (by simp [hdirs]) rfl k (by omega),
      Option.some_bind, readConfig_of_mem hw.nodup hxd, Bool.or_eq_false_iff]
    refine ⟨?_, ?_⟩
    · by_contra hs
      exact hne (eq_of_startswith (by simpa using hs) (hw.sameLength x hxd d hd))
    · cases hr : x.record with
      | none => rfl
      | some r => simpa using fun he => hne (hc x hxd r hr d hd he).symm

theorem load_dir (hw : WellFormed dirs) (hc : NoNameClash nameOf dirs) {d : Dir α}
    (hd : d ∈ dirs) : load nameOf dirs d.name = d.record := by
  obtain ⟨s, t, hst⟩ := List.append_of_mem hd
  have hlt : s.length < dirs.length := by simp [hst]
  simp [load, resolve, findId_dir hw hc s.length s t d hst rfl _ (Nat.lt_succ_of_lt hlt),
    readConfig_of_mem hw.nodup hd]

/-- In a well-formed store without a clash, the code resolves every token as the spec says. -/
theorem resolve_eq_resolveSpec (hw : WellFormed dirs) (hc : NoNameClash nameOf dirs)
    (t : String) : resolve nameOf dirs t = resolveSpec nameOf dirs t := by
  simp only [resolve, resolveSpec, findId]
  congr 1
  apply find?_congr
  intro x hx
  obtain ⟨s, u, hst⟩ := List.append_of_mem hx
  have hlt : s.length < dirs.length := by simp [hst]
  rw [findId_dir hw hc s.length s u x hst rfl _ hlt]
  simp [readConfig_of_mem hw.nodup hx]

theorem loadAll_eq (hw : WellFormed dirs) (hc : NoNameClash nameOf dirs) :
    loadAll nameOf dirs = dirs.filterMap (·.record) := by
  unfold loadAll
  apply List.filterMap_congr
  intro d hd
  exact load_dir hw hc hd

/-! ## Reachable stores -/

variable (nameOf) in
/-- The stores that `save_*_config` and `delete_*_config` build from an empty one. A save
writes into the directory named by the record's twelve-digit id: in place when that directory
is listed, and otherwise in a new directory, which `os.listdir` may list anywhere. -/
inductive Saved (idOf : α → String) : List (Dir α) → Prop
  | empty : Saved idOf []
  | saveNew (pre post : List (Dir α)) (r : α) : Saved idOf (pre ++ post) →
      idOf r ∉ (pre ++ post).map (·.name) → (idOf r).length = 12 →
      Saved idOf (pre ++ ⟨idOf r, some r⟩ :: post)
  | saveOver (pre post : List (Dir α)) (old : Option α) (r : α) :
      Saved idOf (pre ++ ⟨idOf r, old⟩ :: post) → Saved idOf (pre ++ ⟨idOf r, some r⟩ :: post)
  | delete (pre post : List (Dir α)) (d : Dir α) :
      Saved idOf (pre ++ d :: post) → Saved idOf (pre ++ post)

theorem Saved.saveNew_dir {idOf : α → String} (pre post : List (Dir α)) {d : Dir α} {r : α}
    (h : Saved idOf (pre ++ post)) (hr : d.record = some r) (hn : idOf r = d.name)
    (hnew : d.name ∉ (pre ++ post).map (·.name)) (hlen : d.name.length = 12) :
    Saved idOf (pre ++ d :: post) := by
  obtain ⟨name, record⟩ := d
  subst hr hn
  exact .saveNew pre post r h hnew hlen

theorem Saved.name_length {idOf : α → String} (h : Saved idOf dirs) :
    ∀ d ∈ dirs, d.name.length = 12 := by
  induction h with
  | empty => simp
  | saveNew _ _ r _ _ hlen ih =>
    intro d hd
    simp only [List.mem_append, List.mem_cons] at hd
    rcases hd with hd | rfl | hd
    · exact ih d (List.mem_append_left _ hd)
    · exact hlen
    · exact ih d (List.mem_append_right _ hd)
  | saveOver pre post old r _ ih =>
    intro d hd
    simp only [List.mem_append, List.mem_cons] at hd
    rcases hd with hd | rfl | hd
    · exact ih d (by simp [hd])
    · exact ih ⟨idOf r, old⟩ (by simp)
    · exact ih d (by simp [hd])
  | delete _ _ d _ ih =>
    intro x hx
    exact ih x (by simp only [List.mem_append, List.mem_cons] at hx ⊢; tauto)

theorem Saved.names_nodup {idOf : α → String} (h : Saved idOf dirs) :
    (dirs.map (·.name)).Nodup := by
  induction h with
  | empty => exact List.nodup_nil
  | saveNew _ _ r _ hnew _ ih =>
    simp only [List.map_append, List.map_cons, List.nodup_middle, List.nodup_cons]
    exact ⟨by simpa using hnew, by simpa using ih⟩
  | saveOver _ _ _ r _ ih => simpa using ih
  | delete _ _ d _ ih =>
    simp only [List.map_append, List.map_cons, List.nodup_middle, List.nodup_cons] at ih
    simpa using ih.2

/-- Every saved store is well formed: the listing names a directory once, by a twelve-digit id. -/
theorem Saved.wellFormed {idOf : α → String} (h : Saved idOf dirs) : WellFormed dirs :=
  ⟨h.names_nodup, fun d hd d' hd' => by rw [h.name_length d hd, h.name_length d' hd']⟩

/-- In every saved store where no record is named after another directory, resolution is the
spec's and listing loads each stored record once. -/
theorem saved_resolves_as_spec {idOf : α → String} (h : Saved idOf dirs)
    (hc : NoNameClash nameOf dirs) :
    (∀ t, resolve nameOf dirs t = resolveSpec nameOf dirs t) ∧
    loadAll nameOf dirs = dirs.filterMap (·.record) :=
  ⟨resolve_eq_resolveSpec h.wellFormed hc, loadAll_eq h.wellFormed hc⟩

/-! ## Writing the store -/

theorem load_mem {t : String} {r : α} (h : load nameOf dirs t = some r) :
    ∃ d ∈ dirs, d.record = some r := by
  simp only [load, Option.bind_eq_some, readConfig] at h
  obtain ⟨_, _, d, hd, hr⟩ := h
  exact ⟨d, List.mem_of_find?_eq_some hd, hr⟩

theorem forall_save {P : α → Prop} (h : ∀ d ∈ dirs, ∀ r, d.record = some r → P r)
    (n : String) (r : α) (hr : P r) (pos : Nat) :
    ∀ d ∈ save dirs n r pos, ∀ r', d.record = some r' → P r' := by
  intro d hd r' hd'
  simp only [save] at hd
  split at hd
  · obtain ⟨d₀, hd₀, rfl⟩ := List.mem_map.mp hd
    split at hd'
    · cases hd'; exact hr
    · exact h d₀ hd₀ r' hd'
  · simp only [List.mem_append, List.mem_cons] at hd
    rcases hd with hd | rfl | hd
    · exact h d (List.mem_of_mem_take hd) r' hd'
    · cases hd'; exact hr
    · exact h d (List.mem_of_mem_drop hd) r' hd'

theorem forall_remove {P : α → Prop} (h : ∀ d ∈ dirs, ∀ r, d.record = some r → P r)
    (n : String) : ∀ d ∈ remove dirs n, ∀ r, d.record = some r → P r :=
  fun d hd => h d (List.mem_of_mem_filter hd)

end Resolve

/-! ## The container and pod stores -/

/-- `find_container_id`. -/
def findContainerId (dirs : List (Dir ContainerConfig)) (t : String) : Option String :=
  resolve ContainerConfig.name dirs t

/-- `load_container_config`. -/
def loadContainerConfig (dirs : List (Dir ContainerConfig)) (t : String) :
    Option ContainerConfig :=
  load ContainerConfig.name dirs t

/-- `find_pod_id`. -/
def findPodId (dirs : List (Dir PodConfig)) (t : String) : Option String :=
  resolve PodConfig.name dirs t

/-- `load_pod_config`. -/
def loadPodConfig (dirs : List (Dir PodConfig)) (t : String) : Option PodConfig :=
  load PodConfig.name dirs t

/-- `sort(key=lambda c: c.created_at, reverse=True)`: newest first, a stable sort. -/
def sortNewestFirst {α : Type} (createdAt : α → PyFloat) (xs : List α) : List α :=
  xs.mergeSort fun a b => !(createdAt a).lt (createdAt b)

/-- `list_containers`. -/
def listContainers (dirs : List (Dir ContainerConfig)) (allContainers : Bool) :
    List ContainerConfig :=
  sortNewestFirst (·.createdAt)
    ((loadAll ContainerConfig.name dirs).filter fun c => allContainers || c.status = "running")

/-- `list_pods`. -/
def listPods (dirs : List (Dir PodConfig)) : List PodConfig :=
  sortNewestFirst (·.createdAt) (loadAll PodConfig.name dirs)

/-- `run --name x`, where the generator draws the id `bbbbbbbbbbbb`. -/
def clashFirst : Except String ContainerConfig :=
  Container.create "/var/lib/mini-docker/overlay" ⟨"bbbbbbbbbbbb", "calm-otter", rfl, by decide⟩
    ⟨false, 17, 8, by decide⟩
    { rootfs := "/srv/rootfs", rootfsIsDir := true, command := ["/bin/sh"], name := some "x" }

/-- `run --name bbbbbbbbbbbb` afterwards, where the generator draws the id `aaaaaaaaaaaa`. -/
def clashSecond : Except String ContainerConfig :=
  Container.create "/var/lib/mini-docker/overlay" ⟨"aaaaaaaaaaaa", "brave-lynx", rfl, by decide⟩
    ⟨false, 17, 8, by decide⟩
    { rootfs := "/srv/rootfs", rootfsIsDir := true, command := ["/bin/sh"],
      name := some "bbbbbbbbbbbb" }

/-- The store after both, with the second directory listed first. -/
def clashStore : List (Dir ContainerConfig) :=
  [⟨"aaaaaaaaaaaa", clashSecond.toOption⟩, ⟨"bbbbbbbbbbbb", clashFirst.toOption⟩]

/-- In the store of the two `run` commands, `x` no longer resolves, the first container's id
loads the second record, and listing gives the second record twice and the first not at all. -/
theorem name_clash_misresolves :
    Saved ContainerConfig.id clashStore ∧
    clashFirst.toOption.map (·.name) = some "x" ∧
    clashSecond.toOption.map (·.name) = some "bbbbbbbbbbbb" ∧
    resolveSpec ContainerConfig.name clashStore "x" = some "bbbbbbbbbbbb" ∧
    findContainerId clashStore "x" = none ∧
    (loadContainerConfig clashStore "bbbbbbbbbbbb").map (·.id) = some "aaaaaaaaaaaa" ∧
    ((listContainers clashStore true).map (·.id)).Perm ["aaaaaaaaaaaa", "aaaaaaaaaaaa"] := by
  refine ⟨.saveNew_dir [] _ (.saveNew_dir [] [] .empty rfl rfl (by simp) rfl) rfl rfl
    (by decide) rfl, rfl, rfl, by decide, by decide, by decide, ?_⟩
  have hall : ((loadAll ContainerConfig.name clashStore).filter
      fun c => true || c.status = "running").map (·.id) = ["aaaaaaaaaaaa", "aaaaaaaaaaaa"] := by
    decide
  rw [← hall]
  exact (List.mergeSort_perm _ _).map _

/-- Before the second `run`, the store of the first resolves as the spec says. -/
theorem saved_resolves_as_spec_single :
    Saved ContainerConfig.id [⟨"bbbbbbbbbbbb", clashFirst.toOption⟩] ∧
    NoNameClash ContainerConfig.name [⟨"bbbbbbbbbbbb", clashFirst.toOption⟩] ∧
    (∀ t, resolve ContainerConfig.name [⟨"bbbbbbbbbbbb", clashFirst.toOption⟩] t =
      resolveSpec ContainerConfig.name [⟨"bbbbbbbbbbbb", clashFirst.toOption⟩] t) ∧
    loadAll ContainerConfig.name [⟨"bbbbbbbbbbbb", clashFirst.toOption⟩] =
      List.filterMap Dir.record [⟨"bbbbbbbbbbbb", clashFirst.toOption⟩] := by
  have hs : Saved ContainerConfig.id [⟨"bbbbbbbbbbbb", clashFirst.toOption⟩] :=
    .saveNew_dir [] [] .empty rfl rfl (by simp) rfl
  have hc : NoNameClash ContainerConfig.name [⟨"bbbbbbbbbbbb", clashFirst.toOption⟩] := by
    intro d hd r _ d' hd' _
    simp only [List.mem_singleton] at hd hd'
    rw [hd, hd']
  exact ⟨hs, hc, saved_resolves_as_spec hs hc⟩

end MiniDocker.Store
