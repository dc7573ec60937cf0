import MiniDocker.Pods.Membership

/-! # `cleanup` removes the stopped containers

`cmd_cleanup --containers` lists every container record (`list_containers(all_containers=True)`)
and calls `Container.remove(c.id)` on each one that is not running, ignoring any error. In a
store built by saves and deletes (`Saved`) where no record is named after another directory,
each of these calls removes exactly the directory of its record, so the cleanup keeps exactly the
directories of the running records (`cmdCleanupContainers_keeps_running`). In any store, clash or
not, it never removes the directory of a running container (`cmdCleanupContainers_spares_running`).
-/

namespace MiniDocker.Store
open MiniDocker.Record MiniDocker.Pods
set_option autoImplicit false

/-- One turn of the loop of `cmd_cleanup`: `container.remove(c.id)` unless `c` is running; a
removal that raises changes nothing. -/
def cleanupStep (now : Decimal) (s : State) (c : ContainerConfig) : State :=
  if c.status ≠ "running" then
    match containerRemove s c.id false now none with
    | .ok (s', _) => s'
    | .error _ => s
  else s

/-- The container part of `cmd_cleanup`, over the records listed before the loop starts. -/
def cmdCleanupContainers (s : State) (now : Decimal) : State :=
  (listContainers s.containers true).foldl (cleanupStep now) s

/-! ## Stores built by saves and deletes -/

section Saved
variable {α : Type} {idOf nameOf : α → String} {dirs : List (Dir α)}

theorem Saved.mem_eq (h : Saved idOf dirs) : ∀ d ∈ dirs, ∃ r, d = ⟨idOf r, some r⟩ := by
  induction h with
  | empty => simp
  | saveNew pre post r _ _ _ ih | saveOver pre post _ r _ ih =>
    intro d hd
    simp only [List.mem_append, List.mem_cons] at hd
    rcases hd with hd | rfl | hd
    · exact ih d (by simp [hd])
    · exact ⟨r, rfl⟩
    · exact ih d (by simp [hd])
  | delete _ _ _ _ ih =>
    intro d hd
    exact ih d (by simp only [List.mem_append, List.mem_cons] at hd ⊢; tauto)

theorem Saved.split_at (h : Saved idOf dirs) {n : String} (hn : n ∈ dirs.map (·.name)) :
    ∃ pre d post, dirs = pre ++ d :: post ∧ d.name = n ∧ (∀ x ∈ pre, x.name ≠ n) ∧
      ∀ x ∈ post, x.name ≠ n := by
  obtain ⟨d, hd, rfl⟩ := List.mem_map.1 hn
  obtain ⟨pre, post, rfl⟩ := List.append_of_mem hd
  have hnd := h.names_nodup
  simp only [List.map_append, List.map_cons, List.nodup_middle, List.nodup_cons,
    List.mem_append, not_or] at hnd
  exact ⟨pre, d, post, rfl, rfl, fun x hx e => hnd.1.1 (e ▸ List.mem_map_of_mem _ hx),
    fun x hx e => hnd.1.2 (e ▸ List.mem_map_of_mem _ hx)⟩

theorem Saved.remove (h : Saved idOf dirs) (n : String) : Saved idOf (remove dirs n) := by
  by_cases hn : n ∈ dirs.map (·.name)
  · obtain ⟨pre, d, post, rfl, hd, hpre, hpost⟩ := h.split_at hn
    have hr : Store.remove (pre ++ d :: post) n = pre ++ post := by
      simp only [Store.remove, List.filter_append, List.filter_cons, hd, ne_eq, not_true_eq_false,
        decide_False, Bool.false_eq_true, if_false]
      rw [List.filter_eq_self.2 fun x hx => by simpa using hpre x hx,
        List.filter_eq_self.2 fun x hx => by simpa using hpost x hx]
    rw [hr]
    exact .delete pre post d h
  · have hr : Store.remove dirs n = dirs :=
      List.filter_eq_self.2 fun d hd => by
        simpa using fun e : d.name = n => hn (e ▸ List.mem_map_of_mem (·.name) hd)
    rwa [hr]

theorem Saved.save (h : Saved idOf dirs) (r : α) (hlen : (idOf r).length = 12) (pos : Nat) :
    Saved idOf (save dirs (idOf r) r pos) := by
  unfold Store.save
  split
  · next hn =>
    obtain ⟨pre, ⟨_, old⟩, post, rfl, rfl, hpre, hpost⟩ := h.split_at hn
    have hkeep : ∀ l : List (Dir α), (∀ x ∈ l, x.name ≠ idOf r) →
        l.map (fun d => if d.name = idOf r then ⟨idOf r, some r⟩ else d) = l := fun l hl => by
      conv_rhs => rw [← List.map_id l]
      exact List.map_congr_left fun x hx => if_neg (hl x hx)
    rw [List.map_append, List.map_cons, if_pos rfl, hkeep pre hpre, hkeep post hpost]
    exact .saveOver pre post old r h
  · next hn =>
    have h' : Saved idOf (dirs.take pos ++ dirs.drop pos) := by rwa [List.take_append_drop]
    exact .saveNew _ _ r h' (by rwa [List.take_append_drop]) hlen

theorem NoNameClash.of_subset {dirs' : List (Dir α)} (hc : NoNameClash nameOf dirs)
    (hsub : ∀ d ∈ dirs', d ∈ dirs) : NoNameClash nameOf dirs' :=
  fun d hd r hr d' hd' he => hc d (hsub d hd) r hr d' (hsub d' hd') he

theorem resolve_dir (hw : WellFormed dirs) (hc : NoNameClash nameOf dirs) {d : Dir α}
    (hd : d ∈ dirs) : resolve nameOf dirs d.name = some d.name := by
  obtain ⟨pre, post, hst⟩ := List.append_of_mem hd
  exact findId_dir hw hc pre.length pre post d hst rfl _ (by simp [hst]; omega)

end Saved

/-! ## One turn, and the whole loop -/

section Loop
variable {now : Decimal}

theorem cleanupStep_stored {s : State} {c : ContainerConfig}
    (hs : Saved ContainerConfig.id s.containers)
    (hc : NoNameClash ContainerConfig.name s.containers)
    (hd : ⟨c.id, some c⟩ ∈ s.containers) (hr : c.status ≠ "running") :
    (cleanupStep now s c).containers = remove s.containers c.id := by
  have hw := hs.wellFormed
  have hl : loadContainerConfig s.containers c.id = some c :=
    load_dir hw hc hd
  have hres : resolve ContainerConfig.name s.containers c.id = some c.id :=
    resolve_dir hw hc hd
  simp only [cleanupStep, containerRemove, hl, hr, ne_eq, not_false_eq_true, if_true, false_and,
    if_false, deleteConfig, hres, Option.map_some']

theorem foldl_cleanupStep : ∀ (cs : List ContainerConfig) (s : State),
    Saved ContainerConfig.id s.containers → NoNameClash ContainerConfig.name s.containers →
    (∀ c ∈ cs, ⟨c.id, some c⟩ ∈ s.containers) → (cs.map (·.id)).Nodup →
    (cs.foldl (cleanupStep now) s).containers =
      s.containers.filter fun d => d.name ∉ (cs.filter (·.status ≠ "running")).map (·.id)
  | [], s, _, _, _, _ => by simp
  | c :: cs, s, hs, hc, hmem, hnd => by
    rw [List.map_cons, List.nodup_cons, List.mem_map] at hnd
    have hcs : ∀ c' ∈ cs, ⟨c'.id, some c'⟩ ∈ s.containers :=
      fun c' h => hmem c' (List.mem_cons_of_mem _ h)
    rw [List.foldl_cons]
    by_cases hr : c.status = "running"
    · have hstep : cleanupStep now s c = s := by simp [cleanupStep, hr]
      rw [hstep, foldl_cleanupStep cs s hs hc hcs hnd.2]
      simp [List.filter_cons, hr]
    · have hstep := @cleanupStep_stored now s c hs hc (hmem c (List.mem_cons_self _ _)) hr
      have hs' : Saved ContainerConfig.id (cleanupStep now s c).containers :=
        hstep ▸ hs.remove c.id
      have hc' : NoNameClash ContainerConfig.name (cleanupStep now s c).containers :=
        hc.of_subset fun d hd => List.mem_of_mem_filter (hstep ▸ hd)
      have hcs' : ∀ c' ∈ cs, ⟨c'.id, some c'⟩ ∈ (cleanupStep now s c).containers := by
        intro c' h
        rw [hstep]
        exact List.mem_filter.2 ⟨hcs c' h, by simpa using fun e => hnd.1 ⟨c', h, e⟩⟩
      rw [foldl_cleanupStep cs _ hs' hc' hcs' hnd.2, hstep, remove, List.filter_filter]
      simp only [List.filter_cons, hr, ne_eq, not_false_eq_true, decide_True, if_true,
        List.map_cons, List.mem_cons, not_or]
      congr 1
      funext d
      simp [Bool.and_comm]

end Loop

theorem ids_filterMap_record {dirs : List (Dir ContainerConfig)}
    (h : ∀ d ∈ dirs, ∃ r, d = ⟨r.id, some r⟩) :
    (dirs.filterMap (·.record)).map (·.id) = dirs.map (·.name) := by
  induction dirs with
  | nil => rfl
  | cons d ds ih =>
    obtain ⟨r, rfl⟩ := h d (List.mem_cons_self _ _)
    simp [ih fun d hd => h d (List.mem_cons_of_mem _ hd)]

/-! ## The records the loop goes over -/

section Listed
variable {dirs : List (Dir ContainerConfig)}

theorem listContainers_perm (hs : Saved ContainerConfig.id dirs)
    (hc : NoNameClash ContainerConfig.name dirs) :
    (listContainers dirs true).Perm (dirs.filterMap (·.record)) := by
  rw [listContainers, loadAll_eq hs.wellFormed hc]
  simpa using List.mergeSort_perm _ _

theorem mem_listContainers (hs : Saved ContainerConfig.id dirs)
    (hc : NoNameClash ContainerConfig.name dirs) {c : ContainerConfig}
    (h : c ∈ listContainers dirs true) : ⟨c.id, some c⟩ ∈ dirs := by
  obtain ⟨d, hd, hdr⟩ := List.mem_filterMap.1 ((listContainers_perm hs hc).subset h)
  obtain ⟨r, rfl⟩ := hs.mem_eq d hd
  cases hdr
  exact hd

theorem nodup_ids_listContainers (hs : Saved ContainerConfig.id dirs)
    (hc : NoNameClash ContainerConfig.name dirs) :
    ((listContainers dirs true).map (·.id)).Nodup := by
  rw [((listContainers_perm hs hc).map _).nodup_iff, ids_filterMap_record hs.mem_eq]
  exact hs.names_nodup

theorem id_mem_stopped_iff (hs : Saved ContainerConfig.id dirs)
    (hc : NoNameClash ContainerConfig.name dirs) {r : ContainerConfig}
    (hr : ⟨r.id, some r⟩ ∈ dirs) :
    r.id ∈ ((listContainers dirs true).filter (·.status ≠ "running")).map (·.id) ↔
      r.status ≠ "running" := by
  constructor
  · intro hn
    obtain ⟨c, hcf, he⟩ := List.mem_map.1 hn
    obtain ⟨hcl, hcr⟩ := List.mem_filter.1 hcf
    have hcr' := List.inj_on_of_nodup_map hs.names_nodup (mem_listContainers hs hc hcl) hr he
    simp only [Dir.mk.injEq, Option.some.injEq] at hcr'
    simpa [hcr'.2] using hcr
  · intro hn
    have hl := (listContainers_perm hs hc).symm.subset (List.mem_filterMap.2 ⟨_, hr, rfl⟩)
    exact List.mem_map.2 ⟨r, List.mem_filter.2 ⟨hl, by simpa using hn⟩, rfl⟩

end Listed

/-- In a store built by saves and deletes where no record is named after another directory,
`cleanup --containers` keeps exactly the directories of the running records. -/
theorem cmdCleanupContainers_keeps_running {s : State} (now : Decimal)
    (hs : Saved ContainerConfig.id s.containers)
    (hc : NoNameClash ContainerConfig.name s.containers) :
    (cmdCleanupContainers s now).containers =
      s.containers.filter fun d => d.record.any (·.status = "running") := by
  rw [cmdCleanupContainers, foldl_cleanupStep _ s hs hc (fun _ h => mem_listContainers hs hc h)
    (nodup_ids_listContainers hs hc)]
  refine List.filter_congr fun d hd => ?_
  obtain ⟨r, rfl⟩ := hs.mem_eq d hd
  simp only [id_mem_stopped_iff hs hc hd, Option.any_some, ne_eq, not_not]

/-- `run --name web`, where the generator draws the id `aaaaaaaaaaaa`, started as process 42. -/
def webRecord : Option ContainerConfig :=
  (Container.create "/var/lib/mini-docker/overlay" ⟨"aaaaaaaaaaaa", "brave-lynx", rfl, by decide⟩
    ⟨false, 17, 8, by decide⟩
    { rootfs := "/srv/rootfs", rootfsIsDir := true, command := ["/bin/sh"], name := some "web" }
    ).toOption.map fun c =>
      updateContainerStatus ⟨false, 17, 8, by decide⟩ c "running" (some 42) none

/-- `run --name job`, where the generator draws the id `bbbbbbbbbbbb`, never started. -/
def jobRecord : Option ContainerConfig :=
  (Container.create "/var/lib/mini-docker/overlay" ⟨"bbbbbbbbbbbb", "calm-otter", rfl, by decide⟩
    ⟨false, 17, 8, by decide⟩
    { rootfs := "/srv/rootfs", rootfsIsDir := true, command := ["/bin/sh"], name := some "job" }
    ).toOption

/-- The stores holding both containers and no pod. -/
def webJobState : State := ⟨[⟨"aaaaaaaaaaaa", webRecord⟩, ⟨"bbbbbbbbbbbb", jobRecord⟩], []⟩

theorem cmdCleanupContainers_keeps_running_webJob :
    Saved ContainerConfig.id webJobState.containers ∧
      NoNameClash ContainerConfig.name webJobState.containers ∧
      (cmdCleanupContainers webJobState ⟨false, 17, 8, by decide⟩).containers =
        webJobState.containers.filter fun d => d.record.any (·.status = "running") := by
  have hs : Saved ContainerConfig.id webJobState.containers :=
    .saveNew_dir [] _ (.saveNew_dir [] [] .empty rfl rfl (by simp) rfl) rfl rfl (by decide) rfl
  have hc : NoNameClash ContainerConfig.name webJobState.containers := fun d hd r hr =>
    (by decide : ∀ d ∈ webJobState.containers, ∀ r ∈ d.record, ∀ d' ∈ webJobState.containers,
      ContainerConfig.name r = d'.name → d'.name = d.name) d hd r hr
  exact ⟨hs, hc, cmdCleanupContainers_keeps_running _ hs hc⟩

/-! ## No running container is removed

`Container.remove(t)` without `force` loads the record of the directory `t` resolves to, refuses
a running one, and removes that same directory. So, with directory names distinct as the
filesystem keeps them, the cleanup never removes a running container's directory, even in a
store with a name clash, where a token may resolve to another directory than its record's. -/

section Spared
variable {now : Decimal}

theorem containerRemove_spares_running {s s' : State} {t : String} {e : Option Int} {b : Bool}
    (hnd : (s.containers.map (·.name)).Nodup)
    (h : containerRemove s t false now e = .ok (s', b)) :
    s'.containers.Sublist s.containers ∧
      ∀ d ∈ s.containers, d.record.any (·.status = "running") → d ∈ s'.containers := by
  simp only [containerRemove, Bool.not_false, and_true] at h
  split at h
  · cases h
  · next c hc =>
    split_ifs at h with hr
    split at h
    · next cs hdel =>
      cases h
      obtain ⟨n, hn, rfl⟩ := Option.map_eq_some'.1 hdel
      have hcn : readConfig s.containers n = some c := by
        simpa [loadContainerConfig, load, hn] using hc
      refine ⟨List.filter_sublist _, fun d hd hrun => List.mem_filter.2 ⟨hd, ?_⟩⟩
      have hdn : d.name ≠ n := by
        rintro rfl
        rw [readConfig_of_mem hnd hd] at hcn
        simp [hcn, hr] at hrun
      simpa using hdn
    · cases h
      exact ⟨List.Sublist.refl _, fun d hd _ => hd⟩

theorem cleanupStep_spares_running {s : State} {c : ContainerConfig}
    (hnd : (s.containers.map (·.name)).Nodup) :
    (cleanupStep now s c).containers.Sublist s.containers ∧
      ∀ d ∈ s.containers, d.record.any (·.status = "running") →
        d ∈ (cleanupStep now s c).containers := by
  unfold cleanupStep
  split_ifs
  · split
    · next h => exact containerRemove_spares_running hnd h
    · exact ⟨List.Sublist.refl _, fun d hd _ => hd⟩
  · exact ⟨List.Sublist.refl _, fun d hd _ => hd⟩

theorem foldl_cleanupStep_spares_running : ∀ (cs : List ContainerConfig) (s : State),
    (s.containers.map (·.name)).Nodup →
    (cs.foldl (cleanupStep now) s).containers.Sublist s.containers ∧
      ∀ d ∈ s.containers, d.record.any (·.status = "running") →
        d ∈ (cs.foldl (cleanupStep now) s).containers
  | [], _, _ => ⟨List.Sublist.refl _, fun d hd _ => hd⟩
  | c :: cs, s, hnd => by
    obtain ⟨hsub, hkeep⟩ := @cleanupStep_spares_running now s c hnd
    obtain ⟨hsub', hkeep'⟩ := foldl_cleanupStep_spares_running cs _ ((hsub.map _).nodup hnd)
    exact ⟨hsub'.trans hsub, fun d hd hr => hkeep' d (hkeep d hd hr) hr⟩

end Spared

/-- In any store whose directories have distinct names, `cleanup --containers` only removes
directories, and keeps the directory of every running container. -/
theorem cmdCleanupContainers_spares_running {s : State} (now : Decimal)
    (hnd : (s.containers.map (·.name)).Nodup) :
    (cmdCleanupContainers s now).containers.Sublist s.containers ∧
      ∀ d ∈ s.containers, d.record.any (·.status = "running") →
        d ∈ (cmdCleanupContainers s now).containers :=
  foldl_cleanupStep_spares_running _ s hnd

theorem cmdCleanupContainers_spares_running_webJob :
    (webJobState.containers.map (·.name)).Nodup ∧
      ((cmdCleanupContainers webJobState ⟨false, 17, 8, by decide⟩).containers.Sublist
          webJobState.containers ∧
        ∀ d ∈ webJobState.containers, d.record.any (·.status = "running") →
          d ∈ (cmdCleanupContainers webJobState ⟨false, 17, 8, by decide⟩).containers) :=
  ⟨by decide, cmdCleanupContainers_spares_running _ (by decide)⟩

end MiniDocker.Store
