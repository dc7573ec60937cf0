import MiniDocker.Pods.Membership
import MiniDocker.Record.ConfigFile

/-! # The stores hold what their files say

The store model keeps the record of each directory, not the text of its config.json. That is
faithful as long as every stored container record is one that `Container.create` or run-oci and
the status and network updates produce, and every stored pod record one that `PodManager.create`
and its updates produce (`AllProduced`): each of them then reads back from the file
`save_container_config` (`save_pod_config`) wrote as the same record. Every command keeps
`AllProduced` (`Step.allProduced`); `MiniDocker.Pods.Lifecycle` carries it along every run.
-/

namespace MiniDocker.Pods
open MiniDocker.Record MiniDocker.Store
set_option autoImplicit false

/-- Every stored record is one the program produces. -/
structure AllProduced (s : State) : Prop where
  containers : ∀ d ∈ s.containers, ∀ c, d.record = some c → Produced c
  pods : ∀ d ∈ s.pods, ∀ p, d.record = some p → PodProduced p

section Dirs

variable {α : Type} {P : α → Prop}

theorem forall_deleteConfig {nameOf : α → String} {dirs dirs' : List (Dir α)} {t : String}
    (h : ∀ d ∈ dirs, ∀ r, d.record = some r → P r) (hdel : deleteConfig nameOf dirs t = some dirs') :
    ∀ d ∈ dirs', ∀ r, d.record = some r → P r := by
  simp only [deleteConfig, Option.map_eq_some'] at hdel
  obtain ⟨n, -, rfl⟩ := hdel
  exact forall_remove h n

theorem forall_load {nameOf : α → String} {dirs : List (Dir α)} {t : String} {r : α}
    (h : ∀ d ∈ dirs, ∀ r, d.record = some r → P r) (hr : load nameOf dirs t = some r) : P r := by
  obtain ⟨d, hd, hdr⟩ := load_mem hr
  exact h d hd r hdr

end Dirs

theorem produced_updateContainer {dirs : List (Dir ContainerConfig)} {t : String}
    {f : ContainerConfig → ContainerConfig} (h : ∀ d ∈ dirs, ∀ c, d.record = some c → Produced c)
    (hf : ∀ c, Produced c → Produced (f c)) :
    ∀ d ∈ updateContainer dirs t f, ∀ c, d.record = some c → Produced c := by
  simp only [updateContainer]
  split
  · next c hc => exact forall_save h _ _ (hf c (forall_load h hc)) 0
  · exact h

theorem produced_startPods {pods : List (Dir PodConfig)}
    (h : ∀ d ∈ pods, ∀ p, d.record = some p → PodProduced p) (c : ContainerConfig)
    (infraAlive : Bool) : ∀ d ∈ startPods pods c infraAlive, ∀ p, d.record = some p → PodProduced p := by
  simp only [startPods]
  split
  · exact h
  · split
    · exact h
    · next p hp =>
      split
      · exact forall_save h _ _ (forall_load h hp).infraStopped 0
      · exact h

theorem produced_removePods {pods : List (Dir PodConfig)}
    (h : ∀ d ∈ pods, ∀ p, d.record = some p → PodProduced p) (c : ContainerConfig) :
    ∀ d ∈ removePods pods c, ∀ p, d.record = some p → PodProduced p := by
  simp only [removePods, removeContainerFromPod]
  split
  · split
    · next p hp =>
      split
      · exact forall_save h _ _ ((forall_load h hp).removeContainer _) 0
      · exact h
    · exact h
  · exact h

theorem produced_containerStop {dirs : List (Dir ContainerConfig)}
    (h : ∀ d ∈ dirs, ∀ c, d.record = some c → Produced c) (t : String) (now : Decimal)
    (exitCode : Option Int) :
    ∀ d ∈ containerStop dirs t now exitCode, ∀ c, d.record = some c → Produced c := by
  simp only [containerStop]
  split
  · split
    · exact produced_updateContainer h fun c hc => hc.status _ _ _ _
    · exact h
  · exact h

/-- Every command keeps every stored record one the program produces. -/
theorem Step.allProduced {s s' : State} (h : Step s s') (hs : AllProduced s) : AllProduced s' := by
  cases h with
  | podCreate g now pid name hostname pos =>
    exact ⟨hs.containers, forall_save (forall_save hs.pods _ _ (.newPod g now name hostname) pos)
      _ _ ((PodProduced.newPod g now name hostname).infraStarted pid) pos⟩
  | podDelete t force b h =>
    simp only [Pods.podDelete] at h
    split at h
    · cases h; exact hs
    · split at h
      · cases h
      · split at h
        · next hdel => cases h; exact ⟨hs.containers, forall_deleteConfig hs.pods hdel⟩
        · cases h; exact hs
  | create _ _ _ _ _ h =>
    simp only [containerCreate, bind, Except.bind, pure, Except.pure] at h
    split at h
    · cases h
    · next c hc => cases h; exact ⟨forall_save hs.containers _ _ (.create hc) _, hs.pods⟩
  | start t _ pid now infraAlive net h =>
    simp only [containerStart] at h
    split at h
    · cases h
    · split at h
      · cases h
      · split at h
        · cases h
        · cases h
          have hrun := produced_updateContainer (t := t) hs.containers
            fun c hc => hc.status now "running" (some pid) none
          refine ⟨?_, produced_startPods hs.pods _ infraAlive⟩
          split
          · split
            · exact produced_updateContainer hrun fun c hc => hc.network _ _ _
            · exact hrun
          · exact hrun
  | remove t _ now exitCode _ h =>
    simp only [containerRemove] at h
    split at h
    · cases h
    · next c _ =>
      have hstop : ∀ d ∈ (if c.status = "running" then containerStop s.containers t now exitCode
          else s.containers), ∀ c, d.record = some c → Produced c := by
        split
        · exact produced_containerStop hs.containers t now exitCode
        · exact hs.containers
      split at h
      · cases h
      · split at h
        · next hdel =>
          cases h
          exact ⟨forall_deleteConfig hstop hdel, produced_removePods hs.pods _⟩
        · cases h
          exact ⟨hstop, produced_removePods hs.pods _⟩

end MiniDocker.Pods
