import MiniDocker.Store.Resolve

/-! # The calls of the resolver

`find_*_id(t)` calls `load_*_config(d)` on every listed directory `d` before the one it
returns, and `load_*_config(d)` calls `find_*_id(d)` again. `findIdRun` runs the pair with a
budget on the depth of the recursion, and records each call of the loader as the pair of the
caller's token and the name loaded. A call whose token is a listed directory's name stops at
that directory at the latest, so it loads only directories listed before it
(`findIdRun_calls_earlier`); this is the measure that ends the recursion, and the budget of
the listing's length plus one always completes, with the results of `resolve` and `load`.
The price is exponential: in a store without a name clash, a token that matches nothing makes
`2 ^ n - 1` loader calls for `n` directories, and so does the loop of `list_*` (`listRun`),
which loads every directory (`findIdRun_calls_exponential`).
-/

namespace MiniDocker.Store
open MiniDocker.Record
set_option autoImplicit false

section Calls
variable {α : Type} (nameOf : α → String) (dirs : List (Dir α))

/-- The `for` loop of `find_*_id(t)` over the directories `ds` left to scan, given a run of
`load_*_config` for every name: the id returned and the loader calls made, or `none` when a
load ran out of budget. -/
def scanRun (loadRun : String → Option (Option α × List (String × String))) (t : String) :
    List (Dir α) → Option (Option String × List (String × String))
  | [] => some (none, [])
  | d :: ds =>
    if startswith d.name t then some (some d.name, [])
    else
      match loadRun d.name with
      | none => none
      | some (r, calls) =>
        if r.any (nameOf · = t) then some (some d.name, (t, d.name) :: calls)
        else (scanRun loadRun t ds).map fun rc => (rc.1, (t, d.name) :: calls ++ rc.2)

/-- `find_*_id(t)` with a budget on the depth of the recursion, and the loader calls it makes. -/
def findIdRun : Nat → String → Option (Option String × List (String × String))
  | 0, _ => none
  | n + 1, t => scanRun nameOf
      (fun d => (findIdRun n d).map fun rc => (rc.1.bind (readConfig dirs), rc.2)) t dirs

/-- `load_*_config(t)` with a budget: resolve the token, then read the directory found. -/
def loadRun (n : Nat) (t : String) : Option (Option α × List (String × String)) :=
  (findIdRun nameOf dirs n t).map fun rc => (rc.1.bind (readConfig dirs), rc.2)

/-- The loop of `list_*`: `load_*_config(d.name)` for every listed directory `d` of `ds`, each
with the budget `n`; the records loaded, and the name every loader call loads, the loop's own
calls and those of the loads. -/
def listRun (n : Nat) : List (Dir α) → Option (List α × List String)
  | [] => some ([], [])
  | d :: ds =>
    match loadRun nameOf dirs n d.name, listRun n ds with
    | some (r, cs), some (rs, names) => some (r.toList ++ rs, d.name :: cs.map Prod.snd ++ names)
    | _, _ => none

/-- A loader call `(t', d)` goes back in the listing: when `t'` is the name of a listed
directory, `d` is the name of a directory listed before it. -/
def GoesBack (p : String × String) : Prop :=
  ∀ pre d' post, dirs = pre ++ d' :: post → p.1 = d'.name → ∃ x ∈ pre, x.name = p.2

theorem findIdRun_succ (n : Nat) (t : String) :
    findIdRun nameOf dirs (n + 1) t = scanRun nameOf (loadRun nameOf dirs n) t dirs := rfl

variable {nameOf dirs}

/-! ## The loop -/

theorem scanRun_eq {loadRun : String → Option (Option α × List (String × String))}
    {f : String → Option α} {t : String} : ∀ {l : List (Dir α)},
    (∀ d ∈ l.takeWhile (fun d => !startswith d.name t), ∃ cs, loadRun d.name = some (f d.name, cs)) →
    ∃ calls, scanRun nameOf loadRun t l =
      some ((l.find? fun d => startswith d.name t || (f d.name).any (nameOf · = t)).map (·.name),
        calls)
  | [], _ => ⟨[], rfl⟩
  | d :: ds, h => by
    simp only [scanRun, List.find?_cons]
    by_cases hs : startswith d.name t = true
    · simp [hs]
    · have hd : d ∈ (d :: ds).takeWhile (fun d => !startswith d.name t) := by simp [hs]
      obtain ⟨cs, hcs⟩ := h d hd
      obtain ⟨calls, hrest⟩ := scanRun_eq (l := ds) fun x hx =>
        h x (by simpa [hs] using List.mem_cons_of_mem d hx)
      simp only [hs, if_false, hcs, Bool.false_or]
      cases hany : (f d.name).any (nameOf · = t) <;> simp [hrest]

theorem scanRun_calls {loadRun : String → Option (Option α × List (String × String))}
    {t : String} {P : String × String → Prop}
    (hload : ∀ d r cs, loadRun d = some (r, cs) → ∀ p ∈ cs, P p) : ∀ {l : List (Dir α)},
    (∀ x ∈ l.takeWhile (fun d => !startswith d.name t), P (t, x.name)) →
    ∀ {res calls}, scanRun nameOf loadRun t l = some (res, calls) → ∀ p ∈ calls, P p
  | [], _, _, _, h => by cases h; simp
  | d :: ds, hown, res, calls, h => by
    simp only [scanRun] at h
    by_cases hs : startswith d.name t = true
    · rw [if_pos hs] at h
      cases h; simp
    · have hd : P (t, d.name) := hown d (by simp [hs])
      rw [if_neg hs] at h
      split at h
      · cases h
      · next r cs hcs =>
        have hcs' := hload d.name r cs hcs
        split at h
        · cases h
          simpa [hd] using hcs'
        · obtain ⟨⟨res', calls'⟩, hrest, h⟩ := Option.map_eq_some'.1 h
          cases h
          have hrest' := scanRun_calls hload (l := ds)
            (fun x hx => hown x (by simpa [hs] using List.mem_cons_of_mem d hx)) hrest
          simp only [List.cons_append, List.mem_cons, List.mem_append]
          rintro p (rfl | hp | hp)
          · exact hd
          · exact hcs' p hp
          · exact hrest' p hp

theorem mem_takeWhile_of_stop {t : String} {pre post : List (Dir α)} {d x : Dir α}
    (hd : startswith d.name t = true)
    (hx : x ∈ (pre ++ d :: post).takeWhile (fun d => !startswith d.name t)) : x ∈ pre := by
  induction pre with
  | nil => simp [hd] at hx
  | cons y pre ih =>
    rw [List.cons_append, List.takeWhile_cons] at hx
    split at hx
    · exact (List.mem_cons.1 hx).elim (· ▸ List.mem_cons_self _ _)
        fun h => List.mem_cons_of_mem _ (ih h)
    · cases hx

/-! ## Termination -/

theorem findIdRun_dir (nameOf : α → String) : ∀ (i : Nat) (pre post : List (Dir α)) (d : Dir α),
    dirs = pre ++ d :: post → pre.length = i → ∀ (k : Nat), i < k →
      ∃ calls, findIdRun nameOf dirs k d.name = some (findId nameOf dirs k d.name, calls) := by
  intro i
  induction i using Nat.strong_induction_on with
  | _ i ih =>
    intro pre post d hdirs hi k hk
    obtain ⟨k, rfl⟩ : ∃ j, k = j + 1 := ⟨k - 1, by omega⟩
    rw [findIdRun_succ]
    refine scanRun_eq (f := fun x => (findId nameOf dirs k x).bind (readConfig dirs)) fun x hx => ?_
    have hxpre := mem_takeWhile_of_stop (startswith_self d.name) (hdirs ▸ hx)
    obtain ⟨s, u, rfl⟩ := List.append_of_mem hxpre
    obtain ⟨cs, hcs⟩ := ih s.length (by simp at hi; omega) s (u ++ d :: post) x
      (by simp [hdirs]) rfl k (by simp at hi; omega)
    exact ⟨cs, by simp [loadRun, hcs]⟩

/-- A run with a budget past the listing's length completes, with the id `resolve` gives. -/
theorem findIdRun_complete (t : String) :
    ∃ calls, findIdRun nameOf dirs (dirs.length + 1) t = some (resolve nameOf dirs t, calls) := by
  rw [findIdRun_succ]
  refine scanRun_eq (f := fun x => (findId nameOf dirs dirs.length x).bind (readConfig dirs))
    fun x hx => ?_
  obtain ⟨s, u, hsu⟩ := List.append_of_mem ((List.takeWhile_prefix _).subset hx)
  obtain ⟨cs, hcs⟩ := findIdRun_dir nameOf s.length s u x hsu rfl dirs.length (by simp [hsu])
  exact ⟨cs, by simp [loadRun, hcs]⟩

/-! ## The order of the calls -/

theorem findIdRun_goesBack : ∀ (n : Nat) (t : String) {res calls},
    findIdRun nameOf dirs n t = some (res, calls) → ∀ p ∈ calls, GoesBack dirs p
  | 0, _, _, _, h => nomatch h
  | n + 1, t, _, _, h =>
    scanRun_calls (P := GoesBack dirs) (fun d r cs hrc => by
        obtain ⟨⟨r', cs'⟩, hrun, h⟩ := Option.map_eq_some'.1 hrc
        cases h
        exact findIdRun_goesBack n d hrun)
      (fun x hx pre d' post hdirs ht =>
        ⟨x, mem_takeWhile_of_stop (t := t) (by rw [show t = d'.name from ht]; exact startswith_self _) (hdirs ▸ hx),
          rfl⟩) h

/-- For every token, `find_*_id` and `load_*_config` complete within a recursion depth of the
listing's length plus one, with the results of `resolve` and `load`; and whenever a call of
`find_*_id` whose token names a listed directory calls `load_*_config(d)`, `d` names a
directory listed before that one. -/
theorem findIdRun_calls_earlier (t : String) :
    ∃ calls, findIdRun nameOf dirs (dirs.length + 1) t = some (resolve nameOf dirs t, calls) ∧
      loadRun nameOf dirs (dirs.length + 1) t = some (load nameOf dirs t, calls) ∧
      ∀ p ∈ calls, ∀ pre d' post, dirs = pre ++ d' :: post → p.1 = d'.name →
        ∃ x ∈ pre, x.name = p.2 := by
  obtain ⟨calls, h⟩ : ∃ calls, findIdRun nameOf dirs (dirs.length + 1) t =
      some (resolve nameOf dirs t, calls) := findIdRun_complete t
  exact ⟨calls, h, by simp [loadRun, h, load], findIdRun_goesBack _ t h⟩

/-! ## The number of calls -/

theorem scanRun_append {loadRun : String → Option (Option α × List (String × String))}
    {t : String} {cs : List (String × String)} : ∀ {pre : List (Dir α)},
    scanRun nameOf loadRun t pre = some (none, cs) → ∀ rest,
      scanRun nameOf loadRun t (pre ++ rest) =
        (scanRun nameOf loadRun t rest).map fun rc => (rc.1, cs ++ rc.2)
  | [], h, rest => by cases h; simp
  | d :: pre, h, rest => by
    simp only [scanRun] at h
    split at h
    · cases h
    · next hs =>
      split at h
      · cases h
      · next r cs₀ hload =>
        split at h
        · cases h
        · next hany =>
          obtain ⟨⟨res, cs₁⟩, hpre, h⟩ := Option.map_eq_some'.1 h
          cases h
          simp only [List.cons_append, scanRun, if_neg hs, hload, if_neg hany, List.append_eq,
            scanRun_append hpre rest, Option.map_map]
          simp [Function.comp_def]

theorem scanRun_pass_length {loadRun : String → Option (Option α × List (String × String))}
    {t : String} : ∀ (pre : List (Dir α)),
    (∀ x ∈ pre, startswith x.name t = false ∧ x.record.any (nameOf · = t) = false) →
    (∀ s x u, pre = s ++ x :: u →
      ∃ cs, loadRun x.name = some (x.record, cs) ∧ cs.length = 2 ^ s.length - 1) →
    ∃ cs, scanRun nameOf loadRun t pre = some (none, cs) ∧ cs.length = 2 ^ pre.length - 1 ∧
      ∀ x ∈ pre, (t, x.name) ∈ cs := by
  intro pre
  induction pre using List.reverseRecOn with
  | nil => intros; exact ⟨[], rfl, rfl, by simp⟩
  | append_singleton pre x ih =>
    intro hpass hload
    obtain ⟨cs, hcs, hlen, hmem⟩ := ih (fun y hy => hpass y (List.mem_append_left _ hy))
      fun s y u h => hload s y (u ++ [x]) (by simp [h])
    obtain ⟨csx, hx, hxlen⟩ := hload pre x [] rfl
    have hxp := hpass x (by simp)
    refine ⟨cs ++ (t, x.name) :: csx, ?_, ?_, ?_⟩
    · rw [scanRun_append hcs]
      simp [scanRun, hxp.1, hx, hxp.2]
    · have := Nat.one_le_two_pow (n := pre.length)
      simp only [List.length_append, List.length_cons, List.length_nil, Nat.zero_add, Nat.pow_succ]
      omega
    · simp only [List.mem_append, List.mem_cons, List.not_mem_nil, or_false]
      rintro y (hy | rfl)
      · exact .inl (hmem y hy)
      · exact .inr (.inl rfl)

theorem findIdRun_dir_length (hw : WellFormed dirs) (hc : NoNameClash nameOf dirs) :
    ∀ (i : Nat) (pre post : List (Dir α)) (d : Dir α), dirs = pre ++ d :: post →
      pre.length = i → ∀ (k : Nat), i < k →
        ∃ cs, findIdRun nameOf dirs k d.name = some (some d.name, cs) ∧
          cs.length = 2 ^ i - 1 := by
  intro i
  induction i using Nat.strong_induction_on with
  | _ i ih =>
    intro pre post d hdirs hi k hk
    obtain ⟨k, rfl⟩ : ∃ j, k = j + 1 := ⟨k - 1, by omega⟩
    have hd : d ∈ dirs := by simp [hdirs]
    have hpass : ∀ x ∈ pre,
        startswith x.name d.name = false ∧ x.record.any (nameOf · = d.name) = false := by
      intro x hx
      have hne := name_ne_of_mem_pre hw.nodup hdirs hx
      have hxd : x ∈ dirs := by simp [hdirs, hx]
      refine ⟨?_, ?_⟩
      · by_contra hs
        exact hne (eq_of_startswith (by simpa using hs) (hw.sameLength x hxd d hd))
      · cases hr : x.record with
        | none => rfl
        | some r => simpa using fun he => hne (hc x hxd r hr d hd he).symm
    have hload : ∀ s x u, pre = s ++ x :: u → ∃ cs,
        loadRun nameOf dirs k x.name = some (x.record, cs) ∧ cs.length = 2 ^ s.length - 1 := by
      rintro s x u rfl
      have hxd : x ∈ dirs := by simp [hdirs]
      obtain ⟨cs, hcs, hlen⟩ := ih s.length (by simp at hi; omega) s (u ++ d :: post) x
        (by simp [hdirs]) rfl k (by simp at hi; omega)
      exact ⟨cs, by simp [loadRun, hcs, readConfig_of_mem hw.nodup hxd], hlen⟩
    obtain ⟨cs, hcs, hlen, -⟩ := scanRun_pass_length pre hpass hload
    refine ⟨cs, ?_, by rw [hlen, hi]⟩
    rw [findIdRun_succ, congrArg (scanRun nameOf (loadRun nameOf dirs k) d.name) hdirs,
      scanRun_append hcs]
    simp [scanRun, startswith_self]

theorem loadRun_dir_length (hw : WellFormed dirs) (hc : NoNameClash nameOf dirs)
    {pre post : List (Dir α)} {d : Dir α} (hd : dirs = pre ++ d :: post) :
    ∃ cs, loadRun nameOf dirs (dirs.length + 1) d.name = some (d.record, cs) ∧
      cs.length = 2 ^ pre.length - 1 := by
  have hdm : d ∈ dirs := by simp [hd]
  obtain ⟨cs, hcs, hlen⟩ := findIdRun_dir_length hw hc pre.length pre post d hd rfl
    (dirs.length + 1) (by simp [hd]; omega)
  exact ⟨cs, by simp [loadRun, hcs, readConfig_of_mem hw.nodup hdm], hlen⟩

theorem listRun_suffix (hw : WellFormed dirs) (hc : NoNameClash nameOf dirs) :
    ∀ (rest pre : List (Dir α)), dirs = pre ++ rest →
      ∃ names, listRun nameOf dirs (dirs.length + 1) rest = some (rest.filterMap (·.record), names) ∧
        names.length = 2 ^ dirs.length - 2 ^ pre.length ∧ ∀ d ∈ rest, d.name ∈ names
  | [], pre, h => ⟨[], rfl, by simp [h], by simp⟩
  | d :: rest, pre, h => by
    obtain ⟨cs, hcs, hlen⟩ := loadRun_dir_length hw hc h
    obtain ⟨names, hrest, hnlen, hmem⟩ := listRun_suffix hw hc rest (pre ++ [d]) (by simp [h])
    refine ⟨d.name :: cs.map Prod.snd ++ names, ?_, ?_, ?_⟩
    · simp only [listRun, hcs, hrest, List.filterMap_cons]
      cases d.record <;> rfl
    · have h1 := Nat.one_le_two_pow (n := pre.length)
      have h2 : 2 ^ (pre.length + 1) ≤ 2 ^ dirs.length :=
        Nat.pow_le_pow_right (by decide) (by simp [h])
      simp only [List.length_cons, List.length_append, List.length_map, List.length_nil, hlen,
        hnlen, Nat.zero_add, Nat.pow_succ] at h2 ⊢
      omega
    · intro x hx
      rcases List.mem_cons.1 hx with rfl | hx
      · exact List.mem_cons_self _ _
      · exact List.mem_cons_of_mem _ (List.mem_append_right _ (hmem x hx))

/-- In a well-formed store without a clash, `find_*_id(t)` for a token that starts no
directory's name and names no record loads every directory, and makes `2 ^ n - 1` loader
calls for a listing of `n` directories; the `list_*` loop loads every directory too, reads each
stored record once, and makes `2 ^ n - 1` loader calls as well. -/
theorem findIdRun_calls_exponential (hw : WellFormed dirs) (hc : NoNameClash nameOf dirs)
    {t : String} (ht : ∀ d ∈ dirs, startswith d.name t = false)
    (hr : ∀ d ∈ dirs, d.record.any (nameOf · = t) = false) :
    (∃ calls, findIdRun nameOf dirs (dirs.length + 1) t = some (none, calls) ∧
      calls.length = 2 ^ dirs.length - 1 ∧ ∀ d ∈ dirs, (t, d.name) ∈ calls) ∧
    ∃ names, listRun nameOf dirs (dirs.length + 1) dirs = some (loadAll nameOf dirs, names) ∧
      names.length = 2 ^ dirs.length - 1 ∧ ∀ d ∈ dirs, d.name ∈ names := by
  refine ⟨?_, ?_⟩
  · rw [findIdRun_succ]
    refine scanRun_pass_length dirs (fun x hx => ⟨ht x hx, hr x hx⟩) fun s x u hs => ?_
    have hxd : x ∈ dirs := by simp [hs]
    obtain ⟨cs, hcs, hlen⟩ := findIdRun_dir_length hw hc s.length s u x hs rfl dirs.length
      (by simp [hs])
    exact ⟨cs, by simp [loadRun, hcs, readConfig_of_mem hw.nodup hxd], hlen⟩
  · rw [loadAll_eq hw hc]
    simpa using listRun_suffix hw hc dirs [] rfl

end Calls

/-- The directory of a pod record saved at time zero. -/
def podDir (id name : String) : Dir PodConfig :=
  ⟨id, some { id := id, name := name, createdAt := .finite ⟨false, 0, 0, .inr ⟨rfl, rfl⟩⟩ }⟩

/-- Three pods, `web`, `db` and `cache`, in the order `os.listdir` gives. -/
def threePods : List (Dir PodConfig) :=
  [podDir "aaaaaaaaaaaa" "web", podDir "bbbbbbbbbbbb" "db", podDir "cccccccccccc" "cache"]

/-- Resolving the unknown pod `api` among three pods makes seven loader calls, and so does
listing them. -/
theorem findIdRun_calls_exponential_threePods :
    WellFormed threePods ∧ NoNameClash PodConfig.name threePods ∧
    (∀ d ∈ threePods, startswith d.name "api" = false) ∧
    (∀ d ∈ threePods, d.record.any (PodConfig.name · = "api") = false) ∧
    (∃ calls, findIdRun PodConfig.name threePods 4 "api" = some (none, calls) ∧
      calls.length = 7 ∧ ∀ d ∈ threePods, ("api", d.name) ∈ calls) ∧
    ∃ names, listRun PodConfig.name threePods 4 threePods =
        some (loadAll PodConfig.name threePods, names) ∧
      names.length = 7 ∧ ∀ d ∈ threePods, d.name ∈ names :=
  have hw : WellFormed threePods := ⟨by decide, by decide⟩
  have hc : NoNameClash PodConfig.name threePods := by simp [NoNameClash, threePods, podDir]
  ⟨hw, hc, by decide, by decide, findIdRun_calls_exponential hw hc (by decide) (by decide)⟩

end MiniDocker.Store
