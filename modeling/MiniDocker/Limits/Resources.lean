import MiniDocker.Record.Config
import MiniDocker.Limits.Text

/-! # Resource limits from the command line and from OCI bundles

`cmd_run` reads `--memory` with `parse_memory_limit` and floor-divides the bytes by a MiB.
It takes `--cpu` as given, and `--pids` unless that is zero, else `--pids-limit`.
`oci_to_container_config` floor-divides the bundle's memory limit by a MiB and copies the CPU
quota and the pids limit. `Cgroup.set_limits` writes whatever the record holds.

Nothing checks a sign or a lower bound, so a request under one MiB stores 0, and a zero or
negative `--cpu`, `--pids` or bundle value is stored as it is. `cmdRun_limits` says what both
paths store, and exactly when the stored limits are positive.

Strings are read as Python reads them (`Limits.Text`): `str.upper` and `str.strip` with
Unicode's tables, and `int()` with a sign, surrounding blanks and single underscores between
decimal digits of any script. `parse_memory_limit` accepts exactly an `int()` string, alone or
before one suffix (`parseMemoryLimit_ok_iff`): a sign, an underscore, a blank or a non-ASCII
digit before the suffix passes, and nothing bounds the product.
-/

namespace MiniDocker.Limits
open MiniDocker.Record
set_option autoImplicit false

/-! ## Reading numbers -/

/-- The digits after the first one, with an underscore allowed between two digits. -/
def readDigits : List Char → Nat → Option Nat
  | [], acc => some acc
  | '_' :: c :: cs, acc => (pyDecimal c).bind fun d => readDigits cs (acc * 10 + d)
  | c :: cs, acc => (pyDecimal c).bind fun d => readDigits cs (acc * 10 + d)

/-- A non-empty run of decimal digits, of any script, that starts with a digit. -/
def digitsValue : List Char → Option Nat
  | c :: cs => (pyDecimal c).bind (readDigits cs)
  | [] => none

/-- `int(s)` for a string, `none` where it raises `ValueError`. -/
def pyInt (s : List Char) : Option Int :=
  match stripBy isIntSpace s with
  | '-' :: ds => (digitsValue ds).map fun n => -(n : Int)
  | '+' :: ds => (digitsValue ds).map Int.ofNat
  | ds => (digitsValue ds).map Int.ofNat

/-! ## parse_memory_limit -/

/-- `1024 * 1024 * 1024`. -/
def gib : Nat := 1024 * 1024 * 1024

/-- The suffixes in the order the loop tries them: longest first, then in dict order. -/
def suffixes : List (String × Nat) :=
  [("KB", 1024), ("MB", mib), ("GB", gib), ("B", 1), ("K", 1024), ("M", mib), ("G", gib)]

/-- `parse_memory_limit`: the byte count, or the `ValueError` message. The first suffix the
upper-cased string ends with is tried; when the rest is no int the loop stops, and the whole
string is read as an int. -/
def parseMemoryLimit (memoryStr : String) : Except String Int :=
  if memoryStr = "" then .ok 0 else
  let s := strip (pyUpper memoryStr.toList)
  let whole : Except String Int := match pyInt s with
    | some v => .ok v
    | none => .error ("Invalid memory format: " ++ String.mk s)
  match suffixes.find? fun sfx => sfx.1.toList.isSuffixOf s with
  | some sfx =>
    match pyInt (s.take (s.length - sfx.1.length)) with
    | some v => .ok (v * sfx.2)
    | none => whole
  | none => whole

/-! ## The strings parse_memory_limit accepts -/

theorem stripBy_getLast {p : Char → Bool} {s : List Char} {d : Char} (hd : p d = false)
    (h : s.getLast? = some d) : (stripBy p s).getLast? = some d := by
  obtain ⟨t, rfl⟩ := List.getLast?_eq_some_iff.1 h
  obtain ⟨u, hu⟩ : ∃ u, (t ++ [d]).dropWhile p = u ++ [d] := by
    rw [List.dropWhile_append]
    split
    · exact ⟨[], by simp [List.dropWhile, hd]⟩
    · exact ⟨_, rfl⟩
  simp [stripBy, hu, List.dropWhile, hd]

theorem readDigits_getLast (cs : List Char) (acc : Nat) {n : Nat} (h : readDigits cs acc = some n) :
    ∀ c, cs.getLast? = some c → (pyDecimal c).isSome := by
  induction cs, acc using readDigits.induct with
  | case1 acc => simp
  | case2 c cs acc ih =>
    intro x hx
    obtain ⟨d, hd, h⟩ := Option.bind_eq_some.mp (readDigits.eq_2 acc c cs ▸ h)
    cases cs with
    | nil => simp only [List.getLast?_cons_cons, List.getLast?_singleton, Option.some.injEq] at hx
             simp [← hx, hd]
    | cons y ys => exact ih d h x (by simpa using hx)
  | case3 c cs acc hne ih =>
    intro x hx
    obtain ⟨d, hd, h⟩ := Option.bind_eq_some.mp (readDigits.eq_3 acc c cs hne ▸ h)
    cases cs with
    | nil => simp only [List.getLast?_singleton, Option.some.injEq] at hx
             simp [← hx, hd]
    | cons y ys => exact ih d h x (by simpa using hx)

theorem digitsValue_getLast {ds : List Char} {n : Nat} (h : digitsValue ds = some n) :
    ∃ c, ds.getLast? = some c ∧ (pyDecimal c).isSome := by
  match ds, h with
  | c :: cs, h =>
    obtain ⟨d, hd, h⟩ := Option.bind_eq_some.mp h
    cases hcs : cs.getLast? with
    | none => exact ⟨c, by simp [List.getLast?_eq_none_iff.1 hcs], by simp [hd]⟩
    | some x => exact ⟨x, by simp [List.getLast?_cons, hcs], readDigits_getLast cs _ h x hcs⟩

theorem pyInt_getLast {s : List Char} {n : Int} (h : pyInt s = some n) :
    ∃ c, (stripBy isIntSpace s).getLast? = some c ∧ (pyDecimal c).isSome := by
  have hsign : ∀ (x : Char) ds m, digitsValue ds = some m → stripBy isIntSpace s = x :: ds →
      ∃ c, (stripBy isIntSpace s).getLast? = some c ∧ (pyDecimal c).isSome := fun x ds m hm hs => by
    obtain ⟨c, hc, hd⟩ := digitsValue_getLast hm
    have : ds ≠ [] := by rintro rfl; simp at hc
    exact ⟨c, by rw [hs, List.getLast?_cons, hc]; rfl, hd⟩
  unfold pyInt at h
  split at h
  · next ds hs =>
    cases hm : digitsValue ds with
    | none => simp [hm] at h
    | some m => exact hsign _ ds m hm hs
  · next ds hs =>
    cases hm : digitsValue ds with
    | none => simp [hm] at h
    | some m => exact hsign _ ds m hm hs
  · cases hm : digitsValue (stripBy isIntSpace s) with
    | none => simp [hm] at h
    | some m => exact digitsValue_getLast hm


theorem pyInt_last {s : List Char} {n : Int} (h : pyInt s = some n) :
    ∃ t c, s = t ++ [c] ∧ (isIntSpace c || (pyDecimal c).isSome) = true := by
  cases hs : s.getLast? with
  | none =>
    have hnil : pyInt [] = none := rfl
    rw [List.getLast?_eq_none_iff.1 hs, hnil] at h
    cases h
  | some c =>
    obtain ⟨t, rfl⟩ := List.getLast?_eq_some_iff.1 hs
    refine ⟨t, c, rfl, ?_⟩
    cases hsp : isIntSpace c
    · obtain ⟨d, hd, hdig⟩ := pyInt_getLast h
      rw [stripBy_getLast hsp hs] at hd
      cases hd
      simp [hdig]
    · rfl

theorem beq_of_spaceOrDigit {c a : Char} (hc : (isIntSpace c || (pyDecimal c).isSome) = true)
    (ha : (isIntSpace a || (pyDecimal a).isSome) = false) : (a == c) = false := by
  cases h : (a == c)
  · rfl
  · rw [beq_iff_eq] at h
    subst h
    rw [hc] at ha
    cases ha

theorem find?_suffixes_none {t : List Char} {c : Char}
    (hc : (isIntSpace c || (pyDecimal c).isSome) = true) :
    suffixes.find? (fun sfx => sfx.1.toList.isSuffixOf (t ++ [c])) = none := by
  simp [suffixes, List.find?, List.isSuffixOf, List.isPrefixOf,
    beq_of_spaceOrDigit hc (a := 'B') (by decide), beq_of_spaceOrDigit hc (a := 'K') (by decide),
    beq_of_spaceOrDigit hc (a := 'M') (by decide), beq_of_spaceOrDigit hc (a := 'G') (by decide)]

theorem find?_suffixes_some {t : List Char} {c : Char} {sfx : String} {mult : Nat}
    (h : (sfx, mult) ∈ suffixes) (hc : (isIntSpace c || (pyDecimal c).isSome) = true) :
    suffixes.find? (fun y => y.1.toList.isSuffixOf (t ++ [c] ++ sfx.toList)) = some (sfx, mult) := by
  simp only [suffixes, List.mem_cons, Prod.mk.injEq, List.mem_singleton, List.not_mem_nil,
    or_false] at h
  rcases h with ⟨rfl, rfl⟩ | ⟨rfl, rfl⟩ | ⟨rfl, rfl⟩ | ⟨rfl, rfl⟩ | ⟨rfl, rfl⟩ | ⟨rfl, rfl⟩ |
    ⟨rfl, rfl⟩ <;>
  simp [suffixes, List.find?, List.isSuffixOf, List.isPrefixOf,
    beq_of_spaceOrDigit hc (a := 'B') (by decide), beq_of_spaceOrDigit hc (a := 'K') (by decide),
    beq_of_spaceOrDigit hc (a := 'M') (by decide), beq_of_spaceOrDigit hc (a := 'G') (by decide)]

theorem length_toList_eq (s : String) : s.toList.length = s.length := rfl

/-- The strings `parse_memory_limit` accepts: once upper-cased and stripped, a string `int()`
accepts, alone or followed by one of the suffixes; the value is its int times the suffix's
multiplier. -/
theorem parseMemoryLimit_ok_iff {m : String} (hm : m ≠ "") (v : Int) :
    parseMemoryLimit m = .ok v ↔
      ∃ pre sfx mult n, (sfx, mult) ∈ ("", 1) :: suffixes ∧
        strip (pyUpper m.toList) = pre ++ sfx.toList ∧ pyInt pre = some n ∧
        v = n * mult := by
  rw [parseMemoryLimit, if_neg hm]
  dsimp only
  generalize strip (pyUpper m.toList) = s
  constructor
  · intro h
    have hwhole : (match pyInt s with
        | some v => (.ok v : Except String Int)
        | none => .error ("Invalid memory format: " ++ String.mk s)) = .ok v →
        ∃ pre sfx mult n, (sfx, mult) ∈ ("", 1) :: suffixes ∧ s = pre ++ sfx.toList ∧
          pyInt pre = some n ∧ v = n * mult := fun hw => by
      cases hn : pyInt s <;> rw [hn] at hw <;> cases hw
      exact ⟨s, "", 1, v, List.mem_cons_self _ _, by simp, hn, by simp⟩
    split at h
    · next x hx =>
      split at h
      · next n hn =>
        cases h
        have hsuf := List.find?_some hx
        obtain ⟨t, rfl⟩ := List.isSuffixOf_iff_suffix.1 hsuf
        refine ⟨t, x.1, x.2, n, List.mem_cons_of_mem _ (List.mem_of_find?_eq_some hx), rfl, ?_, rfl⟩
        rwa [List.length_append, length_toList_eq, Nat.add_sub_cancel, List.take_left] at hn
      · exact hwhole h
    · exact hwhole h
  · rintro ⟨pre, sfx, mult, n, hmem, rfl, hn, rfl⟩
    obtain ⟨t, c, rfl, hc⟩ := pyInt_last hn
    rcases List.mem_cons.1 hmem with h | h
    · cases h
      rw [String.toList, List.append_nil, find?_suffixes_none hc]
      simp [hn]
    · have htake : (t ++ [c] ++ sfx.toList).take ((t ++ [c] ++ sfx.toList).length - sfx.length) =
          t ++ [c] := by
        rw [List.length_append, ← length_toList_eq, Nat.add_sub_cancel, List.take_left]
      rw [find?_suffixes_some h hc]
      dsimp only
      rw [htake, hn]

/-- `-1M`, `1_0M` and `99999999999G` are accepted: a negative count, an underscore, and a count
of 2^64 bytes or more; so are an Arabic-Indic one and a fullwidth ten before `M`. -/
theorem parseMemoryLimit_accepts_int_syntax :
    parseMemoryLimit "-1M" = .ok (-1048576) ∧ parseMemoryLimit "1_0M" = .ok 10485760 ∧
      parseMemoryLimit "99999999999G" = .ok 107374182398926258176 ∧
      (2 : Int) ^ 64 ≤ 107374182398926258176 ∧
      parseMemoryLimit "\u0661M" = .ok 1048576 ∧ parseMemoryLimit "\uff11\uff10m" = .ok 10485760 :=
  ⟨(parseMemoryLimit_ok_iff (by decide) _).2
      ⟨"-1".toList, "M", mib, -1, by decide, by decide, by decide, by decide⟩,
    (parseMemoryLimit_ok_iff (by decide) _).2
      ⟨"1_0".toList, "M", mib, 10, by decide, by decide, by decide, by decide⟩,
    (parseMemoryLimit_ok_iff (by decide) _).2
      ⟨"99999999999".toList, "G", gib, 99999999999, by decide, by decide, by decide, by decide⟩,
    by decide,
    (parseMemoryLimit_ok_iff (by decide) _).2
      ⟨"\u0661".toList, "M", mib, 1, by decide, by decide, by decide, by decide⟩,
    (parseMemoryLimit_ok_iff (by decide) _).2
      ⟨"\uff11\uff10".toList, "M", mib, 10, by decide, by decide, by decide, by decide⟩⟩

/-! ## cmd_run -/

/-- The options of `run` that reach the record. -/
structure RunArgs where
  rootfs : String
  rootfsIsDir : Bool
  cmd : List String
  name : Option String := none
  hostname : Option String := none
  noOverlay : Bool := false
  cpu : Option Int := none
  memory : Option String := none
  pids : Option Int := none
  pidsLimit : Option Int := none
  env : List String := []
  workdir : String := "/"
  pod : Option String := none
  rootless : Bool := false

/-- Python's `a or b` on two optional ints: `a` unless it is `None` or zero. -/
def pyOr (a b : Option Int) : Option Int :=
  match a with
  | some n => if n = 0 then b else some n
  | none => b

/-- The `--memory` handling of `cmd_run`: no limit for a missing or empty option, else the
parsed bytes floor-divided by a MiB, or the printed error. -/
def memoryMbOf : Option String → Except String (Option Int)
  | none => .ok none
  | some m =>
    if m = "" then .ok none else
    match parseMemoryLimit m with
    | .ok b => .ok (some (b / (mib : Int)))
    | .error e => .error ("Error: " ++ e)

/-- `cmd_run` up to the record `Container.create` saves. -/
def cmdRun (overlayPath : String) (g : Generated) (now : Decimal) (a : RunArgs) :
    Except String ContainerConfig := do
  let memoryMb ← memoryMbOf a.memory
  Container.create overlayPath g now
    { rootfs := a.rootfs, rootfsIsDir := a.rootfsIsDir, command := a.cmd, name := a.name,
      hostname := a.hostname, useOverlay := !a.noOverlay, cpuQuota := a.cpu, memoryMb,
      maxPids := pyOr a.pids a.pidsLimit, env := parseEnv a.env, workdir := a.workdir,
      podId := a.pod, rootless := a.rootless }

/-! ## Cgroup.set_limits -/

/-- The cgroup files `Cgroup.set_limits` writes and the text it writes. `Container.start`
passes no period, so the CPU line always has the default 100000. -/
def setLimits (cpuQuota memoryMb maxPids : Option Int) : List (String × String) :=
  (cpuQuota.map fun q => ("cpu.max", toString q ++ " 100000")).toList ++
  (memoryMb.map fun m => ("memory.max", toString (m * 1024 * 1024))).toList ++
  (maxPids.map fun p => ("pids.max", toString p)).toList

/-! ## When the stored limits are positive -/

/-- A limit that is unset or a positive int. -/
def PositiveOrNone (v : PyVal) : Prop := v = .none ∨ ∃ n : Int, 0 < n ∧ v = .int n

theorem positiveOrNone_optInt (o : Option Int) :
    PositiveOrNone (optInt o) ↔ ∀ n, o = some n → 0 < n := by
  cases o <;> simp [PositiveOrNone, optInt, PyVal.ofOption]

theorem memoryMbOf_ok {m : Option String} {mb : Option Int} (h : memoryMbOf m = .ok mb) :
    ∀ n, mb = some n → ∃ s b, m = some s ∧ s ≠ "" ∧ parseMemoryLimit s = .ok b ∧
      n = b / (mib : Int) := by
  intro n hn
  subst hn
  cases m with
  | none => cases h
  | some s =>
    simp only [memoryMbOf] at h
    split_ifs at h with hs
    · cases h
    split at h
    · rename_i b hb
      cases h
      exact ⟨s, b, rfl, hs, hb, rfl⟩
    · cases h

theorem cmdRun_resources {overlayPath : String} {g : Generated} {now : Decimal} {a : RunArgs}
    {c : ContainerConfig} (h : cmdRun overlayPath g now a = .ok c) :
    ∃ mb, memoryMbOf a.memory = .ok mb ∧ c.resources.cpuQuota = optInt a.cpu ∧
      c.resources.memoryMb = optInt mb ∧ c.resources.maxPids = optInt (pyOr a.pids a.pidsLimit) := by
  simp only [cmdRun, bind, Except.bind] at h
  split at h
  · cases h
  · rename_i mb hmb
    refine ⟨mb, hmb, ?_⟩
    simp only [Container.create] at h
    split at h
    · cases h
    · split at h <;> cases h <;> simp

theorem cmdRun_positive_iff {overlayPath : String} {g : Generated} {now : Decimal}
    {a : RunArgs} {c : ContainerConfig} (h : cmdRun overlayPath g now a = .ok c) :
    (PositiveOrNone c.resources.cpuQuota ∧ PositiveOrNone c.resources.memoryMb ∧
      PositiveOrNone c.resources.maxPids) ↔
    ((∀ n, a.cpu = some n → 0 < n) ∧ (∀ n, pyOr a.pids a.pidsLimit = some n → 0 < n) ∧
      ∀ s b, a.memory = some s → s ≠ "" → parseMemoryLimit s = .ok b → (mib : Int) ≤ b) := by
  obtain ⟨mb, hmb, hq, hm, hp⟩ := cmdRun_resources h
  rw [hq, hm, hp, positiveOrNone_optInt, positiveOrNone_optInt, positiveOrNone_optInt]
  have hmem : (∀ n, mb = some n → 0 < n) ↔
      ∀ s b, a.memory = some s → s ≠ "" → parseMemoryLimit s = .ok b → (mib : Int) ≤ b := by
    constructor
    · intro hpos s b hs hne hb
      have : memoryMbOf a.memory = .ok (some (b / (mib : Int))) := by
        simp [hs, memoryMbOf, hne, hb]
      rw [hmb] at this
      cases this
      have := hpos _ rfl
      simp only [mib] at this ⊢
      omega
    · intro hle n hn
      obtain ⟨s, b, hs, hne, hb, rfl⟩ := memoryMbOf_ok hmb n hn
      have := hle s b hs hne hb
      simp only [mib] at this ⊢
      omega
  rw [hmem]
  tauto

theorem memoryMbOf_ok_iff (m : Option String) :
    (∃ mb, memoryMbOf m = .ok mb) ↔ ∀ s, m = some s → s ≠ "" → ∃ b, parseMemoryLimit s = .ok b := by
  cases m with
  | none => simp [memoryMbOf]
  | some s =>
    simp only [memoryMbOf, Option.some.injEq, forall_eq']
    split_ifs with hs
    · simp [hs]
    · cases parseMemoryLimit s <;> simp [hs]

theorem create_ok_iff (overlayPath : String) (g : Generated) (now : Decimal) (a : CreateArgs) :
    (∃ c, Container.create overlayPath g now a = .ok c) ↔ a.rootfsIsDir := by
  unfold Container.create
  cases a.rootfsIsDir
  · simp
  · simp only [Bool.not_true, Bool.false_eq_true, if_false, iff_true]
    split <;> exact ⟨_, rfl⟩

theorem cmdRun_ok_iff (overlayPath : String) (g : Generated) (now : Decimal) (a : RunArgs) :
    (∃ c, cmdRun overlayPath g now a = .ok c) ↔
      a.rootfsIsDir ∧ ∀ s, a.memory = some s → s ≠ "" → ∃ b, parseMemoryLimit s = .ok b := by
  rw [← memoryMbOf_ok_iff]
  simp only [cmdRun, bind, Except.bind]
  split
  · simp_all
  · rename_i mb hmb
    rw [create_ok_iff]
    exact ⟨fun h => ⟨h, mb, hmb⟩, fun h => h.1⟩

theorem mibFloor_spec {b : Int} (hb : 0 ≤ b) :
    0 ≤ b / mib * mib ∧ b / mib * mib ≤ b ∧ b < b / mib * mib + mib := by
  simp only [mib]
  omega

theorem ociToContainerConfig_resources {g : Generated} {now : Decimal} {rootfs : String}
    {o : OciConfig} {c : ContainerConfig} (h : ociToContainerConfig g now rootfs o = .ok c) :
    ociLimit o.memory "limit" .none (fun v => v.floorDiv mib) = .ok c.resources.memoryMb ∧
      ociLimit o.cpu "quota" .none .ok = .ok c.resources.cpuQuota ∧
      ociLimit o.pids "limit" .none .ok = .ok c.resources.maxPids := by
  simp only [ociToContainerConfig, bind, Except.bind] at h
  split at h <;> try cases h
  split at h <;> try cases h
  split at h <;> try cases h
  split at h <;> cases h
  simp_all

theorem ociLimit_get {d : List (List (Fin 0x110000) × PyVal)} {key : String} {dflt v : PyVal}
    {f : PyVal → Except String PyVal} (h : dictGet d key = some v) : ociLimit d key dflt f = f v := by
  have hne : d.isEmpty = false := by
    cases d with
    | nil => simp [dictGet] at h
    | cons _ _ => rfl
  simp [ociLimit, hne, h]

/-- `run --memory 64M --cpu 50000 --pids 100 /srv/rootfs /bin/sh`. -/
def runWithLimits : RunArgs :=
  { rootfs := "/srv/rootfs", rootfsIsDir := true, cmd := ["/bin/sh"], cpu := some 50000,
    memory := some "64M", pids := some 100 }

end MiniDocker.Limits
