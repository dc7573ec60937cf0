import MiniDocker.Image.Store
import MiniDocker.Image.BuildFile
import MiniDocker.Image.Copy
import MiniDocker.Oci.Load
import MiniDocker.Record.ConfigFile
import MiniDocker.Record.JsonLoad

/-! # Building an image

`ImageBuilder.build` parses the build file, takes the image's id from `generate_container_id`,
and runs the instructions in order on a fresh builder. `FROM`, `RUN` and `COPY` each create a
layer with the generator's next id; `ENV`, `WORKDIR`, `CMD` and `ENTRYPOINT` set a value of the
builder; any other keyword only prints a warning. `_save_config` writes
`json.dump(asdict(config))`, and `list_images` reads the file back.

The host's part (which paths are directories, what the copies and the shell do) is given per
place of the instruction in the file. A build that succeeds computes `runPure`, the build in
which no host step fails (`runInstructions_ok`). Its layers are one per layered
instruction, in order (`build_layers`), and the first of them is a `FROM`. `ENTRYPOINT` sets the
builder's `cmd` just as `CMD` does, so the saved `entrypoint` is always empty and the saved
command is the one of the last `CMD` or `ENTRYPOINT` (`build_command`). An `ENV` key takes the
value of its last assignment (`build_env`). What `_save_config` writes, `list_images` reads back
as the same image (`build_saved_reloads`), and `get_rootfs` gives the directory of the last
layer, raising on an image whose file made none (`build_rootfs`).
-/

namespace MiniDocker.Image.Build
open MiniDocker.Record MiniDocker.Limits MiniDocker.Image
set_option autoImplicit false

/-! ## The records -/

/-- `ImageLayer`: the layer's id, the instruction that made it and its arguments, and
`created_at`, whose default is the int `0`. -/
structure ImageLayer where
  id : String
  instruction : String
  command : String
  createdAt : PyVal := .int 0

/-- `ImageConfig`, as `build` fills it and `list_images` rebuilds it. -/
structure ImageConfig where
  id : String := ""
  name : String := ""
  tag : String := "latest"
  layers : List ImageLayer := []
  env : StrDict := .empty
  workdir : String := "/"
  cmd : PyVal := .list []
  entrypoint : PyVal := .list []

/-- The image as the image store of `resolve_image_path` and `remove_image` sees it. -/
def ImageConfig.toStore (c : ImageConfig) : Image.ImageConfig :=
  { id := c.id, name := c.name, tag := c.tag, layers := c.layers.map (·.id) }

/-- The ids `generate_container_id` returns during one build, in order: the image's first, then
one for each layer `_create_layer` makes. Each has 12 characters. -/
structure Ids where
  next : Nat → String
  length_eq : ∀ n, (next n).length = 12

/-- What the host does while the instruction at place `i` of the file runs: `isDir i p` is
`os.path.isdir(p)`, `raises i` the exception a copy or the shell raises, and `runStderr i` the
shell's standard error when the `RUN` command exits nonzero. -/
structure Host where
  isDir : Nat → String → Bool
  raises : Nat → Option String
  runStderr : Nat → Option String

/-- An exception out of `build`: a `BuildError`, which `cmd_build` reports, or another one. -/
inductive Raised where
  | buildError (msg : String)
  | other (msg : String)
  deriving DecidableEq

/-- The state of an `ImageBuilder` during one build. -/
structure ImageBuilder where
  currentLayer : Option String := none
  layers : List ImageLayer := []
  env : StrDict := .empty
  workdir : String := "/"
  cmd : PyVal := .list []

/-- `self.current_layer` is truthy: a layer id that is no empty string. -/
def ImageBuilder.hasLayer (s : ImageBuilder) : Bool := s.currentLayer.getD "" != ""

/-! ## The handlers -/

section Handlers
variable (host : Host) (ids : Ids) (clock : Nat → Decimal) (imagesPath imageId context : String)

/-- The layer `_create_layer` makes as the builder's `k`-th: the generator's `k + 1`-th id (the
image took the first) and the clock's `k`-th time. -/
def layerAt (k : Nat) (instruction command : String) : ImageLayer :=
  { id := ids.next (k + 1), instruction, command, createdAt := .float (.finite (clock k)) }

/-- `_create_layer(image_id, instruction, command)`: the new layer is appended and made
current. -/
def createLayer (s : ImageBuilder) (instruction command : String) : ImageBuilder :=
  let layer := layerAt ids clock s.layers.length instruction command
  { s with layers := s.layers ++ [layer], currentLayer := some layer.id }

/-- `get_layer_path(image_id, layer_id)`. -/
def layerPath (layerId : String) : String := imagesPath ++ "/" ++ imageId ++ "/layers/" ++ layerId

/-- `_handle_from`: the base path, joined to the build context unless absolute, must be a
directory; the layer is made before `copytree` copies the base into it. -/
def handleFrom (i : Nat) (args : String) (s : ImageBuilder) : Except Raised ImageBuilder :=
  let base := strip args.toList
  let basePath := String.mk (if base.head? = some '/' then base else posixJoin context.toList base)
  if !host.isDir i basePath then .error (.buildError ("Base image not found: " ++ basePath)) else
  let s := createLayer ids clock s "FROM" args
  match host.raises i with
  | some e => .error (.other e)
  | none => .ok s

/-- `_handle_run`: refused before any layer; otherwise the layer is made, the previous one copied
into it, and `/bin/sh -c args` run there, a nonzero exit raising `BuildError`. -/
def handleRun (i : Nat) (args : String) (s : ImageBuilder) : Except Raised ImageBuilder :=
  if !s.hasLayer then .error (.buildError "RUN instruction before FROM") else
  let s := createLayer ids clock s "RUN" args
  match host.raises i, host.runStderr i with
  | some e, _ => .error (.other e)
  | none, some err => .error (.buildError ("RUN failed: " ++ err))
  | none, none => .ok s

/-- `_handle_copy`: the checks of `Image.handleCopy` come first; then the layer is made and the
previous layer and the sources are copied into it. -/
def handleCopy (i : Nat) (args : String) (s : ImageBuilder) : Except Raised ImageBuilder :=
  let newLayer := layerPath imagesPath imageId (ids.next (s.layers.length + 1))
  match Image.handleCopy s.hasLayer newLayer.toList context.toList args.toList with
  | .error e => .error (.buildError e)
  | .ok _ =>
    let s := createLayer ids clock s "COPY" args
    match host.raises i with
    | some e => .error (.other e)
    | none => .ok s

end Handlers

/-- The assignment of `_handle_env`: `KEY=VALUE`, split at the first `=` and both sides
stripped, or else `KEY VALUE`, split at the first blanks; a single word assigns nothing. -/
def envAssignment (args : String) : Option (String × String) :=
  if '=' ∈ args.toList then
    let kv := args.toList.span (· ≠ '=')
    some (String.mk (strip kv.1), String.mk (strip (kv.2.drop 1)))
  else
    match splitWord args.toList with
    | some (k, v@(_ :: _)) => some (String.mk k, String.mk v)
    | _ => none

/-- `_handle_env`. -/
def handleEnv (args : String) (s : ImageBuilder) : ImageBuilder :=
  match envAssignment args with
  | some (k, v) => { s with env := s.env.set k v }
  | none => s

/-- `_handle_workdir`. -/
def handleWorkdir (args : String) (s : ImageBuilder) : ImageBuilder :=
  { s with workdir := String.mk (strip args.toList) }

/-- The command of the stripped arguments `a`: the value `json.loads(a)` gives when `a` starts
with `[` and is JSON, and the fallback otherwise. -/
def commandValue (a : List Char) (fallback : PyVal) : PyVal :=
  if a.head? = some '[' then
    match load a with
    | .ok v => v
    | .error _ => fallback
  else fallback

/-- `_handle_cmd` and `_handle_entrypoint`: both store the command in `self.cmd`, and differ
only in the fallback for arguments that are no JSON list. -/
def setCommand (fallback : List Char → PyVal) (args : String) (s : ImageBuilder) : ImageBuilder :=
  let a := strip args.toList
  { s with cmd := commandValue a (fallback a) }

/-- `_handle_cmd`: the fallback is `["/bin/sh", "-c", args]`. -/
def handleCmd : String → ImageBuilder → ImageBuilder :=
  setCommand fun a => .list [.ofString "/bin/sh", .ofString "-c", .ofString (String.mk a)]

/-- `_handle_entrypoint`: the fallback is `[args]`. -/
def handleEntrypoint : String → ImageBuilder → ImageBuilder :=
  setCommand fun a => .list [.ofString (String.mk a)]

/-- The handlers of the instructions that make no layer; any other keyword prints a warning
and changes nothing. -/
def applySetting (p : String × String) (s : ImageBuilder) : ImageBuilder :=
  match p.1 with
  | "ENV" => handleEnv p.2 s
  | "WORKDIR" => handleWorkdir p.2 s
  | "CMD" => handleCmd p.2 s
  | "ENTRYPOINT" => handleEntrypoint p.2 s
  | _ => s

/-! ## The build -/

section Build
variable (host : Host) (ids : Ids) (clock : Nat → Decimal) (imagesPath context : String)

/-- `_process_instruction` for the instruction `p` at place `i` of the file: the `handlers`
table, its three layered entries first. -/
def processInstruction (imageId : String) (i : Nat) (p : String × String) (s : ImageBuilder) :
    Except Raised ImageBuilder :=
  match p.1 with
  | "FROM" => handleFrom host ids clock context i p.2 s
  | "RUN" => handleRun host ids clock i p.2 s
  | "COPY" => handleCopy host ids clock imagesPath imageId context i p.2 s
  | _ => .ok (applySetting p s)

/-- The loop of `build` over the instructions, from place `i` of the file. -/
def runInstructions (imageId : String) : Nat → List (String × String) → ImageBuilder →
    Except Raised ImageBuilder
  | _, [], s => .ok s
  | i, p :: ps, s => do
    let s ← processInstruction host ids clock imagesPath context imageId i p s
    runInstructions imageId (i + 1) ps s

/-- `ImageBuilder.build(build_file, name)` on a fresh builder, given the file's text when it
exists: the config `_save_config` saves. -/
def build (buildFile : String) (content : Option String) (name : String) :
    Except Raised ImageConfig :=
  match content with
  | none => .error (.buildError ("Build file not found: " ++ buildFile))
  | some text =>
    let instructions := parseImageFile text
    if instructions = [] then .error (.buildError "No instructions found in build file") else
    let nameTag := buildNameTag name
    let imageId := ids.next 0
    do
      let s ← runInstructions host ids clock imagesPath context imageId 0 instructions {}
      return { id := imageId, name := nameTag.1, tag := nameTag.2, layers := s.layers,
               env := s.env, workdir := s.workdir, cmd := s.cmd }

end Build

/-! ## One step -/

/-- The instructions that make a layer. -/
def layered (k : String) : Bool := k == "FROM" || k == "RUN" || k == "COPY"

section Pure
variable (ids : Ids) (clock : Nat → Decimal)

/-- One instruction of a build in which no host step fails. -/
def pureStep (s : ImageBuilder) (p : String × String) : ImageBuilder :=
  if layered p.1 then createLayer ids clock s p.1 p.2 else applySetting p s

/-- A build in which no host step fails. -/
def runPure (s : ImageBuilder) (ps : List (String × String)) : ImageBuilder :=
  ps.foldl (pureStep ids clock) s

/-- The layers made for the layered instructions `ps`, from the builder's `k`-th on. -/
def layersFrom : Nat → List (String × String) → List ImageLayer
  | _, [] => []
  | k, p :: ps => layerAt ids clock k p.1 p.2 :: layersFrom (k + 1) ps

variable {ids clock}

@[simp] theorem createLayer_layers (s : ImageBuilder) (i c : String) :
    (createLayer ids clock s i c).layers = s.layers ++ [layerAt ids clock s.layers.length i c] :=
  rfl

@[simp] theorem createLayer_currentLayer (s : ImageBuilder) (i c : String) :
    (createLayer ids clock s i c).currentLayer = some (ids.next (s.layers.length + 1)) := rfl

@[simp] theorem createLayer_env (s : ImageBuilder) (i c : String) :
    (createLayer ids clock s i c).env = s.env := rfl

@[simp] theorem createLayer_workdir (s : ImageBuilder) (i c : String) :
    (createLayer ids clock s i c).workdir = s.workdir := rfl

@[simp] theorem createLayer_cmd (s : ImageBuilder) (i c : String) :
    (createLayer ids clock s i c).cmd = s.cmd := rfl

end Pure

theorem handleEnv_frame (a : String) (s : ImageBuilder) :
    (handleEnv a s).layers = s.layers ∧ (handleEnv a s).currentLayer = s.currentLayer ∧
      (handleEnv a s).workdir = s.workdir ∧ (handleEnv a s).cmd = s.cmd := by
  unfold handleEnv
  split <;> exact ⟨rfl, rfl, rfl, rfl⟩

theorem applySetting_eq (k a : String) (s : ImageBuilder) :
    applySetting (k, a) s =
      if k = "ENV" then handleEnv a s else if k = "WORKDIR" then handleWorkdir a s
      else if k = "CMD" then handleCmd a s else if k = "ENTRYPOINT" then handleEntrypoint a s
      else s := by
  unfold applySetting
  split <;> simp_all

theorem applySetting_frame (p : String × String) (s : ImageBuilder) :
    (applySetting p s).layers = s.layers ∧ (applySetting p s).currentLayer = s.currentLayer := by
  obtain ⟨k, a⟩ := p
  rw [applySetting_eq]
  split_ifs
  · exact ⟨(handleEnv_frame a s).1, (handleEnv_frame a s).2.1⟩
  all_goals exact ⟨rfl, rfl⟩

@[simp] theorem applySetting_layers (p : String × String) (s : ImageBuilder) :
    (applySetting p s).layers = s.layers := (applySetting_frame p s).1

@[simp] theorem applySetting_currentLayer (p : String × String) (s : ImageBuilder) :
    (applySetting p s).currentLayer = s.currentLayer := (applySetting_frame p s).2

theorem hasLayer_of_none {s : ImageBuilder} (h : s.currentLayer = none) : s.hasLayer = false := by
  simp [ImageBuilder.hasLayer, h]

section Step
variable {host : Host} {ids : Ids} {clock : Nat → Decimal} {imagesPath context : String}

theorem processInstruction_ok {imageId : String} {i : Nat} {p : String × String}
    {s s' : ImageBuilder}
    (h : processInstruction host ids clock imagesPath context imageId i p s = .ok s') :
    s' = pureStep ids clock s p ∧ (layered p.1 = true → p.1 = "FROM" ∨ s.hasLayer = true) := by
  obtain ⟨k, a⟩ := p
  unfold processInstruction at h
  split at h
  · next hk =>
    obtain rfl : k = "FROM" := hk
    simp only [handleFrom] at h
    split_ifs at h <;> split at h <;> cases h
    all_goals exact ⟨rfl, fun _ => .inl rfl⟩
  · next hk =>
    obtain rfl : k = "RUN" := hk
    simp only [handleRun] at h
    split_ifs at h with hl
    split at h <;> cases h
    exact ⟨rfl, fun _ => .inr (by simpa using hl)⟩
  · next hk =>
    obtain rfl : k = "COPY" := hk
    simp only [handleCopy] at h
    split at h
    · cases h
    · next hc =>
      split at h <;> cases h
      refine ⟨rfl, fun _ => .inr ?_⟩
      by_contra hl
      simp [Image.handleCopy, hl] at hc
  · cases h
    have hl : layered k = false := by simp_all [layered]
    simp [pureStep, hl]

theorem exists_of_bind_ok {ε α β : Type} {x : Except ε α} {f : α → Except ε β} {b : β}
    (h : x >>= f = .ok b) : ∃ a, x = .ok a ∧ f a = .ok b := by
  cases x with
  | error e => cases h
  | ok a => exact ⟨a, rfl, h⟩

/-- The loop of a build that does not raise computes the build in which no host step fails;
started with no current layer, the first layered instruction it runs is a `FROM`. -/
theorem runInstructions_ok {imageId : String} :
    ∀ {i : Nat} {ps : List (String × String)} {s s' : ImageBuilder},
    runInstructions host ids clock imagesPath context imageId i ps s = .ok s' →
    s' = runPure ids clock s ps ∧
      (s.currentLayer = none → ∀ p ∈ (ps.filter fun p => layered p.1).head?, p.1 = "FROM")
  | _, [], s, s', h => by cases h; exact ⟨rfl, by simp⟩
  | i, p :: ps, s, s', h => by
    obtain ⟨s₁, h₁, h⟩ := exists_of_bind_ok h
    obtain ⟨rfl, hp⟩ := processInstruction_ok h₁
    obtain ⟨rfl, hps⟩ := runInstructions_ok h
    refine ⟨rfl, fun hn q hq => ?_⟩
    by_cases hl : layered p.1 = true
    · simp only [List.filter_cons, hl, if_true, List.head?_cons, Option.mem_def,
        Option.some.injEq] at hq
      subst hq
      exact (hp hl).resolve_right (by simp [hasLayer_of_none hn])
    · simp only [List.filter_cons, hl, if_false] at hq
      exact hps (by simp [pureStep, hl, hn]) q hq

theorem build_ok {buildFile text name : String} {c : ImageConfig}
    (h : build host ids clock imagesPath context buildFile (some text) name = .ok c) :
    c = { id := ids.next 0, name := (buildNameTag name).1, tag := (buildNameTag name).2,
          layers := (runPure ids clock {} (parseImageFile text)).layers,
          env := (runPure ids clock {} (parseImageFile text)).env,
          workdir := (runPure ids clock {} (parseImageFile text)).workdir,
          cmd := (runPure ids clock {} (parseImageFile text)).cmd } ∧
      ∀ p ∈ ((parseImageFile text).filter fun p => layered p.1).head?, p.1 = "FROM" := by
  simp only [build] at h
  split_ifs at h
  obtain ⟨s, hs, h⟩ := exists_of_bind_ok h
  cases h
  obtain ⟨rfl, hf⟩ := runInstructions_ok hs
  exact ⟨rfl, hf rfl⟩

theorem runInstructions_settings {imageId : String} :
    ∀ {i : Nat} {ps : List (String × String)} (s : ImageBuilder), (∀ p ∈ ps, layered p.1 = false) →
    runInstructions host ids clock imagesPath context imageId i ps s = .ok (runPure ids clock s ps)
  | _, [], _, _ => rfl
  | i, p :: ps, s, hps => by
    have hp : layered p.1 = false := hps p (List.mem_cons_self _ _)
    have h₁ : processInstruction host ids clock imagesPath context imageId i p s =
        .ok (applySetting p s) := by
      unfold processInstruction
      split <;> simp_all [layered]
    simp only [runInstructions, h₁, bind, Except.bind,
      runInstructions_settings _ fun q hq => hps q (List.mem_cons_of_mem _ hq)]
    simp [runPure, pureStep, hp]

end Step

theorem lookup_cons' (k a b : String) (kvs : List (String × String)) :
    ((a, b) :: kvs).lookup k = if k = a then some b else kvs.lookup k := by
  by_cases h : k = a <;> simp [List.lookup_cons, h, beq_false_of_ne]

theorem lookup_eq_none_of_not_mem {k : String} :
    ∀ {kvs : List (String × String)}, k ∉ kvs.map Prod.fst → kvs.lookup k = none
  | [], _ => rfl
  | (a, b) :: kvs, h => by
    have ha : k ≠ a := fun e => h (e ▸ List.mem_cons_self _ _)
    rw [lookup_cons', if_neg ha, lookup_eq_none_of_not_mem fun hm => h (List.mem_cons_of_mem _ hm)]

theorem lookup_replaceAt {k v k' : String} :
    ∀ {kvs : List (String × String)}, k ∈ kvs.map Prod.fst →
    (StrDict.replaceAt k v kvs).lookup k' = if k' = k then some v else kvs.lookup k'
  | (a, b) :: kvs, hk => by
    by_cases ha : a = k
    · subst ha
      by_cases h' : k' = a <;> simp [StrDict.replaceAt, lookup_cons', h']
    · have hk' : k ∈ kvs.map Prod.fst := by simpa [Ne.symm ha] using hk
      simp only [StrDict.replaceAt, ha, if_false, lookup_cons', lookup_replaceAt hk']
      by_cases h' : k' = k
      · subst h'; simp [Ne.symm ha]
      · simp [h']

theorem StrDict.lookup_set (d : StrDict) (k v k' : String) :
    (d.set k v).items.lookup k' = if k' = k then some v else d.items.lookup k' := by
  unfold StrDict.set
  split
  · next hk => exact lookup_replaceAt hk
  · next hk =>
    rw [List.lookup_append, lookup_cons', List.lookup_nil]
    by_cases h' : k' = k
    · subst h'; simp [lookup_eq_none_of_not_mem hk]
    · simp [h']

/-! ## What a build sets -/

/-- The command an instruction sets: `CMD` and `ENTRYPOINT` alike store theirs in `cmd`. -/
def commandOf (p : String × String) : Option PyVal :=
  if p.1 = "CMD" then some (handleCmd p.2 {}).cmd
  else if p.1 = "ENTRYPOINT" then some (handleEntrypoint p.2 {}).cmd
  else none

/-- The working directory an instruction sets. -/
def workdirOf (p : String × String) : Option String :=
  if p.1 = "WORKDIR" then some (String.mk (strip p.2.toList)) else none

/-- The assignments the `ENV` instructions of `ps` make, in order. -/
def envAssignments (ps : List (String × String)) : List (String × String) :=
  ps.filterMap fun p => if p.1 = "ENV" then envAssignment p.2 else none

theorem foldl_last {α β γ : Type} (step : β → α → β) (f : β → γ) (u : α → Option γ)
    (hstep : ∀ b a, f (step b a) = (u a).getD (f b)) :
    ∀ (ps : List α) (b : β), f (ps.foldl step b) = ((ps.filterMap u).getLast?).getD (f b)
  | [], _ => rfl
  | a :: ps, b => by
    rw [List.foldl_cons, foldl_last step f u hstep ps, hstep, List.filterMap_cons]
    cases u a <;> simp [List.getLast?_cons]

theorem layered_cases {k : String} (h : layered k = true) :
    k = "FROM" ∨ k = "RUN" ∨ k = "COPY" := by
  simpa [layered, or_assoc] using h

section Fields
variable {ids : Ids} {clock : Nat → Decimal}

theorem runPure_layers (ps : List (String × String)) : ∀ s : ImageBuilder,
    (runPure ids clock s ps).layers =
      s.layers ++ layersFrom ids clock s.layers.length (ps.filter fun p => layered p.1) := by
  induction ps with
  | nil => simp [runPure, layersFrom]
  | cons p ps ih =>
    intro s
    have ih := ih (pureStep ids clock s p)
    rw [runPure, List.foldl_cons] at *
    by_cases hl : layered p.1 = true
    · simp only [pureStep, hl, if_true, createLayer_layers, List.length_append,
        List.length_singleton, List.filter_cons] at ih ⊢
      simp [ih, layersFrom]
    · simp only [pureStep, hl, if_false, applySetting_layers, List.filter_cons,
        Bool.false_eq_true] at ih ⊢
      exact ih

theorem runPure_layers_empty (ps : List (String × String)) :
    (runPure ids clock {} ps).layers = layersFrom ids clock 0 (ps.filter fun p => layered p.1) := by
  simpa using runPure_layers ps {}

theorem pureStep_cmd (s : ImageBuilder) (p : String × String) :
    (pureStep ids clock s p).cmd = (commandOf p).getD s.cmd := by
  obtain ⟨k, a⟩ := p
  by_cases hl : layered k = true
  · rcases layered_cases hl with rfl | rfl | rfl <;> rfl
  · simp only [pureStep, hl, Bool.false_eq_true, if_false, applySetting_eq, commandOf]
    split_ifs <;> simp_all [(handleEnv_frame a s).2.2.2]
    all_goals rfl

theorem pureStep_workdir (s : ImageBuilder) (p : String × String) :
    (pureStep ids clock s p).workdir = (workdirOf p).getD s.workdir := by
  obtain ⟨k, a⟩ := p
  by_cases hl : layered k = true
  · rcases layered_cases hl with rfl | rfl | rfl <;> rfl
  · simp only [pureStep, hl, Bool.false_eq_true, if_false, applySetting_eq, workdirOf]
    split_ifs <;> simp_all [(handleEnv_frame a s).2.2.1]
    all_goals rfl

theorem runPure_cmd (s : ImageBuilder) (ps : List (String × String)) :
    (runPure ids clock s ps).cmd = ((ps.filterMap commandOf).getLast?).getD s.cmd :=
  foldl_last _ (·.cmd) commandOf pureStep_cmd ps s

theorem runPure_workdir (s : ImageBuilder) (ps : List (String × String)) :
    (runPure ids clock s ps).workdir = ((ps.filterMap workdirOf).getLast?).getD s.workdir :=
  foldl_last _ (·.workdir) workdirOf pureStep_workdir ps s

theorem pureStep_env (s : ImageBuilder) (p : String × String) :
    (pureStep ids clock s p).env =
      ((if p.1 = "ENV" then envAssignment p.2 else none).map fun kv => s.env.set kv.1 kv.2).getD
        s.env := by
  obtain ⟨k, a⟩ := p
  by_cases hl : layered k = true
  · rcases layered_cases hl with rfl | rfl | rfl <;> rfl
  · simp only [pureStep, hl, Bool.false_eq_true, if_false, applySetting_eq]
    by_cases h₁ : k = "ENV"
    · subst h₁
      simp only [if_true]
      unfold handleEnv
      split <;> simp_all
    · simp only [h₁, if_false, Option.map_none', Option.getD_none]
      split_ifs <;> rfl

theorem envAssignments_cons (p : String × String) (ps : List (String × String)) :
    envAssignments (p :: ps) =
      ((if p.1 = "ENV" then envAssignment p.2 else none).map ([·])).getD [] ++
        envAssignments ps := by
  simp only [envAssignments, List.filterMap_cons]
  split <;> simp_all

theorem runPure_env (k : String) (ps : List (String × String)) : ∀ s : ImageBuilder,
    (runPure ids clock s ps).env.items.lookup k =
      ((envAssignments ps).reverse.lookup k).or (s.env.items.lookup k) := by
  induction ps with
  | nil => intro s; rfl
  | cons p ps ih =>
    intro s
    rw [runPure, List.foldl_cons, ← runPure, ih, pureStep_env, envAssignments_cons]
    cases (if p.1 = "ENV" then envAssignment p.2 else none) with
    | none => rfl
    | some kv =>
      obtain ⟨k', v⟩ := kv
      simp only [Option.map_some', Option.getD_some, List.reverse_append, List.reverse_singleton,
        List.lookup_append, Option.or_assoc, StrDict.lookup_set, lookup_cons', List.lookup_nil]
      split_ifs <;> rfl

theorem getLast?_ids_layersFrom : ∀ (k : Nat) (ps : List (String × String)),
    ((layersFrom ids clock k ps).map (·.id)).getLast? =
      match ps.length with
      | 0 => none
      | n + 1 => some (ids.next (k + n + 1))
  | _, [] => rfl
  | k, p :: ps => by
    have ih := getLast?_ids_layersFrom (k + 1) ps
    cases ps with
    | nil => rfl
    | cons q qs =>
      simp only [layersFrom, List.map_cons, List.getLast?_cons_cons, List.length_cons] at ih ⊢
      rw [ih]
      congr 3
      omega

end Fields

/-! ## config.json -/

namespace ImageLayer

/-- The dataclass fields, in order. -/
def fields : List String := ["id", "instruction", "command", "created_at"]

/-- `asdict`. -/
def asdict (l : ImageLayer) : List (List (Fin 0x110000) × PyVal) :=
  [(pyStr "id", Codec.str.enc l.id), (pyStr "instruction", Codec.str.enc l.instruction),
   (pyStr "command", Codec.str.enc l.command), (pyStr "created_at", l.createdAt)]

/-- `ImageLayer(**layer)`, `none` when it raises `TypeError`: an unknown keyword, a missing one
of the three without a default, or a value outside its field's type. -/
def ofKwargs (kvs : List (List (Fin 0x110000) × PyVal)) : Option ImageLayer := do
  (checkInitKwargs "ImageLayer" fields (keyNames kvs)).toOption
  let id ← (dictGet kvs "id").bind Codec.str.dec
  let instruction ← (dictGet kvs "instruction").bind Codec.str.dec
  let command ← (dictGet kvs "command").bind Codec.str.dec
  let createdAt ← (kwarg kvs "created_at" (.int 0) Codec.value).toOption
  return { id, instruction, command, createdAt }

end ImageLayer

namespace ImageConfig

/-- The dataclass fields, in order. -/
def fields : List String :=
  ["id", "name", "tag", "layers", "env", "workdir", "cmd", "entrypoint"]

/-- `asdict`, which turns the layers into dicts. -/
def asdict (c : ImageConfig) : List (List (Fin 0x110000) × PyVal) :=
  [(pyStr "id", Codec.str.enc c.id), (pyStr "name", Codec.str.enc c.name),
   (pyStr "tag", Codec.str.enc c.tag),
   (pyStr "layers", .list (c.layers.map fun l => .dict l.asdict)),
   (pyStr "env", Codec.strDict.enc c.env), (pyStr "workdir", Codec.str.enc c.workdir),
   (pyStr "cmd", c.cmd), (pyStr "entrypoint", c.entrypoint)]

/-- The layers `list_images` rebuilds from `data.get("layers", [])`: iterating a list gives its
items, an empty `str` or dict gives none, and any other value, or an item that is no dict,
raises `TypeError`. -/
def layersOf : PyVal → Option (List ImageLayer)
  | .list xs => xs.mapM fun | .dict d => ImageLayer.ofKwargs d | _ => none
  | .str [] | .dict [] => some []
  | _ => none

/-- `ImageConfig(**data)` once `data["layers"]` holds the rebuilt layers, `none` when a call
raises `TypeError`. -/
def ofKwargs (kvs : List (List (Fin 0x110000) × PyVal)) : Option ImageConfig := do
  let layers ← layersOf ((dictGet kvs "layers").getD (.list []))
  (checkInitKwargs "ImageConfig" fields (keyNames kvs)).toOption
  let id ← (kwarg kvs "id" "" Codec.str).toOption
  let name ← (kwarg kvs "name" "" Codec.str).toOption
  let tag ← (kwarg kvs "tag" "latest" Codec.str).toOption
  let env ← (kwarg kvs "env" .empty Codec.strDict).toOption
  let workdir ← (kwarg kvs "workdir" "/" Codec.str).toOption
  let cmd ← (kwarg kvs "cmd" (.list []) Codec.value).toOption
  let entrypoint ← (kwarg kvs "entrypoint" (.list []) Codec.value).toOption
  return { id, name, tag, layers, env, workdir, cmd, entrypoint }

end ImageConfig

/-- The text `_save_config` writes. -/
def saveImageConfigText (c : ImageConfig) : List Char := dump (.dict c.asdict)

/-- What `list_images` does with the text of one `config.json`: the image; `none` when the
text is no JSON or a constructor raises `TypeError`, both of which it skips; or the
`AttributeError` that `data.get` raises out of `list_images` on a value that is no dict. -/
def loadImageText (text : List Char) : Except String (Option ImageConfig) :=
  match load text with
  | .error _ => .ok none
  | .ok (.dict kvs) => .ok (ImageConfig.ofKwargs kvs)
  | .ok v => .error ("AttributeError: '" ++ v.typeName ++ "' object has no attribute 'get'")

/-! ## Reading back what `_save_config` writes -/

theorem ImageLayer.ofKwargs_asdict (l : ImageLayer) : ImageLayer.ofKwargs l.asdict = some l := by
  rw [ImageLayer.ofKwargs, show keyNames l.asdict = ImageLayer.fields from rfl,
    checkInitKwargs_ok _ fun _ h => h]
  simp [kwarg, dictGet, ImageLayer.asdict, List.lookup_cons, Except.toOption]

theorem layersOf_asdict :
    ∀ ls : List ImageLayer, ImageConfig.layersOf (.list (ls.map fun l => .dict l.asdict)) = some ls
  | [] => rfl
  | l :: ls => by
    have ih := layersOf_asdict ls
    simp only [ImageConfig.layersOf] at ih ⊢
    rw [List.map_cons, List.mapM_cons, ih]
    simp only [ImageLayer.ofKwargs_asdict]
    rfl

theorem ImageConfig.ofKwargs_asdict (c : ImageConfig) : ImageConfig.ofKwargs c.asdict = some c := by
  rw [ImageConfig.ofKwargs, show keyNames c.asdict = ImageConfig.fields from rfl,
    checkInitKwargs_ok _ fun _ h => h]
  simp [kwarg, dictGet, ImageConfig.asdict, List.lookup_cons, Except.toOption, layersOf_asdict]

/-- The values `asdict` writes as they are: the command, the entrypoint and each layer's time
are well formed. -/
def ImageConfig.WellFormed (c : ImageConfig) : Prop :=
  c.cmd.wellFormed ∧ c.entrypoint.wellFormed ∧ ∀ l ∈ c.layers, l.createdAt.wellFormed

theorem ImageLayer.wellFormed_asdict {l : ImageLayer} (h : l.createdAt.wellFormed = true) :
    (PyVal.dict l.asdict).wellFormed = true := by
  rw [PyVal.wellFormed_dict, nodup_keys l.asdict ImageLayer.fields rfl (by decide)]
  simp [ImageLayer.asdict, PyVal.wellFormedDict, pairFree_pyStr, h]

theorem wellFormedList_layers :
    ∀ {ls : List ImageLayer}, (∀ l ∈ ls, l.createdAt.wellFormed = true) →
    PyVal.wellFormedList (ls.map fun l => .dict l.asdict) = true
  | [], _ => rfl
  | l :: ls, h => by
    simp only [List.map_cons, PyVal.wellFormedList, Bool.and_eq_true]
    exact ⟨ImageLayer.wellFormed_asdict (h l (List.mem_cons_self _ _)),
      wellFormedList_layers fun l' hl' => h l' (List.mem_cons_of_mem _ hl')⟩

theorem ImageConfig.wellFormed_asdict {c : ImageConfig} (h : c.WellFormed) :
    (PyVal.dict c.asdict).wellFormed = true := by
  obtain ⟨hc, he, hl⟩ := h
  rw [PyVal.wellFormed_dict, nodup_keys c.asdict ImageConfig.fields rfl (by decide)]
  simp only [ImageConfig.asdict, PyVal.wellFormedDict, pairFree_pyStr, wellFormed_str,
    wellFormed_strDict, hc, he, Bool.true_and, Bool.and_true]
  exact wellFormedList_layers hl

theorem loadImageText_save {c : ImageConfig} (h : c.WellFormed) :
    loadImageText (saveImageConfigText c) = .ok (some c) := by
  rw [loadImageText, saveImageConfigText, load_dump _ (ImageConfig.wellFormed_asdict h)]
  exact congrArg Except.ok (ImageConfig.ofKwargs_asdict c)

/-! ## What a build saves -/

theorem commandValue_wellFormed {a : List Char} {fallback : PyVal}
    (hf : fallback.wellFormed = true) : (commandValue a fallback).wellFormed = true := by
  unfold commandValue
  split_ifs
  · split
    · next v hv => exact load_wellFormed hv
    · exact hf
  · exact hf

theorem commandOf_wellFormed {p : String × String} {v : PyVal} (h : commandOf p = some v) :
    v.wellFormed = true := by
  unfold commandOf at h
  split_ifs at h <;> cases h <;>
    exact commandValue_wellFormed
      (by simp [PyVal.wellFormed, PyVal.wellFormedList, PyVal.ofString, pairFree_pyStr])

section Saved
variable {host : Host} {ids : Ids} {clock : Nat → Decimal} {imagesPath context : String}
  {buildFile text name : String} {c : ImageConfig}

theorem createdAt_layersFrom :
    ∀ {k : Nat} {ps : List (String × String)}, ∀ l ∈ layersFrom ids clock k ps,
    l.createdAt.wellFormed = true
  | _, [], _, h => absurd h (List.not_mem_nil _)
  | _, _ :: _, _, h => by
    rcases List.mem_cons.1 h with rfl | h
    · rfl
    · exact createdAt_layersFrom _ h

theorem build_wellFormed
    (h : build host ids clock imagesPath context buildFile (some text) name = .ok c) :
    c.WellFormed := by
  obtain ⟨rfl, -⟩ := build_ok h
  refine ⟨?_, rfl, fun l hl => ?_⟩
  · show (runPure ids clock {} _).cmd.wellFormed = true
    rw [runPure_cmd]
    cases hl : ((parseImageFile text).filterMap commandOf).getLast? with
    | none => rfl
    | some v =>
      obtain ⟨p, -, hp⟩ := List.mem_filterMap.1 (List.mem_of_mem_getLast? hl)
      exact commandOf_wellFormed hp
  · rw [runPure_layers] at hl
    exact createdAt_layersFrom l (by simpa using hl)

/-- A generator whose `n`-th id is twelve times the letter `n % 6` places after `a`. -/
def sampleIds : Ids where
  next n := String.mk (List.replicate 12 (Char.ofNat (97 + n % 6)))
  length_eq n := by simp [String.length]

/-- A host on which every path is a directory and every copy and command succeeds. -/
def okHost : Host := ⟨fun _ _ => true, fun _ => none, fun _ => none⟩

/-- A build file that sets every kind of value. -/
def sampleFile : String :=
  "FROM base\nENV PATH=/bin\nRUN make\nCMD echo hi\nENTRYPOINT [\"/app\"]\nWORKDIR /srv\n"

/-- `build` of the sample file, tagged `app:v1`. -/
def sampleBuild : Except Raised ImageConfig :=
  build okHost sampleIds (fun _ => ⟨false, 17, 8, by decide⟩) "/images" "/ctx" "/ctx/Imagefile"
    (some sampleFile) "app:v1"

/-- A build that succeeds saves one layer for each `FROM`, `RUN` and `COPY` of the file, in
order, each with the generator's next id, its keyword and its arguments; and the first of them
is a `FROM`, since a `RUN` or a `COPY` before any layer raises. -/
theorem build_layers
    (h : build host ids clock imagesPath context buildFile (some text) name = .ok c) :
    c.layers = layersFrom ids clock 0 ((parseImageFile text).filter fun p => layered p.1) ∧
      ∀ p ∈ ((parseImageFile text).filter fun p => layered p.1).head?, p.1 = "FROM" := by
  obtain ⟨rfl, hf⟩ := build_ok h
  exact ⟨runPure_layers_empty _, hf⟩

theorem build_layers_sample :
    ∃ c, sampleBuild = .ok c ∧
      (c.layers = layersFrom sampleIds (fun _ => ⟨false, 17, 8, by decide⟩) 0
          ((parseImageFile sampleFile).filter fun p => layered p.1) ∧
        ∀ p ∈ ((parseImageFile sampleFile).filter fun p => layered p.1).head?, p.1 = "FROM") := by
  have h : sampleBuild = .ok _ := rfl
  exact ⟨_, h, build_layers h⟩

/-- A build that succeeds saves an empty `entrypoint`, whatever the file says, and as command
the value of its last `CMD` or `ENTRYPOINT`: `_handle_entrypoint` stores into `self.cmd`. -/
theorem build_command
    (h : build host ids clock imagesPath context buildFile (some text) name = .ok c) :
    c.entrypoint = .list [] ∧
      c.cmd = (((parseImageFile text).filterMap commandOf).getLast?).getD (.list []) := by
  obtain ⟨rfl, -⟩ := build_ok h
  exact ⟨rfl, runPure_cmd _ _⟩

theorem build_command_sample :
    ∃ c, sampleBuild = .ok c ∧
      (c.entrypoint = .list [] ∧
        c.cmd = (((parseImageFile sampleFile).filterMap commandOf).getLast?).getD (.list [])) := by
  have h : sampleBuild = .ok _ := rfl
  exact ⟨_, h, build_command h⟩

/-- A build that succeeds saves, for each key, the value of the last `ENV` that assigns it,
and the working directory of the last `WORKDIR`, else `/`. -/
theorem build_env
    (h : build host ids clock imagesPath context buildFile (some text) name = .ok c) :
    (∀ k, c.env.items.lookup k = (envAssignments (parseImageFile text)).reverse.lookup k) ∧
      c.workdir = (((parseImageFile text).filterMap workdirOf).getLast?).getD "/" := by
  obtain ⟨rfl, -⟩ := build_ok h
  refine ⟨fun k => ?_, runPure_workdir _ _⟩
  rw [runPure_env]
  exact Option.or_none

theorem build_env_sample :
    ∃ c, sampleBuild = .ok c ∧
      ((∀ k, c.env.items.lookup k = (envAssignments (parseImageFile sampleFile)).reverse.lookup k) ∧
        c.workdir = (((parseImageFile sampleFile).filterMap workdirOf).getLast?).getD "/") := by
  have h : sampleBuild = .ok _ := rfl
  exact ⟨_, h, build_env h⟩

/-- What `_save_config` writes for a build that succeeds, `list_images` reads back as the same
image. -/
theorem build_saved_reloads
    (h : build host ids clock imagesPath context buildFile (some text) name = .ok c) :
    loadImageText (saveImageConfigText c) = .ok (some c) :=
  loadImageText_save (build_wellFormed h)

theorem build_saved_reloads_sample :
    ∃ c, sampleBuild = .ok c ∧ loadImageText (saveImageConfigText c) = .ok (some c) := by
  have h : sampleBuild = .ok _ := rfl
  exact ⟨_, h, build_saved_reloads h⟩

/-- The rootfs `get_rootfs` gives for a built image is the directory of the layer of the last
`FROM`, `RUN` or `COPY`, the one with the generator's `n + 1`-th id when there are `n + 1` of
them. A file with instructions but none of these builds on every host and saves an image with
no layer, on which `get_rootfs` raises. -/
theorem build_rootfs :
    (∀ c, build host ids clock imagesPath context buildFile (some text) name = .ok c →
      getRootfs imagesPath c.toStore =
        match ((parseImageFile text).filter fun p => layered p.1).length with
        | 0 => .error "Image has no layers"
        | n + 1 => .ok (layerPath imagesPath (ids.next 0) (ids.next (n + 1)))) ∧
    (parseImageFile text ≠ [] → (∀ p ∈ parseImageFile text, layered p.1 = false) →
      ∃ c, build host ids clock imagesPath context buildFile (some text) name = .ok c ∧
        getRootfs imagesPath c.toStore = .error "Image has no layers") := by
  refine ⟨fun c h => ?_, fun hne hset => ?_⟩
  · obtain ⟨rfl, -⟩ := build_ok h
    simp only [getRootfs, ImageConfig.toStore, runPure_layers_empty, getLast?_ids_layersFrom,
      Nat.zero_add]
    cases ((parseImageFile text).filter fun p => layered p.1).length <;> rfl
  · have hnil : (parseImageFile text).filter (fun p => layered p.1) = [] :=
      List.filter_eq_nil_iff.2 fun p hp => by simp [hset p hp]
    obtain ⟨c, hc⟩ : ∃ c, build host ids clock imagesPath context buildFile (some text) name = .ok c := by
      simp only [build, if_neg hne, runInstructions_settings _ hset]
      exact ⟨_, rfl⟩
    refine ⟨c, hc, ?_⟩
    obtain ⟨rfl, -⟩ := build_ok hc
    simp [getRootfs, ImageConfig.toStore, runPure_layers_empty, hnil, layersFrom]

/-- A build file of settings only. -/
def settingsFile : String := "ENV PATH=/bin\nCMD echo hi\n"

theorem build_rootfs_settings :
    parseImageFile settingsFile ≠ [] ∧ (∀ p ∈ parseImageFile settingsFile, layered p.1 = false) ∧
    ∃ c, build okHost sampleIds (fun _ => ⟨false, 17, 8, by decide⟩) "/images" "/ctx"
        "/ctx/Imagefile" (some settingsFile) "app:v1" = .ok c ∧
      getRootfs "/images" c.toStore = .error "Image has no layers" :=
  have hne : parseImageFile settingsFile ≠ [] := by decide
  have hset : ∀ p ∈ parseImageFile settingsFile, layered p.1 = false := by decide
  ⟨hne, hset, build_rootfs.2 hne hset⟩

end Saved

end MiniDocker.Image.Build
