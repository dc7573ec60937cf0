import MiniDocker.Store.Resolve

/-! # Finding a built image by its tag

`ImageBuilder.build` splits its `name:tag` argument at the last colon (`rsplit`), while
`resolve_image_path` and `remove_image` split the token at the first colon (`split`). The two
splits agree exactly on the strings with at most one colon (`targetNameTag_eq_iff`), so a tag
with a registry port such as `localhost:5000/app:v1` names an image that neither function
finds (`resolveImagePath_built`).
-/

namespace MiniDocker.Image
open MiniDocker.Store
set_option autoImplicit false

/-- An image of the store, as `list_images` decodes its config.json: the id, the name and tag
`build` stored, and the ids of its layers. -/
structure ImageConfig where
  id : String
  name : String
  tag : String := "latest"
  layers : List String := []

/-- `s.split(":", 1)` of a string holding a colon. -/
def splitColon (s : String) : String × String :=
  let p := s.toList.span (· ≠ ':')
  (String.mk p.1, String.mk (p.2.drop 1))

/-- `s.rsplit(":", 1)` of a string holding a colon. -/
def rsplitColon (s : String) : String × String :=
  let p := s.toList.reverse.span (· ≠ ':')
  (String.mk (p.2.drop 1).reverse, String.mk p.1.reverse)

/-- The name and tag `ImageBuilder.build` stores for its `name` argument. -/
def buildNameTag (name : String) : String × String :=
  let imageName := if name = "" then "image" else name
  if ':' ∈ imageName.toList then rsplitColon imageName else (imageName, "latest")

/-- The name and tag `resolve_image_path` and `remove_image` look for. -/
def targetNameTag (nameOrId : String) : String × String :=
  if ':' ∈ nameOrId.toList then splitColon nameOrId else (nameOrId, "latest")

/-- `ImageBuilder.get_rootfs(image_id)`: the directory of the image's last layer. -/
def getRootfs (imagesPath : String) (img : ImageConfig) : Except String String :=
  match img.layers.getLast? with
  | some l => .ok (imagesPath ++ "/" ++ img.id ++ "/layers/" ++ l)
  | none => .error "Image has no layers"

/-- The image `resolve_image_path` and `remove_image` pick: the first whose id starts with the
token, else the first with the token's name and tag. -/
def findImage (images : List ImageConfig) (nameOrId : String) : Option ImageConfig :=
  match images.find? fun img => startswith img.id nameOrId with
  | some img => some img
  | none => images.find? fun img => (img.name, img.tag) = targetNameTag nameOrId

/-- `resolve_image_path(name_or_id)`: the rootfs of the image found, `none` when there is
none; `get_rootfs` raises on an image with no layers. -/
def resolveImagePath (imagesPath : String) (images : List ImageConfig) (nameOrId : String) :
    Except String (Option String) :=
  match findImage images nameOrId with
  | some img => (getRootfs imagesPath img).map some
  | none => .ok none

/-- `remove_image(name_or_id)`: the images left once the found one is removed, or the
`ImageError` raised when none is found. -/
def removeImage (images : List ImageConfig) (nameOrId : String) :
    Except String (List ImageConfig) :=
  match findImage images nameOrId with
  | some img => .ok (images.filter (·.id ≠ img.id))
  | none => .error ("Image not found: " ++ nameOrId)

/-! ## The two splits -/

theorem span_ne_colon (xs : List Char) (h : ':' ∉ xs) (ys : List Char) :
    (xs ++ ':' :: ys).span (· ≠ ':') = (xs, ':' :: ys) := by
  induction xs with
  | nil => simp [List.span_eq_take_drop]
  | cons x xs ih =>
    have hx : decide (x ≠ ':') = true := decide_eq_true fun hx => h (hx ▸ List.mem_cons_self _ _)
    have ih := ih fun hm => h (List.mem_cons_of_mem _ hm)
    rw [List.span_eq_take_drop, Prod.mk.injEq] at ih
    rw [List.span_eq_take_drop, List.cons_append,
      List.takeWhile_cons_of_pos (p := fun c => decide (c ≠ ':')) hx,
      List.dropWhile_cons_of_pos (p := fun c => decide (c ≠ ':')) hx, ih.1, ih.2]

theorem exists_first_colon : ∀ {cs : List Char}, ':' ∈ cs → ∃ a b, cs = a ++ ':' :: b ∧ ':' ∉ a
  | c :: cs, h =>
    if hc : c = ':' then ⟨[], cs, by simp [hc], List.not_mem_nil _⟩
    else
      have ⟨a, b, hab, ha⟩ := exists_first_colon ((List.mem_cons.1 h).resolve_left (Ne.symm hc))
      ⟨c :: a, b, by simp [hab], by simp [Ne.symm hc, ha]⟩

theorem splitColon_eq {a : List Char} (ha : ':' ∉ a) (b : List Char) :
    splitColon ⟨a ++ ':' :: b⟩ = (⟨a⟩, ⟨b⟩) := by
  dsimp only [splitColon, String.toList]
  rw [span_ne_colon a ha b]
  rfl

theorem rsplitColon_eq (a : List Char) {b : List Char} (hb : ':' ∉ b) :
    rsplitColon ⟨a ++ ':' :: b⟩ = (⟨a⟩, ⟨b⟩) := by
  have hr : ':' ∉ b.reverse := by simpa using hb
  dsimp only [rsplitColon, String.toList]
  rw [List.reverse_append, List.reverse_cons, List.append_assoc, List.singleton_append,
    span_ne_colon b.reverse hr a.reverse]
  simp

/-- `build` and the lookups derive the same name and tag from a non-empty string exactly when
it has at most one colon. -/
theorem targetNameTag_eq_iff {T : String} (hT : T ≠ "") :
    targetNameTag T = buildNameTag T ↔ T.toList.count ':' ≤ 1 := by
  obtain ⟨cs⟩ := T
  simp only [buildNameTag, if_neg hT, targetNameTag]
  by_cases hc : ':' ∈ cs
  · obtain ⟨a, b, rfl, ha⟩ := exists_first_colon hc
    have hca : a.count ':' = 0 := List.count_eq_zero.2 ha
    simp only [String.toList, hc, if_true, splitColon_eq ha, List.count_append,
      List.count_cons_self, hca]
    by_cases hb : ':' ∈ b
    · obtain ⟨x, y, hxy, hx⟩ := exists_first_colon (List.mem_reverse.2 hb)
      have hb' : b = y.reverse ++ ':' :: x.reverse := by
        rw [← List.reverse_reverse b, hxy]; simp
      have hx' : ':' ∉ x.reverse := by simpa using hx
      have hcb : 1 ≤ b.count ':' := List.count_pos_iff.2 hb
      rw [hb', ← List.cons_append, ← List.append_assoc, rsplitColon_eq _ hx']
      constructor
      · intro h
        have := congrArg (fun p => (String.toList p.1).length) h
        simp at this
      · intro h
        rw [hb'] at hcb
        omega
    · have hcb : b.count ':' = 0 := List.count_eq_zero.2 hb
      simp [rsplitColon_eq a hb, hcb]
  · simp [String.toList, hc, List.count_eq_zero.2 hc]

/-! ## Finding the built image -/

theorem find?_eq_none_of {β : Type} {p : β → Bool} {l : List β} (h : ∀ x ∈ l, p x = false) :
    l.find? p = none :=
  List.find?_eq_none.2 fun x hx => by simp [h x hx]

/-- In a store that holds an image with the name and tag `build` derives from `T`, where no
image id starts with `T`: when `T` has at most one colon, `resolve_image_path(T)` and
`remove_image(T)` pick the first image with that name and tag. When `T` has two or more, they
look for another name and tag, and find nothing in a store where no image carries those. -/
theorem resolveImagePath_built (imagesPath T : String) (images : List ImageConfig)
    (hid : ∀ img ∈ images, startswith img.id T = false)
    (hmem : ∃ img ∈ images, (img.name, img.tag) = buildNameTag T) :
    (T.toList.count ':' ≤ 1 → ∃ img ∈ images, (img.name, img.tag) = buildNameTag T ∧
      findImage images T = some img ∧
      resolveImagePath imagesPath images T = (getRootfs imagesPath img).map some ∧
      removeImage images T = .ok (images.filter (·.id ≠ img.id))) ∧
    (2 ≤ T.toList.count ':' → (∀ img ∈ images, (img.name, img.tag) ≠ targetNameTag T) →
      resolveImagePath imagesPath images T = .ok none ∧
      removeImage images T = .error ("Image not found: " ++ T)) := by
  obtain ⟨img₀, himg₀, hpair⟩ := hmem
  have hT : T ≠ "" := by
    rintro rfl
    simpa [startswith] using hid img₀ himg₀
  have hfind : findImage images T =
      images.find? fun img => (img.name, img.tag) = targetNameTag T := by
    simp [findImage, find?_eq_none_of hid]
  refine ⟨fun hc => ?_, fun hc hnone => ?_⟩
  · have hsame := (targetNameTag_eq_iff hT).2 hc
    obtain ⟨img, himg, hp⟩ : ∃ img, images.find? (fun img =>
        (img.name, img.tag) = targetNameTag T) = some img ∧ (img.name, img.tag) = buildNameTag T := by
      cases h : images.find? (fun img => (img.name, img.tag) = targetNameTag T) with
      | none =>
        have := List.find?_eq_none.1 h img₀ himg₀
        simp [hsame, hpair] at this
      | some img => exact ⟨img, rfl, by simpa [hsame] using List.find?_some h⟩
    exact ⟨img, List.mem_of_find?_eq_some himg, hp, hfind.trans himg,
      by simp [resolveImagePath, hfind, himg], by simp [removeImage, hfind, himg]⟩
  · have hn : findImage images T = none := by
      rw [hfind]
      exact find?_eq_none_of fun img h => by simpa using hnone img h
    simp [resolveImagePath, removeImage, hn]

/-- The image `build("...", "localhost:5000/app:v1")` stores. -/
def registryImage : ImageConfig :=
  { id := "aaaaaaaaaaaa", name := "localhost:5000/app", tag := "v1", layers := ["bbbbbbbbbbbb"] }

/-- The tag of an image pushed to a registry with a port: `build` stores the name
`localhost:5000/app` and the tag `v1`, and `resolve_image_path` finds nothing. -/
theorem resolveImagePath_registry_port :
    (∀ img ∈ [registryImage], startswith img.id "localhost:5000/app:v1" = false) ∧
    2 ≤ "localhost:5000/app:v1".toList.count ':' ∧
    resolveImagePath "/var/lib/mini-docker/images" [registryImage] "localhost:5000/app:v1" =
      .ok none :=
  ⟨by decide, by decide,
    ((resolveImagePath_built "/var/lib/mini-docker/images" "localhost:5000/app:v1" [registryImage]
      (by decide) ⟨_, List.mem_singleton_self _, by decide⟩).2 (by decide) (by decide)).1⟩

end MiniDocker.Image
