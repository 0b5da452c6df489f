import FortranWriter.Proofs.Files.Growth
/-! What each call that succeeds changes in a tree: directories are added under the paths that were
asked for, and a file gets its bytes. All else stays as it is. -/
namespace FortranWriter.FileTree

/-- Nothing is different but for directories where there was nothing, and to each of these
one of the paths leads. -/
structure Adds (paths : List Text) (before after : FileTree) : Prop where
  here : after.here = before.here
  entry : ∀ p, after.entry? p = before.entry? p ∨ before.entry? p = none ∧
    after.entry? p = some .directory ∧ ∃ path ∈ paths, after.find path = .ok p

section Directories
variable {paths : List Text} {before middle after : FileTree}

theorem Adds.refl (paths : List Text) (tree : FileTree) : Adds paths tree tree :=
  ⟨rfl, fun _ => .inl rfl⟩

theorem Adds.mono {more : List Text} (h : Adds paths before after) (sub : paths ⊆ more) :
    Adds more before after := by
  refine ⟨h.here, fun p => (h.entry p).imp_right ?_⟩
  rintro ⟨free, made, path, mem, found⟩
  exact ⟨free, made, path, sub mem, found⟩

theorem Adds.grows (h : Adds paths before after) : Grows before after := by
  refine ⟨h.here, fun p found => ?_, fun p found => ?_⟩
  · rcases h.entry p with same | ⟨-, made, -⟩
    · rwa [same]
    · rw [made]
      rfl
  · rcases h.entry p with same | ⟨-, made, -⟩
    · rwa [same]
    · exact made

theorem Adds.trans (first : Adds paths before middle) (second : Adds paths middle after) :
    Adds paths before after := by
  refine ⟨second.here.trans first.here, fun p => ?_⟩
  rcases second.entry p with same | ⟨free, made, leads⟩
  · rw [same]
    refine (first.entry p).imp_right ?_
    rintro ⟨free, made, path, mem, found⟩
    exact ⟨free, made, path, mem, find_of_grows second.grows found⟩
  · rcases first.entry p with same | ⟨-, known, -⟩
    · exact .inr ⟨same ▸ free, made, leads⟩
    · rw [known] at free
      cases free

theorem adds_of_makeDirectory {path : Text} (h : before.makeDirectory path = .ok after) :
    Adds [path] before after := by
  obtain ⟨target, found, rest⟩ := Success.bind_eq_ok_iff.mp h
  split at rest
  · cases rest
  · case _ name named =>
      dsimp only at rest
      split_ifs at rest with long there
      cases rest
      obtain ⟨start, front, behind, way⟩ := exists_way found named
      have free : before.entry? (name :: target.parent) = none := by
        rwa [Bool.not_eq_true, Option.isSome_eq_false_iff, Option.isNone_iff_eq_none] at there
      have grows : Grows before (before.put (name :: target.parent) .directory) :=
        grows_put _ (by rw [free]; exact nofun)
      have made := entry?_put_self before .directory name target.parent
      refine ⟨rfl, fun p => ?_⟩
      by_cases same : p = name :: target.parent
      · subst same
        refine .inr ⟨free, made, path, List.mem_singleton_self path, ?_⟩
        exact way.find grows (eq_false_of_ne_true long) (.inl made)
      · exact .inl (entry?_put_of_ne before .directory same)

end Directories

/-- A place has a content, unless there is a device, which keeps nothing of it. No other place is
different. -/
structure Fills (place : Place) (content : ByteArray) (before after : FileTree) : Prop where
  here : after.here = before.here
  entry :
    after.entry? place = some (.file content) ∧
      (∀ device, before.entry? place ≠ some (.device device)) ∨
    ∃ device, before.entry? place = some (.device device) ∧
      after.entry? place = some (.device device)
  other : ∀ p, p ≠ place → after.entry? p = before.entry? p

section Contents
variable {before middle after : FileTree} {place : Place} {content : ByteArray}

theorem read_eq_ok {tree : FileTree} {path : Text} (leads : tree.find path = .ok place)
    (found : tree.entry? place = some (.file content)) : tree.read path = .ok content := by
  rw [read, leads]
  dsimp only [bind, Except.bind]
  rw [found]

theorem fills_put {tree : FileTree} {name : Text} {parent : Place} (content : ByteArray)
    (free : ∀ device, tree.entry? (name :: parent) ≠ some (.device device)) :
    Fills (name :: parent) content tree (tree.put (name :: parent) (.file content)) :=
  ⟨rfl, .inl ⟨entry?_put_self tree _ name parent, free⟩, fun _ => entry?_put_of_ne tree _⟩

theorem Fills.grows (h : Fills place content before after)
    (free : before.entry? place ≠ some .directory) : Grows before after := by
  refine ⟨h.here, fun p found => ?_, fun p found => ?_⟩
  · by_cases same : p = place
    · subst same
      rcases h.entry with ⟨kept, -⟩ | ⟨_, -, kept⟩
      all_goals
        rw [kept]
        rfl
    · rwa [h.other p same]
  · by_cases same : p = place
    · exact absurd (same ▸ found) free
    · rwa [h.other p same]

/-- What is made under a path is empty, and the path leads to it. -/
theorem fills_of_createFile {path : Text} (h : before.createFile path = .ok (place, after)) :
    Fills place ByteArray.empty before after ∧ Grows before after ∧
      after.find path = .ok place := by
  obtain ⟨target, found, rest⟩ := Success.bind_eq_ok_iff.mp h
  split at rest
  · cases rest
  · case _ name named =>
      dsimp only at rest
      split_ifs at rest with closed long
      obtain ⟨start, front, behind, way⟩ := exists_way found named
      have short := eq_false_of_ne_true long
      have none := way.open_ (eq_false_of_ne_true closed)
      split at rest
      · cases rest
      · case _ device there =>
          cases rest
          refine ⟨⟨rfl, .inr ⟨device, there, there⟩, fun _ _ => rfl⟩, .refl _, ?_⟩
          exact way.find (.refl _) short (.inr ⟨by rw [there]; rfl, none⟩)
      · case _ apart device =>
          cases rest
          have fills := fills_put ByteArray.empty device
          have grows := fills.grows apart
          refine ⟨fills, grows, way.find grows short (.inr ⟨?_, none⟩)⟩
          rw [entry?_put_self]
          rfl

/-- Bytes are put into what was made, and the way there stays as it is. -/
theorem Fills.fill {empty : ByteArray} (made : Fills place empty before middle)
    (h : middle.fill place content = .ok after) :
    Fills place content before after ∧ Grows middle after := by
  have stays : ∀ device, middle.entry? place = some (.device device) → after = middle →
      Fills place content before after ∧ Grows middle after := by
    rintro device there rfl
    refine ⟨⟨made.here, .inr ?_, made.other⟩, .refl _⟩
    rcases made.entry with ⟨kept, -⟩ | kept
    · rw [kept] at there
      cases there
    · exact kept
  unfold FileTree.fill at h
  split at h
  · case _ there =>
      split_ifs at h
      cases h
      exact stays _ there rfl
  · case _ device there =>
      cases h
      exact stays _ there rfl
  · case _ file device =>
      cases h
      rcases made.entry with ⟨kept, free⟩ | ⟨d, -, kept⟩
      · cases place with
        | nil => cases kept
        | cons name parent =>
            have put := entry?_put_self middle (.file content) name parent
            refine ⟨⟨made.here, .inl ⟨put, free⟩, fun p other => ?_⟩, ?_⟩
            · rw [entry?_put_of_ne middle _ other, made.other p other]
            · exact grows_put _ (by rw [kept]; exact nofun)
      · exact absurd kept (device d)

end Contents

end FortranWriter.FileTree
