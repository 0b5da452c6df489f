import FortranWriter.Files.Tree
import FortranWriter.Proofs.Success
import Mathlib.Data.List.Basic
/-! Trees that only grow: whatever a path leads to, it leads to still when directories and files
have been added. What a call adds is found under the path that it was given. -/
namespace FortranWriter.FileTree

section Entries
variable (tree : FileTree) (entry : Entry)

theorem entry?_put_self (name : Text) (parent : Place) :
    entry? (tree.put (name :: parent) entry) (name :: parent) = some entry := by
  rw [FileTree.entry?, if_neg (List.cons_ne_nil name parent), put, List.lookup_cons_self]

theorem entry?_put_of_ne {place p : Place} (other : p ≠ place) :
    entry? (tree.put place entry) p = tree.entry? p := by
  have apart : (p == place) = false := beq_eq_false_iff_ne.mpr other
  simp only [FileTree.entry?, put, List.lookup_cons, apart]

end Entries

/-- What there is stays, and what is a directory stays one. -/
structure Grows (before after : FileTree) : Prop where
  here : after.here = before.here
  present : ∀ p, (before.entry? p).isSome → (after.entry? p).isSome
  directory : ∀ p, before.entry? p = some .directory → after.entry? p = some .directory

theorem Grows.refl (tree : FileTree) : Grows tree tree :=
  ⟨rfl, fun _ => id, fun _ => id⟩

theorem Grows.trans {before middle after : FileTree} (first : Grows before middle)
    (second : Grows middle after) : Grows before after := by
  refine ⟨second.here.trans first.here, ?_, ?_⟩
  · exact fun p found => second.present p (first.present p found)
  · exact fun p found => second.directory p (first.directory p found)

/-- Nothing is lost where there was nothing, or no directory. -/
theorem grows_put {tree : FileTree} {name : Text} {parent : Place} (entry : Entry)
    (free : tree.entry? (name :: parent) ≠ some .directory) :
    Grows tree (tree.put (name :: parent) entry) := by
  refine ⟨rfl, fun p found => ?_, fun p found => ?_⟩
  · by_cases same : p = name :: parent
    · rw [same, entry?_put_self]
      rfl
    · rwa [entry?_put_of_ne tree entry same]
  · by_cases same : p = name :: parent
    · rw [same] at found
      exact absurd found free
    · rwa [entry?_put_of_ne tree entry same]

section Walking
variable {tree before after : FileTree}

theorem step_eq_ok_iff {place p : Place} {part : Text} :
    tree.step place part = .ok p ↔ tree.entry? place = some .directory ∧
      (Path.isIdle part = true ∧ p = place ∨
        Path.isIdle part = false ∧ part = "..".toList ∧ p = place.tail ∨
        Path.isIdle part = false ∧ part ≠ "..".toList ∧ isTooLong part = false ∧
          (tree.entry? (part :: place)).isSome ∧ p = part :: place) := by
  unfold step
  split
  · case _ found =>
      rw [found, eq_self, true_and]
      split_ifs with idle up long there <;> grind
  · case _ other =>
      refine ⟨fun h => (nomatch h), ?_⟩
      rintro ⟨found, -⟩
      exact absurd found other

theorem step_of_grows (grows : Grows before after) {place p : Place} {part : Text}
    (h : before.step place part = .ok p) : after.step place part = .ok p := by
  rw [step_eq_ok_iff] at h ⊢
  refine h.imp (grows.directory place) (Or.imp_right (Or.imp_right ?_))
  exact fun ⟨shown, down, short, there, same⟩ =>
    ⟨shown, down, short, grows.present _ there, same⟩

theorem walk_of_grows (grows : Grows before after) {place p : Place} {parts : List Text}
    (h : before.walk place parts = .ok p) : after.walk place parts = .ok p := by
  induction parts generalizing place with
  | nil => exact h
  | cons part parts ih =>
      unfold walk at h ih ⊢
      rw [List.foldlM_cons] at h ⊢
      cases first : before.step place part with
      | error fault =>
          rw [first] at h
          cases h
      | ok next =>
          rw [first] at h
          rw [step_of_grows grows first]
          exact ih h

theorem find_of_grows (grows : Grows before after) {path : Text} {p : Place}
    (h : before.find path = .ok p) : after.find path = .ok p := by
  have route : after.route path = before.route path := by
    unfold route
    rw [grows.here]
  unfold find at h ⊢
  rw [route]
  cases found : before.route path with
  | error fault =>
      rw [found] at h
      cases h
  | ok start =>
      rw [found] at h
      exact walk_of_grows grows h

end Walking

section Calls
variable {tree after : FileTree} {path name : Text} {target : Target} {place : Place}

theorem walk_append_of_ok {start middle : Place} {front : List Text}
    (h : tree.walk start front = .ok middle) (back : List Text) :
    tree.walk start (front ++ back) = tree.walk middle back := by
  unfold walk at h ⊢
  rw [List.foldlM_append, h]
  rfl

/-- A step that leads nowhere can be made in any directory. -/
theorem walk_idle (directory : tree.entry? place = some .directory) {parts : List Text}
    (idle : ∀ part ∈ parts, part = []) : tree.walk place parts = .ok place := by
  induction parts with
  | nil => rfl
  | cons part parts ih =>
      obtain ⟨rfl, others⟩ := List.forall_mem_cons.mp idle
      have stays : tree.step place [] = .ok place := step_eq_ok_iff.mpr ⟨directory, .inl ⟨rfl, rfl⟩⟩
      unfold walk at ih ⊢
      rw [List.foldlM_cons, stays]
      exact ih others

/-- A list of parts is cut in front of the empty ones at its end. -/
theorem exists_cut {parts : List Text} {name : Text}
    (last : (parts.reverse.dropWhile List.isEmpty).reverse.getLast? = some name) :
    ∃ front behind, parts = front ++ name :: behind ∧
      (parts.reverse.dropWhile List.isEmpty).reverse = front ++ [name] ∧
      name ≠ [] ∧ ∀ part ∈ behind, part = [] := by
  obtain ⟨front, names⟩ := List.getLast?_eq_some_iff.mp last
  refine ⟨front, (parts.reverse.takeWhile List.isEmpty).reverse, ?_, names, ?_, ?_⟩
  · have whole := congrArg List.reverse (List.takeWhile_append_dropWhile
      (p := List.isEmpty) (l := parts.reverse))
    rw [List.reverse_append, List.reverse_reverse, names, List.append_assoc] at whole
    exact whole.symm
  · have kept := List.head?_dropWhile_not List.isEmpty parts.reverse
    rw [← List.getLast?_reverse, last] at kept
    exact List.isEmpty_eq_false_iff.mp kept
  · intro part mem
    exact List.isEmpty_iff.mp
      (List.all_eq_true.mp List.all_takeWhile part (List.mem_reverse.mp mem))

/-- The way to a target that has a name: the parts in front of the name lead to its directory, and
there are slashes at most behind it. -/
structure Target.Way (tree : FileTree) (path : Text) (target : Target) (name : Text) (start : Place)
    (front behind : List Text) : Prop where
  route : tree.route path = .ok (start, front ++ name :: behind)
  walk : tree.walk start front = .ok target.parent
  directory : tree.entry? target.parent = some .directory
  shown : Path.isIdle name = false
  down : name ≠ "..".toList
  empty : ∀ part ∈ behind, part = []
  open_ : target.closed = false → behind = []

theorem exists_way (h : tree.target path = .ok target) (named : target.name = some name) :
    ∃ start front behind, target.Way tree path name start front behind := by
  simp only [FileTree.target, Success.bind_eq_ok_iff] at h
  obtain ⟨⟨start, parts⟩, route, parent, walk, rest⟩ := h
  dsimp only at walk rest
  split at rest
  · cases rest
    cases named
  · case _ last found =>
      obtain ⟨front, behind, rfl, names, filled, empty⟩ := exists_cut found
      obtain ⟨_, stays, made⟩ := Success.bind_eq_ok_iff.mp rest
      cases made
      rw [names, List.dropLast_concat] at walk
      split at named
      · cases named
      · case _ other =>
          cases named
          rw [Bool.or_eq_true, decide_eq_true_iff, decide_eq_true_iff, not_or] at other
          refine ⟨start, front, behind, route, walk, ?_, ?_, other.2, empty, ?_⟩
          · exact (step_eq_ok_iff.mp stays).1
          · simp only [Path.isIdle, Bool.or_eq_false_iff, List.isEmpty_eq_false_iff,
              beq_eq_false_iff_ne]
            exact ⟨filled, other.1⟩
          · intro same
            have size := of_decide_eq_false same
            rw [names, List.length_append, List.length_append, List.length_singleton,
              List.length_cons] at size
            exact List.length_eq_zero_iff.mp (by omega)

/-- Once there is something in the place that a path is to put it in, the path leads there. -/
theorem Target.Way.find {start : Place} {front behind : List Text}
    (way : target.Way tree path name start front behind) (grows : Grows tree after)
    (short : isTooLong name = false)
    (there : after.entry? (name :: target.parent) = some .directory ∨
      (after.entry? (name :: target.parent)).isSome ∧ behind = []) :
    after.find path = .ok (name :: target.parent) := by
  have route : after.route path = tree.route path := by
    unfold FileTree.route
    rw [grows.here]
  have present : (after.entry? (name :: target.parent)).isSome := by
    rcases there with found | ⟨found, -⟩
    · rw [found]
      rfl
    · exact found
  have last : after.step target.parent name = .ok (name :: target.parent) :=
    step_eq_ok_iff.mpr ⟨grows.directory _ way.directory,
      .inr (.inr ⟨way.shown, way.down, short, present, rfl⟩)⟩
  have rest : after.walk (name :: target.parent) behind = .ok (name :: target.parent) := by
    rcases there with found | ⟨-, none⟩
    · exact walk_idle found way.empty
    · rw [none]
      rfl
  rw [FileTree.find, route, way.route]
  change after.walk start (front ++ name :: behind) = _
  rw [walk_append_of_ok (walk_of_grows grows way.walk), FileTree.walk, List.foldlM_cons, last]
  exact rest

end Calls

end FortranWriter.FileTree
