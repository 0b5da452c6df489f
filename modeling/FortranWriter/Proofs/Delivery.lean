import FortranWriter.Proofs.Files.Changes
import FortranWriter.Proofs.Host.World
/-! Source text is written as a whole or not at all: nothing is touched before its bytes are known,
and when all went well there is nothing new but the file and the directories that lead to it. -/
namespace FortranWriter

def Path.above (path : Text) : List Text :=
  (parent? path).elim [] ancestors

namespace World

/-- Directories were added under some of the paths, and nothing was printed. -/
structure Adds (paths : List Text) (before after : World) : Prop where
  tree : FileTree.Adds paths before.tree after.tree
  printed : after.printed = before.printed

theorem Adds.refl (paths : List Text) (world : World) : Adds paths world world :=
  ⟨.refl paths world.tree, rfl⟩

theorem Adds.trans {paths : List Text} {before middle after : World}
    (first : Adds paths before middle) (second : Adds paths middle after) :
    Adds paths before after :=
  ⟨first.tree.trans second.tree, second.printed.trans first.printed⟩

theorem Adds.mono {paths more : List Text} {before after : World} (h : Adds paths before after)
    (sub : paths ⊆ more) : Adds more before after :=
  ⟨h.tree.mono sub, h.printed⟩

/-- A directory that a call makes, or finds in its place. -/
theorem adds_ensureDirectory (path : Text) (world : World) :
    Adds [path] world ((ensureDirectory path : StateM World _).run world).2 := by
  rw [ensureDirectory, run_bind]
  cases made : world.tree.makeDirectory path with
  | ok tree =>
      have ran : (Host.makeDirectory path : StateM World _).run world =
          (.ok (), { world with tree }) :=
        run_call_of_ok world (by rw [made]; rfl)
      rw [ran]
      exact ⟨FileTree.adds_of_makeDirectory made, rfl⟩
  | error fault =>
      have ran : (Host.makeDirectory path : StateM World _).run world = (.error fault, world) :=
        run_call_of_error world (by rw [made]; rfl)
      rw [ran, run_bind, run_isDirectory]
      cases world.tree.isDirectory path <;> exact .refl [path] world

theorem adds_makeDirectories (paths : List Text) (world : World) :
    Adds paths world ((makeDirectories paths : StateM World _).run world).2 := by
  induction paths generalizing world with
  | nil => exact .refl [] world
  | cons path outer ih =>
      have here : ∀ w, Adds (path :: outer) w ((ensureDirectory path : StateM World _).run w).2 :=
        fun w => (adds_ensureDirectory path w).mono
          (List.cons_subset.mpr ⟨List.mem_cons_self, List.nil_subset _⟩)
      rw [makeDirectories]
      split
      · exact .refl _ world
      · rw [run_bind]
        split
        -- an outer directory is missing
        · rw [run_bind]
          have there := (here world).trans ((ih _).mono (List.subset_cons_self path outer))
          split
          · exact there.trans (here _)
          · exact there
        · exact here world

theorem adds_prepareParent (path : Text) (world : World) :
    Adds (Path.above path) world ((prepareParent path : StateM World _).run world).2 := by
  rw [prepareParent, Path.above]
  cases Path.parent? path with
  | none => exact .refl _ world
  | some parent =>
      dsimp only
      split
      · exact .refl _ world
      · rw [run_bind, run_isPresent]
        cases world.tree.isPresent parent with
        | true => exact .refl _ world
        | false =>
            have logged : Adds (Path.ancestors parent) world (world.noted
                ⟨.detail, "macrofor::output".toList,
                  .message ("Creating directory: ".toList ++ parent)⟩) :=
              ⟨.refl _ _, rfl⟩
            exact logged.trans (adds_makeDirectories _ _)

theorem looks_ensureDirectory (path : Text) : Looks (ensureDirectory path) := by
  refine looks_bind (looks_call _) fun made => ?_
  cases made with
  | ok => exact looks_pure _
  | error fault =>
      refine looks_bind (looks_isDirectory path) fun there => ?_
      cases there <;> exact looks_pure _

theorem looks_makeDirectories (paths : List Text) : Looks (makeDirectories paths) := by
  induction paths with
  | nil => exact looks_pure _
  | cons path outer ih =>
      rw [makeDirectories]
      split
      · exact looks_pure _
      · refine looks_bind (looks_ensureDirectory path) fun made => ?_
        split
        · refine looks_bind ih fun there => ?_
          cases there with
          | ok => exact looks_ensureDirectory path
          | error => exact looks_pure _
        · exact looks_pure _

theorem looks_prepareParent (path : Text) : Looks (prepareParent path) := by
  rw [prepareParent]
  cases Path.parent? path with
  | none => exact looks_pure _
  | some parent =>
      dsimp only
      split
      · exact looks_pure _
      · refine looks_bind (looks_isPresent parent) fun present => ?_
        cases present with
        | true => exact looks_pure _
        | false =>
            exact looks_bind (looks_note _) fun _ =>
              looks_bind (looks_makeDirectories _) fun _ => looks_pure _

def printedAt (world : World) (place : Place) (content : ByteArray) : ByteArray :=
  match world.tree.entry? place with
  | some (.device .output) => world.printed ++ content
  | _ => world.printed

theorem printedAt_of_apart {world : World} {place : Place}
    (apart : ∀ device, world.tree.entry? place ≠ some (.device device)) (content : ByteArray) :
    world.printedAt place content = world.printed := by
  rw [printedAt]
  split
  · case _ there => exact absurd there (apart _)
  · rfl

theorem printedAt_of_device {world : World} {place : Place} {device : Device}
    (there : world.tree.entry? place = some (.device device)) (content : ByteArray) :
    world.printedAt place content =
      if device = .output then world.printed ++ content else world.printed := by
  rw [printedAt, there]
  cases device <;> rfl

/-- Bytes were put into a place, or shown if a stream is there. -/
structure Stores (place : Place) (content : ByteArray) (before after : World) : Prop where
  tree : FileTree.Fills place content before.tree after.tree
  grows : FileTree.Grows before.tree after.tree
  printed : after.printed = before.printedAt place content

/-- Streams show what is put into them; otherwise only the tree is changed. -/
theorem exists_run_fill (place : Place) (content : ByteArray) (world : World) :
    ∃ shown : World, shown.tree = world.tree ∧ shown.printed = world.printedAt place content ∧
      (fill place content).run world =
        (call fun tree => (tree.fill place content).map ((), ·)).run shown := by
  rw [fill, run_bind, run_get, printedAt]
  rcases world.tree.entry? place with _ | _ | _ | _ | _ | _ | _
  all_goals first
    | exact ⟨world, rfl, rfl, rfl⟩
    | exact ⟨world.print content, rfl, rfl, rfl⟩
    | exact ⟨world.complain content, rfl, rfl, rfl⟩

section Storing
variable {path : Text} {content : ByteArray} {place : Place} {created : FileTree} {world : World}

/-- What was made is filled next. -/
theorem run_store_of_made (content : ByteArray)
    (made : world.tree.createFile path = .ok (place, created)) :
    ∃ shown : World, shown.tree = created ∧
      shown.printed = printedAt { world with tree := created } place content ∧
      (store path content : StateM World _).run world =
        match shown.tree.fill place content with
        | .error fault => (.error (.blocked .write fault path), shown)
        | .ok tree => (.ok (), { shown with tree }) := by
  have ran : (Host.createFile path : StateM World _).run world =
      (.ok place, { world with tree := created }) := run_call_of_ok world made
  obtain ⟨shown, same, printed, filled⟩ :=
    exists_run_fill place content { world with tree := created }
  have run : (Host.fill place content : StateM World _).run { world with tree := created } = _ :=
    filled
  refine ⟨shown, same, printed, ?_⟩
  rw [store, run_bind, ran]
  dsimp only
  rw [run_bind, run]
  cases put : shown.tree.fill place content with
  | error fault =>
      rw [run_call_of_error shown (by rw [put]; rfl)]
      rfl
  | ok tree =>
      rw [run_call_of_ok shown (by rw [put]; rfl)]
      rfl

/-- What was made and filled is found under its path. -/
theorem exists_stores (made : world.tree.createFile path = .ok (place, created)) {final : FileTree}
    (put : created.fill place content = .ok final) :
    ∃ after, (store path content : StateM World _).run world = (.ok (), after) ∧
      after.tree.find path = .ok place ∧ Stores place content world after := by
  obtain ⟨shown, same, printed, ran⟩ := run_store_of_made content made
  obtain ⟨fills, first, leads⟩ := FileTree.fills_of_createFile made
  obtain ⟨kept, grows⟩ := fills.fill put
  rw [same, put] at ran
  refine ⟨_, ran, FileTree.find_of_grows grows leads, kept, first.trans grows, printed.trans ?_⟩
  rcases fills.entry with ⟨found, apart⟩ | ⟨device, there, found⟩
  -- a file that was made or emptied is no stream
  · rw [printedAt_of_apart apart, printedAt_of_apart fun _ => by rw [found]; exact nofun]
  · rw [printedAt_of_device there, printedAt_of_device found]

theorem stores_of_run {after : World}
    (h : (store path content : StateM World _).run world = (.ok (), after)) :
    ∃ place, after.tree.find path = .ok place ∧ Stores place content world after := by
  cases made : world.tree.createFile path with
  | error fault =>
      have ran : (Host.createFile path : StateM World _).run world = (.error fault, world) :=
        run_call_of_error world made
      rw [store, run_bind, ran] at h
      cases h
  | ok outcome =>
      obtain ⟨place, created⟩ := outcome
      cases put : created.fill place content with
      | error fault =>
          obtain ⟨shown, same, -, ran⟩ := run_store_of_made content made
          rw [ran, same, put] at h
          cases h
      | ok final =>
          obtain ⟨stored, ran, leads, stores⟩ := exists_stores made put
          cases ran.symm.trans h
          exact ⟨place, leads, stores⟩

/-- There is room for bytes in a file that was made. -/
theorem exists_stores_of_apart (content : ByteArray)
    (made : world.tree.createFile path = .ok (place, created))
    (apart : ∀ device, world.tree.entry? place ≠ some (.device device)) :
    ∃ after, (store path content : StateM World _).run world = (.ok (), after) ∧
      after.tree.find path = .ok place ∧ Stores place content world after := by
  have there : created.entry? place = some (.file ByteArray.empty) := by
    rcases (FileTree.fills_of_createFile made).1.entry with ⟨found, -⟩ | ⟨device, known, -⟩
    · exact found
    · exact absurd known (apart device)
  have put : created.fill place content = .ok (created.put place (.file content)) := by
    rw [FileTree.fill, there]
  exact exists_stores made put

end Storing

end World

theorem sourceBytes_eq_error {fragments : List Fragment} {emission : Emission} {refusal : Refusal}
    (h : render fragments emission = .error refusal ∨
      ∃ text, render fragments emission = .ok text ∧
        encode text emission.encoding = .error refusal) :
    sourceBytes fragments emission = .error refusal := by
  rw [sourceBytes]
  rcases h with refused | ⟨text, rendered, refused⟩
  · rw [refused]
    rfl
  · rw [rendered]
    exact refused

section Emission
variable (path : Text) (fragments : List Fragment) (emission : Emission) (world : World)

def announcement : Log.Record :=
  ⟨.information, "macrofor::output".toList, .message ("Writing file: ".toList ++ path)⟩

/-- A file can be made under a path: its directory is there or can be made, and what is to be
written does not go to a device. -/
def FileTree.CanCreate (tree : FileTree) (path : Text) : Prop :=
  ∃ prepared place created,
    (prepareParent path : StateM World _).run { tree } = (.ok (), prepared) ∧
    prepared.tree.createFile path = .ok (place, created) ∧
    ∀ device, prepared.tree.entry? place ≠ some (.device device)

theorem run_emit_of_refused {refusal : Refusal}
    (refused : sourceBytes fragments emission = .error refusal) :
    (emit path fragments emission : StateM World _).run world =
      (.error (.refused refusal), world.noted (announcement path)) := by
  rw [emit, World.run_bind, refused]
  rfl

def conclusion (content : ByteArray) : Log.Record :=
  ⟨.detail, "macrofor::output".toList,
    .message ("Wrote ".toList ++ Decimal.ofNat content.size ++ " bytes".toList)⟩

/-- Once the bytes are known, there are two steps, of which either may fail. -/
theorem run_emit_of_ok {content : ByteArray}
    (known : sourceBytes fragments emission = .ok content) :
    (emit path fragments emission : StateM World _).run world =
      match (prepareParent path : StateM World _).run (world.noted (announcement path)) with
      | (.error failure, ready) => (.error failure, ready)
      | (.ok _, ready) =>
        match (store path content : StateM World _).run ready with
        | (.error failure, stored) => (.error failure, stored)
        | (.ok _, stored) => (.ok (), stored.noted (conclusion content)) := by
  have announced : (Host.inform "macrofor::output" ("Writing file: ".toList ++ path) :
      StateM World Unit).run world = ((), world.noted (announcement path)) := rfl
  rw [emit, World.run_bind, known]
  dsimp only
  rw [World.run_bind, announced]
  dsimp only
  rcases (prepareParent path : StateM World _).run (world.noted (announcement path)) with
    ⟨_ | _, ready⟩
  · rfl
  · dsimp only
    rw [World.run_bind]
    rcases (store path content : StateM World _).run ready with ⟨_ | _, stored⟩
    · rfl
    · rfl

/-- What is different when source text has been written. -/
theorem exists_of_emitted {after : World}
    (h : (emit path fragments emission : StateM World _).run world = (.ok (), after)) :
    ∃ content prepared place, sourceBytes fragments emission = .ok content ∧
      World.Adds (Path.above path) world prepared ∧ after.tree.find path = .ok place ∧
      World.Stores place content prepared after := by
  cases known : sourceBytes fragments emission with
  | error refusal =>
      rw [run_emit_of_refused path fragments emission world known] at h
      cases h
  | ok content =>
      rw [run_emit_of_ok path fragments emission world known] at h
      have prepares := World.adds_prepareParent path (world.noted (announcement path))
      split at h
      · cases h
      · case _ ready made =>
          rw [made] at prepares
          split at h
          · cases h
          · case _ stored filled =>
              cases h
              obtain ⟨place, leads, stores⟩ := World.stores_of_run filled
              exact ⟨content, ready, place, rfl, ⟨prepares.tree, prepares.printed⟩, leads,
                ⟨stores.tree, stores.grows, stores.printed⟩⟩

/-- Where a file can be made, source text is written if there is any. -/
theorem exists_emitted (creatable : world.tree.CanCreate path) {content : ByteArray}
    (known : sourceBytes fragments emission = .ok content) :
    ∃ after, (emit path fragments emission : StateM World _).run world = (.ok (), after) ∧
      after.tree.read path = .ok content ∧ after.printed = world.printed := by
  obtain ⟨prepared, place, created, prepares, made, apart⟩ := creatable
  rcases begun : (prepareParent path : StateM World _).run (world.noted (announcement path)) with
    ⟨outcome, ready⟩
  obtain ⟨same, tree⟩ := World.looks_prepareParent path (world.noted (announcement path))
    { tree := world.tree } rfl
  rw [begun, prepares] at same tree
  dsimp only at same tree
  rw [← tree] at made apart
  obtain ⟨stored, filled, leads, stores⟩ := World.exists_stores_of_apart content made apart
  have ran : (emit path fragments emission : StateM World _).run world =
      (.ok (), stored.noted (conclusion content)) := by
    rw [run_emit_of_ok path fragments emission world known, begun, same]
    dsimp only
    rw [filled]
  have adds := World.adds_prepareParent path (world.noted (announcement path))
  rw [begun] at adds
  refine ⟨_, ran, ?_, ?_⟩
  · rcases stores.tree.entry with ⟨found, -⟩ | ⟨device, there, -⟩
    · exact FileTree.read_eq_ok leads found
    · exact absurd there (apart device)
  · exact stores.printed.trans ((World.printedAt_of_apart apart content).trans adds.printed)

/-- A refusal is reported before any file or directory is touched. After success the bytes
of the rendering are in the place that the path leads to, and all that is different
elsewhere are directories that were missing on the way there. A device passes its bytes on
and has none of its own. -/
theorem emit_all_or_nothing {outcome : Except Failure Unit} {after : World}
    (ran : (emit path fragments emission : StateM World _).run world = (outcome, after)) :
    (∀ refusal, (render fragments emission = .error refusal ∨
        ∃ text, render fragments emission = .ok text ∧
          encode text emission.encoding = .error refusal) →
      outcome = .error (.refused refusal) ∧ after.tree = world.tree ∧
        after.printed = world.printed) ∧
    (outcome = .ok () →
      ∃ text content place, render fragments emission = .ok text ∧
        encode text emission.encoding = .ok content ∧ after.tree.find path = .ok place ∧
        (after.tree.entry? place = some (.file content) ∧ after.printed = world.printed ∨
          ∃ device, world.tree.entry? place = some (.device device) ∧
            after.tree.entry? place = some (.device device) ∧
            after.printed =
              if device = .output then world.printed ++ content else world.printed) ∧
        after.tree.here = world.tree.here ∧
        ∀ p, p ≠ place → after.tree.entry? p = world.tree.entry? p ∨
          world.tree.entry? p = none ∧ after.tree.entry? p = some .directory ∧
            ∃ directory ∈ Path.above path, after.tree.find directory = .ok p) := by
  constructor
  · intro refusal h
    rw [run_emit_of_refused path fragments emission world (sourceBytes_eq_error h)] at ran
    cases ran
    exact ⟨rfl, rfl, rfl⟩
  · rintro rfl
    obtain ⟨content, prepared, place, known, adds, leads, stores⟩ :=
      exists_of_emitted path fragments emission world ran
    obtain ⟨text, rendered, encoded⟩ := Success.bind_eq_ok_iff.mp known
    refine ⟨text, content, place, rendered, encoded, leads, ?_, ?_, ?_⟩
    · rcases stores.tree.entry with ⟨found, apart⟩ | ⟨device, there, found⟩
      · refine .inl ⟨found, ?_⟩
        rw [stores.printed, World.printedAt_of_apart apart, adds.printed]
      · rcases adds.tree.entry place with same | ⟨-, made, -⟩
        · refine .inr ⟨device, same.symm.trans there, found, ?_⟩
          rw [stores.printed, World.printedAt_of_device there, adds.printed]
        · rw [made] at there
          cases there
    · exact stores.tree.here.trans adds.tree.here
    · intro p other
      rw [stores.tree.other p other]
      refine (adds.tree.entry p).imp_right ?_
      rintro ⟨free, made, directory, above, found⟩
      exact ⟨free, made, directory, above, FileTree.find_of_grows stores.grows found⟩

end Emission

/-- In ASCII an accent is refused, and what can be written is in a directory made for it. -/
theorem emit_all_or_nothing_ascii :
    (∃ after : World, (emit "out/a.f90".toList [.ofText "x = 'é'".toList] { encoding := .ascii } :
        StateM World _).run { tree := FileTree.empty } =
          (.error (.refused (.unrepresentable 'é' .ascii)), after) ∧
      after.tree = FileTree.empty) ∧
    ∃ (after : World) (text : Text) (content : ByteArray) (place : Place),
      (emit "out/a.f90".toList [.ofText "x = 1".toList] { encoding := .ascii } :
        StateM World _).run { tree := FileTree.empty } = (.ok (), after) ∧
      render [.ofText "x = 1".toList] { encoding := .ascii } = .ok text ∧
      encode text .ascii = .ok content ∧ after.tree.find "out/a.f90".toList = .ok place ∧
      (after.tree.entry? place = some (.file content) ∨
        ∃ device, FileTree.empty.entry? place = some (.device device)) := by
  have rendered : render [.ofText "x = 'é'".toList] { encoding := .ascii } =
      .ok "x = 'é'\n".toList := by decide +kernel
  have refused : encode "x = 'é'\n".toList .ascii = .error (.unrepresentable 'é' .ascii) := by
    decide +kernel
  have success : ((emit "out/a.f90".toList [.ofText "x = 1".toList] { encoding := .ascii } :
      StateM World _).run { tree := FileTree.empty }).1 = .ok () := by decide +kernel
  constructor
  · rcases ran : (emit "out/a.f90".toList [.ofText "x = 'é'".toList] { encoding := .ascii } :
      StateM World _).run { tree := FileTree.empty } with ⟨outcome, after⟩
    obtain ⟨rfl, kept, -⟩ := (emit_all_or_nothing _ _ _ _ ran).1 _ (.inr ⟨_, rendered, refused⟩)
    exact ⟨after, rfl, kept⟩
  · rcases ran : (emit "out/a.f90".toList [.ofText "x = 1".toList] { encoding := .ascii } :
      StateM World _).run { tree := FileTree.empty } with ⟨outcome, after⟩
    rw [ran] at success
    obtain ⟨text, content, place, rendered, encoded, leads, entry, -, -⟩ :=
      (emit_all_or_nothing _ _ _ _ ran).2 success
    refine ⟨after, text, content, place, Prod.ext success rfl, rendered, encoded, leads,
      entry.imp And.left ?_⟩
    rintro ⟨device, there, -, -⟩
    exact ⟨device, there⟩

end FortranWriter
