import FortranWriter.Proofs.CommandLine.Options
import FortranWriter.Proofs.Delivery
import FortranWriter.Proofs.Run
/-! Source text is the same whether it is printed or written to a file, and so is what keeps it from
being either. -/
namespace FortranWriter
open CommandLine

theorem FileTree.CanCreate.ne_nil {tree : FileTree} {path : Text} (h : tree.CanCreate path) :
    path ≠ [] := by
  rintro rfl
  obtain ⟨prepared, place, created, -, made, -⟩ := h
  cases made

/-- A record that the log does not show leaves no trace. -/
theorem World.noted_of_hidden {world : World} {setting : Log.Setting} {record : Log.Record}
    (log : world.log = some setting) (hidden : setting.filter.shows record = false) :
    world.noted record = world := by
  have nothing : world.shown record = [] := by
    rw [World.shown, log]
    exact if_neg (Bool.eq_false_iff.mp hidden)
  rw [World.noted, World.complain, nothing]
  change { world with complaints := world.complaints ++ ByteArray.empty } = world
  rw [ByteArray.append_empty]

section Delivering
variable (filename : Text) (fragments : List Fragment) (emission : Emission) {path : Text}
  {choices : Choices} {world : World}

/-- Either the bytes are known, and go to the one or the other place, or the
same is said of them. -/
theorem deliver_cases (unasked : choices.output = none) (plain : choices.coloured = false)
    (creatable : world.tree.CanCreate path) :
    (∃ content after,
      (deliver filename fragments emission choices : StateM World _).run world =
        (.done, world.print content) ∧
      (deliver filename fragments emission { choices with output := some path } :
        StateM World _).run world = (.done, after) ∧
      after.tree.read path = .ok content ∧ after.printed = world.printed) ∨
    ∃ words,
      (deliver filename fragments emission choices : StateM World _).run world =
        (.failed, world.blamed words) ∧
      (deliver filename fragments emission { choices with output := some path } :
        StateM World _).run world = (.failed, (world.noted (announcement path)).blamed words) := by
  rw [run_deliver_printed filename fragments emission world unasked,
    run_deliver_stored filename fragments emission world rfl, plain]
  have bytes : printedBytes fragments emission false = sourceBytes fragments emission := rfl
  rw [bytes]
  cases known : sourceBytes fragments emission with
  | error refusal =>
      refine .inr ⟨refusalReport refusal filename, rfl, ?_⟩
      rw [run_emit_of_refused path fragments emission world known]
      rfl
  | ok content =>
      obtain ⟨after, ran, read, printed⟩ :=
        exists_emitted path fragments emission world creatable known
      refine .inl ⟨content, after, rfl, ?_, read, printed⟩
      rw [ran]

end Delivering

/-- Nothing is logged unless that is asked for. -/
theorem shows_announcement (path : Text) :
    (Log.Filter.choose false none).shows (announcement path) = false := rfl

/-- To print source text and to write it to a file come to the same: the file has the bytes that
would have been printed, or both fail, print nothing and touch nothing. What is said then is the
same too, unless the log shows which file was to be written. -/
theorem stored_as_printed {surroundings : Surroundings} {rest given : List Text} {verbose : Bool}
    {filename path : Text} {choices : Choices} {world printed stored : World}
    {first second : Ending}
    (asked : request surroundings.width ("generate".toList :: rest) =
      .act verbose (.generate filename choices))
    (unasked : choices.output = none) (plain : choices.coloured = false)
    (asks : AsksFor path given) (creatable : world.tree.CanCreate path)
    (prints : (run surroundings ("generate".toList :: rest) : StateM World _).run world =
      (first, printed))
    (stores : (run surroundings ("generate".toList :: (given ++ rest)) : StateM World _).run world =
      (second, stored)) :
    (first = .done ∧ second = .done ∧ stored.printed = world.printed ∧ printed.tree = world.tree ∧
      ∃ content, printed.printed = world.printed ++ content ∧ stored.tree.read path = .ok content) ∨
    (first = .failed ∧ second = .failed ∧ printed.printed = world.printed ∧
      stored.printed = world.printed ∧ printed.tree = world.tree ∧ stored.tree = world.tree ∧
      ((Log.Filter.choose verbose surroundings.filter).shows (announcement path) = false →
        stored.complaints = printed.complaints)) := by
  have stored_ := request_stored asked asks creatable.ne_nil unasked
  rw [run_of_act asked] at prints
  rw [run_of_act stored_] at stores
  change (runGenerate filename choices : StateM World _).run _ = _ at prints
  change (runGenerate filename { choices with output := some path } : StateM World _).run _ = _
    at stores
  rcases runGenerate_cases filename { world with
      log := some ⟨Log.Filter.choose verbose surroundings.filter, surroundings.coloured⟩ } with
    ⟨after, keeps, -, ran⟩ | ⟨descriptor, fragments, ready, -, keeps, ran⟩
  · cases (ran choices).symm.trans prints
    cases (ran _).symm.trans stores
    exact .inr ⟨rfl, rfl, keeps.printed, keeps.printed, keeps.tree, keeps.tree, fun _ => rfl⟩
  · have same : descriptor.emission filename { choices with output := some path } =
        descriptor.emission filename choices := rfl
    have logged := ready.keeps_noted (emissionRecord (descriptor.emission filename choices))
    have known := keeps.trans logged
    rw [ran] at prints stores
    rw [same] at stores
    have creatable_ : FileTree.CanCreate (ready.noted (emissionRecord
        (descriptor.emission filename choices))).tree path := by
      rw [known.tree]
      exact creatable
    rcases deliver_cases filename fragments (descriptor.emission filename choices) unasked plain
        creatable_ with
      ⟨content, after, here, there, read, kept⟩ | ⟨words, here, there⟩
    · cases here.symm.trans prints
      cases there.symm.trans stores
      refine .inl ⟨rfl, rfl, kept.trans known.printed, known.tree, content, ?_, read⟩
      exact congrArg (· ++ content) known.printed
    · cases here.symm.trans prints
      cases there.symm.trans stores
      refine .inr ⟨rfl, rfl, known.printed, known.printed, known.tree, known.tree, fun hidden => ?_⟩
      rw [World.noted_of_hidden known.log hidden]

def World.minimal : World :=
  { tree := FileTree.empty.plant "a.toml".toList (Text.bytes "statements=[['stop']]".toList) }

/-- The directory of a file may have to be made. -/
theorem canCreate_minimal : World.minimal.tree.CanCreate "out/a.f90".toList := by
  let place := ["a.f90".toList, "out".toList, "work".toList]
  rcases prepares : (prepareParent "out/a.f90".toList : StateM World _).run
    { tree := World.minimal.tree } with ⟨outcome, prepared⟩
  have success : ((prepareParent "out/a.f90".toList : StateM World _).run
      { tree := World.minimal.tree }).1 = .ok () := by decide +kernel
  have made : ((((prepareParent "out/a.f90".toList : StateM World _).run
      { tree := World.minimal.tree }).2.tree.createFile "out/a.f90".toList).toOption.map Prod.fst) =
        some place := by decide +kernel
  have free : (FileTree.entry? ((prepareParent "out/a.f90".toList : StateM World _).run
      { tree := World.minimal.tree }).2.tree place).isNone = true := by decide +kernel
  rw [prepares] at success made free
  cases success
  cases created : prepared.tree.createFile "out/a.f90".toList with
  | error fault =>
      rw [created] at made
      cases made
  | ok found =>
      rw [created] at made
      obtain ⟨there, tree⟩ := found
      have same : there = place := Option.some.inj made
      refine ⟨prepared, there, tree, prepares, created, fun device known => ?_⟩
      rw [← same, known] at free
      cases free

theorem stored_as_printed_minimal :
    ∃ (printed stored : World) (content : ByteArray),
      (run {} ["generate".toList, "a.toml".toList] : StateM World _).run World.minimal =
        (.done, printed) ∧
      (run {} ["generate".toList, "-o".toList, "out/a.f90".toList, "a.toml".toList] :
        StateM World _).run World.minimal = (.done, stored) ∧
      printed.printed = World.minimal.printed ++ content ∧
      stored.tree.read "out/a.f90".toList = .ok content := by
  have success : ((run {} ["generate".toList, "a.toml".toList] : StateM World _).run
      World.minimal).1 = .done := by decide +kernel
  rcases prints : (run {} ["generate".toList, "a.toml".toList] : StateM World _).run
    World.minimal with ⟨first, printed⟩
  rcases stores : (run {} ["generate".toList, "-o".toList, "out/a.f90".toList, "a.toml".toList] :
    StateM World _).run World.minimal with ⟨second, stored⟩
  rw [prints] at success
  have option : "-o".toList ∈ ["-o".toList, "--output".toList] := List.mem_cons_self
  have asked : request (Surroundings.width {}) ["generate".toList, "a.toml".toList] =
      .act false (.generate "a.toml".toList { filename := some "a.toml".toList }) := rfl
  rcases stored_as_printed asked rfl rfl (.apart option rfl) canCreate_minimal prints stores with
    ⟨rfl, rfl, -, -, content, shown, read⟩ | ⟨failed, -⟩
  · exact ⟨printed, stored, content, rfl, rfl, shown, read⟩
  · cases success.symm.trans failed

end FortranWriter
