import FortranWriter.Proofs.CommandLine.Reading
import FortranWriter.Proofs.Listing
import FortranWriter.Proofs.Run
/-! What a check tells of what would be generated. It looks at the statements and at what is asked
of labels, but not at the banner, nor at the encoding. -/
namespace FortranWriter
open CommandLine

/-- A banner names the file that the descriptor is in. -/
theorem forall_banner_iff {descriptor : Descriptor} {filename : Text} {choices : Choices}
    {p : Text → Prop} :
    (∀ source, (descriptor.emission filename choices).banner = some source → p source) ↔
      (descriptor.settings.banner = some true → p (Descriptor.sourceName filename)) := by
  dsimp only [Descriptor.emission]
  split
  · case _ asked =>
      refine ⟨fun h _ => h _ rfl, fun h source same => ?_⟩
      cases same
      exact h asked
  · case _ unasked => exact ⟨fun _ asked => absurd asked unasked, fun _ _ h => (nomatch h)⟩

theorem exists_generated_iff {descriptor : Descriptor} {filename : Text} {choices : Choices}
    {fragments : List Fragment} :
    (∃ content, sourceBytes fragments (descriptor.emission filename choices) = .ok content) ↔
      (descriptor.settings.banner = some true →
        ∀ line ∈ (bannerText (Descriptor.sourceName filename)
          (descriptor.emission filename choices).form).lines, '\r' ∉ line) ∧
      ∀ text, render fragments (descriptor.emission filename choices) = .ok text →
        ∀ c ∈ text, (descriptor.emission filename choices).encoding.Writes c :=
  exists_sourceBytes_iff.trans (and_congr_left fun _ =>
    forall_banner_iff (p := fun source => ∀ line ∈
      (bannerText source (descriptor.emission filename choices).form).lines, '\r' ∉ line))

/-- Without a file name nothing is done. -/
theorem run_check_nil (surroundings : Surroundings) (world : World) :
    ((run surroundings ["check".toList, []] : StateM World _).run world).1 = .misused := rfl

/-- A check that fails foretells that nothing can be generated. One that succeeds foretells
success but for two things: the banner may have a carriage return in a line, and a character may
be missing in the encoding. -/
theorem generates_iff {surroundings : Surroundings} {filename : Text}
    {world checked generated : World} {first second : Ending} (plain : Shape.of filename = .plain)
    (checks : (run surroundings ["check".toList, filename] : StateM World _).run world =
      (first, checked))
    (generates : (run surroundings ["generate".toList, filename] : StateM World _).run world =
      (second, generated)) :
    (first = .done → ∃ descriptor fragments, world.tree.Describes filename descriptor fragments ∧
      (second = .done ↔
        (descriptor.settings.banner = some true →
          ∀ line ∈ (bannerText (Descriptor.sourceName filename)
            (descriptor.emission filename {}).form).lines, '\r' ∉ line) ∧
        ∀ text, render fragments (descriptor.emission filename {}) = .ok text →
          ∀ c ∈ text, (descriptor.emission filename {}).encoding.Writes c) ∧
      (second ≠ .done → second = .failed ∧ generated.printed = world.printed ∧
        ∃ refusal shown, sourceBytes fragments (descriptor.emission filename {}) = .error refusal ∧
          generated.complaints =
            shown ++ Text.bytes (refusalReport refusal filename ++ ['\n']))) ∧
    (first = .failed → second = .failed ∧ generated.printed = world.printed) := by
  by_cases filled : filename = []
  · subst filled
    have misused := run_check_nil surroundings world
    rw [checks] at misused
    dsimp only at misused
    rw [misused]
    exact ⟨nofun, nofun⟩
  rw [run_of_act (request_check plain filled)] at checks
  rw [run_of_act (request_generate plain filled)] at generates
  change (runCheck filename : StateM World _).run _ = _ at checks
  change (runGenerate filename { filename := some filename } : StateM World _).run _ = _
    at generates
  let logging : World := { world with
    log := some ⟨Log.Filter.choose false surroundings.filter, surroundings.coloured⟩ }
  rcases runGenerate_cases filename logging with
    ⟨after, keeps, none, ran⟩ | ⟨descriptor, fragments, ready, describes, keeps, ran⟩
  · cases (ran _).symm.trans generates
    refine ⟨?_, fun _ => ⟨rfl, keeps.printed⟩⟩
    rintro rfl
    rcases runCheck_cases filename logging with
      ⟨_, -, -, failed⟩ | ⟨descriptor, fragments, _, describes, -⟩
    · cases failed.symm.trans checks
    · exact absurd describes (none descriptor fragments)
  · have known := keeps.trans (ready.keeps_noted (emissionRecord (descriptor.emission filename {})))
    have delivered := (ran { filename := some filename }).symm.trans generates
    rw [run_deliver_printed _ _ _ _ rfl] at delivered
    have printed : printedBytes fragments
        (descriptor.emission filename { filename := some filename })
        (Choices.coloured { filename := some filename }) =
          sourceBytes fragments (descriptor.emission filename {}) := rfl
    rw [printed] at delivered
    cases bytes : sourceBytes fragments (descriptor.emission filename {}) with
    | error refusal =>
        rw [bytes] at delivered
        cases delivered
        refine ⟨fun _ => ⟨descriptor, fragments, describes, ?_, fun _ => ?_⟩,
          fun _ => ⟨rfl, known.printed⟩⟩
        · rw [← exists_generated_iff, bytes]
          exact ⟨nofun, nofun⟩
        · exact ⟨rfl, known.printed, refusal, _, bytes, rfl⟩
    | ok content =>
        rw [bytes] at delivered
        cases delivered
        refine ⟨fun _ => ⟨descriptor, fragments, describes, ?_,
          fun undone => absurd rfl undone⟩, ?_⟩
        · rw [← exists_generated_iff, bytes]
          exact ⟨fun _ => ⟨content, rfl⟩, fun _ => rfl⟩
        · rintro rfl
          rcases runCheck_cases filename logging with ⟨_, -, none, -⟩ | ⟨_, _, _, -, -, done⟩
          · exact absurd describes (none descriptor fragments)
          · cases done.symm.trans checks

/-- A machine with a descriptor that asks for ASCII and has an accent in a statement. -/
def World.accented : World :=
  { tree := FileTree.empty.plant "a.toml".toList
      (Text.bytes "settings.encoding='ascii'\nstatements=[['text','é']]".toList) }

theorem not_generates_accented :
    ((run {} ["check".toList, "a.toml".toList] : StateM World _).run World.accented).1 = .done ∧
      ((run {} ["generate".toList, "a.toml".toList] : StateM World _).run World.accented).1 =
        .failed := by
  decide +kernel

/-- The accent is found only when source text is generated. -/
theorem generates_iff_accented : ∃ descriptor fragments,
    World.accented.tree.Describes "a.toml".toList descriptor fragments ∧
      ¬ ((descriptor.settings.banner = some true →
          ∀ line ∈ (bannerText (Descriptor.sourceName "a.toml".toList)
            (descriptor.emission "a.toml".toList {}).form).lines, '\r' ∉ line) ∧
        ∀ text, render fragments (descriptor.emission "a.toml".toList {}) = .ok text →
          ∀ c ∈ text, (descriptor.emission "a.toml".toList {}).encoding.Writes c) := by
  have accepted : ((run {} ["check".toList, "a.toml".toList] : StateM World _).run
      World.accented).1 = .done := by decide +kernel
  have refused : ((run {} ["generate".toList, "a.toml".toList] : StateM World _).run
      World.accented).1 = .failed := by decide +kernel
  rcases checks : (run {} ["check".toList, "a.toml".toList] : StateM World _).run
    World.accented with ⟨first, checked⟩
  rcases generates : (run {} ["generate".toList, "a.toml".toList] : StateM World _).run
    World.accented with ⟨second, generated⟩
  rw [checks] at accepted
  rw [generates] at refused
  obtain ⟨descriptor, fragments, describes, generated_iff, -⟩ :=
    (generates_iff rfl checks generates).1 accepted
  refine ⟨descriptor, fragments, describes, fun fits => ?_⟩
  cases refused.symm.trans (generated_iff.mpr fits)

end FortranWriter
