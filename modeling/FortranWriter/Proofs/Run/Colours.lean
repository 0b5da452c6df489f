import FortranWriter.Proofs.CommandLine.Options
import FortranWriter.Proofs.Highlight.Colours
import FortranWriter.Proofs.Listing.Characters
import FortranWriter.Proofs.Run.Check
import FortranWriter.Proofs.Run.Output
/-! To ask for colours changes nothing but what is printed, and there it puts escape sequences into
the text and a line feed behind each of its lines. -/
namespace FortranWriter
open CommandLine Success

/-- There is no escape character in the texts of a descriptor, nor in the
name that its banner has. -/
structure Descriptor.Bare (descriptor : Descriptor) (filename : Text) : Prop where
  texts : Assembly.Everywhere (OnePass.Spelled (· ≠ Terminal.escape)) descriptor.statements
  name : descriptor.settings.banner = some true →
    Terminal.escape ∉ Descriptor.sourceName filename

/-- Source text that is in UTF-8, or in characters that any encoding writes in the same way. -/
def IsPortable (fragments : List Fragment) (emission : Emission) : Prop :=
  emission.encoding = .utf8 ∨
    ∀ text, render fragments emission = .ok text → ∀ c ∈ text, c.toNat < 0x80

section
variable {descriptor : Descriptor} {filename text : Text} {fragments : List Fragment}

theorem encode_of_portable {emission : Emission} (portable : IsPortable fragments emission)
    (rendered : render fragments emission = .ok text) :
    encode text emission.encoding = .ok (Text.bytes text) := by
  rcases portable with universal | ascii
  · rw [universal]
    rfl
  · exact encode_of_ascii (ascii text rendered) emission.encoding

/-- Nothing that is written between the texts of a descriptor is an escape character either. -/
theorem escape_not_mem_of_render {choices : Choices} (bare : descriptor.Bare filename)
    (composed : descriptor.fragments = .ok fragments)
    (rendered : render fragments (descriptor.emission filename choices) = .ok text) :
    Terminal.escape ∉ text := by
  have printable : ∀ c, IsPrintable c → c ≠ Terminal.escape := by
    rintro c shown rfl
    exact absurd shown (by decide)
  obtain ⟨supply, -, assembled⟩ := bind_eq_ok_iff.mp composed
  have lines : ∀ l ∈ fragments.flatMap Fragment.lines, ∀ c ∈ l.text, c ≠ Terminal.escape :=
    OnePass.lettering_of_assembled printable bare.texts (Prod.ext assembled rfl)
  have source : ∀ t, (descriptor.emission filename choices).banner = some t →
      ∀ c ∈ t, c ≠ Terminal.escape :=
    forall_banner_iff.mpr fun asked c mem same => bare.name asked (same ▸ mem)
  intro mem
  exact of_render printable (by decide) (by decide) rendered lines source _ mem rfl

/-- Either nothing can be printed in one way or the other, or the texts that are differ in what is
taken out of the one, and in its line endings. -/
theorem printedBytes_cases {choices : Choices} (bare : descriptor.Bare filename)
    (composed : descriptor.fragments = .ok fragments)
    (portable : IsPortable fragments (descriptor.emission filename choices)) :
    (∃ refusal, ∀ coloured,
      printedBytes fragments (descriptor.emission filename choices) coloured = .error refusal) ∨
    ∃ text shown,
      printedBytes fragments (descriptor.emission filename choices) false = .ok (Text.bytes text) ∧
      printedBytes fragments (descriptor.emission filename choices) true = .ok (Text.bytes shown) ∧
      Terminal.unstyled shown = text.normalised := by
  cases rendered : render fragments (descriptor.emission filename choices) with
  | error refusal =>
      refine .inl ⟨refusal, fun coloured => ?_⟩
      cases coloured
      · exact congrArg (· >>= fun text => encode text _) rendered
      · exact congrArg (· >>= fun text => pure (Text.bytes (Highlight.display _ text _))) rendered
  | ok text =>
      have escapeless := escape_not_mem_of_render bare composed rendered
      refine .inr ⟨text, _, ?_, ?_, Highlight.unstyled_display escapeless
        (descriptor.emission filename choices).form⟩
      · exact bind_eq_ok_iff.mpr ⟨text, rendered, encode_of_portable portable rendered⟩
      · exact bind_eq_ok_iff.mpr ⟨text, rendered, rfl⟩

end

/-- A run with colours ends as the run without them does, and says the same if it fails. What it
prints is, without its escape sequences, what the other prints with a line feed for each line
ending, so it is that itself if there are no others. -/
theorem coloured_as_printed {surroundings : Surroundings} {rest : List Text} {verbose : Bool}
    {filename : Text} {choices : Choices} {world printed coloured : World} {first second : Ending}
    (asked : request surroundings.width ("generate".toList :: rest) =
      .act verbose (.generate filename choices))
    (unasked : choices.output = none) (plain : choices.coloured = false)
    (fit : ∀ descriptor fragments, world.tree.Describes filename descriptor fragments →
      descriptor.Bare filename ∧ IsPortable fragments (descriptor.emission filename choices))
    (prints : (run surroundings ("generate".toList :: rest) : StateM World _).run world =
      (first, printed))
    (colours : (run surroundings ("generate".toList :: "-R".toList :: rest) : StateM World _).run
      world = (second, coloured)) :
    second = first ∧ coloured.complaints = printed.complaints ∧ coloured.tree = printed.tree ∧
      ((first = .failed ∧ printed.printed = world.printed ∧ coloured.printed = world.printed) ∨
        first = .done ∧ ∃ text shown, printed.printed = world.printed ++ Text.bytes text ∧
          coloured.printed = world.printed ++ Text.bytes shown ∧
          Terminal.unstyled shown = text.normalised ∧
          (Terminal.unstyled shown = text ↔ text.Terminated)) := by
  rw [run_of_act asked] at prints
  rw [run_of_act (request_coloured asked plain)] at colours
  change (runGenerate filename choices : StateM World _).run _ = _ at prints
  change (runGenerate filename { choices with coloured := true } : StateM World _).run _ = _
    at colours
  rcases runGenerate_cases filename { world with
      log := some ⟨Log.Filter.choose verbose surroundings.filter, surroundings.coloured⟩ } with
    ⟨after, keeps, -, ran⟩ | ⟨descriptor, fragments, ready, describes, keeps, ran⟩
  · cases (ran choices).symm.trans prints
    cases (ran _).symm.trans colours
    exact ⟨rfl, rfl, rfl, .inl ⟨rfl, keeps.printed, keeps.printed⟩⟩
  · have same : descriptor.emission filename { choices with coloured := true } =
        descriptor.emission filename choices := rfl
    have known := keeps.trans (ready.keeps_noted (emissionRecord
      (descriptor.emission filename choices)))
    rw [ran, run_deliver_printed _ _ _ _ unasked, plain] at prints
    have free : Choices.output { choices with coloured := true } = none := unasked
    rw [ran, same, run_deliver_printed _ _ _ _ free] at colours
    dsimp only at colours
    obtain ⟨bare, portable⟩ := fit descriptor fragments describes
    rcases printedBytes_cases bare describes.composed portable with
      ⟨refusal, refused⟩ | ⟨text, shown, here, there, unstyled⟩
    · rw [refused] at prints colours
      cases prints
      cases colours
      exact ⟨rfl, rfl, rfl, .inl ⟨rfl, known.printed, known.printed⟩⟩
    · rw [here] at prints
      rw [there] at colours
      cases prints
      cases colours
      refine ⟨rfl, rfl, rfl, .inr ⟨rfl, text, shown, ?_, ?_, unstyled, ?_⟩⟩
      · exact congrArg (· ++ _) known.printed
      · exact congrArg (· ++ _) known.printed
      · rw [unstyled, Text.normalised_eq_iff]

/-- A machine with a descriptor whose name is an escape sequence, and is to be in the banner. -/
def World.bold : World :=
  { tree := FileTree.empty.plant "\x1b[1m".toList
      (Text.bytes "settings.banner=true\nstatements=[['stop']]".toList) }

/-- Carriage returns in front of line feeds are lost, the encoding is not asked, and a file name may
hold a sequence that is there without colours too. -/
theorem not_coloured_as_printed :
    (∃ shown,
      ((run {} ["generate".toList, "-R".toList, "--line-ending".toList, "crlf".toList,
        "a.toml".toList] : StateM World _).run World.minimal).2.printed = Text.bytes shown ∧
      ((run {} ["generate".toList, "--line-ending".toList, "crlf".toList, "a.toml".toList] :
        StateM World _).run World.minimal).2.printed ≠ Text.bytes (Terminal.unstyled shown)) ∧
    (((run {} ["generate".toList, "-R".toList, "a.toml".toList] : StateM World _).run
        World.accented).1 = .done ∧
      ((run {} ["generate".toList, "a.toml".toList] : StateM World _).run World.accented).1 =
        .failed) ∧
    ∃ shown,
      ((run {} ["generate".toList, "-R".toList, "\x1b[1m".toList] : StateM World _).run
        World.bold).2.printed = Text.bytes shown ∧
      ((run {} ["generate".toList, "\x1b[1m".toList] : StateM World _).run
        World.bold).2.printed ≠ Text.bytes (Terminal.unstyled shown) := by
  refine ⟨⟨"\x1b[1m\x1b[38;2;52;101;164mstop\x1b[39m\x1b[0m\n".toList, ?_⟩, ?_,
    "\x1b[3m\x1b[38;2;117;80;123m! generated by macrofor 0.1.0 from \x1b[1m\x1b[39m\x1b[0m\n".toList ++
      "\x1b[3m\x1b[38;2;117;80;123m! source form: free\x1b[39m\x1b[0m\n".toList ++
      "\x1b[1m\x1b[38;2;52;101;164mstop\x1b[39m\x1b[0m\n".toList, ?_⟩
  · decide +kernel
  · decide +kernel
  · decide +kernel

theorem fit_minimal {descriptor : Descriptor} {fragments : List Fragment} {choices : Choices}
    (describes : World.minimal.tree.Describes "a.toml".toList descriptor fragments)
    (unasked : choices.encoding = none) :
    descriptor.Bare "a.toml".toList ∧
      IsPortable fragments (descriptor.emission "a.toml".toList choices) := by
  have simple : ((World.minimal.tree.text "a.toml".toList).toOption.bind
      (Descriptor.parse · |>.toOption)).all (fun descriptor =>
        descriptor.statements.all (fun s => (Assembly.bodies s).isEmpty && s.texts.isEmpty) &&
          descriptor.settings.banner.isNone && descriptor.settings.encoding.isNone) = true := by
    decide +kernel
  obtain ⟨source, found, parsed⟩ := describes.parsed
  rw [found] at simple
  change ((Descriptor.parse source).toOption.all _) = true at simple
  rw [parsed] at simple
  simp only [Except.toOption, Option.all_some, Bool.and_eq_true, List.all_eq_true,
    List.isEmpty_iff, Option.isNone_iff_eq_none] at simple
  obtain ⟨⟨flat, banner⟩, encoding⟩ := simple
  refine ⟨⟨?_, ?_⟩, .inl ?_⟩
  · intro s within
    cases within with
    | here mem =>
        rw [OnePass.Spelled, (flat s mem).2]
        exact nofun
    | inside mem deeper =>
        rw [(flat _ mem).1] at deeper
        exact absurd deeper Assembly.not_within_nil
  · rw [banner]
    exact nofun
  · change (choices.encoding <|> descriptor.settings.encoding).getD _ = _
    rw [unasked, encoding]
    rfl

theorem coloured_as_printed_minimal :
    ∃ (printed coloured : World) (text shown : Text),
      (run {} ["generate".toList, "--line-ending".toList, "crlf".toList, "a.toml".toList] :
        StateM World _).run World.minimal = (.done, printed) ∧
      (run {} ["generate".toList, "-R".toList, "--line-ending".toList, "crlf".toList,
        "a.toml".toList] : StateM World _).run World.minimal = (.done, coloured) ∧
      printed.printed = World.minimal.printed ++ Text.bytes text ∧
      coloured.printed = World.minimal.printed ++ Text.bytes shown ∧
      Terminal.unstyled shown = text.normalised := by
  have success : ((run {} ["generate".toList, "--line-ending".toList, "crlf".toList,
      "a.toml".toList] : StateM World _).run World.minimal).1 = .done := by decide +kernel
  rcases prints : (run {} ["generate".toList, "--line-ending".toList, "crlf".toList,
    "a.toml".toList] : StateM World _).run World.minimal with ⟨first, printed⟩
  rcases colours : (run {} ["generate".toList, "-R".toList, "--line-ending".toList, "crlf".toList,
    "a.toml".toList] : StateM World _).run World.minimal with ⟨second, coloured⟩
  rw [prints] at success
  have asked : request (Surroundings.width {}) ["generate".toList, "--line-ending".toList,
      "crlf".toList, "a.toml".toList] = .act false (.generate "a.toml".toList
        { filename := some "a.toml".toList, lineEnding := some .crlf }) := rfl
  obtain ⟨rfl, -, -, ⟨failed, -⟩ | ⟨rfl, text, shown, plainly, marked, unstyled, -⟩⟩ :=
    coloured_as_printed asked rfl rfl (fun _ _ describes => fit_minimal describes rfl)
      prints colours
  · cases success.symm.trans failed
  · exact ⟨printed, coloured, text, shown, rfl, rfl, plainly, marked, unstyled⟩

end FortranWriter
