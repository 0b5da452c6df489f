import FortranWriter.Proofs.Host.World
import FortranWriter.Run
/-! Runs of the commands on a machine that is a value: what they make of the file that they are
given, and what is left to do once its fragments are known. -/
namespace FortranWriter

namespace FileTree

def text (tree : FileTree) (path : Text) : Except FileFault Text :=
  (tree.read path).bind decoded

def HasDescriptor (tree : FileTree) (path : Text) (descriptor : Descriptor) : Prop :=
  ∃ source, tree.text path = .ok source ∧ Descriptor.parse source = .ok descriptor

/-- There is a descriptor in a file, and it can be made into fragments. -/
structure Describes (tree : FileTree) (path : Text) (descriptor : Descriptor)
    (fragments : List Fragment) : Prop where
  parsed : tree.HasDescriptor path descriptor
  composed : descriptor.fragments = .ok fragments

theorem HasDescriptor.unique {tree : FileTree} {path : Text} {descriptor other : Descriptor}
    (h : tree.HasDescriptor path descriptor) (also : tree.HasDescriptor path other) :
    descriptor = other := by
  obtain ⟨source, found, parsed⟩ := h
  obtain ⟨_, again, parses⟩ := also
  cases found.symm.trans again
  exact Except.ok.inj (parsed.symm.trans parses)

end FileTree

namespace World

/-- Nothing but complaints is different. -/
structure Keeps (before after : World) : Prop where
  tree : after.tree = before.tree
  printed : after.printed = before.printed
  log : after.log = before.log

theorem Keeps.trans {before middle after : World} (first : Keeps before middle)
    (second : Keeps middle after) : Keeps before after :=
  ⟨second.tree.trans first.tree, second.printed.trans first.printed, second.log.trans first.log⟩

theorem keeps_noted (world : World) (record : Log.Record) : world.Keeps (world.noted record) :=
  ⟨rfl, rfl, rfl⟩

def blamed (world : World) (words : Text) : World :=
  world.complain (Text.bytes (words ++ ['\n']))

theorem keeps_blamed (world : World) (words : Text) : world.Keeps (world.blamed words) :=
  ⟨rfl, rfl, rfl⟩

theorem run_fail (words : Text) (world : World) :
    (fail words : StateM World Ending).run world = (.failed, world.blamed words) := rfl

end World

section Reading
variable {filename source : Text} {descriptor : Descriptor} {world : World}

def unreadRecord (fault : FileFault) : Log.Record :=
  ⟨.detail, "macrofor::parsing".toList, .value "error".toList fault.record⟩

def census (descriptor : Descriptor) : Log.Record :=
  let count := descriptor.statements.length
  ⟨.detail, "macrofor::parsing".toList, .message ("Found ".toList ++ Decimal.ofNat count ++
    " statement".toList ++ if count = 1 then [] else ['s'])⟩

theorem run_load_of_error {fault : FileFault} (h : world.tree.text filename = .error fault) :
    (load filename : StateM World _).run world =
      (.error fault, world.noted (unreadRecord fault)) := by
  have known : (world.tree.read filename).bind decoded = .error fault := h
  rw [load, World.run_bind, World.run_readFile]
  dsimp only
  rw [known]
  rfl

theorem run_load_of_ok (h : world.tree.text filename = .ok source) :
    (load filename : StateM World _).run world = (.ok source, world) := by
  have known : (world.tree.read filename).bind decoded = .ok source := h
  rw [load, World.run_bind, World.run_readFile]
  dsimp only
  rw [known]
  rfl

section Continuing
variable (report : Descriptor.ParsingFault → Text → Text → Text)
    (go : Descriptor → StateM World Ending)

theorem run_withDescriptor_of_unread {fault : FileFault}
    (h : world.tree.text filename = .error fault) :
    (withDescriptor filename report go : StateM World _).run world =
      (.failed,
        (world.noted (unreadRecord fault)).blamed (Report.loading fault.unread filename)) := by
  rw [withDescriptor, World.run_bind, run_load_of_error h]
  exact World.run_fail _ _

theorem run_withDescriptor_of_unparsed {fault : Descriptor.ParsingFault}
    (h : world.tree.text filename = .ok source) (faulty : Descriptor.parse source = .error fault) :
    (withDescriptor filename report go : StateM World _).run world =
      (.failed, world.blamed (report fault filename source)) := by
  rw [withDescriptor, World.run_bind, run_load_of_ok h]
  dsimp only
  rw [faulty]
  exact World.run_fail _ _

theorem run_withDescriptor_of_parsed (h : world.tree.HasDescriptor filename descriptor) :
    (withDescriptor filename report go : StateM World _).run world =
      (go descriptor).run (world.noted (census descriptor)) := by
  obtain ⟨source, found, parsed⟩ := h
  rw [withDescriptor, World.run_bind, run_load_of_ok found]
  dsimp only
  rw [parsed]
  rfl

end Continuing

/-- A run goes on with the descriptor in a file. If there is none, it fails
whatever was to be done. -/
theorem withDescriptor_cases (filename : Text) (world : World)
    (report : Descriptor.ParsingFault → Text → Text → Text) :
    (∃ after, world.Keeps after ∧ (∀ descriptor, ¬ world.tree.HasDescriptor filename descriptor) ∧
      ∀ go, (withDescriptor filename report go : StateM World _).run world = (.failed, after)) ∨
    ∃ descriptor, world.tree.HasDescriptor filename descriptor := by
  cases found : world.tree.text filename with
  | error fault =>
      have keeps := (world.keeps_noted (unreadRecord fault)).trans
        (World.keeps_blamed _ (Report.loading fault.unread filename))
      refine .inl ⟨_, keeps, ?_, fun go => run_withDescriptor_of_unread report go found⟩
      rintro descriptor ⟨source, there, -⟩
      cases found.symm.trans there
  | ok source =>
      cases parsed : Descriptor.parse source with
      | error fault =>
          have keeps := world.keeps_blamed (report fault filename source)
          refine .inl ⟨_, keeps, ?_,
            fun go => run_withDescriptor_of_unparsed report go found parsed⟩
          rintro descriptor ⟨other, there, parses⟩
          cases found.symm.trans there
          cases parsed.symm.trans parses
      | ok descriptor => exact .inr ⟨descriptor, source, found, parsed⟩

end Reading

section Commands
variable (filename : Text) (world : World)

/-- A descriptor passes its check exactly if it can be made into fragments. -/
theorem runCheck_cases :
    (∃ after, world.Keeps after ∧
      (∀ descriptor fragments, ¬ world.tree.Describes filename descriptor fragments) ∧
      (runCheck filename : StateM World _).run world = (.failed, after)) ∨
    ∃ descriptor fragments after, world.tree.Describes filename descriptor fragments ∧
      world.Keeps after ∧ (runCheck filename : StateM World _).run world = (.done, after) := by
  let record : Log.Record :=
    ⟨.information, "macrofor".toList, .message ("Checking file: ".toList ++ filename)⟩
  have start : ∀ f : Unit → StateM World Ending,
      StateT.run (Host.inform "macrofor" ("Checking file: ".toList ++ filename) >>= f) world =
        (f ()).run (world.noted record) := fun _ => rfl
  rw [runCheck, start]
  rcases withDescriptor_cases filename (world.noted record) Report.parsingFaultInFull with
    ⟨after, keeps, none, ran⟩ | ⟨descriptor, there⟩
  · refine .inl ⟨after, (world.keeps_noted record).trans keeps, ?_, ran _⟩
    exact fun descriptor _ describes => none descriptor describes.parsed
  · have known := (world.keeps_noted record).trans (World.keeps_noted _ (census descriptor))
    rw [run_withDescriptor_of_parsed _ _ there]
    cases composed : descriptor.fragments with
    | error refusal =>
        refine .inl ⟨_, known.trans (World.keeps_blamed _ _), ?_, World.run_fail _ _⟩
        intro other fragments describes
        cases there.unique describes.parsed
        cases composed.symm.trans describes.composed
    | ok fragments => exact .inr ⟨descriptor, fragments, _, ⟨there, composed⟩, known, rfl⟩

def emissionRecord (emission : Emission) : Log.Record :=
  ⟨.detail, "macrofor".toList, .value "emission".toList emission.record⟩

/-- What is chosen plays no part until there are fragments, and then only what is delivered,
and how, is left to do. -/
theorem runGenerate_cases :
    (∃ after, world.Keeps after ∧
      (∀ descriptor fragments, ¬ world.tree.Describes filename descriptor fragments) ∧
      ∀ choices, (runGenerate filename choices : StateM World _).run world = (.failed, after)) ∨
    ∃ descriptor fragments ready, world.tree.Describes filename descriptor fragments ∧
      world.Keeps ready ∧
      ∀ choices, (runGenerate filename choices : StateM World _).run world =
        (deliver filename fragments (descriptor.emission filename choices) choices :
            StateM World _).run
          (ready.noted (emissionRecord (descriptor.emission filename choices))) := by
  let record : Log.Record :=
    ⟨.information, "macrofor".toList, .message ("Generating from file: ".toList ++ filename)⟩
  have start : ∀ f : Unit → StateM World Ending,
      StateT.run (Host.inform "macrofor" ("Generating from file: ".toList ++ filename) >>= f)
          world =
        (f ()).run (world.noted record) := fun _ => rfl
  simp only [runGenerate, start]
  rcases withDescriptor_cases filename (world.noted record) Report.parsingFault with
    ⟨after, keeps, none, ran⟩ | ⟨descriptor, there⟩
  · refine .inl ⟨after, (world.keeps_noted record).trans keeps, ?_, fun _ => ran _⟩
    exact fun descriptor _ describes => none descriptor describes.parsed
  · have known := (world.keeps_noted record).trans (World.keeps_noted _ (census descriptor))
    simp only [run_withDescriptor_of_parsed _ _ there]
    cases composed : descriptor.fragments with
    | error refusal =>
        refine .inl ⟨_, known.trans (World.keeps_blamed _ _), ?_, fun _ => World.run_fail _ _⟩
        intro other fragments describes
        cases there.unique describes.parsed
        cases composed.symm.trans describes.composed
    | ok fragments =>
        refine .inr ⟨descriptor, fragments, _, ⟨there, composed⟩, known, fun choices => ?_⟩
        have logged := World.run_note ((world.noted record).noted (census descriptor))
          (emissionRecord (descriptor.emission filename choices))
        dsimp only
        rw [World.run_bind]
        exact congrArg _ (congrArg Prod.snd logged)

end Commands

section Delivering
variable (filename : Text) (fragments : List Fragment) (emission : Emission) (world : World)
  {choices : CommandLine.Choices}

def refusalReport (refusal : Refusal) (filename : Text) : Text :=
  Report.generation refusal.complaint none filename

theorem run_deliver_printed (unasked : choices.output = none) :
    (deliver filename fragments emission choices : StateM World _).run world =
      match printedBytes fragments emission choices.coloured with
      | .error refusal => (.failed, world.blamed (refusalReport refusal filename))
      | .ok content => (.done, world.print content) := by
  rw [deliver, unasked]
  dsimp only
  cases printedBytes fragments emission choices.coloured <;> rfl

theorem run_deliver_stored {path : Text} (asked : choices.output = some path) :
    (deliver filename fragments emission choices : StateM World _).run world =
      match (emit path fragments emission : StateM World _).run world with
      | (.error failure, after) =>
        (.failed, after.blamed (Report.generation failure.complaint failure.path? filename))
      | (.ok _, after) => (.done, after) := by
  rw [deliver, asked]
  dsimp only
  rw [World.run_bind]
  rcases (emit path fragments emission : StateM World _).run world with ⟨_ | _, after⟩ <;> rfl

end Delivering

/-- A run that has something to do begins to log, and does it. -/
theorem run_of_act {surroundings : Surroundings} {arguments : List Text} {verbose : Bool}
    {action : CommandLine.Action}
    (h : CommandLine.request surroundings.width arguments = .act verbose action) (world : World) :
    (run surroundings arguments : StateM World _).run world =
      (runAction action : StateM World _).run { world with
        log := some ⟨Log.Filter.choose verbose surroundings.filter, surroundings.coloured⟩ } := by
  rw [run, h]
  rfl

end FortranWriter
