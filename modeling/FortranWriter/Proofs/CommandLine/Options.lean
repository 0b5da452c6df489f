import FortranWriter.Proofs.CommandLine.Addition
/-! The options of the command for generating that are looked at when text is printed: colours, and
a file to write to instead. Each can be added to any command line that leaves it open. -/
namespace FortranWriter.CommandLine
open Success

namespace Addition
variable {x : Addition}

section Generating
variable {width : Nat} {rest given : List Text} {verbose : Bool} {filename : Text}
    {choices : Choices}

/-- An option for generating that is given in front of all other arguments. -/
theorem request_generate_taken (commutes : x.CommutesWith generate) {start : Reading}
    (related : x.Related {} start)
    (leads : readArguments generate [] (given ++ rest) {} = readArguments generate [] rest start)
    (kept : ∀ c, (x.choose c).verbose = c.verbose ∧ (x.choose c).filename = c.filename)
    (h : request width ("generate".toList :: rest) = .act verbose (.generate filename choices))
    (free : x.isChosen choices = false) :
    request width ("generate".toList :: (given ++ rest)) =
      .act verbose (.generate filename (x.choose choices)) := by
  obtain ⟨after, next, read, rfl, rfl, named⟩ := request_generate_eq_act_iff.mp h
  obtain ⟨-, goes⟩ := readArguments_taken commutes (ready_of_idle rfl) read free
  refine request_generate_eq_act_iff.mpr ⟨x.taken after, next, ?_, rfl, (kept _).1, ?_⟩
  · rw [leads, goes start related]
  · exact (kept _).2.trans named

end Generating

section Readers
variable {name shown : Text}

theorem commutes_turnOn {choose : Choices → Choices} (h : x.Allows name choose) :
    x.Commutes ⟨name, shown, fun _ => .ok choose⟩ := by
  intro value f read
  cases read
  exact h

theorem commutes_path {choose : Text → Choices → Choices}
    (h : ∀ given, x.Allows name (choose given)) :
    x.Commutes ⟨name, shown, path choose⟩ := by
  intro value f read
  dsimp only [path] at read
  split at read <;> cases read
  exact h value

theorem commutes_named {α : Type} {ofName? : Text → Option α} {unknown : Text → Text}
    {choose : α → Choices → Choices} (h : ∀ a, x.Allows name (choose a)) :
    x.Commutes ⟨name, shown, named ofName? unknown choose⟩ := by
  intro value f read
  dsimp only [named] at read
  split at read <;> cases read
  exact h _

theorem commutes_count {choose : Nat → Choices → Choices} (h : ∀ n, x.Allows name (choose n)) :
    x.Commutes ⟨name, shown, count choose⟩ := by
  intro value f read
  dsimp only [count] at read
  split at read <;> cases read
  exact h _

end Readers

theorem commutesWith_generate
    (output : ∀ given, x.Allows "output".toList fun c => { c with output := some given })
    (form : ∀ form, x.Allows "style".toList fun c => { c with form := some form })
    (ending : ∀ ending, x.Allows "line-ending".toList fun c => { c with lineEnding := some ending })
    (encoding : ∀ encoding,
      x.Allows "encoding".toList fun c => { c with encoding := some encoding })
    (length : ∀ n, x.Allows "max-line-length".toList fun c => { c with maxLineLength := some n })
    (colour : x.Allows "raw-control-chars".toList fun c => { c with coloured := true })
    (verbose : x.Allows "verbose".toList fun c => { c with verbose := true })
    (file : ∀ given, x.Allows "filename".toList fun c => { c with filename := some given }) :
    x.CommutesWith generate := by
  constructor
  · simp only [generate, commonSwitches, List.cons_append, List.nil_append, List.forall_mem_cons,
      takers, List.not_mem_nil, false_imp_iff, implies_true, and_true]
    exact ⟨commutes_path output, commutes_named form, commutes_named ending,
      commutes_named encoding, commutes_count length, commutes_turnOn colour,
      commutes_turnOn verbose⟩
  · intro o found
    cases found
    exact commutes_path file

end Addition

open Addition

/-- Colours, whether or not they are looked at. -/
def colours : Addition :=
  ⟨"raw-control-chars".toList, fun c => { c with coloured := true }, Choices.coloured⟩

theorem colours_commute : colours.CommutesWith generate := by
  apply commutesWith_generate
  case colour => exact .inl fun _ => rfl
  case verbose => exact .inr ⟨by decide, fun _ => rfl, fun _ => rfl⟩
  all_goals exact fun _ => .inr ⟨by decide, fun _ => rfl, fun _ => rfl⟩

def destination (path : Text) : Addition :=
  ⟨"output".toList, fun c => { c with output := some path }, fun c => c.output.isSome⟩

theorem destination_commutes (path : Text) : (destination path).CommutesWith generate := by
  have named : (destination path).name = "output".toList := rfl
  apply commutesWith_generate
  case output => exact fun _ => .inl fun _ => rfl
  case colour => exact .inr ⟨by rw [named]; decide, fun _ => rfl, fun _ => rfl⟩
  case verbose => exact .inr ⟨by rw [named]; decide, fun _ => rfl, fun _ => rfl⟩
  all_goals exact fun _ => .inr ⟨by rw [named]; decide, fun _ => rfl, fun _ => rfl⟩

section Options
variable {width : Nat} {rest : List Text} {verbose : Bool} {filename : Text} {choices : Choices}
  (h : request width ("generate".toList :: rest) = .act verbose (.generate filename choices))
include h

theorem request_coloured (plain : choices.coloured = false) :
    request width ("generate".toList :: "-R".toList :: rest) =
      .act verbose (.generate filename { choices with coloured := true }) := by
  have leads : readArguments generate [] (["-R".toList] ++ rest) {} =
      readArguments generate [] rest (colours.taken {}) := by
    rw [List.cons_append, List.nil_append, readArguments_cons]
    rfl
  have added :=
    request_generate_taken colours_commute (.taken {}) leads (fun _ => ⟨rfl, rfl⟩) h plain
  exact added

/-- The ways to ask for a file to write to. -/
inductive AsksFor (path : Text) : List Text → Prop
  | apart {option} : option ∈ ["-o".toList, "--output".toList] → Shape.of path = .plain →
      AsksFor path [option, path]
  | together : AsksFor path ["--output=".toList ++ path]

theorem request_stored {path : Text} {given : List Text} (asks : AsksFor path given)
    (filled : path ≠ []) (unasked : choices.output = none) :
    request width ("generate".toList :: (given ++ rest)) =
      .act verbose (.generate filename { choices with output := some path }) := by
  obtain ⟨c, behind, rfl⟩ := List.exists_cons_of_ne_nil filled
  have free : (destination (c :: behind)).isChosen choices = false :=
    Option.isSome_eq_false_iff.mpr (Option.isNone_iff_eq_none.mpr unasked)
  have kept : ∀ other : Choices,
      ((destination (c :: behind)).choose other).verbose = other.verbose ∧
      ((destination (c :: behind)).choose other).filename = other.filename := fun _ => ⟨rfl, rfl⟩
  cases asks with
  | @apart option known plain =>
      let taker : Taker := ⟨"output".toList, "--output <output>".toList,
        CommandLine.path fun given choices => { choices with output := some given }⟩
      have related : (destination (c :: behind)).Related {}
          { waiting := some ⟨taker, some (c :: behind)⟩ } := .waiting rfl rfl rfl rfl
      refine request_generate_taken (destination_commutes _) related ?_ kept h free
      have first : ∀ others, takeOne generate option others {} =
          .ok { waiting := some ⟨taker, none⟩ } := by
        rcases List.mem_cons.mp known with rfl | known
        · exact fun _ => rfl
        · cases List.mem_singleton.mp known
          exact fun _ => rfl
      have second :
          ∀ others, takeOne generate (c :: behind) others { waiting := some ⟨taker, none⟩ } =
            .ok { waiting := some ⟨taker, some (c :: behind)⟩ } := by
        intro others
        rw [takeOne, plain]
        rfl
      rw [List.cons_append, List.cons_append, List.nil_append, readArguments_cons, first]
      dsimp only [bind, Except.bind]
      rw [readArguments_cons, second]
      rfl
  | together =>
      refine request_generate_taken (destination_commutes _) (.taken {}) ?_ kept h free
      have glued : ∀ others, takeOne generate ("--output=".toList ++ c :: behind) others {} =
          .ok ((destination (c :: behind)).taken {}) := fun _ => rfl
      rw [List.cons_append, readArguments_cons, glued]
      rfl

end Options

end FortranWriter.CommandLine
