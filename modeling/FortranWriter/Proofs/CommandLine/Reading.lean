import FortranWriter.CommandLine.Request
import FortranWriter.Proofs.Success
/-! What reading arguments comes to: one argument after the other, and a request made of what they
choose. -/
namespace FortranWriter.CommandLine
open Success

section Steps
variable {r after : Reading} (command : Command) (leads : List Command)

theorem accept_waiting {taker : Taker} {value : Text} (h : r.accept taker value = (after, none)) :
    after.waiting = r.waiting := by
  unfold Reading.accept at h
  split at h
  · cases h
  · dsimp only at h
    split at h <;> cases h
    rfl

theorem settle_waiting (h : r.settle = (after, none)) : after.waiting = none := by
  unfold Reading.settle at h
  split at h
  · case _ idle =>
      cases h
      exact idle
  · dsimp only at h
    split at h
    · cases h
    · exact accept_waiting h

theorem checked_eq_ok_iff {outcome : Reading × Option Cause} :
    checked command leads outcome = .ok r ↔ outcome = (r, none) := by
  rcases outcome with ⟨reading, _ | cause⟩
  · exact ⟨fun h => by cases h; rfl, fun h => by cases h; rfl⟩
  · exact ⟨fun h => (nomatch h), fun h => (nomatch h)⟩

theorem finish_waiting (h : finish command leads r = .ok after) : after.waiting = none := by
  obtain ⟨settled, settles, rest⟩ := bind_eq_ok_iff.mp h
  have idle := settle_waiting ((checked_eq_ok_iff command leads).mp settles)
  split at rest
  · cases rest
  · cases rest
    exact idle

def takeShaped (argument : Text) (rest : List Text) (shape : Shape) (r : Reading) :
    Except Stop Reading :=
  match shape with
  | .dashes => .ok { r with trailing := true }
  | .long name value => takeLong command [] name value rest r
  | .letters letters => takeLetters command [] letters r
  | .plain => takePlain command [] argument r

/-- What is done with an argument, which may stand behind two dashes. -/
def takeOne (argument : Text) (rest : List Text) (r : Reading) : Except Stop Reading :=
  if r.trailing then takeOperand command [] argument r
  else takeShaped command argument rest (Shape.of argument) r

theorem readArguments_cons (argument : Text) (rest : List Text) (r : Reading) :
    readArguments command [] (argument :: rest) r =
      takeOne command argument rest r >>= readArguments command [] rest := by
  have alone : next? [] argument r = none := by
    rw [next?]
    split <;> rfl
  rw [readArguments, alone, takeOne]
  dsimp only
  split
  · rfl
  · cases Shape.of argument <;> rfl

end Steps

section Requests
variable {width : Nat} {rest : List Text} {verbose : Bool} {filename : Text} {choices : Choices}

/-- The command for generating is asked for by its own arguments. -/
theorem request_generate_eq_act_iff :
    request width ("generate".toList :: rest) = .act verbose (.generate filename choices) ↔
      ∃ after next, readArguments generate [] rest {} = .ok (after, next) ∧
        after.choices = choices ∧ choices.verbose = verbose ∧ choices.filename = some filename := by
  have led : readArguments root commands ("generate".toList :: rest) {} =
      .ok ({}, some (generate, rest)) := rfl
  rw [request, led]
  dsimp only
  cases read : readArguments generate [] rest {} with
  | error stop =>
      refine ⟨fun h => ?_, ?_⟩
      · cases stop <;> cases h
      · rintro ⟨_, _, h, -⟩
        cases h
  | ok outcome =>
      obtain ⟨after, next⟩ := outcome
      dsimp only
      rw [Bool.false_or, actionOf]
      cases named : after.choices.filename with
      | none =>
          refine ⟨fun h => (nomatch h), ?_⟩
          rintro ⟨_, _, h, rfl, -, other⟩
          cases h
          cases named.symm.trans other
      | some filename =>
          constructor
          · intro h
            cases h
            exact ⟨after, next, rfl, rfl, rfl, named⟩
          · rintro ⟨_, _, h, rfl, rfl, other⟩
            cases h
            cases named.symm.trans other
            rfl

section Alone
variable {given : Text} (plain : Shape.of given = .plain)
include plain

/-- A file name is all that a command needs. -/
theorem readArguments_filename {command : Command}
    (takes : command.operand = some CommandLine.filename) (filled : given ≠ []) :
    readArguments command [] [given] {} =
      .ok ({ choices := { filename := some given }, used := [CommandLine.filename.name],
             filled := true }, none) := by
  obtain ⟨c, behind, rfl⟩ := List.exists_cons_of_ne_nil filled
  let taker : Taker := ⟨CommandLine.filename.name, CommandLine.filename.shown,
    CommandLine.filename.read⟩
  have first : takeOne command (c :: behind) [] {} =
      .ok { waiting := some ⟨taker, some (c :: behind)⟩, filled := true } := by
    rw [takeOne, plain]
    change takeOperand command [] (c :: behind) {} = _
    rw [takeOperand, takes]
    rfl
  rw [readArguments_cons, first]
  change readArguments command [] [] _ = _
  rw [readArguments, finish, takes]
  rfl

theorem request_check (filled : given ≠ []) :
    request width ["check".toList, given] = .act false (.check given) := by
  have led : readArguments root commands ["check".toList, given] {} =
      .ok ({}, some (check, [given])) := rfl
  rw [request, led]
  dsimp only
  rw [readArguments_filename plain rfl filled]
  rfl

theorem request_generate (filled : given ≠ []) :
    request width ["generate".toList, given] =
      .act false (.generate given { filename := some given }) :=
  request_generate_eq_act_iff.mpr ⟨_, _, readArguments_filename plain rfl filled, rfl, rfl, rfl⟩

end Alone

end Requests

end FortranWriter.CommandLine
