import FortranWriter.Proofs.CommandLine.Reading
/-! An option that is added to a command line: it adds its own choice to what the other arguments
choose, wherever these leave that choice open. -/
namespace FortranWriter.CommandLine
open Success

/-- An option that may be added: its name, what it chooses, and whether that has been chosen. -/
structure Addition where
  name : Text
  choose : Choices → Choices
  isChosen : Choices → Bool

namespace Addition
variable (x : Addition)

/-- Another argument either makes the choice itself or leaves it as it is, and then the order of the
two does not matter. -/
def Allows (name : Text) (f : Choices → Choices) : Prop :=
  (∀ c, x.isChosen (f c) = true) ∨
    name ≠ x.name ∧ (∀ c, f (x.choose c) = x.choose (f c)) ∧ ∀ c, x.isChosen (f c) = x.isChosen c

def Commutes (taker : Taker) : Prop :=
  ∀ value f, taker.read value = .ok f → x.Allows taker.name f

/-- What waits for a value commutes with the option. -/
def Ready (r : Reading) : Prop :=
  ∀ w, r.waiting = some w → x.Commutes w.taker

def taken (r : Reading) : Reading :=
  { r with choices := x.choose r.choices, used := x.name :: r.used }

/-- The same arguments were read without and with the option, whose value may still be waiting. -/
inductive Related : Reading → Reading → Prop
  | taken (r) : Related r (x.taken r)
  | waiting {r taker value} (fresh : r.used = []) (idle : r.waiting = none)
      (named : taker.name = x.name) (read : taker.read value = .ok x.choose) :
      Related r { r with waiting := some ⟨taker, some value⟩ }

/-- A step of reading that leaves the choice open left it open before, and does the same with the
option as without it. -/
def Follows (step : Reading → Except Stop Reading) : Prop :=
  ∀ ⦃r after : Reading⦄, x.Ready r → step r = .ok after → x.Ready after ∧
    (x.isChosen after.choices = false → x.isChosen r.choices = false ∧
      ∀ s, x.Related r s → ∃ ended, step s = .ok ended ∧ x.Related after ended)

variable {x} {r s after : Reading}

theorem ready_of_idle (idle : r.waiting = none) : x.Ready r := by
  intro w waiting
  cases idle.symm.trans waiting

theorem follows_bind {first second : Reading → Except Stop Reading} (one : x.Follows first)
    (two : x.Follows second) : x.Follows fun r => first r >>= second := by
  intro r after ready h
  obtain ⟨middle, begun, rest⟩ := bind_eq_ok_iff.mp h
  obtain ⟨between, back⟩ := one ready begun
  obtain ⟨last, there⟩ := two between rest
  refine ⟨last, fun free => ?_⟩
  obtain ⟨halfway, goes⟩ := there free
  obtain ⟨open_, starts⟩ := back halfway
  refine ⟨open_, fun s related => ?_⟩
  obtain ⟨next, began, related⟩ := starts s related
  obtain ⟨ended, finished, related⟩ := goes next related
  exact ⟨ended, bind_eq_ok_iff.mpr ⟨next, began, finished⟩, related⟩

/-- An argument is accepted as well where the option was seen before. -/
theorem accept_taken {taker : Taker} {value : Text} (commutes : x.Commutes taker)
    (h : r.accept taker value = (after, none)) (free : x.isChosen after.choices = false) :
    x.isChosen r.choices = false ∧ (x.taken r).accept taker value = (x.taken after, none) := by
  unfold Reading.accept at h ⊢
  by_cases seen : r.used.contains taker.name = true
  · rw [if_pos seen] at h
    cases h
  · rw [if_neg seen] at h
    cases read : taker.read value with
    | error fault =>
        rw [read] at h
        cases fault <;> cases h
    | ok f =>
        rw [read] at h
        cases h
        rcases commutes value f read with own | ⟨other, swap, same⟩
        · rw [own] at free
          cases free
        · have apart : ¬ (x.taken r).used.contains taker.name = true := by
            rw [taken, List.contains_cons, Bool.or_eq_true, not_or]
            exact ⟨fun eq => other (beq_iff_eq.mp eq), seen⟩
          refine ⟨(same _).symm.trans free, ?_⟩
          rw [if_neg apart]
          dsimp only [taken]
          rw [swap, List.cons_append]

/-- Once nothing waits any more, the option was seen. -/
theorem settle_related (ready : x.Ready r) (h : r.settle = (after, none))
    (free : x.isChosen after.choices = false) :
    x.isChosen r.choices = false ∧ ∀ s, x.Related r s → s.settle = (x.taken after, none) := by
  cases waiting : r.waiting with
  | none =>
      have settled : r.settle = (r, none) := by
        rw [Reading.settle, waiting]
      cases settled.symm.trans h
      refine ⟨free, fun s related => ?_⟩
      cases related with
      | taken =>
          have idle : (x.taken r).waiting = none := waiting
          rw [Reading.settle, idle]
      | waiting fresh idle named read =>
          rw [Reading.settle]
          dsimp only
          rw [Reading.accept, if_neg (by rw [fresh]; exact Bool.false_ne_true), read]
          dsimp only [taken]
          rw [fresh, named, idle]
          rfl
  | some w =>
      unfold Reading.settle at h
      rw [waiting] at h
      dsimp only at h
      cases given : w.value with
      | none =>
          rw [given] at h
          cases h
      | some value =>
          rw [given] at h
          obtain ⟨open_, accepted⟩ := accept_taken (ready w waiting) h free
          refine ⟨open_, fun s related => ?_⟩
          cases related with
          | taken =>
              have same : (x.taken r).waiting = some w := waiting
              rw [Reading.settle, same]
              dsimp only
              rw [given]
              exact accepted
          | waiting _ idle =>
              cases idle.symm.trans waiting

section Steps
variable (command : Command) (leads : List Command)

theorem follows_settled {next : Reading → Except Stop Reading}
    (rest : ∀ ⦃r after : Reading⦄, r.waiting = none → next r = .ok after → x.Ready after ∧
      (x.isChosen after.choices = false → x.isChosen r.choices = false ∧
        next (x.taken r) = .ok (x.taken after))) :
    x.Follows fun r => checked command leads r.settle >>= next := by
  intro r after ready h
  obtain ⟨settled, settles, goes⟩ := bind_eq_ok_iff.mp h
  rw [checked_eq_ok_iff] at settles
  obtain ⟨last, there⟩ := rest (settle_waiting settles) goes
  refine ⟨last, fun free => ?_⟩
  obtain ⟨halfway, went⟩ := there free
  obtain ⟨open_, same⟩ := settle_related ready settles halfway
  refine ⟨open_, fun s related => ⟨x.taken after, ?_, .taken after⟩⟩
  exact bind_eq_ok_iff.mpr ⟨x.taken settled, (checked_eq_ok_iff _ _).mpr (same s related), went⟩

def takers (switch : Switch) : List Taker :=
  match switch.effect with
  | .turnOn choose => [⟨switch.name, switch.shown, fun _ => .ok choose⟩]
  | .value read => [⟨switch.name, switch.shown, read⟩]
  | _ => []

theorem follows_takeSwitch {switch : Switch} (commutes : ∀ t ∈ takers switch, x.Commutes t)
    (value : Option Text) : x.Follows (takeSwitch command leads switch value) := by
  have accepts : ∀ {taker : Taker} {given : Text}, x.Commutes taker → ∀ ⦃r after : Reading⦄,
      r.waiting = none → checked command leads (r.accept taker given) = .ok after →
      x.Ready after ∧ (x.isChosen after.choices = false → x.isChosen r.choices = false ∧
        checked command leads ((x.taken r).accept taker given) = .ok (x.taken after)) := by
    intro taker given mine r after idle h
    rw [checked_eq_ok_iff] at h
    refine ⟨ready_of_idle ((accept_waiting h).trans idle), fun free => ?_⟩
    obtain ⟨open_, accepted⟩ := accept_taken mine h free
    exact ⟨open_, (checked_eq_ok_iff _ _).mpr accepted⟩
  refine follows_settled command leads fun r after idle h => ?_
  unfold takers at commutes
  cases effect : switch.effect with
  | showHelp =>
      rw [effect] at h
      cases h
  | showVersion =>
      rw [effect] at h
      cases h
  | turnOn choose =>
      rw [effect] at h commutes
      exact accepts (commutes _ (List.mem_singleton_self _)) idle h
  | value read =>
      rw [effect] at h commutes
      have mine := commutes _ (List.mem_singleton_self _)
      cases value with
      | some given => exact accepts mine idle h
      | none =>
          cases h
          refine ⟨fun w waiting => ?_, fun free => ⟨free, rfl⟩⟩
          cases waiting
          exact mine

theorem follows_ok : x.Follows .ok := by
  intro r after ready h
  cases h
  exact ⟨ready, fun free => ⟨free, fun s related => ⟨s, rfl, related⟩⟩⟩

theorem follows_error (stop : Reading → Stop) : x.Follows fun r => .error (stop r) :=
  fun _ _ _ h => nomatch h

section Switches
variable {command} (commutes : ∀ switch ∈ command.switches, ∀ t ∈ takers switch, x.Commutes t)
include commutes

theorem follows_takeLetters (letters : Text) : x.Follows (takeLetters command leads letters) := by
  induction letters with
  | nil => exact follows_ok
  | cons c rest ih =>
      change x.Follows fun r => takeLetters command leads (c :: rest) r
      cases found : command.switchLettered? c with
      | none =>
          simp only [takeLetters, found]
          exact follows_error _
      | some switch =>
          have each := follows_takeSwitch command leads
            (commutes switch (List.mem_of_find?_eq_some found))
          cases takes : switch.takesValue with
          | true =>
              simp only [takeLetters, found, takes, if_true]
              exact each _
          | false =>
              simp only [takeLetters, found, takes, Bool.false_eq_true, if_false]
              exact follows_bind (each none) ih

theorem follows_takeLong (name : Text) (value : Option Text) (remaining : List Text) :
    x.Follows (takeLong command leads name value remaining) := by
  unfold takeLong
  cases found : command.switchNamed? name with
  | none => exact follows_error _
  | some switch =>
      have each := follows_takeSwitch command leads
        (commutes switch (List.mem_of_find?_eq_some found))
      cases value with
      | none => exact each none
      | some given =>
          dsimp only
          split
          · exact each _
          · exact follows_error _

end Switches

theorem Related.filled_eq (related : x.Related r s) : s.filled = r.filled := by
  cases related <;> rfl

theorem Related.trailing_eq (related : x.Related r s) : s.trailing = r.trailing := by
  cases related <;> rfl

theorem follows_takeOperand
    (commutes : ∀ o, command.operand = some o → x.Commutes ⟨o.name, o.shown, o.read⟩)
    (argument : Text) : x.Follows (takeOperand command leads argument) := by
  intro r after ready h
  cases operand : command.operand with
  | none =>
      rw [takeOperand, operand] at h
      cases h
  | some o =>
      cases filled : r.filled with
      | true =>
          rw [takeOperand, operand, filled] at h
          cases h
      | false =>
          let next : Reading → Except Stop Reading := fun reading => .ok { reading with
            waiting := some ⟨⟨o.name, o.shown, o.read⟩, some argument⟩, filled := true }
          have same : ∀ s : Reading, s.filled = false → takeOperand command leads argument s =
              (checked command leads s.settle >>= next) := by
            intro s open_
            rw [takeOperand, operand, open_]
            rfl
          have step : x.Follows fun s => checked command leads s.settle >>= next := by
            refine follows_settled command leads fun r after idle h => ?_
            cases h
            refine ⟨fun w waiting => ?_, fun free => ⟨free, rfl⟩⟩
            cases waiting
            exact commutes o operand
          rw [same r filled] at h
          obtain ⟨last, there⟩ := step ready h
          refine ⟨last, fun free => ?_⟩
          obtain ⟨open_, goes⟩ := there free
          refine ⟨open_, fun s related => ?_⟩
          rw [same s (related.filled_eq.trans filled)]
          exact goes s related

theorem follows_takePlain
    (commutes : ∀ o, command.operand = some o → x.Commutes ⟨o.name, o.shown, o.read⟩)
    (argument : Text) : x.Follows (takePlain command leads argument) := by
  intro r after ready h
  by_cases waits : ∃ taker, r.waiting = some ⟨taker, none⟩
  · obtain ⟨taker, waiting⟩ := waits
    have mine := ready _ waiting
    rw [takePlain, waiting] at h
    cases h
    refine ⟨fun w given => ?_, fun free => ⟨free, fun s related => ?_⟩⟩
    · cases given
      exact mine
    · cases related with
      | taken =>
          have same : (x.taken r).waiting = some ⟨taker, none⟩ := waiting
          refine ⟨_, ?_, .taken _⟩
          rw [takePlain, same]
          rfl
      | waiting _ idle =>
          cases idle.symm.trans waiting
  · have otherwise : ∀ s : Reading, (∀ taker, s.waiting ≠ some ⟨taker, none⟩) →
        takePlain command leads argument s = takeOperand command leads argument s := by
      intro s filled
      rw [takePlain]
      split
      · case _ waiting => exact absurd waiting (filled _)
      · rfl
    rw [otherwise r fun taker waiting => waits ⟨taker, waiting⟩] at h
    obtain ⟨last, there⟩ := follows_takeOperand command leads commutes argument ready h
    refine ⟨last, fun free => ?_⟩
    obtain ⟨open_, goes⟩ := there free
    refine ⟨open_, fun s related => ?_⟩
    rw [otherwise s]
    · exact goes s related
    · intro taker waiting
      cases related with
      | taken => exact waits ⟨taker, waiting⟩
      | waiting => cases waiting

theorem follows_finish : x.Follows (finish command leads) := by
  refine follows_settled command leads fun r after idle h => ?_
  have filled : (x.taken r).filled = r.filled := rfl
  rw [filled]
  split at h
  · cases h
  · cases h
    exact ⟨ready_of_idle idle, fun free => ⟨free, rfl⟩⟩

end Steps

/-- All arguments of a command commute with the option. -/
structure CommutesWith (x : Addition) (command : Command) : Prop where
  switches : ∀ switch ∈ command.switches, ∀ t ∈ takers switch, x.Commutes t
  operand : ∀ o, command.operand = some o → x.Commutes ⟨o.name, o.shown, o.read⟩

section Arguments
variable {command : Command} (commutes : x.CommutesWith command)
include commutes

theorem follows_takeShaped (argument : Text) (rest : List Text) (shape : Shape) :
    x.Follows (takeShaped command argument rest shape) := by
  have dashed : x.Follows fun r => .ok { r with trailing := true } := by
    intro r after ready h
    cases h
    refine ⟨ready, fun free => ⟨free, fun s related => ⟨_, rfl, ?_⟩⟩⟩
    cases related with
    | taken => exact .taken { r with trailing := true }
    | waiting fresh idle named read =>
        exact .waiting (r := { r with trailing := true }) fresh idle named read
  cases shape with
  | dashes => exact dashed
  | long name value => exact follows_takeLong [] commutes.switches name value rest
  | letters letters => exact follows_takeLetters [] commutes.switches letters
  | plain => exact follows_takePlain command [] commutes.operand argument

theorem follows_takeOne (argument : Text) (rest : List Text) :
    x.Follows (takeOne command argument rest) := by
  intro r after ready h
  -- both readings are on the same side of two dashes
  cases trailing : r.trailing with
  | true =>
      rw [takeOne, trailing, if_pos rfl] at h
      obtain ⟨last, there⟩ := follows_takeOperand command [] commutes.operand argument ready h
      refine ⟨last, fun free => (there free).imp_right fun goes s related => ?_⟩
      rw [takeOne, related.trailing_eq, trailing, if_pos rfl]
      exact goes s related
  | false =>
      rw [takeOne, trailing, if_neg Bool.false_ne_true] at h
      obtain ⟨last, there⟩ :=
        follows_takeShaped commutes argument rest (Shape.of argument) ready h
      refine ⟨last, fun free => (there free).imp_right fun goes s related => ?_⟩
      rw [takeOne, related.trailing_eq, trailing, if_neg Bool.false_ne_true]
      exact goes s related

/-- What arguments choose with the option is what they choose without it, and its own choice. -/
theorem readArguments_taken {arguments : List Text} {next : Option (Command × List Text)}
    (ready : x.Ready r) (h : readArguments command [] arguments r = .ok (after, next))
    (free : x.isChosen after.choices = false) :
    x.isChosen r.choices = false ∧ ∀ s, x.Related r s →
      readArguments command [] arguments s = .ok (x.taken after, next) := by
  induction arguments generalizing r with
  | nil =>
      obtain ⟨ended, finished, made⟩ := bind_eq_ok_iff.mp h
      cases made
      obtain ⟨-, there⟩ := follows_finish command [] ready finished
      obtain ⟨open_, goes⟩ := there free
      refine ⟨open_, fun s related => ?_⟩
      obtain ⟨ended, finishes, last⟩ := goes s related
      rw [readArguments, finishes]
      cases last with
      | taken => rfl
      | waiting => cases finish_waiting command [] finishes
  | cons argument rest ih =>
      rw [readArguments_cons, bind_eq_ok_iff] at h
      obtain ⟨middle, begun, others⟩ := h
      obtain ⟨between, there⟩ := follows_takeOne commutes argument rest ready begun
      obtain ⟨halfway, goes⟩ := ih between others
      obtain ⟨open_, starts⟩ := there halfway
      refine ⟨open_, fun s related => ?_⟩
      obtain ⟨ended, began, related⟩ := starts s related
      rw [readArguments_cons, began]
      exact goes ended related

end Arguments

end Addition

end FortranWriter.CommandLine
