import FortranWriter.Proofs.Terminal
/-! How a terminal shows what comes next, by the sequences that it has passed. -/
namespace FortranWriter.Terminal

/-- How text is shown: in the colour that some parameters select or in none, in bold, in italics. -/
structure Mode where
  colour : Option Text := none
  bold : Bool := false
  italic : Bool := false
deriving DecidableEq, Repr

def Mode.plain : Mode := {}

/-- The mode behind a sequence. What is none of those for a weight or an end selects a colour. -/
def Mode.after (mode : Mode) (parameters : Text) : Mode :=
  if parameters = [] ∨ parameters = ['0'] then .plain
  else if parameters = ['1'] then { mode with bold := true }
  else if parameters = ['3'] then { mode with italic := true }
  else if parameters = ['3', '9'] then { mode with colour := none }
  else { mode with colour := some parameters }

def modeFrom : Nat → Mode → Text → Mode
  | _, mode, [] => mode
  | passed + 1, mode, _ :: rest => modeFrom passed mode rest
  | 0, mode, c :: rest =>
    match tailLength? (c :: rest) with
    -- of the tail the first character is the bracket, the last the letter
    | some n => modeFrom n (mode.after ((rest.take (n - 1)).drop 1)) rest
    | none => modeFrom 0 mode rest

def modeAfter : Text → Mode :=
  modeFrom 0 .plain

theorem modeFrom_length (t : Text) (mode : Mode) (rest : Text) :
    modeFrom t.length mode (t ++ rest) = modeFrom 0 mode rest := by
  induction t with
  | nil => rfl
  | cons c t ih => exact ih

/-- A text that leads from a mode to another, whatever it may stand in front of. -/
def Leads (shown : Text) (first last : Mode) : Prop :=
  ∀ rest, modeFrom 0 first (shown ++ rest) = modeFrom 0 last rest

variable {first middle last mode : Mode}

theorem Leads.modeAfter {shown : Text} (h : Leads shown .plain last) : modeAfter shown = last := by
  have whole := h []
  rw [List.append_nil] at whole
  exact whole

theorem leads_nil (mode : Mode) : Leads [] mode mode :=
  fun _ => rfl

theorem Leads.append {front back : Text} (h : Leads front first middle)
    (more : Leads back middle last) :
    Leads (front ++ back) first last := by
  intro rest
  rw [List.append_assoc, h, more]

theorem leads_sequence {parameters : Text} (h : parameters.all isParameter = true) (mode : Mode) :
    Leads (sequence parameters) mode (mode.after parameters) := by
  intro rest
  have found :
      (('[' :: parameters ++ ['m'] ++ rest).take (('[' :: parameters ++ ['m']).length - 1)).drop 1
      = parameters := by
    rw [List.append_assoc, List.length_append, List.length_singleton, Nat.add_sub_cancel,
      List.take_left]
    rfl
  rw [sequence_append, modeFrom, tailLength?_sequence h]
  dsimp only
  rw [found]
  exact modeFrom_length _ _ rest

/-- A text that no sequence begins in changes nothing. -/
theorem leads_of_bare {t : Text} (bare : escape ∉ t) (mode : Mode) : Leads t mode mode := by
  intro rest
  induction t with
  | nil => rfl
  | cons c t ih =>
      rw [List.mem_cons, not_or] at bare
      rw [List.cons_append, modeFrom, tailLength?_of_ne bare.1]
      exact ih bare.2

end FortranWriter.Terminal
