import FortranWriter.Proofs.Text.OneLine
import FortranWriter.Terminal
/-! Taking escape sequences out of a text. What they stand around is left. -/
namespace FortranWriter.Terminal

def isParameter (c : Char) : Bool :=
  c.isDigit || c == ';'

/-- How much there is up to the letter that ends a sequence, behind its bracket. -/
def parametersLength? : Text → Option Nat
  | [] => none
  | 'm' :: _ => some 1
  | c :: rest => if isParameter c then (parametersLength? rest).map (· + 1) else none

/-- How much of a sequence there is behind its first character, if a text begins with one. -/
def tailLength? : Text → Option Nat
  | '\x1b' :: '[' :: rest => (parametersLength? rest).map (· + 1)
  | _ => none

def unstyledFrom : Nat → Text → Text
  | _, [] => []
  | passed + 1, _ :: rest => unstyledFrom passed rest
  | 0, c :: rest =>
    match tailLength? (c :: rest) with
    | some n => unstyledFrom n rest
    | none => c :: unstyledFrom 0 rest

/-- A text without the sequences that change how it is shown. -/
def unstyled : Text → Text :=
  unstyledFrom 0

theorem unstyledFrom_length (t rest : Text) :
    unstyledFrom t.length (t ++ rest) = unstyled rest := by
  induction t with
  | nil => rfl
  | cons c t ih => exact ih

theorem parametersLength?_append {parameters : Text} (h : parameters.all isParameter = true)
    (rest : Text) :
    parametersLength? (parameters ++ 'm' :: rest) = some (parameters.length + 1) := by
  induction parameters with
  | nil => rfl
  | cons c parameters ih =>
      rw [List.all_cons, Bool.and_eq_true] at h
      obtain ⟨first, others⟩ := h
      have apart : c ≠ 'm' := by
        rintro rfl
        cases first
      rw [List.cons_append, parametersLength?, if_pos first, ih others]
      · rfl
      · exact apart

/-- What a text is with its sequences taken out, whatever it may stand in front of. -/
def Shows (shown t : Text) : Prop :=
  ∀ rest, unstyled (shown ++ rest) = t ++ unstyled rest

theorem Shows.unstyled {shown t : Text} (h : Shows shown t) : unstyled shown = t := by
  have whole := h []
  rw [List.append_nil] at whole
  exact whole.trans (List.append_nil t)

theorem Shows.append {front back t u : Text} (first : Shows front t) (second : Shows back u) :
    Shows (front ++ back) (t ++ u) := by
  intro rest
  rw [List.append_assoc, first, second, List.append_assoc]

theorem sequence_append (parameters rest : Text) :
    sequence parameters ++ rest = escape :: ('[' :: parameters ++ ['m'] ++ rest) :=
  rfl

theorem tailLength?_sequence {parameters : Text} (h : parameters.all isParameter = true)
    (rest : Text) :
    tailLength? (escape :: ('[' :: parameters ++ ['m'] ++ rest)) =
      some ('[' :: parameters ++ ['m']).length := by
  have whole : escape :: ('[' :: parameters ++ ['m'] ++ rest) =
      '\x1b' :: '[' :: (parameters ++ 'm' :: rest) := by
    simp only [escape, List.cons_append, List.append_assoc, List.nil_append]
  rw [whole, tailLength?, parametersLength?_append h, List.length_append]
  rfl

theorem tailLength?_of_ne {c : Char} (h : escape ≠ c) (rest : Text) :
    tailLength? (c :: rest) = none := by
  unfold tailLength?
  split
  · case _ same => exact absurd (List.head_eq_of_cons_eq same).symm h
  · rfl

theorem shows_sequence {parameters : Text} (h : parameters.all isParameter = true) :
    Shows (sequence parameters) [] := by
  intro rest
  rw [sequence_append, unstyled, unstyledFrom, tailLength?_sequence h]
  exact unstyledFrom_length _ rest

/-- Nothing is taken out of a text that no sequence begins in. -/
theorem shows_of_bare {t : Text} (bare : escape ∉ t) : Shows t t := by
  intro rest
  induction t with
  | nil => rfl
  | cons c t ih =>
      rw [List.mem_cons, not_or] at bare
      rw [List.cons_append, unstyled, unstyledFrom, tailLength?_of_ne bare.1]
      exact congrArg (c :: ·) (ih bare.2)

theorem shows_between {on off : String} {shown t : Text} (first : on.toList.all isParameter = true)
    (last : off.toList.all isParameter = true) (h : Shows shown t) :
    Shows (between on off shown) t := by
  have whole := ((shows_sequence first).append h).append (shows_sequence last)
  rwa [List.nil_append, List.append_nil] at whole

end FortranWriter.Terminal
