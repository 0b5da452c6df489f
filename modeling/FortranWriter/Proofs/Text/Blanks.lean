import FortranWriter.Proofs.Text.Decimal
/-! Blanks at the front of a text: where a run of them stops, trimming finds the rest. -/
namespace FortranWriter

namespace Text

def BeginsFilled (t : Text) : Prop :=
  ∀ c, t.head? = some c → isBlank c = false

theorem takeWhile_of_stop {p : Char → Bool} {front rest : Text} (all : ∀ c ∈ front, p c = true)
    (stop : ∀ c, rest.head? = some c → p c = false) : (front ++ rest).takeWhile p = front := by
  rw [List.takeWhile_append_of_pos all]
  cases rest with
  | nil => exact List.append_nil front
  | cons c rest =>
      rw [List.takeWhile_cons_of_neg (Bool.eq_false_iff.mp (stop c rfl))]
      exact List.append_nil front

theorem dropWhile_of_stop {p : Char → Bool} {front rest : Text} (all : ∀ c ∈ front, p c = true)
    (stop : ∀ c, rest.head? = some c → p c = false) : (front ++ rest).dropWhile p = rest := by
  rw [List.dropWhile_append_of_pos all]
  cases rest with
  | nil => rfl
  | cons c rest =>
      exact List.dropWhile_cons_of_neg (Bool.eq_false_iff.mp (stop c rfl))

theorem isAllBlank_iff {t : Text} : t.isAllBlank = true ↔ ∀ c ∈ t, isBlank c = true :=
  List.all_eq_true

theorem leading_append {lead rest : Text} (blank : lead.isAllBlank = true)
    (filled : BeginsFilled rest) : leading (lead ++ rest) = lead :=
  takeWhile_of_stop (isAllBlank_iff.mp blank) filled

theorem trimStart_append {lead rest : Text} (blank : lead.isAllBlank = true)
    (filled : BeginsFilled rest) : trimStart (lead ++ rest) = rest :=
  dropWhile_of_stop (isAllBlank_iff.mp blank) filled

theorem leading_append_trimStart (t : Text) : leading t ++ trimStart t = t :=
  List.takeWhile_append_dropWhile

theorem leading_isAllBlank (t : Text) : (leading t).isAllBlank = true :=
  List.all_takeWhile

theorem beginsFilled_trimStart (t : Text) : BeginsFilled (trimStart t) := by
  intro c head
  have stop := List.head?_dropWhile_not isBlank t
  rw [show t.dropWhile isBlank = trimStart t from rfl, head] at stop
  exact stop

theorem beginsFilled_cons {c : Char} {t : Text} (filled : isBlank c = false) :
    BeginsFilled (c :: t) := by
  intro d head
  cases head
  exact filled

theorem isAllBlank_append (t u : Text) : isAllBlank (t ++ u) = (isAllBlank t && isAllBlank u) :=
  List.all_append

theorem length_spaces (n : Nat) : (spaces n).length = n :=
  List.length_replicate

theorem not_mem_spaces {c : Char} (other : c ≠ ' ') (n : Nat) : c ∉ spaces n :=
  fun mem => other (List.eq_of_mem_replicate mem)

theorem isAllBlank_spaces (n : Nat) : isAllBlank (spaces n) = true :=
  isAllBlank_iff.mpr fun c space => by rw [List.eq_of_mem_replicate space]; decide

theorem trimStart_spaces_append (n : Nat) (t : Text) : trimStart (spaces n ++ t) = trimStart t :=
  List.dropWhile_append_of_pos (isAllBlank_iff.mp (isAllBlank_spaces n))

end Text

theorem isBlank_of_isDigit {c : Char} (digit : c.isDigit = true) : isBlank c = false := by
  obtain ⟨low, high⟩ := Decimal.toNat_of_isDigit digit
  simp only [isBlank, Bool.or_eq_false_iff, Bool.and_eq_false_iff, decide_eq_false_iff_not,
    beq_eq_false_iff_ne, ne_eq]
  omega

end FortranWriter
