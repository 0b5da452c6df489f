import FortranWriter.Argument
import FortranWriter.Proofs.Text.Parts
import Mathlib.Data.Set.Function
/-! Lists of arguments as one text. Items may end in a comma, begin with a space or be empty:
as long as no item holds a comma with a space behind it, the list is found again in the text
that it is joined to. -/
namespace FortranWriter.Argument
open Text (parts Separable)

theorem parts_join_iff (items : List Text) :
    parts ", ".toList (join items) = items ↔ Separable ", ".toList items := by
  have apart : ',' ∉ [' '] := by decide
  exact Text.parts_joinWith_iff apart

theorem join_parts (t : Text) : join (parts ", ".toList t) = t :=
  Text.joinWith_parts (List.cons_ne_nil ',' [' ']) t

/-- A joined list is found again, by a cut at each comma with a space behind it, exactly if it has
an item and no item holds such a pair. No two of these lists are joined to the same text, and there
is one of them for every text. -/
theorem parts_undo_join :
    (∀ items, parts ", ".toList (join items) = items ↔ Separable ", ".toList items) ∧
      Set.BijOn join {items | Separable ", ".toList items} Set.univ := by
  have separable (t : Text) : Separable ", ".toList (parts ", ".toList t) :=
    Text.separable_parts (List.cons_ne_nil ',' [' ']) t
  have undone : Set.InvOn (parts ", ".toList) join {items | Separable ", ".toList items} Set.univ :=
    ⟨fun items mem => (parts_join_iff items).mpr mem, fun t _ => join_parts t⟩
  exact ⟨parts_join_iff, undone.bijOn (fun _ _ => Set.mem_univ _) fun t _ => separable t⟩

/-- Single commas and spaces at the edges of items do not add up to a separator. -/
example : parts ", ".toList (join ["a,".toList, " b".toList, [], ",".toList]) =
    ["a,".toList, " b".toList, [], ",".toList] := by
  decide

end FortranWriter.Argument
