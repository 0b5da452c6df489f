import FortranWriter.Proofs.Fragment.Nesting
/-! The text of a fragment: it is the same whether the fragments in it were put there as they are or
had become text before. -/
namespace FortranWriter

theorem Line.render_deepen (levels : Nat) (line : Line) :
    (line.deepen levels).render = Text.spaces (levels * indentWidth) ++ line.render := by
  rw [render, render, indentation, deepen, Nat.add_mul, Text.spaces, Text.spaces, Text.spaces,
    ← List.append_assoc, List.replicate_append_replicate]
  rfl

theorem Line.render_outermost (t : Text) : Line.render ⟨0, t⟩ = t :=
  rfl

namespace Fragment

/-- A fragment with a place in it: the place alone, or a construct with one in a body. -/
inductive Holed where
  | hole
  | around (opening closing : List Part) (body : Context)

namespace Holed

def fill : Holed → Fragment → Fragment
  | hole, f => f
  | around opening closing body, f => .block (opening ++ .body (body.fill f) :: closing)

theorem linesAt_fill (s : Holed) (outer : Nat) : ∃ front back levels, ∀ f,
    (s.fill f).linesAt outer = front ++ f.linesAt levels ++ back := by
  cases s with
  | hole => exact ⟨[], [], outer, fun f => (List.append_nil _).symm⟩
  | around opening closing body =>
      obtain ⟨front, back, found⟩ := body.linesOfAll_fill (outer + 1)
      refine ⟨Part.linesOfAll outer opening ++ front, back ++ Part.linesOfAll outer closing,
        outer + 1 + body.depth, fun f => ?_⟩
      have inner : Part.linesAt outer (.body (body.fill f)) =
          front ++ f.linesAt (outer + 1 + body.depth) ++ back := found f
      simp only [fill, linesAt, Part.linesOfAll_eq_flatMap, List.flatMap_append, List.flatMap_cons,
        inner, List.append_assoc]

end Holed

section
variable {f : Fragment} (clean : ∀ t ∈ f.texts, '\r' ∉ t)
include clean

/-- At every depth a fragment that has become text shows the lines it had before. -/
theorem map_render_linesAt (depth : Nat) :
    ((ofText f.text).linesAt depth).map Line.render = (f.linesAt depth).map Line.render := by
  rw [linesAt_eq_map, linesAt_eq_map, lines_ofText_text clean, List.map_map, List.map_map,
    List.map_map]
  apply List.map_congr_left
  intro line _
  rw [Function.comp_apply, Function.comp_apply, Function.comp_apply, Line.render_deepen,
    Line.render_deepen, Line.render_outermost]

theorem map_render_fill (s : Holed) :
    (s.fill (.ofText f.text)).lines.map Line.render = (s.fill f).lines.map Line.render := by
  obtain ⟨front, back, levels, found⟩ := s.linesAt_fill 0
  rw [lines, lines, found, found]
  simp only [List.map_append, map_render_linesAt clean]

/-- A fragment is rendered the same way, and has as many lines, whether another one was put into it
as it is or as text. In particular nothing is changed by rendering what has been rendered. -/
theorem text_fill_text (s : Holed) :
    (s.fill (.ofText f.text)).text = (s.fill f).text ∧
      (s.fill (.ofText f.text)).lines.length = (s.fill f).lines.length ∧
      (ofText f.text).text = f.text := by
  have rows := map_render_fill clean s
  refine ⟨congrArg (Text.joinWith ['\n']) rows, ?_, ?_⟩
  · have sizes := congrArg List.length rows
    rw [List.length_map, List.length_map] at sizes
    exact sizes
  · exact congrArg (Text.joinWith ['\n']) (map_render_fill clean .hole)

end

/-- A loop with a blank line and an indented comment in it, put into a program in front of another
statement. -/
theorem text_fill_text_loop :
    let loop := Fragment.block [.line "do 100 i = 1, 3".toList,
      .body [.line "s = s + a(i)\n\n  ! sum".toList], .line "100 continue".toList]
    let program := Holed.around [.line "program p".toList] [.line "end".toList]
      (.between [] [.line "stop".toList])
    (program.fill (.ofText loop.text)).text = (program.fill loop).text ∧
      (program.fill loop).text =
        "program p\n  do 100 i = 1, 3\n    s = s + a(i)\n      ! sum\n".toList ++
        "  100 continue\n  stop\nend".toList ∧
      (program.fill (.ofText loop.text)).lines.length = 7 := by
  intro loop program
  have clean : ∀ t ∈ loop.texts, '\r' ∉ t := by decide
  obtain ⟨same, rows, -⟩ := text_fill_text clean program
  exact ⟨same, by decide +kernel, rows.trans (by decide +kernel)⟩

end Fragment
end FortranWriter
