import FortranWriter.Proofs.Assembly.Run
import FortranWriter.Proofs.Label
import FortranWriter.Proofs.Wording
/-! Labels as they are read off assembled fragments: both ends of a construct carry the same one,
and in source order they are the sequence that the supply starts. -/
namespace FortranWriter.Assembly

/-- The number that is written in a text behind one text and in front of another. -/
def numberIn? (lead follow t : Text) : Option Nat :=
  if lead.isPrefixOf t then
    let rest := t.drop lead.length
    if !(rest.takeWhile Char.isDigit).isEmpty &&
        follow.isPrefixOf (rest.dropWhile Char.isDigit) then
      some (Decimal.toNat (rest.takeWhile Char.isDigit))
    else none
  else none

theorem numberIn?_append (lead : Text) {follow : Text} {n : Nat} (rest : Text)
    (stop : ∀ c, (follow ++ rest).head? = some c → c.isDigit = false) :
    numberIn? lead follow (lead ++ (Decimal.ofNat n ++ (follow ++ rest))) = some n := by
  have digits : ∀ c ∈ Decimal.ofNat n, c.isDigit = true := fun c => Decimal.isDigit_of_mem_ofNat
  rw [numberIn?, if_pos (List.isPrefixOf_iff_prefix.mpr (List.prefix_append _ _))]
  simp only [List.drop_left, Text.takeWhile_of_stop digits stop, Text.dropWhile_of_stop digits stop]
  rw [if_pos, Decimal.toNat_ofNat]
  rw [Bool.and_eq_true, Bool.not_eq_true', List.isEmpty_eq_false_iff]
  exact ⟨Decimal.ofNat_ne_nil n, List.isPrefixOf_iff_prefix.mpr (List.prefix_append _ _)⟩

/-- A construct that took a label, the label its opener refers to and the one its closer carries. -/
structure Mark where
  construct : Statement
  opening : Nat
  closing : Nat

/-- The mark of a construct, its ends being read at the places where its label has to stand. -/
def mark? : Statement → Text → Text → Option Mark
  | loop@(.doLoop index _ _ _ _), opener, closer => do
    let opening ← numberIn? "do ".toList (' ' :: (index ++ " = ".toList)) opener
    let closing ← numberIn? [] " continue".toList closer
    return ⟨loop, opening, closing⟩
  | transfer@(.transfer direction unit _ _ _), opener, closer => do
    let opening ← numberIn? (direction.keyword ++ "(".toList ++ unit ++ ", ".toList) [')'] opener
    let closing ← numberIn? [] " format(".toList closer
    return ⟨transfer, opening, closing⟩
  | _, _, _ => none

mutual

/-- The marks of a statement in the fragment that it became, from the first opener on. -/
def marks : Statement → Fragment → Option (List Mark)
  | loop@(.doLoop _ _ _ _ body), .block [.line opener, .body inner, .line closer] => do
    let mark ← mark? loop opener closer
    let nested ← marksOfAll body inner
    return mark :: nested
  | transfer@(.transfer _ _ _ (some _) _), .block [.line opener, .line closer] => do
    let mark ← mark? transfer opener closer
    return [mark]
  | .ifThen _ body none, .block [.line _, .body inner, .line _] => marksOfAll body inner
  | .ifThen _ body (some otherwise),
      .block [.line _, .body inner, .line _, .body other, .line _] => do
    let first ← marksOfAll body inner
    let second ← marksOfAll otherwise other
    return first ++ second
  | .program _ body, .block [.line _, .body inner, .line _]
  | .subroutine _ _ body, .block [.line _, .body inner, .line _]
  | .function _ _ _ body, .block [.line _, .body inner, .line _]
  | .openFile _ _ _ body, .block [.line _, .body inner, .line _] => marksOfAll body inner
  | _, _ => some []

def marksOfAll : List Statement → List Fragment → Option (List Mark)
  | [], [] => some []
  | s :: rest, f :: fragments => do
    let first ← marks s f
    let others ← marksOfAll rest fragments
    return first ++ others
  | _, _ => none

end

mutual

/-- The constructs that take a label: loops, and transfers with a list of formats. A loop stands
before the constructs in it. -/
def labelled : Statement → List Statement
  | loop@(.doLoop _ _ _ _ body) => loop :: labelledOfAll body
  | transfer@(.transfer _ _ _ (some _) _) => [transfer]
  | .ifThen _ body none => labelledOfAll body
  | .ifThen _ body (some otherwise) => labelledOfAll body ++ labelledOfAll otherwise
  | .program _ body | .subroutine _ _ body | .function _ _ _ body | .openFile _ _ _ body =>
    labelledOfAll body
  | _ => []

def labelledOfAll : List Statement → List Statement
  | [] => []
  | s :: rest => labelled s ++ labelledOfAll rest

end

theorem marks_of_leaf? {s : Statement} {made : Except Refusal Text} (view : leaf? s = some made)
    (text : Text) : marks s (.line text) = some [] ∧ labelled s = [] := by
  cases s with
  | transfer direction unit label formats operands =>
      cases formats with
      | none =>
          exact ⟨rfl, rfl⟩
      | some formats => cases view
  | verbatim | ifThen | doLoop | program | subroutine | function | openFile => cases view
  | call | assign | declare | common | parameter | implicitNone | comment | continueAt | goto
  | ifGoto | returnLine | stop | closeFile | format =>
      exact ⟨rfl, rfl⟩

theorem marks_of_enclosure? {s : Statement} {body : List Statement}
    {made : Except Refusal (Text × Text)} (view : enclosure? s = some (body, made))
    (opener closer : Text) (inner : List Fragment) :
    marks s (Construct.enclose opener inner closer) = marksOfAll body inner ∧
      labelled s = labelledOfAll body := by
  rw [Construct.enclose]
  cases Enclosure.of_view view <;> exact ⟨rfl, rfl⟩

theorem number_continueAt (label : Label) :
    numberIn? [] " continue".toList (Wording.continueAt label) = some label.number :=
  numberIn?_append [] [] (fun c h => by cases h; decide)

theorem number_format {label : Label} {descriptors : List Text} {t : Text}
    (h : Wording.format label descriptors = .ok t) :
    numberIn? [] " format(".toList t = some label.number := by
  obtain ⟨_, _, rfl⟩ := Wording.format_eq_ok_iff.mp h
  rw [List.append_assoc, List.append_assoc]
  exact numberIn?_append [] _ (fun c h => by cases h; decide)

theorem number_doHeader {label : Label} {index t : Text} {start finish : Bound}
    {step : Option Bound} (h : Wording.doHeader (some label) index start finish step = .ok t) :
    numberIn? "do ".toList (' ' :: (index ++ " = ".toList)) t = some label.number := by
  obtain ⟨_, s, _, f, _, c, _, rfl⟩ := Wording.doHeader_eq_ok_iff.mp h
  have parted :
      "do ".toList ++ Wording.labelClause [] [' '] (some label) ++ index ++ " = ".toList ++
      s ++ ", ".toList ++ f ++ c = "do ".toList ++ (Decimal.ofNat label.number ++
        ((' ' :: (index ++ " = ".toList)) ++ (s ++ ", ".toList ++ f ++ c))) := by
    simp only [Wording.labelClause, Label.text, List.nil_append, List.append_assoc,
      List.cons_append]
  rw [parted]
  exact numberIn?_append _ _ (fun c h => by cases h; decide)

theorem number_transfer {direction : Wording.Transfer} {unit t : Text} {label : Label}
    {operands : List Text} (h : Wording.transfer direction unit (some label) operands = .ok t) :
    numberIn? (direction.keyword ++ "(".toList ++ unit ++ ", ".toList) [')'] t =
      some label.number := by
  obtain ⟨_, _, rfl⟩ := Wording.transfer_eq_ok_iff.mp h
  have parted : direction.keyword ++ "(".toList ++ unit ++
      Wording.labelClause ", ".toList [] (some label) ++ ")".toList ++
      Wording.operandText operands =
      direction.keyword ++ "(".toList ++ unit ++ ", ".toList ++ (Decimal.ofNat label.number ++
        ([')'] ++ Wording.operandText operands)) := by
    simp only [Wording.labelClause, Label.text, List.append_nil, List.append_assoc]
    rfl
  rw [parted]
  exact numberIn?_append _ _ (fun c h => by cases h; decide)

theorem marks_of_loop {label : Label} {index opener : Text} {start finish : Bound}
    {step : Option Bound} {body : List Statement} {inner : List Fragment} {found : List Mark}
    (header : Wording.doHeader (some label) index start finish step = .ok opener)
    (nested : marksOfAll body inner = some found) :
    marks (.doLoop index start finish step body)
        (Construct.enclose opener inner (Wording.continueAt label)) =
      some (⟨.doLoop index start finish step body, label.number, label.number⟩ :: found) := by
  rw [Construct.enclose, marks, mark?, number_doHeader header, number_continueAt, nested]
  rfl

theorem marks_of_formatted {label : Label} {direction : Wording.Transfer}
    {unit opener closer : Text} {given : Option Text} {formats operands : List Text}
    (worded : Wording.transfer direction unit (some label) operands = .ok opener)
    (formatted : Wording.format label formats = .ok closer) :
    marks (.transfer direction unit given (some formats) operands)
        (.block [.line opener, .line closer]) =
      some [⟨.transfer direction unit given (some formats) operands,
        label.number, label.number⟩] := by
  rw [marks, mark?, number_transfer worded, number_format formatted]
  rfl

/-- Marks whose labels were taken from a supply one after the other: the constructs they are of, the
next labels of the supply on the openers, and the same on the closers. -/
structure Reads (supply : LabelSupply) (constructs : List Statement) (found : List Mark)
    (after : LabelSupply) : Prop where
  constructs : found.map Mark.construct = constructs
  drawn : supply.Draws (found.map Mark.opening) after
  paired : found.map Mark.closing = found.map Mark.opening

namespace Reads
variable {supply middle after : LabelSupply} {these those : List Statement}
    {found others : List Mark}

theorem nil : Reads supply [] [] supply :=
  ⟨rfl, .nil, rfl⟩

theorem cons {label : Label} (s : Statement) (taken : supply.take = .ok (label, middle))
    (h : Reads middle these found after) :
    Reads supply (s :: these) (⟨s, label.number, label.number⟩ :: found) after where
  constructs := by rw [List.map_cons, h.constructs]
  drawn := .cons taken h.drawn
  paired := by rw [List.map_cons, List.map_cons, h.paired]

theorem append (first : Reads supply these found middle)
    (second : Reads middle those others after) :
    Reads supply (these ++ those) (found ++ others) after where
  constructs := by rw [List.map_append, first.constructs, second.constructs]
  drawn := by
    rw [List.map_append]
    exact first.drawn.append second.drawn
  paired := by rw [List.map_append, List.map_append, first.paired, second.paired]

end Reads

/-- The fragments of a tree can be read, and tell which labels it took. -/
def Marked (supply : LabelSupply) (tree : List Statement) (fragments : List Fragment)
    (after : LabelSupply) : Prop :=
  ∃ found, marksOfAll tree fragments = some found ∧ Reads supply (labelledOfAll tree) found after

theorem Marked.cons {supply middle after : LabelSupply} {s : Statement} {rest : List Statement}
    {f : Fragment} {fragments : List Fragment} (found : List Mark) (here : marks s f = some found)
    (first : Reads supply (labelled s) found middle) (behind : Marked middle rest fragments after) :
    Marked supply (s :: rest) (f :: fragments) after := by
  obtain ⟨others, there, second⟩ := behind
  refine ⟨found ++ others, ?_, first.append second⟩
  rw [marksOfAll, here, there]
  rfl

/-- Every assembly takes its labels in source order and writes each at both
ends of its construct. -/
theorem Run.marked {supply after : LabelSupply} {tree : List Statement} {fragments : List Fragment}
    (h : Run supply tree fragments after) : Marked supply tree fragments after := by
  induction h with
  | nil => exact ⟨[], rfl, .nil⟩
  | leaf view _ ih =>
      obtain ⟨here, none⟩ := marks_of_leaf? view _
      exact .cons [] here (none ▸ .nil) ih
  | verbatim _ ih => exact .cons [] rfl .nil ih
  | enclosed view _ _ inside ih =>
      obtain ⟨found, nested, first⟩ := inside
      obtain ⟨here, constructs⟩ := marks_of_enclosure? view _ _ _
      exact .cons found (here.trans nested) (constructs ▸ first) ih
  | divided _ _ _ _ inside opposite ih =>
      obtain ⟨found, nested, first⟩ := inside
      obtain ⟨others, opposed, second⟩ := opposite
      refine .cons (found ++ others) ?_ ?_ ih
      · rw [marks, nested, opposed]; rfl
      · rw [labelled]; exact first.append second
  | loop taken header _ _ inside ih =>
      obtain ⟨found, nested, first⟩ := inside
      refine .cons _ (marks_of_loop header nested) ?_ ih
      rw [labelled]
      exact first.cons _ taken
  | formatted taken worded formatted _ ih =>
      refine .cons _ (marks_of_formatted worded formatted) ?_ ih
      rw [labelled]
      exact Reads.nil.cons _ taken

/-- From an accepted supply, the constructs that take a label carry the first number and those that
follow it at the distance of the supply, in source order, at both ends; no two of them share a
label, and the supply is left where the sequence goes on. -/
theorem labels_in_source_order {first step : Nat} {supply after : LabelSupply}
    {tree : List Statement} {fragments : List Fragment}
    (accepted : LabelSupply.starting first step = .ok supply)
    (assembled : (statements tree).run.run supply = (.ok fragments, after)) :
    ∃ found, marksOfAll tree fragments = some found ∧
      found.map Mark.construct = labelledOfAll tree ∧
      found.map Mark.opening = (List.range found.length).map (fun i => first + i * step) ∧
      found.map Mark.closing = found.map Mark.opening ∧
      (found.map Mark.opening).Nodup ∧
      (∀ mark ∈ found, 1 ≤ mark.opening ∧ mark.opening ≤ 99999) ∧
      after = ⟨min (first + found.length * step) LabelSupply.ceiling, step⟩ := by
  obtain ⟨found, read, reads⟩ := (Run.of_statements tree assembled).marked
  have drawn := reads.drawn
  rw [LabelSupply.starting_eq_later accepted] at drawn
  obtain ⟨numbers, rest⟩ := drawn.eq_range'
  rw [List.length_map, ← List.range_eq_range'] at numbers
  rw [List.length_map, Nat.zero_add] at rest
  refine ⟨found, read, reads.constructs, numbers, reads.paired, ?_, ?_, rest⟩
  · rw [numbers]
    exact LabelSupply.nodup_of_starting accepted found.length
  · intro mark here
    exact drawn.mem_range mark.opening (List.mem_map_of_mem here)

/-- Loops in each other around a formatted write, and a condition with a labelled
construct on either side. -/
def nested : List Statement :=
  [.doLoop "i".toList (.integer 1) (.integer 9) none
      [.doLoop "j".toList (.integer 1) (.expression "i".toList) none
        [.transfer .write "6".toList none (some ["I3".toList]) ["j".toList]]],
    .ifThen "x > 0".toList [.transfer .read "5".toList none (some ["F8.3".toList]) ["x".toList]]
      (some [.doLoop "k".toList (.integer 9) (.integer 1) (some (.integer (-1))) [.stop]])]

theorem labels_in_source_order_nested :
    LabelSupply.starting 10 7 = .ok ⟨10, 7⟩ ∧
    ∃ fragments, (statements nested).run.run ⟨10, 7⟩ = (.ok fragments, ⟨45, 7⟩) ∧
      ∃ found, marksOfAll nested fragments = some found ∧
        found.map Mark.opening = [10, 17, 24, 31, 38] ∧
        found.map Mark.closing = [10, 17, 24, 31, 38] := by
  have accepted : LabelSupply.starting 10 7 = .ok ⟨10, 7⟩ := rfl
  have assembled : ∃ fragments, (statements nested).run.run ⟨10, 7⟩ = (.ok fragments, ⟨45, 7⟩) :=
    ⟨_, rfl⟩
  obtain ⟨fragments, assembled⟩ := assembled
  obtain ⟨found, read, constructs, numbers, paired, _⟩ := labels_in_source_order accepted assembled
  have count : found.length = 5 := by
    rw [← List.length_map Mark.construct, constructs]
    rfl
  rw [count] at numbers
  exact ⟨accepted, fragments, assembled, found, read, numbers, paired.trans numbers⟩

end FortranWriter.Assembly
